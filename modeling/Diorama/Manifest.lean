import Diorama.Archive
import Diorama.Card.Codec
import Diorama.Card.Document
import Diorama.Document

/-!
# Manifests

The authoring form of a whole stack: the names of its variables and its cards. Packing turns a manifest
into the resources of an archive, the name table first and the cards after it in their order; it refuses
a card id that comes twice, a card that cannot be encoded and a name table that cannot.

A card of a manifest is a card with an id beside its fields, so it must be an object, and it is
collected before it is used.
-/

namespace Diorama

/-- A card of a manifest. -/
structure ManifestCard where
  id : UInt16
  record : CardRecord
  deriving DecidableEq

/-- The variables and cards of a stack. -/
structure StackManifest where
  variableNames : List String := []
  cards : List ManifestCard := []
  deriving DecidableEq

/-- Why a manifest cannot be packed. -/
inductive PackError where
  | names (cause : FormatError)
  | repeatedCard (id : UInt16)
  | card (id : UInt16) (cause : FormatError)
  | archive (cause : ArchiveError)
  deriving DecidableEq, Repr

/-- The messages of a packing error, outermost first. -/
def PackError.causes : PackError → List String
  | .names cause => cause.causes
  | .repeatedCard id => [s!"card {id} declared more than once"]
  | .card id cause => s!"encoding card {id}" :: cause.causes
  | .archive cause => cause.causes

namespace ManifestCard

def decode : Json.Decoder ManifestCard := fun reading value => do
  let inner ← reading.enter?
  match value with
  | .object members =>
    let others := members.filter (·.1 != some "id")
    if others.all fun member => member.1.isSome && member.2.usable inner.room then
      let ids ← Json.Fields.pick? ["id"] members
      let id ← Json.Fields.required ⟨inner, ids⟩ "id" .word
      let given ← Json.Fields.pick? CardRecord.fieldNames others
      let record ← CardRecord.ofFields? ⟨{ inner with collected := true }, given⟩
      return { id, record }
    else none
  | _ => none

def toJson (card : ManifestCard) : Json :=
  match card.record.toJson with
  | .object members => .object ((some "id", .word card.id) :: members)
  | value => value

end ManifestCard

namespace StackManifest

/-- Reads a manifest. Its variables may be left out. -/
def decode : Json.Decoder StackManifest := fun reading value => do
  let fields ← Json.Fields.of? ["variables", "cards"] reading value
  return { variableNames := ← fields.optional "variables" [] (.array .text),
           cards := ← fields.required "cards" (.array ManifestCard.decode) }

def toJson (manifest : StackManifest) : Json :=
  .record [("variables", .array (manifest.variableNames.map Json.text)),
    ("cards", .array (manifest.cards.map ManifestCard.toJson))]

/-- What is said of attempts at a manifest. -/
def words : DocumentWords := ⟨"reading stack manifest ", "parsing stack manifest "⟩

/-- Loads the manifest in the file at `path`. -/
def load : String → Except FileError Bytes → Except DocumentError StackManifest :=
  loadDocument words decode

/-- The resources of cards, none of which may have an id in `seen`. -/
def cardResources (seen : List UInt16) : List ManifestCard → Except PackError (List Resource)
  | [] => .ok []
  | card :: rest => do
    if card.id ∈ seen then throw (.repeatedCard card.id)
    match card.record.encode with
    | .error cause => throw (.card card.id cause)
    | .ok data =>
      let resource : Resource := { kind := .card, id := card.id.toUInt32, data }
      return resource :: (← cardResources (card.id :: seen) rest)

/-- The resources of a stack: its name table, then its cards. -/
def pack (manifest : StackManifest) : Except PackError (List Resource) := do
  match NameTable.encode manifest.variableNames with
  | .error cause => throw (.names cause)
  | .ok data =>
    let names : Resource := { kind := .names, id := 0, data }
    return names :: (← cardResources [] manifest.cards)

def archiveBytes (manifest : StackManifest) : Except PackError Bytes := do
  match Resource.layout (← manifest.pack) with
  | .ok bytes => return bytes
  | .error cause => throw (.archive cause)

end StackManifest

end Diorama
