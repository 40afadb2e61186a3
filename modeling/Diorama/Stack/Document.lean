import Diorama.Card.Document
import Diorama.GameState
import Diorama.Stack.Source
import Diorama.Text.Hex

/-!
# Loaded stacks, and what can be said of them

A stack is loaded once and kept in a table; from outside it is known by its key, its cards and its
variable names.
-/

namespace Diorama

/-! ## Loading

A stack is loaded once: its archives are opened, the ids of its cards are collected, and its variable
names are those of the first archive with a name table. The directory of ids and the look-up of a card
go different ways over the same archives; that they agree is a law, not a definition.

The resolver loads a stack when its key is first asked for and gives the same stack from then on, until
it is cleared. A load that fails leaves no trace but the count of loads, and the key is tried again when
it is asked for again. Each loaded stack carries the number of its load, so that two stacks can be told
apart even when they hold the same. -/

/-- A loaded stack. -/
structure Stack where
  key : String
  archives : List StackArchive
  cardIds : List UInt16
  variableNames : List String

namespace Stack

/-- The ids in ascending order, each once. -/
def directory (ids : List UInt16) : List UInt16 :=
  ids.mergeSort.eraseReps

/-- The names of the first archive that has a name table. -/
def firstNames (key : String) : List StackArchive → Except StackError (List String)
  | [] => .ok []
  | archive :: rest =>
    match archive.variableNames with
    | .error cause => .error (.archive key s!"{archive.label}: {cause.message}")
    | .ok (some names) => .ok names
    | .ok none => firstNames key rest

def ofArchives (key : String) (archives : List StackArchive) : Except StackError Stack := do
  let cardIds := directory (archives.flatMap (·.cardIds))
  return { key, archives, cardIds, variableNames := ← firstNames key archives }

def load (provider : Provider) (key : String) : Except StackError Stack := do
  ofArchives key (← provider.openStack key)

def variableName? (stack : Stack) (index : UInt16) : Option String :=
  stack.variableNames[index.toNat]?

/-- The octets of a card, from the first archive that has it. -/
def cardBytes (stack : Stack) (id : UInt16) : Except StackError Bytes :=
  match stack.archives.findSome? (·.card? id) with
  | some bytes => .ok bytes
  | none => .error (.cardNotFound stack.key id)

def loadCard (stack : Stack) (id : UInt16) : Except StackError CardRecord := do
  match CardRecord.decode (← stack.cardBytes id) with
  | .ok card => return card
  | .error cause => throw (.corruptCard stack.key id cause.message)

/-- The location of a card in the stack. -/
def location (stack : Stack) (id : UInt16) : Location :=
  { stack := stack.key, id }

def description (stack : Stack) : String :=
  let open_ := "Stack \x7b key: "
  s!"{open_}{Text.quoted stack.key}, archives: {stack.archives.length}, cards: {stack.cardIds.length} \x7d"

end Stack

/-- A loaded stack and the number of its load. -/
structure LoadedStack where
  serial : Nat
  stack : Stack

/-- The loaded stacks, where more come from, and how often that was asked. -/
structure Resolver where
  provider : Provider
  loads : Nat := 0
  active : SortedMap String LoadedStack := .empty

namespace Resolver

def loaded? (resolver : Resolver) (key : String) : Option LoadedStack :=
  resolver.active.get? key

/-- The keys of the loaded stacks, in order. -/
def loadedKeys (resolver : Resolver) : List String :=
  resolver.active.keys

/-- The stack under a key, loaded if it must be. -/
def resolve (resolver : Resolver) (key : String) : Except StackError LoadedStack × Resolver :=
  match resolver.loaded? key with
  | some stack => (.ok stack, resolver)
  | none =>
    let resolver := { resolver with loads := resolver.loads + 1 }
    match Stack.load resolver.provider key with
    | .error error => (.error error, resolver)
    | .ok stack =>
      let loaded : LoadedStack := { serial := resolver.loads, stack }
      (.ok loaded, { resolver with active := resolver.active.insert key loaded })

def clear (resolver : Resolver) : Resolver :=
  { resolver with active := .empty }

end Resolver

/-! ## Stacks as JSON

What can be said of a loaded stack from outside: its key, its cards, and the names of its variables. -/

open Json

def Stack.toJson (stack : Stack) : Json :=
  .record [("key", .text stack.key), ("card_ids", .words stack.cardIds),
    ("variable_names", .array (stack.variableNames.map Json.text)),
    ("debug", .text stack.description)]

end Diorama
