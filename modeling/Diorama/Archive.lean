import Diorama.Bytes
import Diorama.Document
import Diorama.Format

/-!
# Stack archives

An archive is a header, a table of entries and the data the entries point into. The header holds the
signature, the version, the number of entries and a word of padding; each entry holds a kind of four
octets, an id, an offset from the start of the file and a size. Longs lie least significant octet
first.

Parsing checks everything that reading relies on: the table lies inside the file, and so does each
entry's data. An entry may overlap another, lie over the table or be empty. Looking a resource up takes
the first entry with its kind and id.

Laying resources out puts their data behind the table in the order they were added, so offsets only
grow; it refuses what a long cannot hold.
-/

namespace Diorama

/-- The kind of a resource: four octets, by custom letters. -/
structure ResourceKind where
  a : UInt8
  b : UInt8
  c : UInt8
  d : UInt8
  deriving DecidableEq, Repr

namespace ResourceKind

def card : ResourceKind := ⟨0x43, 0x41, 0x52, 0x44⟩

def names : ResourceKind := ⟨0x4E, 0x41, 0x4D, 0x45⟩

def octets (kind : ResourceKind) : Bytes :=
  [kind.a, kind.b, kind.c, kind.d]

def label (kind : ResourceKind) : String :=
  Utf8.lossy kind.octets

end ResourceKind

/-- Why an archive cannot be read or laid out. -/
inductive ArchiveError where
  | tooSmall
  | unsigned
  | unsupportedVersion (version : UInt32)
  | tableTruncated
  | beyondEnd (index : Nat)
  | tooManyResources
  | resourceTooLarge
  | archiveTooLarge
  deriving DecidableEq, Repr

/-- The messages of an archive error, outermost first. -/
def ArchiveError.causes : ArchiveError → List String
  | .tooSmall => ["stack archive is too small to contain a header"]
  | .unsigned => ["stack archive missing RXAR signature"]
  | .unsupportedVersion version => [s!"unsupported stack archive version {version}"]
  | .tableTruncated => ["stack archive truncated before end of entry table"]
  | .beyondEnd index => [s!"stack archive entry {index} data extends beyond file"]
  | .tooManyResources =>
    ["too many resources for one stack archive", countTooLarge]
  | .resourceTooLarge =>
    ["resource larger than 4 GiB", countTooLarge]
  | .archiveTooLarge =>
    ["stack archive larger than 4 GiB", countTooLarge]

/-- One entry of the table. -/
structure ArchiveEntry where
  kind : ResourceKind
  id : UInt32
  offset : UInt32
  size : UInt32
  deriving DecidableEq, Repr

namespace ArchiveEntry

def start (entry : ArchiveEntry) : Nat :=
  entry.offset.toNat

def stop (entry : ArchiveEntry) : Nat :=
  entry.offset.toNat + entry.size.toNat

end ArchiveEntry

/-- An archive that is open: the octets of the file and the table in it. -/
structure Archive where
  path : String
  octets : Bytes
  entries : List ArchiveEntry
  deriving DecidableEq

namespace Archive

/-- The octets of the header, and of each entry. -/
def headerSize : Nat := 16

@[inherit_doc headerSize] def entrySize : Nat := 16

/-- The signature at the front of every archive. -/
def signature : Bytes := [0x52, 0x58, 0x41, 0x52]

/-- The only version there is. -/
def version : UInt32 := 1

/-- Reads the entries numbered from `index` on, the last `count` of them, from a table; `limit` is the
size of the file. -/
def readTable (limit index : Nat) : (count : Nat) → Bytes → Except ArchiveError (List ArchiveEntry)
  | 0, _ => .ok []
  | count + 1, a :: b :: c :: d :: i₀ :: i₁ :: i₂ :: i₃ :: o₀ :: o₁ :: o₂ :: o₃
      :: s₀ :: s₁ :: s₂ :: s₃ :: rest => do
    let entry : ArchiveEntry :=
      { kind := ⟨a, b, c, d⟩, id := Bytes.toLong i₀ i₁ i₂ i₃, offset := Bytes.toLong o₀ o₁ o₂ o₃,
        size := Bytes.toLong s₀ s₁ s₂ s₃ }
    if entry.stop ≤ limit then
      return entry :: (← readTable limit (index + 1) count rest)
    else throw (.beyondEnd index)
  | _ + 1, _ => .error .tableTruncated

def parseEntries (octets : Bytes) : Except ArchiveError (List ArchiveEntry) :=
  match octets with
  | m₀ :: m₁ :: m₂ :: m₃ :: v₀ :: v₁ :: v₂ :: v₃ :: c₀ :: c₁ :: c₂ :: c₃ :: _ :: _ :: _ :: _ :: table =>
    let found := Bytes.toLong v₀ v₁ v₂ v₃
    let count := (Bytes.toLong c₀ c₁ c₂ c₃).toNat
    let limit := octets.length
    if [m₀, m₁, m₂, m₃] != signature then .error .unsigned
    else if found != version then .error (.unsupportedVersion found)
    else if limit < headerSize + count * entrySize then .error .tableTruncated
    else readTable limit 0 count table
  | _ => .error .tooSmall

/-- Opens the octets of the file at a path. -/
def parse (path : String) (octets : Bytes) : Except ArchiveError Archive := do
  return { path, octets, entries := ← parseEntries octets }

def entryData (archive : Archive) (entry : ArchiveEntry) : Bytes :=
  (archive.octets.drop entry.start).take entry.size.toNat

/-- The first entry with a kind and an id. -/
def find? (archive : Archive) (kind : ResourceKind) (id : UInt32) : Option ArchiveEntry :=
  archive.entries.find? fun entry => entry.kind == kind && entry.id == id

/-- The data of the first entry with a kind and an id. -/
def resource? (archive : Archive) (kind : ResourceKind) (id : UInt32) : Option Bytes :=
  (archive.find? kind id).map archive.entryData

/-- The ids of a kind, in the order of the table. -/
def ids (archive : Archive) (kind : ResourceKind) : List UInt32 :=
  (archive.entries.filter (·.kind == kind)).map (·.id)

end Archive

/-- A resource that is to be laid out. -/
structure Resource where
  kind : ResourceKind
  id : UInt32
  data : Bytes
  deriving DecidableEq

namespace Resource

def maxLong : Nat := UInt32.size - 1

/-- The table for resources whose data lies one after the other from `offset` on. -/
def tableFrom (offset : Nat) : List Resource → Except ArchiveError Bytes
  | [] => .ok []
  | resource :: rest => do
    let size := resource.data.length
    if maxLong < size then throw .resourceTooLarge
    if maxLong < offset then throw .archiveTooLarge
    let entry := resource.kind.octets ++ Bytes.ofLong resource.id ++ Bytes.ofLong offset.toUInt32
      ++ Bytes.ofLong size.toUInt32
    return entry ++ (← tableFrom (offset + size) rest)

/-- The octets of an archive that holds these resources in this order. -/
def layout (resources : List Resource) : Except ArchiveError Bytes := do
  let count := resources.length
  if maxLong < count then throw .tooManyResources
  let header := Archive.signature ++ Bytes.ofLong Archive.version ++ Bytes.ofLong count.toUInt32
    ++ Bytes.ofLong 0
  let table ← tableFrom (Archive.headerSize + count * Archive.entrySize) resources
  return header ++ table ++ resources.flatMap (·.data)

end Resource

/-! ## Archives in files

Opening an archive file takes three attempts, and a failure says in which of them it arose: opening the
file, mapping it into memory, which only a file allows, and parsing what is there. -/

namespace Archive

/-- Opens the archive file at `path`, where this is mapped. -/
def load (path : String) (content : Except FileError Bytes) : Except Failure Archive :=
  match content with
  | .error .noDevice =>
    .error (.during s!"memory-mapping stack archive {path}" FileError.noDevice.failure)
  | .error error => .error (.during s!"opening stack archive at {path}" error.failure)
  | .ok octets =>
    match Archive.parse path octets with
    | .ok archive => .ok archive
    | .error error => .error (.during s!"parsing stack archive {path}" ⟨error.causes⟩)

end Archive

end Diorama
