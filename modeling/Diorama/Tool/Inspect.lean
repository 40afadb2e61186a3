import Diorama.Archive
import Diorama.Card.Codec
import Diorama.Tool.Host

/-!
# The inspecting tool

Lists the entries of an archive file, one line an entry, with what can be said about cards and name tables.
-/

namespace Diorama.Inspect

/-- Puts blanks before a text until it is `width` characters long. -/
def padLeft (width : Nat) (text : String) : String :=
  "".pushn ' ' (width - text.length) ++ text

/-- Puts blanks behind a text until it is `width` characters long. -/
def padRight (width : Nat) (text : String) : String :=
  text ++ "".pushn ' ' (width - text.length)

/-- What can be said about the data of an entry. -/
def detail (kind : ResourceKind) (data : Bytes) : String :=
  if kind = .card then
    match CardRecord.decode data with
    | .ok card =>
      s!"'{card.name}' hotspots={card.hotspots.length} handlers={card.scripts.length}"
    | .error error => s!"undecodable: {error.message}"
  else if kind = .names then
    match NameTable.decode data with
    | .ok names => s!"{names.length} variables"
    | .error error => s!"undecodable: {error.message}"
  else ""

def line (archive : Archive) (entry : ArchiveEntry) : String :=
  " ".intercalate
    [ padRight 4 entry.kind.label, padLeft 6 (toString entry.id), padLeft 10 (toString entry.offset)
    , padLeft 8 (toString entry.size), "", detail entry.kind (archive.entryData entry) ]

variable {m : Type → Type} [Monad m] [Host m]

def inspect (path : String) : Task m Unit := do
  let archive ← Task.need (Archive.load path (← Task.map path))
  Task.print s!"{archive.entries.length} entries in {archive.path}"
  for entry in archive.entries do
    Task.print (line archive entry)

/-- The inspecting tool. Its first argument is the file; others are ignored. -/
def run : List String → m Ending
  | [] => Task.ending (throw ⟨["usage: rxa_dump <stack archive>"]⟩)
  | path :: _ => Task.ending (inspect path)

end Diorama.Inspect
