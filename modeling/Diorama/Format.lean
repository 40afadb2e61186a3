import Diorama.Bytes

/-!
# Reading and writing stored forms

The pieces from which the card record and the name table are built: a counted list, a counted name,
a word, a flag. Each piece has a writer, which may refuse, and a reader, which takes octets off the
front and hands on the rest.

Limits live in the writers alone. A list is stored behind one word, so it has at most 65535 entries;
a name is stored behind one octet, so it has at most 255 octets. A reader of either cannot meet a
larger count and needs no check of its own; what it can meet is a shortage of octets.

A failure carries the passage in which it arose, outermost first, so that its message can be read
from the whole record down to the piece.
-/

namespace Diorama

/-- The passage of a stored form that was being read when something went wrong. -/
inductive Passage where
  | cardName
  | cardScripts
  | hotspotCount
  | hotspot (index : Nat)
  | pictureCount
  | soundGroupCount
  | movieCount
  | buttonCount
  | handler (event : UInt16)
  | nameCount
  | name (index : Nat)
  deriving DecidableEq, Repr

/-- The words in which a passage is reported. -/
def Passage.message : Passage → String
  | .cardName => "reading card name"
  | .cardScripts => "reading card scripts"
  | .hotspotCount => "reading hotspot count"
  | .hotspot index => s!"reading hotspot {index}"
  | .pictureCount => "reading PLST count"
  | .soundGroupCount => "reading SLST count"
  | .movieCount => "reading MLST count"
  | .buttonCount => "reading BLST count"
  | .handler event => s!"reading handler for event {event}"
  | .nameCount => "reading name count"
  | .name index => s!"reading name {index}"

/-- How deep branches may lie inside one another in a record that is read back. -/
def maxNesting : Nat := 16

/-- Why a stored form cannot be read or written. -/
inductive FormatError where
  /-- The octets end before the piece does. -/
  | shortage
  /-- A command list lies deeper than `maxNesting` branches. -/
  | branchTooDeep
  /-- The record is complete and `count` octets are left. -/
  | trailing (count : Nat)
  /-- A name has more octets than its length octet can say. -/
  | nameTooLong (name : String)
  /-- A list has more entries than its count word can say. -/
  | listTooLong
  /-- The branch opcode stands where only a plain command may. -/
  | flatBranch
  /-- The trouble arose inside a passage. -/
  | during (passage : Passage) (cause : FormatError)
  deriving DecidableEq, Repr

/-- What is said of a count that does not fit the field it is stored in. -/
def countTooLarge : String := "number too large to fit in target type"

/-- The messages of a format error, outermost first. A count that does not fit its field has a
second, inner message about the conversion. -/
def FormatError.causes : FormatError → List String
  | .shortage => ["failed to fill whole buffer"]
  | .branchTooDeep => [s!"branch nesting deeper than {maxNesting}"]
  | .trailing count => [s!"card record has {count} trailing bytes"]
  | .nameTooLong name =>
    [s!"name '{name}' longer than 255 bytes", countTooLarge]
  | .listTooLong =>
    ["list longer than 65535 entries", countTooLarge]
  | .flatBranch => ["branch commands must use the branch layout"]
  | .during passage cause => passage.message :: cause.causes

/-- Several causes on one line, outermost first. -/
def joinCauses (causes : List String) : String :=
  ": ".intercalate causes

def FormatError.message (error : FormatError) : String :=
  joinCauses error.causes

/-! ## Writers -/

/-- A writer gives the octets of a value, or says why there are none. -/
abbrev Written := Except FormatError Bytes

namespace Written

/-- The word that counts `size` entries. -/
def count (size : Nat) : Written :=
  if size ≤ 65535 then .ok (Bytes.ofWord size.toUInt16) else .error .listTooLong

/-- A name behind the octet that says how many octets it has. -/
def name (text : String) : Written :=
  let octets := Utf8.encode text
  if octets.length ≤ 255 then .ok (octets.length.toUInt8 :: octets) else .error (.nameTooLong text)

/-- A list behind its count, entry after entry. -/
def list {α : Type} (entry : α → Written) (entries : List α) : Written := do
  let head ← count entries.length
  let body ← entries.mapM entry
  return head ++ body.flatten

/-- Writes that follow one another. The first refusal wins. -/
def sequence (parts : List Written) : Written := do
  return (← parts.mapM id).flatten

end Written

/-! ## Readers -/

/-- A reader takes a value off the front of the octets, or says why it cannot. -/
abbrev Reader := StateT Bytes (Except FormatError)

namespace Reader

variable {α : Type}

def octet : Reader UInt8 := fun
  | head :: rest => .ok (head, rest)
  | [] => .error .shortage

/-- One word. A single octet is a shortage too. -/
def word : Reader UInt16 := fun
  | high :: low :: rest => .ok (Bytes.toWord high low, rest)
  | _ => .error .shortage

def signed : Reader Int16 := do
  return (← word).toInt16

/-- One flag: every word but 0 is true. -/
def flag : Reader Bool := do
  return (← word) != 0

/-- The next `size` octets. -/
def octets (size : Nat) : Reader Bytes := fun bytes =>
  let taken := bytes.take size
  if taken.length == size then .ok (taken, bytes.drop size) else .error .shortage

def name : Reader String := do
  let size ← octet
  return Utf8.lossy (← octets size.toNat)

/-- Puts the trouble of `reader` inside a passage. -/
def within (passage : Passage) (reader : Reader α) : Reader α := fun bytes =>
  match reader bytes with
  | .ok result => .ok result
  | .error cause => .error (.during passage cause)

/-- Reads the entries numbered `index` up to `index + size - 1` onto `read`, which holds those
before them, last first. -/
def entriesOnto (entry : Nat → Reader α) (index : Nat) (read : List α) : Nat → Reader (List α)
  | 0 => return read.reverse
  | size + 1 => do
    let value ← entry index
    entriesOnto entry (index + 1) (value :: read) size

/-- `size` entries, each told its number. -/
def entries (size : Nat) (entry : Nat → Reader α) : Reader (List α) :=
  entriesOnto entry 0 [] size

def list (entry : Reader α) : Reader (List α) := do
  let size ← word
  entries size.toNat fun _ => entry

/-- A counted list whose count is a passage of its own. -/
def listWithin (passage : Passage) (entry : Nat → Reader α) : Reader (List α) := do
  let size ← within passage word
  entries size.toNat entry

end Reader

end Diorama
