import Diorama.Archive
import Diorama.Card.Codec
import Diorama.Document
import Diorama.SortedMap

/-!
# Where stacks come from

A stack is made of archives, and a provider says which. A data root serves a key from every archive
file whose name without its extension is the key, or the key followed by an underscore and anything;
letters of either case are the same, but only those of ASCII. The files are taken in the order of their
names, whatever order the directory lists them in, and a file that does not open is passed over. A stack
needs at least one archive.

Memory serves a key from one archive that is given as cards and names.
-/

namespace Diorama

/-- Why a stack or a card cannot be had. -/
inductive StackError where
  | stackNotFound (stack : String)
  | cardNotFound (stack : String) (id : UInt16)
  | archive (stack detail : String)
  | corruptCard (stack : String) (id : UInt16) (detail : String)
  deriving DecidableEq, Repr

def StackError.message : StackError → String
  | .stackNotFound stack => s!"no archives found for stack '{stack}'"
  | .cardNotFound stack id => s!"card {id} not found in stack '{stack}'"
  | .archive stack detail => s!"archive error in stack '{stack}': {detail}"
  | .corruptCard stack id detail => s!"card {id} in stack '{stack}' is corrupt: {detail}"

/-- One archive of a stack. -/
inductive StackArchive where
  /-- An archive file. -/
  | file (archive : Archive)
  /-- Cards and names held in memory. -/
  | memory (label : String) (cards : SortedMap UInt16 Bytes) (names : Option (List String))

namespace StackArchive

/-- How the archive is referred to in messages. -/
def label : StackArchive → String
  | .file archive => archive.path
  | .memory label _ _ => label

def card? : StackArchive → UInt16 → Option Bytes
  | .file archive, id => archive.resource? .card id.toUInt32
  | .memory _ cards _, id => cards.get? id

/-- The ids of the cards. An id that is no word belongs to no card. -/
def cardIds : StackArchive → List UInt16
  | .file archive =>
    (archive.ids .card).filterMap fun id => if id.toNat < 65536 then some id.toUInt16 else none
  | .memory _ cards _ => cards.keys

/-- The variable names, if the archive has a name table. -/
def variableNames : StackArchive → Except FormatError (Option (List String))
  | .file archive =>
    match archive.resource? .names 0 with
    | some bytes => (NameTable.decode bytes).map some
    | none => .ok none
  | .memory _ _ names => .ok names

end StackArchive

/-- A file of a data root, as a listing shows it: its name, and what it holds. -/
structure ListedFile where
  name : String
  content : Except FileError Bytes

namespace ListedFile

/-- A name without its extension, and the extension. The extension starts behind the last point; a
name that only starts with one has none. -/
def splitName (name : String) : String × Option String :=
  let chars := name.toList.reverse
  match chars.dropWhile (· != '.') with
  | '.' :: before =>
    if before.isEmpty then (name, none)
    else (String.ofList before.reverse, some (String.ofList (chars.takeWhile (· != '.')).reverse))
  | _ => (name, none)

def lower (text : String) : List Char :=
  text.toList.map Char.toLower

/-- Whether a name without its extension belongs to a key. -/
def stemFits (key stem : String) : Bool :=
  let key := lower key
  let stem := lower stem
  key.isPrefixOf stem &&
    match stem.drop key.length with
    | [] => true
    | next :: _ => next == '_'

/-- Whether a file is to be opened for a key. -/
def belongsTo (key : String) (file : ListedFile) : Bool :=
  let (stem, extension) := splitName file.name
  stemFits key stem && extension.any fun extension => lower extension == ['r', 'x', 'a']

end ListedFile

/-- Where stacks come from. -/
inductive Provider where
  | memory (byKey : SortedMap String StackArchive)
  /-- A data root at `path` and its listing. -/
  | directory (path : String) (listing : Except FileError (List ListedFile))

namespace Provider

/-- A name inside a directory. A name that starts at the root stands for itself. -/
def join (directory name : String) : String :=
  if directory.isEmpty || name.toList.head? == some '/' then name
  else if directory.toList.getLast? == some '/' then directory ++ name
  else directory ++ "/" ++ name

/-- The files of a listing that are to be opened for a key, in the order of their names. -/
def selected (key : String) (listing : List ListedFile) : List ListedFile :=
  (listing.filter (·.belongsTo key)).mergeSort fun a b => decide (a.name ≤ b.name)

/-- A file opened as an archive, if it is one. -/
def openFile? (path : String) (file : ListedFile) : Option StackArchive :=
  match file.content with
  | .ok octets => (Archive.parse (join path file.name) octets).toOption.map .file
  | .error _ => none

/-- The archives of a stack, in the order in which they are searched. -/
def openStack (provider : Provider) (key : String) : Except StackError (List StackArchive) :=
  match provider with
  | .memory byKey =>
    match byKey.get? key with
    | some archive => .ok [archive]
    | none => .error (.stackNotFound key)
  | .directory path (.error error) => .error (.archive key s!"reading {path}: {error.message}")
  | .directory path (.ok listing) =>
    match (selected key listing).filterMap (openFile? path) with
    | [] => .error (.stackNotFound key)
    | archives => .ok archives

end Provider

end Diorama
