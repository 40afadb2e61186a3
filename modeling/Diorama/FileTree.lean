import Diorama.Document
import Diorama.Stack.Source

/-!
# Paths and trees of files

Where a path leads among files and directories held in memory, and what goes wrong on the way.
-/

namespace Diorama

/-! ## Paths read as routes

A path names the steps from one directory to the next, between slashes; several slashes in a row count
as one. A slash in front starts at the root. A slash at the end asks for a directory. A path may not be
empty, hold a null character or be too long; the null character is told first. -/

/-- The steps that a path takes, and from where. -/
structure Route where
  /-- Whether the route starts at the root. -/
  fromRoot : Bool
  steps : List String
  /-- Whether the route must end at a directory. -/
  wantsDirectory : Bool
  deriving DecidableEq, Repr

namespace Route

def stay : String := "."

/-- The step to the directory around this one. -/
def up : String := ".."

def longestPath : Nat := 4095

/-- How many octets the name of a step may have. -/
def longestName : Nat := 255

/-- Whether a step leads to another entry than the directory it starts in and the one around that. -/
def isName (step : String) : Bool :=
  step != stay && step != up

def ofPath (path : String) : Except FileError Route :=
  if path.toList.contains '\x00' then .error .badName
  else if path.isEmpty then .error .notFound
  else if longestPath < path.utf8ByteSize then .error .nameTooLong
  else
    let parts := path.splitOn "/"
    .ok { fromRoot := parts.head? == some ""
          steps := parts.filter (· != "")
          wantsDirectory := parts.getLast? == some "" }

/-- The steps to walk in order to arrive: a directory shows itself by the step that stays in it. -/
def walked (route : Route) : List String :=
  if route.wantsDirectory then route.steps ++ [stay] else route.steps

/-- The route without its last step, which is the route to the directory of what the whole one names. -/
def parent (route : Route) : Route :=
  { route with steps := route.steps.dropLast, wantsDirectory := true }

end Route

/-! ## Trees of files

Files and directories held in memory. A *place* in a tree is the list of names from its top, and a route
is walked from place to place: each step starts in a directory, `.` stays there, `..` leads to the
directory around it, and the top is around itself. What goes wrong on the way is told in the order in
which it is met.

`find_plant` says that what was planted at a place is found there, and `walk_append` that a walk can be
cut in two. -/

/-- A file, something that takes all octets and keeps none, or a directory of such things by name. -/
inductive FileTree where
  | file (octets : Bytes)
  | sink
  | directory (entries : List (String × FileTree))

namespace FileTree

def empty : FileTree := .directory []

instance : Inhabited FileTree := ⟨empty⟩

/-- The entries of a directory; other things have none. -/
def entries : FileTree → List (String × FileTree)
  | .directory entries => entries
  | _ => []

def find? : List String → FileTree → Option FileTree
  | [], tree => some tree
  | name :: rest, tree => (tree.entries.lookup name).bind (find? rest)

def content : FileTree → Except FileError Bytes
  | .file octets => .ok octets
  | .sink => .ok []
  | .directory _ => .error .isDirectory

/-- What is mapped into memory. Only a file can be. -/
def mapped : FileTree → Except FileError Bytes
  | .file octets => .ok octets
  | _ => .error .noDevice

/-- The entries, each with what is mapped of it. Only a directory has them. -/
def listing : FileTree → Except FileError (List ListedFile)
  | .directory entries => .ok (entries.map fun entry => ⟨entry.1, entry.2.mapped⟩)
  | _ => .error .notDirectory

/-- The entries with one of them put in place of another of the same name, or after all others. -/
def assign (name : String) (tree : FileTree) : List (String × FileTree) → List (String × FileTree)
  | [] => [(name, tree)]
  | entry :: rest => if entry.1 = name then (name, tree) :: rest else entry :: assign name tree rest

/-- Puts a tree at a place, with directories on the way there. -/
def plant (new : FileTree) : List String → FileTree → FileTree
  | [], _ => new
  | name :: rest, old =>
    .directory (assign name (plant new rest ((old.entries.lookup name).getD empty)) old.entries)

/-- Takes away what is at a place. The top stays. -/
def uproot : List String → FileTree → FileTree
  | [], tree => tree
  | [name], tree => .directory (tree.entries.filter (·.1 != name))
  | name :: rest, tree =>
    match tree.entries.lookup name with
    | some child => .directory (assign name (uproot rest child) tree.entries)
    | none => tree

/-! ### Walking -/

def move (tree : FileTree) (place : List String) (step : String) :
    Except FileError (List String) :=
  match find? place tree with
  | some (.directory entries) =>
    if step = Route.stay then .ok place
    else if step = Route.up then .ok place.dropLast
    else if Route.longestName < step.utf8ByteSize then .error .nameTooLong
    else if (entries.lookup step).isSome then .ok (place ++ [step])
    else .error .notFound
  | _ => .error .notDirectory

def walk (tree : FileTree) (place steps : List String) : Except FileError (List String) :=
  steps.foldlM (move tree) place

def follow (tree : FileTree) (place : List String) (route : Route) : Except FileError FileTree := do
  match find? (← tree.walk place route.walked) tree with
  | some found => return found
  | none => throw .notFound

/-- Where a route names a file, whether it is there or yet to be made: in a directory, by a name that
is not that of another directory. A path that must end at a directory names no file. -/
def filePlace (tree : FileTree) (place : List String) (route : Route) :
    Except FileError (List String) := do
  match route.steps.getLast? with
  | none => throw .isDirectory
  | some name =>
    let parent ← tree.walk place route.parent.walked
    if route.wantsDirectory || !Route.isName name then throw .isDirectory
    if Route.longestName < name.utf8ByteSize then throw .nameTooLong
    match find? (parent ++ [name]) tree with
    | some (.directory _) => throw .isDirectory
    | _ => return parent ++ [name]

/-- Writes a file where the route leads. Its directory must be there. -/
def write (octets : Bytes) (place : List String) (route : Route) (tree : FileTree) :
    Except FileError FileTree := do
  let target ← tree.filePlace place route
  match find? target tree with
  | some .sink => return tree
  | _ => return plant (.file octets) target tree

/-- Removes the file that the route leads to, if there is one. -/
def removeFile? (place : List String) (route : Route) (tree : FileTree) : Option FileTree := do
  let target ← (tree.filePlace place route).toOption
  match find? target tree with
  | some (.file _) => some (uproot target tree)
  | _ => none

/-- Walks, and makes a directory wherever a step would lead nowhere: the tree with them, and the place
after all steps. -/
def makeWay (tree : FileTree) (place : List String) :
    (steps : List String) → Except FileError (FileTree × List String)
  | [] => .ok (tree, place)
  | step :: rest =>
    match tree.move place step with
    | .ok place => makeWay tree place rest
    | .error .notFound => makeWay (plant empty (place ++ [step]) tree) (place ++ [step]) rest
    | .error error => .error error

theorem lookup_assign (name : String) (tree : FileTree) (entries : List (String × FileTree)) :
    (assign name tree entries).lookup name = some tree := by
  induction entries with
  | nil => simp [assign]
  | cons entry rest ih =>
    obtain ⟨other, child⟩ := entry
    rw [assign]
    split
    · simp
    · rename_i differs
      have differs : (name == other) = false := by simpa using Ne.symm differs
      rw [List.lookup_cons, differs]
      exact ih

/-- What was planted at a place is found there. -/
theorem find_plant (place : List String) (new old : FileTree) :
    find? place (plant new place old) = some new := by
  induction place generalizing old with
  | nil => rfl
  | cons name rest ih =>
    simp only [plant, find?, entries, lookup_assign, Option.bind_some]
    exact ih _

/-- A walk can be cut in two. -/
theorem walk_append (tree : FileTree) (place first second : List String) :
    tree.walk place (first ++ second) = (tree.walk place first).bind (tree.walk · second) := by
  simp only [walk, List.foldlM_append]
  rfl

end FileTree

end Diorama
