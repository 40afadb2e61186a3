import Diorama.FileTree

/-!
# Where tools run

A tool reads files or maps them into memory, lists directories, writes files and prints lines; it does
nothing else to the world. It is written once for every host that can do these five things. One such host
is held in memory: it has a tree of files and remembers what was printed.

A tool ends in one of three ways, each with an exit code and a report.
-/

namespace Diorama

/-- What a tool needs of the place where it runs. -/
class Host (m : Type → Type) where
  /-- The octets of a file. -/
  read (path : String) : m (Except FileError Bytes)
  /-- The octets of a file, mapped into memory. -/
  map (path : String) : m (Except FileError Bytes)
  /-- The files of a directory, mapped into memory. -/
  list (path : String) : m (Except FileError (List ListedFile))
  /-- Puts octets into a file. -/
  write (path : String) (octets : Bytes) : m (Except FileError Unit)
  /-- Prints a line. -/
  print (line : String) : m Unit

/-- How a tool ended. -/
inductive Ending where
  | finished
  /-- The arguments make no sense. -/
  | misused
  | failed (failure : Failure)
  deriving DecidableEq, Repr

namespace Failure

/-- A cause behind an indentation, which is repeated as blanks where the cause has further lines. -/
def indented (start cause : String) : List String :=
  match cause.splitOn "\n" with
  | [] => [start]
  | first :: rest =>
    (start ++ first) :: rest.map fun line => "".pushn ' ' start.length ++ line

/-- The causes under the attempt, numbered when there are several. -/
def underlying : List String → List String
  | [] => []
  | [cause] => indented "    " cause
  | causes =>
    (causes.mapIdx fun index cause =>
      let number := toString index
      indented ("".pushn ' ' (5 - number.length) ++ number ++ ": ") cause).flatten

/-- The failure as it is reported, line by line. -/
def report (failure : Failure) : List String :=
  match failure.causes with
  | [] => []
  | attempt :: causes =>
    let head := ("Error: " ++ attempt).splitOn "\n"
    if causes.isEmpty then head else head ++ ["", "Caused by:"] ++ underlying causes

end Failure

namespace Ending

def code : Ending → Nat
  | .finished => 0
  | .misused => 2
  | .failed _ => 1

/-- What is reported of the end, line by line. -/
def report : Ending → List String
  | .failed failure => failure.report
  | _ => []

end Ending

/-- A part of a tool: it may fail. -/
abbrev Task (m : Type → Type) := ExceptT Failure m

namespace Task

variable {m : Type → Type} [Monad m] [Host m] {α : Type}

def read (path : String) : Task m (Except FileError Bytes) :=
  ExceptT.lift (Host.read path)

def map (path : String) : Task m (Except FileError Bytes) :=
  ExceptT.lift (Host.map path)

def print (line : String) : Task m Unit :=
  ExceptT.lift (Host.print line)

/-- Writes a file, in an attempt described by these words. -/
def write (attempt path : String) (octets : Bytes) : Task m Unit := do
  match ← ExceptT.lift (Host.write path octets) with
  | .ok _ => pure ()
  | .error error => throw (.during attempt error.failure)

def need (result : Except Failure α) : Task m α :=
  ExceptT.mk (pure result)

def ending (task : Task m Unit) : m Ending := do
  match ← task.run with
  | .ok _ => return .finished
  | .error failure => return .failed failure

end Task

/-! ## In memory -/

/-- Files in memory and what was printed, the last line first. Paths that do not start at the root start
at the working directory, whose place is `here`. In front of a path, the name `home` stands for it too. -/
structure MemoryHost where
  home : String
  here : List String
  tree : FileTree
  printed : List String := []

namespace MemoryHost

/-- A host whose working directory is one of those for passing things and is still empty. Beside it there
is the device that swallows everything. -/
def ofHome (home : String) : MemoryHost :=
  { home, here := ["tmp", home]
    tree := .directory
      [("dev", .directory [("null", .sink)]), ("tmp", .directory [(home, .empty)])] }

/-- Where a path starts, and its route from there. -/
def route (host : MemoryHost) (path : String) : Except FileError (List String × Route) := do
  let route ← Route.ofPath path
  if route.steps.head? == some host.home then
    return (host.here, { route with steps := route.steps.tail })
  return (if route.fromRoot then [] else host.here, route)

def find (host : MemoryHost) (path : String) : Except FileError FileTree := do
  let (start, route) ← host.route path
  host.tree.follow start route

def read (host : MemoryHost) (path : String) : Except FileError Bytes :=
  host.find path >>= FileTree.content

def list (host : MemoryHost) (path : String) : Except FileError (List ListedFile) :=
  host.find path >>= FileTree.listing

def write (host : MemoryHost) (path : String) (octets : Bytes) : Except FileError MemoryHost := do
  let (start, route) ← host.route path
  return { host with tree := ← host.tree.write octets start route }

/-- Makes a directory, and those on the way to it. One that is there keeps what it holds. -/
def makeDirectory (host : MemoryHost) (path : String) : Except FileError MemoryHost := do
  let (start, route) ← host.route path
  return { host with tree := (← host.tree.makeWay start (route.steps ++ [Route.stay])).1 }

/-- Writes a file, and makes the directories on the way to it. -/
def writeDeep (host : MemoryHost) (path : String) (octets : Bytes) : Except FileError MemoryHost := do
  let (start, route) ← host.route path
  let (tree, _) ← host.tree.makeWay start route.parent.walked
  return { host with tree := ← tree.write octets start route }

/-- Removes a file, if there is one. -/
def remove? (host : MemoryHost) (path : String) : Option MemoryHost := do
  let (start, route) ← (host.route path).toOption
  return { host with tree := ← host.tree.removeFile? start route }

def output (host : MemoryHost) : String :=
  String.join (host.printed.reverse.map (· ++ "\n"))

end MemoryHost

instance : Host (StateM MemoryHost) where
  read path := return (← get).read path
  map path := return (← get).find path >>= FileTree.mapped
  list path := return (← get).list path
  write path octets := fun host =>
    match host.write path octets with
    | .ok host => (.ok (), host)
    | .error error => (.error error, host)
  print line := modify fun host => { host with printed := line :: host.printed }

end Diorama
