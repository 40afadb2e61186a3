import Diorama.Tool.Inspect
import Diorama.Tool.Pack
import Diorama.Tool.Play

/-!
# The command line

The tools on the files of this computer. The first argument names the tool, and the others are its own.
-/

namespace Diorama

def FileError.ofSystem : IO.Error → FileError
  | .noFileOrDirectory _ _ _ => .notFound
  | .inappropriateType _ 20 _ => .notDirectory
  | .inappropriateType _ 21 _ => .isDirectory
  | .noSuchThing _ 2 _ => .notFound
  | .invalidArgument _ 36 _ => .nameTooLong
  | error => .other error.toString

/-- Does something to the file system, with a file error as the result. -/
def tryFile {α : Type} (action : IO α) : IO (Except FileError α) :=
  try
    return .ok (← action)
  catch error => return .error (.ofSystem error)

def mapFile (path : String) : IO (Except FileError Bytes) := do
  match ← tryFile ((← IO.currentDir) / path).metadata with
  | .error error => return .error error
  | .ok found =>
    if found.type == .file then tryFile (return (← IO.FS.readBinFile path).toList)
    else return .error .noDevice

instance : Host IO where
  read path := tryFile do
    return (← IO.FS.readBinFile path).toList
  map := mapFile
  list path := do
    match ← tryFile ((← IO.currentDir) / path).readDir with
    | .error error => return .error error
    | .ok entries =>
      return .ok (← entries.toList.mapM fun entry => do
        return ⟨entry.fileName, ← mapFile entry.path.toString⟩)
  write path octets := tryFile (IO.FS.writeBinFile path ⟨octets.toArray⟩)
  print line := IO.println line

def runTool : List String → IO Ending
  | "play" :: arguments => Play.run arguments
  | "pack" :: arguments => Pack.run arguments
  | "inspect" :: arguments => Inspect.run arguments
  | _ => return .misused

end Diorama

/-- Runs a tool, reports how it ended, and exits with its code. -/
def main (arguments : List String) : IO UInt32 := do
  let ending ← Diorama.runTool arguments
  for line in ending.report do
    IO.eprintln line
  return ending.code.toUInt32
