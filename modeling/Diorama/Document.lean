import Diorama.Format
import Diorama.Json.Decoder
import Diorama.Json.Value

/-!
# Files, and documents in them

What the library needs to know of a file system: why a file could not be opened, read or written, and
in which words the system says so. Everything above works on contents that have already been fetched,
so the only effect of a file system on the rest of the library is a value of `Except FileError`.

A document is a JSON text in a file. Using one fails in two ways, which are told apart by the words in
which the attempt is described: the file could not be read as text, or its text could not be used.
-/

namespace Diorama

/-- Why a file could not be used. -/
inductive FileError where
  | notFound
  | notDirectory
  | isDirectory
  /-- Something other than a file was to be mapped into memory. -/
  | noDevice
  /-- A path, or a name in it, is too long. -/
  | nameTooLong
  /-- A path holds a null character. -/
  | badName
  /-- The octets are not UTF-8. -/
  | notText
  /-- Anything else, in the words of the system. -/
  | other (words : String)
  deriving DecidableEq, Repr

def FileError.message : FileError → String
  | .notFound => "No such file or directory (os error 2)"
  | .notDirectory => "Not a directory (os error 20)"
  | .isDirectory => "Is a directory (os error 21)"
  | .noDevice => "No such device (os error 19)"
  | .nameTooLong => "File name too long (os error 36)"
  | .badName => "file name contained an unexpected NUL byte"
  | .notText => "stream did not contain valid UTF-8"
  | .other words => words

/-- What went wrong, in words: the attempt first, then its causes from the outside in. -/
structure Failure where
  causes : List String
  deriving DecidableEq, Repr

namespace Failure

/-- The failure of an attempt that had a cause. -/
def during (attempt : String) (cause : Failure) : Failure :=
  ⟨attempt :: cause.causes⟩

def message (failure : Failure) : String :=
  joinCauses failure.causes

end Failure

def FileError.failure (error : FileError) : Failure :=
  ⟨[error.message]⟩

/-- Why a document could not be used. -/
inductive DocumentError where
  /-- The file could not be read as text. -/
  | unreadable (attempt : String) (cause : FileError)
  /-- The text is no JSON, or not the JSON that is wanted. -/
  | malformed (attempt : String)
  deriving DecidableEq, Repr

namespace DocumentError

/-- What is said of every text that cannot be used. -/
def malformedMessage : String := "malformed document"

def attempt : DocumentError → String
  | .unreadable attempt _ => attempt
  | .malformed attempt => attempt

def failure : DocumentError → Failure
  | .unreadable attempt cause => ⟨[attempt, cause.message]⟩
  | .malformed attempt => ⟨[attempt, malformedMessage]⟩

end DocumentError

/-- The words for the two attempts at a document, ready for its path. -/
structure DocumentWords where
  reading : String
  parsing : String

def fileText (content : Except FileError Bytes) : Except FileError String := do
  match Utf8.text? (← content) with
  | some text => return text
  | none => throw .notText

/-- Uses the document whose file at `path` has this content. -/
def loadDocument {α : Type} (words : DocumentWords) (decoder : Json.Decoder α) (path : String)
    (content : Except FileError Bytes) : Except DocumentError α :=
  match fileText content with
  | .error cause => .error (.unreadable (words.reading ++ path) cause)
  | .ok text =>
    match Json.decodeText? decoder text with
    | some value => .ok value
    | none => .error (.malformed (words.parsing ++ path))

end Diorama
