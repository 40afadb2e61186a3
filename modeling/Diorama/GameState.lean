import Diorama.Document
import Diorama.Json.Decoder
import Diorama.Json.Value

/-!
# The player's place and progress

Where a player stands, the variables that scripts read and write, and the form in which both are saved.
-/

namespace Diorama

/-! ## Locations

Where a player stands: the key of a stack and the id of a card in it. A location is plain data, good
for saving; it says nothing about whether that card exists. -/

/-- A stack's key and a card's id. -/
structure Location where
  stack : String
  id : UInt16
  deriving DecidableEq, Repr

namespace Location

def text (location : Location) : String :=
  s!"{location.stack}/{location.id}"

def toJson (location : Location) : Json :=
  .record [("stack", .text location.stack), ("id", .nat location.id.toNat)]

def decode : Json.Decoder Location := fun reading value => do
  let fields ← Json.Fields.of? ["stack", "id"] reading value
  return { stack := ← fields.required "stack" .text, id := ← fields.required "id" .word }

end Location

/-! ## Progress

A variable that was never written reads as zero, and reading never creates it: only written variables are
saved. -/

/-- The variables of a game, in the order of their names. -/
abbrev GameVariables := SortedMap String UInt16

def GameVariables.value (game : GameVariables) (name : String) : UInt16 :=
  (game.get? name).getD 0

/-- What is saved of a game. -/
structure GameState where
  location : Option Location := none
  game : GameVariables := .empty
  deriving DecidableEq

namespace GameState

/-- Reads a saved game. Either field may be missing. -/
def decode : Json.Decoder GameState := fun reading value => do
  let fields ← Json.Fields.of? ["location", "variables"] reading value
  return { location := ← fields.optional "location" none (.nullable Location.decode),
           game := ← fields.optional "variables" .empty (.map .word) }

def toJson (state : GameState) : Json :=
  .record [("location", .orNull (state.location.map Location.toJson)),
    ("variables", .record (state.game.entries.map fun entry => (entry.1, .nat entry.2.toNat)))]

def save (state : GameState) : String :=
  state.toJson.pretty

/-- The words for an attempt to save the game in the file at `path`. -/
def writing (path : String) : String :=
  s!"writing game state {path}"

/-- What is said of attempts to load a saved game. -/
def words : DocumentWords := ⟨"reading game state ", "parsing game state "⟩

/-- Loads the game saved in the file at `path`. -/
def load : String → Except FileError Bytes → Except DocumentError GameState :=
  loadDocument words decode

end GameState

end Diorama
