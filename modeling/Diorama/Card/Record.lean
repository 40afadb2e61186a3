import Diorama.Bytes

/-!
# The authored card

A card is what an author stores: scripts, hotspots, and the lists of pictures, sound groups, movies
and buttons that scripts activate by index. Nothing here says what a command does; that is the
session's business. A script is a list of commands, and a command is either a plain operation with
its operands or a branch on a variable, whose cases hold command lists again, so commands and cases
are defined together.

Equality of all of these is decidable; for the two that are defined together it is spelt out below,
one list at a time.
-/

namespace Diorama

/-- The opcode that only a branch carries. -/
def branchOpcode : UInt16 := 8

/-- The case value that is taken when no case matches. -/
def defaultCase : UInt16 := 0xFFFF

mutual

/-- One command of a script. -/
inductive Command where
  /-- A plain operation with its operands. -/
  | op (opcode : UInt16) (args : List UInt16)
  /-- Runs the commands of the case that fits the variable with this index. -/
  | branch (index : UInt16) (cases : List Case)

/-- One case of a branch. -/
structure Case where
  /-- The variable's value for which the case is taken. -/
  value : UInt16
  /-- What is run then. -/
  commands : List Command

end

mutual

/-- Decides whether two commands are the same. -/
def Command.decEq : (a b : Command) → Decidable (a = b)
  | .op opcode args, .op opcode' args' =>
    if h : opcode = opcode' ∧ args = args' then
      isTrue (by rw [h.1, h.2])
    else isFalse (by intro e; injection e with e₁ e₂; exact h ⟨e₁, e₂⟩)
  | .branch index cases, .branch index' cases' =>
    if h : index = index' then
      match Case.decEqList cases cases' with
      | isTrue h' => isTrue (by rw [h, h'])
      | isFalse h' => isFalse (by intro e; injection e with _ e₂; exact h' e₂)
    else isFalse (by intro e; injection e with e₁ _; exact h e₁)
  | .op .., .branch .. => isFalse (by intro e; cases e)
  | .branch .., .op .. => isFalse (by intro e; cases e)

/-- Decides whether two cases are the same. -/
def Case.decEq : (a b : Case) → Decidable (a = b)
  | ⟨value, commands⟩, ⟨value', commands'⟩ =>
    if h : value = value' then
      match Command.decEqList commands commands' with
      | isTrue h' => isTrue (by rw [h, h'])
      | isFalse h' => isFalse (by intro e; injection e with _ e₂; exact h' e₂)
    else isFalse (by intro e; injection e with e₁ _; exact h e₁)

/-- Decides whether two command lists are the same. -/
def Command.decEqList : (as bs : List Command) → Decidable (as = bs)
  | [], [] => isTrue rfl
  | [], _ :: _ => isFalse (by intro e; cases e)
  | _ :: _, [] => isFalse (by intro e; cases e)
  | a :: as, b :: bs =>
    match Command.decEq a b with
    | isTrue h =>
      match Command.decEqList as bs with
      | isTrue h' => isTrue (by rw [h, h'])
      | isFalse h' => isFalse (by intro e; injection e with _ e₂; exact h' e₂)
    | isFalse h => isFalse (by intro e; injection e with e₁ _; exact h e₁)

/-- Decides whether two case lists are the same. -/
def Case.decEqList : (as bs : List Case) → Decidable (as = bs)
  | [], [] => isTrue rfl
  | [], _ :: _ => isFalse (by intro e; cases e)
  | _ :: _, [] => isFalse (by intro e; cases e)
  | a :: as, b :: bs =>
    match Case.decEq a b with
    | isTrue h =>
      match Case.decEqList as bs with
      | isTrue h' => isTrue (by rw [h, h'])
      | isFalse h' => isFalse (by intro e; injection e with _ e₂; exact h' e₂)
    | isFalse h => isFalse (by intro e; injection e with e₁ _; exact h e₁)

end

instance : DecidableEq Command := Command.decEq

instance : DecidableEq Case := Case.decEq

instance : Inhabited Command := ⟨.op 0 []⟩

/-- A script and the event it answers. -/
structure Handler where
  event : UInt16
  commands : List Command
  deriving DecidableEq

/-- A rectangle in authored pixels, from the card's top left corner. -/
structure PixelRect where
  left : Int16
  top : Int16
  right : Int16
  bottom : Int16
  deriving DecidableEq, Repr, Inhabited

/-- A region of the card that answers the pointer. -/
structure HotspotRecord where
  id : UInt16
  rect : PixelRect
  cursor : UInt16
  name : String
  enabled : Bool
  scripts : List Handler
  deriving DecidableEq

/-- An entry of the picture list. -/
structure Picture where
  index : UInt16
  bitmap : UInt16
  rect : PixelRect
  deriving DecidableEq, Repr, Inhabited

/-- An entry of the sound list: sounds that play as one. -/
structure SoundGroup where
  index : UInt16
  sounds : List UInt16
  volume : UInt16
  looping : Bool
  deriving DecidableEq, Repr

/-- An entry of the movie list. The code names the slot in which the movie plays. -/
structure Movie where
  index : UInt16
  movie : UInt16
  code : UInt16
  left : Int16
  top : Int16
  looping : Bool
  deriving DecidableEq, Repr, Inhabited

/-- An entry of the button list: a hotspot to switch, and which way. -/
structure Button where
  index : UInt16
  enabled : Bool
  hotspot : UInt16
  deriving DecidableEq, Repr

/-- Everything an author stores about one card. -/
structure CardRecord where
  name : String := ""
  scripts : List Handler := []
  hotspots : List HotspotRecord := []
  pictures : List Picture := []
  soundGroups : List SoundGroup := []
  movies : List Movie := []
  buttons : List Button := []
  deriving DecidableEq, Inhabited

/-- The commands of the first handler for an event. -/
def Handler.find? (handlers : List Handler) (event : UInt16) : Option (List Command) :=
  (handlers.find? (·.event == event)).map (·.commands)

end Diorama
