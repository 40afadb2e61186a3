import Diorama.GameState
import Diorama.Geometry
import Diorama.SortedMap

/-!
# What the display shows

The whole screen is in one of three states. In the state of the card it shows a snapshot of the open card,
and the other two have pictures of their own.
-/

namespace Diorama

/-! ## Render states

What the whole screen can show: the card, a movie between two places, or the credits. Scripts name
them by number. -/

/-- What the whole screen shows. -/
inductive RenderState where
  | card
  | transitionMovie
  | credits
  deriving DecidableEq, Repr

namespace RenderState

/-- The render state with a number, if there is one. -/
def ofCode? (code : UInt16) : Option RenderState :=
  match code.toNat with
  | 0 => some .card
  | 1 => some .transitionMovie
  | 2 => some .credits
  | _ => none

def label : RenderState → String
  | .card => "card"
  | .transitionMovie => "transition_movie"
  | .credits => "credits"

end RenderState

/-! ## Snapshots of a card

The part of an open card that can be seen or heard, and the snapshots of it that are handed to the
display. A snapshot never changes: it holds its own copy of everything, with a generation that tells it
from every other snapshot.

Whether two snapshots show the same is a comparison of numbers where windows are concerned, so a
rectangle that is not a number differs even from itself. -/

/-- A movie of the card and what it is doing. -/
structure MovieSlot where
  movie : Movie
  enabled : Bool := true
  playing : Bool := false
  deriving DecidableEq, Repr

/-- Everything about a card that can show: a picture, a sound group, movies by their codes, a
cursor. -/
structure CardVisual where
  picture : Option Picture := none
  soundGroup : Option UInt16 := none
  movies : SortedMap UInt16 MovieSlot := .empty
  cursor : Option UInt16 := none
  deriving DecidableEq

/-- What is shown of a hotspot. -/
structure HotspotFrame where
  id : UInt16
  enabled : Bool
  frame : Rect Float32
  deriving BEq

/-- A snapshot of a card for the display. -/
structure CardFrame where
  location : Location
  name : String
  generation : Nat
  visual : CardVisual
  hotspots : List HotspotFrame

/-- The place where the display finds the latest snapshot, and how many have been numbered. -/
structure FrameSource where
  latest : Option CardFrame := none
  generation : Nat := 0

end Diorama
