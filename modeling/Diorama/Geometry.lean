import Diorama.Card.Record

/-!
# Card space and window space

Authors place things in *card space*: a fixed size, the origin in the top left corner, y growing
downwards. The window has a size of its own, its origin in the bottom left corner, y growing upwards.
The card is shown in the *frame*, the largest rectangle of the card's aspect that fits between the
margin at the bottom of the window and its top; a mapper holds the frame of one window size and
converts in both directions.

Where nothing can be shown (a size without area, or no room above the margin) the frame is the zero
rectangle, everything in card space is mapped to the zero rectangle, and every point of the window is
mapped to the card's origin.

The arithmetic is written over any type of coordinates. The engine runs on singles; the same
definitions over exact fractions say what it computes up to rounding.
-/

namespace Diorama

/-- What geometry asks of a number: the four operations, whole pixels, comparisons that are false of
what is not a number, and to know infinities. -/
class Coordinate (R : Type) extends Add R, Sub R, Mul R, Div R where
  ofPixel : Int16 → R
  below : R → R → Bool
  atMost : R → R → Bool
  finite : R → Bool
  infinite : R → Bool

instance : Coordinate Float32 where
  ofPixel n := .ofInt n.toInt
  below a b := a < b
  atMost a b := a ≤ b
  finite a := a.isFinite
  infinite a := a.isInf

/-- A width and a height. -/
structure Size (R : Type) where
  width : R
  height : R
  deriving BEq, Inhabited

/-- A place. -/
structure Point (R : Type) where
  x : R
  y : R
  deriving BEq, Inhabited

/-- A rectangle of the window: its bottom left corner and its size. -/
structure Rect (R : Type) where
  x : R
  y : R
  width : R
  height : R
  deriving BEq, Inhabited

/-- A rectangle of the card: its four sides. -/
structure CardRect (R : Type) where
  left : R
  top : R
  right : R
  bottom : R
  deriving BEq, Inhabited

variable {R : Type} [Coordinate R]

open Coordinate

def Coordinate.zero : R := ofPixel 0

/-- The greater of a coordinate and zero; zero if it is not a number. -/
def Coordinate.orZero (a : R) : R :=
  if below zero a then a else zero

namespace Size

/-- Whether there is no area, or no finite one. -/
def isDegenerate (size : Size R) : Bool :=
  !(below zero size.width && below zero size.height) || !finite size.width || !finite size.height

def aspect (size : Size R) : R :=
  size.width / size.height

end Size

/-- The rectangle without area at the window's origin. -/
def Rect.zero : Rect R := ⟨Coordinate.zero, Coordinate.zero, Coordinate.zero, Coordinate.zero⟩

namespace CardRect

/-- The rectangle without area at the card's origin. -/
def zero : CardRect R := ⟨Coordinate.zero, Coordinate.zero, Coordinate.zero, Coordinate.zero⟩

def width (rect : CardRect R) : R :=
  rect.right - rect.left

def height (rect : CardRect R) : R :=
  rect.bottom - rect.top

/-- Whether a point lies inside: the left and top sides belong to the rectangle, the others do
not. -/
def contains (rect : CardRect R) (point : Point R) : Bool :=
  atMost rect.left point.x && below point.x rect.right && atMost rect.top point.y
    && below point.y rect.bottom

def ofPixels (rect : PixelRect) : CardRect R :=
  ⟨ofPixel rect.left, ofPixel rect.top, ofPixel rect.right, ofPixel rect.bottom⟩

end CardRect

/-- The size of the card in a window, `available` being the height above the margin: the card is as
wide as the window or as high as what is available, whichever is met first. -/
def fittedSize (viewport : Size R) (aspect available : R) : Size R :=
  if below aspect viewport.aspect then
    let height := viewport.width / aspect
    if below available height then ⟨available * aspect, available⟩ else ⟨viewport.width, height⟩
  else
    let width := available * aspect
    if below viewport.width width then ⟨viewport.width, viewport.width / aspect⟩
    else ⟨width, available⟩

/-- The rectangle of the window in which a card of size `card` is shown, `margin` above the bottom.
A negative margin counts as none. -/
def effectiveFrame (viewport card : Size R) (margin : R) : Rect R :=
  let margin := orZero margin
  let available := viewport.height - margin
  if viewport.isDegenerate || card.isDegenerate || !below zero available then .zero
  else
    let size := fittedSize viewport card.aspect available
    ⟨(viewport.width - size.width) / ofPixel 2, margin, size.width, size.height⟩

/-- Converts between card and window for one size of the window. The frame is worked out when the
size changes. -/
structure Mapper (R : Type) where
  card : Size R
  margin : R
  viewport : Size R
  frame : Rect R
  deriving Inhabited

namespace Mapper

def ofViewport (card : Size R) (margin : R) (viewport : Size R) : Mapper R :=
  ⟨card, margin, viewport, effectiveFrame viewport card margin⟩

/-- The mapper after the window has changed its size. -/
def resize (mapper : Mapper R) (viewport : Size R) : Mapper R :=
  .ofViewport mapper.card mapper.margin viewport

/-- How many window units a card pixel takes in both directions, if the card is shown at all. -/
def scale? (mapper : Mapper R) : Option (R × R) :=
  if below zero mapper.frame.width && below zero mapper.frame.height then
    some (mapper.frame.width / mapper.card.width, mapper.frame.height / mapper.card.height)
  else none

/-- Where a rectangle of the card lies in the window. -/
def toWindow (mapper : Mapper R) (rect : CardRect R) : Rect R :=
  match mapper.scale? with
  | none => .zero
  | some (scaleX, scaleY) =>
    let fromBottom := mapper.card.height - rect.bottom
    ⟨mapper.frame.x + rect.left * scaleX, mapper.frame.y + fromBottom * scaleY,
      rect.width * scaleX, rect.height * scaleY⟩

/-- Where a rectangle of the window lies on the card. One that is infinite both ways stands for a
point and has no size. -/
def toCard (mapper : Mapper R) (rect : Rect R) : CardRect R :=
  match mapper.scale? with
  | none => .zero
  | some (scaleX, scaleY) =>
    let isPoint := infinite rect.width && infinite rect.height
    let left := (rect.x - mapper.frame.x) / scaleX
    let fromBottom := (rect.y - mapper.frame.y) / scaleY
    let width := (if isPoint then zero else rect.width) / scaleX
    let height := (if isPoint then zero else rect.height) / scaleY
    let bottom := mapper.card.height - fromBottom
    ⟨left, bottom - height, left + width, bottom⟩

/-- Where a point of the window lies on the card. -/
def pointToCard (mapper : Mapper R) (point : Point R) : Point R :=
  let rect := mapper.toCard ⟨point.x, point.y, zero, zero⟩
  ⟨rect.left, rect.top⟩

end Mapper

end Diorama
