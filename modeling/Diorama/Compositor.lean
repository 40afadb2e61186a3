import Diorama.CardFrame
import Diorama.Decimal

/-!
# The compositor

Shows one render state at a time, and while it changes, two: the old one fades out as the new one fades
in. A request for another state starts such a cross-fade; a request that arrives during one waits its
turn, and its turn comes when the fade is complete. A request for the state that is current at its turn
has nothing to do and is passed over.

One tick of the display clock renders the current state and then the incoming one, composites them, and
flushes them in the same order; a fade is complete at the end of the first tick in which the incoming
state has its full share.
-/

namespace Diorama

/-- A time or a span of time, in nanoseconds. -/
abbrev Nanoseconds := Nat

namespace Nanoseconds

def ofMilliseconds (n : Nat) : Nanoseconds := n * 1000000

def ofMicroseconds (n : Nat) : Nanoseconds := n * 1000

/-- A span in seconds, as a single: the whole seconds and the rest are rounded on their own. -/
def toSeconds (span : Nanoseconds) : Float32 :=
  (span / 1000000000).toUInt64.toFloat32 + (span % 1000000000).toUInt32.toFloat32 / 1000000000

end Nanoseconds

/-! ## Views -/

/-- What a layer shows. -/
inductive LayerContent where
  | blank
  | card (location : Location) (generation : Nat) (picture : Option UInt16)
    (moviesPlaying : List UInt16)
  | transitionMovie (frame : Nat)
  | credits (page : UInt32)
  deriving DecidableEq, Repr

/-- How many frames a page of the credits stays. -/
def framesPerPage : Nat := 30

/-- A render state on screen: how many frames it has flushed, and whether it has rendered one that is
not flushed yet. -/
structure View where
  state : RenderState
  frames : Nat := 0
  rendered : Bool := false
  deriving DecidableEq, Repr

namespace View

/-- What the view shows, given the latest snapshot of the card. -/
def content (view : View) (card : Option CardFrame) : LayerContent :=
  match view.state with
  | .card =>
    match card with
    | none => .blank
    | some frame =>
      .card frame.location frame.generation (frame.visual.picture.map (·.bitmap))
        ((frame.visual.movies.entries.filter fun slot => slot.2.enabled && slot.2.playing).map
          (·.1))
  | .transitionMovie => .transitionMovie view.frames
  | .credits => .credits (view.frames / framesPerPage).toUInt32

def render (view : View) : View :=
  { view with rendered := true }

def flush (view : View) : View :=
  { view with rendered := false, frames := view.frames + 1 }

end View

/-! ## Reports -/

/-- One layer of a frame. -/
structure Layer where
  state : RenderState
  alpha : Float32
  content : LayerContent

def Layer.text (layer : Layer) : String :=
  let content :=
    match layer.content with
    | .blank => "blank"
    | .card location generation picture movies =>
      let picture :=
        match picture with
        | some bitmap => s!" picture {bitmap}"
        | none => ""
      let movies :=
        if movies.isEmpty then ""
        else " movies [" ++ ", ".intercalate (movies.map toString) ++ "]"
      s!"card {location.text} gen {generation}" ++ picture ++ movies
    | .transitionMovie frame => s!"movie frame {frame}"
    | .credits page => s!"credits page {page}"
  s!"{layer.state.label} @ {Decimal.twoPlaces layer.alpha}: {content}"

/-- A step of drawing one frame. -/
inductive Hook where
  | render (state : RenderState)
  | composite
  | flush (state : RenderState)
  deriving DecidableEq, Repr

/-- What one tick of the display clock did. -/
structure FrameReport where
  frame : Nat
  current : RenderState
  incoming : Option RenderState
  blend : Float32
  layers : List Layer
  hooks : List Hook

/-! ## The compositor -/

/-- A view that is fading in since some time. -/
structure Incoming where
  view : View
  started : Nanoseconds
  deriving DecidableEq, Repr

/-- The current view, the one that is fading in, and the states requested after it. -/
structure Compositor where
  duration : Nanoseconds
  current : View := { state := .card }
  incoming : Option Incoming := none
  queued : List RenderState := []
  frame : Nat := 0
  deriving DecidableEq, Repr

namespace Compositor

def request (compositor : Compositor) (state : RenderState) (now : Nanoseconds) : Compositor :=
  if compositor.incoming.isSome then { compositor with queued := compositor.queued ++ [state] }
  else if state = compositor.current.state then compositor
  else { compositor with incoming := some ⟨{ state }, now⟩ }

def clamp (x : Float32) : Float32 :=
  if x < 0 then 0 else if 1 < x then 1 else x

/-- The share of the incoming state at some time: zero without one, and everything at once if fading
takes no time. A time before the fade's start counts as its start. -/
def blend (compositor : Compositor) (now : Nanoseconds) : Float32 :=
  match compositor.incoming with
  | none => 0
  | some incoming =>
    if compositor.duration = 0 then 1
    else
      clamp (Nanoseconds.toSeconds (now - incoming.started)
        / Nanoseconds.toSeconds compositor.duration)

/-- Takes waiting requests in turn until one of them starts a fade. -/
def startNext (compositor : Compositor) (now : Nanoseconds) : List RenderState → Compositor
  | [] => { compositor with queued := [] }
  | next :: rest =>
    if next = compositor.current.state then startNext compositor now rest
    else { compositor with incoming := some ⟨{ state := next }, now⟩, queued := rest }

/-- Makes the incoming state current, and starts the next fade. -/
def finish (compositor : Compositor) (now : Nanoseconds) : Compositor :=
  match compositor.incoming with
  | none => compositor
  | some incoming =>
    { compositor with current := incoming.view, incoming := none }.startNext now compositor.queued

def tick (compositor : Compositor) (now : Nanoseconds) (card : Option CardFrame) :
    FrameReport × Compositor :=
  let blend := compositor.blend now
  let current := compositor.current
  let incoming := compositor.incoming
  let currentLayer : Layer :=
    { state := current.state, alpha := if incoming.isSome then 1 - blend else 1,
      content := current.content card }
  let incomingLayer := incoming.map fun incoming : Incoming =>
    ({ state := incoming.view.state, alpha := blend, content := incoming.view.content card } : Layer)
  let incomingState := incoming.map (·.view.state)
  let report : FrameReport :=
    { frame := compositor.frame + 1
      current := current.state
      incoming := incomingState
      blend
      layers := currentLayer :: incomingLayer.toList
      hooks :=
        .render current.state :: (incomingState.map Hook.render).toList
          ++ [.composite, .flush current.state] ++ (incomingState.map Hook.flush).toList }
  let drawn : Compositor :=
    { compositor with
      frame := compositor.frame + 1
      current := current.render.flush
      incoming := incoming.map fun incoming =>
        { incoming with view := incoming.view.render.flush } }
  (report, if incoming.isSome && 1 ≤ blend then drawn.finish now else drawn)

end Compositor

end Diorama
