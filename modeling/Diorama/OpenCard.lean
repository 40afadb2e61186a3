import Diorama.CardFrame
import Diorama.Hotspot
import Diorama.Instruction
import Diorama.Stack.Document

/-!
# The card that is open

An open card is its record, its hotspots with their places in the window, and what it shows at the
moment. What it shows changes as scripts run; the display sees none of it until the card publishes a
snapshot.

A card needs to publish when it has not published at all, or when what it shows differs from its last
snapshot. Only that which can change during a visit is compared: pictures, sounds, movies, cursor, and of
every hotspot whether it is enabled and where it lies.
-/

namespace Diorama

/-- What a script of a card or hotspot answers to. -/
inductive Trigger where
  | mouseDown
  | mouseStillDown
  | mouseUp
  | mouseEnter
  | mouseInside
  | mouseExit
  | prepare
  | leave
  | start
  | screenUpdate
  deriving DecidableEq, Repr

namespace Trigger

/-- The event number by which records name a trigger. -/
def event : Trigger → UInt16
  | .mouseDown => 0
  | .mouseStillDown => 1
  | .mouseUp => 2
  | .mouseEnter => 3
  | .mouseInside => 4
  | .mouseExit => 5
  | .prepare => 6
  | .leave => 7
  | .start => 9
  | .screenUpdate => 10

def label : Trigger → String
  | .mouseDown => "mouse_down"
  | .mouseStillDown => "mouse_still_down"
  | .mouseUp => "mouse_up"
  | .mouseEnter => "mouse_enter"
  | .mouseInside => "mouse_inside"
  | .mouseExit => "mouse_exit"
  | .prepare => "prepare"
  | .leave => "leave"
  | .start => "start"
  | .screenUpdate => "screen_update"

end Trigger

/-- The card that is open. -/
structure OpenCard where
  stack : Stack
  id : UInt16
  record : CardRecord
  hotspots : HotspotTable Float32
  visual : CardVisual := {}
  /-- The last snapshot of this visit. -/
  published : Option CardFrame := none

namespace OpenCard

/-- Opens a card of a stack for a window. -/
def load (stack : Stack) (id : UInt16) (mapper : Mapper Float32) : Except StackError OpenCard := do
  let record ← stack.loadCard id
  return { stack, id, record, hotspots := .ofRecords mapper record.hotspots }

def location (card : OpenCard) : Location :=
  card.stack.location card.id

/-- The commands of the card's own script for a trigger. -/
def script? (card : OpenCard) (trigger : Trigger) : Option (List Command) :=
  Handler.find? card.record.scripts trigger.event

/-- The first entry with an index, or the error that names the list. -/
def entry {α : Type} (list : ResourceList) (entries : List α) (indexOf : α → UInt16)
    (index : UInt16) : Except ScriptError α :=
  match entries.find? (indexOf · == index) with
  | some found => .ok found
  | none => .error (.noResource list index)

def picture (card : OpenCard) : UInt16 → Except ScriptError Picture :=
  entry .pictures card.record.pictures (·.index)

def soundGroup (card : OpenCard) : UInt16 → Except ScriptError SoundGroup :=
  entry .soundGroups card.record.soundGroups (·.index)

def movie (card : OpenCard) : UInt16 → Except ScriptError Movie :=
  entry .movies card.record.movies (·.index)

def button (card : OpenCard) : UInt16 → Except ScriptError Button :=
  entry .buttons card.record.buttons (·.index)

def hotspotFrames (card : OpenCard) : List HotspotFrame :=
  card.hotspots.hotspots.map fun hotspot =>
    { id := hotspot.id, enabled := hotspot.enabled, frame := hotspot.frame }

def snapshot (card : OpenCard) (generation : Nat) : CardFrame :=
  { location := card.location, name := card.record.name, generation, visual := card.visual,
    hotspots := card.hotspotFrames }

def publish (card : OpenCard) (source : FrameSource) : CardFrame × OpenCard × FrameSource :=
  let generation := source.generation + 1
  let frame := card.snapshot generation
  (frame, { card with published := some frame }, { latest := some frame, generation })

/-- Takes picture and cursor back to the last snapshot. What is played goes on, so movies and the sound
group stay as they are. -/
def discardUnpublished (card : OpenCard) : OpenCard :=
  let shown := card.published.map (·.visual)
  { card with
    visual :=
      { card.visual with
        picture := shown.bind (·.picture)
        cursor := shown.bind (·.cursor) } }

/-- Whether a hotspot shows something else than it did. -/
def differs (shown live : HotspotFrame) : Bool :=
  shown.enabled != live.enabled || shown.frame != live.frame

/-- Whether the card shows something else than its last snapshot. -/
def needsPublish (card : OpenCard) : Bool :=
  match card.published with
  | some frame =>
    frame.visual != card.visual
      || (frame.hotspots.zip card.hotspotFrames).any fun pair => differs pair.1 pair.2
  | none => true

end OpenCard

end Diorama
