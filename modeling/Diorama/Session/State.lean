import Diorama.Config
import Diorama.EventLog
import Diorama.GameState
import Diorama.Instruction
import Diorama.Media
import Diorama.OpenCard

/-!
# The state of a session

A session is one player's visit: what everybody can see of it, its *stage*, and what only the script
engine knows. The stage holds the stacks, both kinds of variables, the frames and requests handed to the
display, the player and the gate, and the event log. The engine's part is the open card, the pointer, the
flags that say in what circumstances a script runs, the cues that wait for a movie, and the requests that
are held until the screen may show them.

Beside the log, which forgets, the stage keeps everything that was handed over to somebody else: to the
log, to the display, to the player; and among it, when the display was allowed to be shown things, when it
took what it was handed, and what scripts asked for that is not handed over at once. That transcript is what
laws about the order of things are about: a moment of a session is a place in it. The engine for its part
keeps the commands that its scripts have begun, as not every command hands something over, and what it has had
the player start; and of each what the stage and the card were like at that moment, as these are what decides
about it.

Everything here is a plain function on states; no script runs yet.
-/

namespace Diorama

/-- What gave or took the permission to show the display something. -/
inductive UpdatesChange where
  /-- A script disabled updates. -/
  | disabled
  /-- A script enabled updates. -/
  | enabled
  /-- The screen-update script of the card begins, out of sight. -/
  | covered
  /-- The screen-update script has ended, and it is again as it was before. -/
  | restored (before : Bool)
  /-- A script has failed. -/
  | failed
  /-- The card is closed. -/
  | closed
  /-- A card is opened, and its prepare script runs out of sight. -/
  | opened
  /-- The card that was opened is to be seen. -/
  | shown
  deriving DecidableEq, Repr

/-- Whether updates are enabled after a change. -/
def UpdatesChange.enables : UpdatesChange → Bool
  | .enabled | .failed | .closed | .shown => true
  | .restored before => before
  | .disabled | .covered | .opened => false

/-- A command that waits until the movie under `code` has come to a time, in milliseconds. -/
structure Cue where
  code : UInt16
  due : Nat
  opcode : Opcode
  args : List UInt16
  deriving DecidableEq, Repr

def Cue.command (cue : Cue) : Command :=
  .op cue.opcode.code cue.args

/-- Whether the movie of a cue has come to its time, where these are the positions of the movies. -/
def Cue.isDue (positions : SortedMap UInt16 Nat) (cue : Cue) : Bool :=
  (positions.get? cue.code).any (cue.due ≤ ·)

/-- Something that was handed over, or on which it depends what may be. -/
inductive Happening where
  /-- An event, to the log. -/
  | recorded (notice : Notice)
  /-- A snapshot, to the display. -/
  | published (frame : CardFrame)
  /-- A request for a render state, to the display. -/
  | requested (state : RenderState)
  /-- A start, to the player. -/
  | started (media : MediaRef) (blocking : Bool)
  /-- A stop, to the player. -/
  | stopped (media : MediaRef)
  /-- The wait for the movie under a code has ended. -/
  | answered (code : UInt16) (outcome : GateOutcome)
  /-- Updates were enabled or disabled. -/
  | updates (change : UpdatesChange)
  /-- The display took the requests that it had been handed. -/
  | drained
  /-- A card that was asked for could not be opened. -/
  | refused (location : Location)
  /-- A chain of card changes was cut off. -/
  | cutOff
  /-- A script asked for a render state. -/
  | asked (state : RenderState)
  /-- A command was put on the schedule. -/
  | scheduled (cue : Cue)
  /-- On a tick, the cues that are due were taken off the schedule; these positions are what the player
  told. -/
  | cuesTaken (positions : SortedMap UInt16 Nat)
  /-- A cue that was taken is carried out. -/
  | cueFired (cue : Cue)

/-- The requests to the player among happenings, the oldest first, each with the generation that was on
display when it was made; before the first of them that was `generation`. -/
def Happening.requests (generation : Option Nat) : List Happening → List (MediaRequest × Option Nat)
  | [] => []
  | .published frame :: rest => requests (some frame.generation) rest
  | .started media blocking :: rest => (.start media blocking, generation) :: requests generation rest
  | .stopped media :: rest => (.stop media, generation) :: requests generation rest
  | _ :: rest => requests generation rest

/-- What everybody can see of a session. -/
structure Stage where
  config : EngineConfig
  resolver : Resolver
  settings : EngineVariables
  game : GameVariables := .empty
  frames : FrameSource := {}
  log : EventLog
  /-- The requests that the display has not taken yet, the oldest first. -/
  display : List RenderState := []
  player : MediaPlayer := {}
  gate : MovieGate := {}
  blockingMovie : Bool := false
  location : Option Location := none
  tornDown : Bool := false
  /-- Everything handed over so far, the latest first. -/
  transcript : List Happening := []

namespace Stage

def ofConfig (config : EngineConfig) (provider : Provider) (player : MediaPlayer) : Stage :=
  { config, resolver := { provider }, settings := config.initialVariables,
    log := .withCapacity config.eventLogCapacity.toNat, player }

def note (stage : Stage) (happening : Happening) : Stage :=
  { stage with transcript := happening :: stage.transcript }

def record (stage : Stage) (notice : Notice) : Stage :=
  { stage with log := stage.log.record notice.text }.note (.recorded notice)

/-- What would be saved of the game now. -/
def gameState (stage : Stage) : GameState :=
  { location := stage.location, game := stage.game }

def request (stage : Stage) (state : RenderState) : Stage :=
  ({ stage with display := stage.display ++ [state] }.note (.requested state)).record
    (.renderRequested state)

/-- Takes the requests that wait for the display. -/
def drainDisplay (stage : Stage) : List RenderState × Stage :=
  (stage.display, { stage with display := [] }.note .drained)

def resolve (stage : Stage) (key : String) : Except StackError Stack × Stage :=
  let (found, resolver) := stage.resolver.resolve key
  (found.map (·.stack), { stage with resolver })

/-- Loads a stack ahead, and records what came of it. -/
def preload (stage : Stage) (key : String) : Stage :=
  let (found, stage) := stage.resolve key
  stage.record <|
    match found with
    | .ok stack => .stackPreloaded stack.key
    | .error error => .stackRefused key error

/-- Starts something. The player may do something to the gate at once. -/
def startMedia (stage : Stage) (media : MediaRef) (blocking : Bool) : Stage :=
  let (calls, player) := stage.player.start media blocking
  { stage with player, gate := calls.foldl MovieGate.receive stage.gate }.note
    (.started media blocking)

def stopMedia (stage : Stage) (media : MediaRef) : Stage :=
  { stage with player := stage.player.stop media }.note (.stopped media)

end Stage

/-- Something that is done, and the stage and the open card at that moment. -/
structure Moment (α : Type) where
  what : α
  stage : Stage
  card : Option OpenCard

/-- Something that the player is asked to play, and whether it is waited for. -/
structure Start where
  media : MediaRef
  blocking : Bool
  deriving DecidableEq, Repr

/-- A stage, and what only the script engine knows. -/
structure Session extends Stage where
  mapper : Mapper Float32
  card : Option OpenCard := none
  tracker : HotspotTracker := {}
  pointer : Option (Point Float32) := none
  buttonDown : Bool := false
  /-- Whether the display may be shown what changes. -/
  updatesEnabled : Bool := true
  /-- Whether the screen-update script of the card is running. -/
  inScreenUpdate : Bool := false
  /-- Whether the leave script of the card is running. -/
  inLeave : Bool := false
  cues : List Cue := []
  /-- Requests for render states that the display has not been shown, the oldest first. -/
  held : List RenderState := []
  /-- The commands that scripts have begun so far, the latest first. -/
  begun : List (Moment Command) := []
  /-- What the player was asked to play so far, the latest first. -/
  starts : List (Moment Start) := []

namespace Session

def ofStage (stage : Stage) : Session :=
  { stage with
    mapper := .ofViewport stage.config.cardSize stage.config.margin stage.config.viewport }

def onStage (session : Session) (change : Stage → Stage) : Session :=
  { session with toStage := change session.toStage }

def record (session : Session) (notice : Notice) : Session :=
  session.onStage (·.record notice)

/-- A change of the open card, if there is one. -/
def onCard (session : Session) (change : OpenCard → OpenCard) : Session :=
  { session with card := session.card.map change }

/-- A change of what the open card shows. -/
def onVisual (session : Session) (change : CardVisual → CardVisual) : Session :=
  session.onCard fun card => { card with visual := change card.visual }

/-- A change of a movie of the open card, if it has one under that code. -/
def onMovie (session : Session) (code : UInt16) (change : MovieSlot → MovieSlot) : Session :=
  session.onVisual fun visual =>
    match visual.movies.get? code with
    | some slot => { visual with movies := visual.movies.insert code (change slot) }
    | none => visual

def changeUpdates (session : Session) (change : UpdatesChange) : Session :=
  { session.onStage (·.note (.updates change)) with updatesEnabled := change.enables }

/-- Keeps a request for a render state until the screen may show it. -/
def hold (session : Session) (state : RenderState) : Session :=
  { session.onStage (·.note (.asked state)) with held := session.held ++ [state] }

/-- Puts a cue on the schedule. -/
def schedule (session : Session) (cue : Cue) : Session :=
  { session.onStage (·.note (.scheduled cue)) with cues := session.cues ++ [cue] }

/-- The cues that are due, in the order in which they were put on the schedule. -/
def dueCues (session : Session) : List Cue :=
  session.cues.filter (·.isDue session.player.positions)

/-- Takes the cues that are due off the schedule. -/
def takeDue (session : Session) : Session :=
  { session.onStage (·.note (.cuesTaken session.player.positions)) with
    cues := session.cues.filter (!·.isDue session.player.positions) }

/-- A cue is carried out from here on. -/
def fire (session : Session) (cue : Cue) : Session :=
  session.onStage (·.note (.cueFired cue))

/-- How things are now, as something is done. -/
def moment {α : Type} (session : Session) (what : α) : Moment α :=
  { what, stage := session.toStage, card := session.card }

/-- A command is carried out from here on. -/
def begin (session : Session) (command : Command) : Session :=
  { session with begun := session.moment command :: session.begun }

def startMedia (session : Session) (media : MediaRef) (blocking : Bool) : Session :=
  { session.onStage (·.startMedia media blocking) with
    starts := session.moment { media, blocking } :: session.starts }

def activeHotspot (session : Session) : Option (Hotspot Float32) := do
  (← session.card).hotspots.get? (← session.tracker.active)

def hotspotUnderPointer (session : Session) : Option (Hotspot Float32) := do
  (← session.card).hotspots.hitWindow? session.mapper (← session.pointer)

/-! ## Handing things to the display -/

def request (session : Session) (state : RenderState) : Session :=
  session.onStage (·.request state)

/-- Hands the display the requests that are held, unless updates are disabled. -/
def flushHeld (session : Session) : Session :=
  if session.updatesEnabled then { session.held.foldl request session with held := [] }
  else session

/-- Hands the display a snapshot of the open card. -/
def showCard (session : Session) : Session :=
  match session.card with
  | none => session
  | some card =>
    let (frame, card, frames) := card.publish session.frames
    { session.onStage fun stage => { stage with frames }.note (.published frame) with
      card := some card }

/-- Hands the display a snapshot, and the requests that are held. -/
def publish (session : Session) : Session :=
  session.showCard.flushHeld

/-- Publishes what has changed, unless updates are disabled. -/
def publishIfNeeded (session : Session) : Session :=
  if session.updatesEnabled then
    (if session.card.any (·.needsPublish) then session.showCard else session).flushHeld
  else session

/-! ## Failing and closing -/

/-- A script has failed: the failure is reported, and whatever the screen was not shown is taken
back. -/
def scriptFailed (session : Session) (label : String) (error : ScriptError) : Session :=
  let settings :=
    (session.settings.insert EngineVariables.scriptErrorFlag (.bool true)).insert
      EngineVariables.lastScriptError (.string error.message)
  let session := { session with settings }.record (.scriptFailed label error)
  let session : Session :=
    { session with
      blockingMovie := false
      inScreenUpdate := false
      held := []
      card := session.card.map (·.discardUnpublished) }
  session.changeUpdates .failed

/-- A card that was asked for cannot be opened. It is reported as the failure of a script would be. -/
def refuse (session : Session) (location : Location) (error : ScriptError) : Session :=
  (session.onStage (·.note (.refused location))).scriptFailed "goto" error

end Session

/-- What the player is asked to play in a slot. -/
def MovieSlot.media (slot : MovieSlot) : MediaRef :=
  .movie slot.movie.code slot.movie.movie slot.movie.looping

/-- What the player is asked to play for a sound group. -/
def SoundGroup.media (group : SoundGroup) : MediaRef :=
  .soundGroup group.index group.sounds group.volume group.looping

namespace Session

/-- Everything the open card has playing, in the order in which it is stopped. -/
def playing (card : OpenCard) : List MediaRef :=
  let movies := (card.visual.movies.values.filter (·.playing)).map (·.media)
  let group := card.visual.soundGroup.bind fun index => (card.soundGroup index).toOption
  movies ++ (group.map (·.media)).toList

/-- Closes the open card: stops what it has playing and forgets what belongs to it. -/
def closeCard (session : Session) : Session :=
  match session.card with
  | none => session
  | some card =>
    let session :=
      { session with
        toStage := (playing card).foldl Stage.stopMedia session.toStage
        card := none
        cues := []
        tracker := {} }
    (session.changeUpdates .closed).record (.cardClosed card.location)

end Session

end Diorama
