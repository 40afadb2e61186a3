import Diorama.Session.Interpreter

/-!
# What can happen to a session

The events that come from outside: card changes and restored games, the pointer and its button, the
window, the animation clock, and movies that end. Each runs the scripts it calls for, follows the card
changes they ask for, and then settles: the pointer is tested again until it no longer moves into or out
of a hotspot.

A card is opened before the old one is left, so a card that cannot be opened changes nothing. Leaving runs
the leave script, whose own wishes for another card are ignored; arriving runs the prepare script out of
sight, shows the card, and runs the start script unless the prepare script asked to go on elsewhere.

Settling takes at most thirty-two turns. A chain of card changes that is longer is cut off.
-/

namespace Diorama

def maxCardChain : Nat := 32

namespace Script

/-- Finds a card and opens it, without showing it. -/
def loadCard (location : Location) : Script OpenCard := do
  let (found, stage) := (← get).toStage.resolve location.stack
  modify fun session => { session with toStage := stage }
  match found with
  | .error error => fail (.stack error)
  | .ok stack =>
    match OpenCard.load stack location.id (← get).mapper with
    | .error error => fail (.stack error)
    | .ok card => pure card

/-- Leaves the open card, if there is one. -/
def leaveCard : Script Unit := do
  if (← get).card.isSome then
    modify fun session => { session with inLeave := true }
    let _ ← runCardScript .leave
    modify fun session => { session with inLeave := false }
    modify (·.closeCard)

/-- Arrives at a card, with no other card open. The result is a further card change that its scripts ask
for. -/
def arriveAt (location : Location) (card : OpenCard) : Script (Option Location) := do
  record (.cardOpened location)
  modify fun session =>
    { session with card := some card, location := some location }.changeUpdates .opened
  let redirected ← runCardScript .prepare
  modify fun session => (session.changeUpdates .shown).publish
  match redirected with
  | some target => return some target
  | none => runCardScript .start

def changeCard (location : Location) : Script (Option Location) := do
  let card ← loadCard location
  leaveCard
  arriveAt location card

/-- Makes a move of the pointer known: records it and runs the script for it. -/
def makeMove (move : HotspotMove) : Script (Option Location) := do
  let (index, trigger, notice) :=
    match move with
    | .exited index => (index, Trigger.mouseExit, Notice.hotspotExited)
    | .entered index => (index, Trigger.mouseEnter, Notice.hotspotEntered)
  match (← get).card.bind (·.hotspots.get? index) with
  | some hotspot => record (notice hotspot)
  | none => pure ()
  runHotspotScript index trigger

/-- Makes moves known, until one of them asks for a card change. -/
def makeMoves : List HotspotMove → Script (Option Location)
  | [] => return none
  | move :: rest => do
    match ← makeMove move with
    | some target => return some target
    | none => makeMoves rest

/-- Tests where the pointer is, and makes known where it came from and went. -/
def refreshHover : Script (Option Location) := do
  let session ← get
  let hit := session.hotspotUnderPointer.map (·.index)
  modify fun session => { session with tracker := session.tracker.moveTo hit }
  makeMoves (session.tracker.moves hit)

/-- Goes to a card if one is asked for. A card that cannot be opened is reported. -/
def followTo : Option Location → Script (Option Location)
  | none => return none
  | some location => do
    match ← attempt (changeCard location) with
    | .ok next => return next
    | .error error =>
      modify (·.refuse location error)
      return none

/-- Follows card changes, then tests the pointer, until there is nothing more to do or the turns are
used up. -/
def settleWithin : (turns : Nat) → Option Location → Script Unit
  | 0, _ => modify (·.onStage (·.note .cutOff))
  | turns + 1, pending => do
    match ← followTo pending with
    | some next => settleWithin turns (some next)
    | none =>
      match ← refreshHover with
      | some next => settleWithin turns (some next)
      | none => return ()

def settle (pending : Option Location) : Script Unit :=
  settleWithin maxCardChain pending

/-- Runs cues in order, until one of them asks for a card change. -/
def runCues : List Cue → Script (Option Location)
  | [] => return none
  | cue :: rest => do
    modify (·.fire cue)
    match ← runScript s!"movie {cue.code} cue" [cue.command] with
    | some target => return some target
    | none => runCues rest

/-- Takes the cues that are due off the schedule and runs them. -/
def fireCues : Script (Option Location) := do
  let due := (← get).dueCues
  modify (·.takeDue)
  runCues due

/-! ## Events -/

/-- Goes to a card. If it cannot be opened, the open card stays. -/
def goto (location : Location) : Script Unit := do
  match ← attempt (changeCard location) with
  | .ok pending => settle pending
  | .error error =>
    modify (·.refuse location error)
    fail error

/-- Puts the game variables in place and goes to the saved location. If it cannot be opened, the game
variables are as before. -/
def restore (state : GameState) : Script Unit := do
  let before := (← get).game
  modify fun session => { session with game := state.game }
  match state.location with
  | none => pure ()
  | some location =>
    match ← attempt (goto location) with
    | .ok _ => pure ()
    | .error error =>
      modify fun session => { session with game := before }
      fail error
  record .stateRestored

def pointerMoved (point : Point Float32) : Script Unit := do
  modify fun session => { session with pointer := some point }
  settle none

def pointerDown : Script Unit := do
  modify fun session => { session with buttonDown := true }
  settle (← runActiveHotspot .mouseDown)

def pointerUp : Script Unit := do
  modify fun session => { session with buttonDown := false }
  settle (← runActiveHotspot .mouseUp)

def viewportChanged (viewport : Size Float32) : Script Unit := do
  modify fun session =>
    let mapper := session.mapper.resize viewport
    { session with
      mapper
      card := session.card.map fun card => { card with hotspots := card.hotspots.resize mapper } }
  modify (·.publishIfNeeded)
  settle none

/-- The animation clock has ticked: the hotspot that the pointer is in runs its scripts for being inside
and for the held button, and cues run whose time has come. The first card change asked for ends it. -/
def animationTick : Script Unit := do
  if (← get).card.isSome then
    let inside ← runActiveHotspot .mouseInside
    let held ←
      if inside.isNone && (← get).buttonDown then runActiveHotspot .mouseStillDown
      else pure inside
    let pending ← if held.isNone then fireCues else pure held
    settle pending

/-- A movie that nobody waited for has ended. -/
def movieFinished (code : UInt16) : Script Unit := do
  if (← get).card.isSome then
    modify (·.onMovie code fun slot =>
      if slot.movie.looping then slot else { slot with playing := false })
    record (.movieFinished code)
    modify (·.publishIfNeeded)

/-- The session ends: the open card is closed without running its scripts. -/
def shutdown : Script Unit :=
  modify (·.closeCard)

end Script

end Diorama
