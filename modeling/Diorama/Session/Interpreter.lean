import Diorama.Session.State

/-!
# Programs and the interpreter

A program changes the session, and may wait and fail; the interpreter makes programs of command lists.
-/

namespace Diorama

/-! ## Programs

A program changes the session and ends with a value or a script error; what it changed before an error
stays changed. The one thing that is not a change of the session is waiting for a movie. A program that
waits stands still with the session as it is, and whoever ends the wait hands back the session, in which
others may have changed the stage meanwhile, together with the outcome.

So a program is a tree with a branch for every outcome of every wait. Where the outcome is there before
the wait begins, the program goes on without standing still, and a session whose player answers every
start at once never waits. -/

/-- How far a program has come. -/
inductive Progress (α : Type) where
  /-- It has ended. -/
  | done (session : Session) (result : α)
  /-- It waits for a movie, and goes on with a session and the outcome. -/
  | waiting (session : Session) (resume : Session → GateOutcome → Progress α)

namespace Progress

variable {α β : Type}

/-- Goes on with the result when there is one. -/
def bind (progress : Progress α) (next : Session → α → Progress β) : Progress β :=
  match progress with
  | .done session result => next session result
  | .waiting session resume =>
    .waiting session fun session outcome => (resume session outcome).bind next

def session : Progress α → Session
  | .done session _ => session
  | .waiting session _ => session

end Progress

/-- A program: it may change the session, wait, and fail. -/
def Script (α : Type) : Type :=
  Session → Progress (Except ScriptError α)

namespace Script

variable {α β : Type}

/-- A program that only gives a value. -/
def pure (value : α) : Script α := fun session =>
  .done session (.ok value)

/-- One program and then another. An error ends both. -/
def bind (script : Script α) (next : α → Script β) : Script β := fun session =>
  (script session).bind fun session result =>
    match result with
    | .ok value => next value session
    | .error error => .done session (.error error)

instance : Monad Script where
  pure := Script.pure
  bind := Script.bind

def fail (error : ScriptError) : Script α := fun session =>
  .done session (.error error)

/-- Fails if there is an error, and gives the value otherwise. -/
def lift : Except ScriptError α → Script α
  | .ok value => pure value
  | .error error => fail error

def get : Script Session := fun session =>
  .done session (.ok session)

def modify (change : Session → Session) : Script Unit := fun session =>
  .done (change session) (.ok ())

/-- Runs a program to its end and gives its error as a value. -/
def attempt (script : Script α) : Script (Except ScriptError α) := fun session =>
  (script session).bind fun session result => .done session (.ok result)

/-- Waits for the movie that the gate is armed for. -/
def awaitMovie : Script GateOutcome := fun session =>
  match session.gate.wait? with
  | some (outcome, gate) => .done { session with gate } (.ok outcome)
  | none => .waiting session fun session outcome => .done session (.ok outcome)

end Script

/-! ## Command lists

Runs command lists on a session. After every command the screen is brought up to date, unless updates are
disabled; a card change that is asked for ends the list and everything around it; so does the end of the
world.

Command lists lie inside one another through branches and through the screen-update script, which runs
when updates are enabled again. Each list is told how many lists may lie below it, and the one below the
last is refused. That number is what the recursion counts down. -/

/-- How a command list ended. -/
inductive Flow where
  | next
  /-- A card change was asked for; the rest is dropped. -/
  | goto (target : Location)
  /-- The world is coming down. -/
  | halt
  deriving DecidableEq, Repr

namespace Script

def openCard : Script OpenCard := do
  match (← get).card with
  | some card => pure card
  | none => fail .noActiveCard

/-- The name of a variable of the open card's stack. -/
def variableName (index : UInt16) : Script String := do
  match (← openCard).stack.variableName? index with
  | some name => pure name
  | none => fail (.unknownVariable index)

def movieSlot (code : UInt16) : Script MovieSlot := do
  match (← openCard).visual.movies.get? code with
  | some slot => pure slot
  | none => fail (.unknownMovie code)

def record (notice : Notice) : Script Unit :=
  modify (·.record notice)

def startMedia (media : MediaRef) : Script Unit :=
  modify (·.startMedia media false)

def stopMedia (media : MediaRef) : Script Unit :=
  modify (·.onStage (·.stopMedia media))

/-- Whether an engine variable is true. -/
def flag (path : String) : Script Bool := do
  return (← get).settings.flag path

/-! ### Commands -/

/-- Asks for a card of the same stack. A leave script is not followed. -/
def gotoCard (id : UInt16) : Script Flow := do
  if (← get).inLeave then return .next
  else return .goto { stack := (← openCard).location.stack, id }

def setHotspot (id : UInt16) (enabled : Bool) : Script Unit := do
  let card ← openCard
  match card.hotspots.setEnabled? id enabled with
  | some hotspots => modify (·.onCard fun card => { card with hotspots })
  | none => fail (.unknownHotspot id)

/-- Stops the sound group, if there is one. -/
def clearSoundGroup : Script Unit := do
  let card ← openCard
  match card.visual.soundGroup with
  | none => pure ()
  | some index =>
    modify (·.onVisual fun visual => { visual with soundGroup := none })
    stopMedia (← lift (card.soundGroup index)).media

/-- Puts a sound group in place of the one before it. -/
def activateSoundGroup (index : UInt16) : Script Unit := do
  let card ← openCard
  let group ← lift (card.soundGroup index)
  let previous := (card.visual.soundGroup.filter (· != group.index)).bind fun index =>
    (card.soundGroup index).toOption
  modify (·.onVisual fun visual => { visual with soundGroup := some group.index })
  match previous with
  | some previous => stopMedia previous.media
  | none => pure ()
  if ← flag EngineVariables.ambientSoundsEnabled then startMedia group.media

/-- Puts a movie into the slot of its code, in place of the one before it; gives the code. -/
def activateMovie (index : UInt16) : Script UInt16 := do
  let card ← openCard
  let movie ← lift (card.movie index)
  let replaced := card.visual.movies.get? movie.code
  modify (·.onVisual fun visual =>
    { visual with movies := visual.movies.insert movie.code { movie } })
  match replaced with
  | some slot => if slot.playing then stopMedia slot.media
  | none => pure ()
  return movie.code

def startMovie (code : UInt16) : Script Unit := do
  if ← flag EngineVariables.moviesEnabled then
    let slot ← movieSlot code
    if slot.enabled then
      modify (·.onMovie code fun slot => { slot with playing := true })
      startMedia slot.media
      record (.movieStarted code)
  else record (.movieLeftOut code)

/-- Starts a movie and waits for it. The gate is armed before the player can answer. -/
def startMovieBlocking (code : UInt16) : Script Flow := do
  if ← flag EngineVariables.moviesEnabled then
    let slot ← movieSlot code
    modify fun session =>
      (session.onMovie code fun slot => { slot with playing := true }).publishIfNeeded
    modify fun session => { session with gate := session.gate.arm code, blockingMovie := true }
    record (.movieAwaited code)
    modify (·.startMedia slot.media true)
    let outcome ← awaitMovie
    modify fun session =>
      { session.onStage (·.note (.answered code outcome)) with blockingMovie := false }
    modify (·.onMovie code fun slot => { slot with playing := false })
    match outcome with
    | .completed => return .next
    | .skipped =>
      stopMedia slot.media
      record (.movieSkipped code)
      return .next
    | .aborted => return .halt
  else
    record (.movieLeftOut code)
    return .next

/-- Stops a movie, if it is playing. -/
def stopMovie (code : UInt16) : Script Unit := do
  let slot ← movieSlot code
  if slot.playing then
    modify (·.onMovie code fun slot => { slot with playing := false })
    stopMedia slot.media

def setMovie (code : UInt16) (enabled : Bool) : Script Unit := do
  let _ ← movieSlot code
  modify (·.onMovie code fun slot => { slot with enabled })

/-- Enables updates and shows what has changed; the screen-update script of the card runs first, out of
sight, unless it is the one that asks. -/
def enableScreenUpdates (inner : List Command → Script Flow) : Script Flow := do
  let show_ : Script Flow := do
    modify fun session => (session.changeUpdates .enabled).publish
    return .next
  if (← get).inScreenUpdate then show_
  else
    match (← openCard).script? .screenUpdate with
    | none => show_
    | some commands =>
      let before := (← get).updatesEnabled
      modify fun session => { session with inScreenUpdate := true }.changeUpdates .covered
      let result ← attempt (inner commands)
      modify fun session =>
        { session.changeUpdates (.restored before) with inScreenUpdate := false }
      match ← lift result with
      | .next => show_
      | flow => return flow

def carryOut (inner : List Command → Script Flow) (instruction : Instruction) : Script Flow :=
  match instruction with
  | .gotoCard id => gotoCard id
  | .playSound id volume => do
    startMedia (.sound id volume)
    record (.soundPlayed id)
    return .next
  | .setVariable index value => do
    let name ← variableName index
    modify fun session => { session with game := session.game.insert name value }
    return .next
  | .setHotspot id enabled => do
    setHotspot id enabled
    return .next
  | .clearSoundGroup => do
    clearSoundGroup
    return .next
  | .setCursor cursor => do
    let _ ← openCard
    modify (·.onVisual fun visual => { visual with cursor := some cursor })
    return .next
  | .callExternal id args => do
    record (.externalCalled id args)
    return .next
  | .scheduleTransition state => do
    modify (·.hold state)
    return .next
  | .refresh => do
    modify fun session => if session.updatesEnabled then session.publish else session
    return .next
  | .disableScreenUpdates => do
    modify (·.changeUpdates .disabled)
    return .next
  | .enableScreenUpdates => enableScreenUpdates inner
  | .setMovie code enabled => do
    setMovie code enabled
    return .next
  | .disableAllMovies => do
    let _ ← openCard
    modify (·.onVisual fun visual =>
      { visual with movies := visual.movies.mapValues fun slot => { slot with enabled := false } })
    return .next
  | .startMovieBlocking code => startMovieBlocking code
  | .startMovie code => do
    startMovie code
    return .next
  | .stopMovie code => do
    stopMovie code
    return .next
  | .scheduleCommand code due opcode args => do
    modify (·.schedule { code, due, opcode, args })
    return .next
  | .activatePicture index => do
    let picture ← lift ((← openCard).picture index)
    modify (·.onVisual fun visual => { visual with picture := some picture })
    return .next
  | .activateSoundGroup index => do
    activateSoundGroup index
    return .next
  | .activateMovie index => do
    let _ ← activateMovie index
    return .next
  | .activateMovieAndStart index => do
    startMovie (← activateMovie index)
    return .next
  | .activateButton index => do
    let button ← lift ((← openCard).button index)
    setHotspot button.hotspot button.enabled
    return .next

/-- The case of a branch that is taken: the first with the value, or else the first default. -/
def selectCase? (cases : List Case) (value : UInt16) : Option Case :=
  (cases.find? (·.value == value)).or (cases.find? (·.value == defaultCase))

/-- Runs the case that fits a variable, if any does. -/
def branch (inner : List Command → Script Flow) (index : UInt16) (cases : List Case) :
    Script Flow := do
  let name ← variableName index
  match selectCase? cases ((← get).game.value name) with
  | some taken => inner taken.commands
  | none => return .next

/-- Runs one command; `inner` runs the lists that lie in it. -/
def runCommand (inner : List Command → Script Flow) : Command → Script Flow
  | .op opcode args => do carryOut inner (← lift (Instruction.decode opcode args))
  | .branch index cases => branch inner index cases

/-- Runs commands in order, bringing the screen up to date after each. -/
def runEach (run : Command → Script Flow) : List Command → Script Flow
  | [] => return .next
  | command :: rest => do
    if (← get).tornDown then return .halt
    else
      modify (·.begin command)
      match ← run command with
      | .next =>
        modify (·.publishIfNeeded)
        runEach run rest
      | flow => return flow

/-- Runs a command list, below which fewer than `room` lists may lie. -/
def runList : (room : Nat) → List Command → Script Flow
  | 0, _ => fail .tooDeep
  | room + 1, commands => runEach (runCommand (runList room)) commands

/-- Runs a script to its end. An error is reported and goes no further; a card change that was asked for
is the result. -/
def runScript (label : String) (commands : List Command) : Script (Option Location) := do
  match ← attempt (runList (maxScriptDepth + 1) commands) with
  | .ok (.goto target) => return some target
  | .ok _ => return none
  | .error error =>
    modify (·.scriptFailed label error)
    return none

/-- Runs a script of the open card, if it has one. -/
def runCardScript (trigger : Trigger) : Script (Option Location) := do
  match (← get).card.bind (·.script? trigger) with
  | some commands => runScript trigger.label commands
  | none => return none

/-- Runs a script of a hotspot, if there is such a hotspot and it has one. -/
def runHotspotScript (index : UInt16) (trigger : Trigger) : Script (Option Location) := do
  match (← get).card.bind (·.hotspots.get? index) with
  | none => return none
  | some hotspot =>
    match hotspot.script? trigger.event with
    | some commands =>
      runScript s!"hotspot {hotspot.describe} {trigger.label}" commands
    | none => return none

/-- Runs a script of the hotspot that the pointer is in. -/
def runActiveHotspot (trigger : Trigger) : Script (Option Location) := do
  match (← get).tracker.active with
  | some index => runHotspotScript index trigger
  | none => return none

end Script

end Diorama
