import Diorama.Proofs.Logic

/-!
# What can happen to a session, one thing at a time

The list of everything that the engine does to a session, said once, so that what every run keeps is
proved by going through the list and never by going through the programs.

`ScriptAct` is what happens while a command list runs: what its commands do, what a report of its failure
does, and what others do while it waits. `EngineAct` is what happens around the scripts: cards are
opened and closed, the pointer is tracked, cues are taken off the schedule. A constructor gives the session
afterwards as a function of the one before, under the conditions on which the engine does it; so a
constructor is as much as a proof may rely on.

That the interpreter does nothing else is `Script.runList_does`, and that the events do nothing else is
`Event.sat`. Both are about chains of acts, and chains compose.
-/

namespace Diorama

/-- The events that commands record, other than that a movie is waited for. -/
def Notice.OfScript : Notice → Prop
  | .soundPlayed _ | .movieStarted _ | .movieLeftOut _ | .movieSkipped _ | .externalCalled _ _ => True
  | _ => False

/-- The events that are recorded around scripts, other than that a card is opened or closed. -/
def Notice.OfEngine : Notice → Prop
  | .hotspotEntered _ | .hotspotExited _ | .movieFinished _ | .stateRestored => True
  | _ => False

/-- The changes of the permission to show that commands make. -/
def UpdatesChange.OfScript : UpdatesChange → Prop
  | .disabled | .enabled | .covered | .restored _ => True
  | _ => False

/-- Whether the card that is open has been shown, after what has happened, the latest first. -/
def Happening.revealed : List Happening → Bool
  | [] => false
  | .updates .shown :: _ => true
  | .updates .opened :: _ | .updates .closed :: _ => false
  | _ :: earlier => revealed earlier

/-- What happens while a command list runs. -/
inductive ScriptAct (session : Session) : Session → Prop where
  | suffered (act : Outside) : ScriptAct session (session.suffer act)
  | answered {outcome : GateOutcome} {gate : MovieGate}
      (answered : session.gate.wait? = some (outcome, gate)) :
      ScriptAct session { session with gate }
  | recorded (notice : Notice) (ofScript : notice.OfScript) : ScriptAct session (session.record notice)
  | started (media : MediaRef) (blocking : Bool) :
      ScriptAct session (session.startMedia media blocking)
  | stopped (media : MediaRef) : ScriptAct session (session.onStage (·.stopMedia media))
  | setVariable (name : String) (value : UInt16) :
      ScriptAct session { session with game := session.game.insert name value }
  | setHotspot {card : OpenCard} {hotspots : HotspotTable Float32} (id : UInt16) (enabled : Bool)
      (isOpen : session.card = some card) (found : card.hotspots.setEnabled? id enabled = some hotspots) :
      ScriptAct session { session with card := some { card with hotspots } }
  | setVisual (change : CardVisual → CardVisual) : ScriptAct session (session.onVisual change)
  | holds (state : RenderState) : ScriptAct session (session.hold state)
  | schedules (cue : Cue) : ScriptAct session (session.schedule cue)
  | changesUpdates (change : UpdatesChange) (ofScript : change.OfScript) :
      ScriptAct session (session.changeUpdates change)
  | shows (enabled : session.updatesEnabled = true) : ScriptAct session session.showCard
  | hands {state : RenderState} {rest : List RenderState} (first : session.held = state :: rest)
      (enabled : session.updatesEnabled = true) :
      ScriptAct session { session.request state with held := rest }
  | covers (running : Bool) : ScriptAct session { session with inScreenUpdate := running }
  | awaits (code : UInt16) :
      ScriptAct session
        ({ session with gate := session.gate.arm code, blockingMovie := true }.record (.movieAwaited code))
  | unblocks (code : UInt16) (outcome : GateOutcome) :
      ScriptAct session
        { session.onStage (·.note (.answered code outcome)) with blockingMovie := false }
  | begins (command : Command) (live : session.tornDown = false) : ScriptAct session (session.begin command)
  | fails (label : String) (error : ScriptError) : ScriptAct session (session.scriptFailed label error)

/-- Anything that can happen while command lists run. -/
def ScriptChain : Session → Session → Prop :=
  Relation.ReflTransGen ScriptAct

/-- What happens to a session. -/
inductive EngineAct (session : Session) : Session → Prop where
  | script {later : Session} (act : ScriptAct session later) : EngineAct session later
  | resolves (key : String) : EngineAct session { session with toStage := (session.resolve key).2 }
  | leaves (running : Bool) : EngineAct session { session with inLeave := running }
  | closes : EngineAct session session.closeCard
  | opens {stack : Stack} {card : OpenCard} (location : Location) (closed : session.card = none)
      (key : stack.key = location.stack)
      (loaded : OpenCard.load stack location.id session.mapper = .ok card) :
      EngineAct session ({ session.record (.cardOpened location) with
        card := some card, location := some location }.changeUpdates .opened)
  | reveals (isOpen : session.card.isSome = true)
      (unseen : Happening.revealed session.transcript = false) :
      EngineAct session (session.changeUpdates .shown)
  | recorded (notice : Notice) (ofEngine : notice.OfEngine) : EngineAct session (session.record notice)
  | tracks (hit : Option UInt16) : EngineAct session { session with tracker := session.tracker.moveTo hit }
  | points (point : Point Float32) : EngineAct session { session with pointer := some point }
  | presses (down : Bool) : EngineAct session { session with buttonDown := down }
  | resizes (viewport : Size Float32) :
      EngineAct session { session with
        mapper := session.mapper.resize viewport
        card := session.card.map fun card =>
          { card with hotspots := card.hotspots.resize (session.mapper.resize viewport) } }
  | takesCues : EngineAct session session.takeDue
  | firesCue (cue : Cue) : EngineAct session (session.fire cue)
  | putsVariables (game : GameVariables) : EngineAct session { session with game }
  | refuses (location : Location) : EngineAct session (session.onStage (·.note (.refused location)))
  | cutsOff : EngineAct session (session.onStage (·.note .cutOff))

/-- Anything that can happen to a session. -/
def EngineChain : Session → Session → Prop :=
  Relation.ReflTransGen EngineAct

theorem ScriptAct.chain {session later : Session} (act : ScriptAct session later) :
    ScriptChain session later :=
  .single act

theorem EngineAct.chain {session later : Session} (act : EngineAct session later) :
    EngineChain session later :=
  .single act

theorem ScriptChain.engine {session later : Session} (chain : ScriptChain session later) :
    EngineChain session later :=
  Relation.ReflTransGen.mono (fun _ _ => EngineAct.script) _ _ chain

/-- What others do while a script waits is among the acts of scripts. -/
theorem ScriptChain.lasting : Script.Lasting ScriptChain where
  refl _ := .refl
  trans := .trans
  suffer _ act := (ScriptAct.suffered act).chain
  answered answered := (ScriptAct.answered answered).chain

/-- It is among those of the engine, too. -/
theorem EngineChain.lasting : Script.Lasting EngineChain where
  refl _ := .refl
  trans := .trans
  suffer session act := (ScriptChain.lasting.suffer session act).engine
  answered answered := (ScriptChain.lasting.answered answered).engine

/-- What every act keeps, a chain of them keeps. -/
theorem EngineChain.keeps {holds : Session → Prop}
    (step : ∀ {session later}, EngineAct session later → holds session → holds later)
    {session later : Session} (chain : EngineChain session later) (h : holds session) : holds later := by
  induction chain with
  | refl => exact h
  | tail _ act before => exact step act before

/-- A refusal is noted, and then reported as the failure of a script would be. -/
theorem Session.refuse_chain (session : Session) (location : Location) (error : ScriptError) :
    EngineChain session (session.refuse location error) :=
  (EngineAct.refuses location).chain.tail (.script (.fails "goto" error))

/-- A program that is carried out later goes on with the chain before it. -/
theorem EngineChain.onward {α : Type} {first session : Session} {progress : Progress α}
    {ends : Session → α → Prop} (before : EngineChain first session)
    (h : progress.Sat (EngineChain session) ends) : progress.Sat (EngineChain first) ends :=
  h.mono (fun _ => before.trans) fun _ _ => id

end Diorama
