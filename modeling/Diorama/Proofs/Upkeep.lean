import Diorama.Proofs.Events

/-!
# What every event keeps

`Reachable.invariant` is for what every act keeps. Some things are put right only later: between two acts of
a command, or while a card change is asked for and not yet made, they may fail to hold, and yet they hold
whenever an event has ended. For these there is `Upkeep`, the rule for events.

It has four predicates. `always` is kept by every act. `rest` is what is to hold between two events.
`owed` is what is left of it while a card change is asked for: the change puts the rest right, or the report
that it cannot be made. `waits` is what holds while a movie is waited for. The fields of `Upkeep` are the
steps of which events are made, and no field speaks of a whole event; `SteadyUpkeep.event` puts them
together, and `Reachable.upheld` is what comes of it for runs.

What is about scripts alone comes first (`ScriptUpkeep`), since it is enough for a test of the pointer, as
long as nothing depends on which hotspots are entered and left (`ScriptUpkeep.refreshHover_sat`). Two laws in
between leave something open, for a law that depends on it: `SteadyUpkeep` what a new size of the window does,
and `OffClockUpkeep` only how cues are taken and carried out. `Upkeep` is for all others, to which a cue is a
script like any other.
-/

namespace Diorama

/-- The events that tell where the pointer goes. -/
def Notice.OfPointer : Notice → Prop
  | .hotspotEntered _ | .hotspotExited _ => True
  | _ => False

/-- Where the pointer goes is noted by the engine, and never by a script. -/
theorem Notice.OfPointer.ofEngine {notice : Notice} (ofPointer : notice.OfPointer) : notice.OfEngine := by
  cases notice <;> trivial

/-- Scripts, and what they keep. -/
structure ScriptUpkeep (always waits owed rest : Session → Prop) : Prop where
  act : ∀ {session later}, EngineAct session later → always session → always later
  owes : ∀ {session}, always session → rest session → owed session
  /-- A script runs. If it asks for no card change, it leaves things as it found them. -/
  script : ∀ {session} label commands, always session → owed session →
    (Script.runScript label commands session).Sat waits fun later result =>
      owed later ∧ (rest session → result = .ok none → rest later)

/-- A session that has arrived at a card, before the prepare script of the card has run. -/
def Session.arrived (session : Session) (location : Location) (card : OpenCard) : Session :=
  { session.record (.cardOpened location) with
    card := some card, location := some location }.changeUpdates .opened

/-- The steps of which events are made while the window keeps its size, other than that cues are taken and
carried out, and what they keep. -/
structure SteadyUpkeep (always waits owed rest : Session → Prop) : Prop
    extends ScriptUpkeep always waits owed rest where
  sound : ∀ {session}, always session → session.resolver.Sound
  /-- The pointer is tested, and its moves are made known. -/
  hover : ∀ {session}, always session → rest session →
    (Script.refreshHover session).Sat waits fun later result =>
      owed later ∧ (result = .ok none → rest later)
  leaves : ∀ {session} running, always session → owed session → owed { session with inLeave := running }
  closes : ∀ {session}, always session → owed session → session.card.isSome = true → rest session.closeCard
  opens : ∀ {session} {stack : Stack} {card : OpenCard} (location : Location), always session →
    owed session → session.card = none → stack.key = location.stack →
    OpenCard.load stack location.id session.mapper = .ok card → owed (session.arrived location card)
  /-- Whatever the prepare script has asked for, the card is shown when it has ended. -/
  reveals : ∀ {session prepared} {card : OpenCard} (location : Location), owed session →
    session.card = none → ScriptChain (session.arrived location card) prepared → always prepared →
    owed prepared → prepared.card.isSome = true → Happening.revealed prepared.transcript = false →
      rest (prepared.changeUpdates .shown).publish
  resolves : ∀ {session} key, always session → owed session →
    owed { session with toStage := (session.resolve key).2 }
  refuses : ∀ {session} location error, always session → owed session → rest (session.refuse location error)
  cutsOff : ∀ {session}, always session → owed session → rest (session.onStage (·.note .cutOff))
  suffers : ∀ {session} act, always session → rest session → rest (session.suffer act)
  points : ∀ {session} point, always session → rest session → rest { session with pointer := some point }
  presses : ∀ {session} down, always session → rest session → rest { session with buttonDown := down }
  putsVariables : ∀ {session} game, always session → rest session → rest { session with game }
  restores : ∀ {session}, always session → rest session → rest (session.record .stateRestored)
  finishes : ∀ {session} code, always session → rest session → session.card.isSome = true →
    rest ((session.onMovie code fun slot =>
      if slot.movie.looping then slot else { slot with playing := false }).record
        (.movieFinished code)).publishIfNeeded

/-- The steps of which events are made, other than that cues are taken and carried out, and what they
keep. -/
structure OffClockUpkeep (always waits owed rest : Session → Prop) : Prop
    extends SteadyUpkeep always waits owed rest where
  resizes : ∀ {session} viewport, always session → rest session →
    rest ({ session with
      mapper := session.mapper.resize viewport
      card := session.card.map fun card =>
        { card with hotspots := card.hotspots.resize (session.mapper.resize viewport) } } :
      Session).publishIfNeeded

/-- The steps of which events are made, and what they keep. -/
structure Upkeep (always waits owed rest : Session → Prop) : Prop
    extends OffClockUpkeep always waits owed rest where
  takesCues : ∀ {session}, always session → rest session → rest session.takeDue
  firesCue : ∀ {session} cue, always session → rest session → rest (session.fire cue)

/-- How things are while `pending` is asked for. -/
structure Due (always owed rest : Session → Prop) (session : Session) (pending : Option Location) : Prop where
  always : always session
  owed : owed session
  rest : pending = none → rest session

open Script

namespace ScriptUpkeep

/-- A program that begins with things as they should be, and of which a card change may come. -/
def Runs (always waits owed rest : Session → Prop) (script : Script (Option Location)) : Prop :=
  ∀ session, always session → rest session → (script session).Sat waits fun later result =>
    ∃ pending, result = .ok pending ∧ Due always owed rest later pending

variable {always waits owed rest : Session → Prop} {session : Session}

/-- To look at the session first makes no difference. -/
theorem get_keeps {next : Session → Script (Option Location)}
    (onward : ∀ session, Runs always waits owed rest (next session)) :
    Runs always waits owed rest (get >>= next) :=
  fun session => onward session session

/-- What comes second runs only if no card was asked for, and then it finds things as they should be. -/
theorem sequence_keeps {script next : Script (Option Location)} (first : Runs always waits owed rest script)
    (second : Runs always waits owed rest next) : Runs always waits owed rest (do
      match ← script with
      | some target => return some target
      | none => next) := by
  intro session a r
  refine sat_bind_ok (first session a r) fun later pending due => ?_
  cases pending with
  | some target => exact ⟨_, rfl, due⟩
  | none => exact second later due.always (due.rest rfl)

variable (h : ScriptUpkeep always waits owed rest)
include h

/-- What every act keeps is kept by any number of them. -/
theorem chain {later : Session} (chain : EngineChain session later) (a : always session) : always later :=
  chain.keeps h.act a

/-- With things as they should be anything may be asked for. -/
theorem due (a : always session) (r : rest session) (pending : Option Location) :
    Due always owed rest session pending :=
  ⟨a, h.owes a r, fun _ => r⟩

/-- Scripts run in whatever state things are. -/
theorem runScript_sat (label : String) (commands : List Command) (a : always session) (o : owed session) :
    (runScript label commands session).Sat waits fun later result => ∃ pending, result = .ok pending ∧
      always later ∧ owed later ∧ (rest session → pending = none → rest later) := by
  have runs := runScript_runs label commands
  have chain := (runs.script session).and (runs.unfailing session)
  refine ((h.script label commands a o).and chain).mono (fun _ kept => kept.1) ?_
  rintro later _ ⟨⟨kept, atRest⟩, chain, pending, rfl⟩
  refine ⟨pending, rfl, h.chain chain.engine a, kept, fun r none => ?_⟩
  exact atRest r (congrArg Except.ok none)

/-- A script begins with things as they should be, and may ask for a card. -/
theorem runScript_keeps (label : String) (commands : List Command) :
    Runs always waits owed rest (runScript label commands) := by
  intro session a r
  refine (h.runScript_sat label commands a (h.owes a r)).imp ?_
  rintro later result ⟨pending, rfl, a', o, atRest⟩
  exact ⟨pending, rfl, a', o, atRest r⟩

/-- To do nothing is to ask for nothing. -/
theorem none_keeps : Runs always waits owed rest (Pure.pure none) :=
  fun _ a r => ⟨none, rfl, h.due a r none⟩

/-- The script of the card runs, if it has one for this occasion. -/
theorem runCardScript_keeps (trigger : Trigger) :
    Runs always waits owed rest (runCardScript trigger) := by
  refine get_keeps fun session => ?_
  split
  · exact h.runScript_keeps _ _
  · exact h.none_keeps

/-- A script of a card that is being left or prepared: only what is owed is kept. -/
theorem runCardScript_sat (trigger : Trigger) (a : always session) (o : owed session) :
    (runCardScript trigger session).Sat waits fun later result =>
      ∃ pending, result = .ok pending ∧ always later ∧ owed later ∧ ScriptChain session later := by
  have does := (runCardScript_runs trigger).script session
  have kept : (runCardScript trigger session).Sat waits fun later result =>
      ∃ pending, result = .ok pending ∧ always later ∧ owed later := by
    unfold runCardScript
    rw [get_bind]
    cases session.card.bind (·.script? trigger) with
    | none => exact ⟨none, rfl, a, o⟩
    | some commands =>
      refine (h.runScript_sat _ _ a o).imp ?_
      rintro later result ⟨pending, same, a', o', -⟩
      exact ⟨pending, same, a', o'⟩
  refine (kept.and does).mono (fun _ both => both.1) ?_
  rintro later result ⟨⟨pending, same, a', o'⟩, chain⟩
  exact ⟨pending, same, a', o', chain⟩

/-- The script of the hotspot runs, if the card still has the hotspot. -/
theorem runHotspotScript_keeps (index : UInt16) (trigger : Trigger) :
    Runs always waits owed rest (runHotspotScript index trigger) := by
  refine get_keeps fun session => ?_
  split
  · exact h.none_keeps
  · split
    · exact h.runScript_keeps _ _
    · exact h.none_keeps

/-- The script of the active hotspot runs, if there is one. -/
theorem runActiveHotspot_keeps (trigger : Trigger) :
    Runs always waits owed rest (runActiveHotspot trigger) := by
  refine get_keeps fun session => ?_
  split
  · exact h.runHotspotScript_keeps _ _
  · exact h.none_keeps

/-! ### Cues -/

section Cues

variable (fires : ∀ {session} cue, always session → rest session → rest (session.fire cue))
include fires

/-- The cues run in order until one of them asks for a card, each fired first. -/
theorem runCues_keeps (cues : List Cue) : Runs always waits owed rest (runCues cues) := by
  induction cues with
  | nil => exact h.none_keeps
  | cons cue rest ih =>
    have runs := sequence_keeps (h.runScript_keeps s!"movie {cue.code} cue" [cue.command]) ih
    exact fun session a r => runs _ (h.act (.firesCue cue) a) (fires cue a r)

/-- What is due is taken off the schedule and run. -/
theorem fireCues_keeps (takes : ∀ {session}, always session → rest session → rest session.takeDue) :
    Runs always waits owed rest fireCues :=
  fun _ a r => h.runCues_keeps fires _ _ (h.act .takesCues a) (takes a r)

end Cues

/-! ### Tests of the pointer -/

section Hover

variable (records : ∀ {session} notice, Notice.OfPointer notice → always session → rest session →
  rest (session.record notice))
include records

/-- A move is noted, if the hotspot is still there, and its script runs. -/
private theorem makeKnown_keeps (notice : Hotspot Float32 → Notice)
    (ofPointer : ∀ hotspot, (notice hotspot).OfPointer) (index : UInt16) (trigger : Trigger) :
    Runs always waits owed rest (do
      match (← get).card.bind (·.hotspots.get? index) with
      | some hotspot => record (notice hotspot)
      | none => Pure.pure ()
      runHotspotScript index trigger) := by
  refine get_keeps fun session => ?_
  have runs := h.runHotspotScript_keeps index trigger
  split
  next hotspot found =>
    intro session a r
    have told := ofPointer hotspot
    exact runs _ (h.act (.recorded _ told.ofEngine) a) (records _ told a r)
  next => exact fun session a r => runs session a r

/-- To enter and to leave differ only in what is noted and in the script. -/
theorem makeMove_keeps (move : HotspotMove) : Runs always waits owed rest (makeMove move) := by
  cases move with
  | exited index => exact h.makeKnown_keeps records .hotspotExited (fun _ => trivial) index .mouseExit
  | entered index => exact h.makeKnown_keeps records .hotspotEntered (fun _ => trivial) index .mouseEnter

/-- The moves are made in order until one of them asks for a card. -/
theorem makeMoves_keeps (moves : List HotspotMove) : Runs always waits owed rest (makeMoves moves) := by
  induction moves with
  | nil => exact h.none_keeps
  | cons move rest ih => exact sequence_keeps (h.makeMove_keeps records move) ih

/-- A test of the pointer, where it does not matter which hotspots it finds. -/
theorem refreshHover_sat
    (tracks : ∀ {session} hit, always session → rest session →
      rest { session with tracker := session.tracker.moveTo hit })
    (a : always session) (r : rest session) :
    (refreshHover session).Sat waits fun later result =>
      owed later ∧ (result = .ok none → rest later) := by
  have moved := h.makeMoves_keeps records (session.tracker.moves session.hitIndex) session.tested
    (h.act (.tracks _) a) (tracks _ a r)
  refine Progress.Sat.imp moved ?_
  rintro later _ ⟨pending, rfl, due⟩
  refine ⟨due.owed, fun none => due.rest ?_⟩
  cases none
  rfl

end Hover

end ScriptUpkeep

namespace SteadyUpkeep

open ScriptUpkeep

variable {always waits owed rest : Session → Prop} {session : Session}

/-! ## Card changes -/

section Changes

variable (h : SteadyUpkeep always waits owed rest)
include h

/-- A card that is left runs its leave script, of which nothing is owed but that the card is closed after it. -/
theorem leaveCard_sat (a : always session) (o : owed session) :
    (leaveCard session).Sat waits fun later result => result = .ok () ∧ later.mapper = session.mapper ∧
      always later ∧ owed later ∧ later.card = none := by
  unfold leaveCard
  rw [get_bind]
  split
  next isOpen =>
    rw [modify_bind]
    refine sat_bind_ok (h.runCardScript_sat .leave (h.act (.leaves true) a) (h.leaves true a o)) ?_
    rintro later _ ⟨a, o, chain⟩
    let ended : Session := { later with inLeave := false }
    have o : owed ended := h.leaves false a o
    have a : always ended := h.act (.leaves false) a
    have isOpen : ended.card.isSome = true := chain.continues.card_isSome.trans isOpen
    have a' : always ended.closeCard := h.act .closes a
    exact ⟨rfl, ended.closeCard_mapper.trans chain.continues.mapper, a',
      h.owes a' (h.closes a o isOpen), ended.closeCard_card⟩
  next closed => exact ⟨rfl, rfl, a, o, Option.not_isSome_iff_eq_none.mp closed⟩

/-- A card at which one arrives runs its two scripts, and is shown between them, which puts things right. -/
theorem arriveAt_sat {stack : Stack} {card : OpenCard} {location : Location} (a : always session)
    (o : owed session) (closed : session.card = none) (key : stack.key = location.stack)
    (loaded : OpenCard.load stack location.id session.mapper = .ok card) :
    (arriveAt location card session).Sat waits fun later result =>
      ∃ pending, result = .ok pending ∧ Due always owed rest later pending := by
  unfold arriveAt
  rw [Script.record, modify_bind, modify_bind]
  have arrived : always (session.arrived location card) := h.act (.opens location closed key loaded) a
  refine sat_bind_ok (h.runCardScript_sat .prepare arrived (h.opens location a o closed key loaded)) ?_
  rintro prepared redirected ⟨a, o', script⟩
  have unseen : Happening.revealed prepared.transcript = false := script.revealed
  have isOpen : prepared.card.isSome = true := script.continues.card_isSome
  have shown := h.reveals location o closed script a o' isOpen unseen
  have a : always (prepared.changeUpdates .shown).publish :=
    h.chain (Session.publish_chain rfl).engine (h.act (.reveals isOpen unseen) a)
  rw [modify_bind]
  cases redirected with
  | some target => exact ⟨_, rfl, h.due a shown _⟩
  | none => exact h.runCardScript_keeps .start _ a shown

/-- A card change that cannot be made changes nothing that is owed. -/
theorem changeCard_sat (location : Location) (a : always session) (o : owed session) :
    (changeCard location session).Sat waits fun later result =>
      match result with
      | .ok pending => Due always owed rest later pending
      | .error _ => always later ∧ owed later := by
  have a' : always (session.resolved location) := h.act (.resolves location.stack) a
  have o' : owed (session.resolved location) := h.resolves location.stack a o
  refine changeCard_sat_of (h.sound a) (fun _ _ => ⟨a', o'⟩) (h.leaveCard_sat a' o') ?_
  rintro left stack card _ ⟨a, o, closed⟩ key loaded
  refine (h.arriveAt_sat a o closed key loaded).imp ?_
  rintro later _ ⟨pending, rfl, due⟩
  exact due

/-- A card change that is asked for is made, or it is reported that it cannot be. -/
theorem followTo_sat {pending : Option Location} (due : Due always owed rest session pending) :
    (followTo pending session).Sat waits fun later result =>
      ∃ next, result = .ok next ∧ Due always owed rest later next := by
  cases pending with
  | none => exact ⟨none, rfl, due⟩
  | some location =>
    refine sat_attempt_bind_of (h.changeCard_sat location due.always due.owed) fun later result ends => ?_
    cases result with
    | ok next => exact ⟨next, rfl, ends⟩
    | error error =>
      obtain ⟨a, o⟩ := ends
      have refused := later.refuse_chain location error
      exact ⟨none, rfl, h.due (h.chain refused a) (h.refuses location error a o) none⟩

/-- A test of the pointer that finds out what it should leaves a card change that may be made. -/
theorem hovered_due (a : always session) (hovered : (refreshHover session).Sat waits fun later result =>
    owed later ∧ (result = .ok none → rest later)) : (refreshHover session).Sat waits fun later result =>
      ∃ next, result = .ok next ∧ Due always owed rest later next := by
  have hovers := (refreshHover_sat session).and hovered
  refine hovers.mono (fun _ both => both.2) ?_
  rintro later _ ⟨⟨follows, next, rfl, -⟩, o, atRest⟩
  exact ⟨next, rfl, h.chain follows.chain a, o, fun none => atRest (congrArg Except.ok none)⟩

/-- A turn of settling, once the card change that was asked for has been made or refused. -/
theorem settleTurn_sat (turns : Nat) {pending : Option Location}
    (again : ∀ {between target}, Due always owed rest between (some target) →
      (settleWithin turns (some target) between).Sat waits fun later result =>
        result = .ok () ∧ always later ∧ rest later)
    (followed : (followTo pending session).Sat waits fun later result =>
      ∃ next, result = .ok next ∧ Due always owed rest later next) :
    (settleWithin (turns + 1) pending session).Sat waits fun later result =>
      result = .ok () ∧ always later ∧ rest later := by
  unfold settleWithin
  refine sat_bind_ok followed fun between next due => ?_
  cases next with
  | some target => exact again due
  | none =>
    refine sat_bind_ok (h.hovered_due due.always (h.hover due.always (due.rest rfl))) fun later next due => ?_
    cases next with
    | some target => exact again due
    | none => exact ⟨rfl, due.always, due.rest rfl⟩

/-- By induction on the turns: a turn makes the change that is asked for or tests the pointer, and when none is
left the chain is cut off. -/
theorem settleWithin_sat (turns : Nat) {pending : Option Location}
    (due : Due always owed rest session pending) :
    (settleWithin turns pending session).Sat waits fun later result =>
      result = .ok () ∧ always later ∧ rest later := by
  induction turns generalizing session pending with
  | zero => exact ⟨rfl, h.act .cutsOff due.always, h.cutsOff due.always due.owed⟩
  | succ turns ih => exact h.settleTurn_sat turns ih (h.followTo_sat due)

/-- Settling puts right whatever is owed. -/
theorem settle_sat {pending : Option Location} (due : Due always owed rest session pending) :
    (settle pending session).Sat waits fun later result => result = .ok () ∧ always later ∧ rest later :=
  h.settleWithin_sat maxCardChain due

/-- A session settles if its first test of the pointer finds out what it should, whatever was the case before. -/
theorem settle_of_hover (a : always session) (hovered : (refreshHover session).Sat waits fun later result =>
    owed later ∧ (result = .ok none → rest later)) :
    (settle none session).Sat waits fun later result => result = .ok () ∧ always later ∧ rest later := by
  change ((refreshHover >>= _ : Script Unit) session).Sat _ _
  refine sat_bind_ok (h.hovered_due a hovered) fun later next due => ?_
  cases next with
  | some target => exact h.settleWithin_sat 31 due
  | none => exact ⟨rfl, due.always, due.rest rfl⟩

/-- Scripts may run before a session settles. -/
theorem runs_settle_sat {script : Script (Option Location)} (runs : Runs always waits owed rest script)
    (a : always session) (r : rest session) :
    ((script >>= settle) session).Sat waits fun later _ => always later ∧ rest later := by
  refine sat_bind_ok (runs session a r) fun later pending due => ?_
  exact (h.settle_sat due).imp fun _ _ settled => settled.2

end Changes

/-! ## Events -/

section Events

variable (h : SteadyUpkeep always waits owed rest)
include h

/-- To go to a card is to change cards and to settle, or to be refused. -/
theorem goto_sat (location : Location) (a : always session) (r : rest session) :
    (goto location session).Sat waits fun later _ => always later ∧ rest later := by
  refine sat_attempt_bind_of (h.changeCard_sat location a (h.owes a r)) fun later result ends => ?_
  cases result with
  | ok pending => exact (h.settle_sat ends).imp fun _ _ settled => settled.2
  | error error =>
    obtain ⟨a, o⟩ := ends
    exact ⟨h.chain (later.refuse_chain location error) a, h.refuses location error a o⟩

/-- A saved state puts its variables in place and goes to its card, and puts the variables back if that is
refused. -/
theorem restore_sat (state : GameState) (a : always session) (r : rest session) :
    (restore state session).Sat waits fun later _ => always later ∧ rest later := by
  have recorded {later : Session} (a : always later) (r : rest later) :
      always (later.record .stateRestored) ∧ rest (later.record .stateRestored) :=
    ⟨h.act (.recorded .stateRestored trivial) a, h.restores a r⟩
  have put := h.act (.putsVariables state.game) a
  unfold restore
  rw [get_bind, modify_bind]
  cases state.location with
  | none => exact recorded put (h.putsVariables state.game a r)
  | some location =>
    dsimp only
    refine sat_attempt_bind_of (h.goto_sat location put (h.putsVariables state.game a r)) ?_
    rintro later result ⟨a, r⟩
    cases result with
    | ok _ => exact recorded a r
    | error error => exact ⟨h.act (.putsVariables session.game) a, h.putsVariables session.game a r⟩

/-- The end of a movie concerns its slot, if a card is open. -/
theorem movieFinished_sat (code : UInt16) (a : always session) (r : rest session) :
    (movieFinished code session).Sat waits fun later _ => always later ∧ rest later := by
  unfold movieFinished
  rw [get_bind]
  split
  next isOpen =>
    refine ⟨?_, h.finishes code a r isOpen⟩
    let ended := session.onMovie code fun slot =>
      if slot.movie.looping then slot else { slot with playing := false }
    have changed : always ended := h.act (.script (.setVisual _)) a
    have recorded := h.act (.recorded (.movieFinished code) trivial) changed
    exact h.chain (Session.publishIfNeeded_chain _).engine recorded
  next => exact ⟨a, r⟩

/-! ### Ticks -/

section Ticks

variable (cues : ∀ {session}, always session → rest session → session.card.isSome = true →
  ((fireCues >>= settle) session).Sat waits fun later _ => always later ∧ rest later)
include cues

/-- A tick, given that cues are taken and carried out as they should be. -/
theorem animationTick_sat (a : always session) (r : rest session) :
    (animationTick session).Sat waits fun later _ => always later ∧ rest later := by
  have onward {between : Session} {held : Option Location} (due : Due always owed rest between held)
      (isOpen : between.card.isSome = true) :
      ((if held.isNone then fireCues >>= settle else Pure.pure held >>= settle : Script Unit) between).Sat
        waits fun later _ => always later ∧ rest later := by
    cases held with
    | none => exact cues due.always (due.rest rfl) isOpen
    | some target => exact (h.settle_sat due).imp fun _ _ settled => settled.2
  have runs {between : Session} (trigger : Trigger) (a : always between) (r : rest between) :
      (runActiveHotspot trigger between).Sat waits fun later result => ∃ pending, result = .ok pending ∧
        Due always owed rest later pending ∧ later.card.isSome = between.card.isSome := by
    have chain := (runActiveHotspot_runs trigger).script between
    refine ((h.runActiveHotspot_keeps trigger between a r).and chain).mono (fun _ both => both.1) ?_
    rintro later _ ⟨⟨pending, rfl, due⟩, chain⟩
    exact ⟨pending, rfl, due, chain.continues.card_isSome⟩
  unfold animationTick
  rw [get_bind]
  split
  next isOpen =>
    refine sat_bind_ok (runs .mouseInside a r) fun later inside ⟨due, still⟩ => ?_
    rw [get_bind]
    dsimp only
    split
    next held =>
      have none : inside = none := by
        simpa using (Bool.and_eq_true_iff.mp held).1
      refine sat_bind_ok (runs .mouseStillDown due.always (due.rest none)) ?_
      exact fun last target ⟨due, still'⟩ => onward due (still'.trans (still.trans isOpen))
    next => exact onward due (still.trans isOpen)
  next => exact ⟨a, r⟩

/-- Whatever the event, between two events things are as they should be, given that they are when the window has
been resized. -/
theorem event (event : Event) (resized : ∀ size, event = .message (.viewport size) →
      (viewportChanged size session).Sat waits fun later _ => always later ∧ rest later)
    (a : always session) (r : rest session) :
    (event.script session).Sat waits fun later _ => always later ∧ rest later := by
  cases event with
  | message sent =>
    cases sent with
    | goto location ticket => exact h.goto_sat location a r
    | restore state ticket => exact h.restore_sat state a r
    | pointerMoved point =>
      have moved := h.due (h.act (.points point) a) (h.points point a r) none
      exact (h.settle_sat moved).imp fun _ _ settled => settled.2
    | pointerDown =>
      exact h.runs_settle_sat (h.runActiveHotspot_keeps .mouseDown) (h.act (.presses true) a)
        (h.presses true a r)
    | pointerUp =>
      exact h.runs_settle_sat (h.runActiveHotspot_keeps .mouseUp) (h.act (.presses false) a)
        (h.presses false a r)
    | viewport size => exact resized size rfl
    | movieFinished code => exact h.movieFinished_sat code a r
    | tick => exact h.animationTick_sat cues a r
  | shutdown =>
    refine ⟨h.act .closes a, ?_⟩
    cases isOpen : session.card with
    | none =>
      change rest session.closeCard
      rwa [Session.closeCard_of_none isOpen]
    | some card => exact h.closes a (h.owes a r) (by rw [isOpen]; rfl)

end Ticks

end Events

end SteadyUpkeep

namespace OffClockUpkeep

variable {always waits owed rest : Session → Prop} {session : Session}
  (h : OffClockUpkeep always waits owed rest)
include h

/-- The window changes its size before anything settles. -/
theorem viewportChanged_sat (size : Size Float32) (a : always session) (r : rest session) :
    (viewportChanged size session).Sat waits fun later _ => always later ∧ rest later := by
  have resized := h.act (.resizes size) a
  have published := h.chain (Session.publishIfNeeded_chain _).engine resized
  exact (h.settle_sat (h.due published (h.resizes size a r) none)).imp fun _ _ settled => settled.2

/-- What every event keeps holds of whatever a session comes to, given that cues are taken and carried out as
they should be: between two events all of it, and in the middle of one what holds while a movie is waited for. -/
theorem upheld (cues : ∀ {session}, always session → rest session → session.card.isSome = true →
      ((fireCues >>= settle) session).Sat waits fun later _ => always later ∧ rest later)
    (start : ∀ config provider player, always (.ofStage (.ofConfig config provider player)) ∧
      rest (.ofStage (.ofConfig config provider player)))
    {progress : Progress (Except ScriptError Unit)} (reachable : Reachable progress) :
    progress.Sat waits fun session _ => always session ∧ rest session := by
  induction reachable with
  | start config provider player => exact start config provider player
  | outside _ act ih => exact ⟨h.act (.script (.suffered act)) ih.1, h.suffers act ih.1 ih.2⟩
  | event _ event leads ih =>
    exact (h.event cues event (fun size _ => h.viewportChanged_sat size ih.1 ih.2) ih.1 ih.2).leads leads

end OffClockUpkeep

/-- What holds in the beginning and is kept by every step of the events holds in every run: at rest between two
events, and while a movie is waited for within one. -/
theorem Reachable.upheld {always waits owed rest : Session → Prop} (h : Upkeep always waits owed rest)
    (start : ∀ config provider player, always (.ofStage (.ofConfig config provider player)) ∧
      rest (.ofStage (.ofConfig config provider player)))
    {progress : Progress (Except ScriptError Unit)} (reachable : Reachable progress) :
    progress.Sat waits fun session _ => always session ∧ rest session :=
  h.toOffClockUpkeep.upheld
    (fun a r _ => h.runs_settle_sat (h.fireCues_keeps h.firesCue h.takesCues) a r) start reachable

end Diorama
