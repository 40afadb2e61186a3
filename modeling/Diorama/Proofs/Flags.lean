import Diorama.Proofs.Programs

/-!
# What scripts put back

Three flags are set only for a time: that a card is being left, that its screen-update script runs, and that a
movie is waited for; and for the same time as the last of them the gate waits for that movie. What sets one of
them puts it back before it ends, whether it ends well or not, and the report of a failure takes back what can
be left over. So between two events nothing is set, and in the middle of one, wherever it stands still, exactly
one movie is waited for (`Reachable.back_to_idle`).

The acts of scripts do not tell this, since they set the flags one by one. So it is proved of programs as
wholes: `Script.Steadies` says that a program leaves the flags as it found them, whatever happens while it
waits, and it is a law of programs (`Script.steadies`). A flag that was set is of no concern to it; that is
how the screen-update script may run inside of what `inLeave` covers.

What the acts do tell is the order of things. The flag for the movie is raised in the very act that begins the
wait, and what takes the note of its end lowers it; so at no moment of a run is it up without a wait that is
open (`EngineChain.withinWait`).
-/

namespace Diorama

/-! ## The wait that is open -/

/-- The movie that scripts have begun to wait for, unless that wait has ended. -/
def Happening.awaited : List Happening → Option UInt16
  | [] => none
  | .recorded (.movieAwaited code) :: _ => some code
  | .answered _ _ :: _ => none
  | _ :: earlier => awaited earlier

/-- What is plain neither begins nor ends a wait. -/
theorem Happening.awaited_append {during : List Happening} (plain : ∀ happening ∈ during, happening.Plain)
    (earlier : List Happening) : awaited (during ++ earlier) = awaited earlier := by
  induction during with
  | nil => rfl
  | cons happening rest ih =>
    rw [← ih fun other among => plain other (List.mem_cons_of_mem _ among)]
    have here := plain happening List.mem_cons_self
    cases happening with
    | recorded notice => cases notice <;> first | rfl | exact here.elim
    | answered code outcome => exact here.elim
    | _ => rfl

namespace Session

/-- The movie that is waited for, as the transcript tells it. -/
def awaited (session : Session) : Option UInt16 :=
  Happening.awaited session.transcript

/-- Nothing is set that is set only for a time. -/
structure Unoccupied (session : Session) : Prop where
  inLeave : session.inLeave = false
  inScreenUpdate : session.inScreenUpdate = false
  blockingMovie : session.blockingMovie = false
  waiting : session.gate.waiting = none
  awaited : session.awaited = none

/-- One movie is waited for, and everybody is of one mind about it. -/
structure Awaits (session : Session) (code : UInt16) : Prop where
  blockingMovie : session.blockingMovie = true
  waiting : session.gate.waiting = some code
  awaited : session.awaited = some code

/-- What was not set is not set. -/
structure Steady (session later : Session) : Prop where
  inLeave : session.inLeave = false → later.inLeave = false
  inScreenUpdate : session.inScreenUpdate = false → later.inScreenUpdate = false
  blockingMovie : session.blockingMovie = false → later.blockingMovie = false
  waiting : session.gate.waiting = none → later.gate.waiting = none
  awaited : session.awaited = none → later.awaited = none

variable {session between later : Session}

/-- Nothing has changed where nothing was done. -/
theorem Steady.refl (session : Session) : session.Steady session :=
  ⟨id, id, id, id, id⟩

/-- What is steady on the way is steady from one end to the other. -/
theorem Steady.trans (h : session.Steady between) (h' : between.Steady later) : session.Steady later :=
  ⟨h'.inLeave ∘ h.inLeave, h'.inScreenUpdate ∘ h.inScreenUpdate, h'.blockingMovie ∘ h.blockingMovie,
    h'.waiting ∘ h.waiting, h'.awaited ∘ h.awaited⟩

/-- A session without a wait stays without one while it is steady. -/
theorem Unoccupied.steady (h : session.Unoccupied) (steady : session.Steady later) : later.Unoccupied :=
  ⟨steady.inLeave h.inLeave, steady.inScreenUpdate h.inScreenUpdate, steady.blockingMovie h.blockingMovie,
    steady.waiting h.waiting, steady.awaited h.awaited⟩

/-- What is beside the point opens and closes no wait. -/
theorem Aside.awaited (aside : session.Aside later) : later.awaited = session.awaited := by
  obtain ⟨during, same, plain⟩ := aside.transcript
  rw [Session.awaited, same, Happening.awaited_append plain]
  rfl

/-- What is beside the point leaves the flags alone. -/
theorem Aside.steady (aside : session.Aside later) : session.Steady later := by
  refine ⟨aside.inLeave.trans, aside.inScreenUpdate.trans, aside.blockingMovie.trans, ?_, aside.awaited.trans⟩
  rw [aside.gate]
  exact id

/-- Whoever reports something to the gate, it waits for what it waited for. -/
theorem waiting_receive (gate : MovieGate) (call : GateCall) : (gate.receive call).waiting = gate.waiting := by
  cases call with
  | abort => rfl
  | complete code =>
    simp only [MovieGate.receive, MovieGate.complete, MovieGate.accept]
    split <;> rfl
  | skip =>
    simp only [MovieGate.receive, MovieGate.skip, MovieGate.accept]
    split <;> rfl

/-- Calls from outside do not change for whom the gate is armed. -/
theorem waiting_foldl_receive (gate : MovieGate) (calls : List GateCall) :
    (calls.foldl MovieGate.receive gate).waiting = gate.waiting := by
  induction calls generalizing gate with
  | nil => rfl
  | cons call rest ih => exact (ih _).trans (waiting_receive gate call)

/-- A wait that has been answered leaves the gate armed for nobody. -/
theorem waiting_of_wait? {gate later : MovieGate} {outcome : GateOutcome}
    (answered : gate.wait? = some (outcome, later)) : later.waiting = none := by
  unfold MovieGate.wait? at answered
  split at answered
  · cases answered
    rfl
  · split at answered
    · cases answered
      rfl
    · cases answered

/-- Nobody else sets or takes back what programs set for a time, nor begins or ends a wait. -/
structure Undisturbed (session later : Session) : Prop where
  inLeave : later.inLeave = session.inLeave
  inScreenUpdate : later.inScreenUpdate = session.inScreenUpdate
  blockingMovie : later.blockingMovie = session.blockingMovie
  waiting : later.gate.waiting = session.gate.waiting
  awaited : later.awaited = session.awaited

/-- Others do not touch the flags, nor for whom the gate is armed. -/
theorem undisturbed_suffer (session : Session) (act : Outside) : session.Undisturbed (session.suffer act) := by
  cases act with
  | gate call => exact ⟨rfl, rfl, rfl, waiting_receive session.gate call, rfl⟩
  | preload key =>
    refine ⟨rfl, rfl, rfl, rfl, ?_⟩
    show Happening.awaited (.recorded _ :: session.transcript) = _
    split <;> rfl
  | _ => exact ⟨rfl, rfl, rfl, rfl, rfl⟩

/-- So a wait is undisturbed, whatever others do in its time. -/
theorem Meanwhile.undisturbed (meanwhile : session.Meanwhile later) : session.Undisturbed later := by
  induction meanwhile with
  | refl => exact ⟨rfl, rfl, rfl, rfl, rfl⟩
  | @tail between _ _ step before =>
    obtain ⟨act, rfl⟩ := step
    have here := between.undisturbed_suffer act
    exact ⟨here.inLeave.trans before.inLeave, here.inScreenUpdate.trans before.inScreenUpdate,
      here.blockingMovie.trans before.blockingMovie, here.waiting.trans before.waiting,
      here.awaited.trans before.awaited⟩

/-- What is undisturbed is steady. -/
theorem Undisturbed.steady (h : session.Undisturbed later) : session.Steady later :=
  ⟨h.inLeave.trans, h.inScreenUpdate.trans, h.blockingMovie.trans, h.waiting.trans, h.awaited.trans⟩

/-- The movie that was waited for is waited for still. -/
theorem Undisturbed.awaits {code : UInt16} (h : session.Undisturbed later) (awaits : session.Awaits code) :
    later.Awaits code :=
  ⟨h.blockingMovie.trans awaits.blockingMovie, h.waiting.trans awaits.waiting, h.awaited.trans awaits.awaited⟩

end Session

/-! ## Programs -/

namespace Script

variable {α β : Type}

/-- Wherever the program waits it is for one movie, and whenever it ends the flags are as it found them. -/
def Steadies (script : Script α) : Prop :=
  ∀ session, (script session).Sat (fun waiting => ∃ code, waiting.Awaits code) fun later _ =>
    session.Steady later

/-- Programs that leave the flags as they find them can be put one after the other. -/
theorem Steadies.bind {script : Script α} {next : α → Script β} (h : Steadies script)
    (h' : ∀ value, Steadies (next value)) : Steadies (script >>= next) := by
  intro session
  refine sat_bind_of (h session) (fun later value before => ?_) fun later cause before => before
  exact (h' value later).imp fun _ _ => before.trans

theorem get_steadies : Steadies get :=
  .refl

/-- The wait is over when the command goes on, and then the flag is taken back. -/
theorem startMovieBlocking_steadies (code : UInt16) : Steadies (startMovieBlocking code) := by
  refine .bind (fun session => ?_) fun on => ?_
  · exact Session.Steady.refl session
  split
  · intro session
    refine sat_movieSlot_bind (fun _ => .refl session) fun slot found => ?_
    change Progress.Sat _ _ ((awaitMovie >>= _) (session.beginWait code slot.media))
    let put := session.onMovie code fun slot => { slot with playing := true }
    have shown : session.Aside put.publishIfNeeded :=
      (Session.aside_onVisual _).trans put.aside_publishIfNeeded
    have begun : (session.beginWait code slot.media).Awaits code :=
      ⟨rfl, Session.waiting_foldl_receive _ _, rfl⟩
    have waited := awaitMovie_sat (session.honest_beginWait code slot.media)
    -- While the wait lasts the flag is set, and rightly; once it is answered the flag is down again, however it ended.
    refine sat_bind_of (waited.mono (fun later meanwhile => ?_) fun _ _ => id) ?_ ?_
    · exact ⟨code, meanwhile.undisturbed.awaits begun⟩
    · rintro later outcome ⟨between, _, gate, meanwhile, answered, rfl, same, _⟩
      have kept := meanwhile.undisturbed
      let told : Session :=
        { ({ between with gate } : Session).onStage (·.note (.answered code outcome)) with
          blockingMovie := false }
      let ended := told.onMovie code fun slot => { slot with playing := false }
      have freed : session.Steady told :=
        ⟨(kept.inLeave.trans shown.inLeave).trans, (kept.inScreenUpdate.trans shown.inScreenUpdate).trans,
          fun _ => rfl, fun _ => Session.waiting_of_wait? answered, fun _ => rfl⟩
      have stilled : session.Steady ended := freed.trans (Session.aside_onVisual _).steady
      cases same
      cases outcome with
      | completed => exact stilled
      | skipped =>
        have noted : (Happening.recorded (.movieSkipped code)).Plain := trivial
        exact (stilled.trans (Session.aside_stopMedia slot.media).steady).trans
          (Session.aside_record noted).steady
      | aborted => exact stilled
    · rintro later error ⟨_, _, _, _, _, _, same, _⟩
      cases same
  · have noted : (Happening.recorded (.movieLeftOut code)).Plain := trivial
    exact fun session => (Session.aside_record noted).steady

/-- The screen-update script is run only if it is not running, and however it ends it is no longer running. -/
theorem enableScreenUpdates_steadies {inner : List Command → Script Flow}
    (h : ∀ commands, Steadies (inner commands)) : Steadies (enableScreenUpdates inner) := by
  have shown : Steadies (do
      modify fun session => (session.changeUpdates .enabled).publish
      return Flow.next) := fun _ =>
    ((Session.aside_changeUpdates .enabled).trans (Session.aside_publish _)).steady
  intro session
  unfold enableScreenUpdates
  rw [get_bind]
  split
  · exact shown session
  next idle =>
    refine sat_openCard_bind (fun _ => .refl session) fun card _ => ?_
    cases card.script? .screenUpdate with
    | none => exact shown session
    | some commands =>
      dsimp only
      rw [get_bind, modify_bind]
      refine sat_attempt_bind_of (h commands _) fun later result steady => ?_
      rw [modify_bind]
      let restored := later.changeUpdates (.restored session.updatesEnabled)
      let ended : Session := { restored with inScreenUpdate := false }
      have here : session.Steady ended :=
        ⟨fun before => steady.inLeave before, fun _ => rfl, fun before => steady.blockingMovie before,
          fun before => steady.waiting before, fun before => steady.awaited before⟩
      have lifted : (lift result ended).Sat (fun waiting => ∃ code, waiting.Awaits code) fun later _ =>
          session.Steady later := sat_lift.mpr here
      refine sat_bind_of lifted (fun later flow before => ?_) fun _ _ before => before
      cases flow with
      | next => exact (shown later).imp fun _ _ => before.trans
      | goto target => exact before
      | halt => exact before

/-- A card is left with the flag set, which is taken back before the card is closed. -/
theorem leaveCard_steadies (h : Steadies (runCardScript .leave)) : Steadies leaveCard := by
  intro session
  unfold leaveCard
  rw [get_bind]
  split
  · rw [modify_bind]
    refine (runCardScript_runs .leave).unfailing.sat_bind (h _) fun later _ steady => ?_
    let ended : Session := { later with inLeave := false }
    have here : session.Steady ended :=
      ⟨fun _ => rfl, fun before => steady.inScreenUpdate before, fun before => steady.blockingMovie before,
        fun before => steady.waiting before, fun before => steady.awaited before⟩
    exact here.trans ended.aside_closeCard.steady
  · exact .refl session

/-- Every program leaves the flags as it found them. -/
theorem steadies : Law Steadies where
  pure _ := .refl
  fail _ := .refl
  reads _ h := .bind get_steadies h
  bind := .bind
  attempt h session := sat_attempt.mpr (h session)
  minor h session := (h.aside session).steady
  begins command h session := by
    change Progress.Sat _ _ ((if session.tornDown = true then _ else _ : Script Flow) session)
    split
    · exact .refl session
    · have begun : session.Steady (session.begin command) := ⟨id, id, id, id, id⟩
      exact (h (session.begin command)).imp fun _ _ => begun.trans
  awaits := startMovieBlocking_steadies
  covers := enableScreenUpdates_steadies
  leaves := leaveCard_steadies
  -- The report of a failure takes two of the flags back, whatever the script has left.
  fails label error session := ⟨id, fun _ => rfl, fun _ => rfl, id, id⟩

end Script

/-! ## Runs -/

/-- Whatever a session comes to: between two events nothing is set, and wherever an event waits it is for one
movie. -/
theorem Reachable.occupied {progress : Progress (Except ScriptError Unit)} (reachable : Reachable progress) :
    progress.Sat (fun session => ∃ code, session.Awaits code) fun session _ => session.Unoccupied := by
  have clicked (down : Bool) (trigger : Trigger) : Script.Steadies (do
      Script.modify fun session => { session with buttonDown := down }
      Script.runActiveHotspot trigger >>= Script.settle) :=
    .bind (fun _ => ⟨id, id, id, id, id⟩) fun _ => Script.steadies.active_settle_holds trigger
  induction reachable with
  | start config provider player => exact ⟨rfl, rfl, rfl, rfl, rfl⟩
  | @outside session result _ act ih =>
    exact Session.Unoccupied.steady ih (session.undisturbed_suffer act).steady
  | @event session result progress _ event leads ih =>
    have holds : Script.Steadies event.script :=
      Script.steadies.event_holds Script.get_steadies event (fun _ => clicked true .mouseDown)
        fun _ => clicked false .mouseUp
    exact ((holds session).imp fun _ _ => ih.steady).leads leads

/-- Between two events nothing is set. -/
theorem Reachable.unoccupied {session : Session} {result : Except ScriptError Unit}
    (reachable : Reachable (.done session result)) : session.Unoccupied :=
  reachable.occupied

/-! ## Moments -/

/-- The flag for a movie is up only while a wait is open. -/
def Session.WithinWait (session : Session) : Prop :=
  session.blockingMovie = true → ∃ code, session.awaited = some code

/-- What is beside the point happens within a wait if that is where the session is. -/
theorem Session.Aside.withinWait {session later : Session} (aside : session.Aside later)
    (h : session.WithinWait) : later.WithinWait := by
  intro raised
  rw [aside.awaited]
  exact h (aside.blockingMovie.symm.trans raised)

/-- The act that begins a wait raises the flag together with its note; what else touches the flag lowers it. -/
theorem ScriptAct.withinWait {session later : Session} (act : ScriptAct session later)
    (h : session.WithinWait) : later.WithinWait := by
  cases act with
  | suffered act =>
    have undisturbed := session.undisturbed_suffer act
    intro raised
    rw [undisturbed.awaited]
    exact h (undisturbed.blockingMovie.symm.trans raised)
  | recorded notice ofScript =>
    have plain : (Happening.recorded notice).Plain := by cases notice <;> trivial
    exact (Session.aside_record plain).withinWait h
  | started media blocking => exact h
  | stopped media => exact h
  | holds state => exact h
  | schedules cue => exact h
  | changesUpdates change ofScript => exact h
  | shows enabled => exact session.aside_showCard.withinWait h
  | hands first enabled => exact h
  | awaits code => exact fun _ => ⟨code, rfl⟩
  | unblocks code outcome => exact (nomatch ·)
  | fails label error => exact (nomatch ·)
  | _ => exact h

/-- What the engine does besides is not about waits. -/
theorem EngineAct.withinWait {session later : Session} (act : EngineAct session later)
    (h : session.WithinWait) : later.WithinWait := by
  cases act with
  | script act => exact act.withinWait h
  | closes => exact session.aside_closeCard.withinWait h
  | recorded notice ofEngine =>
    have plain : (Happening.recorded notice).Plain := by cases notice <;> trivial
    exact (Session.aside_record plain).withinWait h
  | _ => exact h

/-- Whatever a session comes to, act by act, from one with the flag down. -/
theorem EngineChain.withinWait {session moment : Session} (chain : EngineChain session moment)
    (lowered : session.blockingMovie = false) : moment.WithinWait :=
  chain.keeps EngineAct.withinWait fun raised => nomatch lowered.symm.trans raised

/-- Between two events nothing is set that is set only for a time, and the gate waits for nothing. An event
that stands still waits for one movie, with the flag up. And at every moment of a run at which the flag is up,
a movie has begun to be waited for, and that wait has not ended. -/
theorem Reachable.back_to_idle {progress : Progress (Except ScriptError Unit)} (reachable : Reachable progress) :
    (∀ session result, progress = .done session result → session.inLeave = false ∧
      session.inScreenUpdate = false ∧ session.blockingMovie = false ∧ session.gate.waiting = none) ∧
    (∀ session resume, progress = .waiting session resume → ∃ code, session.blockingMovie = true ∧
      session.gate.waiting = some code ∧ session.awaited = some code) ∧
    ∃ config provider player, EngineChain (.ofStage (.ofConfig config provider player)) progress.session ∧
      ∀ moment, EngineChain (.ofStage (.ofConfig config provider player)) moment →
        moment.blockingMovie = true → ∃ code, moment.awaited = some code := by
  have occupied := reachable.occupied
  refine ⟨?_, ?_, ?_⟩
  · rintro session result rfl
    exact ⟨occupied.inLeave, occupied.inScreenUpdate, occupied.blockingMovie, occupied.waiting⟩
  · rintro session resume rfl
    obtain ⟨code, awaits⟩ := (occupied session .refl).1
    exact ⟨code, awaits.blockingMovie, awaits.waiting, awaits.awaited⟩
  · obtain ⟨config, provider, player, chain⟩ := reachable.chain
    exact ⟨config, provider, player, chain, fun moment reached => reached.withinWait rfl⟩

/-- The leave script of a card shows what has changed, and the screen-update script that runs for it waits for
a movie: all three flags are set. The movie is skipped, and the next card is open. -/
theorem Reachable.back_to_idle_leave : ∃ leaving arrived : Session, ∃ resume,
    Reachable (.waiting leaving resume) ∧ leaving.inLeave = true ∧ leaving.inScreenUpdate = true ∧
    (∃ code, leaving.blockingMovie = true ∧ leaving.gate.waiting = some code ∧
      leaving.awaited = some code) ∧
    Reachable (.done arrived (.ok ())) ∧ arrived.location = some ⟨"a", 2⟩ ∧ arrived.inLeave = false ∧
      arrived.inScreenUpdate = false ∧ arrived.blockingMovie = false ∧ arrived.gate.waiting = none := by
  let movie : Movie := { index := 1, movie := 9, code := 5, left := 0, top := 0, looping := false }
  let card : CardRecord :=
    { scripts := [⟨7, [.op 46 [1], .op 21 []]⟩, ⟨10, [.op 32 [5]]⟩], movies := [movie] }
  let goes (session : Session) : Progress (Except ScriptError Unit) :=
    Script.goto ⟨"a", 2⟩ (session.suffer (.replies [] .silence))
  let waits (session : Session) : Bool := session.inLeave && session.inScreenUpdate
  let arrives (session : Session) : Bool := session.location == some ⟨"a", 2⟩
  have ran : ((Session.beginning "a" [(1, card), (2, {})]).after? [.message (.goto ⟨"a", 1⟩ none)]).any
      (fun session => (goes session).standing?.any waits &&
        ((goes session).under [[.gate .skip]]).ended?.any arrives) = true := by decide +kernel
  obtain ⟨session, before, here⟩ := Session.exists_after "a" _ ran
  obtain ⟨standing, ended⟩ := Bool.and_eq_true_iff.mp here
  obtain ⟨leaving, stands, covered⟩ := (Option.any_eq_true ..).mp standing
  obtain ⟨arrived, ends, there⟩ := (Option.any_eq_true ..).mp ended
  obtain ⟨leavesCard, covers⟩ := Bool.and_eq_true_iff.mp covered
  obtain ⟨resume, same⟩ := Progress.eq_of_standing? stands
  have silent : Reachable (.done (session.suffer (.replies [] .silence)) (.ok ())) := .outside before _
  have waiting : Reachable (.waiting leaving resume) :=
    .event silent (.message (.goto ⟨"a", 2⟩ none)) (same ▸ Relation.ReflTransGen.refl)
  have done : Reachable (.done arrived (.ok ())) :=
    .event silent (.message (.goto ⟨"a", 2⟩ none))
      ((Progress.leads_under _ _).trans (Progress.leads_of_ended? ends))
  obtain ⟨_, blocked, _⟩ := Reachable.back_to_idle waiting
  obtain ⟨idle, _, _⟩ := Reachable.back_to_idle done
  exact ⟨leaving, arrived, resume, waiting, leavesCard, covers, blocked leaving resume rfl, done,
    beq_iff_eq.mp there, idle arrived (.ok ()) rfl⟩

end Diorama
