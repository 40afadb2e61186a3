import Diorama.Proofs.Deeds

/-!
# The interpreter does only what scripts may do

`Script.runList_does`: every command list, however its branches and screen-update scripts lie inside one
another, is a chain of deeds, and so does nothing but `ScriptAct`. The proof follows the interpreter: one
lemma for each kind of command, one for a list, and an induction on the room that is left.

The command that has more to it than its deeds is the one that waits. While it waits, others may do to the
stage what they like, but not to the card, so the slot whose movie is waited for is still playing when the
wait ends; and an outcome says that the gate was aborted only if it was (`Script.awaitMovie_sat`). So a list
that halts has a reason: a wait was aborted, of which the display knows nothing yet, or the world is coming
down (`Script.runList_halts`).

A script that has been run never fails, since its error is reported and goes no further
(`Script.runScript_unfailing`).
-/

namespace Diorama

/-! ## Waiting -/

/-- An abort is a state of the gate, and is not held as an outcome. -/
def MovieGate.Honest (gate : MovieGate) : Prop :=
  gate.outcome ≠ some .aborted

namespace MovieGate

/-- A gate that was just armed holds no outcome. -/
theorem honest_arm (gate : MovieGate) (code : UInt16) : (gate.arm code).Honest := by
  simp [Honest, arm]

/-- A movie that ends or is skipped is held as that; an abort is not held at all. -/
theorem Honest.receive {gate : MovieGate} (honest : gate.Honest) (call : GateCall) :
    (gate.receive call).Honest := by
  cases call with
  | abort => exact honest
  | complete code =>
    simp only [MovieGate.receive, complete, accept]
    split
    · simp [Honest]
    · exact honest
  | skip =>
    simp only [MovieGate.receive, skip, accept]
    split
    · simp [Honest]
    · exact honest

/-- No calls from outside make the gate hold an abort. -/
theorem Honest.foldl_receive {gate : MovieGate} (honest : gate.Honest) (calls : List GateCall) :
    (calls.foldl MovieGate.receive gate).Honest := by
  induction calls generalizing gate with
  | nil => exact honest
  | cons call rest ih => exact ih (honest.receive call)

/-- A wait that ends aborted has been aborted. -/
theorem Honest.aborted_of_wait? {gate later : MovieGate} (honest : gate.Honest)
    (answered : gate.wait? = some (.aborted, later)) : later.aborted = true := by
  unfold wait? at answered
  split at answered
  next aborted =>
    cases answered
    exact aborted
  next =>
    split at answered
    next outcome told =>
      cases answered
      exact absurd told honest
    next => cases answered

/-! An abort is for good. -/

/-- A gate that is aborted takes no further call. -/
theorem aborted_receive {gate : MovieGate} (aborted : gate.aborted = true) (call : GateCall) :
    (gate.receive call).aborted = true := by
  cases call with
  | abort => rfl
  | complete code =>
    simp only [receive, complete, accept]
    split <;> exact aborted
  | skip =>
    simp only [receive, skip, accept]
    split <;> exact aborted

/-- Whatever calls follow, the gate stays aborted. -/
theorem aborted_foldl_receive {gate : MovieGate} (aborted : gate.aborted = true) (calls : List GateCall) :
    (calls.foldl receive gate).aborted = true := by
  induction calls generalizing gate with
  | nil => exact aborted
  | cons call rest ih => exact ih (aborted_receive aborted call)

/-- The wait that is told of the abort leaves the gate aborted for the next one. -/
theorem aborted_wait? {gate later : MovieGate} {outcome : GateOutcome} (aborted : gate.aborted = true)
    (answered : gate.wait? = some (outcome, later)) : later.aborted = true := by
  rw [wait?, if_pos aborted] at answered
  cases answered
  exact aborted

end MovieGate

namespace Session.Meanwhile

variable {session later : Session}

/-- While a program waits nobody else touches the card. -/
theorem card (meanwhile : session.Meanwhile later) : later.card = session.card := by
  induction meanwhile with
  | refl => rfl
  | tail _ step before =>
    obtain ⟨act, rfl⟩ := step
    exact before

/-- Others who act while a program waits do not make its gate hold an abort. -/
theorem honest (meanwhile : session.Meanwhile later) (honest : session.gate.Honest) :
    later.gate.Honest := by
  induction meanwhile with
  | refl => exact honest
  | tail _ step before =>
    obtain ⟨act, rfl⟩ := step
    cases act with
    | gate call => exact before.receive call
    | _ => exact before

/-- What others do is among the deeds, each act by itself. -/
theorem deeds (meanwhile : session.Meanwhile later) : DeedChain session later :=
  DeedChain.lasting.meanwhile meanwhile

end Session.Meanwhile

/-- A wait begins with a gate that is armed anew. -/
theorem Session.honest_beginWait (session : Session) (code : UInt16) (media : MediaRef) :
    (session.beginWait code media).gate.Honest :=
  (MovieGate.honest_arm _ code).foldl_receive _

/-! ## Being stopped -/

/-- What has happened since the display was handed the last snapshot, the latest first. -/
def Happening.unseen : List Happening → List Happening
  | [] => []
  | .published _ :: _ => []
  | happening :: earlier => happening :: unseen earlier

/-- The world is coming down, or a wait has been aborted since the last snapshot. -/
def Session.Stopped (session : Session) : Prop :=
  session.tornDown = true ∨ ∃ code, .answered code .aborted ∈ Happening.unseen session.transcript

namespace Script

variable {α β : Type}

/-- A wait ends with what others have made of the stage, and with the outcome that the gate then had. -/
theorem awaitMovie_sat {session : Session} (honest : session.gate.Honest) :
    (awaitMovie session).Sat session.Meanwhile fun later result => ∃ between outcome gate,
      session.Meanwhile between ∧ between.gate.wait? = some (outcome, gate) ∧
        later = { between with gate } ∧ result = .ok outcome ∧
        (outcome = .aborted → gate.aborted = true) := by
  have told {between : Session} {outcome : GateOutcome} {gate : MovieGate}
      (meanwhile : session.Meanwhile between) (answered : between.gate.wait? = some (outcome, gate)) :
      outcome = .aborted → gate.aborted = true := by
    rintro rfl
    exact (meanwhile.honest honest).aborted_of_wait? answered
  unfold awaitMovie
  split
  next outcome gate answered =>
    exact ⟨session, outcome, gate, .refl, answered, rfl, rfl, told .refl answered⟩
  next =>
    intro later meanwhile
    exact ⟨meanwhile, fun outcome gate answered =>
      ⟨later, outcome, gate, meanwhile, answered, rfl, rfl, told meanwhile answered⟩⟩

/-! ## Programs that only look -/

section Looks

variable {R : Session → Session → Prop}

/-- To ask for the open card changes nothing and never waits. -/
theorem openCard_eq (session : Session) : openCard session =
    match session.card with
    | some card => .done session (.ok card)
    | none => .done session (.error .noActiveCard) := by
  change (match session.card with
    | some card => Script.pure card
    | none => fail .noActiveCard) session = _
  cases session.card <;> rfl

theorem openCard_of_some {session : Session} {card : OpenCard} (isOpen : session.card = some card) :
    openCard session = .done session (.ok card) := by
  rw [openCard_eq, isOpen]

theorem openCard_of_none {session : Session} (closed : session.card = none) :
    openCard session = .done session (.error .noActiveCard) := by
  rw [openCard_eq, closed]

/-- To ask for a slot that is there changes nothing and never waits. -/
theorem movieSlot_of_some {session : Session} {code : UInt16} {slot : MovieSlot}
    (found : session.movie? code = some slot) : movieSlot code session = .done session (.ok slot) := by
  obtain ⟨card, isOpen, there⟩ := Option.bind_eq_some_iff.mp found
  rw [movieSlot, bind_of_ok (openCard_of_some isOpen), there]
  rfl

/-- Looking at the card is nothing that lasts. -/
theorem openCard_does (lasting : Lasting R) : Does R openCard := by
  refine .bind lasting (.get lasting) fun session => ?_
  cases session.card with
  | none => exact .fail lasting _
  | some card => exact .pure lasting card

/-- Looking at the name of a variable is nothing that lasts. -/
theorem variableName_does (lasting : Lasting R) (index : UInt16) : Does R (variableName index) := by
  refine .bind lasting (openCard_does lasting) fun card => ?_
  cases card.stack.variableName? index with
  | none => exact .fail lasting _
  | some name => exact .pure lasting name

variable {waits : Session → Prop} {ends : Session → Except ScriptError β → Prop} {session : Session}

/-- What needs the open card goes on with it, or fails and changes nothing. -/
theorem sat_openCard_bind {next : OpenCard → Script β} (fails : ∀ error, ends session (.error error))
    (isOpen : ∀ card, session.card = some card → (next card session).Sat waits ends) :
    ((openCard >>= next) session).Sat waits ends := by
  rw [sat_bind, openCard_eq]
  cases found : session.card with
  | none => exact fails _
  | some card => exact isOpen card found

/-- A program that begins with a slot fails where there is none, and goes on with the slot of the session. -/
theorem sat_movieSlot_bind {code : UInt16} {next : MovieSlot → Script β}
    (fails : ∀ error, ends session (.error error))
    (found : ∀ slot, session.movie? code = some slot → (next slot session).Sat waits ends) :
    ((movieSlot code >>= next) session).Sat waits ends := by
  have looks : (movieSlot code session).Sat waits fun later result =>
      later = session ∧ ∀ slot, result = .ok slot → session.movie? code = some slot := by
    unfold movieSlot
    refine sat_openCard_bind (fun _ => ⟨rfl, nofun⟩) fun card isOpen => ?_
    cases listed : card.visual.movies.get? code with
    | none => exact ⟨rfl, nofun⟩
    | some slot =>
      refine ⟨rfl, fun _ same => ?_⟩
      cases same
      simp [Session.movie?, isOpen, listed]
  refine sat_bind_of looks ?_ ?_
  · rintro later slot ⟨rfl, here⟩
    exact found slot (here slot rfl)
  · rintro later error ⟨rfl, -⟩
    exact fails error

/-- What is looked up goes on with what is found, or fails and changes nothing. -/
theorem sat_lift_bind {value : Except ScriptError α} {next : α → Script β}
    (fails : ∀ error, ends session (.error error))
    (found : ∀ here, value = .ok here → (next here session).Sat waits ends) :
    ((lift value >>= next) session).Sat waits ends := by
  rw [sat_bind, sat_lift]
  cases value with
  | error error => exact fails error
  | ok here => exact found here rfl

end Looks

/-! ## Commands -/

/-- One quiet act, whatever the session. -/
private theorem quiet_does {change : Session → Session}
    (act : ∀ session, QuietAct session (change session)) : Does DeedChain (modify change) :=
  .modify fun session => (act session).deed

private abbrev lasting : Lasting DeedChain := DeedChain.lasting

/-- Scripts may write to the log what is theirs to write. -/
theorem record_does {notice : Notice} (ofScript : notice.OfScript) :
    Does DeedChain (record notice) :=
  quiet_does fun _ => .recorded notice ofScript

/-- To ask for a card is no deed; the card is changed when the script has ended. -/
theorem gotoCard_does (id : UInt16) : Does DeedChain (gotoCard id) := by
  refine .bind lasting (.get lasting) fun session => ?_
  split
  · exact .pure lasting _
  · exact .bind lasting (openCard_does lasting) fun _ => .pure lasting _

/-- The flag of a hotspot is set on the card that is open, if it has the hotspot. -/
theorem setHotspot_does (id : UInt16) (enabled : Bool) :
    Does DeedChain (setHotspot id enabled) := by
  intro session
  refine sat_openCard_bind (fun _ => .refl) fun card isOpen => ?_
  cases found : card.hotspots.setEnabled? id enabled with
  | none => exact .refl
  | some hotspots =>
    have same : session.onCard (fun card => { card with hotspots })
        = { session with card := some { card with hotspots } } := by
      rw [Session.onCard, isOpen]
      rfl
    dsimp only
    rw [sat_modify, same]
    exact (QuietAct.setHotspot id enabled isOpen found).deed

/-- The group that is taken off is stopped, if the card still lists it. -/
theorem clearSoundGroup_does : Does DeedChain clearSoundGroup := by
  intro session
  refine sat_openCard_bind (fun _ => .refl) fun card isOpen => ?_
  cases on : card.visual.soundGroup with
  | none => exact .refl
  | some index =>
    have cleared := (Deed.clearsGroup isOpen on).chain
    dsimp only
    rw [modify_bind, sat_bind, sat_lift]
    unfold Session.clearGroup at cleared
    cases listed : card.soundGroup index with
    | error error =>
      rw [listed] at cleared
      exact cleared
    | ok group =>
      rw [listed] at cleared
      exact cleared

/-- A group is put on in the place of the one before, and started only after that. -/
theorem activateSoundGroup_does (index : UInt16) : Does DeedChain (activateSoundGroup index) := by
  intro session
  refine sat_openCard_bind (fun _ => .refl) fun card isOpen => ?_
  refine sat_lift_bind (fun _ => .refl) fun group listed => ?_
  have put := (Deed.putsGroup isOpen listed).chain
  have started : ((do if ← flag EngineVariables.ambientSoundsEnabled then startMedia group.media :
      Script Unit) (session.putGroup card group)).Sat (DeedChain session) fun later _ =>
        DeedChain session later := by
    change Progress.Sat _ _ ((if _ then startMedia group.media else pure () : Script Unit) _)
    split
    · exact put.tail (.startsGroup (Session.group?_putGroup isOpen listed))
    · exact put
  unfold Session.putGroup at started
  rw [modify_bind]
  dsimp only at started ⊢
  generalize Option.bind _ _ = previous at started ⊢
  cases previous with
  | none => exact started
  | some previous => exact started

/-- A movie that the open card lists is put into its slot. -/
theorem activateMovie_of_listed {session : Session} {card : OpenCard} {index : UInt16} {movie : Movie}
    (isOpen : session.card = some card) (listed : card.movie index = .ok movie) :
    activateMovie index session = .done (session.putMovie movie) (.ok movie.code) := by
  have found : session.movie? movie.code = card.visual.movies.get? movie.code := by
    simp [Session.movie?, isOpen]
  unfold activateMovie Session.putMovie
  rw [bind_of_ok (openCard_of_some isOpen), listed, found, bind_of_ok (lift_ok movie session), modify_bind]
  cases card.visual.movies.get? movie.code with
  | none => rfl
  | some slot => cases playing : slot.playing <;> simp only [playing] <;> rfl

/-- A movie is put into its slot, or there is no such movie and nothing has changed. -/
theorem sat_activateMovie {waits : Session → Prop} {ends : Session → Except ScriptError UInt16 → Prop}
    {session : Session} {index : UInt16} (fails : ∀ error, ends session (.error error))
    (puts : ∀ card movie, session.card = some card → card.movie index = .ok movie →
      ends (session.putMovie movie) (.ok movie.code)) :
    (activateMovie index session).Sat waits ends := by
  cases isOpen : session.card with
  | none =>
    rw [activateMovie, bind_of_error (openCard_of_none isOpen)]
    exact fails _
  | some card =>
    cases listed : card.movie index with
    | error error =>
      rw [activateMovie, bind_of_ok (openCard_of_some isOpen), listed, bind_of_error (lift_error error session)]
      exact fails error
    | ok movie =>
      rw [activateMovie_of_listed isOpen listed]
      exact puts card movie isOpen listed

/-- The only deed is that the movie is put into its slot. -/
theorem activateMovie_does (index : UInt16) : Does DeedChain (activateMovie index) :=
  fun _ => sat_activateMovie (fun _ => .refl) fun _ _ isOpen listed => (Deed.putsMovie isOpen listed).chain

/-- A movie is started in a slot that is there and enabled, while movies are on. -/
theorem startMovie_does (code : UInt16) : Does DeedChain (startMovie code) := by
  intro session
  unfold startMovie
  change Progress.Sat _ _ ((if session.settings.flag _ = true then _ else _ : Script Unit) session)
  split
  next on =>
    refine sat_movieSlot_bind (fun _ => .refl) fun slot found => ?_
    split
    next enabled =>
      have started := (Deed.startsMovie code found on enabled).chain
      exact started.tail (.quiet (.recorded (.movieStarted code) trivial))
    next => exact .refl
  next => exact (QuietAct.recorded (.movieLeftOut code) trivial).deed

/-- A blocking movie is started, waited for and ended, and while it is waited for others act on the stage; its
slot is still there when the wait has ended, for they do not touch the card. -/
theorem startMovieBlocking_does (code : UInt16) : Does DeedChain (startMovieBlocking code) := by
  intro session
  unfold startMovieBlocking
  change Progress.Sat _ _ ((if session.settings.flag _ = true then _ else _ : Script Flow) session)
  split
  next on =>
    refine sat_movieSlot_bind (fun _ => .refl) fun slot found => ?_
    have begun := (Deed.awaitsMovie code found on).chain
    change Progress.Sat _ _ ((awaitMovie >>= _) (session.beginWait code slot.media))
    refine sat_bind_of ((awaitMovie_sat ?_).mono ?_ fun _ _ => id) ?_ ?_
    · exact session.honest_beginWait code slot.media
    · exact fun later meanwhile => begun.trans meanwhile.deeds
    · rintro later outcome ⟨between, _, gate, meanwhile, answered, rfl, same, told⟩
      cases same
      have waited := (begun.trans meanwhile.deeds).trans (QuietAct.answered answered).deed
      obtain ⟨playing, here, isPlaying, media⟩ := Session.movie?_beginWait found slot.media
      have still : { between with gate }.movie? code = some playing := by
        rw [← here, Session.movie?, Session.movie?, meanwhile.card]
      have ended := waited.tail (.endsWait code outcome still isPlaying told)
      rw [media] at ended
      cases outcome with
      | completed => exact ended
      | skipped => exact ended.tail (.quiet (.recorded (.movieSkipped code) trivial))
      | aborted => exact ended
    · rintro later error ⟨_, _, _, _, _, _, same, _⟩
      cases same
  next => exact (QuietAct.recorded (.movieLeftOut code) trivial).deed

/-- Only a movie that plays is stopped. -/
theorem stopMovie_does (code : UInt16) : Does DeedChain (stopMovie code) := by
  intro session
  refine sat_movieSlot_bind (fun _ => .refl) fun slot found => ?_
  split
  next playing => exact (Deed.stopsMovie code found playing).chain
  next => exact .refl

/-- To switch a slot is a quiet act. -/
theorem setMovie_does (code : UInt16) (enabled : Bool) : Does DeedChain (setMovie code enabled) := by
  intro session
  exact sat_movieSlot_bind (fun _ => .refl) fun slot found => (QuietAct.switchMovie code enabled).deed

/-! ## Command lists -/

section Inner

variable {inner : List Command → Script Flow} (h : ∀ commands, Does DeedChain (inner commands))
include h

/-- Around the deeds of the screen-update script updates are covered and restored, which are quiet acts. -/
theorem enableScreenUpdates_does : Does DeedChain (enableScreenUpdates inner) := by
  have shown : Does DeedChain (do
      modify fun session => (session.changeUpdates .enabled).publish
      return Flow.next) :=
    .bind lasting (.modify fun session =>
      .head (.quiet (.changesUpdates .enabled trivial)) (Session.publish_quiet rfl).deeds) fun _ => .pure lasting _
  refine .bind lasting (.get lasting) fun session => .ite shown ?_
  refine .bind lasting (openCard_does lasting) fun card => ?_
  cases card.script? .screenUpdate with
  | none => exact shown
  | some commands =>
    refine .bind lasting (.get lasting) fun session => ?_
    have covered : Does DeedChain (modify fun session =>
        { session with inScreenUpdate := true }.changeUpdates .covered) :=
      .modify fun session => .head (.quiet (.covers true)) (QuietAct.changesUpdates .covered trivial).deed
    have restored : Does DeedChain (modify fun later =>
        { later.changeUpdates (.restored session.updatesEnabled) with inScreenUpdate := false }) :=
      .modify fun session => .head (.quiet (.changesUpdates (.restored _) trivial)) (QuietAct.covers false).deed
    refine .bind lasting covered fun _ => ?_
    refine .bind lasting (h commands).attempt fun result => ?_
    refine .bind lasting restored fun _ => ?_
    refine .bind lasting (.lift lasting result) fun flow => ?_
    cases flow with
    | next => exact shown
    | goto target => exact .pure lasting _
    | halt => exact .pure lasting _

/-- A branch does what the list of its case does. -/
theorem branch_does (index : UInt16) (cases : List Case) :
    Does DeedChain (branch inner index cases) := by
  refine .bind lasting (variableName_does lasting index) fun name => ?_
  refine .bind lasting (.get lasting) fun session => ?_
  split
  · exact h _
  · exact .pure lasting _

/-- Every plain command is a chain of deeds, if the lists are that may lie inside. -/
theorem carryOut_does (instruction : Instruction) : Does DeedChain (carryOut inner instruction) := by
  have goesOn {script : Script Unit} (h : Does DeedChain script) :
      Does DeedChain (do script; return Flow.next) :=
    .bind lasting h fun _ => .pure lasting _
  -- Most commands are one quiet deed; the others have lemmas of their own.
  have quiet {change : Session → Session} (act : ∀ session, QuietAct session (change session)) :=
    goesOn (quiet_does act)
  cases instruction with
  | gotoCard id => exact gotoCard_does id
  | playSound id volume =>
    exact .bind lasting (quiet_does fun _ => .playsSound id volume) fun _ => goesOn (record_does trivial)
  | setVariable index value =>
    refine .bind lasting (variableName_does lasting index) fun name => ?_
    exact quiet fun _ => .setVariable name value
  | setHotspot id enabled => exact goesOn (setHotspot_does id enabled)
  | clearSoundGroup => exact goesOn clearSoundGroup_does
  | setCursor cursor =>
    refine .bind lasting (openCard_does lasting) fun _ => ?_
    exact quiet fun _ => .setVisual _ (fun _ _ => rfl) fun _ => rfl
  | callExternal id args => exact goesOn (record_does trivial)
  | scheduleTransition state => exact quiet fun _ => .holds state
  | refresh =>
    refine goesOn (.modify fun session => ?_)
    split
    next enabled => exact (Session.publish_quiet enabled).deeds
    next => exact .refl
  | disableScreenUpdates => exact quiet fun _ => .changesUpdates .disabled trivial
  | enableScreenUpdates => exact enableScreenUpdates_does h
  | setMovie code enabled => exact goesOn (setMovie_does code enabled)
  | disableAllMovies =>
    refine .bind lasting (openCard_does lasting) fun _ => ?_
    exact quiet fun _ => .switchMovies false
  | startMovieBlocking code => exact startMovieBlocking_does code
  | startMovie code => exact goesOn (startMovie_does code)
  | stopMovie code => exact goesOn (stopMovie_does code)
  | scheduleCommand code due opcode args =>
    exact quiet fun _ => .schedules { code, due, opcode, args }
  | activatePicture index =>
    refine .bind lasting (openCard_does lasting) fun card => ?_
    refine .bind lasting (.lift lasting _) fun picture => ?_
    exact quiet fun _ => .setVisual _ (fun _ _ => rfl) fun _ => rfl
  | activateSoundGroup index => exact goesOn (activateSoundGroup_does index)
  | activateMovie index =>
    exact .bind lasting (activateMovie_does index) fun _ => .pure lasting _
  | activateMovieAndStart index =>
    exact .bind lasting (activateMovie_does index) fun code => goesOn (startMovie_does code)
  | activateButton index =>
    refine .bind lasting (openCard_does lasting) fun card => ?_
    exact .bind lasting (.lift lasting _) fun button => goesOn (setHotspot_does _ _)

/-- What cannot be decoded does nothing. -/
theorem runCommand_does (command : Command) : Does DeedChain (runCommand inner command) := by
  cases command with
  | op opcode args => exact .bind lasting (.lift lasting _) fun _ => carryOut_does h _
  | branch index cases => exact branch_does h index cases

end Inner

/-- A list begins each command while the world stands, and publishes what is needed after it. -/
theorem runEach_does {run : Command → Script Flow} (h : ∀ command, Does DeedChain (run command))
    (commands : List Command) : Does DeedChain (runEach run commands) := by
  induction commands with
  | nil => exact .pure lasting _
  | cons command rest ih =>
    intro session
    unfold runEach
    rw [get_bind]
    split
    next => exact .refl
    next live =>
      rw [modify_bind]
      have begun := (QuietAct.begins command (Bool.eq_false_iff.mpr live)).deed
      refine Does.onward (.bind lasting (h command) fun flow => ?_) lasting begun
      cases flow with
      | next => exact .bind lasting (.modify fun session => session.publishIfNeeded_quiet.deeds) fun _ => ih
      | goto target => exact .pure lasting _
      | halt => exact .pure lasting _

/-- A command list does only what scripts may do, and so do the lists that lie in it. -/
theorem runList_does (room : Nat) (commands : List Command) :
    Does DeedChain (runList room commands) := by
  induction room generalizing commands with
  | zero => exact .fail lasting _
  | succ room ih => exact runEach_does (runCommand_does ih) commands

/-! ## Halting -/

/-- The program halts only if it has been stopped. -/
def Halts (script : Script Flow) : Prop :=
  ∀ session, (script session).Sat (fun _ => True) fun later result => result = .ok .halt → later.Stopped

namespace Halts

/-- A program that ends with something else does not halt. -/
theorem pure {flow : Flow} (onward : flow ≠ .halt) : Halts (Pure.pure flow) :=
  fun _ same => absurd (Except.ok.inj same) onward

/-- Only the end of a program says that it halts. -/
theorem bind {script : Script α} {next : α → Script Flow} (h : ∀ value, Halts (next value)) :
    Halts (script >>= next) := by
  intro session
  have runs : (script session).Sat (fun _ => True) fun _ _ => True :=
    .of_forall (fun _ => trivial) fun _ _ => trivial
  exact sat_bind_of runs (fun later value _ => h value later) fun _ _ _ => nofun

/-- What goes on with the next command does not halt. -/
theorem goesOn (script : Script α) : Halts (do let _ ← script; return Flow.next) :=
  .bind fun _ => .pure nofun

end Halts

/-- To ask for a card ends the list, but does not halt. -/
theorem gotoCard_halts (id : UInt16) : Halts (gotoCard id) := by
  refine .bind fun session => ?_
  split
  · exact .pure nofun
  · exact .bind fun _ => .pure nofun

/-- A wait that is aborted halts, and nothing is shown of it. -/
theorem startMovieBlocking_halts (code : UInt16) : Halts (startMovieBlocking code) := by
  intro session
  unfold startMovieBlocking
  change Progress.Sat _ _ ((if session.settings.flag _ = true then _ else _ : Script Flow) session)
  split
  next on =>
    refine sat_movieSlot_bind (fun _ => nofun) fun slot found => ?_
    change Progress.Sat _ _ ((awaitMovie >>= _) (session.beginWait code slot.media))
    have waited := awaitMovie_sat (session.honest_beginWait code slot.media)
    refine sat_bind_of (waited.mono (fun _ _ => trivial) fun _ _ => id) ?_ fun _ _ _ => nofun
    rintro later outcome ⟨between, _, gate, _, _, rfl, same, _⟩
    cases same
    cases outcome with
    | completed => exact nofun
    | skipped => exact nofun
    | aborted => exact fun _ => .inr ⟨code, List.mem_cons_self⟩
  next => exact nofun

section Inner

variable {inner : List Command → Script Flow} (h : ∀ commands, Halts (inner commands))
include h

/-- Enabling updates halts only if the screen-update script does. -/
theorem enableScreenUpdates_halts : Halts (enableScreenUpdates inner) := by
  refine .bind fun session => ?_
  split
  · exact .goesOn _
  · refine .bind fun card => ?_
    cases card.script? .screenUpdate with
    | none => exact .goesOn _
    | some commands =>
      refine .bind fun session => .bind fun _ session => ?_
      refine sat_attempt_bind_of (h commands session) fun later result halts => ?_
      rw [modify_bind]
      cases result with
      | error error => exact nofun
      | ok flow =>
        cases flow with
        | next => exact nofun
        | goto target => exact nofun
        | halt => exact fun _ => (halts rfl).imp_right (.imp fun _ => List.mem_cons_of_mem _)

/-- A branch halts only if the list of its case does. -/
theorem branch_halts (index : UInt16) (cases : List Case) : Halts (branch inner index cases) := by
  refine .bind fun name => .bind fun session => ?_
  split
  · exact h _
  · exact .pure nofun

/-- Of the plain commands only the two that wait or run a list can halt. -/
theorem carryOut_halts (instruction : Instruction) : Halts (carryOut inner instruction) := by
  cases instruction with
  | gotoCard id => exact gotoCard_halts id
  | enableScreenUpdates => exact enableScreenUpdates_halts h
  | startMovieBlocking code => exact startMovieBlocking_halts code
  | playSound | setVariable | setCursor | disableAllMovies | activateMovieAndStart =>
    exact .bind fun _ => .goesOn _
  | activatePicture | activateButton => exact .bind fun _ => .bind fun _ => .goesOn _
  | _ => exact .goesOn _

/-- A command halts only if it waits or runs a list. -/
theorem runCommand_halts (command : Command) : Halts (runCommand inner command) := by
  cases command with
  | op opcode args => exact .bind fun _ => carryOut_halts h _
  | branch index cases => exact branch_halts h index cases

end Inner

/-- A list halts if a command of it does, or because the world is coming down. -/
theorem runEach_halts {run : Command → Script Flow} (h : ∀ command, Halts (run command))
    (commands : List Command) : Halts (runEach run commands) := by
  induction commands with
  | nil => exact .pure nofun
  | cons command rest ih =>
    intro session
    unfold runEach
    rw [get_bind]
    split
    next tornDown => exact fun _ => .inl tornDown
    next =>
      rw [modify_bind]
      refine sat_bind_of (h command _) (fun later flow halts => ?_) fun _ _ _ => nofun
      cases flow with
      | next => exact Halts.bind (fun _ => ih) later
      | goto target => exact nofun
      | halt => exact halts

/-- A list halts only if the session has been stopped, however deep lists lie in it. -/
theorem runList_halts (room : Nat) (commands : List Command) : Halts (runList room commands) := by
  induction room generalizing commands with
  | zero => exact fun _ => nofun
  | succ room ih => exact runEach_halts (runCommand_halts ih) commands

/-! ## Whole scripts -/

/-- A script does what its list does, and reports an error if the list ends with one. -/
theorem runScript_does (label : String) (commands : List Command) :
    Does DeedChain (runScript label commands) := by
  refine .bind lasting (runList_does _ commands).attempt fun result => ?_
  split
  · exact .pure lasting _
  · exact .pure lasting _
  · exact .bind lasting (quiet_does fun _ => .fails label _) fun _ => .pure lasting _

/-- The error of a script is reported and goes no further. -/
theorem runScript_unfailing (label : String) (commands : List Command) :
    Unfailing (runScript label commands) := by
  refine .bind (.attempt _) fun result => ?_
  split
  · exact .pure _
  · exact .pure _
  · exact .bind (.modify _) fun _ => .pure _

/-- A program that runs scripts: it does only what scripts may do, and never fails. -/
structure RunsScripts (script : Script α) : Prop where
  does : Does DeedChain script
  unfailing : Unfailing script

/-- What scripts do is a chain of their acts. -/
theorem RunsScripts.script {script : Script α} (runs : RunsScripts script) : Does ScriptChain script :=
  runs.does.mono DeedChain.script

/-- A program that only returns a value neither does anything nor fails. -/
theorem RunsScripts.pure (value : α) : RunsScripts (Pure.pure value : Script α) :=
  ⟨.pure lasting value, .pure value⟩

/-- Programs that run scripts can be put one after the other. -/
theorem RunsScripts.bind {script : Script α} {next : α → Script β} (h : RunsScripts script)
    (h' : ∀ value, RunsScripts (next value)) : RunsScripts (script >>= next) :=
  ⟨.bind lasting h.does fun value => (h' value).does, .bind h.unfailing fun value => (h' value).unfailing⟩

/-- A script that is run never fails. -/
theorem runScript_runs (label : String) (commands : List Command) :
    RunsScripts (runScript label commands) :=
  ⟨runScript_does label commands, runScript_unfailing label commands⟩

private theorem get_runs : RunsScripts get :=
  ⟨.get lasting, .get⟩

/-- The script of the card runs, if it has one for this occasion. -/
theorem runCardScript_runs (trigger : Trigger) : RunsScripts (runCardScript trigger) := by
  refine .bind get_runs fun session => ?_
  split
  · exact runScript_runs _ _
  · exact .pure _

/-- The script of the hotspot runs, if the card still has the hotspot. -/
theorem runHotspotScript_runs (index : UInt16) (trigger : Trigger) :
    RunsScripts (runHotspotScript index trigger) := by
  refine .bind get_runs fun session => ?_
  split
  · exact .pure _
  · split
    · exact runScript_runs _ _
    · exact .pure _

/-- The script of the active hotspot runs, if there is one. -/
theorem runActiveHotspot_runs (trigger : Trigger) : RunsScripts (runActiveHotspot trigger) := by
  refine .bind get_runs fun session => ?_
  split
  · exact runHotspotScript_runs _ _
  · exact .pure _

end Diorama.Script
