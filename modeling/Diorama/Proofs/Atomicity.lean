import Diorama.Instruction
import Diorama.Proofs.Aborts
import Diorama.Proofs.Programs

/-!
# Commands that fail

A plain command that fails has changed nothing. Most look up first what they need, and nothing can go wrong
after the first change (`Script.Atomic.of_unfailing`). Two make a change and look something up after it. The
sound group that is taken off is looked up in the record of the card, to be stopped; it is there, since only
groups that the record lists are ever put on, which is part of what every run keeps (`Session.Excused`). And the
movie that has been put into its slot is looked up in it, to be started.

The one exception is the command that enables updates, for it runs the screen-update script of the card. What
that script has done before it failed stays done, and only the two flags are put back that were set for it
(`Script.enableScreenUpdates_fails`).

Commands begin in the middle of scripts, so it is not enough to know this of the sessions that events leave
behind. The session keeps the stage and the card of every moment at which a command began (`Session.begun`), and
what is needed of the sound group holds at each of them (`Reachable.keepsListing`).

Decoding fails in no other way than the errors it gives: no operand is looked up where there is none
(`Instruction.decodeAtPlaces?_eq`).
-/

namespace Diorama.Instruction

/-! ## Operands by their places

Decoding takes the operands of a command apart by their pattern, so there is no way for it to ask for one that
is not there. An interpreter that keeps its operands in an array has a number for each instead, and goes wrong
where the array is shorter. This module decodes in that way: every operand is looked up at its place, every run
of operands is cut out between two places, and a look beyond the last one makes the whole result `none`. What
keeps that from happening is the count of operands that is checked first, and for an external call, which says
itself how many arguments follow, a second check.

`Instruction.decodeAtPlaces?_eq` is that it never happens, whatever the opcode and the operands, and that the
result is the one of decoding by pattern. -/

/-- The operands from one place up to another, if the last place is not beyond the end. -/
def slice? (args : List UInt16) (first last : Nat) : Option (List UInt16) :=
  if first ≤ last ∧ last ≤ args.length then some ((args.take last).drop first) else none

/-- The instruction of an opcode, if no operand is looked up where there is none. -/
def atPlaces? (args : List UInt16) : Opcode → Option (Except ScriptError Instruction)
  | .gotoCard => return .ok (.gotoCard (← args[0]?))
  | .playDataSound => return .ok (.playSound (← args[0]?) (args[1]?.getD defaultVolume))
  | .setVariable => return .ok (.setVariable (← args[0]?) (← args[1]?))
  | .branch => return .error .flatBranch
  | .enableHotspot => return .ok (.setHotspot (← args[0]?) true)
  | .disableHotspot => return .ok (.setHotspot (← args[0]?) false)
  | .clearSoundGroup => return .ok .clearSoundGroup
  | .setCursor => return .ok (.setCursor (← args[0]?))
  | .callExternal => do
    let last := 2 + (← args[1]?).toNat
    if args.length < last then return .error (.missingOperands .callExternal last args.length)
    else return .ok (.callExternal (← args[0]?) (← slice? args 2 last))
  | .scheduleTransition => do
    let code ← args[0]?
    return match RenderState.ofCode? code with
      | some state => .ok (.scheduleTransition state)
      | none => .error (.unknownRenderState code)
  | .refresh => return .ok .refresh
  | .disableScreenUpdates => return .ok .disableScreenUpdates
  | .enableScreenUpdates => return .ok .enableScreenUpdates
  | .disableMovie => return .ok (.setMovie (← args[0]?) false)
  | .disableAllMovies => return .ok .disableAllMovies
  | .enableMovie => return .ok (.setMovie (← args[0]?) true)
  | .startMovieBlocking => return .ok (.startMovieBlocking (← args[0]?))
  | .startMovie => return .ok (.startMovie (← args[0]?))
  | .stopMovie => return .ok (.stopMovie (← args[0]?))
  | .scheduleMovieCommand => do
    let due := milliseconds (← args[1]?) (← args[2]?)
    let opcode := Opcode.ofCode (← args[3]?)
    let rest ← slice? args 4 args.length
    let code ← args[0]?
    return do
      let opcode ← opcode
      opcode.checkOperands rest
      return .scheduleCommand code due opcode rest
  | .activatePicture => return .ok (.activatePicture (← args[0]?))
  | .activateSoundGroup => return .ok (.activateSoundGroup (← args[0]?))
  | .activateMovieAndStart => return .ok (.activateMovieAndStart (← args[0]?))
  | .activateButton => return .ok (.activateButton (← args[0]?))
  | .activateMovie => return .ok (.activateMovie (← args[0]?))

/-- The instruction that a plain command of a record stands for, if no operand is looked up where there is
none. The operands are counted before any is looked up. -/
def decodeAtPlaces? (code : UInt16) (args : List UInt16) : Option (Except ScriptError Instruction) :=
  match Opcode.ofCode code with
  | .error error => some (.error error)
  | .ok opcode =>
    match opcode.checkOperands args with
    | .error error => some (.error error)
    | .ok _ => atPlaces? args opcode

/-- A run of operands that are there can be cut out. -/
theorem slice?_drop (args : List UInt16) (first size : Nat) (enough : first + size ≤ args.length) :
    slice? args first (first + size) = some ((args.drop first).take size) := by
  rw [slice?, if_pos ⟨Nat.le_add_right .., enough⟩, List.drop_take, Nat.add_sub_cancel_left]

/-- An external call with as many operands as it says. -/
theorem atPlaces?_callExternal (id count : UInt16) (rest : List UInt16) :
    atPlaces? (id :: count :: rest) .callExternal = some (ofOpcode .callExternal (id :: count :: rest)) := by
  by_cases short : rest.length < count.toNat
  · have fewer : rest.length + 1 + 1 < 2 + count.toNat := by omega
    simp [atPlaces?, ofOpcode, short, fewer]
  · have enough : 2 + count.toNat ≤ rest.length + 1 + 1 := by omega
    have arguments : slice? (id :: count :: rest) 2 (2 + count.toNat) = some (rest.take count.toNat) :=
      slice?_drop _ 2 count.toNat enough
    simp [atPlaces?, ofOpcode, short, Nat.not_lt.mpr enough, arguments]

/-- A scheduled command takes all the operands behind the first four. -/
theorem atPlaces?_scheduleMovieCommand (code high low opcode : UInt16) (rest : List UInt16) :
    atPlaces? (code :: high :: low :: opcode :: rest) .scheduleMovieCommand
      = some (ofOpcode .scheduleMovieCommand (code :: high :: low :: opcode :: rest)) := by
  have behind : slice? (code :: high :: low :: opcode :: rest) 4 (rest.length + 4) = some rest := by
    rw [Nat.add_comm, slice?_drop _ 4 rest.length (by simp only [List.length_cons]; omega)]
    exact congrArg some List.take_length
  change (slice? _ 4 (rest.length + 4)).bind _ = _
  rw [behind]
  rfl

/-- Where there are as many operands as the opcode needs, each is found at its place. -/
theorem atPlaces?_eq {opcode : Opcode} {args : List UInt16} (enough : opcode.operands ≤ args.length) :
    atPlaces? args opcode = some (ofOpcode opcode args) := by
  cases opcode with
  | clearSoundGroup | refresh | disableScreenUpdates | enableScreenUpdates | disableAllMovies | branch => rfl
  | setVariable =>
    rcases args with _ | ⟨index, _ | ⟨value, rest⟩⟩
    · simp [Opcode.operands] at enough
    · simp [Opcode.operands] at enough
    · rfl
  | callExternal =>
    rcases args with _ | ⟨id, _ | ⟨count, rest⟩⟩
    · simp [Opcode.operands] at enough
    · simp [Opcode.operands] at enough
    · exact atPlaces?_callExternal id count rest
  | scheduleMovieCommand =>
    rcases args with _ | ⟨code, _ | ⟨high, _ | ⟨low, _ | ⟨opcode, rest⟩⟩⟩⟩
    · simp [Opcode.operands] at enough
    · simp [Opcode.operands] at enough
    · simp [Opcode.operands] at enough
    · simp [Opcode.operands] at enough
    · exact atPlaces?_scheduleMovieCommand code high low opcode rest
  | playDataSound =>
    rcases args with _ | ⟨id, _ | ⟨volume, rest⟩⟩
    · simp [Opcode.operands] at enough
    · rfl
    · rfl
  | _ =>
    rcases args with _ | ⟨operand, rest⟩
    · simp [Opcode.operands] at enough
    · rfl

/-- No operand is looked up where there is none, and decoding by places gives what decoding by pattern gives. -/
theorem decodeAtPlaces?_eq (code : UInt16) (args : List UInt16) :
    decodeAtPlaces? code args = some (decode code args) := by
  unfold decodeAtPlaces? decode
  cases Opcode.ofCode code with
  | error error => rfl
  | ok opcode =>
    change (match opcode.checkOperands args with
      | .error error => some (.error error)
      | .ok _ => atPlaces? args opcode) = some (ofOpcode opcode args)
    unfold Opcode.checkOperands
    by_cases short : args.length < opcode.operands
    · rw [if_pos short, ofOpcode_of_lt short]
    · rw [if_neg short]
      exact atPlaces?_eq (Nat.le_of_not_lt short)

end Diorama.Instruction

namespace Diorama

/-! ## The sound group that is on -/

/-- If a sound group is on, the record of the card lists it. -/
def ListsGroup (card : Option OpenCard) : Prop :=
  ∀ error, (card.bind fun card => card.visual.soundGroup.map card.soundGroup) ≠ some (.error error)

/-- Only sound groups that the card lists are ever put on. -/
theorem Session.Excused.lists {session : Session} (h : session.Excused) : ListsGroup session.card :=
  Ledger.listed h

/-- An act begins one command at most. -/
theorem EngineAct.begun_cases {session later : Session} (act : EngineAct session later) :
    later.begun = session.begun ∨ ∃ command, later = session.begin command := by
  cases act with
  | script act =>
    cases act with
    | begins command live => exact .inr ⟨command, rfl⟩
    | shows enabled => exact .inl session.aside_showCard.begun
    | _ => exact .inl rfl
  | closes => exact .inl session.aside_closeCard.begun
  | _ => exact .inl rfl

/-- A deed begins one command at most. -/
theorem Deed.begun_cases {session later : Session} (deed : Deed session later) :
    later.begun = session.begun ∨ ∃ command, later = session.begin command := by
  cases deed with
  | quiet act => exact EngineAct.begun_cases (.script act.act)
  | startsMovie code found on enabled => exact .inl rfl
  | awaitsMovie code found on =>
    let put := session.onMovie code fun slot => { slot with playing := true }
    exact .inl put.notes_publishIfNeeded.begun
  | endsWait code outcome found playing told => exact .inl (session.notes_endWait code _ outcome).begun
  | stopsMovie code found playing => exact .inl rfl
  | putsMovie isOpen listed => exact .inl (session.notes_putMovie _).begun
  | clearsGroup isOpen on => exact .inl (session.notes_clearGroup _ _).begun
  | putsGroup isOpen listed => exact .inl (session.notes_putGroup _ _).begun
  | startsGroup on => exact .inl rfl

/-- In every run the sound group that is on is listed, now and at every moment at which a command began. -/
def Session.KeepsListing (session : Session) : Prop :=
  session.Excused ∧ ∀ moment ∈ session.begun, ListsGroup moment.card

namespace Session.KeepsListing

variable {session later : Session}

/-- The moment that is noted with a command is the session as it is then, whose card lists its group. -/
theorem of_begun (h : session.KeepsListing) (excused : later.Excused)
    (begun : later.begun = session.begun ∨ ∃ command, later = session.begin command) : later.KeepsListing := by
  rcases begun with same | ⟨command, rfl⟩
  · exact ⟨excused, same ▸ h.2⟩
  · exact ⟨excused, List.forall_mem_cons.mpr ⟨h.1.lists, h.2⟩⟩

end Session.KeepsListing

/-- The listing of sound groups is kept by all that bears on what is played. -/
theorem Session.keepsListing_upkeep : PlayUpkeep KeepsListing where
  quiet act same h := h.of_begun (excused_upkeep.quiet act same h.1) act.begun_cases
  deed deed h := h.of_begun (excused_upkeep.deed deed h.1) deed.begun_cases
  closes {session} h := h.of_begun (excused_upkeep.closes h.1) (.inl session.aside_closeCard.begun)
  opens location h closed key loaded :=
    h.of_begun (excused_upkeep.opens location h.1 closed key loaded) (.inl rfl)
  finishes code h := h.of_begun (excused_upkeep.finishes code h.1) (.inl rfl)

/-- At every moment at which a command began the card listed the sound group that was on. -/
theorem Reachable.keepsListing {progress : Progress (Except ScriptError Unit)} (reachable : Reachable progress) :
    progress.session.KeepsListing :=
  Session.keepsListing_upkeep.reachable
    (fun config provider player => ⟨Session.excused_start config provider player, List.forall_mem_nil _⟩) reachable

/-! ## Programs that change nothing if they fail -/

/-- The session in which the screen-update script runs. -/
def Session.cover (session : Session) : Session :=
  { session with inScreenUpdate := true }.changeUpdates .covered

/-- The session after the screen-update script; updates were enabled `before` or not. -/
def Session.uncover (session : Session) (before : Bool) : Session :=
  { session.changeUpdates (.restored before) with inScreenUpdate := false }

namespace Script

variable {α β : Type} {session : Session}

/-- If the program fails, nothing has changed. -/
def Atomic (script : Script α) (session : Session) : Prop :=
  (script session).Sat (fun _ => True) fun later result => ∀ error, result = .error error → later = session

namespace Atomic

/-- What never fails need not be looked at. -/
theorem of_unfailing {script : Script α} (h : Unfailing script) (session : Session) : Atomic script session :=
  (h session).imp fun _ _ ⟨_, same⟩ _ never => nomatch same.symm.trans never

/-- To fail at once changes nothing. -/
theorem fail (error : ScriptError) (session : Session) : Atomic (fail error : Script α) session :=
  fun _ _ => rfl

/-- What cannot fail may follow. -/
theorem bind {script : Script α} {next : α → Script β} (h : Atomic script session)
    (h' : ∀ value, Unfailing (next value)) : Atomic (script >>= next) session := by
  refine sat_bind_of h (fun later value _ => ?_) ?_
  · exact (h' value later).imp fun _ _ ⟨_, same⟩ _ never => nomatch same.symm.trans never
  · rintro later error kept _ ⟨⟩
    exact kept error rfl

/-- To go on with the next command cannot fail. -/
theorem goesOn {script : Script α} (h : Atomic script session) :
    Atomic (do let _ ← script; return Flow.next) session :=
  h.bind fun _ => .pure _

/-- Nothing changes before the open card has been found. -/
theorem openCard_bind {next : OpenCard → Script β} (h : ∀ card, session.card = some card → Atomic (next card) session) :
    Atomic (openCard >>= next) session :=
  sat_openCard_bind (fun _ _ _ => rfl) h

/-- An error that is there already comes before any change. -/
theorem lift_bind {value : Except ScriptError α} {next : α → Script β}
    (h : ∀ found, value = .ok found → Atomic (next found) session) : Atomic (lift value >>= next) session :=
  sat_lift_bind (fun _ _ _ => rfl) h

/-- A slot that is missing is missed before any change. -/
theorem movieSlot_bind {code : UInt16} {next : MovieSlot → Script β}
    (h : ∀ slot, session.movie? code = some slot → Atomic (next slot) session) :
    Atomic (movieSlot code >>= next) session :=
  sat_movieSlot_bind (fun _ _ _ => rfl) h

/-- A name that is missing is missed before any change. -/
theorem variableName_bind {index : UInt16} {next : String → Script β} (h : ∀ name, Atomic (next name) session) :
    Atomic (variableName index >>= next) session := by
  have looks : (variableName index session).Sat (fun _ => True) fun later _ => later = session := by
    refine sat_openCard_bind (fun _ => rfl) fun card _ => ?_
    cases card.stack.variableName? index <;> rfl
  refine sat_bind_of looks ?_ fun _ _ same _ _ => same
  rintro _ name rfl
  exact h name

end Atomic

/-! ## Commands -/

/-- What only changes the session cannot fail. -/
private theorem modify_unfailing (change : Session → Session) :
    Unfailing (do modify change; return Flow.next) :=
  .bind (.modify change) fun _ => .pure _

/-- To ask for a card changes nothing at all. -/
theorem gotoCard_atomic (id : UInt16) : Atomic (gotoCard id) session := by
  unfold gotoCard
  change Progress.Sat _ _ ((if session.inLeave = true then _ else _ : Script Flow) session)
  split
  · exact fun _ => nofun
  · exact Atomic.openCard_bind fun card _ => .of_unfailing (.pure _) session

/-- The hotspot is looked up before its flag is set. -/
theorem setHotspot_atomic (id : UInt16) (enabled : Bool) : Atomic (setHotspot id enabled) session := by
  refine Atomic.openCard_bind fun card _ => ?_
  cases card.hotspots.setEnabled? id enabled with
  | none => exact .fail _ session
  | some hotspots => exact .of_unfailing (.modify _) session

/-- The group that is taken off is listed, so it can be stopped. -/
theorem clearSoundGroup_atomic (lists : ListsGroup session.card) : Atomic clearSoundGroup session := by
  refine Atomic.openCard_bind fun card isOpen => ?_
  cases on : card.visual.soundGroup with
  | none => exact .of_unfailing (.pure _) session
  | some index =>
    cases listed : card.soundGroup index with
    | error error => exact absurd (by rw [isOpen, Option.bind_some, on, Option.map_some, listed]) (lists error)
    | ok group =>
      dsimp only
      rw [Atomic, modify_bind, listed, bind_of_ok (lift_ok group _)]
      exact fun _ => nofun

/-- An engine variable that is not there counts as false. -/
private theorem flag_unfailing (path : String) : Unfailing (flag path) :=
  .bind .get fun _ => .pure _

/-- The group that is put on is looked up first, and nothing fails after that. -/
theorem activateSoundGroup_atomic (index : UInt16) : Atomic (activateSoundGroup index) session := by
  refine Atomic.openCard_bind fun card _ => Atomic.lift_bind fun group _ => .of_unfailing ?_ session
  have starts : Unfailing (do if ← flag EngineVariables.ambientSoundsEnabled then startMedia group.media :
      Script Unit) := by
    refine .bind (flag_unfailing _) fun on => ?_
    split
    · exact .modify _
    · exact .pure _
  refine .bind (.modify _) fun _ => ?_
  dsimp only
  split
  · exact .bind (.modify _) fun _ => starts
  · exact .bind (.pure _) fun _ => starts

/-- A movie that is in its slot is started, or left out. -/
theorem startMovie_sat_of_some {code : UInt16} {slot : MovieSlot} (found : session.movie? code = some slot) :
    (startMovie code session).Sat (fun _ => True) fun _ result => ∃ value, result = .ok value := by
  change Progress.Sat _ _ ((if session.settings.flag _ = true then _ else _ : Script Unit) session)
  split
  · rw [bind_of_ok (movieSlot_of_some found)]
    split
    · exact ⟨(), rfl⟩
    · exact ⟨(), rfl⟩
  · exact ⟨(), rfl⟩

/-- The slot is looked up before anything is started. -/
theorem startMovie_atomic (code : UInt16) : Atomic (startMovie code) session := by
  change Progress.Sat _ _ ((if session.settings.flag _ = true then _ else _ : Script Unit) session)
  split
  · refine Atomic.movieSlot_bind fun slot _ => ?_
    split
    · exact fun _ => nofun
    · exact fun _ => nofun
  · exact fun _ => nofun

/-- The slot is looked up before anything is stopped. -/
theorem stopMovie_atomic (code : UInt16) : Atomic (stopMovie code) session := by
  refine Atomic.movieSlot_bind fun slot _ => ?_
  split
  · exact fun _ => nofun
  · exact fun _ => nofun

/-- The slot is looked up before its flag is set. -/
theorem setMovie_atomic (code : UInt16) (enabled : Bool) : Atomic (setMovie code enabled) session :=
  Atomic.movieSlot_bind fun _ _ => .of_unfailing (.modify _) session

/-- A wait that has begun ends well, whatever the outcome. -/
theorem startMovieBlocking_atomic (code : UInt16) : Atomic (startMovieBlocking code) session := by
  change Progress.Sat _ _ ((if session.settings.flag _ = true then _ else _ : Script Flow) session)
  split
  · refine Atomic.movieSlot_bind fun slot _ => .of_unfailing ?_ session
    refine .bind (.modify _) fun _ => .bind (.modify _) fun _ => .bind (.modify _) fun _ =>
      .bind (.modify _) fun _ => .bind .awaitMovie fun outcome => .bind (.modify _) fun _ =>
      .bind (.modify _) fun _ => ?_
    cases outcome with
    | completed => exact .pure _
    | skipped => exact .bind (.modify _) fun _ => .bind (.modify _) fun _ => .pure _
    | aborted => exact .pure _
  · exact fun _ => nofun

/-- The movie is looked up before it is put into its slot, and nothing fails after that. -/
theorem activateMovie_atomic (index : UInt16) : Atomic (activateMovie index) session :=
  sat_activateMovie (fun _ _ _ => rfl) fun _ _ _ _ _ => nofun

/-- The movie that is put into its slot is found there. -/
theorem activateMovieAndStart_atomic (index : UInt16) :
    Atomic (do startMovie (← activateMovie index); return Flow.next) session := by
  have put : (activateMovie index session).Sat (fun _ => True) fun later result =>
      match result with
      | .ok code => ∃ slot, later.movie? code = some slot
      | .error _ => later = session :=
    sat_activateMovie (fun _ => rfl) fun card movie isOpen _ => ⟨_, Session.movie?_putMovie isOpen movie⟩
  refine sat_bind_of put (fun later code ⟨slot, found⟩ => ?_) fun _ _ same _ _ => same
  refine sat_bind_ok ((startMovie_sat_of_some found).imp fun _ _ ⟨value, same⟩ => ⟨value, same, trivial⟩) ?_
  exact fun _ _ _ _ => nofun

section Inner

variable {inner : List Command → Script Flow}

/-- A command other than the one that enables updates changes nothing if it fails. -/
theorem carryOut_atomic {instruction : Instruction} (lists : ListsGroup session.card)
    (other : instruction ≠ .enableScreenUpdates) : Atomic (carryOut inner instruction) session := by
  cases instruction with
  | gotoCard id => exact gotoCard_atomic id
  | playSound id volume =>
    exact .of_unfailing (.bind (.modify _) fun _ => .bind (.modify _) fun _ => .pure _) session
  | setVariable index value =>
    exact Atomic.variableName_bind fun name => .of_unfailing (modify_unfailing _) session
  | setHotspot id enabled => exact (setHotspot_atomic id enabled).goesOn
  | clearSoundGroup => exact (clearSoundGroup_atomic lists).goesOn
  | setCursor cursor => exact Atomic.openCard_bind fun card _ => .of_unfailing (modify_unfailing _) session
  | callExternal id args => exact .of_unfailing (modify_unfailing _) session
  | scheduleTransition state => exact .of_unfailing (modify_unfailing _) session
  | refresh => exact .of_unfailing (modify_unfailing _) session
  | disableScreenUpdates => exact .of_unfailing (modify_unfailing _) session
  | enableScreenUpdates => exact absurd rfl other
  | setMovie code enabled => exact (setMovie_atomic code enabled).goesOn
  | disableAllMovies => exact Atomic.openCard_bind fun card _ => .of_unfailing (modify_unfailing _) session
  | startMovieBlocking code => exact startMovieBlocking_atomic code
  | startMovie code => exact (startMovie_atomic code).goesOn
  | stopMovie code => exact (stopMovie_atomic code).goesOn
  | scheduleCommand code due opcode args => exact .of_unfailing (modify_unfailing _) session
  | activatePicture index =>
    exact Atomic.openCard_bind fun card _ => Atomic.lift_bind fun picture _ =>
      .of_unfailing (modify_unfailing _) session
  | activateSoundGroup index => exact (activateSoundGroup_atomic index).goesOn
  | activateMovie index => exact (activateMovie_atomic index).goesOn
  | activateMovieAndStart index => exact activateMovieAndStart_atomic index
  | activateButton index =>
    exact Atomic.openCard_bind fun card _ => Atomic.lift_bind fun button _ => (setHotspot_atomic _ _).goesOn

/-- The command that enables updates fails before anything has changed, or because the screen-update script
does. Then what that script has done stays done, and the flags are put back that were set for it. -/
theorem enableScreenUpdates_fails (session : Session) : (enableScreenUpdates inner session).Sat (fun _ => True)
    fun later result => ∀ error, result = .error error → later = session ∨ session.inScreenUpdate = false ∧
      ∃ card commands between, session.card = some card ∧ card.script? .screenUpdate = some commands ∧
        (inner commands session.cover).Leads (.done between (.error error)) ∧
          later = between.uncover session.updatesEnabled := by
  unfold enableScreenUpdates
  rw [get_bind]
  split
  · exact fun _ => nofun
  next running =>
    refine sat_openCard_bind (fun _ _ _ => .inl rfl) fun card isOpen => ?_
    cases script : card.script? .screenUpdate with
    | none => exact fun _ => nofun
    | some commands =>
      dsimp only
      rw [get_bind, modify_bind]
      refine sat_attempt_bind_of (Progress.sat_leads (inner commands session.cover)) fun between result led => ?_
      rw [modify_bind]
      cases result with
      | error cause =>
        rintro _ ⟨⟩
        exact .inr ⟨Bool.eq_false_iff.mpr running, card, commands, between, isOpen, script, led, rfl⟩
      | ok flow => cases flow <;> exact fun _ => nofun

end Inner

end Script

/-! ## Every run -/

namespace Reachable

variable {progress : Progress (Except ScriptError Unit)}

/-- In every run, between two events, while one waits, and at every moment at which a command of a script or a
cue began: whatever the opcode and the operands of a plain command, none is looked up where there is none; and if
the command fails, nothing has changed. The one exception is the command that enables updates, where it is the
screen-update script that has failed: then what that script has done stays done. -/
theorem commands_atomic (reachable : Reachable progress) (session : Session)
    (now : session = progress.session ∨ ∃ moment ∈ progress.session.begun,
      session.toStage = moment.stage ∧ session.card = moment.card)
    (room : Nat) (opcode : UInt16) (args : List UInt16) :
    Instruction.decodeAtPlaces? opcode args = some (Instruction.decode opcode args) ∧
      ∀ later error,
        (Script.runCommand (Script.runList room) (.op opcode args) session).Leads (.done later (.error error)) →
          later = session ∨
            Instruction.decode opcode args = .ok .enableScreenUpdates ∧ session.inScreenUpdate = false ∧
              ∃ card commands between, session.card = some card ∧ card.script? .screenUpdate = some commands ∧
                (Script.runList room commands session.cover).Leads (.done between (.error error)) ∧
                  later = between.uncover session.updatesEnabled := by
  have lists : ListsGroup session.card := by
    obtain ⟨excused, begun⟩ := reachable.keepsListing
    rcases now with rfl | ⟨moment, among, -, card⟩
    · exact excused.lists
    · exact card ▸ begun moment among
  refine ⟨Instruction.decodeAtPlaces?_eq opcode args, fun later error leads => ?_⟩
  cases decoded : Instruction.decode opcode args with
  | error cause =>
    rw [Script.runCommand, decoded, Script.bind_of_error (Script.lift_error cause session),
      Progress.leads_done_iff] at leads
    cases leads
    exact .inl rfl
  | ok instruction =>
    rw [Script.runCommand, decoded, Script.bind_of_ok (Script.lift_ok instruction session)] at leads
    by_cases enables : instruction = .enableScreenUpdates
    · subst enables
      rcases (Script.enableScreenUpdates_fails session).of_leads_done leads error rfl with same | ⟨first, failed⟩
      · exact .inl same
      · exact .inr ⟨rfl, first, failed⟩
    · exact .inl ((Script.carryOut_atomic lists enables).of_leads_done leads error rfl)

/-- A start script puts a sound group on, and starts a movie that there is not. What the group was put on for
stays as it is. -/
theorem commands_atomic_begun : ∃ (session : Session) (moment : Moment Command),
    Reachable (.done session (.ok ())) ∧ moment ∈ session.begun ∧ moment.what = .op 33 [7] ∧
      moment.card.bind (·.visual.soundGroup) = some 1 ∧ ∃ error,
        let now : Session := { session with toStage := moment.stage, card := moment.card }
        (Script.runCommand (Script.runList 16) (.op 33 [7]) now).Leads (.done now (.error error)) := by
  let group : SoundGroup := { index := 1, sounds := [4], volume := 100, looping := true }
  let card : CardRecord := { scripts := [⟨9, [.op 40 [1], .op 33 [7]]⟩], soundGroups := [group] }
  let at_ (session : Session) (moment : Moment Command) : Session :=
    { session with toStage := moment.stage, card := moment.card }
  let run (session : Session) (moment : Moment Command) : Progress (Except ScriptError Flow) :=
    Script.runCommand (Script.runList 16) (.op 33 [7]) (at_ session moment)
  let fails (session : Session) (moment : Moment Command) : Bool :=
    moment.what == .op 33 [7] && moment.card.bind (·.visual.soundGroup) == some 1
      && (run session moment).failed?.isSome
  have ran : ((Session.beginning "a" [(1, card)]).after?
      [.message (.goto ⟨"a", 1⟩ none)]).any (fun session => session.begun.any (fails session)) = true := by
    decide +kernel
  obtain ⟨session, reachable, found⟩ := Session.exists_after "a" _ ran
  obtain ⟨moment, among, here⟩ := List.any_eq_true.mp found
  simp only [fails, Bool.and_eq_true, beq_iff_eq, Option.isSome_iff_exists] at here
  obtain ⟨⟨what, on⟩, ⟨later, error⟩, failed⟩ := here
  have leads := Progress.leads_of_failed? failed
  obtain ⟨-, unchanged⟩ := commands_atomic reachable (at_ session moment) (.inr ⟨moment, among, rfl, rfl⟩) 16 33 [7]
  obtain rfl : later = at_ session moment := (unchanged later error leads).resolve_right (nomatch ·.1)
  exact ⟨session, moment, reachable, among, what, on, error, leads⟩

end Reachable

end Diorama
