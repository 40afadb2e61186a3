import Diorama.Proofs.MovieStarts

/-!
# Players that end every movie at once

An event stands still only where a script waits for a movie. A player may answer the start of a movie that is
waited for by ending the wait; if it always does, the outcome is there before the wait begins. Nothing that
programs do changes how the player will reply, other than that one reply is used up by each such start. So an event
that begins with a player of this kind ends, whatever the cards ask for (`Reachable.event_ends`).

There is one way out. The gate is armed for the code under which the movie was asked for, and the player replies to
the code that the movie has; a slot that lay under the code of another movie would be waited for in vain. So a
program ends, or it waits in a session that has such a slot (`Progress.Prompt`), which is a law of programs
(`Script.ends`); and in no run is there one (`Session.Excused.coded`).
-/

namespace Diorama

/-! ## Players -/

/-- Whatever the gate was like, a movie that is started and waited for has ended by this reply. -/
def PlayerReply.Finishes (reply : PlayerReply) : Prop :=
  ∀ (gate : MovieGate) (code : UInt16), (((reply code).foldl MovieGate.receive (gate.arm code)).wait?).isSome = true

/-- To report the end of the movie at once finishes it. -/
theorem PlayerReply.finishes_finish : PlayerReply.finish.Finishes := by
  intro gate code
  have reported : [GateCall.complete code].foldl MovieGate.receive (gate.arm code)
      = { gate with waiting := some code, outcome := some .completed } := by
    simp [MovieGate.receive, MovieGate.complete, MovieGate.accept, MovieGate.arm]
  rw [PlayerReply.finish, reported, MovieGate.wait?]
  split <;> rfl

/-- Every reply that the player has ends the wait. -/
structure MediaPlayer.Finishes (player : MediaPlayer) : Prop where
  replies : ∀ reply ∈ player.replies, reply.Finishes
  lastReply : player.lastReply.Finishes

namespace MediaPlayer.Finishes

variable {player later : MediaPlayer}

/-- It is only the replies that make a player finish. -/
theorem of_answers (h : player.Finishes) (answers : later.answers = player.answers) : later.Finishes := by
  obtain ⟨replies, lastReply⟩ := Prod.mk.inj answers
  exact ⟨replies ▸ h.replies, lastReply ▸ h.lastReply⟩

/-- A movie that is waited for has ended when it has been started, and the player is as ready for the next one. -/
theorem start (h : player.Finishes) (gate : MovieGate) (code movie : UInt16) (looping : Bool) :
    (((player.start (.movie code movie looping) true).1.foldl MovieGate.receive (gate.arm code)).wait?).isSome = true ∧
      (player.start (.movie code movie looping) true).2.Finishes := by
  obtain ⟨requests, positions, replies, lastReply⟩ := player
  cases replies with
  | nil => exact ⟨h.lastReply gate code, h.replies, h.lastReply⟩
  | cons reply rest =>
    obtain ⟨here, rest⟩ := List.forall_mem_cons.mp h.replies
    exact ⟨here gate code, rest, h.lastReply⟩

end MediaPlayer.Finishes

/-- A player that always replies that the movie has ended finishes all of them. -/
theorem MediaPlayer.finishes_finishing : MediaPlayer.finishing.Finishes :=
  ⟨List.forall_mem_nil _, PlayerReply.finishes_finish⟩

/-! ## Programs -/

/-- Every movie lies in the slot of its own code. -/
def Session.Coded (session : Session) : Prop :=
  ∀ code slot, session.movie? code = some slot → slot.movie.code = code

/-- The program has ended, with a player that still ends every movie at once; or it waits for a movie that lies in
the slot of another code. -/
def Progress.Prompt {α : Type} : Progress α → Prop
  | .done session _ => session.player.Finishes
  | .waiting session _ => ¬ session.Coded

/-- What comes after is of no concern to a program that waits. -/
theorem Progress.Prompt.bind {α β : Type} {progress : Progress α} {next : Session → α → Progress β}
    (first : progress.Prompt)
    (onward : ∀ later value, progress = .done later value → later.player.Finishes → (next later value).Prompt) :
    (progress.bind next).Prompt := by
  cases progress with
  | done later value => exact onward later value rfl first
  | waiting waiting resume => exact first

namespace Script

variable {α β : Type}

/-- With a player that ends every movie at once the program ends without waiting, if every movie lies in its slot. -/
def Ends (script : Script α) : Prop :=
  ∀ session : Session, session.player.Finishes → (script session).Prompt

/-- Either program may be the one that waits. -/
theorem prompt_bind {script : Script α} {next : α → Script β} {session : Session} (first : (script session).Prompt)
    (onward : ∀ later value, script session = .done later (.ok value) → later.player.Finishes →
      (next value later).Prompt) : ((script >>= next) session).Prompt := by
  refine Progress.Prompt.bind first fun later result came finishes => ?_
  cases result with
  | ok value => exact onward later value came finishes
  | error error => exact finishes

namespace Ends

theorem modify {change : Session → Session}
    (answers : ∀ session : Session, (change session).player.answers = session.player.answers) :
    Ends (Script.modify change) :=
  fun session finishes => finishes.of_answers (answers session)

theorem get : Ends Script.get :=
  fun _ finishes => finishes

theorem bind {script : Script α} {next : α → Script β} (h : Ends script) (h' : ∀ value, Ends (next value)) :
    Ends (script >>= next) :=
  fun session finishes => prompt_bind (h session finishes) fun later value _ => h' value later

theorem attempt {script : Script α} (h : Ends script) : Ends (Script.attempt script) :=
  fun session finishes => (h session finishes).bind fun _ _ _ ready => ready

end Ends

/-- Not to stand still is closed under putting programs together. -/
theorem composes_ends : Composes Ends where
  pure _ _ finishes := finishes
  fail _ _ finishes := finishes
  reads _ h := .bind .get h
  bind := .bind
  attempt := .attempt
  minor h := .modify fun session => (h.aside session).answers

/-- Where a movie is waited for the outcome is there, if the movie has the code that the gate is armed for. -/
theorem awaitMovie_ends {code : UInt16} {session : Session} {slot : MovieSlot} (finishes : session.player.Finishes)
    (found : session.movie? code = some slot) : (awaitMovie (session.beginWait code slot.media)).Prompt := by
  let put := session.onMovie code fun slot => { slot with playing := true }
  have shown : put.publishIfNeeded.player.Finishes := finishes.of_answers put.aside_publishIfNeeded.answers
  obtain ⟨replied, ready⟩ := shown.start put.publishIfNeeded.gate slot.movie.code slot.movie.movie slot.movie.looping
  rw [awaitMovie]
  split
  · exact ready
  next unanswered =>
    -- The gate is armed for `code`, but the player has replied to the code of the movie.
    intro coded
    obtain ⟨playing, there, -, same⟩ := session.movie?_beginWait found slot.media
    obtain ⟨own, -, -⟩ := MediaRef.movie.inj same
    obtain rfl : slot.movie.code = code := own.symm.trans (coded code playing there)
    exact absurd unanswered (Option.isSome_iff_ne_none.mp replied)

/-- To look a slot up leaves the session as it is, and gives the slot of that code. -/
theorem movieSlot_eq_ok {session later : Session} {code : UInt16} {slot : MovieSlot}
    (looked : movieSlot code session = .done later (.ok slot)) :
    later = session ∧ session.movie? code = some slot := by
  cases isOpen : session.card with
  | none =>
    rw [movieSlot, bind_of_error (openCard_of_none isOpen)] at looked
    cases looked
  | some card =>
    rw [movieSlot, bind_of_ok (openCard_of_some isOpen)] at looked
    cases listed : card.visual.movies.get? code with
    | none =>
      rw [listed] at looked
      cases looked
    | some there =>
      rw [listed] at looked
      cases looked
      exact ⟨rfl, by rw [Session.movie?, isOpen, Option.bind_some, listed]⟩

/-- The reply of the player is at the gate before the wait begins, so there is no wait. -/
theorem startMovieBlocking_ends (code : UInt16) : Ends (startMovieBlocking code) := by
  refine .bind (composes_ends.flag_holds EngineVariables.asked_moviesEnabled) fun on => ?_
  split
  · intro session finishes
    refine prompt_bind (composes_ends.movieSlot_holds code session finishes) fun later slot looked _ => ?_
    obtain ⟨rfl, found⟩ := movieSlot_eq_ok looked
    change ((awaitMovie >>= _) (later.beginWait code slot.media)).Prompt
    refine prompt_bind (awaitMovie_ends finishes found) fun answered outcome _ => ?_
    have freed : Ends (modify fun session =>
        { session.onStage (·.note (.answered code outcome)) with blockingMovie := false }) :=
      .modify fun _ => rfl
    have stilled := composes_ends.onMovie_holds code fun slot => { slot with playing := false }
    refine Ends.bind freed (fun _ => .bind stilled fun _ => ?_) answered
    cases outcome with
    | completed => exact composes_ends.pure _
    | skipped =>
      have recorded : Ends (record (.movieSkipped code)) := composes_ends.record_holds trivial
      exact .bind (composes_ends.stopMedia_holds slot.media) fun _ => composes_ends.goesOn recorded
    | aborted => exact composes_ends.pure _
  · exact composes_ends.goesOn (composes_ends.record_holds trivial)

/-- Enabling updates does not wait if the screen-update script does not. -/
theorem enableScreenUpdates_ends {inner : List Command → Script Flow} (h : ∀ commands, Ends (inner commands)) :
    Ends (enableScreenUpdates inner) := by
  have shown : Ends (do
      modify fun session => (session.changeUpdates .enabled).publish
      return Flow.next) :=
    composes_ends.goesOn (.modify fun session => (session.changeUpdates .enabled).aside_publish.answers)
  refine .bind .get fun session => ?_
  split
  · exact shown
  · refine composes_ends.openCard_bind (fun _ => rfl) fun card => ?_
    split
    · exact shown
    · refine .bind .get fun session => .bind (.modify fun _ => rfl) fun _ => .bind (.attempt (h _)) fun result => ?_
      refine .bind (.modify fun _ => rfl) fun _ => .bind (composes_ends.lift result) fun flow => ?_
      cases flow with
      | next => exact shown
      | goto target => exact composes_ends.pure _
      | halt => exact composes_ends.pure _

/-- With a player that ends every movie at once no program waits for a movie that lies in its own slot. -/
theorem ends : Law Ends where
  toComposes := composes_ends
  begins command h := by
    refine .bind .get fun session => ?_
    split
    · exact composes_ends.pure _
    · exact .bind (.modify fun _ => rfl) fun _ => h
  awaits := startMovieBlocking_ends
  covers := enableScreenUpdates_ends
  leaves h := by
    refine .bind .get fun session => ?_
    split
    · refine .bind (.modify fun _ => rfl) fun _ => .bind h fun _ => .bind (.modify fun _ => rfl) fun _ => ?_
      exact .modify fun session => session.aside_closeCard.answers
    · exact composes_ends.pure _
  fails label error := .modify fun _ => rfl

/-- With such a player no event stands still. -/
theorem event_ends (event : Event) : Ends event.script := by
  have clicked (down : Bool) (trigger : Trigger) : Ends (do
      modify fun session => { session with buttonDown := down }
      runActiveHotspot trigger >>= settle) :=
    .bind (.modify fun _ => rfl) fun _ => ends.active_settle_holds trigger
  exact ends.event_holds .get event (fun _ => clicked true .mouseDown) fun _ => clicked false .mouseUp

end Script

/-! ## Runs -/

/-- With a player that ends every movie at once, every event ends without standing still, and the player is as ready
for the next one. -/
theorem Reachable.event_ends {session : Session} {result : Except ScriptError Unit}
    (reachable : Reachable (.done session result)) (finishes : session.player.Finishes) (event : Event) :
    ∃ later outcome, event.script session = .done later outcome ∧ later.player.Finishes := by
  have prompt := Script.event_ends event session finishes
  cases came : event.script session with
  | done later outcome =>
    rw [came] at prompt
    exact ⟨later, outcome, rfl, prompt⟩
  | waiting waiting resume =>
    rw [came] at prompt
    have there : Reachable (.waiting waiting resume) := .event reachable event (came ▸ .refl)
    exact absurd (fun _ _ found => there.excused.coded found) prompt

end Diorama
