import Diorama.Proofs.Depth
import Diorama.Proofs.Looks
import Mathlib.Data.List.Infix

/-!
# What a script that fails leaves behind

A script fails at one of its commands, which may lie in branches and in the screen-update script
(`Script.Reaches`). What has been done up to there stays done, no command after it begins, and whatever is left
of the lists around it does nothing but put the flags back that were set for the screen-update script
(`Session.LeftBy`). Then the failure is reported: the picture and the cursor go back to the snapshot that the
display was handed last, updates are enabled, and what was held for the display is dropped.

`Reachable.failure_rolls_back` says this of every script that a run may come to, and says what it is for: nothing
that was put on out of sight before a failure is shown by a later snapshot, unless it is put on again.
-/

namespace Diorama

/-! ## The sound group -/

/-- What commands do keeps the sound group that is on listed. -/
theorem Deed.listsGroup {session later : Session} (deed : Deed session later) (lists : ListsGroup session.card) :
    ListsGroup later.card := by
  have kept (same : later.group? = session.group?) : ListsGroup later.card := by
    intro error
    change later.group? ≠ _
    rw [same]
    exact lists error
  cases deed with
  | quiet act => exact kept act.same.group
  | startsMovie code found on enabled => exact kept (session.group?_onMovie code _)
  | awaitsMovie code found on =>
    let put := session.onMovie code fun slot => { slot with playing := true }
    exact kept (put.publishIfNeeded_quiet.playsSame.group.trans (session.group?_onMovie code _))
  | @endsWait slot code outcome found playing told =>
    have same : (session.endWait code slot.media outcome).group? = session.group? := by
      cases outcome <;> exact session.group?_onMovie code _
    exact kept same
  | stopsMovie code found playing => exact kept (session.group?_onMovie code _)
  | putsMovie isOpen listed => exact kept (session.group?_putMovie _)
  | @clearsGroup card index isOpen on =>
    intro error
    change (session.clearGroup card index).group? ≠ _
    simp [session.group?_clearGroup]
  | putsGroup isOpen listed =>
    intro error
    change (session.putGroup _ _).group? ≠ _
    simp [Session.group?_putGroup isOpen listed]
  | startsGroup on => exact lists

/-- The card goes on listing the sound group that is on, whatever its scripts do. -/
theorem DeedChain.listsGroup {session later : Session} (chain : DeedChain session later)
    (lists : ListsGroup session.card) : ListsGroup later.card := by
  let holds (session : Session) : Prop := ListsGroup session.card
  have step {session later : Session} : Deed session later → holds session → holds later := Deed.listsGroup
  exact chain.keeps step lists

/-! ## Where a script fails -/

/-- It is noted around the screen-update script. -/
def Happening.AroundUpdate : Happening → Prop
  | .updates .covered | .updates (.restored _) => True
  | _ => False

/-- It is as it was, but for what is noted around the screen-update script and the two flags that are set for it. -/
def Session.LeftBy (later session : Session) : Prop :=
  ∃ marks updatesEnabled inScreenUpdate, (∀ mark ∈ marks, mark.AroundUpdate) ∧
    later = { session with transcript := marks ++ session.transcript, updatesEnabled, inScreenUpdate }

namespace Session.LeftBy

variable {session between later : Session}

theorem refl (session : Session) : session.LeftBy session :=
  ⟨[], session.updatesEnabled, session.inScreenUpdate, nofun, rfl⟩

/-- What is left by one and then by another is left by both. -/
theorem trans (h' : later.LeftBy between) (h : between.LeftBy session) : later.LeftBy session := by
  obtain ⟨marks, _, _, around, rfl⟩ := h
  obtain ⟨more, updatesEnabled, inScreenUpdate, around', rfl⟩ := h'
  refine ⟨more ++ marks, updatesEnabled, inScreenUpdate, fun mark among => ?_, ?_⟩
  · exact (List.mem_append.mp among).elim (around' mark) (around mark)
  · simp only [List.append_assoc]

/-- To cover the screen-update script does no more. -/
theorem cover (session : Session) : session.cover.LeftBy session :=
  ⟨[.updates .covered], false, true, List.forall_mem_singleton.mpr trivial, rfl⟩

/-- Nor does it do more to take the cover off. -/
theorem uncover (session : Session) (before : Bool) : (session.uncover before).LeftBy session :=
  ⟨[.updates (.restored before)], before, false, List.forall_mem_singleton.mpr trivial, rfl⟩

end Session.LeftBy

namespace Script

/-- A list that lies in a command is run, and the session with which it begins. -/
inductive Enters (session : Session) : Command → List Command → Session → Prop where
  | branch {index : UInt16} {cases : List Case} {name : String} {taken : Case}
      (named : variableName index session = .done session (.ok name))
      (selected : selectCase? cases (session.game.value name) = some taken) :
      Enters session (.branch index cases) taken.commands session
  | screenUpdate {opcode : UInt16} {args : List UInt16} {card : OpenCard} {commands : List Command}
      (decoded : Instruction.decode opcode args = .ok .enableScreenUpdates)
      (idle : session.inScreenUpdate = false) (isOpen : session.card = some card)
      (has : card.script? .screenUpdate = some commands) :
      Enters session (.op opcode args) commands session.cover

/-- A command is begun when the commands before it have ended, in the list itself or in one that lies in it; and the
session with which it begins. -/
inductive Reaches : (room : Nat) → List Command → Session → (inside : Nat) → Command → Session → Prop where
  | here {room : Nat} {command : Command} {rest : List Command} {session : Session}
      (live : session.tornDown = false) :
      Reaches (room + 1) (command :: rest) session room command (session.begin command)
  | next {room inside : Nat} {command last : Command} {rest : List Command} {session between here : Session}
      (live : session.tornDown = false)
      (ended : (runCommand (runList room) command (session.begin command)).Leads (.done between (.ok .next)))
      (onward : Reaches (room + 1) rest between.publishIfNeeded inside last here) :
      Reaches (room + 1) (command :: rest) session inside last here
  | inside {room inside : Nat} {command last : Command} {rest list : List Command} {session start here : Session}
      (live : session.tornDown = false) (enters : Enters (session.begin command) command list start)
      (onward : Reaches room list start inside last here) :
      Reaches (room + 1) (command :: rest) session inside last here

/-- The list fails at one of its commands, and nothing is done after that but around the screen-update script. -/
def FailsAt (room : Nat) (commands : List Command) (session failed : Session) (error : ScriptError) : Prop :=
  ∃ inside command here stopped, Reaches room commands session inside command here ∧
    (runCommand (runList inside) command here).Leads (.done stopped (.error error)) ∧
    stopped.LeftBy here ∧ failed.LeftBy here

/-- A list that there is no room for fails before it has begun, and any other at one of its commands. -/
def Fails (room : Nat) (commands : List Command) (session : Session) : Prop :=
  (runList room commands session).Sat (fun _ => True) fun failed result => ∀ error, result = .error error →
    room = 0 ∧ failed = session ∨ FailsAt room commands session failed error

section Inner

variable {room : Nat} (fails : ∀ commands session, ListsGroup session.card → Fails room commands session)
include fails

/-- A command that fails leaves things as they were, or it is a list that lies in it that has failed. -/
theorem runCommand_fails (command : Command) {session : Session} (lists : ListsGroup session.card) :
    (runCommand (runList room) command session).Sat (fun _ => True) fun failed result =>
      ∀ error, result = .error error → failed.LeftBy session ∨
        ∃ list start, Enters session command list start ∧ ∃ between, FailsAt room list start between error ∧
          failed.LeftBy between := by
  cases command with
  | branch index cases =>
    rw [runCommand, branch]
    rcases variableName_done index session with ⟨name, named⟩ | ⟨error, -, unnamed⟩
    · rw [bind_of_ok named, get_bind]
      cases selected : selectCase? cases (session.game.value name) with
      | none => exact fun _ never => by cases never
      | some taken =>
        refine (fails taken.commands session lists).imp fun failed result ends error same => ?_
        rcases ends error same with ⟨-, rfl⟩ | failsAt
        · exact .inl (.refl _)
        · exact .inr ⟨_, _, .branch named selected, failed, failsAt, .refl _⟩
    · rw [bind_of_error unnamed]
      exact fun _ _ => .inl (.refl _)
  | op opcode args =>
    rw [runCommand]
    cases decoded : Instruction.decode opcode args with
    | error error =>
      rw [bind_of_error (lift_error error session)]
      exact fun _ _ => .inl (.refl _)
    | ok instruction =>
      rw [bind_of_ok (lift_ok instruction session)]
      by_cases enables : instruction = .enableScreenUpdates
      · subst enables
        refine (enableScreenUpdates_fails session).imp fun failed result ends error same => ?_
        rcases ends error same with rfl | ⟨idle, card, commands, between, isOpen, has, led, rfl⟩
        · exact .inl (.refl _)
        -- Where there was no room for the screen-update script, the flags were set for it all the same.
        · rcases (fails commands session.cover lists).of_leads_done led error rfl with ⟨-, rfl⟩ | failsAt
          · exact .inl ((Session.LeftBy.uncover _ _).trans (.cover session))
          · exact .inr ⟨_, _, .screenUpdate decoded idle isOpen has, between, failsAt, .uncover _ _⟩
      · refine (carryOut_atomic lists enables).imp fun failed result ends error same => ?_
        rw [ends error same]
        exact .inl (.refl _)

/-- A list fails at one of its commands, or inside of one, and those before it have ended well. -/
theorem runEach_fails (commands : List Command) {session : Session} (lists : ListsGroup session.card) :
    (runEach (runCommand (runList room)) commands session).Sat (fun _ => True) fun failed result =>
      ∀ error, result = .error error → FailsAt (room + 1) commands session failed error := by
  -- The commands before the one that fails have kept the sound group listed, which it needs to change nothing.
  induction commands generalizing session with
  | nil => exact fun _ never => by cases never
  | cons command rest ih =>
    unfold runEach
    rw [get_bind]
    split
    next => exact fun _ never => by cases never
    next live =>
      rw [modify_bind]
      have live : session.tornDown = false := Bool.eq_false_iff.mpr live
      let begun := session.begin command
      have lists : ListsGroup begun.card := lists
      have does := runCommand_does (runList_does room) command begun
      have ran := ((Progress.sat_leads (runCommand (runList room) command begun)).and does).and
        (runCommand_fails fails command lists)
      refine sat_bind_of (ran.mono (fun _ _ => trivial) fun _ _ => id) ?_ ?_
      · rintro between flow ⟨⟨led, deeds⟩, -⟩
        cases flow with
        | next =>
          have shown : DeedChain begun between.publishIfNeeded :=
            deeds.trans between.publishIfNeeded_quiet.deeds
          refine (ih (shown.listsGroup lists)).imp fun failed result ends error same => ?_
          obtain ⟨inside, last, here, stopped, reaches, rest⟩ := ends error same
          exact ⟨inside, last, here, stopped, .next live led reaches, rest⟩
        | goto target => exact fun _ never => by cases never
        | halt => exact fun _ never => by cases never
      · rintro failed cause ⟨⟨led, -⟩, ends⟩ error same
        cases same
        rcases ends cause rfl with left | ⟨list, start, enters, between, failsAt, left⟩
        · exact ⟨room, command, begun, failed, .here live, led, left, left⟩
        · obtain ⟨inside, last, here, stopped, reaches, leads, at_, between⟩ := failsAt
          exact ⟨inside, last, here, stopped, .inside live enters reaches, leads, at_, left.trans between⟩

end Inner

/-- By induction on the room: what lies inside of a command fails in the same way. -/
theorem runList_fails (room : Nat) (commands : List Command) (session : Session) (lists : ListsGroup session.card) :
    Fails room commands session := by
  induction room generalizing commands session with
  | zero => exact fun _ _ => .inl ⟨rfl, rfl⟩
  | succ room ih => exact (runEach_fails ih commands lists).imp fun _ _ ends error same => .inr (ends error same)

end Script

/-! ## Reports -/

namespace Happening

/-- What is noted around a screen-update script neither shows anything nor takes it back. -/
theorem AroundUpdate.neutral {happening : Happening} (around : happening.AroundUpdate) : happening.Neutral := by
  cases happening with
  | updates change => cases change <;> trivial
  | _ => exact around.elim

/-- What is not about the display is no failure. -/
theorem Still.failure? {happening : Happening} (still : happening.Still) : happening.failure? = none := by
  cases happening with
  | recorded notice => cases notice <;> first | rfl | exact still.elim
  | _ => rfl

/-- The failures that have been reported, the latest first. -/
def failures (transcript : List Happening) : List (String × ScriptError) :=
  transcript.filterMap failure?

end Happening

/-- While a list runs no failure is reported. -/
theorem Session.failures_upkeep (reports : List (String × ScriptError)) :
    ListUpkeep fun session => Happening.failures session.transcript = reports where
  stroke {session later} stroke same := by
    refine Eq.trans ?_ same
    cases stroke with
    | untouched same =>
      obtain ⟨during, transcript, still⟩ := same.transcript
      have none : during.filterMap Happening.failure? = [] :=
        List.filterMap_eq_nil_iff.mpr fun one among => (still one among).failure?
      rw [transcript, Happening.failures, List.filterMap_append, none]
      rfl
    | shows enabled => unfold Session.showCard; split <;> rfl
    | _ => rfl
  begins _ same := same
  enables same := same
  covers same := same
  uncovers _ _ same := same

/-! ## Failures -/

/-- What a failure makes of the session in which a command has failed, given what is noted around the screen-update
script. Whatever it does not name is as it was. -/
def Session.afterFailure (session : Session) (marks : List Happening) (label : String) (error : ScriptError) :
    Session :=
  { session with
    settings :=
      (session.settings.insert EngineVariables.scriptErrorFlag (.bool true)).insert
        EngineVariables.lastScriptError (.string error.message)
    log := session.log.record (Notice.scriptFailed label error).text
    transcript := .updates .failed :: .recorded (.scriptFailed label error) :: (marks ++ session.transcript)
    blockingMovie := false
    inScreenUpdate := false
    updatesEnabled := true
    held := []
    card := session.card.map fun card =>
      { card with
        visual :=
          { card.visual with
            picture := Trait.picture.lastShown session.transcript
            cursor := Trait.cursor.lastShown session.transcript } } }

/-- The report of a failure does only this, wherever in the script it was. -/
theorem Session.LeftBy.scriptFailed {failed here : Session} (left : failed.LeftBy here)
    (recalls : Recalls failed.card failed.transcript) (label : String) (error : ScriptError) :
    ∃ marks, (∀ mark ∈ marks, mark.AroundUpdate) ∧
      failed.scriptFailed label error = here.afterFailure marks label error := by
  obtain ⟨marks, updatesEnabled, inScreenUpdate, around, rfl⟩ := left
  have last : Happening.lastShown (marks ++ here.transcript) = Happening.lastShown here.transcript :=
    Happening.lastShown_neutral (fun mark among => (around mark among).neutral) _
  have back : here.card.map OpenCard.discardUnpublished = (here.afterFailure marks label error).card := by
    cases isOpen : here.card with
    | none => simp [afterFailure, isOpen]
    | some card =>
      have published : card.published = Happening.lastShown here.transcript := (recalls card isOpen).trans last
      simp only [afterFailure, isOpen, Option.map_some, Option.some.injEq]
      rw [OpenCard.discardUnpublished, Trait.lastShown, Trait.lastShown, published]
      cases Happening.lastShown here.transcript <;> rfl
  refine ⟨marks, around, ?_⟩
  calc
    _ = { here.afterFailure marks label error with card := here.card.map OpenCard.discardUnpublished } := rfl
    _ = here.afterFailure marks label error := by rw [back]

/-- A script has failed at one of its commands, and everything is as this command has found it but for what a failure
takes back. One failure has been reported. -/
structure Script.RollsBack (label : String) (commands : List Command) (session : Session) (error : ScriptError)
    (later : Session) : Prop where
  ends : (runScript label commands session).Leads (.done later (.ok none))
  reached : ∃ inside command here stopped marks, Reaches (maxScriptDepth + 1) commands session inside command here ∧
    (runCommand (runList inside) command here).Leads (.done stopped (.error error)) ∧ stopped.LeftBy here ∧
    (∀ mark ∈ marks, mark.AroundUpdate) ∧ later = here.afterFailure marks label error
  picture : ∀ card, later.card = some card → card.visual.picture = Trait.picture.lastShown later.transcript
  cursor : ∀ card, later.card = some card → card.visual.cursor = Trait.cursor.lastShown later.transcript
  enabled : later.updatesEnabled = true
  unheld : later.held = []
  reported : Happening.failures later.transcript = (label, error) :: Happening.failures session.transcript
  message : later.settings.get? EngineVariables.lastScriptError = some (.string error.message)

namespace Script

/-- The failure of a list is reported on what it has left, and the report takes back what the display was not
shown. -/
theorem rollsBack {session failed : Session} {commands : List Command} {error : ScriptError}
    (lists : ListsGroup session.card) (recalls : Recalls session.card session.transcript) (label : String)
    (leads : (runList (maxScriptDepth + 1) commands session).Leads (.done failed (.error error))) :
    RollsBack label commands session error (failed.scriptFailed label error) := by
  have recalled : Recalls failed.card failed.transcript :=
    ((Recalls.upkeep.runList_keeps _ commands session).of_leads_done leads).2 recalls
  have same : Happening.failures failed.transcript = Happening.failures session.transcript :=
    (((Session.failures_upkeep _).runList_keeps _ commands session).of_leads_done leads).2 rfl
  have takenBack {α : Type} (trait : Trait α) (card : OpenCard)
      (isOpen : (failed.scriptFailed label error).card = some card) :
      trait.of card.visual = trait.lastShown (failed.scriptFailed label error).transcript := by
    obtain ⟨before, wasOpen, rfl⟩ := Option.map_eq_some_iff.mp isOpen
    rw [trait.takenBack, recalled before wasOpen]
    rfl
  refine ⟨Progress.Leads.bind (Progress.Leads.bind leads _) _, ?_, takenBack .picture, takenBack .cursor, rfl, rfl,
    congrArg (_ :: ·) same, ?_⟩
  · rcases (runList_fails _ commands session lists).of_leads_done leads error rfl with ⟨never, -⟩ | failsAt
    · cases never
    · obtain ⟨inside, command, here, stopped, reaches, fails, stays, left⟩ := failsAt
      obtain ⟨marks, around, same⟩ := left.scriptFailed recalled label error
      exact ⟨inside, command, here, stopped, marks, reaches, fails, stays, around, same⟩
  · exact (SortedMap.get?_insert ..).trans (if_pos rfl)

end Script

namespace Reachable

variable {progress : Progress (Except ScriptError Unit)}

/-- In every run, between two events, while one waits, and at every moment at which a command began: whatever script
runs, if it fails, it is rolled back. And whatever the display is shown after a failure or the opening of a card, and
before the next card is opened: the picture and the cursor are those that it had been shown last of the card by then,
or a command has put them on that was begun since. -/
theorem failure_rolls_back (reachable : Reachable progress) :
    (∀ session : Session, (session = progress.session ∨ ∃ moment ∈ progress.session.begun,
        session.toStage = moment.stage ∧ session.card = moment.card) →
      ∀ label commands failed error,
        (Script.runList (maxScriptDepth + 1) commands session).Leads (.done failed (.error error)) →
          Script.RollsBack label commands session error (failed.scriptFailed label error)) ∧
    ∀ after frame during mark earlier,
      progress.session.transcript = after ++ .published frame :: (during ++ mark :: earlier) →
      mark.TakesBack → (∀ happening ∈ during, ¬ happening.Opens) →
        Trait.picture.Sourced progress.session.begun frame.visual.picture (mark :: earlier) ∧
        Trait.cursor.Sourced progress.session.begun frame.visual.cursor (mark :: earlier) := by
  refine ⟨fun session now label commands failed error leads => ?_, ?_⟩
  · have sourced := reachable.sourced .picture
    obtain ⟨excused, begun⟩ := reachable.keepsListing
    have known : ListsGroup session.card ∧ Recalls session.card session.transcript := by
      rcases now with rfl | ⟨moment, among, stage, card⟩
      · exact ⟨excused.lists, sourced.recalls⟩
      · rw [card, stage]
        exact ⟨begun moment among, sourced.recalled moment among⟩
    exact Script.rollsBack known.1 known.2 label leads
  · intro after frame during mark earlier split takesBack unopened
    have shown {α : Type} (trait : Trait α) :
        trait.Sourced progress.session.begun (trait.of frame.visual) (mark :: earlier) := by
      have frames := (reachable.sourced trait).frames
      rw [split] at frames
      exact (frames.at frame rfl).of_split takesBack unopened
    exact ⟨shown .picture, shown .cursor⟩

/-- A prepare script sets a cursor and fails, and the card is shown without one. Then the start script sets a cursor,
and another one out of sight before it fails; it leaves the first. -/
theorem failure_rolls_back_start : ∃ (session : Session) (moment : Moment Command) (commands : List Command)
    (error : ScriptError) (later : Session), Reachable (.done session (.ok ())) ∧ moment ∈ session.begun ∧
      let now : Session := { session with toStage := moment.stage, card := moment.card }
      Script.RollsBack "start" commands now error later ∧ later.card.bind (·.visual.cursor) = some 3001 ∧
        (∃ command ∈ later.begun, command.what = .op 13 [3002]) ∧
        ∃ after frame earlier,
          session.transcript = after ++ .published frame :: ([.updates .shown] ++ .updates .failed :: earlier) ∧
            frame.visual.cursor = none ∧
            Trait.cursor.Sourced session.begun frame.visual.cursor (.updates .failed :: earlier) := by
  let start : List Command := [.op 13 [3001], .op 20 [], .op 13 [3002], .op 33 [7]]
  let card : CardRecord := { scripts := [⟨6, [.op 13 [3000], .op 33 [7]]⟩, ⟨9, start⟩] }
  let at_ (session : Session) (moment : Moment Command) : Session :=
    { session with toStage := moment.stage, card := moment.card }
  let rolls (failed : Session) : Bool :=
    failed.card.any (fun card => card.discardUnpublished.visual.cursor == some 3001)
      && failed.begun.any (·.what == .op 13 [3002])
  let fails (session : Session) (moment : Moment Command) : Bool :=
    (Script.runList (maxScriptDepth + 1) start (at_ session moment)).failed?.any fun ended => rolls ended.1
  let bare (transcript : List Happening) : Bool :=
    (Happening.published? transcript).any fun shown => shown.1.visual.cursor == none
      && (Happening.changed? shown.2).any fun reveals => reveals.1 == .shown
        && (Happening.changed? reveals.2).any fun failure => failure.1 == .failed
  have ran : ((Session.beginning "a" [(1, card)]).after? [.message (.goto ⟨"a", 1⟩ none)]).any (fun session =>
      session.begun.any (fails session) && session.transcript.tails.any bare) = true := by decide +kernel
  obtain ⟨session, reachable, here⟩ := Session.exists_after "a" _ ran
  obtain ⟨begun, shown⟩ := Bool.and_eq_true_iff.mp here
  obtain ⟨moment, among, failed⟩ := List.any_eq_true.mp begun
  obtain ⟨⟨failed, error⟩, ended, rolled⟩ := (Option.any_eq_true ..).mp failed
  obtain ⟨cursor, begun⟩ := Bool.and_eq_true_iff.mp rolled
  obtain ⟨open_, isOpen, cursor⟩ := (Option.any_eq_true ..).mp cursor
  obtain ⟨command, begunThere, same⟩ := List.any_eq_true.mp begun
  have leads := Progress.leads_of_failed? ended
  have laws := failure_rolls_back reachable
  have back := laws.1 (at_ session moment) (.inr ⟨moment, among, rfl, rfl⟩) "start" start failed error leads
  obtain ⟨tail, suffix, found⟩ := List.any_eq_true.mp shown
  obtain ⟨after, split⟩ := (List.mem_tails _ _).mp suffix
  obtain ⟨⟨frame, before⟩, published, found⟩ := (Option.any_eq_true ..).mp found
  obtain ⟨none, found⟩ := Bool.and_eq_true_iff.mp found
  obtain ⟨⟨reveals, hidden⟩, revealed, found⟩ := (Option.any_eq_true ..).mp found
  obtain ⟨isShown, found⟩ := Bool.and_eq_true_iff.mp found
  obtain ⟨⟨failure, earlier⟩, reported, isFailed⟩ := (Option.any_eq_true ..).mp found
  obtain rfl : failure = .failed := beq_iff_eq.mp isFailed
  obtain rfl : reveals = .shown := beq_iff_eq.mp isShown
  obtain rfl : hidden = .updates .failed :: earlier := Happening.eq_of_changed? reported
  obtain rfl : before = .updates .shown :: .updates .failed :: earlier := Happening.eq_of_changed? revealed
  rw [Happening.eq_of_published? published] at split
  have sourced := (laws.2 after frame [.updates .shown] (.updates .failed) earlier split.symm trivial
    (List.forall_mem_singleton.mpr id)).2
  refine ⟨session, moment, start, error, failed.scriptFailed "start" error, reachable, among, back, ?_,
    ⟨command, begunThere, beq_iff_eq.mp same⟩, after, frame, earlier, split.symm, beq_iff_eq.mp none, sourced⟩
  have here : (failed.scriptFailed "start" error).card = some open_.discardUnpublished := by
    change failed.card.map _ = _
    rw [isOpen]
    rfl
  rw [here]
  exact beq_iff_eq.mp cursor

end Reachable

end Diorama
