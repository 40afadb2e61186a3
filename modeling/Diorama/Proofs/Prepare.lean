import Diorama.Proofs.ScreenUpdates
import Diorama.Proofs.Strokes
import Mathlib.Data.List.Infix

/-!
# Prepare scripts run out of sight

A card is opened with updates disabled, and when its prepare script has ended, well or by failing, a snapshot is
published of the card as the script left it. What the prepare script does in between is not to be seen.

There is only one permission, though, and no count of who has taken it. A prepare script that enables updates has
them enabled, and so has one whose screen-update script does. From there on the display is shown what changes, and
the snapshot at the end is not the first (`Reachable.prepare_on_screen`). A script that never enables updates is
not seen before it has ended: branches, brackets that it leaves open, movies that it waits for and failures give
nothing away (`Reachable.prepare_off_screen`).
-/

namespace Diorama

/-! ## Reading a transcript -/

/-- The prepare script has ended after it: the card is shown or closed, or a script has failed, which is the prepare
script if it has not ended before. -/
def UpdatesChange.endsPrepare : UpdatesChange → Bool
  | .failed | .closed | .shown => true
  | _ => false

namespace Happening

/-- A card has been opened, and the permission to show has not changed since in a way that `ends` it. -/
def sinceOpening (ends : UpdatesChange → Bool) : List Happening → Bool
  | [] => false
  | .recorded (.cardOpened _) :: _ => true
  | .updates change :: earlier => !ends change && sinceOpening ends earlier
  | _ :: earlier => sinceOpening ends earlier

/-- A card has been opened, and its prepare script has not ended. -/
def preparing : List Happening → Bool :=
  sinceOpening UpdatesChange.endsPrepare

/-- A card has been opened, its prepare script has not ended, and no script has enabled updates since. -/
def offScreen : List Happening → Bool :=
  sinceOpening fun change => change.endsPrepare || change == .enabled

/-- What is not about the display is not for it. -/
theorem Still.not_forDisplay {happening : Happening} (still : happening.Still) : ¬ happening.ForDisplay := by
  cases happening with
  | published | requested => exact still.elim
  | _ => exact id

/-- As long as no card is opened, what has begun with the last opening can only end. -/
theorem sinceOpening_of_append {ends : UpdatesChange → Bool} {during earlier : List Happening}
    (unopened : ∀ happening ∈ during, ¬ happening.Opens) (h : sinceOpening ends (during ++ earlier) = true) :
    sinceOpening ends earlier = true := by
  induction during with
  | nil => exact h
  | cons happening during ih =>
    obtain ⟨here, unopened⟩ := List.forall_mem_cons.mp unopened
    refine ih unopened ?_
    cases happening with
    | recorded notice =>
      cases notice with
      | cardOpened location => exact absurd trivial here
      | _ => exact h
    | updates change => exact (Bool.and_eq_true_iff.mp h).2
    | _ => exact h

end Happening

/-! ## Strokes -/

/-- A stroke opens no card; and while updates are disabled they stay so, and nothing is handed to the display. -/
theorem Stroke.noted {session later : Session} (stroke : Stroke session later) : ∃ during,
    later.transcript = during ++ session.transcript ∧ (∀ happening ∈ during, ¬ happening.Opens) ∧
      (session.updatesEnabled = false →
        later.updatesEnabled = false ∧ ∀ happening ∈ during, ¬ happening.ForDisplay) := by
  have permitted (enabled : session.updatesEnabled = true) (act : ScriptAct session later) : ∃ during,
      later.transcript = during ++ session.transcript ∧ (∀ happening ∈ during, ¬ happening.Opens) ∧
        (session.updatesEnabled = false →
          later.updatesEnabled = false ∧ ∀ happening ∈ during, ¬ happening.ForDisplay) := by
    obtain ⟨during, transcript, ofScript⟩ := act.notes
    refine ⟨during, transcript, fun one among => (ofScript one among).not_opens, fun disabled => ?_⟩
    exact absurd (disabled.symm.trans enabled) Bool.false_ne_true
  cases stroke with
  | untouched same =>
    obtain ⟨during, transcript, still⟩ := same.transcript
    refine ⟨during, transcript, fun one among => (still one among).not_opens, fun disabled => ?_⟩
    exact ⟨same.updatesEnabled.trans disabled, fun one among => (still one among).not_forDisplay⟩
  | setsCursor last now set => exact ⟨[], rfl, nofun, fun disabled => ⟨disabled, nofun⟩⟩
  | setsPicture last now set => exact ⟨[], rfl, nofun, fun disabled => ⟨disabled, nofun⟩⟩
  | disables =>
    exact ⟨[.updates .disabled], rfl, List.forall_mem_singleton.mpr id, fun _ =>
      ⟨rfl, List.forall_mem_singleton.mpr id⟩⟩
  | shows enabled => exact permitted enabled (.shows enabled)
  | hands first enabled => exact permitted enabled (.hands first enabled)

/-! ## Every run -/

/-- While a card is off screen updates are disabled, and nothing has been handed to the display while one was. -/
structure Session.Hides (session : Session) : Prop where
  disabled : Happening.offScreen session.transcript = true → session.updatesEnabled = false
  hidden : Happening.Each (fun earlier happening => happening.ForDisplay → Happening.offScreen earlier = false)
    session.transcript

namespace Session.Hides

variable {session later : Session}

/-- It is noted, and neither handed to the display nor of anything that brings a card off screen. -/
theorem noted (h : session.Hides) {happening : Happening} (notShown : ¬ happening.ForDisplay)
    (transcript : later.transcript = happening :: session.transcript)
    (disabled : Happening.offScreen (happening :: session.transcript) = true → later.updatesEnabled = false) :
    later.Hides := by
  refine ⟨fun off => disabled (transcript ▸ off), ?_⟩
  rw [transcript]
  exact ⟨fun shown => absurd shown notShown, h.hidden⟩

/-- No stroke hands anything to the display while a card is off screen. -/
theorem stroke (stroke : Stroke session later) (h : session.Hides) : later.Hides := by
  obtain ⟨during, transcript, unopened, kept⟩ := stroke.noted
  have back {before : List Happening} (part : ∀ one ∈ before, one ∈ during)
      (off : Happening.offScreen (before ++ session.transcript) = true) : session.updatesEnabled = false :=
    h.disabled (Happening.sinceOpening_of_append (fun one among => unopened one (part one among)) off)
  refine ⟨fun off => (kept (back (fun _ => id) (transcript ▸ off))).1, ?_⟩
  rw [transcript]
  refine h.hidden.append fun after happening before split shown => Bool.eq_false_iff.mpr fun off => ?_
  have part : ∀ one ∈ before, one ∈ during := fun one among => by simp [split, among]
  exact (kept (back part off)).2 happening (by simp [split]) shown

/-- A card that is closed is off screen no longer. -/
theorem closeCard (h : session.Hides) : session.closeCard.Hides := by
  cases isOpen : session.card with
  | none => rwa [Session.closeCard_of_none isOpen]
  | some card =>
    obtain ⟨player, same⟩ := Session.closeCard_of_some isOpen
    rw [same]
    refine ⟨nofun, nofun, nofun, h.hidden.append fun later happening before split shown => ?_⟩
    have among : happening ∈ ((Session.playing card).map Happening.stopped).reverse := by simp [split]
    obtain ⟨media, -, rfl⟩ := List.mem_map.mp (List.mem_reverse.mp among)
    exact shown.elim

/-- That nothing is handed over off screen is kept at every step of a run. -/
theorem upkeep : DisplayUpkeep Hides where
  stroke := stroke
  begins command h := ⟨h.disabled, h.hidden⟩
  enables h := h.noted id rfl nofun
  covers h := h.noted id rfl fun _ => rfl
  uncovers {session between} h chain h' := by
    refine h'.noted id rfl fun off => h.disabled ?_
    have whole : ScriptChain session between := session.cover_chain.trans chain
    obtain ⟨during, transcript, ofScript⟩ := whole.notes
    have off : Happening.offScreen (during ++ session.transcript) = true := transcript ▸ off
    exact Happening.sinceOpening_of_append (fun one among => (ofScript one among).not_opens) off
  fails label error h := ⟨nofun, nofun, nofun, h.hidden⟩
  closes := closeCard
  opens location h closed key loaded := ⟨fun _ => rfl, nofun, nofun, h.hidden⟩
  reveals h := h.noted id rfl nofun

end Session.Hides

/-- So in every run nothing was handed to the display while a card was off screen. -/
theorem Reachable.hides {progress : Progress (Except ScriptError Unit)} (reachable : Reachable progress) :
    progress.session.Hides :=
  Session.Hides.upkeep.reachable (fun _ _ _ => ⟨nofun, trivial⟩) reachable

/-! ## Arrivals -/

/-- Nothing has been handed to the display since, unless a script has enabled updates. -/
def Session.ShowsNothing (session later : Session) : Prop :=
  ∃ during, later.transcript = during ++ session.transcript ∧
    (.updates .enabled ∈ during ∨ ∀ happening ∈ during, ¬ happening.ForDisplay)

/-- What keeps the display from being shown anything: updates are disabled, unless a script has enabled them. -/
def Session.Veils (session later : Session) : Prop :=
  ∃ during, later.transcript = during ++ session.transcript ∧
    (.updates .enabled ∈ during ∨ later.updatesEnabled = false ∧ ∀ happening ∈ during, ¬ happening.ForDisplay)

namespace Session.Veils

variable {first session later : Session}

/-- While the veil holds nothing has been shown. -/
theorem showsNothing (h : first.Veils session) : first.ShowsNothing session := by
  obtain ⟨during, transcript, seen | ⟨-, unseen⟩⟩ := h
  · exact ⟨during, transcript, .inl seen⟩
  · exact ⟨during, transcript, .inr unseen⟩

/-- It has gone on, and updates are disabled if they were and nothing has been handed over by then. -/
theorem onward (h : first.Veils session) (more : List Happening)
    (transcript : later.transcript = more ++ session.transcript)
    (kept : session.updatesEnabled = false → .updates .enabled ∈ more ∨
      later.updatesEnabled = false ∧ ∀ happening ∈ more, ¬ happening.ForDisplay) : first.Veils later := by
  obtain ⟨during, before, veiled⟩ := h
  refine ⟨more ++ during, by rw [transcript, before, List.append_assoc], ?_⟩
  rcases veiled with seen | ⟨disabled, unseen⟩
  · exact .inl (List.mem_append_right more seen)
  · refine (kept disabled).imp (List.mem_append_left during) fun ⟨still, hidden⟩ => ⟨still, fun one among => ?_⟩
    exact (List.mem_append.mp among).elim (hidden one) (unseen one)

/-- The veil holds at every step of a list, unless the list enables updates itself. -/
theorem upkeep (first : Session) : ListUpkeep first.Veils where
  stroke stroke h := by
    obtain ⟨during, transcript, -, kept⟩ := stroke.noted
    exact h.onward during transcript fun disabled => .inr (kept disabled)
  begins command h := h
  enables h := h.onward [.updates .enabled] rfl fun _ => .inl (List.mem_singleton_self _)
  covers h := h.onward [.updates .covered] rfl fun _ => .inr ⟨rfl, List.forall_mem_singleton.mpr id⟩
  uncovers {session between} h chain h' := by
    -- What is given back after the screen-update script is the permission from before it.
    obtain ⟨during, before, seen | ⟨disabled, -⟩⟩ := h
    · have whole : ScriptChain session (between.uncover session.updatesEnabled) :=
        (session.cover_chain.trans chain).trans (between.uncover_chain _)
      obtain ⟨more, transcript, -⟩ := whole.notes
      exact ⟨more ++ during, by rw [transcript, before, List.append_assoc], .inl (List.mem_append_right more seen)⟩
    · exact h'.onward [.updates (.restored _)] rfl fun _ => .inr ⟨disabled, List.forall_mem_singleton.mpr id⟩

end Session.Veils

/-- The card has been prepared, and then a snapshot of it was published as the prepare script left it. -/
def Session.Arrives (session : Session) (location : Location) (card : OpenCard) (now : Session) : Prop :=
  ∃ prepared redirected shown,
    (Script.runCardScript .prepare (session.arrived location card)).Leads (.done prepared (.ok redirected)) ∧
    (session.arrived location card).ShowsNothing prepared ∧ prepared.card = some shown ∧
    .published (shown.snapshot (prepared.frames.generation + 1)) :: .updates .shown :: prepared.transcript
      <:+ now.transcript

namespace Script

/-- While the prepare script runs, and until it has ended and its failure has been reported, nothing is shown. -/
theorem runCardScript_prepare_sat (session : Session) (location : Location) (card : OpenCard) :
    (runCardScript .prepare (session.arrived location card)).Sat (session.arrived location card).ShowsNothing
      fun prepared _ => (session.arrived location card).ShowsNothing prepared := by
  let arrived := session.arrived location card
  have veiled : arrived.Veils arrived := ⟨[], rfl, .inr ⟨rfl, nofun⟩⟩
  unfold runCardScript
  rw [get_bind]
  cases arrived.card.bind (·.script? .prepare) with
  | none => exact veiled.showsNothing
  | some commands =>
    have ran := (Session.Veils.upkeep arrived).runList_keeps (maxScriptDepth + 1) commands arrived
    refine sat_attempt_bind_of (ran.mono (fun _ along => (along.2 veiled).showsNothing) fun _ _ => id) ?_
    intro later result along
    obtain ⟨during, transcript, shown⟩ := (along.2 veiled).showsNothing
    cases result with
    | ok flow => cases flow <;> exact ⟨during, transcript, shown⟩
    | error error =>
      refine ⟨.updates .failed :: .recorded (.scriptFailed _ error) :: during, congrArg (_ :: _ :: ·) transcript, ?_⟩
      refine shown.imp (fun seen => ?_) fun unseen => ?_
      · exact List.mem_cons_of_mem _ (List.mem_cons_of_mem _ seen)
      · exact List.forall_mem_cons.mpr ⟨id, List.forall_mem_cons.mpr ⟨id, unseen⟩⟩

/-- Wherever an arrival stands, the prepare script is running or waits, and nothing has been shown, or it has ended
and the card has been shown. -/
theorem arriveAt_shows (location : Location) (card : OpenCard) (session : Session) :
    (arriveAt location card session).Sat
      (fun now => (session.arrived location card).ShowsNothing now ∨ session.Arrives location card now)
      fun now _ => session.Arrives location card now := by
  let prepare := runCardScript .prepare (session.arrived location card)
  have prepares : prepare.Sat (session.arrived location card).ShowsNothing fun prepared result =>
      (session.arrived location card).ShowsNothing prepared ∧ prepare.Leads (.done prepared result) ∧
        ScriptChain (session.arrived location card) prepared ∧ ∃ redirected, result = .ok redirected := by
    have runs := runCardScript_runs .prepare
    have does := (runs.script (session.arrived location card)).and (runs.unfailing _)
    refine (((runCardScript_prepare_sat session location card).and (Progress.sat_leads prepare)).and does).mono
      (fun _ all => all.1.1) fun _ _ all => ?_
    exact ⟨all.1.1, all.1.2, all.2.1, all.2.2⟩
  unfold arriveAt
  rw [Script.record, modify_bind, modify_bind]
  refine sat_bind_of (prepares.mono (fun _ => .inl) fun _ _ => id) ?_ ?_
  · rintro prepared redirected ⟨unseen, leads, chain, -⟩
    obtain ⟨shown, isOpen⟩ := Option.isSome_iff_exists.mp chain.continues.card_isSome
    rw [modify_bind]
    -- What was held for the display is handed over after the snapshot, so that comes first.
    let revealed := prepared.changeUpdates .shown
    have first : revealed.showCard.transcript
        = .published (shown.snapshot (prepared.frames.generation + 1)) :: .updates .shown :: prepared.transcript := by
      have isOpen : revealed.card = some shown := isOpen
      rw [Session.showCard, isOpen]
      rfl
    have here : revealed.showCard.transcript <:+ revealed.publish.transcript :=
      revealed.showCard.flushHeld_chain.notes.suffix
    rw [first] at here
    cases redirected with
    | some target => exact ⟨prepared, _, shown, leads, unseen, isOpen, here⟩
    | none =>
      refine ((runCardScript_runs .start).script revealed.publish).mono (fun now chain => .inr ?_) fun now _ chain => ?_
      · exact ⟨prepared, _, shown, leads, unseen, isOpen, here.trans chain.notes.suffix⟩
      · exact ⟨prepared, _, shown, leads, unseen, isOpen, here.trans chain.notes.suffix⟩
  · rintro prepared error ⟨-, -, -, _, never⟩
    cases never

end Script

/-- In every run, from the opening of a card to the end of its prepare script, nothing is handed to the display
before a script enables updates. And whatever the session, wherever an arrival stands: the prepare script has not
ended, and unless a script has enabled updates since the card was opened, nothing has been handed to the display;
or the prepare script has ended, and then a snapshot of the card as it was left was published. Once the arrival is
over, it is the latter. -/
theorem Reachable.prepare_off_screen {progress : Progress (Except ScriptError Unit)} (reachable : Reachable progress) :
    (∀ later happening earlier, progress.session.transcript = later ++ happening :: earlier →
      happening.ForDisplay → Happening.offScreen earlier = false) ∧
    ∀ (session : Session) (location : Location) (card : OpenCard),
      (∀ now, (Script.arriveAt location card session).Leads now →
        (session.arrived location card).ShowsNothing now.session ∨ session.Arrives location card now.session) ∧
      ∀ later result, (Script.arriveAt location card session).Leads (.done later result) →
        session.Arrives location card later := by
  refine ⟨fun later happening earlier split shown => ?_, fun session location card => ⟨fun now leads => ?_, ?_⟩⟩
  · have hidden := reachable.hides.hidden
    rw [split] at hidden
    exact hidden.at shown
  · have arrives := Script.arriveAt_shows location card session
    exact ((arrives.imp fun _ _ => .inr).leads leads).now
  · exact fun later result leads => (Script.arriveAt_shows location card session).of_leads_done leads

/-- A prepare script asks for a transition, leaves a bracket open, sets a cursor and brings the screen up to date.
What is handed over first is a snapshot with the cursor, when the script has ended. -/
theorem Reachable.prepare_off_screen_start : ∃ session : Session, Reachable (.done session (.ok ())) ∧
    ∃ later frame earlier, session.transcript = later ++ .published frame :: .updates .shown :: earlier ∧
      frame.visual.cursor = some 3000 ∧
      (Happening.framesAfter earlier).generation = 0 ∧ Happening.awaiting earlier = [] ∧
      Happening.offScreen earlier = true ∧ Happening.offScreen (.updates .shown :: earlier) = false := by
  let prepare : Handler := ⟨6, [.op 18 [1], .op 20 [], .op 13 [3000], .op 19 []]⟩
  let hidden (earlier : List Happening) : Bool :=
    (Happening.framesAfter earlier).generation == 0
      && ((Happening.awaiting earlier).isEmpty && Happening.offScreen earlier)
  let last (transcript : List Happening) : Bool :=
    (Happening.published? transcript).any fun shown => shown.1.visual.cursor == some 3000
      && (Happening.changed? shown.2).any fun change => change.1 == .shown && hidden change.2
  have ran : ((Session.beginning "a" [(1, { scripts := [prepare] })]).after?
      [.message (.goto ⟨"a", 1⟩ none)]).any (fun session => session.transcript.tails.any last) = true := by
    decide +kernel
  obtain ⟨session, reachable, here⟩ := Session.exists_after "a" _ ran
  obtain ⟨tail, suffix, found⟩ := List.any_eq_true.mp here
  obtain ⟨later, split⟩ := (List.mem_tails _ _).mp suffix
  obtain ⟨⟨frame, before⟩, published, found⟩ := (Option.any_eq_true ..).mp found
  obtain ⟨cursor, found⟩ := Bool.and_eq_true_iff.mp found
  obtain ⟨⟨change, earlier⟩, changed, found⟩ := (Option.any_eq_true ..).mp found
  simp only [hidden, Bool.and_eq_true, beq_iff_eq, List.isEmpty_iff] at found
  obtain ⟨rfl, frames, awaiting, off⟩ := found
  obtain rfl : before = .updates .shown :: earlier := Happening.eq_of_changed? changed
  rw [Happening.eq_of_published? published] at split
  have ended := (Reachable.prepare_off_screen reachable).1 later _ _ split.symm trivial
  exact ⟨session, reachable, later, frame, earlier, split.symm, beq_iff_eq.mp cursor, frames, awaiting, off, ended⟩

/-- A prepare script disables updates and enables them, and then sets a cursor. The card is shown without the
cursor, and the prepare script has not ended. -/
theorem Reachable.prepare_on_screen : ∃ session : Session, Reachable (.done session (.ok ())) ∧
    session.card.bind (·.visual.cursor) = some 3000 ∧
    ∃ later frame earlier, session.transcript = later ++ .published frame :: earlier ∧
      frame.visual.cursor = none ∧ Happening.preparing earlier = true := by
  let prepare : Handler := ⟨6, [.op 20 [], .op 21 [], .op 13 [3000]]⟩
  let early (transcript : List Happening) : Bool :=
    (Happening.published? transcript).any fun shown =>
      shown.1.visual.cursor == none && Happening.preparing shown.2
  let seen (session : Session) : Bool :=
    session.card.bind (·.visual.cursor) == some 3000 && session.transcript.tails.any early
  have ran : ((Session.beginning "a" [(1, { scripts := [prepare] })]).after?
      [.message (.goto ⟨"a", 1⟩ none)]).any seen = true := by decide +kernel
  obtain ⟨session, reachable, here⟩ := Session.exists_after "a" _ ran
  obtain ⟨cursor, here⟩ := Bool.and_eq_true_iff.mp here
  obtain ⟨tail, suffix, found⟩ := List.any_eq_true.mp here
  obtain ⟨later, split⟩ := (List.mem_tails _ _).mp suffix
  obtain ⟨⟨frame, earlier⟩, published, found⟩ := (Option.any_eq_true ..).mp found
  obtain ⟨bare, preparing⟩ := Bool.and_eq_true_iff.mp found
  rw [Happening.eq_of_published? published] at split
  exact ⟨session, reachable, beq_iff_eq.mp cursor, later, frame, earlier, split.symm, beq_iff_eq.mp bare, preparing⟩

end Diorama
