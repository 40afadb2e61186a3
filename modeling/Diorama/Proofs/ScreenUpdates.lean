import Diorama.Proofs.Events

/-!
# What the display is shown, and when

A script that wants to change several things at once disables updates and enables them again when it has
finished. The display must not see anything of what lies between.

What was given to the display, and when it was allowed, is all in the transcript, so the law is a law of
transcripts: `Happening.permitted`, `Happening.framesAfter` and `Happening.awaiting` read off it whether
updates are enabled, what is on display, and what waits for the display. That they read off what the
session holds is part of the invariant `Session.Screened`. The other part, `Happening.Lawful`, says of
every happening that what went before it allows it.

* Whatever is handed to the display is handed over while updates are enabled.
* Once updates are disabled nothing changes for the display, whatever runs, until a script enables them, a
  script fails, or the card is closed (`Happening.Lawful.bracket`).

There is one exception. A prepare script runs before its card has been shown at all, and the card is shown
when it has ended: disabling updates in a prepare script does not put that off
(`Reachable.screen_updates_prepare`).
-/

namespace Diorama

namespace Happening

/-! ## Reading a transcript -/

/-- Whether updates are enabled after what has happened. -/
def permitted : List Happening → Bool
  | [] => true
  | .updates change :: _ => change.enables
  | _ :: earlier => permitted earlier

/-- The latest snapshot, and how many have been numbered, after what has happened. -/
def framesAfter : List Happening → FrameSource
  | [] => {}
  | .published frame :: _ => { latest := some frame, generation := frame.generation }
  | _ :: earlier => framesAfter earlier

/-- The requests that wait for the display after what has happened, the oldest first. -/
def awaiting : List Happening → List RenderState
  | [] => []
  | .requested state :: earlier => awaiting earlier ++ [state]
  | .drained :: _ => []
  | _ :: earlier => awaiting earlier

/-- It is handed to the display. -/
def ForDisplay : Happening → Prop
  | .published _ | .requested _ => True
  | _ => False

/-- What went before allows it: things are handed to the display with permission, and a card is opened or
first shown only while no card has been shown. -/
def Grounded (earlier : List Happening) : Happening → Prop
  | .published _ | .requested _ => permitted earlier = true
  | .updates .opened | .updates .shown => revealed earlier = false
  | _ => True

/-- Everything in a transcript is allowed by what went before. -/
def Lawful : List Happening → Prop
  | [] => True
  | happening :: earlier => happening.Grounded earlier ∧ Lawful earlier

/-- What was lawful to the end was so at any time before. -/
theorem Lawful.of_append {later earlier : List Happening} (h : Lawful (later ++ earlier)) :
    Lawful earlier := by
  induction later with
  | nil => exact h
  | cons _ _ ih => exact ih h.2

/-- Whatever reached the display, updates were enabled just before. -/
theorem Lawful.permitted_of_forDisplay {later earlier : List Happening} {happening : Happening}
    (h : Lawful (later ++ happening :: earlier)) (shown : happening.ForDisplay) :
    permitted earlier = true := by
  have grounded := h.of_append.1
  cases happening with
  | published frame => exact grounded
  | requested state => exact grounded
  | _ => exact shown.elim

end Happening

/-! ## Brackets -/

/-- What ends the time for which a script has disabled updates: a script enables them, or gives back the
permission that it found; a script fails; the card is closed. -/
def UpdatesChange.endsBracket : UpdatesChange → Bool
  | .enabled | .restored true | .failed | .closed => true
  | _ => false

namespace Happening

/-- How things are for the display while updates are disabled, against how they were. -/
structure Unchanged (earlier during now : List Happening) : Prop where
  disabled : permitted now = false
  frames : framesAfter now = framesAfter earlier
  requests : awaiting now = awaiting earlier ∨ .drained ∈ during ∧ awaiting now = []
  revealed : revealed earlier = true → revealed now = true

/-- Nothing changes for the display from the time when updates are disabled, but that it may take what
waits for it. -/
theorem Lawful.bracket {earlier during : List Happening}
    (lawful : Lawful (during ++ .updates .disabled :: earlier))
    (open_ : ∀ change, .updates change ∈ during → change.endsBracket = false)
    (unshown : revealed earlier = false → .updates .shown ∉ during) :
    Unchanged earlier during (during ++ .updates .disabled :: earlier) := by
  -- Over what has happened since. That updates are still disabled is what rules out a hand-over.
  induction during with
  | nil => exact ⟨rfl, rfl, .inl rfl, id⟩
  | cons happening during ih =>
    obtain ⟨disabled, frames, requests, shown⟩ := ih lawful.2
      (fun change among => open_ change (List.mem_cons_of_mem _ among))
      (fun unseen among => unshown unseen (List.mem_cons_of_mem _ among))
    have requests : awaiting (during ++ .updates .disabled :: earlier) = awaiting earlier
        ∨ .drained ∈ happening :: during ∧ awaiting (during ++ .updates .disabled :: earlier) = [] :=
      requests.imp_right (.imp_left (List.mem_cons_of_mem _))
    have grounded := lawful.1
    have ends (change : UpdatesChange) (same : happening = .updates change) : change.endsBracket = false :=
      open_ change (same ▸ List.mem_cons_self)
    cases happening with
    | published frame => exact absurd (disabled.symm.trans grounded) Bool.false_ne_true
    | requested state => exact absurd (disabled.symm.trans grounded) Bool.false_ne_true
    | drained => exact ⟨disabled, frames, .inr ⟨List.mem_cons_self, rfl⟩, shown⟩
    | updates change =>
      cases change with
      | disabled => exact ⟨rfl, frames, requests, shown⟩
      | covered => exact ⟨rfl, frames, requests, shown⟩
      | restored before =>
        cases before with
        | false => exact ⟨rfl, frames, requests, shown⟩
        | true => cases ends _ rfl
      | opened =>
        refine ⟨rfl, frames, requests, fun seen => ?_⟩
        exact absurd (grounded.symm.trans (shown seen)) Bool.false_ne_true
      | shown =>
        cases before : Happening.revealed earlier with
        | false => exact absurd List.mem_cons_self (unshown before)
        | true => exact absurd (grounded.symm.trans (shown before)) Bool.false_ne_true
      | enabled => cases ends _ rfl
      | failed => cases ends _ rfl
      | closed => cases ends _ rfl
    | _ => exact ⟨disabled, frames, requests, shown⟩

/-- The happening number `place` of a transcript is that a script disabled updates, and nothing since has
ended that. -/
def inBracket (transcript : List Happening) (place : Nat) : Bool :=
  (match transcript[place]? with
    | some (.updates .disabled) => true
    | _ => false)
  && (transcript.take place).all fun
    | .updates change => !change.endsBracket
    | _ => true

/-- A bracket is open since a place if updates were disabled there, and nothing has ended it since. -/
theorem eq_append_of_inBracket {transcript : List Happening} {place : Nat}
    (h : inBracket transcript place = true) :
    transcript = transcript.take place ++ .updates .disabled :: transcript.drop (place + 1) ∧
      ∀ change, .updates change ∈ transcript.take place → change.endsBracket = false := by
  obtain ⟨here, kept⟩ := Bool.and_eq_true_iff.mp h
  split at here
  next found =>
    obtain ⟨inside, same⟩ := List.getElem?_eq_some_iff.mp found
    refine ⟨?_, fun change among => ?_⟩
    · rw [← same, ← List.drop_eq_getElem_cons inside, List.take_append_drop]
    · have open_ : (!change.endsBracket) = true := List.all_eq_true.mp kept _ among
      rwa [Bool.not_eq_true'] at open_
  next => cases here

end Happening

/-! ## The invariant -/

/-- The transcript accounts for what the display has, and is lawful. -/
structure Session.Screened (session : Session) : Prop where
  permitted : Happening.permitted session.transcript = session.updatesEnabled
  frames : Happening.framesAfter session.transcript = session.frames
  awaiting : Happening.awaiting session.transcript = session.display
  revealed : Happening.revealed session.transcript = true → session.card.isSome = true
  lawful : Happening.Lawful session.transcript

namespace Session.Screened

variable {session : Session}

/-- The log is not the display. -/
theorem record (h : session.Screened) (notice : Notice) : (session.record notice).Screened :=
  ⟨h.permitted, h.frames, h.awaiting, h.revealed, trivial, h.lawful⟩

/-- A snapshot may be handed over while updates are enabled. -/
theorem showCard (h : session.Screened) (enabled : session.updatesEnabled = true) :
    session.showCard.Screened := by
  unfold Session.showCard
  split
  · exact h
  · exact ⟨h.permitted, rfl, h.awaiting, fun _ => rfl, h.permitted.trans enabled, h.lawful⟩

/-- A request may be handed over while updates are enabled, in the place in which it was held. -/
theorem hands (h : session.Screened) (enabled : session.updatesEnabled = true) (state : RenderState)
    (rest : List RenderState) : { session.request state with held := rest }.Screened :=
  ⟨h.permitted, h.frames, congrArg (· ++ [state]) h.awaiting, h.revealed,
    trivial, h.permitted.trans enabled, h.lawful⟩

/-- Media that are stopped are not shown. -/
theorem stops (h : session.Screened) (media : List MediaRef) :
    (session.onStage (media.foldl Stage.stopMedia)).Screened := by
  induction media generalizing session with
  | nil => exact h
  | cons head rest ih =>
    have stopped : (session.onStage (·.stopMedia head)).Screened :=
      ⟨h.permitted, h.frames, h.awaiting, h.revealed, trivial, h.lawful⟩
    exact ih stopped

/-- A card that is closed takes its bracket with it. -/
theorem closeCard (h : session.Screened) : session.closeCard.Screened := by
  unfold Session.closeCard
  split
  · exact h
  next card isOpen =>
    have stopped := h.stops (playing card)
    exact ⟨rfl, stopped.frames, stopped.awaiting, (nomatch ·), trivial, trivial, stopped.lawful⟩

/-- What others do shows nothing and enables nothing. -/
theorem suffer (h : session.Screened) (act : Outside) : (session.suffer act).Screened := by
  cases act with
  | drain => exact ⟨h.permitted, h.frames, rfl, h.revealed, trivial, h.lawful⟩
  | preload key => exact ⟨h.permitted, h.frames, h.awaiting, h.revealed, trivial, h.lawful⟩
  | _ => exact ⟨h.permitted, h.frames, h.awaiting, h.revealed, h.lawful⟩

end Session.Screened

/-- Scripts show things only while updates are enabled. -/
theorem ScriptAct.screened {session later : Session} (act : ScriptAct session later)
    (h : session.Screened) : later.Screened := by
  have seen : Happening.revealed later.transcript = true → later.card.isSome = true := by
    intro seen
    rw [act.revealed] at seen
    exact act.continues.card_isSome.trans (h.revealed seen)
  cases act with
  | suffered act => exact h.suffer act
  | recorded notice ofScript => exact h.record notice
  | started media blocking => exact ⟨h.permitted, h.frames, h.awaiting, seen, trivial, h.lawful⟩
  | stopped media => exact ⟨h.permitted, h.frames, h.awaiting, seen, trivial, h.lawful⟩
  | awaits code => exact ⟨h.permitted, h.frames, h.awaiting, seen, trivial, h.lawful⟩
  | unblocks code outcome => exact ⟨h.permitted, h.frames, h.awaiting, seen, trivial, h.lawful⟩
  | holds state => exact ⟨h.permitted, h.frames, h.awaiting, seen, trivial, h.lawful⟩
  | schedules cue => exact ⟨h.permitted, h.frames, h.awaiting, seen, trivial, h.lawful⟩
  | shows enabled => exact h.showCard enabled
  | hands first enabled => exact h.hands enabled _ _
  | changesUpdates change ofScript =>
    refine ⟨rfl, h.frames, h.awaiting, seen, ?_, h.lawful⟩
    cases change with
    | opened => exact ofScript.elim
    | shown => exact ofScript.elim
    | _ => trivial
  | fails label error => exact ⟨rfl, h.frames, h.awaiting, seen, trivial, trivial, h.lawful⟩
  | _ => exact ⟨h.permitted, h.frames, h.awaiting, seen, h.lawful⟩

/-- The engine shows a card only after it has enabled updates for it. -/
theorem EngineAct.screened {session later : Session} (act : EngineAct session later)
    (h : session.Screened) : later.Screened := by
  cases act with
  | script act => exact act.screened h
  | closes => exact h.closeCard
  | opens location closed key loaded =>
    -- A card is opened only when none is open, and what has been shown is open.
    have unseen : Happening.revealed session.transcript = false := by
      rw [Bool.eq_false_iff]
      intro seen
      have isOpen := h.revealed seen
      rw [closed] at isOpen
      cases isOpen
    exact ⟨rfl, h.frames, h.awaiting, (nomatch ·), unseen, trivial, h.lawful⟩
  | reveals isOpen unseen =>
    exact ⟨rfl, h.frames, h.awaiting, fun _ => isOpen, unseen, h.lawful⟩
  | recorded notice ofEngine => exact h.record notice
  | resizes viewport =>
    refine ⟨h.permitted, h.frames, h.awaiting, fun seen => ?_, h.lawful⟩
    exact (Option.isSome_map ..).trans (h.revealed seen)
  | takesCues => exact ⟨h.permitted, h.frames, h.awaiting, h.revealed, trivial, h.lawful⟩
  | firesCue cue => exact ⟨h.permitted, h.frames, h.awaiting, h.revealed, trivial, h.lawful⟩
  | refuses location => exact ⟨h.permitted, h.frames, h.awaiting, h.revealed, trivial, h.lawful⟩
  | cutsOff => exact ⟨h.permitted, h.frames, h.awaiting, h.revealed, trivial, h.lawful⟩
  | _ => exact ⟨h.permitted, h.frames, h.awaiting, h.revealed, h.lawful⟩

/-! ## Every run -/

/-- In the beginning nothing has been shown. -/
theorem Session.screened_ofStage (config : EngineConfig) (provider : Provider) (player : MediaPlayer) :
    (Session.ofStage (.ofConfig config provider player)).Screened :=
  ⟨rfl, rfl, rfl, (nomatch ·), trivial⟩

/-- So in every run all that was shown was shown while updates were enabled. -/
theorem Reachable.screened {progress : Progress (Except ScriptError Unit)} (reachable : Reachable progress) :
    progress.session.Screened :=
  reachable.invariant Session.screened_ofStage EngineAct.screened

/-- The transcript tells what the display has; everything is handed to the display while updates are
enabled; and from the time when updates are disabled until something ends that, nothing changes for the
display but that it takes what waits for it. In a prepare script the showing of the card ends it too. -/
theorem Reachable.screen_updates {progress : Progress (Except ScriptError Unit)}
    (reachable : Reachable progress) :
    (Happening.permitted progress.session.transcript = progress.session.updatesEnabled
      ∧ Happening.framesAfter progress.session.transcript = progress.session.frames
      ∧ Happening.awaiting progress.session.transcript = progress.session.display) ∧
    (∀ later happening earlier, progress.session.transcript = later ++ happening :: earlier →
      happening.ForDisplay → Happening.permitted earlier = true) ∧
    ∀ later during earlier,
      progress.session.transcript = later ++ (during ++ .updates .disabled :: earlier) →
      (∀ change, .updates change ∈ during → change.endsBracket = false) →
      (Happening.revealed earlier = false → .updates .shown ∉ during) →
      Happening.framesAfter (during ++ .updates .disabled :: earlier) = Happening.framesAfter earlier ∧
        (Happening.awaiting (during ++ .updates .disabled :: earlier) = Happening.awaiting earlier ∨
          .drained ∈ during ∧ Happening.awaiting (during ++ .updates .disabled :: earlier) = []) := by
  have screened := reachable.screened
  refine ⟨⟨screened.permitted, screened.frames, screened.awaiting⟩, ?_, ?_⟩
  · intro later happening earlier split forDisplay
    have lawful := screened.lawful
    rw [split] at lawful
    exact lawful.permitted_of_forDisplay forDisplay
  · intro later during earlier split inside unshown
    have lawful := screened.lawful
    rw [split] at lawful
    have unchanged := lawful.of_append.bracket inside unshown
    exact ⟨unchanged.frames, unchanged.requests⟩

/-- A start script disables updates, sets a cursor and plays a sound. The card now shows something that the
display has not been shown. -/
theorem Reachable.screen_updates_start : ∃ session : Session, Reachable (.done session (.ok ())) ∧
    session.updatesEnabled = false ∧ session.card.any (·.needsPublish) = true ∧
      ∃ during earlier, session.transcript = during ++ .updates .disabled :: earlier ∧
        session.frames = Happening.framesAfter earlier := by
  let start : Handler := ⟨9, [.op 20 [], .op 13 [3000], .op 4 [9]]⟩
  let inside (session : Session) : Bool :=
    Happening.inBracket session.transcript 2 && Happening.revealed (session.transcript.drop 3)
      && !session.updatesEnabled && session.card.any (·.needsPublish)
  have ran : ((Session.beginning "a" [(1, { scripts := [start] })]).after?
      [.message (.goto ⟨"a", 1⟩ none)]).any inside = true := by decide +kernel
  obtain ⟨session, reachable, here⟩ := Session.exists_after "a" _ ran
  simp only [inside, Bool.and_eq_true, Bool.not_eq_true'] at here
  obtain ⟨⟨⟨bracket, revealed⟩, disabled⟩, changed⟩ := here
  obtain ⟨split, kept⟩ := Happening.eq_append_of_inBracket bracket
  obtain ⟨⟨_, frames, _⟩, _, unchanged⟩ := Reachable.screen_updates reachable
  have seen : Happening.revealed (session.transcript.drop 3) = false →
      .updates .shown ∉ session.transcript.take 2 := by
    intro unseen
    rw [revealed] at unseen
    cases unseen
  have same := (unchanged [] _ _ split kept seen).1
  rw [← split] at same
  exact ⟨session, reachable, disabled, changed, _, _, split, frames.symm.trans same⟩

/-- A prepare script disables updates, and nothing ends that; but the card is shown. -/
theorem Reachable.screen_updates_prepare : ∃ session : Session, Reachable (.done session (.ok ())) ∧
    ∃ during earlier, session.transcript = during ++ .updates .disabled :: earlier ∧
      (∀ change, .updates change ∈ during → change.endsBracket = false) ∧
      session.updatesEnabled = true ∧ session.frames ≠ Happening.framesAfter earlier := by
  let prepare : Handler := ⟨6, [.op 20 []]⟩
  let shown (session : Session) : Bool :=
    Happening.inBracket session.transcript 2 && session.updatesEnabled
      && session.frames.generation != (Happening.framesAfter (session.transcript.drop 3)).generation
  have ran : ((Session.beginning "a" [(1, { scripts := [prepare] })]).after?
      [.message (.goto ⟨"a", 1⟩ none)]).any shown = true := by decide +kernel
  obtain ⟨session, reachable, here⟩ := Session.exists_after "a" _ ran
  simp only [shown, Bool.and_eq_true, bne_iff_ne] at here
  obtain ⟨⟨bracket, enabled⟩, different⟩ := here
  obtain ⟨split, kept⟩ := Happening.eq_append_of_inBracket bracket
  exact ⟨session, reachable, _, _, split, kept, enabled, fun same => different (congrArg _ same)⟩

end Diorama
