import Diorama.Proofs.Display
import Diorama.Proofs.Finishing
import Diorama.Proofs.Pairing

/-!
# Chains of card changes

Cards may send each other around: their prepare and start scripts ask for the next card, and so do cues, the scripts
of hotspots and changes that fail. All of it comes back to settling, which goes on in turns. A turn makes one card
change at most and tests the pointer once at most (`Script.SettleTurn`), so it opens one card at most; and settling
takes thirty-two turns at most (`Script.settle_runs`). So no stack, however its cards send each other around, keeps
an event from ending; and wherever the chain is cut, the session is one like any other: the card that was opened last
is open, and what the session holds of it belongs to it (`Reachable.chains_bounded`).

How many cards a program opens adds up along it (`Script.Opening`). That it is the last of them which is open is not
counted: in every run openings and closings alternate (`Session.Orderly.last_opened`).
-/

namespace Diorama

/-! ## Cards opened -/

namespace Session

/-- No card is opened or closed. -/
def Stays (session later : Session) : Prop :=
  later.opened = session.opened ∧ later.card.isSome = session.card.isSome

/-- So many cards are opened at most, and afterwards one is open, unless there was none and none was opened. -/
def Opens (bound : Nat) (session later : Session) : Prop :=
  ∃ cards, later.opened = session.opened ++ cards ∧ cards.length ≤ bound ∧
    later.card.isSome = (session.card.isSome || !cards.isEmpty)

variable {session between later : Session} {bound more : Nat}

/-- Scripts open no card and close none. -/
theorem Continues.stays (h : session.Continues later) : session.Stays later :=
  ⟨h.opened, h.card_isSome⟩

/-- Where no card is opened the bound is zero. -/
theorem Stays.opens (h : session.Stays later) : session.Opens 0 later :=
  ⟨[], by rw [h.1, List.append_nil], Nat.le_refl 0, by rw [h.2, List.isEmpty_nil, Bool.not_true, Bool.or_false]⟩

/-- The bound may be larger. -/
theorem Opens.mono (h : session.Opens bound later) (le : bound ≤ more) : session.Opens more later := by
  obtain ⟨cards, opened, length, isOpen⟩ := h
  exact ⟨cards, opened, Nat.le_trans length le, isOpen⟩

/-- Bounds add up, and a card is open afterwards if one was opened on the way. -/
theorem Opens.trans (h : session.Opens bound between) (h' : between.Opens more later) :
    session.Opens (bound + more) later := by
  obtain ⟨cards, opened, length, isOpen⟩ := h
  obtain ⟨others, opened', length', isOpen'⟩ := h'
  refine ⟨cards ++ others, by rw [opened', opened, List.append_assoc], ?_, ?_⟩
  · rw [List.length_append]
    exact Nat.add_le_add length length'
  · rw [isOpen', isOpen, Bool.or_assoc]
    cases cards <;> rfl

/-- Those who act while a program waits open no card and close none. -/
theorem Stays.lasting : Script.Lasting Stays where
  refl _ := ⟨rfl, rfl⟩
  trans h h' := ⟨h'.1.trans h.1, h'.2.trans h.2⟩
  suffer _ act := (ScriptAct.suffered act).continues.stays
  answered answered := (ScriptAct.answered answered).continues.stays

/-- The card that is open is the one that was opened last. -/
theorem Orderly.last_opened {card : OpenCard} (h : session.Orderly) (isOpen : session.card = some card) :
    session.opened.getLast? = some card.location := by
  have standing := h.standing
  rw [isOpen, Option.map_some, Visit.standing] at standing
  split at standing
  next location last =>
    obtain rfl := Option.some.inj standing
    obtain ⟨before, visits⟩ := List.getLast?_eq_some_iff.mp last
    rw [opened, visits, List.filterMap_append]
    exact List.getLast?_concat
  next => cases standing

/-- As long as no card is opened or closed, the one that is open is the same. -/
theorem Stays.location (stays : session.Stays later) (before : session.Orderly) (after : later.Orderly) :
    later.card.map (·.location) = session.card.map (·.location) := by
  have same := stays.2
  cases isOpen : session.card with
  | none =>
    rw [isOpen] at same
    rw [Option.not_isSome_iff_eq_none.mp (Bool.eq_false_iff.mp same)]
  | some card =>
    rw [isOpen] at same
    obtain ⟨next, there⟩ := Option.isSome_iff_exists.mp same
    have last := after.last_opened there
    rw [stays.1, before.last_opened isOpen] at last
    rw [there]
    exact last.symm

end Session

namespace Script

variable {α β : Type} {session : Session}

private abbrev staying : Lasting Session.Stays := Session.Stays.lasting

/-- However the program ends, it has opened so many cards at most. -/
def Opening (bound : Nat) (script : Script α) : Prop :=
  ∀ session, (script session).Sat (fun _ => True) fun later _ => session.Opens bound later

namespace Opening

variable {bound more : Nat} {script : Script α} {next : α → Script β}

/-- A program that opens no card. -/
theorem of_stays (h : Does Session.Stays script) : Opening 0 script :=
  fun session => (h session).mono (fun _ _ => trivial) fun _ _ => Session.Stays.opens

/-- The bound may be larger. -/
theorem mono (h : Opening bound script) (le : bound ≤ more) : Opening more script :=
  fun session => (h session).imp fun _ _ opens => opens.mono le

/-- The bounds of two programs add up; the second one may not come to run. -/
theorem bind (h : Opening bound script) (h' : ∀ value, Opening more (next value)) :
    Opening (bound + more) (script >>= next) := by
  intro session
  refine sat_bind_of (h session) (fun later value opens => ?_) fun later error opens => ?_
  · exact (h' value later).imp fun _ _ => opens.trans
  · exact opens.mono (Nat.le_add_right bound more)

/-- What comes first opens no card. -/
theorem after (h : Does Session.Stays script) (h' : ∀ value, Opening more (next value)) :
    Opening more (script >>= next) :=
  (bind (.of_stays h) h').mono (Nat.le_of_eq (Nat.zero_add more))

/-- What comes last opens no card. -/
theorem before (h : Opening bound script) (h' : ∀ value, Does Session.Stays (next value)) :
    Opening bound (script >>= next) :=
  h.bind fun value => .of_stays (h' value)

/-- An error that is caught makes no difference to the cards opened before it. -/
theorem attempt (h : Opening bound script) : Opening bound (Script.attempt script) :=
  fun session => sat_attempt.mpr (h session)

end Opening

/-! ## What opens no card -/

/-- Scripts only ask for cards. -/
theorem RunsScripts.stays {script : Script α} (runs : RunsScripts script) : Does Session.Stays script :=
  runs.script.mono fun chain => chain.continues.stays

theorem get_stays : Does Session.Stays get :=
  .get staying

/-- The scripts of hotspots may ask for a card, but it is not opened by testing the pointer. -/
theorem refreshHover_stays : Does Session.Stays refreshHover := by
  refine .bind staying get_stays fun session => .bind staying ?_ fun _ => ?_
  · exact .modify fun _ => ⟨rfl, rfl⟩
  · exact (makeMoves_hovers _).mono fun hovers => hovers.2.stays

/-- A refusal is noted, and what is open stays open. -/
theorem refuse_stays (location : Location) (error : ScriptError) :
    Does Session.Stays (modify (·.refuse location error)) := by
  refine .modify fun session => ?_
  have noted : session.Stays (session.onStage (·.note (.refused location))) := ⟨rfl, rfl⟩
  exact staying.trans noted (ScriptAct.fails "goto" error).continues.stays

/-- Cues are scripts. -/
theorem runCues_stays (cues : List Cue) : Does Session.Stays (runCues cues) := by
  induction cues with
  | nil => exact .pure staying none
  | cons cue rest ih =>
    refine .bind staying (.modify fun _ => ⟨rfl, rfl⟩) fun _ => ?_
    refine .bind staying (runScript_runs _ _).stays fun target => ?_
    cases target with
    | none => exact ih
    | some target => exact .pure staying _

/-- What is due is taken off the schedule, and run as scripts. -/
theorem fireCues_stays : Does Session.Stays fireCues := by
  refine .bind staying get_stays fun session => ?_
  exact .bind staying (.modify fun _ => ⟨rfl, rfl⟩) fun _ => runCues_stays _

/-- The end of a movie runs no script at all. -/
theorem movieFinished_stays (code : UInt16) : Does Session.Stays (movieFinished code) := by
  refine .bind staying get_stays fun session => .ite ?_ (.pure staying ())
  refine .bind staying (.modify fun _ => (ScriptAct.setVisual _).continues.stays) fun _ => ?_
  refine .bind staying (.modify fun _ => ⟨rfl, rfl⟩) fun _ => ?_
  exact .modify fun session => session.publishIfNeeded_chain.continues.stays

/-! ## Card changes -/

/-- One arrives at one card. What its scripts ask for is left to whoever changes cards. -/
theorem arriveAt_opening (location : Location) (card : OpenCard) (session : Session) :
    (arriveAt location card session).Sat (fun _ => True) fun later _ =>
      later.opened = session.opened ++ [location] ∧ later.card.isSome = true := by
  have onward {script : Script (Option Location)} (stays : Does Session.Stays script) :
      (script (session.arrived location card)).Sat (fun _ => True) fun later _ =>
        later.opened = session.opened ++ [location] ∧ later.card.isSome = true :=
    (stays _).mono (fun _ _ => trivial) fun _ _ stays =>
      ⟨stays.1.trans (session.opened_arrival card location), stays.2⟩
  unfold arriveAt
  rw [Script.record, modify_bind, modify_bind]
  refine onward (.bind staying (runCardScript_runs .prepare).stays fun redirected => ?_)
  refine .bind staying (.modify fun session => ?_) fun _ => ?_
  · have shown : session.Stays (session.changeUpdates .shown) := ⟨rfl, rfl⟩
    exact staying.trans shown (Session.publish_chain rfl).continues.stays
  · cases redirected with
    | some target => exact .pure staying _
    | none => exact (runCardScript_runs .start).stays

/-- A card change that succeeds opens one card, however the scripts of the two cards end. -/
theorem changeCard_opening (location : Location) : Opening 1 (changeCard location) := by
  refine .after (fun session => ?_) fun card session => ?_
  · rw [loadCard_eq]
    exact ⟨rfl, rfl⟩
  · have left : (leaveCard session).Sat (fun _ => True) fun later result =>
        result = .ok () ∧ later.opened = session.opened :=
      (leaveCard_sat .refl).mono (fun _ _ => trivial) fun _ _ ends => ⟨ends.1, ends.2.2.2.2⟩
    refine sat_bind_of left ?_ fun _ _ ends => nomatch ends.1
    rintro between _ ⟨-, opened⟩
    refine (arriveAt_opening location card between).imp fun later _ arrived => ?_
    exact ⟨[location], by rw [arrived.1, opened], Nat.le_refl 1, by rw [arrived.2]; exact (Bool.or_true _).symm⟩

/-- A card change that was asked for opens one card, and none if it is refused. -/
theorem followTo_opening (pending : Option Location) : Opening 1 (followTo pending) := by
  cases pending with
  | none => exact .mono (.of_stays (.pure staying none)) (Nat.zero_le 1)
  | some location =>
    refine .before (.attempt (changeCard_opening location)) fun result => ?_
    cases result with
    | ok next => exact .pure staying next
    | error error =>
      exact .bind staying (refuse_stays location error) fun _ => .pure staying none

/-! ## Settling -/

/-- A card change that fails is refused, and that is the end of it. -/
theorem followTo_unfailing (pending : Option Location) : Unfailing (followTo pending) := by
  cases pending with
  | none => exact .pure none
  | some location =>
    refine .bind (.attempt _) fun result => ?_
    cases result with
    | ok next => exact .pure next
    | error error => exact .bind (.modify _) fun _ => .pure none

/-- Tests of the pointer never fail. -/
theorem refreshHover_unfailing : Unfailing refreshHover :=
  .bind .get fun _ => .bind (.modify _) fun _ => makeMoves_unfailing _

/-- What never fails gives a value, and that is one it leads to. -/
theorem Unfailing.leads {script : Script α} (h : Unfailing script) (session : Session) :
    (script session).Sat (fun _ => True) fun later result =>
      ∃ value, result = .ok value ∧ (script session).Leads (.done later (.ok value)) := by
  refine ((h session).and (Progress.sat_leads _)).mono (fun _ _ => trivial) ?_
  rintro later _ ⟨⟨value, rfl⟩, leads⟩
  exact ⟨value, rfl, leads⟩

/-- One turn of settling: the card change that was asked for, if one was; and a test of the pointer, unless the card
change has led to another one. -/
inductive SettleTurn (session : Session) (pending : Option Location) : Session → Option Location → Prop where
  | changes {later : Session} {next : Location}
      (followed : (followTo pending session).Leads (.done later (.ok (some next)))) :
      SettleTurn session pending later (some next)
  | tests {between later : Session} {next : Option Location}
      (followed : (followTo pending session).Leads (.done between (.ok none)))
      (tested : (refreshHover between).Leads (.done later (.ok next))) : SettleTurn session pending later next

/-- So many turns of settling, until nothing more is asked for or the chain is cut off. -/
inductive SettleRun : Nat → Session → Option Location → Session → Prop where
  | rests {session later : Session} {pending : Option Location} (turn : SettleTurn session pending later none) :
      SettleRun 1 session pending later
  | goesOn {turns : Nat} {session between later : Session} {pending : Option Location} {next : Location}
      (turn : SettleTurn session pending between (some next)) (rest : SettleRun turns between (some next) later) :
      SettleRun (turns + 1) session pending later
  | cutOff (session : Session) (pending : Option Location) :
      SettleRun 0 session pending (session.onStage (·.note .cutOff))

/-- A turn opens one card at most, that of the change which it makes. -/
theorem SettleTurn.opens {pending next : Option Location} {later : Session}
    (turn : SettleTurn session pending later next) : session.Opens 1 later := by
  cases turn with
  | changes followed => exact (followTo_opening pending session).of_leads_done followed
  | tests followed tested =>
    have changed := (followTo_opening pending session).of_leads_done followed
    exact changed.trans ((refreshHover_stays _).of_leads_done tested).opens

/-- So settling opens no more cards than it takes turns. -/
theorem SettleRun.opens {turns : Nat} {pending : Option Location} {later : Session}
    (run : SettleRun turns session pending later) : session.Opens turns later := by
  induction run with
  | rests turn => exact turn.opens
  | goesOn turn _ ih => exact (turn.opens.trans ih).mono (Nat.le_of_eq (Nat.add_comm ..))
  | cutOff session pending =>
    have noted : session.Stays (session.onStage (·.note .cutOff)) := ⟨rfl, rfl⟩
    exact noted.opens

/-- Settling goes on in turns, as many as it may take at most. -/
theorem settleWithin_runs (turns : Nat) (pending : Option Location) (session : Session) :
    (settleWithin turns pending session).Sat (fun _ => True) fun later _ =>
      ∃ taken ≤ turns, SettleRun taken session pending later := by
  induction turns generalizing session pending with
  | zero => exact ⟨0, Nat.le_refl 0, .cutOff session pending⟩
  | succ turns ih =>
    -- A card change that is asked for is left to the turns that remain.
    have again {between : Session} {next : Location} (turn : SettleTurn session pending between (some next)) :
        (settleWithin turns (some next) between).Sat (fun _ => True) fun later _ =>
          ∃ taken ≤ turns + 1, SettleRun taken session pending later := by
      refine (ih (some next) between).imp ?_
      rintro later _ ⟨taken, le, rest⟩
      exact ⟨taken + 1, Nat.add_le_add_right le 1, .goesOn turn rest⟩
    refine sat_bind_ok ((followTo_unfailing pending).leads session) fun between next followed => ?_
    cases next with
    | some target => exact again (.changes followed)
    | none =>
      refine sat_bind_ok (refreshHover_unfailing.leads between) fun later next tested => ?_
      cases next with
      | some target => exact again (.tests followed tested)
      | none => exact ⟨1, Nat.le_add_left 1 turns, .rests (.tests followed tested)⟩

/-- Settling opens at most as many cards as a chain may have. -/
theorem settle_opening (pending : Option Location) : Opening maxCardChain (settle pending) := by
  intro session
  refine (settleWithin_runs maxCardChain pending session).imp ?_
  rintro later _ ⟨taken, le, run⟩
  exact run.opens.mono le

/-! ## Events -/

/-- To go to a card opens that card and those of the chain that follows it. -/
theorem goto_opening (location : Location) : Opening (1 + maxCardChain) (goto location) := by
  refine .bind (.attempt (changeCard_opening location)) fun result => ?_
  cases result with
  | ok pending => exact settle_opening pending
  | error error =>
    refine .mono (.of_stays ?_) (Nat.zero_le maxCardChain)
    exact .bind staying (refuse_stays location error) fun _ => .fail staying error

/-- To restore a saved state opens no more than to go to its card. -/
theorem restore_opening (state : GameState) : Opening (1 + maxCardChain) (restore state) := by
  have put (game : GameVariables) : Does Session.Stays (modify fun session => { session with game }) :=
    .modify fun _ => ⟨rfl, rfl⟩
  have recorded : Does Session.Stays (record .stateRestored) := .modify fun _ => ⟨rfl, rfl⟩
  refine .after get_stays fun session => .after (put state.game) fun _ => ?_
  cases state.location with
  | none => exact .mono (.of_stays recorded) (Nat.zero_le _)
  | some location =>
    refine .before (.attempt (goto_opening location)) fun result => ?_
    cases result with
    | ok _ => exact recorded
    | error error =>
      refine .bind staying (put session.game) fun _ => ?_
      exact .bind staying (.fail staying error) fun _ => recorded

/-- A new viewport moves the hotspots, and the test of the pointer may ask for a card. -/
theorem viewportChanged_opening (viewport : Size Float32) : Opening maxCardChain (viewportChanged viewport) := by
  have resized (session : Session) : session.Stays
      { session with
        mapper := session.mapper.resize viewport
        card := session.card.map fun card =>
          { card with hotspots := card.hotspots.resize (session.mapper.resize viewport) } } :=
    ⟨rfl, Option.isSome_map⟩
  refine .after (.modify resized) fun _ => .after (.modify fun session => ?_) fun _ => settle_opening none
  exact session.publishIfNeeded_chain.continues.stays

/-- A tick settles once, whatever its cues and the script of the button ask for. -/
theorem animationTick_opening : Opening maxCardChain animationTick := by
  have onward (held : Option Location) :
      Opening maxCardChain (if held.isNone then fireCues >>= settle else pure held >>= settle : Script Unit) := by
    split
    · exact .after fireCues_stays settle_opening
    · exact settle_opening held
  refine .after get_stays fun session => ?_
  split
  · refine .after (runActiveHotspot_runs .mouseInside).stays fun inside => .after get_stays fun _ => ?_
    dsimp only
    split
    · exact .after (runActiveHotspot_runs .mouseStillDown).stays onward
    · exact onward inside
  · exact .mono (.of_stays (.pure staying ())) (Nat.zero_le _)

end Script

/-- How many cards an event may open: as many as settling has turns, and one more if it goes to a card. -/
def Event.mayOpen : Event → Nat
  | .message (.goto _ _) | .message (.restore _ _) => 1 + maxCardChain
  | .message (.movieFinished _) | .shutdown => 0
  | _ => maxCardChain

open Script in
/-- Of every event but the end of the world there is a bound. -/
theorem Event.opening {event : Event} (stays : event ≠ .shutdown) : Opening event.mayOpen event.script := by
  have clicked (down : Bool) (trigger : Trigger) : Opening maxCardChain (do
      modify fun session => { session with buttonDown := down }
      runActiveHotspot trigger >>= settle) :=
    .after (.modify fun _ => ⟨rfl, rfl⟩) fun _ => .after (runActiveHotspot_runs trigger).stays settle_opening
  cases event with
  | message sent =>
    cases sent with
    | goto location ticket => exact goto_opening location
    | restore state ticket => exact restore_opening state
    | pointerMoved point => exact .after (.modify fun _ => ⟨rfl, rfl⟩) fun _ => settle_opening none
    | pointerDown => exact clicked true .mouseDown
    | pointerUp => exact clicked false .mouseUp
    | viewport size => exact viewportChanged_opening size
    | movieFinished code => exact .of_stays (movieFinished_stays code)
    | tick => exact animationTick_opening
  | shutdown => exact absurd rfl stays

/-- An event that has ended has opened so many cards at most. One is open now if one was, or was opened; but shutting
down leaves none open. -/
theorem Event.opened_of_done {event : Event} {session later : Session} {outcome : Except ScriptError Unit}
    (ended : event.script session = .done later outcome) :
    ∃ cards, later.opened = session.opened ++ cards ∧ cards.length ≤ event.mayOpen ∧
      (event ≠ .shutdown → later.card.isSome = (session.card.isSome || !cards.isEmpty)) := by
  by_cases shuts : event = .shutdown
  · subst shuts
    cases ended
    have opened : session.closeCard.opened = session.opened ++ [] :=
      session.closeCard_opened.trans (List.append_nil _).symm
    exact ⟨[], opened, Nat.le_refl 0, fun goesOn => absurd rfl goesOn⟩
  · have opens := Event.opening shuts session
    rw [ended] at opens
    obtain ⟨cards, opened, length, isOpen⟩ := opens
    exact ⟨cards, opened, length, fun _ => isOpen⟩

/-! ## Every run -/

/-- What a session holds of the open card belongs to it: the location that is kept for saved games, the frame on
display, and the hotspot that the pointer is in. -/
structure Session.Belongs (session : Session) : Prop where
  location : ∀ card, session.card = some card → session.location = some card.location
  frame : ∀ card, session.card = some card →
    ∃ frame, session.frames.latest = some frame ∧ card.published = some frame ∧ frame.Of card
  tracker : session.TracksCard

namespace Reachable

variable {session : Session} {result : Except ScriptError Unit}

/-- Between two events the session holds of the open card what belongs to it. -/
theorem belongs (reachable : Reachable (.done session result)) : session.Belongs := by
  have orderly : session.Orderly := reachable.orderly
  have portrayed : session.Portrayed :=
    reachable.invariant (fun _ _ _ _ _ isOpen => nomatch isOpen) EngineAct.portrayed
  refine ⟨orderly.location, fun card isOpen => ?_, fun index active => ?_⟩
  · obtain ⟨frame, published⟩ := Option.isSome_iff_exists.mp (reachable.shown rfl card isOpen)
    exact ⟨frame, (orderly.latest card frame isOpen published).1, published, portrayed card frame isOpen published⟩
  · obtain ⟨name, named⟩ := reachable.atRest.1.tracks index active
    obtain ⟨card, hotspot, isOpen, found, -⟩ := Session.names_iff.mp named
    exact ⟨card, hotspot, isOpen, found⟩

/-- With a player that ends every movie at once, whatever the stacks hold: every event ends, without standing still
and with a player of the same kind. It opens as many cards at most as settling has turns, and one more if it goes to
a card. The one that it opened last is open when it has ended; if it opened none the open card is the one that was
open before, unless the session was shut down. What the session holds of the open card belongs to it. And settling,
wherever it begins, goes through thirty-two turns at most. -/
theorem chains_bounded (reachable : Reachable (.done session result)) (finishes : session.player.Finishes)
    (event : Event) :
    (∃ later outcome cards, event.script session = .done later outcome ∧ later.player.Finishes ∧
      later.opened = session.opened ++ cards ∧ cards.length ≤ event.mayOpen ∧
      (∀ location, cards.getLast? = some location →
        ∃ card, later.card = some card ∧ card.location = location) ∧
      (cards = [] → event ≠ .shutdown → later.card.map (·.location) = session.card.map (·.location)) ∧
      later.Belongs) ∧
    ∀ pending first later outcome, (Script.settle pending first).Leads (.done later outcome) →
      ∃ turns ≤ maxCardChain, Script.SettleRun turns first pending later ∧ first.Opens turns later := by
  obtain ⟨later, outcome, ended, ready⟩ := reachable.event_ends finishes event
  have there : Reachable (.done later outcome) := .event reachable event (ended ▸ .refl)
  have before : session.Orderly := reachable.orderly
  have orderly : later.Orderly := there.orderly
  obtain ⟨cards, opened, length, isOpen⟩ := Event.opened_of_done ended
  refine ⟨⟨later, outcome, cards, ended, ready, opened, length, fun location last => ?_, fun none goesOn => ?_,
    there.belongs⟩, fun pending first later outcome leads => ?_⟩
  -- The card opened last is the open one, because opening and closing alternate.
  · have some : cards ≠ [] := by
      rintro rfl
      cases last
    have goesOn : event ≠ .shutdown := by
      rintro rfl
      exact some (List.eq_nil_of_length_eq_zero (Nat.le_zero.mp length))
    have isOpen : later.card.isSome = true := by
      rw [isOpen goesOn, Bool.eq_false_iff.mpr (mt List.isEmpty_iff.mp some)]
      exact Bool.or_true _
    obtain ⟨card, here⟩ := Option.isSome_iff_exists.mp isOpen
    have same := orderly.last_opened here
    rw [opened, List.getLast?_append, last] at same
    exact ⟨card, here, (Option.some.inj same).symm⟩
  · subst none
    have stays : session.Stays later :=
      ⟨opened.trans (List.append_nil _), (isOpen goesOn).trans (Bool.or_false _)⟩
    exact stays.location before orderly
  · obtain ⟨turns, le, run⟩ := (Script.settleWithin_runs maxCardChain pending first).of_leads_done leads
    exact ⟨turns, le, run, run.opens⟩

/-- The start scripts of two cards send each other around. Going to one of them opens thirty-three cards, each of them
anew; then the chain is cut off, and the card opened last is open. -/
theorem chains_bounded_cycle : ∃ first later : Session, Reachable (.done first (.ok ())) ∧ first.player.Finishes ∧
    Script.goto ⟨"a", 1⟩ first = .done later (.ok ()) ∧ .cutOff ∈ later.transcript ∧
    (∃ cards, later.opened = first.opened ++ cards ∧ cards.length = 33 ∧
      cards.length ≤ (Event.message (.goto ⟨"a", 1⟩ none)).mayOpen ∧ cards.getLast? = some ⟨"a", 1⟩) ∧
    (∃ card, later.card = some card ∧ card.location = ⟨"a", 1⟩ ∧ later.location = some ⟨"a", 1⟩) := by
  let sends (id : UInt16) : CardRecord := { scripts := [⟨9, [.op 2 [id]]⟩] }
  let first := Session.beginning "a" [(1, sends 2), (2, sends 1)]
  let around (later : Session) : Bool :=
    later.transcript.any (· matches .cutOff) && later.opened.length == 33 && later.opened.getLast? == some ⟨"a", 1⟩
  have start : Reachable (.done first (.ok ())) := .start ..
  have finishes : first.player.Finishes := MediaPlayer.finishes_finishing
  have ran : ((Script.goto ⟨"a", 1⟩ first).ended?).any around = true := by decide +kernel
  obtain ⟨later, ended, here⟩ := (Option.any_eq_true ..).mp ran
  simp only [around, Bool.and_eq_true, beq_iff_eq] at here
  obtain ⟨⟨cut, length⟩, last⟩ := here
  obtain ⟨⟨reached, outcome, cards, came, -, opened, within, isOpen, -, belongs⟩, -⟩ :=
    chains_bounded start finishes (.message (.goto ⟨"a", 1⟩ none))
  have came : Script.goto ⟨"a", 1⟩ first = .done reached outcome := came
  have same := Progress.leads_of_ended? ended
  rw [came, Progress.leads_done_iff] at same
  cases same
  -- Nothing has been opened before the first event.
  have opened : later.opened = cards := opened
  rw [opened] at length last
  obtain ⟨one, among, isCut⟩ := List.any_eq_true.mp cut
  obtain rfl : one = .cutOff := by
    cases one <;> first | rfl | cases isCut
  obtain ⟨card, there, location⟩ := isOpen ⟨"a", 1⟩ last
  exact ⟨first, later, start, finishes, came, among, ⟨cards, opened, length, within, last⟩, card, there, location,
    location ▸ belongs.location card there⟩

end Reachable

end Diorama
