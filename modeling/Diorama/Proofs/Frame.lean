import Diorama.Proofs.Interpreter

/-!
# What scripts leave alone

A script may change what the card shows, switch hotspots, and hand things over. It does not open or close
a card, it does not move the pointer, and it does not touch the window. `Session.Continues` lists
everything that a running script leaves alone; `ScriptAct.continues` goes through the acts of scripts once,
and `ScriptChain.continues` carries it to whole scripts.

The transcript is part of the list in two ways: nothing in it is ever taken back (`EngineChain.grows`), and
a script adds nothing to it that says that a card was opened or closed.
-/

namespace Diorama

/-! ## The visits in a transcript -/

/-- A card is opened or closed. -/
inductive Visit where
  | opened (location : Location)
  | closed (location : Location)
  deriving DecidableEq, Repr

/-- What a happening says of the visit to a card. -/
def Happening.visit? : Happening → Option Visit
  | .recorded (.cardOpened location) => some (.opened location)
  | .recorded (.cardClosed location) => some (.closed location)
  | _ => none

/-- The cards opened and closed in a transcript, the oldest first. -/
def Happening.visits (transcript : List Happening) : List Visit :=
  (transcript.filterMap visit?).reverse

namespace Happening

/-- What is no visit is not listed. -/
theorem visits_cons_of_none {happening : Happening} (h : happening.visit? = none)
    (transcript : List Happening) : visits (happening :: transcript) = visits transcript := by
  rw [visits, List.filterMap_cons_none h]
  rfl

/-- The latest visit is listed last. -/
theorem visits_cons_of_some {happening : Happening} {visit : Visit}
    (h : happening.visit? = some visit) (transcript : List Happening) :
    visits (happening :: transcript) = visits transcript ++ [visit] := by
  rw [visits, List.filterMap_cons_some h, List.reverse_cons]
  rfl

/-- The visits of the earlier part come first. -/
theorem visits_append (later earlier : List Happening) :
    visits (later ++ earlier) = visits earlier ++ visits later := by
  rw [visits, List.filterMap_append, List.reverse_append]
  rfl

end Happening

/-- Scripts do not open or close cards. -/
theorem Notice.OfScript.visit?_eq_none {notice : Notice} (h : notice.OfScript) :
    (Happening.recorded notice).visit? = none := by
  cases notice <;> first | rfl | exact h.elim

/-- Nor is what the engine notes by itself a visit. -/
theorem Notice.OfEngine.visit?_eq_none {notice : Notice} (h : notice.OfEngine) :
    (Happening.recorded notice).visit? = none := by
  cases notice <;> first | rfl | exact h.elim

namespace Session

/-- The cards opened and closed so far, the oldest first. -/
def visits (session : Session) : List Visit :=
  Happening.visits session.transcript

end Session

/-! ## Open cards -/

/-- What nothing but a change of the window changes of a hotspot: everything but whether it is enabled. -/
def Hotspot.fixed {R : Type} (hotspot : Hotspot R) : Hotspot R :=
  { hotspot with enabled := false }

/-- A card as a script may leave it: still that card, and what was published is not forgotten. -/
structure OpenCard.Continues (card later : OpenCard) : Prop where
  stack : later.stack = card.stack
  id : later.id = card.id
  record : later.record = card.record
  hotspots : later.hotspots.hotspots.map Hotspot.fixed = card.hotspots.hotspots.map Hotspot.fixed
  published : card.published.isSome → later.published.isSome

namespace OpenCard

/-- A card that is left alone. -/
theorem Continues.refl (card : OpenCard) : card.Continues card :=
  ⟨rfl, rfl, rfl, rfl, fun published => published⟩

/-- What two scripts leave alone one after the other is left alone by both. -/
theorem Continues.trans {card between later : OpenCard} (h : card.Continues between)
    (h' : between.Continues later) : card.Continues later :=
  ⟨h'.stack.trans h.stack, h'.id.trans h.id, h'.record.trans h.record,
    h'.hotspots.trans h.hotspots, h'.published ∘ h.published⟩

/-- It stays where it was. -/
theorem Continues.location {card later : OpenCard} (h : card.Continues later) :
    later.location = card.location := by
  rw [OpenCard.location, OpenCard.location, h.stack, h.id]

end OpenCard

/-- A change in one place that `f` does not see is not seen by `f` in the list. -/
private theorem map_modify_of_comp {α β : Type} {f : α → β} {g : α → α} (h : ∀ value, f (g value) = f value)
    (values : List α) (place : Nat) : (values.modify place g).map f = values.map f := by
  induction values generalizing place with
  | nil => rw [List.modify_nil]
  | cons value rest ih =>
    cases place with
    | zero => rw [List.modify_zero_cons, List.map_cons, List.map_cons, h]
    | succ place => rw [List.modify_succ_cons, List.map_cons, List.map_cons, ih]

/-- Switching a hotspot changes nothing else about the table. -/
theorem HotspotTable.map_fixed_of_setEnabled? {R : Type} {table switched : HotspotTable R} {id : UInt16}
    {enabled : Bool} (h : table.setEnabled? id enabled = some switched) :
    switched.hotspots.map Hotspot.fixed = table.hotspots.map Hotspot.fixed := by
  unfold setEnabled? at h
  split at h
  next place found =>
    cases h
    have same (hotspot : Hotspot R) : { hotspot with enabled }.fixed = hotspot.fixed := rfl
    exact map_modify_of_comp same _ _
  next => cases h

/-! ## Closing -/

/-- Stops do nothing but reach the player. -/
theorem Stage.foldl_stopMedia (media : List MediaRef) (stage : Stage) :
    ∃ player, media.foldl Stage.stopMedia stage =
      { stage with player, transcript := (media.map Happening.stopped).reverse ++ stage.transcript } := by
  induction media generalizing stage with
  | nil => exact ⟨stage.player, rfl⟩
  | cons head rest ih =>
    obtain ⟨player, same⟩ := ih (stage.stopMedia head)
    refine ⟨player, ?_⟩
    rw [List.foldl_cons, same, List.map_cons, List.reverse_cons, List.append_assoc]
    rfl

/-- Closing a card stops what it has playing, and then there is no card. -/
theorem Session.closeCard_of_some {session : Session} {card : OpenCard} (isOpen : session.card = some card) :
    ∃ player, session.closeCard =
      ({ session with
          player
          transcript := ((playing card).map Happening.stopped).reverse ++ session.transcript
          card := none
          cues := []
          tracker := {} }.changeUpdates .closed).record (.cardClosed card.location) := by
  obtain ⟨player, same⟩ := Stage.foldl_stopMedia (playing card) session.toStage
  refine ⟨player, ?_⟩
  unfold closeCard
  rw [isOpen]
  dsimp only
  rw [same]

/-- Media that are stopped are no visits. -/
theorem Happening.visits_stopped (media : List MediaRef) (transcript : List Happening) :
    visits ((media.map stopped).reverse ++ transcript) = visits transcript := by
  have none : (media.map stopped).filterMap visit? = [] := by
    rw [List.filterMap_map]
    exact List.filterMap_eq_nil_iff.mpr fun _ _ => rfl
  have silent : visits (media.map stopped).reverse = [] := by
    rw [visits, List.filterMap_reverse, none, List.reverse_nil, List.reverse_nil]
  rw [visits_append, silent, List.append_nil]

/-- Without a card there is nothing to close. -/
theorem Session.closeCard_of_none {session : Session} (closed : session.card = none) :
    session.closeCard = session := by
  unfold closeCard
  rw [closed]

/-- Closing a card reaches the player, the log and the transcript, and nothing else of the stage. -/
theorem Session.closeCard_stage (session : Session) : ∃ player log transcript,
    session.closeCard.toStage = { session.toStage with player, log, transcript } := by
  cases isOpen : session.card with
  | none => exact ⟨_, _, _, by rw [closeCard_of_none isOpen]⟩
  | some card =>
    obtain ⟨player, same⟩ := closeCard_of_some isOpen
    exact ⟨player, _, _, by rw [same]; rfl⟩

/-- Showing a card reaches the display and the transcript, and nothing else of the stage. -/
theorem Session.showCard_stage (session : Session) : ∃ frames transcript,
    session.showCard.toStage = { session.toStage with frames, transcript } := by
  unfold showCard
  split
  · exact ⟨_, _, rfl⟩
  · exact ⟨_, _, rfl⟩

/-! ## Sessions -/

/-- What a script leaves alone. -/
structure Session.Continues (session later : Session) : Prop where
  config : later.config = session.config
  location : later.location = session.location
  mapper : later.mapper = session.mapper
  pointer : later.pointer = session.pointer
  buttonDown : later.buttonDown = session.buttonDown
  tracker : later.tracker = session.tracker
  inLeave : later.inLeave = session.inLeave
  card : Option.Rel OpenCard.Continues session.card later.card
  visits : later.visits = session.visits

/-- A change that every card survives is survived by the card that is open, if there is one. -/
private theorem rel_map {change : OpenCard → OpenCard} (h : ∀ card : OpenCard, card.Continues (change card)) :
    ∀ card : Option OpenCard, Option.Rel OpenCard.Continues card (card.map change)
  | none => .none
  | some card => .some (h card)

private theorem rel_refl (card : Option OpenCard) : Option.Rel OpenCard.Continues card card := by
  have same := rel_map OpenCard.Continues.refl card
  rwa [Option.map_id'] at same

private theorem rel_trans {card between later : Option OpenCard}
    (h : Option.Rel OpenCard.Continues card between)
    (h' : Option.Rel OpenCard.Continues between later) :
    Option.Rel OpenCard.Continues card later := by
  cases h with
  | none => exact h'
  | some h =>
    cases h' with
    | some h' => exact .some (h.trans h')

namespace Session.Continues

theorem refl (session : Session) : session.Continues session :=
  ⟨rfl, rfl, rfl, rfl, rfl, rfl, rfl, rel_refl _, rfl⟩

/-- What two scripts leave alone one after the other is left alone by both. -/
theorem trans {session between later : Session} (h : session.Continues between)
    (h' : between.Continues later) : session.Continues later where
  config := h'.config.trans h.config
  location := h'.location.trans h.location
  mapper := h'.mapper.trans h.mapper
  pointer := h'.pointer.trans h.pointer
  buttonDown := h'.buttonDown.trans h.buttonDown
  tracker := h'.tracker.trans h.tracker
  inLeave := h'.inLeave.trans h.inLeave
  card := rel_trans h.card h'.card
  visits := h'.visits.trans h.visits

/-- A script neither opens nor closes a card. -/
theorem card_isSome {session later : Session} (h : session.Continues later) :
    later.card.isSome = session.card.isSome := by
  have related := h.card
  generalize session.card = before, later.card = after at related
  cases related <;> rfl

/-- Where only the card changes, only the card has to be looked at. -/
theorem ofCard {session : Session} {card : Option OpenCard}
    (h : Option.Rel OpenCard.Continues session.card card) :
    session.Continues { session with card } :=
  ⟨rfl, rfl, rfl, rfl, rfl, rfl, rfl, h, rfl⟩

end Session.Continues

/-- To load a stack ahead is no visit. -/
theorem Stage.visits_preload (stage : Stage) (key : String) :
    Happening.visits (stage.preload key).transcript = Happening.visits stage.transcript := by
  unfold Stage.preload
  refine Happening.visits_cons_of_none ?_ _
  split <;> rfl

/-- Each act of a script leaves these things alone. -/
theorem ScriptAct.continues {session later : Session} (act : ScriptAct session later) :
    session.Continues later := by
  have same := rel_refl session.card
  cases act with
  | suffered act =>
    cases act with
    | preload key =>
      exact ⟨rfl, rfl, rfl, rfl, rfl, rfl, rfl, same, session.toStage.visits_preload key⟩
    | _ => exact ⟨rfl, rfl, rfl, rfl, rfl, rfl, rfl, same, rfl⟩
  | recorded notice ofScript =>
    exact ⟨rfl, rfl, rfl, rfl, rfl, rfl, rfl, same,
      Happening.visits_cons_of_none ofScript.visit?_eq_none _⟩
  | setHotspot id enabled isOpen found =>
    refine .ofCard ?_
    rw [isOpen]
    exact .some ⟨rfl, rfl, rfl, HotspotTable.map_fixed_of_setEnabled? found, fun published => published⟩
  | setVisual change =>
    have shown (card : OpenCard) : card.Continues { card with visual := change card.visual } :=
      ⟨rfl, rfl, rfl, rfl, fun published => published⟩
    exact .ofCard (rel_map shown _)
  -- Only publishing marks the card as published, and it never takes the mark back.
  | shows enabled =>
    unfold Session.showCard
    split
    next => exact .refl session
    next card isOpen =>
      refine ⟨rfl, rfl, rfl, rfl, rfl, rfl, rfl, ?_, rfl⟩
      rw [isOpen]
      exact .some ⟨rfl, rfl, rfl, rfl, fun _ => rfl⟩
  | fails label error =>
    have takenBack (card : OpenCard) : card.Continues card.discardUnpublished :=
      ⟨rfl, rfl, rfl, rfl, fun published => published⟩
    exact ⟨rfl, rfl, rfl, rfl, rfl, rfl, rfl, rel_map takenBack _, rfl⟩
  | _ => exact ⟨rfl, rfl, rfl, rfl, rfl, rfl, rfl, same, rfl⟩

/-- What a script leaves alone, it leaves alone to its end. -/
theorem ScriptChain.continues {session later : Session} (chain : ScriptChain session later) :
    session.Continues later := by
  induction chain with
  | refl => exact .refl session
  | tail _ act before => exact before.trans act.continues

namespace Session

/-- After closing no card is open. -/
theorem closeCard_card (session : Session) : session.closeCard.card = none := by
  cases isOpen : session.card with
  | none => rw [closeCard_of_none isOpen, isOpen]
  | some card =>
    obtain ⟨player, same⟩ := closeCard_of_some isOpen
    rw [same]
    rfl

/-- Closing does not touch the window. -/
theorem closeCard_mapper (session : Session) : session.closeCard.mapper = session.mapper := by
  cases isOpen : session.card with
  | none => rw [closeCard_of_none isOpen]
  | some card =>
    obtain ⟨player, same⟩ := closeCard_of_some isOpen
    rw [same]
    rfl

/-- Closing is a visit that ends, if there is one. -/
theorem closeCard_visits (session : Session) : session.closeCard.visits =
    session.visits ++ (session.card.map fun card => Visit.closed card.location).toList := by
  cases isOpen : session.card with
  | none =>
    rw [closeCard_of_none isOpen]
    exact (List.append_nil _).symm
  | some card =>
    obtain ⟨player, same⟩ := closeCard_of_some isOpen
    rw [same]
    refine (Happening.visits_cons_of_some rfl _).trans (congrArg (· ++ [_]) ?_)
    exact (Happening.visits_cons_of_none rfl _).trans (Happening.visits_stopped _ _)

end Session

/-- An entry of the log leaves these things alone if it tells of no visit. -/
theorem Session.continues_record (session : Session) {notice : Notice}
    (h : (Happening.recorded notice).visit? = none) : session.Continues (session.record notice) :=
  ⟨rfl, rfl, rfl, rfl, rfl, rfl, rfl, rel_refl _, Happening.visits_cons_of_none h _⟩

/-- Those who act while a script waits leave alone what the script does. -/
theorem Session.Continues.lasting : Script.Lasting Session.Continues where
  refl := .refl
  trans := .trans
  suffer _ act := (ScriptAct.suffered act).continues
  answered answered := (ScriptAct.answered answered).continues

/-- A script may hand things to the display, but it is not what first shows a card. -/
theorem ScriptAct.revealed {session later : Session} (act : ScriptAct session later) :
    Happening.revealed later.transcript = Happening.revealed session.transcript := by
  cases act with
  | suffered act => cases act <;> rfl
  | changesUpdates change ofScript => cases change <;> first | rfl | exact ofScript.elim
  | shows enabled => unfold Session.showCard; split <;> rfl
  | _ => rfl

/-- Scripts reveal no card; that is done when a card is arrived at. -/
theorem ScriptChain.revealed {session later : Session} (chain : ScriptChain session later) :
    Happening.revealed later.transcript = Happening.revealed session.transcript := by
  induction chain with
  | refl => rfl
  | tail _ act before => rw [act.revealed, before]

/-! ## The transcript only grows -/

private theorem suffix_two (first second : Happening) (transcript : List Happening) :
    transcript <:+ second :: first :: transcript :=
  (List.suffix_cons first transcript).trans (List.suffix_cons second _)

/-- What may be noted while a script runs: neither that a card is opened or closed, nor where the pointer
goes, nor that cues are taken or carried out, nor what events note around scripts. -/
def Happening.OfScript : Happening → Prop
  | .recorded (.cardOpened _) | .recorded (.cardClosed _) | .recorded (.hotspotEntered _)
  | .recorded (.hotspotExited _) | .recorded (.movieFinished _) | .recorded .stateRestored
  | .recorded .tornDown => False
  | .updates .opened | .updates .shown | .updates .closed => False
  | .cuesTaken _ | .cueFired _ | .refused _ | .cutOff => False
  | _ => True

/-- A transcript has grown by what scripts note. -/
def Happening.Noted (earlier later : List Happening) : Prop :=
  ∃ during, later = during ++ earlier ∧ ∀ happening ∈ during, happening.OfScript

namespace Happening.Noted

/-- Nothing was added. -/
theorem refl (transcript : List Happening) : Noted transcript transcript :=
  ⟨[], rfl, nofun⟩

/-- What was added first and what was added then, taken together. -/
theorem trans {earlier between later : List Happening} (h : Noted earlier between)
    (h' : Noted between later) : Noted earlier later := by
  obtain ⟨first, rfl, ofScript⟩ := h
  obtain ⟨second, rfl, ofScript'⟩ := h'
  refine ⟨second ++ first, by simp, fun happening among => ?_⟩
  rcases List.mem_append.mp among with among | among
  · exact ofScript' happening among
  · exact ofScript happening among

/-- One happening was added. -/
theorem one {happening : Happening} (ofScript : happening.OfScript) (earlier : List Happening) :
    Noted earlier (happening :: earlier) :=
  ⟨[happening], rfl, by simpa using ofScript⟩

/-- What was there before is still there. -/
theorem suffix {earlier later : List Happening} (h : Noted earlier later) : earlier <:+ later := by
  obtain ⟨during, rfl, _⟩ := h
  exact List.suffix_append during earlier

end Happening.Noted

/-- An act of a script adds only what scripts may add. -/
theorem ScriptAct.notes {session later : Session} (act : ScriptAct session later) :
    Happening.Noted session.transcript later.transcript := by
  have one (happening : Happening) (ofScript : happening.OfScript) :=
    Happening.Noted.one ofScript session.transcript
  cases act with
  | suffered act =>
    cases act with
    | drain => exact one .drained trivial
    | preload key =>
      refine one (.recorded _) ?_
      split <;> trivial
    | _ => exact .refl _
  | recorded notice ofScript =>
    refine one (.recorded notice) ?_
    cases notice <;> trivial
  | started media blocking => exact one (.started media blocking) trivial
  | stopped media => exact one (.stopped media) trivial
  | awaits code => exact one (.recorded (.movieAwaited code)) trivial
  | unblocks code outcome => exact one (.answered code outcome) trivial
  | holds state => exact one (.asked state) trivial
  | schedules cue => exact one (.scheduled cue) trivial
  | changesUpdates change ofScript =>
    refine one (.updates change) ?_
    cases change <;> trivial
  | shows enabled =>
    unfold Session.showCard
    split
    next => exact .refl _
    next => exact one (.published _) trivial
  | @hands state rest first enabled =>
    have told : (Happening.recorded (.renderRequested state)).OfScript := trivial
    exact (one (.requested state) trivial).trans (.one told _)
  | fails label error =>
    have enabled : (Happening.updates .failed).OfScript := trivial
    exact (one (.recorded (.scriptFailed label error)) trivial).trans (.one enabled _)
  | _ => exact .refl _

/-- So do any number of them. -/
theorem ScriptChain.notes {session later : Session} (chain : ScriptChain session later) :
    Happening.Noted session.transcript later.transcript := by
  induction chain with
  | refl => exact .refl _
  | tail _ act before => exact before.trans act.notes

/-- No act of a script takes anything back. -/
theorem ScriptAct.grows {session later : Session} (act : ScriptAct session later) :
    session.transcript <:+ later.transcript :=
  act.notes.suffix

/-- Nor does any act of the engine. -/
theorem EngineAct.grows {session later : Session} (act : EngineAct session later) :
    session.transcript <:+ later.transcript := by
  have one (happening : Happening) : session.transcript <:+ happening :: session.transcript :=
    List.suffix_cons happening _
  cases act with
  | script act => exact act.grows
  | closes =>
    cases isOpen : session.card with
    | none =>
      rewrite [Session.closeCard_of_none isOpen]
      exact List.suffix_rfl
    | some card =>
      obtain ⟨player, same⟩ := Session.closeCard_of_some isOpen
      rw [same]
      exact (List.suffix_append ((Session.playing card).map Happening.stopped).reverse _).trans
        (suffix_two (.updates .closed) (.recorded (.cardClosed card.location)) _)
  | opens location closed key loaded =>
    exact suffix_two (.recorded (.cardOpened location)) (.updates .opened) _
  | reveals => exact one _
  | recorded notice ofEngine => exact one _
  | takesCues => exact one _
  | firesCue cue => exact one _
  | refuses location => exact one _
  | cutsOff => exact one _
  | _ => exact List.suffix_rfl

/-- Nothing that was handed over is taken back. -/
theorem EngineChain.grows {session later : Session} (chain : EngineChain session later) :
    session.transcript <:+ later.transcript := by
  induction chain with
  | refl => exact List.suffix_rfl
  | tail _ act before => exact before.trans act.grows

/-! ## The transcript, happening by happening -/

namespace Happening

/-- Everything in a transcript is allowed by what went before. -/
def Each (allowed : List Happening → Happening → Prop) : List Happening → Prop
  | [] => True
  | happening :: earlier => allowed earlier happening ∧ Each allowed earlier

variable {allowed : List Happening → Happening → Prop}

/-- What holds at each place holds at each of the earlier ones. -/
theorem Each.of_append {later earlier : List Happening} (h : Each allowed (later ++ earlier)) :
    Each allowed earlier := by
  induction later with
  | nil => exact h
  | cons _ _ ih => exact ih h.2

/-- It may be asked less of each happening. -/
theorem Each.mono {allowed' : List Happening → Happening → Prop} {transcript : List Happening}
    (h : Each allowed transcript) (weaker : ∀ earlier happening, allowed earlier happening →
      allowed' earlier happening) : Each allowed' transcript := by
  induction transcript with
  | nil => trivial
  | cons happening earlier ih => exact ⟨weaker earlier happening h.1, ih h.2⟩

/-- What is allowed in what comes on top is allowed in all of it. -/
theorem Each.append {during earlier : List Happening} (h : Each allowed earlier)
    (more : ∀ later happening before, during = later ++ happening :: before →
      allowed (before ++ earlier) happening) : Each allowed (during ++ earlier) := by
  induction during with
  | nil => exact h
  | cons happening during ih =>
    refine ⟨more [] happening during rfl, ih fun later one before split => ?_⟩
    exact more (happening :: later) one before (by rw [split, List.cons_append])

/-- What is said of every happening holds of each at its place. -/
theorem Each.at {later earlier : List Happening} {happening : Happening}
    (h : Each allowed (later ++ happening :: earlier)) : allowed earlier happening :=
  h.of_append.1

end Happening

/-! ## The transcript, place by place -/

/-- Something that was noted, with its place in the transcript: how many happenings there were before. -/
structure Placed (α : Type) where
  place : Nat
  what : α
  deriving DecidableEq, Repr

namespace Happening

section Gather

variable {α : Type} (found : List Happening → Happening → List α)

/-- What is found at the happenings of a transcript, given what went before each, the oldest first. -/
def gather : List Happening → List α
  | [] => []
  | happening :: earlier => gather earlier ++ found earlier happening

theorem mem_gather_iff {transcript : List Happening} {value : α} : value ∈ gather found transcript ↔
    ∃ later happening earlier, transcript = later ++ happening :: earlier ∧ value ∈ found earlier happening := by
  constructor
  · intro among
    induction transcript with
    | nil => cases among
    | cons happening earlier ih =>
      rcases List.mem_append.mp among with before | here
      · obtain ⟨later, one, between, rfl, here⟩ := ih before
        exact ⟨happening :: later, one, between, rfl, here⟩
      · exact ⟨[], happening, earlier, rfl, here⟩
  · rintro ⟨later, happening, earlier, rfl, here⟩
    induction later with
    | nil => exact List.mem_append_right _ here
    | cons _ _ ih => exact List.mem_append_left _ ih

end Gather

section Placed

variable {α : Type} (pick : Happening → Option α)

/-- What `pick` finds in a transcript, each with its place. -/
def placed : List Happening → List (Placed α) :=
  gather fun earlier happening => (pick happening).toList.map (⟨earlier.length, ·⟩)

/-- A place is counted from the oldest happening, so it is less than their number. -/
theorem place_lt_of_mem {pick : Happening → Option α} {transcript : List Happening} {one : Placed α}
    (among : one ∈ placed pick transcript) : one.place < transcript.length := by
  obtain ⟨later, happening, earlier, rfl, here⟩ := (mem_gather_iff _).mp among
  obtain ⟨what, -, rfl⟩ := List.mem_map.mp here
  have before : earlier.length < (happening :: earlier).length := Nat.lt_succ_self _
  rw [List.length_append]
  exact Nat.lt_add_left _ before

/-- No place is found twice, and what is found first was noted first. -/
theorem pairwise_placed (transcript : List Happening) :
    (placed pick transcript).Pairwise (·.place < ·.place) := by
  induction transcript with
  | nil => exact .nil
  | cons happening earlier ih =>
    refine List.pairwise_append.mpr ⟨ih, ?_, fun before among after here => ?_⟩
    · dsimp only
      cases pick happening with
      | none => exact .nil
      | some what => exact List.pairwise_singleton _ _
    · obtain ⟨what, -, rfl⟩ := List.mem_map.mp here
      exact place_lt_of_mem among

/-- What is told together with its place is told once. -/
theorem nodup_placed (transcript : List Happening) : (placed pick transcript).Nodup :=
  (pairwise_placed pick transcript).imp fun before same =>
    absurd (congrArg Placed.place same) (Nat.ne_of_lt before)

end Placed

end Happening

/-! ## An abort is for good -/

/-- Only a movie that is waited for arms the gate, and arming it does not take an abort back. -/
theorem ScriptAct.aborted {session later : Session} (act : ScriptAct session later)
    (aborted : session.gate.aborted = true) : later.gate.aborted = true := by
  cases act with
  | suffered act =>
    cases act with
    | gate call => exact MovieGate.aborted_receive aborted call
    | tearDown => rfl
    | _ => exact aborted
  | answered answered => exact MovieGate.aborted_wait? aborted answered
  | started media blocking => exact MovieGate.aborted_foldl_receive aborted _
  | shows enabled =>
    obtain ⟨frames, transcript, same⟩ := session.showCard_stage
    rwa [same]
  | _ => exact aborted

/-- Nothing that the engine does takes it back either. -/
theorem EngineAct.aborted {session later : Session} (act : EngineAct session later)
    (aborted : session.gate.aborted = true) : later.gate.aborted = true := by
  cases act with
  | script act => exact act.aborted aborted
  | closes =>
    obtain ⟨player, log, transcript, same⟩ := session.closeCard_stage
    rwa [same]
  | _ => exact aborted

/-- A gate that is aborted stays aborted for the rest of the run. -/
theorem EngineChain.aborted {session later : Session} (chain : EngineChain session later)
    (aborted : session.gate.aborted = true) : later.gate.aborted = true :=
  chain.keeps EngineAct.aborted aborted

end Diorama
