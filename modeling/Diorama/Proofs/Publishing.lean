import Diorama.Proofs.Display

/-!
# A card publishes when it would show something else, and only then

Before a snapshot is taken, the last one is compared with the card, but only in part: the location, the name and
the ids of the hotspots are left out, and of the hotspots only as many are compared as both have. That this part
decides about the whole rests on what never changes during a visit (`CardFrame.Of`): with the same hotspots in the
same order, the two lists differ exactly if some place of them does (`HotspotFrame.beq_iff_of_ids`).

What a visit has published last is what the card itself remembers (`Session.Remembers`); what is meant by it is
read off the transcript (`Happening.visitFrame?`). So a card needs to publish exactly if nothing was published
since it was opened, or the last snapshot is another than one taken now (`Reachable.needsPublish_exact`).
-/

namespace Diorama

/-! ## Rectangles that equal themselves -/

namespace Rect

/-- Whether each side of a rectangle is a number. -/
def isNumeric (rect : Rect Float32) : Bool :=
  !rect.x.isNaN && !rect.y.isNaN && !rect.width.isNaN && !rect.height.isNaN

/-- A side that is a number equals itself. -/
theorem side_beq_self {side : Float32} (number : side.isNaN = false) : (side == side) = true := by
  have number : side.toModel.unpack.isNaN = false := number
  show side.toModel.unpack.beq side.toModel.unpack = true
  generalize side.toModel.unpack = value at number ⊢
  cases value with
  | notANumber => cases number
  | infinity sign => cases sign <;> rfl
  | zero sign => cases sign <;> rfl
  | finite sign mantissa exponent positive =>
    have same : (compare exponent exponent).then (compare mantissa mantissa) = .eq := by simp
    cases sign with
    | positive =>
      show (some ((compare exponent exponent).then (compare mantissa mantissa)) == some Ordering.eq) = true
      rw [same]
      rfl
    | negative =>
      show (some ((compare exponent exponent).then (compare mantissa mantissa)).swap == some Ordering.eq) = true
      rw [same]
      rfl

/-- A rectangle equals itself if its sides are numbers. -/
theorem beq_self {rect : Rect Float32} (numeric : rect.isNumeric = true) : (rect == rect) = true := by
  simp only [isNumeric, Bool.and_eq_true, Bool.not_eq_true'] at numeric
  obtain ⟨⟨⟨x, y⟩, width⟩, height⟩ := numeric
  show (rect.x == rect.x && (rect.y == rect.y && (rect.width == rect.width && rect.height == rect.height))) = true
  rw [side_beq_self x, side_beq_self y, side_beq_self width, side_beq_self height]
  rfl

end Rect

/-! ## Snapshots that are equal -/

/-- Whether two snapshots are equal but for their generations. Rectangles are compared as numbers are. -/
def CardFrame.alike (shown live : CardFrame) : Bool :=
  shown.location == live.location && shown.name == live.name && shown.visual == live.visual
    && shown.hotspots == live.hotspots

namespace HotspotFrame

/-- Of two frames of one hotspot the card is asked whether they differ, and they are equal if they do not. -/
theorem beq_iff_of_id {shown live : HotspotFrame} (id : shown.id = live.id) :
    (shown == live) = true ↔ OpenCard.differs shown live = false := by
  have equal : (shown == live) = (shown.id == live.id && (shown.enabled == live.enabled && shown.frame == live.frame)) :=
    rfl
  rw [equal, id, beq_self_eq_true, Bool.true_and, OpenCard.differs]
  simp [bne]

/-- Lists of the same hotspots are equal exactly if no place of them differs. -/
theorem beq_iff_of_ids {shown live : List HotspotFrame}
    (ids : List.Forall₂ (fun shown live => shown.id = live.id) shown live) :
    (shown == live) = true ↔ ((shown.zip live).any fun pair => OpenCard.differs pair.1 pair.2) = false := by
  induction ids with
  | nil => simp
  | cons id _ ih =>
    rw [List.cons_beq_cons, Bool.and_eq_true, beq_iff_of_id id, ih, List.zip_cons_cons, List.any_cons,
      Bool.or_eq_false_iff]

/-- A list of hotspots equals itself if the places are numbers. -/
theorem beq_self {hotspots : List HotspotFrame} (numeric : ∀ hotspot ∈ hotspots, hotspot.frame.isNumeric = true) :
    (hotspots == hotspots) = true := by
  induction hotspots with
  | nil => rfl
  | cons hotspot rest ih =>
    rw [List.forall_mem_cons] at numeric
    rw [List.cons_beq_cons, ih numeric.2, Bool.and_true, beq_iff_of_id rfl, OpenCard.differs, bne, bne,
      beq_self_eq_true, Rect.beq_self numeric.1]
    rfl

end HotspotFrame

namespace OpenCard

/-- Each hotspot of the card has its place in numbers. -/
def Numeric (card : OpenCard) : Prop :=
  ∀ hotspot ∈ card.hotspots.hotspots, hotspot.frame.isNumeric = true

/-- A snapshot of the card differs from the card exactly if it is another than one that is taken now. -/
theorem needsPublish_eq_false_iff {card : OpenCard} {frame : CardFrame} (published : card.published = some frame)
    (of : frame.Of card) (generation : Nat) :
    card.needsPublish = false ↔ frame.alike (card.snapshot generation) = true := by
  have hotspots := HotspotFrame.beq_iff_of_ids (forall₂_ids of)
  have location : frame.location = (card.snapshot generation).location := of.location
  have name : frame.name = (card.snapshot generation).name := of.name
  simp only [needsPublish, published, Bool.or_eq_false_iff, bne_eq_false_iff_eq, CardFrame.alike, location, name,
    beq_self_eq_true, Bool.true_and, Bool.and_eq_true, beq_iff_eq]
  exact and_congr Iff.rfl hotspots.symm

/-- Two snapshots of one card are equal but for their numbers, if its rectangles are. -/
theorem alike_snapshot {card : OpenCard} (numeric : card.Numeric) (generation other : Nat) :
    (card.snapshot generation).alike (card.snapshot other) = true := by
  have hotspots : (card.hotspotFrames == card.hotspotFrames) = true := by
    refine HotspotFrame.beq_self fun shown among => ?_
    obtain ⟨hotspot, here, rfl⟩ := List.mem_map.mp among
    exact numeric hotspot here
  simp only [CardFrame.alike, snapshot, beq_self_eq_true, hotspots, Bool.and_self]

end OpenCard

/-! ## What a visit has published -/

namespace Happening

/-- What has been published last since a card was opened, after what has happened, the latest first. -/
def visitFrame? : List Happening → Option CardFrame
  | [] => none
  | .published frame :: _ => some frame
  | .recorded (.cardOpened _) :: _ => none
  | _ :: earlier => visitFrame? earlier

/-- What else is recorded has nothing to do with what a visit has published. -/
theorem visitFrame?_recorded {notice : Notice} (aside : (Happening.recorded notice).visit? = none)
    (earlier : List Happening) : visitFrame? (.recorded notice :: earlier) = visitFrame? earlier := by
  cases notice with
  | cardOpened => cases aside
  | _ => rfl

def frame? : Happening → Option CardFrame
  | .published frame => some frame
  | _ => none

/-- Everything that has been published, the latest first. -/
def frames (happenings : List Happening) : List CardFrame :=
  happenings.filterMap frame?

end Happening

/-- The open card remembers what this visit has published last. -/
def Session.Remembers (session : Session) : Prop :=
  ∀ card, session.card = some card → card.published = Happening.visitFrame? session.transcript

namespace Session.Remembers

variable {session later : Session}

/-- What changes neither the card's memory nor what the visit has published. -/
theorem map (h : session.Remembers) {change : OpenCard → OpenCard} (card : later.card = session.card.map change)
    (published : ∀ card, (change card).published = card.published)
    (transcript : Happening.visitFrame? later.transcript = Happening.visitFrame? session.transcript) :
    later.Remembers := by
  intro other isOpen
  rw [card] at isOpen
  obtain ⟨original, there, rfl⟩ := Option.map_eq_some_iff.mp isOpen
  rw [published, transcript]
  exact h original there

/-- What neither touches the card nor publishes anything keeps what the card remembers. -/
theorem carried (h : session.Remembers) (card : later.card = session.card)
    (transcript : Happening.visitFrame? later.transcript = Happening.visitFrame? session.transcript) :
    later.Remembers := by
  have same : later.card = session.card.map id := card.trans (congrFun Option.map_id _).symm
  exact h.map same (fun _ => rfl) transcript

end Session.Remembers

/-- Only a snapshot that is handed over changes what the card remembers, and then it is that snapshot. -/
theorem ScriptAct.remembers {session later : Session} (act : ScriptAct session later) (h : session.Remembers) :
    later.Remembers := by
  cases act with
  | suffered act =>
    refine h.carried ?_ ?_
    · cases act <;> rfl
    · cases act with
      | preload key =>
        show Happening.visitFrame? (session.preload key).transcript = _
        unfold Stage.preload
        refine Happening.visitFrame?_recorded ?_ _
        split <;> rfl
      | _ => rfl
  | recorded notice ofScript => exact h.carried rfl (Happening.visitFrame?_recorded ofScript.visit?_eq_none _)
  | @setHotspot card hotspots id enabled isOpen found =>
    intro other there
    cases there
    exact h card isOpen
  | setVisual change => exact h.map rfl (fun _ => rfl) rfl
  | shows enabled =>
    unfold Session.showCard
    split
    next => exact h
    next card isOpen =>
      intro other there
      cases there
      rfl
  | fails label error => exact h.map rfl (fun _ => rfl) rfl
  | _ => exact h.carried rfl rfl

/-- A card that is opened remembers nothing, and nothing has been published in its visit. -/
theorem EngineAct.remembers {session later : Session} (act : EngineAct session later) (h : session.Remembers) :
    later.Remembers := by
  cases act with
  | script act => exact act.remembers h
  | closes =>
    intro card isOpen
    rw [session.closeCard_card] at isOpen
    cases isOpen
  | opens location closed key loaded =>
    intro card isOpen
    cases isOpen
    exact (OpenCard.loaded_of_load loaded).published
  | recorded notice ofEngine => exact h.carried rfl (Happening.visitFrame?_recorded ofEngine.visit?_eq_none _)
  | resizes viewport => exact h.map rfl (fun _ => rfl) rfl
  | _ => exact h.carried rfl rfl

/-! ## Publishing -/

namespace Session

/-- This visit has published, and last what a snapshot taken now would equal. -/
def UpToDate (session : Session) (card : OpenCard) : Prop :=
  ∃ frame, Happening.visitFrame? session.transcript = some frame ∧
    frame.alike (card.snapshot (session.frames.generation + 1)) = true

/-- A card has nothing to publish exactly when what was handed over last in this visit is what it shows now. -/
theorem needsPublish_iff_upToDate {session : Session} {card : OpenCard} (remembers : session.Remembers)
    (portrayed : session.Portrayed) (isOpen : session.card = some card) :
    card.needsPublish = false ↔ session.UpToDate card := by
  have memory := remembers card isOpen
  constructor
  · intro needless
    cases published : card.published with
    | none =>
      simp only [OpenCard.needsPublish, published] at needless
      cases needless
    | some frame =>
      have of := portrayed card frame isOpen published
      exact ⟨frame, memory.symm.trans published, (OpenCard.needsPublish_eq_false_iff published of _).mp needless⟩
  · rintro ⟨frame, last, alike⟩
    have published := memory.trans last
    have of := portrayed card frame isOpen published
    exact (OpenCard.needsPublish_eq_false_iff published of _).mpr alike

/-! ### What is handed over -/

/-- Requests are no snapshots. -/
theorem visitFrame?_flushHeld (session : Session) :
    Happening.visitFrame? session.flushHeld.transcript = Happening.visitFrame? session.transcript :=
  look_flushHeld (fun session => Happening.visitFrame? session.transcript) (fun _ _ => rfl) (fun _ => rfl) session

/-- No snapshot is handed over with the requests. -/
theorem handedOver_flushHeld (session : Session) :
    Happening.frames session.flushHeld.transcript = Happening.frames session.transcript :=
  look_flushHeld (fun session => Happening.frames session.transcript) (fun _ _ => rfl) (fun _ => rfl) session

/-- The requests leave alone the snapshot that the display shows. -/
theorem frames_flushHeld (session : Session) : session.flushHeld.frames = session.frames :=
  look_flushHeld (·.frames) (fun _ _ => rfl) (fun _ => rfl) session

/-- Without need only the requests that were held back are handed over. -/
theorem publishIfNeeded_of_needless {session : Session} {card : OpenCard} (isOpen : session.card = some card)
    (enabled : session.updatesEnabled = true) (needless : card.needsPublish = false) :
    session.publishIfNeeded = session.flushHeld := by
  simp [publishIfNeeded, enabled, isOpen, needless]

/-- With need the card is shown as well. -/
theorem publishIfNeeded_of_needed {session : Session} {card : OpenCard} (isOpen : session.card = some card)
    (enabled : session.updatesEnabled = true) (needed : card.needsPublish = true) :
    session.publishIfNeeded = session.publish := by
  simp [publishIfNeeded, publish, enabled, isOpen, needed]

/-- A snapshot of the open card has been handed over, and nothing else has become of card and display. -/
structure HandsOver (session later : Session) (card : OpenCard) (frame : CardFrame) : Prop where
  card : later.card = some { card with published := some frame }
  frames : later.frames = { latest := some frame, generation := frame.generation }
  last : Happening.visitFrame? later.transcript = some frame
  handedOver : Happening.frames later.transcript = frame :: Happening.frames session.transcript

/-- Publishing hands over a snapshot of the card with the next number. -/
theorem handsOver_publish {session : Session} {card : OpenCard} (isOpen : session.card = some card) :
    HandsOver session session.publish card (card.snapshot (session.frames.generation + 1)) := by
  unfold publish
  refine ⟨?_, ?_, ?_, ?_⟩
  · rw [card_flushHeld, showCard, isOpen]
    rfl
  · rw [frames_flushHeld, showCard, isOpen]
    rfl
  · rw [visitFrame?_flushHeld, showCard, isOpen]
    rfl
  · rw [handedOver_flushHeld, showCard, isOpen]
    rfl

/-- While updates are enabled, what is due is published and nothing else is. -/
structure PublishesDue (session : Session) (card : OpenCard) : Prop where
  /-- A card that shows nothing else is not published again. -/
  unchanged : session.UpToDate card → session.publishIfNeeded.card = some card ∧
    session.publishIfNeeded.frames = session.frames ∧
    Happening.frames session.publishIfNeeded.transcript = Happening.frames session.transcript
  /-- A card that shows something else is published, once. -/
  changed : ¬ session.UpToDate card →
    HandsOver session session.publishIfNeeded card (card.snapshot (session.frames.generation + 1))
  /-- Nothing of the card is left unpublished. -/
  settled : card.Numeric → ∃ now frame, session.publishIfNeeded.card = some now ∧
    now = { card with published := some frame } ∧ session.publishIfNeeded.frames.latest = some frame ∧
    session.publishIfNeeded.UpToDate now ∧ now.needsPublish = false

/-- While updates are enabled a card is brought up to date: a snapshot is handed over if it is needed, and none
if it is not. -/
theorem publishesDue {session : Session} {card : OpenCard} (remembers : session.Remembers)
    (portrayed : session.Portrayed) (orderly : session.Orderly) (isOpen : session.card = some card)
    (enabled : session.updatesEnabled = true) : session.PublishesDue card := by
  -- Whether a frame is needed and whether the last one is up to date is the same question.
  have due := needsPublish_iff_upToDate remembers portrayed isOpen
  have needless (upToDate : session.UpToDate card) := publishIfNeeded_of_needless isOpen enabled (due.mpr upToDate)
  have needed (stale : ¬ session.UpToDate card) : session.publishIfNeeded = session.publish := by
    apply publishIfNeeded_of_needed isOpen enabled
    exact Bool.of_not_eq_false fun none => stale (due.mp none)
  constructor
  case unchanged =>
    intro upToDate
    rw [needless upToDate]
    exact ⟨(card_flushHeld _).trans isOpen, frames_flushHeld _, handedOver_flushHeld _⟩
  case changed =>
    intro stale
    rw [needed stale]
    exact handsOver_publish isOpen
  case settled =>
    intro numeric
    by_cases upToDate : session.UpToDate card
    · have before := due.mpr upToDate
      have unchanged := needless upToDate
      obtain ⟨frame, last, alike⟩ := upToDate
      have published : card.published = some frame := (remembers card isOpen).trans last
      have latest := (orderly.latest card frame isOpen published).1
      rw [unchanged]
      refine ⟨card, frame, (card_flushHeld _).trans isOpen, ?_, ?_, ⟨frame, ?_, alike⟩, before⟩
      · rw [← published]
      · rw [frames_flushHeld, latest]
      · rw [visitFrame?_flushHeld, last]
    · have handed := handsOver_publish isOpen
      have alike (generation other : Nat) : (card.snapshot generation).alike (card.snapshot other) = true :=
        OpenCard.alike_snapshot numeric generation other
      rw [needed upToDate]
      refine ⟨_, _, handed.card, rfl, by rw [handed.frames], ⟨_, handed.last, alike _ _⟩, ?_⟩
      exact (OpenCard.needsPublish_eq_false_iff rfl (card.shows_snapshot _ _).toOf 0).mpr (alike _ 0)

end Session

namespace Reachable

/-- At every moment, the open card needs to publish exactly if this visit has not published, or has published
last another snapshot than one taken now, the generation aside. So if updates are enabled, bringing the display up
to date publishes no card again that shows nothing else, and leaves no change unpublished. -/
theorem needsPublish_exact {progress : Progress (Except ScriptError Unit)} (reachable : Reachable progress)
    {session : Session} (chain : EngineChain progress.session session) {card : OpenCard}
    (isOpen : session.card = some card) :
    (card.needsPublish = false ↔ session.UpToDate card) ∧
      (session.updatesEnabled = true → session.PublishesDue card) := by
  obtain ⟨config, provider, player, before⟩ := reachable.chain
  have whole : EngineChain (.ofStage (.ofConfig config provider player)) session := before.trans chain
  have remembers : session.Remembers := whole.keeps EngineAct.remembers fun _ isOpen => nomatch isOpen
  have portrayed : session.Portrayed := whole.portrayed fun _ _ isOpen => nomatch isOpen
  have orderly : session.Orderly := whole.keeps EngineAct.orderly (Session.orderly_ofStage config provider player)
  exact ⟨Session.needsPublish_iff_upToDate remembers portrayed isOpen,
    Session.publishesDue remembers portrayed orderly isOpen⟩

/-- A card is shown with a cursor that its start script has chosen, and is not published again. Then the script of
its hotspot disables the hotspot, out of sight, and fails: the display is brought up to date once. -/
theorem needsPublish_exact_failed : ∃ (before after : Session) (shown card now : OpenCard),
    Reachable (.done before (.ok ())) ∧ Reachable (.done after (.ok ())) ∧
    (before.card = some shown ∧ shown.Numeric ∧ before.UpToDate shown ∧
      Happening.frames before.publishIfNeeded.transcript = Happening.frames before.transcript) ∧
    after.card = some card ∧ card.Numeric ∧ ¬ after.UpToDate card ∧
      Happening.frames after.publishIfNeeded.transcript
        = card.snapshot (after.frames.generation + 1) :: Happening.frames after.transcript ∧
      after.publishIfNeeded.card = some now ∧ after.publishIfNeeded.UpToDate now ∧ now.needsPublish = false := by
  let door : HotspotRecord :=
    { id := 7, rect := ⟨0, 0, 608, 392⟩, cursor := 0, name := "door", enabled := true
      scripts := [⟨0, [.op 20 [], .op 10 [7], .op 39 [5]]⟩] }
  let start : Handler := ⟨9, [.op 20 [], .op 13 [3000], .op 21 []]⟩
  let holds (needed : Bool) (session : Session) : Bool :=
    session.updatesEnabled && session.card.any fun card =>
      card.needsPublish == needed && card.hotspots.hotspots.all (·.frame.isNumeric)
  have ran : ((Session.beginning "a" [(1, { hotspots := [door], scripts := [start] })]).after?
      [.message (.goto ⟨"a", 1⟩ none)]).any (fun before => holds false before
        && (before.after? [.message (.pointerMoved ⟨100, 200⟩), .message .pointerDown]).any (holds true)) = true := by
    decide +kernel
  obtain ⟨before, reachable, here⟩ := Session.exists_after "a" _ ran
  obtain ⟨here, goesOn⟩ := Bool.and_eq_true_iff.mp here
  obtain ⟨after, ended, there⟩ := (Option.any_eq_true ..).mp goesOn
  have reachable' := Reachable.of_after? reachable ended
  have opened {session : Session} {needed : Bool} (h : holds needed session = true) :
      session.updatesEnabled = true ∧ ∃ card, session.card = some card ∧ card.needsPublish = needed ∧ card.Numeric := by
    obtain ⟨enabled, h⟩ := Bool.and_eq_true_iff.mp h
    obtain ⟨card, isOpen, h⟩ := (Option.any_eq_true ..).mp h
    obtain ⟨needed, numeric⟩ := Bool.and_eq_true_iff.mp h
    exact ⟨enabled, card, isOpen, beq_iff_eq.mp needed, List.all_eq_true.mp numeric⟩
  obtain ⟨enabled, shown, isOpen, needless, numeric⟩ := opened here
  obtain ⟨enabled', card, isOpen', needed, numeric'⟩ := opened there
  obtain ⟨same, due⟩ := needsPublish_exact reachable .refl isOpen
  obtain ⟨same', due'⟩ := needsPublish_exact reachable' .refl isOpen'
  have stale : ¬ after.UpToDate card := fun upToDate => Bool.false_ne_true ((same'.mpr upToDate).symm.trans needed)
  obtain ⟨now, _, settled, _, _, upToDate, none⟩ := (due' enabled').settled numeric'
  exact ⟨before, after, shown, card, now, reachable, reachable',
    ⟨isOpen, numeric, same.mp needless, ((due enabled).unchanged (same.mp needless)).2.2⟩, isOpen', numeric', stale,
    ((due' enabled').changed stale).handedOver, settled, upToDate, none⟩

end Reachable

end Diorama
