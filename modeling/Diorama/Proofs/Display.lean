import Diorama.Proofs.CardCycle
import Diorama.Proofs.Upkeep

/-!
# What the display shows of the card

The display knows the open card by its last snapshot. After every command that goes on with the next one, a
snapshot is handed over if it would show something else, so between two events, while updates are enabled, the
last one should show the card as it is.

It does, but for one gap. A script that fails enables updates again, and no snapshot follows. What it had
changed out of sight is taken back only in part: the picture and the cursor are, but the movies and the sound
group stay as the player has them, and the hotspots stay as they were switched. Of these the display learns
with the next snapshot, whenever that comes. A chain of card changes that is cut off leaves the same gap, and
so does a script whose wait is aborted, and these take nothing back. `Happening.unseen` is what has happened
since the last snapshot, and so tells whether any of this is the case; `Reachable.display` says that nothing
else comes between the card and the display.

That a snapshot which would show nothing else shows the card as it is rests on the snapshot being one of this
very card, with its hotspots in their order (`CardFrame.Of`), since hotspots are compared place by place.
-/

namespace Diorama

/-! ## Snapshots -/

/-- A hotspot is shown as it is. Its place is the same, or it is equal as far as numbers go. -/
structure HotspotFrame.Shows (shown live : HotspotFrame) : Prop where
  id : shown.id = live.id
  enabled : shown.enabled = live.enabled
  frame : shown.frame = live.frame ∨ (shown.frame == live.frame) = true

/-- A snapshot is one of this card, whatever the card showed at the time. -/
structure CardFrame.Of (frame : CardFrame) (card : OpenCard) : Prop where
  location : frame.location = card.location
  name : frame.name = card.record.name
  ids : frame.hotspots.map (·.id) = card.hotspotFrames.map (·.id)

/-- A snapshot shows a card as it is. -/
structure CardFrame.Shows (frame : CardFrame) (card : OpenCard) : Prop extends frame.Of card where
  visual : frame.visual = card.visual
  hotspots : List.Forall₂ HotspotFrame.Shows frame.hotspots card.hotspotFrames

namespace OpenCard

/-- A snapshot that is taken now shows the card as it is, and goes on doing so once it is published. -/
theorem shows_snapshot (card : OpenCard) (generation : Nat) (published : Option CardFrame) :
    (card.snapshot generation).Shows { card with published } :=
  ⟨⟨rfl, rfl, rfl⟩, rfl, List.forall₂_same.mpr fun _ _ => ⟨rfl, rfl, .inl rfl⟩⟩

/-- The hotspots that a snapshot shows are those of the card, each at its place. -/
theorem forall₂_ids {card : OpenCard} {frame : CardFrame} (of : frame.Of card) :
    List.Forall₂ (fun shown live => shown.id = live.id) frame.hotspots card.hotspotFrames := by
  have same := List.forall₂_eq_eq_eq (α := UInt16) ▸ of.ids
  exact List.forall₂_map_right_iff.mp (List.forall₂_map_left_iff.mp same)

/-- A card that would show nothing else is shown as it is. -/
theorem shows_of_needsPublish {card : OpenCard} {frame : CardFrame} (published : card.published = some frame)
    (of : frame.Of card) (same : card.needsPublish = false) : frame.Shows card := by
  simp only [needsPublish, published, Bool.or_eq_false_iff, bne_eq_false_iff_eq] at same
  obtain ⟨visual, hotspots⟩ := same
  obtain ⟨length, ids⟩ := List.forall₂_iff_zip.mp (forall₂_ids of)
  refine ⟨of, visual, List.forall₂_iff_zip.mpr ⟨length, fun {shown live} among => ?_⟩⟩
  have equal := List.any_eq_false.mp hotspots (shown, live) among
  obtain ⟨enabled, frame⟩ : shown.enabled = live.enabled ∧ (shown.frame == live.frame) = true := by
    simpa [differs, bne] using equal
  exact ⟨ids among, enabled, .inr frame⟩

end OpenCard

/-! ## Whose snapshot it is -/

/-- What the open card has published last is a snapshot of it. -/
def Session.Portrayed (session : Session) : Prop :=
  ∀ card frame, session.card = some card → card.published = some frame → frame.Of card

/-- A snapshot stays one of the card, as long as the card publishes no other and keeps its hotspots. -/
theorem Session.Portrayed.map {session later : Session} {change : OpenCard → OpenCard}
    (h : session.Portrayed) (card : later.card = session.card.map change)
    (published : ∀ card, (change card).published = card.published)
    (keeps : ∀ card frame, CardFrame.Of frame card → CardFrame.Of frame (change card)) : later.Portrayed := by
  intro other frame isOpen shown
  rw [card] at isOpen
  obtain ⟨original, there, rfl⟩ := Option.map_eq_some_iff.mp isOpen
  rw [published] at shown
  exact keeps original frame (h original frame there shown)

/-- A script shows only the card that is open, and leaves its hotspots in their places. -/
theorem ScriptAct.portrayed {session later : Session} (act : ScriptAct session later)
    (h : session.Portrayed) : later.Portrayed := by
  cases act with
  | @setHotspot card hotspots id enabled isOpen found =>
    intro other frame there published
    cases there
    have of := h card frame isOpen published
    have same := congrArg (List.map Hotspot.id) (HotspotTable.map_fixed_of_setEnabled? found)
    rw [List.map_map, List.map_map] at same
    refine ⟨of.location, of.name, of.ids.trans ?_⟩
    simp only [OpenCard.hotspotFrames, List.map_map]
    exact same.symm
  | setVisual change => exact h.map rfl (fun _ => rfl) fun _ _ of => ⟨of.location, of.name, of.ids⟩
  | shows enabled =>
    unfold Session.showCard
    split
    next => exact h
    next card isOpen =>
      intro other frame there published
      cases there
      cases published
      exact (card.shows_snapshot _ _).toOf
  | fails label error => exact h.map rfl (fun _ => rfl) fun _ _ of => ⟨of.location, of.name, of.ids⟩
  | _ => exact h

/-- A card that is opened has not been shown yet, and is not mistaken for the one before. -/
theorem EngineAct.portrayed {session later : Session} (act : EngineAct session later)
    (h : session.Portrayed) : later.Portrayed := by
  cases act with
  | script act => exact act.portrayed h
  | closes =>
    intro card frame isOpen
    rw [session.closeCard_card] at isOpen
    cases isOpen
  | opens location closed key loaded =>
    rintro card frame isOpen published
    cases isOpen
    rw [(OpenCard.loaded_of_load loaded).published] at published
    cases published
  | resizes viewport =>
    refine h.map rfl (fun _ => rfl) fun card frame of => ⟨of.location, of.name, of.ids.trans ?_⟩
    simp only [OpenCard.hotspotFrames, HotspotTable.resize, List.map_map]
    rfl
  | _ => exact h

/-- So at any moment what was published last of the open card is a snapshot of it. -/
theorem EngineChain.portrayed {session later : Session} (chain : EngineChain session later)
    (h : session.Portrayed) : later.Portrayed :=
  chain.keeps EngineAct.portrayed h

/-! ## In step -/

namespace Happening

/-- Nothing has been cut short: no chain of card changes, and no wait. -/
structure Whole (happenings : List Happening) : Prop where
  uncut : .cutOff ∉ happenings
  unaborted : ∀ code, .answered code .aborted ∉ happenings

/-- What is whole in a longer stretch is whole in each part of it. -/
theorem Whole.of_subset {happenings later : List Happening} (whole : Whole later)
    (among : happenings ⊆ later) : Whole happenings :=
  ⟨fun cut => whole.uncut (among cut), fun code aborted => whole.unaborted code (among aborted)⟩

def cutsShort : Happening → Bool
  | .cutOff | .answered _ .aborted => true
  | _ => false

/-- That nothing was cut short can be found out one happening at a time. -/
theorem whole_of_all {happenings : List Happening} (all : happenings.all (!·.cutsShort) = true) :
    Whole happenings where
  uncut cut := absurd (List.all_eq_true.mp all _ cut) Bool.false_ne_true
  unaborted _ aborted := absurd (List.all_eq_true.mp all _ aborted) Bool.false_ne_true

def isFailure : Happening → Bool
  | .updates .failed => true
  | _ => false

end Happening

/-- A snapshot shows a card as it is, but for what a script has left behind that failed since. -/
structure CardFrame.Follows (frame : CardFrame) (card : OpenCard) (unseen : List Happening) : Prop where
  picture : frame.visual.picture = card.visual.picture
  cursor : frame.visual.cursor = card.visual.cursor
  shows : .updates .failed ∉ unseen → frame.Shows card

namespace Session

/-- What the open card has published last follows it, while updates are enabled and nothing has been cut
short since. -/
def InStep (session : Session) : Prop :=
  session.tornDown = false → session.updatesEnabled = true →
    Happening.Whole (Happening.unseen session.transcript) →
      ∀ card frame, session.card = some card → card.published = some frame →
        frame.Follows card (Happening.unseen session.transcript)

namespace InStep

variable {session later : Session}

/-- Of a session that was stopped nothing is claimed. -/
theorem of_stopped (stopped : session.Stopped) : session.InStep := by
  intro up _ whole
  obtain down | ⟨code, aborted⟩ := stopped
  · exact absurd (up.symm.trans down) Bool.false_ne_true
  · exact absurd aborted (whole.unaborted code)

/-- Without a card nothing has to be shown. -/
theorem of_closed (closed : session.card = none) : session.InStep := by
  intro _ _ _ card _ isOpen
  rw [closed] at isOpen
  cases isOpen

/-- A card that is shown as it is, is in step. -/
theorem of_shows (shows : ∀ card frame, session.card = some card → card.published = some frame →
    frame.Shows card) : session.InStep := by
  intro _ _ _ card frame isOpen published
  have same := shows card frame isOpen published
  exact ⟨congrArg _ same.visual, congrArg _ same.visual, fun _ => same⟩

/-- What concerns neither the card nor the permission to show it. -/
theorem carried (h : session.InStep) (card : later.card = session.card)
    (enabled : later.updatesEnabled = session.updatesEnabled)
    (up : later.tornDown = false → session.tornDown = false)
    (unseen : Happening.unseen session.transcript ⊆ Happening.unseen later.transcript) : later.InStep := by
  intro standing allowed whole there frame isOpen published
  rw [card] at isOpen
  rw [enabled] at allowed
  have before := h (up standing) allowed (whole.of_subset unseen) there frame isOpen published
  exact ⟨before.picture, before.cursor, fun unfailed => before.shows fun failed => unfailed (unseen failed)⟩

/-- Picture and cursor are taken back to what the display shows, and the rest is not. -/
theorem scriptFailed (session : Session) (label : String) (error : ScriptError) :
    (session.scriptFailed label error).InStep := by
  intro _ _ _ card frame isOpen published
  obtain ⟨original, there, rfl⟩ := Option.map_eq_some_iff.mp isOpen
  have shown : original.published = some frame := published
  refine ⟨?_, ?_, fun unfailed => absurd List.mem_cons_self unfailed⟩
  · simp [OpenCard.discardUnpublished, shown]
  · simp [OpenCard.discardUnpublished, shown]

end InStep

/-- Requests leave the card alone. -/
theorem card_flushHeld (session : Session) : session.flushHeld.card = session.card :=
  look_flushHeld (·.card) (fun _ _ => rfl) (fun _ => rfl) session

/-- After a snapshot the display shows the card as it is. -/
theorem publish_inStep (session : Session) : session.publish.InStep := by
  refine .of_shows fun card frame isOpen published => ?_
  rw [publish, card_flushHeld, showCard] at isOpen
  split at isOpen
  next closed =>
    rw [closed] at isOpen
    cases isOpen
  next original _ =>
    cases isOpen
    cases published
    exact original.shows_snapshot _ _

/-- If no snapshot is needed, the last one still shows the card as it is. -/
theorem publishIfNeeded_inStep {session : Session} (portrayed : session.Portrayed) :
    session.publishIfNeeded.InStep := by
  unfold publishIfNeeded
  split
  next enabled =>
    split
    next => exact session.publish_inStep
    next needless =>
      refine .of_shows fun card frame isOpen published => ?_
      rw [card_flushHeld] at isOpen
      have same : card.needsPublish = false := by simpa [isOpen] using needless
      exact card.shows_of_needsPublish published (portrayed card frame isOpen published) same
  next disabled => exact fun _ enabled => absurd enabled disabled

end Session

/-! ## Scripts -/

namespace Script

open Session

/-- After each command that goes on with the next, the display is brought up to date. -/
theorem runEach_inStep {run : Command → Script Flow} (does : ∀ command, Does DeedChain (run command))
    (commands : List Command) {session : Session} (portrayed : session.Portrayed) :
    (runEach run commands session).Sat (fun _ => True) fun later result =>
      session.InStep → result = .ok .next → later.InStep := by
  induction commands generalizing session with
  | nil => exact fun inStep _ => inStep
  | cons command rest ih =>
    unfold runEach
    rw [get_bind]
    split
    next => exact fun _ same => by cases same
    next live =>
      rw [modify_bind]
      have begins : ScriptAct session (session.begin command) := .begins command (Bool.eq_false_iff.mpr live)
      have portrayed : (session.begin command).Portrayed := begins.chain.engine.portrayed portrayed
      have done := (does command (session.begin command)).mono (fun _ _ => trivial) fun _ _ => id
      refine sat_bind_of done (fun between flow deeds => ?_) fun _ _ _ _ same => by cases same
      cases flow with
      | next =>
        have kept : between.Portrayed := deeds.script.engine.portrayed portrayed
        have shown := publishIfNeeded_inStep kept
        dsimp only
        rw [modify_bind]
        refine (ih (between.publishIfNeeded_chain.engine.portrayed kept)).imp ?_
        exact fun later result onward _ => onward shown
      | goto target => exact fun _ same => by cases same
      | halt => exact fun _ same => by cases same

/-- A list that runs to its end leaves the card in step. -/
theorem runList_inStep (room : Nat) (commands : List Command) {session : Session}
    (portrayed : session.Portrayed) : (runList room commands session).Sat (fun _ => True) fun later result =>
      session.InStep → result = .ok .next → later.InStep := by
  cases room with
  | zero => exact fun _ same => by cases same
  | succ room => exact runEach_inStep (runCommand_does (runList_does room)) commands portrayed

/-- A script that asks for no card change leaves the display in step, however it has ended. -/
theorem runScript_inStep (label : String) (commands : List Command) {session : Session}
    (portrayed : session.Portrayed) : (runScript label commands session).Sat (fun _ => True) fun later result =>
      session.InStep → result = .ok none → later.InStep := by
  have inStep := runList_inStep (maxScriptDepth + 1) commands portrayed
  have halts := runList_halts (maxScriptDepth + 1) commands session
  have both := (inStep.and halts).mono (fun _ _ => trivial) fun _ _ => id
  unfold runScript
  refine sat_attempt_bind_of both fun later result ends => ?_
  cases result with
  | error error => exact fun _ _ => .scriptFailed later label error
  | ok flow =>
    cases flow with
    | next => exact fun before _ => ends.1 before rfl
    | goto target => exact fun _ same => by cases same
    | halt => exact fun _ _ => .of_stopped (ends.2 rfl)

end Script

/-! ## Every run -/

namespace Session

/-- A world that stands now has not been torn down before. -/
theorem tornDown_suffer (session : Session) (act : Outside) (up : (session.suffer act).tornDown = false) :
    session.tornDown = false := by
  cases act with
  | tearDown => exact absurd up.symm Bool.false_ne_true
  | _ => exact up

/-- What the display has not seen stays unseen, whatever others do. -/
theorem unseen_suffer (session : Session) (act : Outside) :
    Happening.unseen session.transcript ⊆ Happening.unseen (session.suffer act).transcript := by
  cases act with
  | drain => exact List.subset_cons_self _ _
  | preload key => exact List.subset_cons_self _ _
  | _ => exact List.Subset.refl _

/-- Scripts leave the card in step, and those that fail leave it as a failure may. -/
theorem display_scriptUpkeep :
    ScriptUpkeep (fun session => session.resolver.Sound ∧ session.Portrayed) (fun _ => True)
      (fun _ => True) InStep where
  act act a := ⟨act.sound a.1, act.portrayed a.2⟩
  owes _ _ := trivial
  script label commands a _ := (Script.runScript_inStep label commands a.2).imp fun _ _ kept => ⟨trivial, kept⟩

/-- Whatever an event does, between two events the card is in step with the display. -/
theorem display_upkeep : Upkeep (fun session => session.resolver.Sound ∧ session.Portrayed) (fun _ => True)
    (fun _ => True) InStep where
  toScriptUpkeep := display_scriptUpkeep
  sound a := a.1
  hover a h := by
    refine display_scriptUpkeep.refreshHover_sat ?_ ?_ a h
    · exact fun notice _ _ h => InStep.carried h rfl rfl id (List.subset_cons_self _ _)
    · exact fun hit _ h => InStep.carried h rfl rfl id (List.Subset.refl _)
  leaves _ _ _ := trivial
  closes {session} _ _ _ := .of_closed session.closeCard_card
  opens _ _ _ _ _ _ := trivial
  reveals _ _ _ _ _ _ _ _ := publish_inStep _
  resolves _ _ _ := trivial
  refuses _ error _ _ := .scriptFailed _ "goto" error
  cutsOff _ _ _ _ whole := absurd List.mem_cons_self whole.uncut
  suffers {session} act _ h :=
    InStep.carried h rfl rfl (session.tornDown_suffer act) (session.unseen_suffer act)
  points _ _ h := InStep.carried h rfl rfl id (List.Subset.refl _)
  presses _ _ h := InStep.carried h rfl rfl id (List.Subset.refl _)
  resizes viewport a _ := publishIfNeeded_inStep ((EngineAct.resizes viewport).portrayed a.2)
  takesCues _ h := InStep.carried h rfl rfl id (List.subset_cons_self _ _)
  firesCue _ _ h := InStep.carried h rfl rfl id (List.subset_cons_self _ _)
  putsVariables _ _ h := InStep.carried h rfl rfl id (List.Subset.refl _)
  restores _ h := InStep.carried h rfl rfl id (List.subset_cons_self _ _)
  finishes code a _ _ := by
    refine publishIfNeeded_inStep ?_
    exact (EngineAct.recorded (.movieFinished code) trivial).portrayed ((ScriptAct.setVisual _).portrayed a.2)

end Session

namespace Reachable

/-- Between two events, if the world is up, updates are enabled, and since the last snapshot no card change
has been cut off and no wait aborted: what is on display is a snapshot of the open card, and shows its picture
and its cursor; and it shows the card as it is, sound group, movies and hotspots, unless a script has failed
since and the card needs to publish. -/
theorem display {session : Session} {result : Except ScriptError Unit}
    (reachable : Reachable (.done session result)) (up : session.tornDown = false)
    (enabled : session.updatesEnabled = true) (whole : Happening.Whole (Happening.unseen session.transcript))
    {card : OpenCard} (isOpen : session.card = some card) :
    ∃ frame, session.frames.latest = some frame ∧ frame.Of card ∧
      frame.visual.picture = card.visual.picture ∧ frame.visual.cursor = card.visual.cursor ∧
      (.updates .failed ∉ Happening.unseen session.transcript ∨ card.needsPublish = false →
        frame.Shows card) := by
  obtain ⟨frame, published⟩ := Option.isSome_iff_exists.mp (reachable.shown rfl card isOpen)
  have upheld := reachable.upheld Session.display_upkeep fun config provider player =>
    ⟨⟨.empty provider 0, fun _ _ isOpen => nomatch isOpen⟩, .of_closed rfl⟩
  have follows := upheld.2 up enabled whole card frame isOpen published
  have of := upheld.1.2 card frame isOpen published
  refine ⟨frame, (reachable.orderly.latest card frame isOpen published).1, of, follows.picture, follows.cursor, ?_⟩
  rintro (unfailed | same)
  · exact follows.shows unfailed
  · exact card.shows_of_needsPublish published of same

/-- A start script changes the cursor out of sight and enables updates again: the card is shown as it is. Then
the script of a hotspot changes the cursor and disables the hotspot, out of sight, and fails: the cursor is as
before, and the hotspot is shown to be enabled. -/
theorem display_failed : ∃ before after : Session,
    Reachable (.done before (.ok ())) ∧ Reachable (.done after (.ok ())) ∧
    (∃ card frame, before.card = some card ∧ before.frames.latest = some frame ∧ frame.Shows card ∧
      card.visual.cursor = some 3000) ∧
    ∃ card frame, after.card = some card ∧ after.frames.latest = some frame ∧ after.updatesEnabled = true ∧
      frame.visual.cursor = card.visual.cursor ∧
      frame.hotspots.map (·.enabled) = [true] ∧ card.hotspotFrames.map (·.enabled) = [false] := by
  let door : HotspotRecord :=
    { id := 7, rect := ⟨0, 0, 608, 392⟩, cursor := 0, name := "door", enabled := true
      scripts := [⟨0, [.op 20 [], .op 13 [1], .op 10 [7], .op 39 [5]]⟩] }
  let start : Handler := ⟨9, [.op 20 [], .op 13 [3000], .op 21 []]⟩
  let whole (session : Session) : Bool :=
    session.tornDown == false && session.updatesEnabled
      && (Happening.unseen session.transcript).all (!·.cutsShort)
  let shown (session : Session) : Bool :=
    (Happening.unseen session.transcript).all (!·.isFailure)
      && session.card.any (·.visual.cursor == some 3000)
  let hidden (session : Session) : Bool :=
    session.frames.latest.any (fun frame => frame.hotspots.map (·.enabled) == [true])
      && session.card.any fun card => card.hotspotFrames.map (·.enabled) == [false]
  have ran : ((Session.beginning "a" [(1, { hotspots := [door], scripts := [start] })]).after?
      [.message (.goto ⟨"a", 1⟩ none)]).any (fun before => whole before && shown before
        && (before.after? [.message (.pointerMoved ⟨100, 200⟩), .message .pointerDown]).any fun after =>
          whole after && hidden after) = true := by decide +kernel
  obtain ⟨before, reachable, here⟩ := Session.exists_after "a" _ ran
  obtain ⟨here, goesOn⟩ := Bool.and_eq_true_iff.mp here
  obtain ⟨after, ended, there⟩ := (Option.any_eq_true ..).mp goesOn
  have reachable' := Reachable.of_after? reachable ended
  have settled {session : Session} (h : whole session = true) : session.tornDown = false ∧
      session.updatesEnabled = true ∧ Happening.Whole (Happening.unseen session.transcript) := by
    simp only [whole, Bool.and_eq_true, beq_iff_eq] at h
    exact ⟨h.1.1, h.1.2, Happening.whole_of_all h.2⟩
  refine ⟨before, after, reachable, reachable', ?_, ?_⟩
  · obtain ⟨settledHere, shown⟩ := Bool.and_eq_true_iff.mp here
    obtain ⟨up, enabled, uncut⟩ := settled settledHere
    obtain ⟨unfailed, cursor⟩ := Bool.and_eq_true_iff.mp shown
    obtain ⟨card, isOpen, same⟩ := (Option.any_eq_true ..).mp cursor
    obtain ⟨frame, latest, _, _, _, shows⟩ := display reachable up enabled uncut isOpen
    have kept : .updates .failed ∉ Happening.unseen before.transcript :=
      fun failed => absurd (List.all_eq_true.mp unfailed _ failed) Bool.false_ne_true
    exact ⟨card, frame, isOpen, latest, shows (.inl kept), beq_iff_eq.mp same⟩
  · obtain ⟨settledThere, hidden⟩ := Bool.and_eq_true_iff.mp there
    obtain ⟨up, enabled, uncut⟩ := settled settledThere
    obtain ⟨shown, live⟩ := Bool.and_eq_true_iff.mp hidden
    obtain ⟨card, isOpen, disabled⟩ := (Option.any_eq_true ..).mp live
    obtain ⟨frame, latest, _, _, cursor, _⟩ := display reachable' up enabled uncut isOpen
    rw [latest, Option.any_some, beq_iff_eq] at shown
    exact ⟨card, frame, isOpen, latest, enabled, cursor, shown, beq_iff_eq.mp disabled⟩

end Reachable

end Diorama
