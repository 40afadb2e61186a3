import Diorama.Proofs.Pairing
import Diorama.Proofs.Window

/-!
# A card that is out of sight

Where the window has no room for the card, nothing is shown: the frame is the zero rectangle, and so is the
rectangle of the window that each hotspot keeps. The pointer is tested on the card, though, and there a test does
find something. The mapper takes every point of the window to the card's origin (`Mapper.Hides.pointToCard`), and
the origin is a point like any other. So a hotspot that has the origin in its rectangle is hit wherever the pointer
is; it is entered, and its scripts run.

It is only these hotspots that are. `Reachable.out_of_sight` says so of every run, whose mapper always is one made
for some size of the window (`Ran.mapper_eq`): while nothing is shown, the pointer is in no hotspot that has not
got the origin, no other one is entered, and if the open card has none of them, the events of the pointer come to
nothing. `Reachable.out_of_sight_entered` is a run in which a hotspot without area is entered.

An event that resizes the window finds the tracker as it was before, when the card was to be seen. So the
invariant is not there when this event begins, and the first test of the pointer brings it about
(`Script.refreshHover_blind`); all other events keep it (`Session.blind_upkeep`).
-/

namespace Diorama

/-- The upper left corner of the card, or the lower left one of the window. -/
def Point.origin {R : Type} [Coordinate R] : Point R :=
  ⟨Coordinate.zero, Coordinate.zero⟩

/-! ## Mappers that show nothing -/

/-- A window without area leaves no room for anything. -/
theorem effectiveFrame_of_degenerate {R : Type} [Coordinate R] {viewport card : Size R} {margin : R}
    (degenerate : viewport.isDegenerate = true) : effectiveFrame viewport card margin = .zero := by
  unfold effectiveFrame
  exact if_pos (by rw [degenerate]; rfl)

namespace Mapper

variable {R : Type} [Coordinate R] {mapper : Mapper R}

/-- Nothing of the card is shown. -/
def Hides (mapper : Mapper R) : Prop :=
  mapper.scale? = none

/-- All rectangles of a card that is hidden lie at nothing. -/
theorem Hides.toWindow (hides : mapper.Hides) (rect : CardRect R) : mapper.toWindow rect = .zero := by
  rw [Mapper.toWindow, hides]

/-- All points of the window are the origin of a card that is hidden. -/
theorem Hides.pointToCard (hides : mapper.Hides) (point : Point R) : mapper.pointToCard point = .origin := by
  rw [Mapper.pointToCard, Mapper.toCard, hides]
  rfl

/-- A frame without area shows nothing. -/
theorem hides_of_frame {mapper : Mapper Float32} (frame : mapper.frame = .zero) : mapper.Hides := by
  have flat : Coordinate.below (Coordinate.zero : Float32) Coordinate.zero = false := by decide +kernel
  rw [Hides, scale?, frame]
  exact if_neg (by simp [Rect.zero, flat])

end Mapper

/-! ## Hotspots at the origin -/

/-- The card's origin lies in the hotspot. -/
def Hotspot.AtOrigin {R : Type} [Coordinate R] (hotspot : Hotspot R) : Prop :=
  hotspot.rect.contains .origin = true

namespace HotspotTable

variable {R : Type} [Coordinate R] {table : HotspotTable R} {mapper : Mapper R}

/-- Wherever the pointer is, the first enabled hotspot at the origin is hit. -/
theorem hitWindow?_of_hides (hides : mapper.Hides) (point : Point R) :
    table.hitWindow? mapper point = table.hit? .origin := by
  rw [hitWindow?, hides.pointToCard]

/-- What is hit is one of the hotspots. -/
theorem mem_of_hit? {point : Point R} {hotspot : Hotspot R} (hit : table.hit? point = some hotspot) :
    hotspot ∈ table.hotspots :=
  List.mem_of_mem_filter (List.mem_of_find?_eq_some hit)

/-- What is hit at the origin is enabled and contains the origin. -/
theorem atOrigin_of_hit? {hotspot : Hotspot R} (hit : table.hit? .origin = some hotspot) : hotspot.AtOrigin := by
  have here := List.find?_some hit
  exact here

/-- The origin hits nothing if no enabled hotspot has it. -/
theorem hit?_eq_none_iff : table.hit? .origin = none ↔ ∀ hotspot ∈ table.active, ¬ hotspot.AtOrigin :=
  List.find?_eq_none

end HotspotTable

namespace Session

variable {session later : Session}

/-- On a card that is hidden only a hotspot at the origin can be under the pointer. -/
theorem atOrigin_of_hotspotUnderPointer (hides : session.mapper.Hides) {hotspot : Hotspot Float32}
    (under : session.hotspotUnderPointer = some hotspot) : hotspot.AtOrigin := by
  obtain ⟨card, _, hitCard⟩ := Option.bind_eq_some_iff.mp under
  obtain ⟨point, _, hitTable⟩ := Option.bind_eq_some_iff.mp hitCard
  rw [HotspotTable.hitWindow?_of_hides hides] at hitTable
  exact HotspotTable.atOrigin_of_hit? hitTable

/-- The hotspot that the pointer is in has the card's origin. -/
def TracksOrigin (session : Session) : Prop :=
  ∀ index, session.tracker.active = some index →
    ∃ card hotspot, session.card = some card ∧ card.hotspots.get? index = some hotspot ∧ hotspot.AtOrigin

/-- Where nothing is tracked there is nothing to be said. -/
theorem tracksOrigin_of_none (nowhere : session.tracker.active = none) : session.TracksOrigin := by
  intro index active
  rw [nowhere] at active
  cases active

/-- The pointer is in no hotspot if it can be in none that has the origin. -/
theorem TracksOrigin.nowhere (tracks : session.TracksOrigin)
    (absent : ∀ index card hotspot, session.tracker.active = some index → session.card = some card →
      card.hotspots.get? index = some hotspot → ¬ hotspot.AtOrigin) : session.tracker.active = none := by
  rw [Option.eq_none_iff_forall_ne_some]
  intro index active
  obtain ⟨card, hotspot, isOpen, found, origin⟩ := tracks index active
  exact absent index card hotspot active isOpen found origin

/-- A test of the pointer finds hotspots at the origin, whatever the pointer was in before. -/
theorem tracksOrigin_tested (numbered : session.Numbered) (hides : session.mapper.Hides) :
    session.tested.TracksOrigin := by
  intro index active
  obtain ⟨card, hotspot, isOpen, found, under⟩ := hotspotUnderPointer_of_hitIndex numbered active
  exact ⟨card, hotspot, isOpen, found, atOrigin_of_hotspotUnderPointer hides under⟩

/-- Scripts leave a hotspot where it is. -/
theorem Continues.tracksOrigin (h : session.Continues later) (tracks : session.TracksOrigin) :
    later.TracksOrigin := by
  intro index active
  rw [h.tracker] at active
  obtain ⟨card, hotspot, isOpen, found, origin⟩ := tracks index active
  have related := h.card
  rw [isOpen] at related
  generalize there : later.card = after at related
  cases related with
  | @some _ card' continues =>
    have same := congrArg (·[index.toNat]?) continues.hotspots
    simp only [List.getElem?_map] at same
    have kept : card.hotspots.hotspots[index.toNat]? = some hotspot := found
    rw [kept] at same
    obtain ⟨hotspot', found', fixed⟩ := Option.map_eq_some_iff.mp same
    have rect : hotspot'.fixed.rect = hotspot.fixed.rect := congrArg _ fixed
    exact ⟨card', hotspot', rfl, found', by
      rwa [Hotspot.AtOrigin, show hotspot'.rect = hotspot.rect from rect]⟩

end Session

/-! ## Entries -/

/-- If it says that a hotspot is entered, the hotspot has the card's origin. -/
def Happening.EntersOrigin : Happening → Prop
  | .recorded (.hotspotEntered hotspot) => hotspot.AtOrigin
  | _ => True

/-- Scripts enter no hotspots. -/
theorem Happening.OfScript.entersOrigin {happening : Happening} (ofScript : happening.OfScript) :
    happening.EntersOrigin := by
  cases happening with
  | recorded notice => cases notice <;> trivial
  | _ => trivial

namespace Session

/-- Nothing is shown, the pointer is in no hotspot but one at the origin, and no other one has been entered since
the transcript was `old`. -/
structure Blind (old : List Happening) (session : Session) : Prop where
  hides : session.mapper.Hides
  tracks : session.TracksOrigin
  entries : ∃ during, session.transcript = during ++ old ∧ ∀ happening ∈ during, happening.EntersOrigin

namespace Blind

variable {old : List Happening} {session later : Session} (h : session.Blind old)
include h

/-- What is added to the transcript is added to what has been added since it was `old`. -/
theorem grows {during : List Happening} (transcript : later.transcript = during ++ session.transcript)
    (enters : ∀ happening ∈ during, happening.EntersOrigin) :
    ∃ during, later.transcript = during ++ old ∧ ∀ happening ∈ during, happening.EntersOrigin := by
  obtain ⟨before, split, earlier⟩ := h.entries
  refine ⟨during ++ before, by rw [transcript, split, List.append_assoc], fun happening among => ?_⟩
  rcases List.mem_append.mp among with among | among
  · exact enters happening among
  · exact earlier happening among

/-- Scripts leave the window and the tracker alone. -/
theorem script (chain : ScriptChain session later) : later.Blind old := by
  obtain ⟨during, transcript, ofScript⟩ := chain.notes
  refine ⟨chain.continues.mapper ▸ h.hides, chain.continues.tracksOrigin h.tracks, ?_⟩
  exact h.grows transcript fun happening among => (ofScript happening among).entersOrigin

/-- Something that concerns neither the window nor the card nor the tracker. -/
theorem of (mapper : later.mapper = session.mapper) (card : later.card = session.card)
    (tracker : later.tracker = session.tracker) (during : List Happening)
    (transcript : later.transcript = during ++ session.transcript)
    (enters : ∀ happening ∈ during, happening.EntersOrigin) : later.Blind old := by
  refine ⟨mapper ▸ h.hides, ?_, h.grows transcript enters⟩
  intro index active
  rw [tracker] at active
  rw [card]
  exact h.tracks index active

/-- Something that concerns none of it, and that is not noted. -/
theorem still (mapper : later.mapper = session.mapper) (card : later.card = session.card)
    (tracker : later.tracker = session.tracker) (transcript : later.transcript = session.transcript) :
    later.Blind old :=
  h.of mapper card tracker [] transcript nofun

/-- Something that concerns none of it, and that is noted. -/
theorem noted (happening : Happening) (mapper : later.mapper = session.mapper)
    (card : later.card = session.card) (tracker : later.tracker = session.tracker)
    (transcript : later.transcript = happening :: session.transcript) (enters : happening.EntersOrigin) :
    later.Blind old :=
  h.of mapper card tracker [happening] transcript (List.forall_mem_singleton.mpr enters)

/-- A card that is closed is tracked no more. -/
theorem closeCard (isOpen : session.card.isSome = true) : session.closeCard.Blind old := by
  obtain ⟨card, isOpen⟩ := Option.isSome_iff_exists.mp isOpen
  obtain ⟨player, same⟩ := closeCard_of_some isOpen
  have stopped : ∀ happening ∈ .recorded (.cardClosed card.location) :: .updates .closed
      :: ((playing card).map Happening.stopped).reverse, happening.EntersOrigin := by
    simp only [List.mem_cons, List.mem_reverse, List.mem_map]
    rintro happening (rfl | rfl | ⟨media, _, rfl⟩) <;> trivial
  rw [same]
  exact ⟨h.hides, tracksOrigin_of_none rfl, h.grows rfl stopped⟩

/-- A card that is opened is not tracked yet. -/
theorem arrived (closed : session.card = none) (location : Location) (card : OpenCard) :
    (session.arrived location card).Blind old := by
  have opened : ∀ happening ∈ [Happening.updates .opened, .recorded (.cardOpened location)],
      happening.EntersOrigin := by
    simp [Happening.EntersOrigin]
  have nowhere : session.tracker.active = none := by
    refine h.tracks.nowhere fun index card hotspot active isOpen => ?_
    rw [closed] at isOpen
    cases isOpen
  exact ⟨h.hides, tracksOrigin_of_none nowhere, h.grows rfl opened⟩

end Blind

end Session

/-! ## Tests of the pointer -/

namespace Script

open Session

variable {old : List Happening} {session : Session}

/-- The script of a hotspot does not see where the pointer is. -/
theorem runHotspotScript_blind (index : UInt16) (trigger : Trigger) (h : session.Blind old) :
    (runHotspotScript index trigger session).Sat (Blind old) fun later result =>
      ∃ pending, result = .ok pending ∧ later.Blind old ∧ later.tracker = session.tracker := by
  have runs := runHotspotScript_runs index trigger
  refine ((runs.script session).and (runs.unfailing session)).mono (fun _ both => h.script both.1) ?_
  rintro later result ⟨chain, pending, same⟩
  exact ⟨pending, same, h.script chain, chain.continues.tracker⟩

/-- An entry is recorded, and then the hotspot's script runs. -/
theorem makeMove_entered {index : UInt16} {hotspot : Hotspot Float32}
    (found : session.card.bind (·.hotspots.get? index) = some hotspot) : makeMove (.entered index) session =
      runHotspotScript index .mouseEnter (session.record (.hotspotEntered hotspot)) := by
  unfold makeMove
  dsimp only
  rw [get_bind, found]
  rfl

/-- A move is made known. If it is an entry, it is that into the hotspot that the pointer is in. -/
theorem makeMove_blind {move : HotspotMove} (h : session.Blind old)
    (enters : ∀ index, move = .entered index → session.tracker.active = some index) :
    (makeMove move session).Sat (Blind old) fun later result =>
      ∃ pending, result = .ok pending ∧ later.Blind old ∧ later.tracker = session.tracker := by
  cases move with
  | exited index =>
    unfold makeMove
    dsimp only
    rw [get_bind]
    cases session.card.bind (·.hotspots.get? index) with
    | none => exact runHotspotScript_blind index .mouseExit h
    | some hotspot =>
      have left : (session.record (.hotspotExited hotspot)).Blind old :=
        h.noted (.recorded (.hotspotExited hotspot)) rfl rfl rfl rfl trivial
      exact runHotspotScript_blind index .mouseExit left
  | entered index =>
    obtain ⟨card, hotspot, isOpen, found, origin⟩ := h.tracks index (enters index rfl)
    have here : session.card.bind (·.hotspots.get? index) = some hotspot := by rw [isOpen, Option.bind_some, found]
    have entered : (session.record (.hotspotEntered hotspot)).Blind old :=
      h.noted (.recorded (.hotspotEntered hotspot)) rfl rfl rfl rfl origin
    rw [makeMove_entered here]
    exact runHotspotScript_blind index .mouseEnter entered

/-- Each entry that is made known is that of the hotspot being tracked, which is at the origin. -/
theorem makeMoves_blind {moves : List HotspotMove} (h : session.Blind old)
    (enters : ∀ index, .entered index ∈ moves → session.tracker.active = some index) :
    (makeMoves moves session).Sat (Blind old) fun later _ => later.Blind old := by
  induction moves generalizing session with
  | nil => exact h
  | cons move rest ih =>
    have first := makeMove_blind h fun index same => enters index (same ▸ List.mem_cons_self)
    refine sat_bind_ok first fun later pending ⟨blind, tracker⟩ => ?_
    cases pending with
    | some target => exact blind
    | none => exact ih blind fun index among => tracker ▸ enters index (List.mem_cons_of_mem _ among)

/-- Whatever the pointer was in before, a test of it enters nothing but what is at the origin. -/
theorem refreshHover_blind (numbered : session.Numbered) (hides : session.mapper.Hides)
    (entries : ∃ during, session.transcript = during ++ old ∧ ∀ happening ∈ during, happening.EntersOrigin) :
    (refreshHover session).Sat (Blind old) fun later _ => later.Blind old := by
  have tested : session.tested.Blind old := ⟨hides, tracksOrigin_tested numbered hides, entries⟩
  have enters (index : UInt16) (among : .entered index ∈ session.tracker.moves session.hitIndex) :
      session.tested.tracker.active = some index := by
    change session.hitIndex = some index
    unfold HotspotTracker.moves at among
    split at among
    next => cases among
    next =>
      rcases List.mem_append.mp among with left | entered
      · obtain ⟨_, _, same⟩ := Option.map_eq_some_iff.mp (Option.mem_toList.mp left)
        cases same
      · obtain ⟨next, hit, same⟩ := Option.map_eq_some_iff.mp (Option.mem_toList.mp entered)
        cases same
        exact hit
  exact makeMoves_blind tested enters

end Script

/-! ## The pointer's own events -/

namespace Script

open Session

variable {session : Session}

/-- Where the pointer is in no hotspot and under it there is none, settling has nothing to do. -/
theorem settle_of_nowhere (nowhere : session.tracker.active = none) (hit : session.hitIndex = none) :
    settle none session = .done session (.ok ()) := by
  have same : session.tested = session := by
    rw [Session.tested, hit, HotspotTracker.moveTo, ← nowhere]
  change ((makeMoves (session.tracker.moves session.hitIndex) >>= _ : Script Unit) session.tested) = _
  rw [HotspotTracker.moves, if_pos (hit.trans nowhere.symm), same]
  rfl

/-- Where no hotspot is tracked none can be clicked. -/
theorem runActiveHotspot_of_nowhere (nowhere : session.tracker.active = none) (trigger : Trigger) :
    runActiveHotspot trigger session = .done session (.ok none) := by
  unfold runActiveHotspot
  rw [get_bind, nowhere]
  rfl

/-- Where nothing is shown and the pointer is in no hotspot, the first thing that comes of a move of the pointer
is that it enters the hotspot at the origin. -/
theorem pointerMoved_enters {card : OpenCard} {hotspot : Hotspot Float32} (sound : session.resolver.Sound)
    (numbered : session.Numbered) (hides : session.mapper.Hides) (nowhere : session.tracker.active = none)
    (isOpen : session.card = some card) (hit : card.hotspots.hit? .origin = some hotspot) (point : Point Float32) :
    let entered := { session with pointer := some point, tracker := ⟨some hotspot.index⟩ }.record
      (.hotspotEntered hotspot)
    (pointerMoved point session).Sat (EngineChain entered) fun later _ => EngineChain entered later := by
  intro entered
  let moved : Session := { session with pointer := some point }
  let inside : Session := { moved with tracker := ⟨some hotspot.index⟩ }
  have under : moved.hitIndex = some hotspot.index := by
    have here : moved.hotspotUnderPointer = card.hotspots.hitWindow? session.mapper point := by
      change session.card.bind _ = _
      rw [isOpen]
      rfl
    rw [Session.hitIndex, here, HotspotTable.hitWindow?_of_hides hides, hit]
    rfl
  have found : session.card.bind (·.hotspots.get? hotspot.index) = some hotspot := by
    rw [isOpen, Option.bind_some]
    exact HotspotTable.get?_index (numbered card isOpen) (HotspotTable.mem_of_hit? hit)
  have hovers : (refreshHover moved).Sat (EngineChain entered) fun later result =>
      ∃ pending, result = .ok pending ∧ EngineChain entered later := by
    have tested : moved.tested = inside := by
      rw [Session.tested, under]
      rfl
    have moves : moved.tracker.moves moved.hitIndex = [.entered hotspot.index] := by
      change session.tracker.moves moved.hitIndex = _
      rw [under, HotspotTracker.moves, nowhere]
      rfl
    change (makeMoves (moved.tracker.moves moved.hitIndex) moved.tested).Sat _ _
    rw [moves, tested]
    have made : makeMove (.entered hotspot.index) inside = runHotspotScript hotspot.index .mouseEnter entered :=
      makeMove_entered found
    have runs := runHotspotScript_runs hotspot.index .mouseEnter
    have script := ((runs.script entered).and (runs.unfailing entered)).mono (fun _ both => both.1.engine)
      fun _ _ both => both
    rw [← made] at script
    refine sat_bind_of script ?_ (by rintro _ _ ⟨_, _, never⟩; cases never)
    rintro later pending ⟨chain, -⟩
    cases pending with
    | some target => exact ⟨_, rfl, chain.engine⟩
    | none => exact ⟨_, rfl, chain.engine⟩
  -- What follows on the entering is only added to it, whether a card is to be opened or not.
  change ((refreshHover >>= _ : Script Unit) moved).Sat _ _
  refine sat_bind_ok hovers fun later pending chain => ?_
  cases pending with
  | some target =>
    have begins : EngineChain session entered :=
      ((EngineAct.points point).chain.tail (.tracks (some hotspot.index))).tail (.recorded _ trivial)
    have sound : later.resolver.Sound := EngineChain.sound (begins.trans chain) sound
    have settles := chain.onward (settleWithin_sat sound 31 (some target))
    exact settles.imp fun _ _ settled => chain.trans settled.2.1.chain
  | none => exact chain

end Script

/-! ## Events -/

namespace Session

open Script

/-- Scripts keep what is said of a hidden card. -/
theorem blind_scriptUpkeep (old : List Happening) :
    ScriptUpkeep (fun session => session.resolver.Sound ∧ session.Numbered) (Blind old) (Blind old) (Blind old) where
  act act a := ⟨act.sound a.1, act.numbered a.2⟩
  owes _ h := h
  script label commands _ h := by
    have script := (runScript_runs label commands).script
    refine (script _).mono (fun _ chain => h.script chain) fun _ _ chain => ?_
    exact ⟨h.script chain, fun _ _ => h.script chain⟩

/-- Nothing that happens while the window keeps its size changes that. -/
theorem blind_upkeep (old : List Happening) :
    SteadyUpkeep (fun session => session.resolver.Sound ∧ session.Numbered) (Blind old) (Blind old) (Blind old) where
  toScriptUpkeep := blind_scriptUpkeep old
  sound a := a.1
  hover a h := (refreshHover_blind a.2 h.hides h.entries).imp fun _ _ blind => ⟨blind, fun _ => blind⟩
  leaves running _ h := h.still rfl rfl rfl rfl
  closes _ h isOpen := h.closeCard isOpen
  opens location _ h closed _ _ := h.arrived closed location _
  reveals {_ prepared} _ _ _ _ _ _ h _ _ := by
    have shown : (prepared.changeUpdates .shown).Blind old :=
      h.noted (.updates .shown) rfl rfl rfl rfl trivial
    exact shown.script (publish_chain rfl)
  resolves key _ h := h.still rfl rfl rfl rfl
  refuses {session} location error _ h := by
    have noted : (session.onStage (·.note (.refused location))).Blind old :=
      h.noted (.refused location) rfl rfl rfl rfl trivial
    exact noted.script (ScriptAct.fails "goto" error).chain
  cutsOff _ h := h.noted .cutOff rfl rfl rfl rfl trivial
  suffers act _ h := h.script (ScriptAct.suffered act).chain
  points point _ h := h.still rfl rfl rfl rfl
  presses down _ h := h.still rfl rfl rfl rfl
  putsVariables game _ h := h.still rfl rfl rfl rfl
  restores _ h := h.noted (.recorded .stateRestored) rfl rfl rfl rfl trivial
  finishes {session} code _ h _ := by
    let ended := session.onMovie code fun slot =>
      if slot.movie.looping then slot else { slot with playing := false }
    have changed : ended.Blind old := h.script (ScriptAct.setVisual _).chain
    have recorded : (ended.record (.movieFinished code)).Blind old :=
      changed.noted (.recorded (.movieFinished code)) rfl rfl rfl rfl trivial
    exact recorded.script (publishIfNeeded_chain _)

/-- So do cues. -/
theorem fireCues_blind (old : List Happening) :
    ScriptUpkeep.Runs (fun session => session.resolver.Sound ∧ session.Numbered) (Blind old) (Blind old) (Blind old)
      fireCues := by
  refine (blind_scriptUpkeep old).fireCues_keeps (fun cue _ h => ?_) fun _ h => ?_
  · exact h.noted (.cueFired cue) rfl rfl rfl rfl trivial
  · exact h.noted (.cuesTaken _) rfl rfl rfl rfl trivial

end Session

namespace Script

open Session

variable {session : Session}

/-- The window is resized, and there is no room for the card any more. -/
theorem viewportChanged_blind (sound : session.resolver.Sound) (numbered : session.Numbered) (size : Size Float32)
    (hides : (session.mapper.resize size).Hides) : (viewportChanged size session).Sat (Blind session.transcript)
      fun later _ => (later.resolver.Sound ∧ later.Numbered) ∧ later.Blind session.transcript := by
  let resized : Session := { session with
    mapper := session.mapper.resize size
    card := session.card.map fun card =>
      { card with hotspots := card.hotspots.resize (session.mapper.resize size) } }
  have act : EngineAct session resized := .resizes size
  have chain : ScriptChain resized resized.publishIfNeeded := publishIfNeeded_chain resized
  obtain ⟨during, transcript, ofScript⟩ := chain.notes
  have entries : ∀ happening ∈ during, happening.EntersOrigin :=
    fun happening among => (ofScript happening among).entersOrigin
  have hides : resized.publishIfNeeded.mapper.Hides := chain.continues.mapper ▸ hides
  have a : resized.publishIfNeeded.resolver.Sound ∧ resized.publishIfNeeded.Numbered :=
    ⟨chain.engine.sound (act.sound sound), chain.engine.numbered (act.numbered numbered)⟩
  have hovers := refreshHover_blind a.2 hides ⟨during, transcript, entries⟩
  have settles := (blind_upkeep session.transcript).settle_of_hover a
    (hovers.imp fun _ _ blind => ⟨blind, fun _ => blind⟩)
  exact settles.imp fun _ _ settled => settled.2

end Script

open Script Session in
/-- An event in which nothing is shown enters no hotspot but those at the origin. If it resizes the window, the
pointer may have been in another one before. -/
theorem Event.blind_sat {session : Session} (sound : session.resolver.Sound) (numbered : session.Numbered)
    (tracks : session.mapper.Hides → session.TracksOrigin) (event : Event)
    (hides : (event.viewport?.elim session.mapper session.mapper.resize).Hides) :
    (event.script session).Sat (Blind session.transcript) fun later _ =>
      (later.resolver.Sound ∧ later.Numbered) ∧ later.Blind session.transcript := by
  have upkeep := blind_upkeep session.transcript
  cases told : event.viewport? with
  | some size =>
    rw [told] at hides
    obtain rfl : event = .message (.viewport size) := by
      unfold viewport? at told
      split at told
      next => cases told; rfl
      next => cases told
    exact viewportChanged_blind sound numbered size hides
  | none =>
    rw [told] at hides
    have blind : session.Blind session.transcript := ⟨hides, tracks hides, [], rfl, nofun⟩
    refine upkeep.event (fun a r _ => ?_) event (fun size same => ?_) ⟨sound, numbered⟩ blind
    · exact upkeep.runs_settle_sat (fireCues_blind _) a r
    · rw [same] at told
      cases told

namespace Reachable

/-- Between two events in which nothing is shown, the pointer is in no hotspot but one at the origin. -/
theorem tracksOrigin {progress : Progress (Except ScriptError Unit)} (reachable : Reachable progress)
    {session : Session} {result : Except ScriptError Unit} (ended : progress = .done session result)
    (hides : session.mapper.Hides) : session.TracksOrigin := by
  induction reachable generalizing session result with
  | start config provider player =>
    cases ended
    exact Session.tracksOrigin_of_none rfl
  | outside before act ih =>
    cases ended
    have tracks := ih rfl hides
    exact tracks
  | event before event leads ih =>
    cases ended
    have now := (event.window_sat _).of_leads_done leads
    rw [now] at hides
    have blind := Event.blind_sat before.sound before.numbered (ih rfl) event hides
    exact (blind.of_leads_done leads).2.tracks

/-- Where nothing is shown and no hotspot of the open card has the origin, the pointer is nowhere, and so it
stays wherever it goes. -/
theorem pointer_idles {session : Session} {result : Except ScriptError Unit}
    (reachable : Reachable (.done session result)) (hides : session.mapper.Hides)
    (elsewhere : ∀ card, session.card = some card → ∀ hotspot ∈ card.hotspots.hotspots, ¬ hotspot.AtOrigin) :
    (∀ point, Script.pointerMoved point session = .done { session with pointer := some point } (.ok ())) ∧
      Script.pointerDown session = .done { session with buttonDown := true } (.ok ()) ∧
      Script.pointerUp session = .done { session with buttonDown := false } (.ok ()) := by
  have nowhere : session.tracker.active = none :=
    (reachable.tracksOrigin rfl hides).nowhere fun _ card hotspot _ isOpen found =>
      elsewhere card isOpen hotspot (List.mem_of_getElem? found)
  have missed {later : Session} (mapper : later.mapper = session.mapper) (card : later.card = session.card) :
      later.hitIndex = none := by
    rw [Session.hitIndex, Option.map_eq_none_iff, Option.eq_none_iff_forall_ne_some]
    intro hotspot under
    obtain ⟨open', isOpen, hitCard⟩ := Option.bind_eq_some_iff.mp under
    obtain ⟨point, _, hitTable⟩ := Option.bind_eq_some_iff.mp hitCard
    have origin := Session.atOrigin_of_hotspotUnderPointer (mapper ▸ hides) under
    exact elsewhere open' (card ▸ isOpen) hotspot (HotspotTable.mem_of_hitWindow? hitTable) origin
  have button (down : Bool) (trigger : Trigger) :
      ((Script.runActiveHotspot trigger >>= Script.settle : Script Unit) { session with buttonDown := down })
        = .done { session with buttonDown := down } (.ok ()) := by
    let pressed : Session := { session with buttonDown := down }
    have nowhere : pressed.tracker.active = none := nowhere
    rw [Script.bind_of_ok (Script.runActiveHotspot_of_nowhere nowhere trigger)]
    exact Script.settle_of_nowhere nowhere (missed rfl rfl)
  refine ⟨fun point => ?_, button true .mouseDown, button false .mouseUp⟩
  exact Script.settle_of_nowhere nowhere (missed rfl rfl)

/-- Where the frame is the zero rectangle, so are all the hotspots in the window, and yet every point of the window
hits the first enabled hotspot that has the card's origin, so that nothing is hit only if there is none. In every
run: between two events in which this is the frame the pointer is in no other hotspot. No event that keeps the size
of the window enters another one, and if the pointer is in none, moving it enters the one that is hit. If no hotspot
of the open card has the origin, nothing comes of the pointer's events but that the pointer and its button are
noted. -/
theorem out_of_sight (viewport cardSize : Size Float32) (margin : Float32)
    (frame : effectiveFrame viewport cardSize margin = .zero) :
    (∀ (table : HotspotTable Float32) (point : Point Float32),
      table.hitWindow? (.ofViewport cardSize margin viewport) point = table.hit? .origin ∧
      (table.hitWindow? (.ofViewport cardSize margin viewport) point = none ↔
        ∀ hotspot ∈ table.active, ¬ hotspot.AtOrigin) ∧
      ∀ hotspot ∈ (table.resize (.ofViewport cardSize margin viewport)).hotspots, hotspot.frame = .zero) ∧
    ∀ (session : Session) (result : Except ScriptError Unit), Reachable (.done session result) →
      session.mapper = .ofViewport cardSize margin viewport →
        (∀ card, session.card = some card → ∀ hotspot ∈ card.hotspots.hotspots, hotspot.frame = .zero) ∧
        (∀ hotspot, session.activeHotspot = some hotspot → hotspot.AtOrigin) ∧
        (∀ event : Event, event.viewport? = none → ∀ progress, (event.script session).Leads progress →
          ∃ during, progress.session.transcript = during ++ session.transcript ∧
            ∀ hotspot, .recorded (.hotspotEntered hotspot) ∈ during → hotspot.AtOrigin) ∧
        (∀ card hotspot, session.card = some card → card.hotspots.hit? .origin = some hotspot →
          session.activeHotspot = none → ∀ point progress, (Script.pointerMoved point session).Leads progress →
            ∃ after, progress.session.transcript
              = after ++ .recorded (.hotspotEntered hotspot) :: session.transcript) ∧
        ((∀ card, session.card = some card → ∀ hotspot ∈ card.hotspots.hotspots, ¬ hotspot.AtOrigin) →
          (∀ point, Script.pointerMoved point session = .done { session with pointer := some point } (.ok ())) ∧
          Script.pointerDown session = .done { session with buttonDown := true } (.ok ()) ∧
          Script.pointerUp session = .done { session with buttonDown := false } (.ok ())) := by
  have hides : (Mapper.ofViewport cardSize margin viewport).Hides := Mapper.hides_of_frame frame
  constructor
  · intro table point
    have hits := @HotspotTable.hitWindow?_of_hides _ _ table _ hides point
    refine ⟨hits, ?_, fun hotspot among => ?_⟩
    · rw [hits, HotspotTable.hit?_eq_none_iff]
    · obtain ⟨original, _, rfl⟩ := List.mem_map.mp among
      exact hides.toWindow original.rect
  -- In a run, what is active has the origin of the card: every event keeps that while the frame is empty.
  · intro session result reachable mapper
    rw [← mapper] at hides
    have tracks : session.TracksOrigin := reachable.tracksOrigin rfl hides
    refine ⟨fun card isOpen hotspot among => ?_, fun hotspot active => ?_, fun event steady progress leads => ?_,
      fun card hotspot isOpen hit outside point progress leads => ?_, reachable.pointer_idles hides⟩
    · obtain ⟨place, found⟩ := List.mem_iff_getElem?.mp among
      obtain ⟨_, _, _, frame⟩ := (reachable.laidOut card isOpen).at found
      rw [frame]
      exact hides.toWindow hotspot.rect
    · obtain ⟨card, isOpen, found⟩ := Option.bind_eq_some_iff.mp active
      obtain ⟨index, inside, found⟩ := Option.bind_eq_some_iff.mp found
      obtain ⟨card', hotspot', isOpen', found', origin⟩ := tracks index inside
      cases isOpen.symm.trans isOpen'
      cases found.symm.trans found'
      exact origin
    · have steady : (event.viewport?.elim session.mapper session.mapper.resize).Hides := by rwa [steady]
      have blind := Event.blind_sat reachable.sound reachable.numbered (fun _ => tracks) event steady
      obtain ⟨-, -, during, transcript, enters⟩ := ((blind.imp fun _ _ h => h.2).leads leads).now
      exact ⟨during, transcript, fun hotspot among => enters _ among⟩
    · have nowhere : session.tracker.active = none := by
        refine tracks.nowhere fun index card hotspot inside isOpen found => ?_
        rw [Session.activeHotspot_eq_some isOpen inside found] at outside
        cases outside
      have enters := Script.pointerMoved_enters reachable.sound reachable.numbered hides nowhere isOpen hit point
      obtain ⟨after, same⟩ := (enters.leads leads).now.grows
      exact ⟨after, same.symm⟩

/-- The window has no area, and the pointer enters a hotspot that is not to be seen anywhere; its script sets the
cursor. -/
theorem out_of_sight_entered : ∃ (session later : Session) (card : OpenCard) (hotspot : Hotspot Float32),
    effectiveFrame ⟨0, 0⟩ ⟨608, 392⟩ 80 = (.zero : Rect Float32) ∧ Reachable (.done session (.ok ())) ∧
      session.mapper = .ofViewport ⟨608, 392⟩ 80 ⟨0, 0⟩ ∧
      session.card = some card ∧ card.hotspots.hitWindow? session.mapper ⟨100, 200⟩ = some hotspot ∧
      hotspot.frame = .zero ∧ (Script.pointerMoved ⟨100, 200⟩ session).Leads (.done later (.ok ())) ∧
      .recorded (.hotspotEntered hotspot) ∈ later.transcript ∧
      later.card.bind (·.visual.cursor) = some 5 := by
  let door : HotspotRecord :=
    { id := 7, rect := ⟨0, 0, 10, 10⟩, cursor := 0, name := "door", enabled := true,
      scripts := [⟨3, [.op 13 [5]]⟩] }
  let events : List Event := [.message (.goto ⟨"a", 1⟩ none), .message (.viewport ⟨0, 0⟩)]
  let entered (session : Session) : Bool :=
    session.activeHotspot.isNone && (session.card.any fun card => (card.hotspots.hit? .origin).isSome) &&
      (Script.pointerMoved ⟨100, 200⟩ session).ended?.any fun later => later.card.bind (·.visual.cursor) == some 5
  have ran : ((Session.beginning "a" [(1, { hotspots := [door] })]).after? events).any entered = true := by
    decide +kernel
  obtain ⟨session, ended, found⟩ := (Option.any_eq_true ..).mp ran
  simp only [entered, Bool.and_eq_true, Option.isNone_iff_eq_none, Option.any_eq_true, beq_iff_eq] at found
  obtain ⟨⟨outside, card, isOpen, hit⟩, later, moved, cursor⟩ := found
  obtain ⟨hotspot, hit⟩ := Option.isSome_iff_exists.mp hit
  have ran : Ran {} _ .finishing events (.done session (.ok ())) := Ran.of_after? .start ended
  have mapper : session.mapper = .ofViewport ⟨608, 392⟩ 80 ⟨0, 0⟩ := ran.mapper_eq
  have frame : effectiveFrame ⟨0, 0⟩ ⟨608, 392⟩ 80 = (.zero : Rect Float32) :=
    effectiveFrame_of_degenerate (by decide +kernel)
  obtain ⟨hits, runs⟩ := Reachable.out_of_sight ⟨0, 0⟩ ⟨608, 392⟩ 80 frame
  obtain ⟨frames, -, -, enters, -⟩ := runs session (.ok ()) ran.reachable mapper
  have leads := Progress.leads_of_ended? moved
  obtain ⟨after, transcript⟩ := enters card hotspot isOpen hit outside ⟨100, 200⟩ _ leads
  refine ⟨session, later, card, hotspot, frame, ran.reachable, mapper, isOpen, ?_,
    frames card isOpen hotspot (HotspotTable.mem_of_hit? hit), leads, ?_, cursor⟩
  · rw [mapper, (hits card.hotspots ⟨100, 200⟩).1, hit]
  · exact transcript ▸ List.mem_append_right after List.mem_cons_self

end Reachable

end Diorama
