import Diorama.Proofs.Events

/-!
# The hotspot that the pointer is in

The session keeps the number of the hotspot that the pointer is in, and after an event has settled that
should be the hotspot under the pointer. How far it is, and how far it is not, is `Reachable.hover`.

Settling ends with a test of the pointer: the number is set to that of the hotspot found, and then the
scripts of the moves run, first that of the hotspot left, then that of the one entered. Nothing that these
do moves the number again (`Session.TestedAt.tracker`). So if they leave the hotspot under the pointer the
same, the number is right; and if they do not, for instance because a hotspot disables itself on being
entered, it is wrong, since the pointer is tested again only if a script asked for a card change.
`Reachable.hover` says that this is the only way in which it can be wrong, and
`Reachable.hover_disabled` is a run in which it is.

Two facts carry the proof. Hotspots are numbered by their places, and nothing changes that
(`EngineChain.numbered`); so a number stands for the same hotspot before and after the scripts. And a
script only ever switches hotspots (`OpenCard.Continues`), so the hotspot that was hit is still there.
-/

namespace Diorama

/-! ## Tables -/

namespace HotspotTable

variable {R : Type}

/-- In a table that is numbered a hotspot is found under its number. -/
theorem get?_index {table : HotspotTable R} (numbered : table.Numbered) {hotspot : Hotspot R}
    (among : hotspot ∈ table.hotspots) : table.get? hotspot.index = some hotspot := by
  obtain ⟨place, found⟩ := List.mem_iff_getElem?.mp among
  rw [get?, numbered place hotspot found, found]

/-- What is found under a number has it. -/
theorem index_of_get? {table : HotspotTable R} (numbered : table.Numbered) {index : UInt16}
    {hotspot : Hotspot R} (found : table.get? index = some hotspot) : hotspot.index = index :=
  UInt16.toNat_inj.mp (numbered index.toNat hotspot found)

/-- A hotspot that is hit is one of the table. -/
theorem mem_of_hitWindow? [Coordinate R] {table : HotspotTable R} {mapper : Mapper R} {point : Point R}
    {hotspot : Hotspot R} (hit : table.hitWindow? mapper point = some hotspot) :
    hotspot ∈ table.hotspots :=
  List.mem_of_mem_filter (List.mem_of_find?_eq_some hit)

end HotspotTable

/-! ## Numbers stay -/

namespace Session

/-- The hotspots of the open card are numbered by their places. -/
def Numbered (session : Session) : Prop :=
  ∀ card, session.card = some card → card.hotspots.Numbered

/-- Scripts do not renumber hotspots. -/
theorem Continues.numbered {session later : Session} (h : session.Continues later)
    (numbered : session.Numbered) : later.Numbered := by
  intro card isOpen
  have related := h.card
  rw [isOpen] at related
  generalize original : session.card = before at related
  cases related with
  | some continues =>
    have same := congrArg (List.map (·.index)) continues.hotspots
    rw [List.map_map, List.map_map] at same
    exact (numbered _ original).of_fixed same

end Session

/-- A card is numbered when it is read, and stays so. -/
theorem EngineAct.numbered {session later : Session} (act : EngineAct session later)
    (numbered : session.Numbered) : later.Numbered := by
  cases act with
  | script act => exact act.continues.numbered numbered
  | closes =>
    intro card isOpen
    rw [session.closeCard_card] at isOpen
    cases isOpen
  | opens location closed key loaded =>
    intro card isOpen
    cases isOpen
    exact (OpenCard.loaded_of_load loaded).numbered
  | resizes viewport =>
    intro card isOpen
    obtain ⟨original, there, rfl⟩ := Option.map_eq_some_iff.mp isOpen
    refine (numbered original there).of_fixed ?_
    rw [HotspotTable.resize, List.map_map]
    rfl
  | _ => exact numbered

/-- So at any moment of a run the hotspots are numbered by their places. -/
theorem EngineChain.numbered {session later : Session} (chain : EngineChain session later)
    (numbered : session.Numbered) : later.Numbered :=
  chain.keeps EngineAct.numbered numbered

/-! ## The hotspot that is hit -/

namespace Session

/-- A hotspot that is hit is found under its number. -/
theorem hotspotUnderPointer_of_hitIndex {session : Session} (numbered : session.Numbered)
    {index : UInt16} (hit : session.hitIndex = some index) : ∃ card hotspot, session.card = some card
      ∧ card.hotspots.get? index = some hotspot ∧ session.hotspotUnderPointer = some hotspot := by
  obtain ⟨hotspot, under, rfl⟩ := Option.map_eq_some_iff.mp hit
  obtain ⟨card, isOpen, hitCard⟩ := Option.bind_eq_some_iff.mp under
  obtain ⟨point, _, hitTable⟩ := Option.bind_eq_some_iff.mp hitCard
  have among := HotspotTable.mem_of_hitWindow? hitTable
  exact ⟨card, hotspot, isOpen, HotspotTable.get?_index (numbered card isOpen) among, under⟩

/-- Nothing is under the pointer if it hits no number. -/
theorem hotspotUnderPointer_eq_none {session : Session} (hit : session.hitIndex = none) :
    session.hotspotUnderPointer = none :=
  Option.map_eq_none_iff.mp hit

/-- The pointer is in a hotspot that the open card has. -/
def TracksCard (session : Session) : Prop :=
  ∀ index, session.tracker.active = some index →
    ∃ card hotspot, session.card = some card ∧ card.hotspots.get? index = some hotspot

/-- The active hotspot is the one with the number that is tracked. -/
theorem activeHotspot_eq_some {session : Session} {index : UInt16} {card : OpenCard}
    {hotspot : Hotspot Float32} (isOpen : session.card = some card)
    (active : session.tracker.active = some index) (found : card.hotspots.get? index = some hotspot) :
    session.activeHotspot = some hotspot := by
  rw [activeHotspot, isOpen, active]
  exact found

/-- No hotspot is active if none is tracked. -/
theorem activeHotspot_eq_none {session : Session} (active : session.tracker.active = none) :
    session.activeHotspot = none := by
  rw [activeHotspot, active]
  cases session.card <;> rfl

/-- The pointer is in the hotspot under it exactly if it is in the one with that number. -/
theorem activeHotspot_eq_iff {session : Session} (numbered : session.Numbered)
    (tracks : session.TracksCard) :
    session.activeHotspot = session.hotspotUnderPointer ↔ session.hitIndex = session.tracker.active := by
  constructor
  · intro same
    rw [hitIndex, ← same]
    cases active : session.tracker.active with
    | none => rw [activeHotspot_eq_none active, Option.map_none]
    | some index =>
      obtain ⟨card, hotspot, isOpen, found⟩ := tracks index active
      rw [activeHotspot_eq_some isOpen active found, Option.map_some,
        HotspotTable.index_of_get? (numbered card isOpen) found]
  · intro same
    cases hit : session.hitIndex with
    | none =>
      rw [hit] at same
      rw [hotspotUnderPointer_eq_none hit, activeHotspot_eq_none same.symm]
    | some index =>
      rw [hit] at same
      obtain ⟨card, hotspot, isOpen, found, under⟩ := hotspotUnderPointer_of_hitIndex numbered hit
      rw [under, activeHotspot_eq_some isOpen same.symm found]

namespace TestedAt

variable {before later : Session}

/-- After a test the tracker has the number that the test has hit. -/
theorem tracker (tested : before.TestedAt later) : later.tracker.active = before.hitIndex :=
  congrArg HotspotTracker.active tested.continues.tracker

/-- If the test finds nothing new, no script runs after it. -/
theorem eq_tested (tested : before.TestedAt later) (unmoved : before.tracker.active = before.hitIndex) :
    later = before.tested := by
  have none : before.tracker.moves before.hitIndex = [] := if_pos unmoved.symm
  have made := tested.made
  rw [none] at made
  have ended := Progress.leads_done_iff.mp made
  cases ended
  rfl

/-- Making moves known leaves the card with the hotspots that it had. -/
theorem tracksCard (tested : before.TestedAt later) (numbered : before.Numbered) : later.TracksCard := by
  intro index active
  rw [tested.tracker] at active
  obtain ⟨card, hotspot, isOpen, found, _⟩ := hotspotUnderPointer_of_hitIndex numbered active
  -- The scripts of the moves only switch hotspots, so the place that was hit still holds one.
  have related := tested.continues.card
  change Option.Rel OpenCard.Continues before.card later.card at related
  rw [isOpen] at related
  generalize there : later.card = after at related
  cases related with
  | @some _ card' continues =>
    have same := congrArg (·[index.toNat]?) continues.hotspots
    simp only [List.getElem?_map] at same
    have kept : card.hotspots.hotspots[index.toNat]? = some hotspot := found
    rw [kept] at same
    obtain ⟨hotspot', found', _⟩ := Option.map_eq_some_iff.mp same
    exact ⟨card', hotspot', rfl, found'⟩

end TestedAt

end Session

/-! ## Every run -/

/-- In every run the hotspots of the open card are numbered by their places. -/
theorem Reachable.numbered {progress : Progress (Except ScriptError Unit)} (reachable : Reachable progress) :
    progress.session.Numbered :=
  reachable.invariant (fun _ _ _ _ isOpen => nomatch isOpen) EngineAct.numbered

/-- An event that settles, and is not cut off, ends with a test of the pointer and the scripts of the moves
that it found. The pointer is then in the hotspot under it exactly if those scripts have left the
hotspot under it the same; in particular it is if there were no moves. -/
theorem Reachable.hover {session later : Session} {result outcome : Except ScriptError Unit}
    (atRest : Reachable (.done session result)) (event : Event)
    (leads : (event.script session).Leads (.done later outcome))
    (settles : event.Settles session outcome) (whole : ¬ Script.Since session later .cutOff) :
    ∃ before, EngineChain session before ∧ before.TestedAt later ∧
      (later.activeHotspot = later.hotspotUnderPointer ↔ later.hitIndex = before.hitIndex) ∧
      (before.tracker.active = before.hitIndex →
        later.activeHotspot = later.hotspotUnderPointer) := by
  obtain ⟨follows, settled⟩ := (Event.sat atRest.sound event).of_leads_done leads
  obtain ⟨before, chain, tested⟩ | cut := settled settles
  · have numbered : before.Numbered := chain.numbered atRest.numbered
    have exactly := Session.activeHotspot_eq_iff (tested.continues.numbered numbered)
      (tested.tracksCard numbered)
    rw [tested.tracker] at exactly
    refine ⟨before, chain, tested, exactly, fun unmoved => exactly.mpr ?_⟩
    rw [tested.eq_tested unmoved]
    rfl
  · exact absurd cut whole

/-- A hotspot disables itself on being entered: the pointer is in it, and it is not under the pointer. -/
theorem Reachable.hover_disabled : ∃ session later : Session, Reachable (.done session (.ok ())) ∧
    (Script.pointerMoved ⟨100, 200⟩ session).Leads (.done later (.ok ())) ∧
      ¬ Script.Since session later .cutOff ∧ later.activeHotspot ≠ later.hotspotUnderPointer ∧
        ∃ before, EngineChain session before ∧ before.TestedAt later ∧ later.hitIndex ≠ before.hitIndex := by
  let trap : HotspotRecord :=
    { id := 7, rect := ⟨0, 0, 608, 392⟩, cursor := 0, name := "", enabled := true
      scripts := [⟨3, [.op 10 [7]]⟩] }
  let caught (session : Session) : Bool :=
    (Script.pointerMoved ⟨100, 200⟩ session).ended?.any fun later =>
      later.activeHotspot.isSome && later.hotspotUnderPointer.isNone
        && later.transcript.all (!· matches .cutOff)
  have ran : ((Session.beginning "a" [(1, { hotspots := [trap] })]).after?
      [.message (.goto ⟨"a", 1⟩ none)]).any caught = true := by decide +kernel
  obtain ⟨session, reachable, here⟩ := Session.exists_after "a" _ ran
  obtain ⟨later, ended, left⟩ := (Option.any_eq_true ..).mp here
  have leads := Progress.leads_of_ended? ended
  obtain ⟨⟨inside, under⟩, kept⟩ : (later.activeHotspot.isSome = true
      ∧ later.hotspotUnderPointer.isNone = true)
      ∧ later.transcript.all (!· matches .cutOff) = true := by
    simpa only [Bool.and_eq_true] using left
  have whole : ¬ Script.Since session later .cutOff := by
    rintro ⟨during, same, among⟩
    have cut : .cutOff ∈ later.transcript := same ▸ List.mem_append_left _ among
    cases List.all_eq_true.mp kept _ cut
  have different : later.activeHotspot ≠ later.hotspotUnderPointer := by
    intro same
    rw [same, Option.isNone_iff_eq_none.mp under] at inside
    cases inside
  obtain ⟨before, chain, tested, exactly, _⟩ :=
    Reachable.hover reachable (.message (.pointerMoved ⟨100, 200⟩)) leads trivial whole
  have moves : later.hitIndex ≠ before.hitIndex := fun same => different (exactly.mpr same)
  exact ⟨session, later, reachable, leads, whole, different, before, chain, tested, moves⟩

end Diorama
