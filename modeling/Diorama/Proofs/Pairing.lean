import Diorama.Proofs.Hover
import Diorama.Proofs.Upkeep

/-!
# Entering and leaving hotspots

During a visit to a card the pointer enters hotspots and leaves them, and what is recorded of it should come
in pairs: each hotspot entered is left before another is entered, and the one that the pointer is in is the
one entered last.

It is so, but for one gap. The tracker is moved before the moves are made known, and when the exit script of
the hotspot left asks for a card change, the entry into the next one is dropped, since the visit is about to
end. If the card change is then refused the visit goes on, with the pointer in a hotspot of which no entry was
recorded; and when the pointer leaves it, an exit is recorded that has no entry. `Happening.stranded` reads
off a transcript that this may be so, and `Reachable.hover_pairs` says that nothing else goes wrong.

What the proof rests on is that scripts touch none of this: not the tracker, not the names of the hotspots,
and not what was recorded of them (`Session.Unmoved`).
-/

namespace Diorama

/-! ## Reading a transcript -/

namespace Happening

/-- The hotspot entered last in this visit, unless it has been left. -/
def inside : List Happening → Option (Hotspot Float32)
  | [] => none
  | .recorded (.hotspotEntered hotspot) :: _ => some hotspot
  | .recorded (.hotspotExited _) :: _ | .recorded (.cardOpened _) :: _ | .recorded (.cardClosed _) :: _ => none
  | _ :: earlier => inside earlier

/-- What the pointer did last in this visit was to leave a hotspot. -/
def leftLast : List Happening → Bool
  | [] => false
  | .recorded (.hotspotExited _) :: _ => true
  | .recorded (.hotspotEntered _) :: _ | .recorded (.cardOpened _) :: _ | .recorded (.cardClosed _) :: _ => false
  | _ :: earlier => leftLast earlier

/-- A card change has been refused, or cut off, since the pointer left a hotspot, and that was the last that
it did in this visit. -/
def stranded : List Happening → Bool
  | [] => false
  | .recorded (.hotspotExited _) :: _ | .recorded (.hotspotEntered _) :: _ | .recorded (.cardOpened _) :: _
  | .recorded (.cardClosed _) :: _ => false
  | .recorded (.scriptFailed label _) :: earlier =>
    if label = "goto" then leftLast earlier else stranded earlier
  | .cutOff :: earlier => leftLast earlier
  | _ :: earlier => stranded earlier

/-- A hotspot is entered after the one before has been left; and the one that is left is the one entered
last, unless the pointer has been stranded. -/
def Paired (earlier : List Happening) : Happening → Prop
  | .recorded (.hotspotEntered _) => inside earlier = none
  | .recorded (.hotspotExited left) =>
    (∃ entered, inside earlier = some entered ∧ entered.index = left.index
      ∧ entered.describe = left.describe)
    ∨ inside earlier = none ∧ stranded earlier = true
  | _ => True

/-- Nothing about it bears on where the pointer is. -/
def Unmoving : Happening → Prop
  | .recorded (.hotspotEntered _) | .recorded (.hotspotExited _) | .recorded (.cardOpened _)
  | .recorded (.cardClosed _) => False
  | _ => True

/-- It says that a hotspot is entered. -/
def isEntry : Happening → Bool
  | .recorded (.hotspotEntered _) => true
  | _ => false

/-- An entry is a notice that a hotspot was entered. -/
theorem isEntry_iff {happening : Happening} :
    happening.isEntry = true ↔ ∃ hotspot, happening = .recorded (.hotspotEntered hotspot) := by
  refine ⟨fun entry => ?_, ?_⟩
  · unfold isEntry at entry
    split at entry
    next hotspot => exact ⟨hotspot, rfl⟩
    next => cases entry
  · rintro ⟨hotspot, rfl⟩
    rfl

/-- What scripts note has nothing to do with where the pointer is. -/
theorem OfScript.unmoving {happening : Happening} (ofScript : happening.OfScript) : happening.Unmoving := by
  cases happening with
  | recorded notice => cases notice <;> trivial
  | _ => trivial

/-- The pointer is stranded only by leaving a hotspot. -/
theorem leftLast_of_stranded {transcript : List Happening} (h : stranded transcript = true) :
    leftLast transcript = true := by
  fun_induction stranded transcript <;> simp_all [leftLast]

/-- What does not bear on the pointer leaves all that is read of it as it was, except that it may strand it. -/
theorem Unmoving.reads {happening : Happening} (unmoving : happening.Unmoving) (earlier : List Happening) :
    inside (happening :: earlier) = inside earlier ∧ leftLast (happening :: earlier) = leftLast earlier ∧
      (stranded earlier = true → stranded (happening :: earlier) = true) ∧ happening.Paired earlier := by
  cases happening with
  | recorded notice =>
    cases notice with
    | hotspotEntered => exact unmoving.elim
    | hotspotExited => exact unmoving.elim
    | cardOpened => exact unmoving.elim
    | cardClosed => exact unmoving.elim
    | scriptFailed label error =>
      refine ⟨rfl, rfl, fun before => ?_, trivial⟩
      rw [stranded]
      split
      · exact leftLast_of_stranded before
      · exact before
    | _ => exact ⟨rfl, rfl, fun before => before, trivial⟩
  | cutOff => exact ⟨rfl, rfl, leftLast_of_stranded, trivial⟩
  | _ => exact ⟨rfl, rfl, fun before => before, trivial⟩

/-- So do any number of such happenings. -/
theorem reads_append {during : List Happening} (unmoving : ∀ happening ∈ during, happening.Unmoving)
    (earlier : List Happening) :
    inside (during ++ earlier) = inside earlier ∧ leftLast (during ++ earlier) = leftLast earlier ∧
      (stranded earlier = true → stranded (during ++ earlier) = true) ∧
      (Each Paired earlier → Each Paired (during ++ earlier)) := by
  induction during with
  | nil => exact ⟨rfl, rfl, id, id⟩
  | cons happening during ih =>
    obtain ⟨inside, left, stranded, paired⟩ := ih fun other among => unmoving other (List.mem_cons_of_mem _ among)
    obtain ⟨inside', left', stranded', paired'⟩ :=
      (unmoving happening List.mem_cons_self).reads (during ++ earlier)
    exact ⟨inside'.trans inside, left'.trans left, fun before => stranded' (stranded before),
      fun before => ⟨paired', paired before⟩⟩

end Happening

/-! ## What scripts leave alone -/

namespace Session

/-- How the hotspots of the open card are named in the log, by their places. -/
def labels (session : Session) : Option (List String) :=
  session.card.map fun card => card.hotspots.hotspots.map Hotspot.describe

/-- The hotspot with a number is on the open card, and is named so in the log. -/
def Names (session : Session) (index : UInt16) (name : String) : Prop :=
  ∃ names, session.labels = some names ∧ names[index.toNat]? = some name

/-- A hotspot has the name under which it is described. -/
theorem names_iff {session : Session} {index : UInt16} {name : String} : session.Names index name ↔
    ∃ card hotspot, session.card = some card ∧ card.hotspots.get? index = some hotspot ∧
      hotspot.describe = name := by
  cases isOpen : session.card with
  | none => simp [Names, labels, isOpen]
  | some card => simp [Names, labels, isOpen, HotspotTable.get?]

/-- Nothing has happened to where the pointer is. -/
structure Unmoved (session later : Session) : Prop where
  tracker : later.tracker = session.tracker
  labels : later.labels = session.labels
  transcript : ∃ during, later.transcript = during ++ session.transcript ∧
    ∀ happening ∈ during, happening.Unmoving

/-- Where nothing is moved the hotspots keep their names. -/
theorem Unmoved.names {session later : Session} (h : session.Unmoved later) {index : UInt16} {name : String} :
    later.Names index name ↔ session.Names index name := by
  rw [Names, Names, h.labels]

/-- Something that concerns neither the card nor the tracker, with at most one happening. -/
theorem Unmoved.of {session later : Session} (card : later.card = session.card)
    (tracker : later.tracker = session.tracker) (happening : Option Happening)
    (transcript : later.transcript = happening.toList ++ session.transcript)
    (unmoving : ∀ one ∈ happening, one.Unmoving) : session.Unmoved later := by
  refine ⟨tracker, by rw [Session.labels, Session.labels, card], happening.toList, transcript, ?_⟩
  intro one among
  exact unmoving one (Option.mem_toList.mp among)

end Session

theorem ScriptChain.unmoved {session later : Session} (chain : ScriptChain session later) :
    session.Unmoved later := by
  obtain ⟨during, transcript, ofScript⟩ := chain.notes
  refine ⟨chain.continues.tracker, ?_, during, transcript, fun one among => (ofScript one among).unmoving⟩
  have related := chain.continues.card
  rw [Session.labels, Session.labels]
  generalize session.card = before, later.card = after at related
  cases related with
  | none => rfl
  | some continues =>
    have same := congrArg (List.map Hotspot.describe) continues.hotspots
    rw [List.map_map, List.map_map] at same
    exact congrArg some same

/-! ## The invariant -/

namespace Session

/-- What was recorded of hotspots is in order, and the open card has those it is about. -/
structure Visited (session : Session) : Prop where
  paired : Happening.Each Happening.Paired session.transcript
  remembers : ∀ entered, Happening.inside session.transcript = some entered →
    session.Names entered.index entered.describe
  tracks : ∀ index, session.tracker.active = some index → ∃ name, session.Names index name

/-- The tracker holds the number of the hotspot that was entered last and not left. -/
def Agrees (session : Session) : Prop :=
  session.tracker.active = (Happening.inside session.transcript).map (·.index)

/-- Where the pointer is between two events. -/
def AtRest (session : Session) : Prop :=
  session.Visited ∧ (session.Agrees ∨
    Happening.inside session.transcript = none ∧ Happening.stranded session.transcript = true)

/-- Where the pointer is while a card change is asked for. The exit script may have asked for it, and then
the entry is dropped. -/
def Departing (session : Session) : Prop :=
  session.Visited ∧ (session.Agrees ∨
    Happening.inside session.transcript = none ∧ Happening.leftLast session.transcript = true)

/-- Where the pointer is at rest, a card change may be asked for. -/
theorem AtRest.departing {session : Session} (h : session.AtRest) : session.Departing :=
  ⟨h.1, h.2.imp_right fun stranded => ⟨stranded.1, Happening.leftLast_of_stranded stranded.2⟩⟩

namespace Unmoved

variable {session later : Session} (h : session.Unmoved later)
include h

/-- What was recorded of hotspots stays in order. -/
theorem visited (visited : session.Visited) : later.Visited := by
  obtain ⟨during, transcript, unmoving⟩ := h.transcript
  obtain ⟨inside, _, _, paired⟩ := Happening.reads_append unmoving session.transcript
  refine ⟨transcript ▸ paired visited.paired, fun entered here => ?_, fun index active => ?_⟩
  · rw [transcript, inside] at here
    exact h.names.mpr (visited.remembers entered here)
  · rw [h.tracker] at active
    obtain ⟨name, named⟩ := visited.tracks index active
    exact ⟨name, h.names.mpr named⟩

/-- The hotspot entered last is the same. -/
theorem inside : Happening.inside later.transcript = Happening.inside session.transcript := by
  obtain ⟨during, transcript, unmoving⟩ := h.transcript
  rw [transcript]
  exact (Happening.reads_append unmoving session.transcript).1

/-- What the pointer did last is the same. -/
theorem leftLast : Happening.leftLast later.transcript = Happening.leftLast session.transcript := by
  obtain ⟨during, transcript, unmoving⟩ := h.transcript
  rw [transcript]
  exact (Happening.reads_append unmoving session.transcript).2.1

/-- The tracker agrees with what was recorded, if it did. -/
theorem agrees (agrees : session.Agrees) : later.Agrees := by
  rw [Agrees, h.tracker, h.inside]
  exact agrees

/-- What holds while a card change is asked for holds on. -/
theorem departing (departing : session.Departing) : later.Departing := by
  refine ⟨h.visited departing.1, departing.2.imp h.agrees fun left => ?_⟩
  rw [h.inside, h.leftLast]
  exact left

/-- A pointer at rest stays at rest. -/
theorem atRest (atRest : session.AtRest) : later.AtRest := by
  refine ⟨h.visited atRest.1, atRest.2.imp h.agrees fun stranded => ⟨h.inside.trans stranded.1, ?_⟩⟩
  obtain ⟨during, transcript, unmoving⟩ := h.transcript
  rw [transcript]
  exact (Happening.reads_append unmoving session.transcript).2.2.1 stranded.2

end Unmoved

/-- A card change that is refused, or cut off, strands the pointer if its entry was dropped. -/
theorem Departing.refused {session later : Session} (h : session.Departing) (unmoved : session.Unmoved later)
    (stranded : Happening.leftLast session.transcript = true → Happening.stranded later.transcript = true) :
    later.AtRest :=
  ⟨unmoved.visited h.1, h.2.imp unmoved.agrees fun left => ⟨unmoved.inside.trans left.1, stranded left.2⟩⟩

/-- With the card all that was owed of its hotspots is over. -/
theorem closeCard_atRest {session : Session} (h : session.Departing) (isOpen : session.card.isSome = true) :
    session.closeCard.AtRest := by
  obtain ⟨card, isOpen⟩ := Option.isSome_iff_exists.mp isOpen
  obtain ⟨player, same⟩ := closeCard_of_some isOpen
  have stopped : ∀ happening ∈ Happening.updates .closed :: ((playing card).map Happening.stopped).reverse,
      happening.Unmoving := by
    simp only [List.mem_cons, List.mem_reverse, List.mem_map]
    rintro happening (rfl | ⟨media, _, rfl⟩) <;> trivial
  have paired := (Happening.reads_append stopped session.transcript).2.2.2 h.1.paired
  rw [same]
  exact ⟨⟨⟨trivial, paired⟩, nofun, nofun⟩, .inl rfl⟩

/-- With no card open the pointer is nowhere. -/
theorem Visited.nowhere {session : Session} (h : session.Visited) (closed : session.card = none) :
    session.tracker.active = none := by
  rw [Option.eq_none_iff_forall_not_mem]
  intro index active
  obtain ⟨name, named⟩ := h.tracks index active
  obtain ⟨card, _, isOpen, _⟩ := names_iff.mp named
  rw [closed] at isOpen
  cases isOpen

/-- Where a card is opened the pointer is nowhere. -/
theorem Departing.arrived {session : Session} (h : session.Departing) (closed : session.card = none)
    (location : Location) (card : OpenCard) : (session.arrived location card).AtRest := by
  have nowhere : session.tracker.active = none := h.1.nowhere closed
  refine ⟨⟨⟨trivial, trivial, h.1.paired⟩, nofun, fun index active => ?_⟩, .inl nowhere⟩
  exact absurd (nowhere.symm.trans active) nofun

end Session

/-! ## Tests of the pointer -/

namespace Session

/-- A hotspot is entered, after the one before has been left. -/
theorem Visited.enters {session : Session} {card : OpenCard} {hotspot : Hotspot Float32} {index : UInt16}
    (h : session.Visited) (outside : Happening.inside session.transcript = none)
    (active : session.tracker.active = some index) (numbered : session.Numbered)
    (isOpen : session.card = some card) (found : card.hotspots.get? index = some hotspot) :
    (session.record (.hotspotEntered hotspot)).AtRest := by
  have here : hotspot.index = index := HotspotTable.index_of_get? (numbered card isOpen) found
  refine ⟨⟨⟨outside, h.paired⟩, fun entered same => ?_, h.tracks⟩, .inl ?_⟩
  · cases same
    refine names_iff.mpr ⟨card, hotspot, isOpen, ?_, rfl⟩
    rw [here]
    exact found
  · exact active.trans (congrArg some here.symm)

/-- A hotspot is left, while the tracker holds the number of the next one already. -/
theorem AtRest.leaves {session : Session} {card : OpenCard} {hotspot : Hotspot Float32} {index : UInt16}
    (h : session.AtRest) (active : session.tracker.active = some index) (numbered : session.Numbered)
    (isOpen : session.card = some card) (found : card.hotspots.get? index = some hotspot) :
    (session.tested.record (.hotspotExited hotspot)).Visited := by
  have here : hotspot.index = index := HotspotTable.index_of_get? (numbered card isOpen) found
  refine ⟨⟨?_, h.1.paired⟩, nofun, fun next hit => ?_⟩
  · obtain agrees | stranded := h.2
    · left
      obtain ⟨entered, last, same⟩ := Option.map_eq_some_iff.mp (agrees.symm.trans active)
      obtain ⟨card', hotspot', isOpen', found', name⟩ := names_iff.mp (h.1.remembers entered last)
      rw [isOpen] at isOpen'
      cases isOpen'
      rw [same, found] at found'
      cases found'
      exact ⟨entered, last, same.trans here.symm, name.symm⟩
    · exact .inr stranded
  · obtain ⟨card, hotspot, isOpen, found, _⟩ := hotspotUnderPointer_of_hitIndex numbered hit
    exact ⟨hotspot.describe, names_iff.mpr ⟨card, hotspot, isOpen, found, rfl⟩⟩

end Session

namespace Script

open Session

/-- What is recorded of hotspots is in order. -/
abbrev InOrder (session : Session) : Prop :=
  Happening.Each Happening.Paired session.transcript

variable {session : Session} {card : OpenCard} {hotspot : Hotspot Float32} {index : UInt16}

/-- A move is made known: it is recorded, and then there is nothing but a script. -/
private theorem known_sat {notice : Hotspot Float32 → Notice} {trigger : Trigger}
    (isOpen : session.card = some card) (found : card.hotspots.get? index = some hotspot)
    (inOrder : InOrder (session.record (notice hotspot))) :
    ((do
      match (← get).card.bind (·.hotspots.get? index) with
      | some hotspot => record (notice hotspot)
      | none => Pure.pure ()
      runHotspotScript index trigger : Script (Option Location)) session).Sat InOrder fun later result =>
        ∃ pending, result = .ok pending ∧ ScriptChain (session.record (notice hotspot)) later := by
  have here : session.card.bind (·.hotspots.get? index) = some hotspot := by simp [isOpen, found]
  rw [get_bind, here]
  have runs := runHotspotScript_runs index trigger
  have both := (runs.script (session.record (notice hotspot))).and (runs.unfailing _)
  refine both.mono (fun later h => ?_) ?_
  · obtain ⟨during, transcript, unmoving⟩ := h.1.unmoved.transcript
    rw [InOrder, transcript]
    exact (Happening.reads_append unmoving _).2.2.2 inOrder
  · rintro later result ⟨chain, pending, same⟩
    exact ⟨pending, same, chain⟩

/-- The pointer has come from nowhere, or has left a hotspot, and enters one. -/
theorem enter_sat (visited : session.Visited) (outside : Happening.inside session.transcript = none)
    (active : session.tracker.active = some index) (numbered : session.Numbered) :
    (makeMoves [.entered index] session).Sat InOrder fun later result =>
      ∃ pending, result = .ok pending ∧ later.AtRest := by
  obtain ⟨name, named⟩ := visited.tracks index active
  obtain ⟨card, hotspot, isOpen, found, -⟩ := names_iff.mp named
  have entered := visited.enters outside active numbered isOpen found
  refine sat_bind_ok (known_sat isOpen found entered.1.paired) fun later pending chain => ?_
  have atRest := chain.unmoved.atRest entered
  cases pending with
  | none => exact ⟨none, rfl, atRest⟩
  | some target => exact ⟨some target, rfl, atRest⟩

/-- A test of the pointer keeps the order. If the exit script asks for a card change, the entry is dropped. -/
theorem refreshHover_pairs (h : session.AtRest) (numbered : session.Numbered) :
    (refreshHover session).Sat InOrder fun later result =>
      later.Departing ∧ (result = .ok none → later.AtRest) := by
  have tracks : ∀ next, session.hitIndex = some next → ∃ name, session.Names next name := by
    intro next hit
    obtain ⟨card, hotspot, isOpen, found, _⟩ := hotspotUnderPointer_of_hitIndex numbered hit
    exact ⟨hotspot.describe, names_iff.mpr ⟨card, hotspot, isOpen, found, rfl⟩⟩
  have tested : session.tested.Visited := ⟨h.1.paired, h.1.remembers, tracks⟩
  change (makeMoves (session.tracker.moves session.hitIndex) session.tested).Sat _ _
  by_cases still : session.hitIndex = session.tracker.active
  · -- The pointer is where it was, and nothing is made known.
    have same : session.tested = session := by
      rw [Session.tested, still]
      rfl
    rw [HotspotTracker.moves, if_pos still, same]
    exact ⟨h.departing, fun _ => h⟩
  · rw [HotspotTracker.moves, if_neg still]
    have entering {between : Session} {next : UInt16} (hit : session.hitIndex = some next)
        (visited : between.Visited) (outside : Happening.inside between.transcript = none)
        (tracker : between.tracker = session.tested.tracker) (numbered : between.Numbered) :
        (makeMoves [.entered next] between).Sat InOrder fun later result =>
          later.Departing ∧ (result = .ok none → later.AtRest) := by
      have active : between.tracker.active = some next := by
        rw [tracker]
        exact hit
      refine (enter_sat visited outside active numbered).imp ?_
      rintro later result ⟨_, _, atRest⟩
      exact ⟨atRest.departing, fun _ => atRest⟩
    cases active : session.tracker.active with
    | none =>
      have outside : Happening.inside session.transcript = none := by
        obtain agrees | stranded := h.2
        · exact Option.map_eq_none_iff.mp (agrees.symm.trans active)
        · exact stranded.1
      cases hit : session.hitIndex with
      | none => exact absurd (hit.trans active.symm) still
      | some next => exact entering hit tested outside rfl numbered
    | some index =>
      obtain ⟨name, named⟩ := h.1.tracks index active
      obtain ⟨card, hotspot, isOpen, found, -⟩ := names_iff.mp named
      -- The hotspot is left first, and the script for that may ask for a card. Then nothing is entered.
      have left := h.leaves active numbered isOpen found
      refine sat_bind_ok (known_sat isOpen found left.paired) fun later pending chain => ?_
      have unmoved := chain.unmoved
      have visited := unmoved.visited left
      have outside : Happening.inside later.transcript = none := unmoved.inside
      have leftLast : Happening.leftLast later.transcript = true := unmoved.leftLast
      cases pending with
      | some target => exact ⟨⟨visited, .inr ⟨outside, leftLast⟩⟩, nofun⟩
      | none =>
        cases hit : session.hitIndex with
        | none =>
          have agrees : later.Agrees := by
            rw [Agrees, unmoved.tracker, outside]
            exact hit
          exact ⟨⟨visited, .inl agrees⟩, fun _ => ⟨visited, .inl agrees⟩⟩
        | some next =>
          have numbered : later.Numbered := chain.continues.numbered numbered
          exact entering hit visited outside unmoved.tracker numbered

end Script

/-! ## Every run -/

namespace Session

open Script

/-- To switch hotspots does not rename them. -/
theorem labels_onCard {session : Session} {change : OpenCard → OpenCard}
    (same : ∀ card, (change card).hotspots.hotspots.map Hotspot.describe
      = card.hotspots.hotspots.map Hotspot.describe) : (session.onCard change).labels = session.labels := by
  cases isOpen : session.card with
  | none => simp [labels, onCard, isOpen]
  | some card => simp [labels, onCard, isOpen, same]

/-- Scripts record no moves, so they keep the record in order. -/
theorem inOrder_of_chain {session later : Session} (inOrder : InOrder session)
    (chain : ScriptChain session later) : InOrder later := by
  obtain ⟨during, transcript, unmoving⟩ := chain.unmoved.transcript
  rw [InOrder, transcript]
  exact (Happening.reads_append unmoving session.transcript).2.2.2 inOrder

/-- Something that concerns neither the card nor the tracker. -/
theorem AtRest.of {session later : Session} (h : session.AtRest) (card : later.card = session.card)
    (tracker : later.tracker = session.tracker) (happening : Option Happening)
    (transcript : later.transcript = happening.toList ++ session.transcript)
    (unmoving : ∀ one ∈ happening, one.Unmoving) : later.AtRest :=
  (Unmoved.of card tracker happening transcript unmoving).atRest h

/-- Nothing else of the session matters to a pointer at rest. -/
theorem AtRest.still {session later : Session} (h : session.AtRest) (card : later.card = session.card)
    (tracker : later.tracker = session.tracker) (transcript : later.transcript = session.transcript) :
    later.AtRest :=
  h.of card tracker none transcript nofun

/-- Nor does it while a card change is asked for. -/
theorem Departing.still {session later : Session} (h : session.Departing) (card : later.card = session.card)
    (tracker : later.tracker = session.tracker) (transcript : later.transcript = session.transcript) :
    later.Departing :=
  (Unmoved.of card tracker none transcript nofun).departing h

/-- The record is kept in order at every step, and between two events the tracker agrees with it or the pointer
is stranded. -/
theorem pairing_upkeep : Upkeep (fun session => session.resolver.Sound ∧ session.Numbered) InOrder
    Departing AtRest where
  act act a := ⟨act.sound a.1, act.numbered a.2⟩
  owes _ h := h.departing
  script label commands _ h := by
    have script := (runScript_runs label commands).script
    refine (script _).mono (fun _ chain => inOrder_of_chain h.1.paired chain) fun _ _ chain => ?_
    exact ⟨chain.unmoved.departing h, fun atRest _ => chain.unmoved.atRest atRest⟩
  sound a := a.1
  hover a h := refreshHover_pairs h a.2
  leaves running _ h := Departing.still h rfl rfl rfl
  closes _ h isOpen := closeCard_atRest h isOpen
  opens location _ h closed _ _ := (Departing.arrived h closed location _).departing
  -- Nothing between the opening of a card and its first frame enters or leaves a hotspot.
  reveals location h closed script _ _ _ _ := by
    have prepared := script.unmoved.atRest (Departing.arrived h closed location _)
    refine (publish_chain rfl).unmoved.atRest ?_
    exact prepared.of rfl rfl (some (.updates .shown)) rfl (by simp [Happening.Unmoving])
  resolves key _ h := Departing.still h rfl rfl rfl
  refuses {session} location error _ h := by
    have noted : session.Unmoved (session.onStage (·.note (.refused location))) :=
      .of rfl rfl (some (.refused location)) rfl (by simp [Happening.Unmoving])
    exact (noted.departing h).refused (ScriptAct.fails "goto" error).chain.unmoved id
  cutsOff _ h := h.refused (Unmoved.of rfl rfl (some .cutOff) rfl (by simp [Happening.Unmoving])) id
  suffers act _ h := (ScriptAct.suffered act).chain.unmoved.atRest h
  points point _ h := AtRest.still h rfl rfl rfl
  presses down _ h := AtRest.still h rfl rfl rfl
  resizes {session} viewport _ h := by
    let change (card : OpenCard) : OpenCard :=
      { card with hotspots := card.hotspots.resize (session.mapper.resize viewport) }
    have same (card : OpenCard) : (change card).hotspots.hotspots.map Hotspot.describe
        = card.hotspots.hotspots.map Hotspot.describe := by
      simp only [change, HotspotTable.resize, List.map_map]
      rfl
    have resized : session.Unmoved { session.onCard change with mapper := session.mapper.resize viewport } :=
      ⟨rfl, labels_onCard same, [], rfl, by simp⟩
    exact (publishIfNeeded_chain _).unmoved.atRest (resized.atRest h)
  takesCues _ h := AtRest.of h rfl rfl (some (.cuesTaken _)) rfl (by simp [Happening.Unmoving])
  firesCue cue _ h := AtRest.of h rfl rfl (some (.cueFired cue)) rfl (by simp [Happening.Unmoving])
  putsVariables game _ h := AtRest.still h rfl rfl rfl
  restores _ h := AtRest.of h rfl rfl (some (.recorded .stateRestored)) rfl (by simp [Happening.Unmoving])
  finishes {session} code _ h _ := by
    let ended := session.onMovie code fun slot =>
      if slot.movie.looping then slot else { slot with playing := false }
    have changed : ended.AtRest := (ScriptAct.setVisual _).chain.unmoved.atRest h
    have recorded : (ended.record (.movieFinished code)).AtRest :=
      changed.of rfl rfl (some (.recorded (.movieFinished code))) rfl (by simp [Happening.Unmoving])
    exact (publishIfNeeded_chain _).unmoved.atRest recorded

end Session

namespace Reachable

variable {progress : Progress (Except ScriptError Unit)}

/-- At every moment what was recorded of hotspots is in order, and between two events the pointer is at rest. -/
theorem atRest (reachable : Reachable progress) :
    progress.Sat Script.InOrder fun session _ => session.AtRest := by
  have start (config : EngineConfig) (provider : Provider) (player : MediaPlayer) :
      (Session.ofStage (.ofConfig config provider player)).AtRest :=
    ⟨⟨trivial, nofun, nofun⟩, .inl rfl⟩
  have upheld := reachable.upheld Session.pairing_upkeep fun config provider player =>
    ⟨⟨.empty provider 0, fun _ isOpen => nomatch isOpen⟩, start config provider player⟩
  exact upheld.imp fun _ _ h => h.2

/-- At every moment, what was recorded of hotspots is in order: one is entered when the one before has been
left, and the one that is left is the one entered last. Between two events the tracker holds the number of
the one entered last, if it has not been left. In both there is the one gap: a card change has been refused
since a hotspot was left, and no entry has been recorded since. -/
theorem hover_pairs (reachable : Reachable progress) :
    (∀ later hotspot earlier,
      progress.session.transcript = later ++ .recorded (.hotspotEntered hotspot) :: earlier →
        Happening.inside earlier = none) ∧
    (∀ later left earlier,
      progress.session.transcript = later ++ .recorded (.hotspotExited left) :: earlier →
        (∃ entered, Happening.inside earlier = some entered ∧ entered.index = left.index ∧
          entered.describe = left.describe) ∨
        Happening.inside earlier = none ∧ Happening.stranded earlier = true) ∧
    ∀ session result, progress = .done session result →
      session.tracker.active = (Happening.inside session.transcript).map (·.index) ∨
      Happening.inside session.transcript = none ∧ Happening.stranded session.transcript = true := by
  have inOrder : Script.InOrder progress.session := (reachable.atRest.imp fun _ _ h => h.1.paired).now
  refine ⟨fun later hotspot earlier split => ?_, fun later left earlier split => ?_, ?_⟩
  · rw [Script.InOrder, split] at inOrder
    exact inOrder.at
  · rw [Script.InOrder, split] at inOrder
    exact inOrder.at
  · rintro session result rfl
    exact reachable.atRest.2

/-- The exit script of a hotspot asks for a card that there is not, while the pointer goes into the next
hotspot. The pointer is in that one, and no entry was recorded. -/
theorem hover_pairs_dropped : ∃ session : Session, Reachable (.done session (.ok ())) ∧
    session.tracker.active = some 1 ∧ Happening.inside session.transcript = none ∧
    Happening.stranded session.transcript = true ∧
    ∃ later hotspot earlier, session.transcript = later ++ .recorded (.hotspotEntered hotspot) :: earlier ∧
      Happening.inside earlier = none := by
  let left : HotspotRecord :=
    { id := 1, rect := ⟨0, 0, 304, 392⟩, cursor := 0, name := "left", enabled := true
      scripts := [⟨5, [.op 2 [9]]⟩] }
  let right : HotspotRecord :=
    { id := 2, rect := ⟨304, 0, 608, 392⟩, cursor := 0, name := "right", enabled := true, scripts := [] }
  let dropped (session : Session) : Bool :=
    session.tracker.active == some 1 && (Happening.inside session.transcript).isNone
      && session.transcript.any Happening.isEntry
  have ran : ((Session.beginning "a" [(1, { hotspots := [left, right] })]).after?
      [.message (.goto ⟨"a", 1⟩ none), .message (.pointerMoved ⟨100, 200⟩),
        .message (.pointerMoved ⟨400, 200⟩)]).any dropped = true := by decide +kernel
  obtain ⟨session, reachable, here⟩ := Session.exists_after "a" _ ran
  simp only [dropped, Bool.and_eq_true, beq_iff_eq, Option.isNone_iff_eq_none] at here
  obtain ⟨⟨active, outside⟩, entered⟩ := here
  obtain ⟨enters, _, rests⟩ := hover_pairs reachable
  refine ⟨session, reachable, active, outside, ?_, ?_⟩
  · obtain agrees | stranded := rests session (.ok ()) rfl
    · rw [active, outside] at agrees
      cases agrees
    · exact stranded.2
  · obtain ⟨one, among, isEntry⟩ := List.any_eq_true.mp entered
    obtain ⟨hotspot, rfl⟩ := Happening.isEntry_iff.mp isEntry
    obtain ⟨later, earlier, split⟩ := List.append_of_mem among
    exact ⟨later, hotspot, earlier, split, enters later hotspot earlier split⟩

end Reachable

end Diorama
