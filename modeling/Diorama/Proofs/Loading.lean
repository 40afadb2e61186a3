import Diorama.OpenCard
import Diorama.Proofs.CardLayout
import Mathlib.Logic.Relation

/-!
# What is loaded is what was asked for

A resolver files stacks under their own keys (`Resolver.Sound`), so the stack it gives under a key has
that key. A card that is loaded from a stack is that stack's card with the id asked for, has published
nothing, and its hotspots are numbered by their places (`OpenCard.Loaded`).

The numbers of hotspots are words, and the places in a list are not. That they agree is owed to the stored
form, which counts the hotspots of a card with a word.
-/

namespace Diorama

/-! ## Stacks -/

/-- A stack is loaded under the key that was asked for. -/
theorem Stack.key_of_load {provider : Provider} {key : String} {stack : Stack}
    (h : Stack.load provider key = .ok stack) : stack.key = key := by
  obtain ⟨archives, _, loaded⟩ := Except.bind_eq_ok_iff.mp h
  obtain ⟨names, _, same⟩ := Except.bind_eq_ok_iff.mp loaded
  cases same
  rfl

namespace Resolver

section

variable {resolver later : Resolver} {key : String} {answer : Except StackError LoadedStack}

/-- A stack is resolved in one of three ways: it is there, or it cannot be loaded, or it is loaded and filed. -/
theorem resolve_cases (resolves : resolver.resolve key = (answer, later)) :
    (∃ stack, resolver.loaded? key = some stack ∧ answer = .ok stack ∧ later = resolver) ∨
      resolver.loaded? key = none ∧ later.provider = resolver.provider ∧ later.loads = resolver.loads + 1 ∧
        ((∃ error, Stack.load resolver.provider key = .error error ∧ answer = .error error ∧
            later.active = resolver.active) ∨
          ∃ stack, Stack.load resolver.provider key = .ok stack ∧
            answer = .ok { serial := resolver.loads + 1, stack } ∧
            later.active = resolver.active.insert key { serial := resolver.loads + 1, stack }) := by
  unfold resolve at resolves
  split at resolves
  next stack found =>
    cases resolves
    exact .inl ⟨stack, found, rfl, rfl⟩
  next missing =>
    refine .inr ⟨missing, ?_⟩
    dsimp only at resolves
    split at resolves
    next error fails =>
      cases resolves
      exact ⟨rfl, rfl, .inl ⟨error, fails, rfl, rfl⟩⟩
    next stack loads =>
      cases resolves
      exact ⟨rfl, rfl, .inr ⟨stack, loads, rfl, rfl⟩⟩

/-- What is loaded stays loaded when a stack is resolved. -/
theorem loaded?_of_resolve (resolves : resolver.resolve key = (answer, later)) {other : String}
    {loaded : LoadedStack} (found : resolver.loaded? other = some loaded) :
    later.loaded? other = some loaded := by
  rcases resolve_cases resolves with ⟨_, -, -, rfl⟩ | ⟨missing, -, -, ⟨_, -, -, active⟩ | ⟨stack, -, -, active⟩⟩
  · exact found
  · rwa [loaded?, active]
  · have different : other ≠ key := by
      rintro rfl
      cases missing.symm.trans found
    rwa [loaded?, active, SortedMap.get?_insert, if_neg different]

end

/-- Every loaded stack is filed under its key. -/
def Sound (resolver : Resolver) : Prop :=
  ∀ key loaded, resolver.loaded? key = some loaded → loaded.stack.key = key

/-- Where nothing is loaded nothing is filed wrongly. -/
theorem Sound.empty (provider : Provider) (loads : Nat) : Sound { provider, loads } :=
  fun _ _ h => nomatch h

/-- Resolving a key gives the stack with that key, and leaves every stack where it belongs. -/
theorem Sound.resolve {resolver : Resolver} (sound : resolver.Sound) (key : String) :
    (resolver.resolve key).2.Sound
      ∧ ∀ loaded, (resolver.resolve key).1 = .ok loaded → loaded.stack.key = key := by
  cases resolves : resolver.resolve key with
  | mk answer later =>
    rcases resolve_cases resolves with ⟨stack, found, rfl, rfl⟩ |
      ⟨-, -, -, ⟨error, -, rfl, active⟩ | ⟨stack, loads, rfl, active⟩⟩
    · refine ⟨sound, fun loaded same => ?_⟩
      cases same
      exact sound key stack found
    · refine ⟨fun other loaded filed => ?_, nofun⟩
      rw [loaded?, active] at filed
      exact sound other loaded filed
    · have own := Stack.key_of_load loads
      refine ⟨fun other loaded filed => ?_, fun loaded same => ?_⟩
      · rw [loaded?, active, SortedMap.get?_insert] at filed
        split at filed
        next same =>
          cases filed
          exact own.trans same.symm
        next => exact sound other loaded filed
      · cases same
        exact own

/-- Resolving a key does nothing to the stacks under other keys. -/
theorem loaded?_resolve_of_ne (resolver : Resolver) {key other : String} (different : other ≠ key) :
    (resolver.resolve key).2.loaded? other = resolver.loaded? other := by
  cases resolves : resolver.resolve key with
  | mk answer later =>
    rcases resolve_cases resolves with ⟨_, -, -, rfl⟩ | ⟨-, -, -, ⟨_, -, -, active⟩ | ⟨_, -, -, active⟩⟩
    · rfl
    · rw [loaded?, active, loaded?]
    · rw [loaded?, active, SortedMap.get?_insert, if_neg different, loaded?]

/-- Resolving a key that is loaded does nothing. -/
theorem resolve_of_loaded {resolver : Resolver} {key : String} {loaded : LoadedStack}
    (found : resolver.loaded? key = some loaded) : (resolver.resolve key).2 = resolver := by
  unfold resolve
  rw [found]

/-- To ask for a stack does not change the provider. -/
theorem provider_resolve (resolver : Resolver) (key : String) :
    (resolver.resolve key).2.provider = resolver.provider := by
  cases resolves : resolver.resolve key with
  | mk answer later =>
    rcases resolve_cases resolves with ⟨_, -, -, rfl⟩ | ⟨-, provides, -⟩
    · rfl
    · exact provides

/-- The resolver has been asked for stacks, and nothing else has been done to it. -/
def Asked : Resolver → Resolver → Prop :=
  Relation.ReflTransGen fun resolver later => ∃ key, later = (resolver.resolve key).2

/-- The stacks are filed under their keys, whatever is asked for. -/
theorem Asked.sound {resolver later : Resolver} (asked : resolver.Asked later) (sound : resolver.Sound) :
    later.Sound := by
  induction asked with
  | refl => exact sound
  | tail _ step ih =>
    obtain ⟨key, rfl⟩ := step
    exact (ih.resolve key).1

/-- A stack that was loaded before others were asked for is loaded still. -/
theorem Asked.loaded? {resolver later : Resolver} (asked : resolver.Asked later) {key : String}
    {loaded : LoadedStack} (found : resolver.loaded? key = some loaded) : later.loaded? key = some loaded := by
  induction asked with
  | refl => exact found
  | tail _ step ih =>
    obtain ⟨other, rfl⟩ := step
    exact loaded?_of_resolve rfl ih

/-- The stacks come from this provider: what is loaded is what it gives under the key. -/
structure Serves (resolver : Resolver) (provider : Provider) : Prop where
  source : resolver.provider = provider
  loaded : ∀ key loaded, resolver.loaded? key = some loaded → Stack.load provider key = .ok loaded.stack

/-- A stack that is asked for is what the provider gives, whether it is loaded now or has been before. -/
theorem Serves.resolve {resolver later : Resolver} {provider : Provider} (serves : resolver.Serves provider)
    {key : String} {answer : Except StackError LoadedStack} (resolves : resolver.resolve key = (answer, later)) :
    later.Serves provider ∧ answer.map (·.stack) = Stack.load provider key ∧
      ∀ loaded, answer = .ok loaded → later.loaded? key = some loaded := by
  rcases resolve_cases resolves with ⟨stack, found, rfl, rfl⟩ |
    ⟨missing, provides, -, ⟨error, fails, rfl, active⟩ | ⟨stack, loads, rfl, active⟩⟩
  · refine ⟨serves, (serves.loaded key stack found).symm, ?_⟩
    rintro _ ⟨⟩
    exact found
  · rw [serves.source] at fails
    rw [fails]
    refine ⟨⟨provides.trans serves.source, fun other loaded filed => ?_⟩, rfl, nofun⟩
    rw [Resolver.loaded?, active] at filed
    exact serves.loaded other loaded filed
  · rw [serves.source] at loads
    rw [loads]
    -- Only what is filed under this key is new, and that has just come from the provider.
    have filed (other : String) : later.loaded? other =
        if other = key then some ⟨resolver.loads + 1, stack⟩ else resolver.loaded? other := by
      rw [Resolver.loaded?, active, SortedMap.get?_insert]
      rfl
    refine ⟨⟨provides.trans serves.source, fun other loaded found => ?_⟩, rfl, ?_⟩
    · rw [filed] at found
      split at found
      next same =>
        cases found
        rw [same, loads]
      next => exact serves.loaded other loaded found
    · rintro _ ⟨⟩
      exact (filed key).trans (if_pos rfl)

/-- What was asked for has been had from the provider. -/
theorem Serves.asked {resolver later : Resolver} {provider : Provider} (serves : resolver.Serves provider)
    (asked : resolver.Asked later) : later.Serves provider := by
  induction asked with
  | refl => exact serves
  | tail _ step ih =>
    obtain ⟨key, rfl⟩ := step
    exact (ih.resolve rfl).1

end Resolver

/-! ## Hotspots -/

namespace HotspotTable

variable {R : Type}

/-- Every hotspot has the number of its place. -/
def Numbered (table : HotspotTable R) : Prop :=
  ∀ place (hotspot : Hotspot R),
    table.hotspots[place]? = some hotspot → hotspot.index.toNat = place

/-- Numbers are part of what only the author decides. -/
theorem Numbered.of_fixed {table later : HotspotTable R} (numbered : table.Numbered)
    (same : later.hotspots.map (·.index) = table.hotspots.map (·.index)) : later.Numbered := by
  intro place hotspot found
  have index : (table.hotspots.map (·.index))[place]? = some hotspot.index := by
    rw [← same, List.getElem?_map, found]
    rfl
  rw [List.getElem?_map, Option.map_eq_some_iff] at index
  obtain ⟨original, there, sameIndex⟩ := index
  rw [← sameIndex]
  exact numbered place original there

/-- Hotspots are numbered by their places, as long as a word can count them. -/
theorem numbered_ofRecords [Coordinate R] (mapper : Mapper R) {records : List HotspotRecord}
    (few : records.length ≤ 65535) : (ofRecords mapper records).Numbered := by
  intro place hotspot found
  rw [ofRecords, List.getElem?_mapIdx, Option.map_eq_some_iff] at found
  obtain ⟨record, there, rfl⟩ := found
  obtain ⟨below, _⟩ := List.getElem?_eq_some_iff.mp there
  exact Nat.mod_eq_of_lt (by omega)

end HotspotTable

/-! ## Cards -/

/-- A card as it is when it has just been loaded. -/
structure OpenCard.Loaded (stack : Stack) (id : UInt16) (card : OpenCard) : Prop where
  stack : card.stack = stack
  id : card.id = id
  numbered : card.hotspots.Numbered
  visual : card.visual = {}
  published : card.published = none

/-- The record of a card was read from octets, and its hotspots are those of the record. -/
theorem OpenCard.decoded_of_load {stack : Stack} {id : UInt16} {mapper : Mapper Float32} {card : OpenCard}
    (h : load stack id mapper = .ok card) : ∃ bytes, CardRecord.decode bytes = .ok card.record ∧
      card = { stack, id, record := card.record, hotspots := .ofRecords mapper card.record.hotspots } := by
  obtain ⟨record, found, made⟩ := Except.bind_eq_ok_iff.mp h
  obtain ⟨bytes, _, decoded⟩ := Except.bind_eq_ok_iff.mp found
  cases made
  refine ⟨bytes, ?_, rfl⟩
  cases read : CardRecord.decode bytes with
  | ok other =>
    rw [read] at decoded
    cases decoded
    rfl
  | error cause =>
    rw [read] at decoded
    cases decoded

/-- A card that was just read is as its record has it. -/
theorem OpenCard.loaded_of_load {stack : Stack} {id : UInt16} {mapper : Mapper Float32}
    {card : OpenCard} (h : load stack id mapper = .ok card) : Loaded stack id card := by
  obtain ⟨bytes, decoded, same⟩ := decoded_of_load h
  rw [same]
  exact ⟨rfl, rfl, HotspotTable.numbered_ofRecords mapper (CardRecord.exists_laidOut_of_decode decoded).1.hotspots,
    rfl, rfl⟩

end Diorama
