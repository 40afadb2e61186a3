import Diorama.Proofs.Events
import Diorama.Proofs.History
import Mathlib.Data.List.DropRight
import Mathlib.Data.String.Basic

/-!
# A stack is loaded once between two clears

A resolver is asked for stacks, for cards of stacks and for what it has loaded, and is cleared from time to time;
meanwhile the files of the provider come and go. What has happened to it since it was new is a history of
`Resolver.Turns`: any calls, each with its answer and with whether the provider was asked, and any changes of the
provider.

The law reads every answer off the calls before it. The stack that was resolved first under a key since the last
clear (`firstResolved?`) is the answer from then on. The provider is asked just when there is none, and what it
gives at that moment is the answer then (`Answered`). What is loaded is what has been resolved since the last clear,
and a call that fails leaves no trace in it (`Resolver.loads_once`). A load looks for its stack once more when the
gate of the key has opened, and a last time before the stack is filed; one call after another finds nothing new
there (`Resolver.loadThroughGate_eq`).

Two stacks that hold the same are still two stacks: each has the number of its load, and no number is given out
twice, whether or not there has been a clear between. So it says something that the same stack is given out.
-/

namespace Diorama

/-- A card of a loaded stack. Whether the stack has the card is found out when it is opened. -/
structure CardDescriptor where
  stack : LoadedStack
  id : UInt16

/-- The card at a location, with its stack loaded if it must be. -/
def Resolver.resolveCard (resolver : Resolver) (location : Location) :
    Except StackError CardDescriptor × Resolver :=
  let (found, resolver) := resolver.resolve location.stack
  (found.map fun stack => { stack, id := location.id }, resolver)

/-- A session loads a card by resolving it and opening what was found. -/
theorem Script.loadCard_eq_resolveCard (location : Location) (session : Session) :
    loadCard location session =
      let (found, resolver) := session.resolver.resolveCard location
      .done { session with resolver } <|
        match found with
        | .error error => .error (.stack error)
        | .ok card => (OpenCard.load card.stack.stack card.id session.mapper).mapError .stack := by
  rw [loadCard_eq]
  unfold Session.resolved Session.cardAt Stage.resolve Resolver.resolveCard
  rcases session.resolver.resolve location.stack with ⟨found, resolver⟩
  cases found with
  | error error => rfl
  | ok stack => rfl

/-! ## What has happened to a resolver -/

/-- A call of a resolver with its answer, or a change of what its provider has. Where a stack is resolved it is
also said whether the provider was asked. -/
inductive ResolverEvent where
  | resolve (key : String) (asked : Bool) (answer : Except StackError LoadedStack)
  | resolveCard (location : Location) (asked : Bool) (answer : Except StackError CardDescriptor)
  | loaded (key : String) (answer : Option LoadedStack)
  | loadedKeys (answer : List String)
  | clear
  | provide (next : Provider)

namespace ResolverEvent

/-- The stack that was resolved in a call, with its key. -/
def resolved? : ResolverEvent → Option (String × LoadedStack)
  | .resolve key _ (.ok stack) => some (key, stack)
  | .resolveCard location _ (.ok card) => some (location.stack, card.stack)
  | _ => none

def isClear : ResolverEvent → Bool
  | .clear => true
  | _ => false

def provided? : ResolverEvent → Option Provider
  | .provide next => some next
  | _ => none

end ResolverEvent

/-- Whether a call makes one resolver into another, with this answer. -/
def Resolver.Turns (resolver : Resolver) (event : ResolverEvent) (later : Resolver) : Prop :=
  match event with
  | .resolve key asked answer =>
    resolver.resolve key = (answer, later) ∧ later.loads = resolver.loads + asked.toNat
  | .resolveCard location asked answer =>
    resolver.resolveCard location = (answer, later) ∧ later.loads = resolver.loads + asked.toNat
  | .loaded key answer => resolver.loaded? key = answer ∧ later = resolver
  | .loadedKeys answer => resolver.loadedKeys = answer ∧ later = resolver
  | .clear => later = resolver.clear
  | .provide next => later = { resolver with provider := next }

/-- What has been resolved since the last clear, with the keys, the oldest first. -/
def resolvedSinceClear (past : List ResolverEvent) : List (String × LoadedStack) :=
  (past.rtakeWhile (!·.isClear)).filterMap ResolverEvent.resolved?

/-- The stack that was resolved first under a key since the last clear. -/
def firstResolved? (past : List ResolverEvent) (key : String) : Option LoadedStack :=
  (resolvedSinceClear past).lookup key

/-- What the provider is by now. -/
def providerAfter (first : Provider) (past : List ResolverEvent) : Provider :=
  (past.filterMap ResolverEvent.provided?).getLastD first

/-- An answer as the past has it: the stack that was resolved first since the last clear, or else what the provider
has by now. -/
structure Answered (first : Provider) (past : List ResolverEvent) (key : String) (asked : Bool)
    (answer : Except StackError LoadedStack) : Prop where
  asks : asked = true ↔ firstResolved? past key = none
  same : ∀ stack, firstResolved? past key = some stack → answer = .ok stack
  loads : firstResolved? past key = none → answer.map (·.stack) = Stack.load (providerAfter first past) key
  /-- What is loaded is none of the stacks that have been resolved before, cleared or not. -/
  fresh : firstResolved? past key = none → ∀ stack, answer = .ok stack →
    ∀ event ∈ past, ∀ other, event.resolved? = some other → other.2.serial ≠ stack.serial

section

variable {past : List ResolverEvent} {event : ResolverEvent}

/-- After a clearing nothing has been asked for. -/
theorem firstResolved?_concat_clear (key : String) : firstResolved? (past ++ [.clear]) key = none := by
  simp [firstResolved?, resolvedSinceClear, ResolverEvent.isClear]

/-- A call that is no clear adds what it resolves. -/
theorem resolvedSinceClear_concat (kept : event.isClear = false) :
    resolvedSinceClear (past ++ [event]) = resolvedSinceClear past ++ event.resolved?.toList := by
  unfold resolvedSinceClear
  rw [List.rtakeWhile_concat_pos _ _ _ (by simpa using kept), List.filterMap_append]
  cases found : event.resolved? <;> simp [found]

/-- What was asked for first stays so until the next clearing. -/
theorem firstResolved?_concat (kept : event.isClear = false) (key : String) :
    firstResolved? (past ++ [event]) key
      = (firstResolved? past key).or (event.resolved?.toList.lookup key) := by
  rw [firstResolved?, resolvedSinceClear_concat kept, List.lookup_append, firstResolved?]

/-- There is a first stack under a key if there is any. -/
theorem exists_firstResolved?_iff {key : String} :
    (∃ stack, firstResolved? past key = some stack) ↔ ∃ stack, (key, stack) ∈ resolvedSinceClear past := by
  rw [← Option.isSome_iff_exists, firstResolved?, List.lookup_isSome_iff]
  simp

/-- The first stack under a key was resolved in some call. -/
theorem exists_of_firstResolved? {key : String} {stack : LoadedStack}
    (found : firstResolved? past key = some stack) :
    ∃ event ∈ past, event.resolved? = some (key, stack) := by
  obtain ⟨before, after, split, -⟩ := List.lookup_eq_some_iff.mp found
  have among : (key, stack) ∈ resolvedSinceClear past := by simp [split]
  obtain ⟨event, recent, resolved⟩ := List.mem_filterMap.mp among
  exact ⟨event, (List.rtakeWhile_suffix _ _).subset recent, resolved⟩

/-- The provider is the one that was given last. -/
theorem providerAfter_concat (first : Provider) :
    providerAfter first (past ++ [event]) = event.provided?.getD (providerAfter first past) := by
  unfold providerAfter
  rw [List.filterMap_append]
  cases given : event.provided? <;> simp [given]

end

/-! ## What the resolver recalls -/

namespace Resolver

variable {resolver later : Resolver} {key : String} {answer : Except StackError LoadedStack}

/-- A stack that is missing is loaded, and the load counted. -/
theorem loads_resolve_of_missing (missing : resolver.loaded? key = none) :
    (resolver.resolve key).2.loads = resolver.loads + 1 := by
  rcases resolve_cases (Prod.mk.eta (p := resolver.resolve key)).symm with ⟨_, found, -⟩ | ⟨-, -, loads, -⟩
  · rw [missing] at found
    cases found
  · exact loads

/-- A card is resolved by resolving its stack. -/
theorem exists_resolve_of_resolveCard {location : Location} {card : Except StackError CardDescriptor}
    (resolves : resolver.resolveCard location = (card, later)) :
    ∃ answer, resolver.resolve location.stack = (answer, later) ∧
      card = answer.map fun stack => { stack, id := location.id } := by
  unfold resolveCard at resolves
  cases resolves
  exact ⟨_, rfl, rfl⟩

/-- Files a loaded stack under its own key. If there is one already, that is given back instead. -/
def publish (resolver : Resolver) (loaded : LoadedStack) : LoadedStack × Resolver :=
  match resolver.loaded? loaded.stack.key with
  | some existing => (existing, resolver)
  | none => (loaded, { resolver with active := resolver.active.insert loaded.stack.key loaded })

/-- Loads a stack that was missing, once the gate of its key has opened: it may have been loaded meanwhile. -/
def loadThroughGate (resolver : Resolver) (key : String) : Except StackError LoadedStack × Resolver :=
  match resolver.loaded? key with
  | some stack => (.ok stack, resolver)
  | none =>
    let resolver := { resolver with loads := resolver.loads + 1 }
    match Stack.load resolver.provider key with
    | .error error => (.error error, resolver)
    | .ok stack =>
      let (filed, resolver) := resolver.publish { serial := resolver.loads, stack }
      (.ok filed, resolver)

/-- If nobody else has loaded the stack meanwhile, it is filed, and under the key that was asked for. -/
theorem loadThroughGate_eq (resolver : Resolver) (key : String) :
    resolver.loadThroughGate key = resolver.resolve key := by
  unfold loadThroughGate resolve
  cases missing : resolver.loaded? key with
  | some stack => rfl
  | none =>
    dsimp only
    cases loads : Stack.load resolver.provider key with
    | error error => rfl
    | ok stack =>
      have own : stack.key = key := Stack.key_of_load loads
      have still : ({ resolver with loads := resolver.loads + 1 } : Resolver).loaded? stack.key = none := by
        rw [own]
        exact missing
      dsimp only [publish]
      rw [still, own]

/-- What a resolver holds, read off its past. -/
structure Recalls (first : Provider) (resolver : Resolver) (past : List ResolverEvent) : Prop where
  provider : resolver.provider = providerAfter first past
  loaded : ∀ key, resolver.loaded? key = firstResolved? past key
  numbered : ∀ event ∈ past, ∀ other, event.resolved? = some other → other.2.serial ≤ resolver.loads

namespace Recalls

variable {first : Provider} {past : List ResolverEvent}

/-- A new resolver has nothing to recall. -/
theorem new (first : Provider) : Recalls first { provider := first } [] where
  provider := rfl
  loaded _ := rfl
  numbered := by simp

/-- A call that is no clear leaves what is loaded, and may add to it. -/
theorem concat {event : ResolverEvent} (recalls : resolver.Recalls first past) (kept : event.isClear = false)
    (provider : later.provider = event.provided?.getD resolver.provider)
    (loaded : ∀ key, later.loaded? key = (resolver.loaded? key).or (event.resolved?.toList.lookup key))
    (loads : resolver.loads ≤ later.loads)
    (numbered : ∀ other, event.resolved? = some other → other.2.serial ≤ later.loads) :
    later.Recalls first (past ++ [event]) where
  provider := by rw [provider, providerAfter_concat, recalls.provider]
  loaded key := by rw [loaded, firstResolved?_concat kept, recalls.loaded]
  numbered other among stack resolved := by
    rcases List.mem_append.mp among with among | among
    · exact (recalls.numbered other among stack resolved).trans loads
    · rw [List.mem_singleton.mp among] at resolved
      exact numbered stack resolved

/-- To clear is to forget every stack, but not how many were loaded. -/
theorem clear (recalls : resolver.Recalls first past) : resolver.clear.Recalls first (past ++ [.clear]) where
  provider := by
    rw [providerAfter_concat]
    exact recalls.provider
  loaded key := by
    rw [firstResolved?_concat_clear]
    rfl
  numbered event among stack resolved := by
    rcases List.mem_append.mp among with among | among
    · exact recalls.numbered event among stack resolved
    · rw [List.mem_singleton.mp among] at resolved
      cases resolved

/-- Resolving a stack adds it to what is loaded, if it is not there. -/
theorem resolve {event : ResolverEvent} (recalls : resolver.Recalls first past)
    (resolves : resolver.resolve key = (answer, later)) (kept : event.isClear = false)
    (provides : event.provided? = none)
    (gives : event.resolved? = answer.toOption.map fun stack => (key, stack)) :
    later.Recalls first (past ++ [event]) := by
  rcases resolve_cases resolves with ⟨stack, found, rfl, rfl⟩ |
    ⟨missing, provider, loads, ⟨error, -, rfl, active⟩ | ⟨stack, -, rfl, active⟩⟩
  -- It was there, so the first that was resolved under the key stays the first.
  · have gives : event.resolved? = some (key, stack) := gives
    refine recalls.concat kept (by rw [provides]; rfl) ?_ le_rfl ?_
    · intro other
      rw [gives, Option.toList_some, List.lookup_cons]
      by_cases same : other = key
      · simp [same, found]
      · simp [beq_false_of_ne same]
    · intro other resolved
      rw [gives, Option.some.injEq] at resolved
      subst resolved
      rw [recalls.loaded] at found
      obtain ⟨earlier, among, before⟩ := exists_of_firstResolved? found
      exact recalls.numbered earlier among _ before
  · have gives : event.resolved? = none := gives
    refine recalls.concat kept (by rw [provides, provider]; rfl) ?_ (by omega) (by simp [gives])
    intro other
    simp [loaded?, active, gives]
  -- It was not there, so this is the first since the clear, and has a serial number of its own.
  · have gives : event.resolved? = some (key, ⟨resolver.loads + 1, stack⟩) := gives
    refine recalls.concat kept (by rw [provides, provider]; rfl) ?_ (by omega) ?_
    · intro other
      show later.active.get? other = _
      rw [active, SortedMap.get?_insert, gives, Option.toList_some, List.lookup_cons]
      by_cases same : other = key
      · simp [same, missing]
      · simp [same, beq_false_of_ne same, loaded?]
    · intro other resolved
      rw [gives, Option.some.injEq] at resolved
      subst resolved
      exact loads.ge

/-- Every call keeps what the resolver recalls. -/
theorem turns {event : ResolverEvent} (recalls : resolver.Recalls first past)
    (turns : resolver.Turns event later) : later.Recalls first (past ++ [event]) := by
  cases event with
  | resolve key asked answer => exact recalls.resolve turns.1 rfl rfl (by cases answer <;> rfl)
  | resolveCard location asked card =>
    obtain ⟨answer, resolves, rfl⟩ := exists_resolve_of_resolveCard turns.1
    exact recalls.resolve resolves rfl rfl (by cases answer <;> rfl)
  | loaded | loadedKeys =>
    obtain ⟨-, rfl⟩ := turns
    exact recalls.concat rfl rfl (fun _ => Option.or_none.symm) le_rfl (by simp [ResolverEvent.resolved?])
  | clear =>
    rw [show later = resolver.clear from turns]
    exact recalls.clear
  | provide next =>
    rw [show later = { resolver with provider := next } from turns]
    exact recalls.concat rfl rfl (fun _ => Option.or_none.symm) le_rfl (by simp [ResolverEvent.resolved?])

/-- After any history the resolver recalls what the history says. -/
theorem of_history (lived : History Turns { provider := first } resolver past) : resolver.Recalls first past := by
  induction lived with
  | nil => exact .new first
  | concat _ turns recalls => exact recalls.turns turns

/-! ## The answers -/

/-- A stack is resolved as the past has it. -/
theorem answered {asked : Bool} (recalls : resolver.Recalls first past)
    (resolves : resolver.resolve key = (answer, later)) (counts : later.loads = resolver.loads + asked.toNat) :
    Answered first past key asked answer := by
  rcases resolve_cases resolves with ⟨stack, found, rfl, rfl⟩ | ⟨missing, -, loads, outcome⟩
  · rw [recalls.loaded] at found
    have unasked : asked = false := Bool.toNat_eq_zero.mp (Nat.left_eq_add.mp counts)
    have present : firstResolved? past key ≠ none := by simp [found]
    refine ⟨?_, ?_, fun missing => absurd missing present, fun missing => absurd missing present⟩
    · simp [unasked, present]
    · intro other first
      rw [found, Option.some.injEq] at first
      rw [first]
  · rw [recalls.loaded] at missing
    have asks : asked = true := Bool.toNat_eq_one.mp (Nat.add_left_cancel (counts.symm.trans loads))
    refine ⟨?_, ?_, ?_, ?_⟩
    · simp [asks, missing]
    · intro stack found
      rw [missing] at found
      cases found
    · intro _
      rw [← recalls.provider]
      rcases outcome with ⟨error, fails, rfl, -⟩ | ⟨stack, loaded, rfl, -⟩
      · rw [fails]
        rfl
      · rw [loaded]
        rfl
    · intro _ stack given event among other resolved
      have old := recalls.numbered event among other resolved
      rcases outcome with ⟨error, -, rfl, -⟩ | ⟨_, -, rfl, -⟩
      · cases given
      · cases given
        exact Nat.ne_of_lt (Nat.lt_succ_of_le old)

end Recalls

/-- The keys of what is loaded are listed in order, each once. -/
theorem loadedKeys_ascending (resolver : Resolver) : resolver.loadedKeys.Pairwise (· < ·) := by
  unfold loadedKeys SortedMap.keys
  rw [List.pairwise_map]
  exact resolver.active.ascending.imp compare_lt_iff_lt.mp

/-- The keys that are listed are those of the stacks that are loaded. -/
theorem mem_loadedKeys {resolver : Resolver} {key : String} :
    key ∈ resolver.loadedKeys ↔ ∃ stack, resolver.loaded? key = some stack := by
  unfold loadedKeys SortedMap.keys loaded?
  simp only [SortedMap.get?_eq_some_iff]
  simp

/-- Whatever has happened to a resolver, however its provider has changed meanwhile: a stack that was resolved
under a key, by itself or for a card, was the first one that had been resolved under that key since the last
clear, and then the provider was not asked; or there was none, and then the provider was asked once, and what it
had was the answer, a stack never given out before or an error. What was loaded was what had been resolved first
under its key since the last clear, and the keys of that were listed in order, each once. If a stack cannot be
loaded now, nothing about what is loaded changes, and the provider is asked again the next time. -/
theorem loads_once {first : Provider} {past : List ResolverEvent}
    (lived : History Turns { provider := first } resolver past) :
    (∀ before key asked answer after, past = before ++ .resolve key asked answer :: after →
      Answered first before key asked answer) ∧
    (∀ before location asked card after, past = before ++ .resolveCard location asked card :: after →
      ∃ answer, Answered first before location.stack asked answer ∧
        card = answer.map fun stack => { stack, id := location.id }) ∧
    (∀ before key answer after, past = before ++ .loaded key answer :: after →
      answer = firstResolved? before key) ∧
    (∀ before answer after, past = before ++ .loadedKeys answer :: after → answer.Pairwise (· < ·) ∧
      ∀ key, key ∈ answer ↔ ∃ stack, (key, stack) ∈ resolvedSinceClear before) ∧
    (∀ key error later, resolver.resolve key = (.error error, later) → later.active = resolver.active ∧
      (later.resolve key).2.loads = later.loads + 1) := by
  -- The history is cut where the answer was given, and what the resolver recalled then decides it.
  refine ⟨?_, ?_, ?_, ?_, ?_⟩
  · intro before key asked answer after there
    obtain ⟨_, _, lived, resolves, counts⟩ := lived.split there
    exact (Recalls.of_history lived).answered resolves counts
  · intro before location asked card after there
    obtain ⟨_, _, lived, resolves, counts⟩ := lived.split there
    obtain ⟨answer, resolves, same⟩ := exists_resolve_of_resolveCard resolves
    exact ⟨answer, (Recalls.of_history lived).answered resolves counts, same⟩
  · intro before key answer after there
    obtain ⟨_, _, lived, same, -⟩ := lived.split there
    rw [← same]
    exact (Recalls.of_history lived).loaded key
  · intro before answer after there
    obtain ⟨earlier, _, lived, same, -⟩ := lived.split there
    rw [← same]
    refine ⟨earlier.loadedKeys_ascending, ?_⟩
    intro key
    rw [mem_loadedKeys, (Recalls.of_history lived).loaded, exists_firstResolved?_iff]
  · intro key error later fails
    rcases resolve_cases fails with ⟨_, _, given, _⟩ | ⟨missing, -, -, ⟨_, -, -, active⟩ | ⟨_, -, given, _⟩⟩
    · cases given
    · refine ⟨active, loads_resolve_of_missing ?_⟩
      rw [loaded?, active]
      exact missing
    · cases given

/-- A stack with one card, as it is loaded first. -/
def cellar : LoadedStack where
  serial := 1
  stack := { key := "cellar", archives := [.memory "a" (.ofList [(1, [4])]) none], cardIds := Stack.directory [1],
             variableNames := [] }

/-- A stack is loaded, is no longer provided, is asked for again, and is cleared. -/
def removal : List ResolverEvent :=
  [.resolve "cellar" true (.ok cellar), .provide (.memory .empty),
    .resolveCard ⟨"cellar", 7⟩ false (.ok ⟨cellar, 7⟩), .resolve "attic" true (.error (.stackNotFound "attic")),
    .loadedKeys ["cellar"], .clear, .resolve "cellar" true (.error (.stackNotFound "cellar"))]

/-- Until the clear the first stack is given out, and another one that is missing leaves it there. After that it is
asked for in vain, and would be asked for again. -/
theorem loads_once_removed : ∃ resolver,
    History Turns { provider := .memory (.ofList [("cellar", .memory "a" (.ofList [(1, [4])]) none)]) } resolver
      removal ∧
    firstResolved? (removal.take 2) "cellar" ≠ none ∧
    (∃ stack, ("cellar", stack) ∈ resolvedSinceClear (removal.take 4)) ∧
    firstResolved? (removal.take 6) "cellar" = none ∧
    ((resolver.resolve "cellar").2.resolve "cellar").2.loads = 5 := by
  let there : Resolver := { provider := .memory (.ofList [("cellar", .memory "a" (.ofList [(1, [4])]) none)]) }
  let loaded : Resolver := { there with loads := 1, active := .ofList [("cellar", cellar)] }
  let gone : Resolver := { loaded with provider := .memory .empty }
  let missed : Resolver := { gone with loads := 2 }
  let bare : Resolver := { provider := .memory .empty, loads := 3 }
  have lived : History Turns there bare removal := History.nil
    |>.concat (show Turns there (.resolve "cellar" true (.ok cellar)) loaded from ⟨rfl, rfl⟩)
    |>.concat (show Turns loaded (.provide (.memory .empty)) gone from rfl)
    |>.concat (show Turns gone (.resolveCard ⟨"cellar", 7⟩ false (.ok ⟨cellar, 7⟩)) gone from ⟨rfl, rfl⟩)
    |>.concat (show Turns gone (.resolve "attic" true (.error (.stackNotFound "attic"))) missed from ⟨rfl, rfl⟩)
    |>.concat (show Turns missed (.loadedKeys ["cellar"]) missed from ⟨rfl, rfl⟩)
    |>.concat (show Turns missed .clear missed.clear from rfl)
    |>.concat (show Turns missed.clear (.resolve "cellar" true (.error (.stackNotFound "cellar"))) bare
      from ⟨rfl, rfl⟩)
  obtain ⟨resolves, cards, -, keys, again⟩ := loads_once lived
  refine ⟨bare, lived, ?_, ?_, ?_, ?_⟩
  · obtain ⟨answer, answered, -⟩ := cards (removal.take 2) _ false _ _ rfl
    intro missing
    cases answered.asks.mpr missing
  · exact ((keys (removal.take 4) _ _ rfl).2 "cellar").mp List.mem_cons_self
  · exact (resolves (removal.take 6) _ true _ _ rfl).asks.mp rfl
  · exact (again "cellar" (.stackNotFound "cellar") _ rfl).2

end Resolver

end Diorama
