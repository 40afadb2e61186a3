import Diorama.Proofs.Format
import Diorama.Stack.Document
import Mathlib.Data.List.Destutter
import Mathlib.Data.List.Sort

/-!
# The directory of a stack agrees with its look-ups

A stack that is loaded keeps the list of its cards, and looks a card up by going through its archives. The two
go different ways. The list is gathered from all archives, with ids that are no words left out, put in order and
freed from repetitions; a look-up widens the id and stops at the first archive that has a card under it. They
agree however the archives overlie each other (`Stack.directory_agrees`): what is listed is what can be looked
up, and what is found lies in the first archive that has it, in the first entry that has it there. The variable
names come from the first archive with a table of them.

`IsFirst` says what is meant by the first of several that have a property. What it is to have a card, or a table
of names, is said of archives of both kinds without looking anything up (`StackArchive.HasCard`,
`StackArchive.HasNames`).
-/

namespace Diorama

/-! ## Repetitions -/

section Repetitions

variable {α : Type} [DecidableEq α]

/-- The loop that leaves out repetitions keeps what it has read, and goes on with the rest behind its last
value. -/
theorem eraseReps_loop_eq (a : α) (l read : List α) :
    List.eraseRepsBy.loop (· == ·) a l read = read.reverse ++ l.destutter' (· ≠ ·) a := by
  induction l generalizing a read with
  | nil => simp [List.eraseRepsBy.loop]
  | cons b l ih =>
    rw [List.eraseRepsBy.loop]
    by_cases same : a = b
    · subst same
      simp [ih]
    · have differs : (a == b) = false := beq_false_of_ne same
      rw [differs, List.destutter'_cons_pos _ same]
      simp [ih]

/-- Leaving out entries that are equal to the one before them. -/
theorem eraseReps_eq_destutter (l : List α) : l.eraseReps = l.destutter (· ≠ ·) := by
  cases l with
  | nil => rfl
  | cons a l => exact eraseReps_loop_eq a l []

/-- Nothing is lost with the repetitions. -/
theorem mem_destutter_ne {a : α} {l : List α} : a ∈ l.destutter (· ≠ ·) ↔ a ∈ l := by
  induction l with
  | nil => simp
  | cons b l ih =>
    cases l with
    | nil => simp
    | cons c l =>
      by_cases same : b = c
      · subst same
        rw [List.destutter_cons_cons, if_neg (not_not_intro rfl), ← List.destutter_cons', ih]
        simp
      · rw [List.destutter_cons_cons, if_pos same, ← List.destutter_cons', List.mem_cons, ih]
        exact List.mem_cons.symm

end Repetitions

namespace Stack

/-- To sort the numbers and to leave out repetitions loses none of them. -/
theorem mem_directory {ids : List UInt16} {id : UInt16} : id ∈ directory ids ↔ id ∈ ids := by
  rw [directory, eraseReps_eq_destutter, mem_destutter_ne, List.mem_mergeSort]

/-- The directory ascends, and lists each id once. -/
theorem directory_ascending (ids : List UInt16) : (directory ids).Pairwise (· < ·) := by
  have sorted : (directory ids).IsChain (· ≤ ·) := by
    rw [directory, eraseReps_eq_destutter]
    exact ((List.pairwise_mergeSort' _ ids).sublist (List.destutter_sublist _ _)).isChain
  have distinct : (directory ids).IsChain (· ≠ ·) := by
    rw [directory, eraseReps_eq_destutter]
    exact List.isChain_destutter _ _
  rw [← List.isChain_iff_pairwise]
  rw [List.isChain_iff_getElem] at sorted distinct ⊢
  intro place below
  exact UInt16.lt_of_le_of_ne (sorted place below) (distinct place below)

end Stack

/-! ## The first of several -/

/-- The first in a list that has a property. -/
def IsFirst {α : Type} (property : α → Prop) (l : List α) (a : α) : Prop :=
  ∃ before after, l = before ++ a :: after ∧ property a ∧ ∀ other ∈ before, ¬ property other

/-- What a search finds is the first that passes the test. -/
theorem find?_eq_some_iff_isFirst {α : Type} {test : α → Bool} {property : α → Prop}
    (decides : ∀ a, test a = true ↔ property a) {l : List α} {a : α} :
    l.find? test = some a ↔ IsFirst property l a := by
  rw [List.find?_eq_some_iff_append]
  simp only [Bool.not_eq_true', ← Bool.not_eq_true, decides]
  constructor
  · intro ⟨here, before, after, split, earlier⟩
    exact ⟨before, after, split, here, earlier⟩
  · intro ⟨before, after, split, here, earlier⟩
    exact ⟨here, before, after, split, earlier⟩

namespace IsFirst

variable {α : Type} {property : α → Prop} {l : List α} {a first : α}

/-- What stands in front is the first. -/
theorem head (here : property a) (l : List α) : IsFirst property (a :: l) a :=
  ⟨[], l, rfl, here, by simp⟩

/-- What has not got the property may be put before the first that has it. -/
theorem cons (missing : ¬ property a) (found : IsFirst property l first) : IsFirst property (a :: l) first := by
  obtain ⟨before, after, rfl, here, earlier⟩ := found
  refine ⟨a :: before, after, rfl, here, ?_⟩
  intro other among
  rcases List.mem_cons.mp among with rfl | among
  · exact missing
  · exact earlier other among

end IsFirst

namespace Archive

variable {archive : Archive} {kind : ResourceKind} {id : UInt32}

/-- The first entry with a kind and an id is the one that is found. -/
theorem find?_eq_some_iff {entry : ArchiveEntry} : archive.find? kind id = some entry ↔
    IsFirst (fun entry => entry.kind = kind ∧ entry.id = id) archive.entries entry :=
  find?_eq_some_iff_isFirst fun _ => by rw [Bool.and_eq_true, beq_iff_eq, beq_iff_eq]

/-- The data of an entry are the octets of the archive between its two ends. -/
theorem entryData_eq_extract (entry : ArchiveEntry) :
    archive.entryData entry = archive.octets.extract entry.start entry.stop := by
  have size : entry.stop - entry.start = entry.size.toNat := Nat.add_sub_cancel_left ..
  rw [List.extract_eq_take_drop, size, entryData]

/-- A resource is the data of the first entry of its kind and number. -/
theorem resource?_eq_some_iff {bytes : Bytes} : archive.resource? kind id = some bytes ↔
    ∃ entry, IsFirst (fun entry => entry.kind = kind ∧ entry.id = id) archive.entries entry ∧
      archive.octets.extract entry.start entry.stop = bytes := by
  simp only [resource?, Option.map_eq_some_iff, find?_eq_some_iff, entryData_eq_extract]

/-- A resource is missing if there is no such entry. -/
theorem resource?_eq_none_iff : archive.resource? kind id = none ↔
    ¬ ∃ entry ∈ archive.entries, entry.kind = kind ∧ entry.id = id := by
  simp [resource?, find?]

/-- The numbers of a kind are those of its entries. -/
theorem mem_ids : id ∈ archive.ids kind ↔ ∃ entry ∈ archive.entries, entry.kind = kind ∧ entry.id = id := by
  simp [ids, and_assoc]

end Archive

/-! ## Archives of both kinds -/

namespace StackArchive

/-- The archive has a card with an id. -/
def HasCard : StackArchive → UInt16 → Prop
  | .file archive, id => ∃ entry ∈ archive.entries, entry.kind = .card ∧ entry.id = id.toUInt32
  | .memory _ cards _, id => id ∈ cards.keys

/-- The octets of the card with an id: in a file, those of its first entry. -/
def HoldsCard : StackArchive → UInt16 → Bytes → Prop
  | .file archive, id, bytes =>
    ∃ entry, IsFirst (fun entry => entry.kind = .card ∧ entry.id = id.toUInt32) archive.entries entry ∧
      archive.octets.extract entry.start entry.stop = bytes
  | .memory _ cards _, id, bytes => (id, bytes) ∈ cards.entries

/-- The archive has a table of variable names. -/
def HasNames : StackArchive → Prop
  | .file archive => ∃ entry ∈ archive.entries, entry.kind = .names ∧ entry.id = 0
  | .memory _ _ held => held.isSome = true

/-- The names in the table of the archive: in a file, in the first one. -/
def HoldsNames : StackArchive → List String → Prop
  | .file archive, names =>
    ∃ entry, IsFirst (fun entry => entry.kind = .names ∧ entry.id = 0) archive.entries entry ∧
      NameTable.decode (archive.octets.extract entry.start entry.stop) = .ok names
  | .memory _ _ held, names => held = some names

variable {archive : StackArchive} {id : UInt16}

/-- A card is found in the first place that has its number. -/
theorem card?_eq_some_iff {bytes : Bytes} : archive.card? id = some bytes ↔ archive.HoldsCard id bytes := by
  cases archive with
  | file archive => exact Archive.resource?_eq_some_iff
  | memory label cards names => exact SortedMap.get?_eq_some_iff

/-- A card is missing if no place has its number. -/
theorem card?_eq_none_iff : archive.card? id = none ↔ ¬ archive.HasCard id := by
  cases archive with
  | file archive => exact Archive.resource?_eq_none_iff
  | memory label cards names =>
    show cards.get? id = none ↔ id ∉ cards.entries.map Prod.fst
    rw [Option.eq_none_iff_forall_ne_some]
    simp [SortedMap.get?_eq_some_iff]

/-- What holds the octets of a card has the card. -/
theorem hasCard_of_holdsCard {bytes : Bytes} (holds : archive.HoldsCard id bytes) : archive.HasCard id := by
  by_contra missing
  have found := card?_eq_some_iff.mpr holds
  rw [card?_eq_none_iff.mpr missing] at found
  cases found

/-- An id that is listed is a word, and belongs to a card. -/
theorem mem_cardIds : id ∈ archive.cardIds ↔ archive.HasCard id := by
  cases archive with
  | file archive =>
    show id ∈ (archive.ids .card).filterMap _ ↔ ∃ entry ∈ archive.entries, _
    rw [← Archive.mem_ids, List.mem_filterMap]
    constructor
    · rintro ⟨wide, listed, narrow⟩
      split at narrow
      next small =>
        cases narrow
        have same : wide.toUInt16.toUInt32 = wide := by
          apply UInt32.toNat_inj.mp
          rw [UInt16.toNat_toUInt32, UInt32.toNat_toUInt16]
          omega
        rwa [same]
      next => cases narrow
    · intro listed
      refine ⟨id.toUInt32, listed, ?_⟩
      rw [UInt16.toNat_toUInt32, if_pos id.toNat_lt, UInt16.toUInt16_toUInt32]
  | memory label cards names => exact Iff.rfl

/-- The names of an archive are those of its name table, if it has one that can be read. -/
theorem variableNames_eq_some_iff {names : List String} :
    archive.variableNames = .ok (some names) ↔ archive.HoldsNames names := by
  cases archive with
  | file archive =>
    constructor
    · intro read
      unfold variableNames at read
      dsimp only at read
      split at read
      next table found =>
        obtain ⟨entry, first, rfl⟩ := Archive.resource?_eq_some_iff.mp found
        refine ⟨entry, first, ?_⟩
        cases decoded : NameTable.decode (archive.octets.extract entry.start entry.stop) with
        | error cause =>
          rw [decoded] at read
          cases read
        | ok table =>
          rw [decoded] at read
          cases read
          rfl
      next => cases read
    · intro ⟨entry, first, decoded⟩
      have found := Archive.resource?_eq_some_iff.mpr ⟨entry, first, rfl⟩
      unfold variableNames
      dsimp only
      rw [found]
      dsimp only
      rw [decoded]
      rfl
  | memory label cards held => simp [variableNames, HoldsNames]

/-- An archive gives no names if it has no name table. -/
theorem variableNames_eq_none_iff : archive.variableNames = .ok none ↔ ¬ archive.HasNames := by
  cases archive with
  | file archive =>
    unfold variableNames HasNames
    dsimp only
    rw [← Archive.resource?_eq_none_iff]
    split
    next table found =>
      rw [found]
      cases NameTable.decode table <;> simp [Except.map]
    next missing => simp [missing]
  | memory label cards held => simp [variableNames, HasNames]

/-- What holds names has a name table. -/
theorem hasNames_of_holdsNames {names : List String} (holds : archive.HoldsNames names) : archive.HasNames := by
  by_contra missing
  have read := variableNames_eq_some_iff.mpr holds
  rw [variableNames_eq_none_iff.mpr missing] at read
  cases read

end StackArchive

/-! ## Whole stacks -/

namespace Stack

variable {key : String} {archives : List StackArchive} {stack : Stack}

/-- The names are those of the first archive with a table of them, if its table can be read. -/
theorem firstNames_ok {names : List String} (read : firstNames key archives = .ok names) :
    (∃ archive, IsFirst StackArchive.HasNames archives archive ∧ archive.HoldsNames names) ∨
      (∀ archive ∈ archives, ¬ archive.HasNames) ∧ names = [] := by
  induction archives with
  | nil =>
    cases read
    exact .inr ⟨by simp, rfl⟩
  | cons archive rest ih =>
    unfold firstNames at read
    split at read
    next => cases read
    next held found =>
      cases read
      have holds := StackArchive.variableNames_eq_some_iff.mp found
      exact .inl ⟨archive, .head (StackArchive.hasNames_of_holdsNames holds) rest, holds⟩
    next found =>
      have missing := StackArchive.variableNames_eq_none_iff.mp found
      rcases ih read with ⟨first, found, holds⟩ | ⟨none, rfl⟩
      · exact .inl ⟨first, found.cons missing, holds⟩
      · exact .inr ⟨List.forall_mem_cons.mpr ⟨missing, none⟩, rfl⟩

/-- What is looked up is the card of the first archive that has one. -/
theorem cardBytes_eq_ok_iff {id : UInt16} {bytes : Bytes} : stack.cardBytes id = .ok bytes ↔
    ∃ archive, IsFirst (·.HasCard id) stack.archives archive ∧ archive.HoldsCard id bytes := by
  have found_iff : stack.cardBytes id = .ok bytes ↔ stack.archives.findSome? (·.card? id) = some bytes := by
    unfold cardBytes
    split
    next found => simp [found]
    next missing => simp [missing]
  rw [found_iff, List.findSome?_eq_some_iff]
  simp only [StackArchive.card?_eq_some_iff, StackArchive.card?_eq_none_iff]
  constructor
  · intro ⟨before, archive, after, split, holds, earlier⟩
    exact ⟨archive, ⟨before, after, split, StackArchive.hasCard_of_holdsCard holds, earlier⟩, holds⟩
  · rintro ⟨archive, ⟨before, after, split, -, earlier⟩, holds⟩
    exact ⟨before, archive, after, split, holds, earlier⟩

/-- A card can be looked up if some archive has it. -/
theorem exists_cardBytes_iff {id : UInt16} :
    (∃ bytes, stack.cardBytes id = .ok bytes) ↔ ∃ archive ∈ stack.archives, archive.HasCard id := by
  unfold cardBytes
  split
  next bytes found =>
    obtain ⟨archive, among, here⟩ := List.exists_of_findSome?_eq_some found
    have holds := StackArchive.card?_eq_some_iff.mp here
    exact iff_of_true ⟨bytes, rfl⟩ ⟨archive, among, StackArchive.hasCard_of_holdsCard holds⟩
  next missing =>
    refine iff_of_false (by simp) ?_
    intro ⟨archive, among, has⟩
    exact StackArchive.card?_eq_none_iff.mp (List.findSome?_eq_none_iff.mp missing archive among) has

/-- A stack that has been loaded from some archives lists exactly the cards that can be looked up in it, in
ascending order and each once. What is looked up under an id is the card of the first archive that has one, and
in a file the data of the first of its entries. The variable names are those of the first archive with a table of
names, and there are none if no archive has one. -/
theorem directory_agrees (loaded : ofArchives key archives = .ok stack) :
    stack.cardIds.Pairwise (· < ·) ∧
    (∀ id, id ∈ stack.cardIds ↔ ∃ bytes, stack.cardBytes id = .ok bytes) ∧
    (∀ id bytes, stack.cardBytes id = .ok bytes ↔
      ∃ archive, IsFirst (·.HasCard id) archives archive ∧ archive.HoldsCard id bytes) ∧
    ((∃ archive, IsFirst StackArchive.HasNames archives archive ∧ archive.HoldsNames stack.variableNames) ∨
      (∀ archive ∈ archives, ¬ archive.HasNames) ∧ stack.variableNames = []) := by
  obtain ⟨names, read, same⟩ := Except.bind_eq_ok_iff.mp loaded
  cases same
  refine ⟨directory_ascending _, ?_, fun id bytes => cardBytes_eq_ok_iff, firstNames_ok read⟩
  intro id
  rw [exists_cardBytes_iff, mem_directory, List.mem_flatMap]
  simp only [StackArchive.mem_cardIds]

/-- A file with a card twice, one under an id that is no word and a table of names under a wrong id, and cards in
memory beneath it. -/
def overlaid : List StackArchive :=
  [.file { path := "a.rxa", octets := [1, 2, 3],
           entries := [⟨.names, 7, 0, 3⟩, ⟨.card, 65545, 0, 3⟩, ⟨.card, 7, 0, 2⟩, ⟨.card, 7, 2, 1⟩] },
   .memory "b" (.ofList [(7, [4]), (3, [5])]) (some ["door"])]

/-- The first card hides the others, the wide id is not listed, and the names come from memory. -/
theorem directory_agrees_overlaid : ∃ stack, ofArchives "a" overlaid = .ok stack ∧
    stack.cardIds.Pairwise (· < ·) ∧ 7 ∈ stack.cardIds ∧ 3 ∈ stack.cardIds ∧ 9 ∉ stack.cardIds ∧
    stack.cardBytes 7 = .ok [1, 2] ∧ stack.cardBytes 3 = .ok [5] ∧ stack.variableNames = ["door"] := by
  obtain ⟨stack, loaded⟩ : ∃ stack, ofArchives "a" overlaid = .ok stack := ⟨_, rfl⟩
  obtain ⟨ascending, listed, -, -⟩ := directory_agrees loaded
  cases loaded
  refine ⟨_, rfl, ascending, (listed 7).mpr ⟨_, rfl⟩, (listed 3).mpr ⟨_, rfl⟩, ?_, rfl, rfl, rfl⟩
  rw [listed]
  rintro ⟨_, found⟩
  cases found

end Stack

end Diorama
