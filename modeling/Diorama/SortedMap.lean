/-!
# Maps with one form

A map whose entries lie in ascending order of their keys, each key once. Order is part of what the
engine shows (variables are listed by path, movie slots by code), so it belongs to the type, and a
map has exactly one form: two maps with the same entries are equal.

`get?_insert` says what writing does to reading. That the entries ascend is a field of the type, so
no operation can lose it.
-/

namespace Diorama

/-- Entries in ascending order of their keys. -/
structure SortedMap (K V : Type) [Ord K] where
  entries : List (K × V)
  ascending : entries.Pairwise fun a b => compare a.1 b.1 = .lt

namespace SortedMap

variable {K V W : Type} [Ord K]

def empty : SortedMap K V := ⟨[], .nil⟩

instance : Inhabited (SortedMap K V) := ⟨empty⟩

instance [DecidableEq K] [DecidableEq V] : DecidableEq (SortedMap K V) := fun a b =>
  if h : a.entries = b.entries then
    isTrue (by cases a; cases b; cases h; rfl)
  else isFalse (by intro e; exact h (congrArg entries e))

/-- The keys, in ascending order. -/
def keys (map : SortedMap K V) : List K :=
  map.entries.map Prod.fst

/-- The values, in the order of their keys. -/
def values (map : SortedMap K V) : List V :=
  map.entries.map Prod.snd

/-- The value under a key among some entries. -/
def lookup (key : K) : List (K × V) → Option V
  | [] => none
  | entry :: rest => if compare key entry.1 = .eq then some entry.2 else lookup key rest

def get? (map : SortedMap K V) (key : K) : Option V :=
  lookup key map.entries

/-- Puts a value under a key, before the first entry with a greater key. -/
def insertEntry (key : K) (value : V) : List (K × V) → List (K × V)
  | [] => [(key, value)]
  | entry :: rest =>
    match compare key entry.1 with
    | .lt => (key, value) :: entry :: rest
    | .eq => (key, value) :: rest
    | .gt => entry :: insertEntry key value rest

/-- What is there after an insertion was inserted or was there before. -/
theorem mem_insertEntry {key : K} {value : V} {entries : List (K × V)} {entry : K × V}
    (h : entry ∈ insertEntry key value entries) : entry = (key, value) ∨ entry ∈ entries := by
  induction entries with
  | nil => simp_all [insertEntry]
  | cons head rest ih =>
    rw [insertEntry] at h
    split at h
    · simpa using h
    · rcases List.mem_cons.1 h with h | h
      · exact .inl h
      · exact .inr (List.mem_cons_of_mem _ h)
    · rcases List.mem_cons.1 h with h | h
      · exact .inr (h ▸ List.mem_cons_self)
      · exact (ih h).imp_right (List.mem_cons_of_mem _)

/-- An insertion keeps the keys in order. -/
theorem ascending_insertEntry [Std.TransOrd K] [Std.LawfulEqOrd K] {key : K} {value : V}
    {entries : List (K × V)} (h : entries.Pairwise fun a b => compare a.1 b.1 = .lt) :
    (insertEntry key value entries).Pairwise fun a b => compare a.1 b.1 = .lt := by
  induction entries with
  | nil => simp [insertEntry]
  | cons head rest ih =>
    have below : ∀ entry ∈ rest, compare head.1 entry.1 = .lt := fun _ => List.rel_of_pairwise_cons h
    have tail := List.Pairwise.of_cons h
    rw [insertEntry]
    split
    · rename_i less
      refine .cons ?_ h
      intro entry mem
      rcases List.mem_cons.1 mem with rfl | mem
      · exact less
      · exact Std.TransCmp.lt_trans less (below _ mem)
    · rename_i same
      have key_eq : key = head.1 := Std.LawfulEqCmp.eq_of_compare same
      refine .cons ?_ tail
      intro entry mem
      simpa [key_eq] using below _ mem
    · rename_i more
      refine .cons ?_ (ih tail)
      intro entry mem
      rcases mem_insertEntry mem with rfl | mem
      · exact Std.OrientedCmp.gt_iff_lt.1 more
      · exact below _ mem

/-- Puts a value under a key, in place of the value that was there. -/
def insert [Std.TransOrd K] [Std.LawfulEqOrd K] (map : SortedMap K V) (key : K) (value : V) :
    SortedMap K V :=
  ⟨insertEntry key value map.entries, ascending_insertEntry map.ascending⟩

/-- The map without the entry under a key. -/
def erase (map : SortedMap K V) (key : K) : SortedMap K V :=
  ⟨map.entries.filter fun entry => !(compare key entry.1 == .eq), map.ascending.filter _⟩

/-- The same keys, each value changed by `change`. -/
def mapValues (map : SortedMap K V) (change : V → W) : SortedMap K W :=
  ⟨map.entries.map fun entry => (entry.1, change entry.2),
    List.pairwise_map.2 map.ascending⟩

/-- The entries of a list, a later one in place of an earlier one under the same key. -/
def ofList [Std.TransOrd K] [Std.LawfulEqOrd K] (entries : List (K × V)) : SortedMap K V :=
  entries.foldl (fun map entry => map.insert entry.1 entry.2) empty

/-- The entries of `map`, and over them those of `upper`. -/
def overlay [Std.TransOrd K] [Std.LawfulEqOrd K] (map upper : SortedMap K V) : SortedMap K V :=
  upper.entries.foldl (fun map entry => map.insert entry.1 entry.2) map

/-- A key beyond all others comes last. -/
theorem insertEntry_beyond [Std.TransOrd K] {key : K} {value : V} {entries : List (K × V)}
    (beyond : ∀ entry ∈ entries, compare entry.1 key = .lt) :
    insertEntry key value entries = entries ++ [(key, value)] := by
  induction entries with
  | nil => rfl
  | cons head rest ih =>
    have more : compare key head.1 = .gt := Std.OrientedCmp.gt_of_lt (beyond head List.mem_cons_self)
    rw [insertEntry, more]
    exact congrArg (head :: ·) (ih fun entry mem => beyond entry (List.mem_cons_of_mem _ mem))

/-- Entries that ascend behind those of a map are put behind them. -/
theorem entries_foldl_insert [Std.TransOrd K] [Std.LawfulEqOrd K] (map : SortedMap K V)
    (more : List (K × V)) (ascending : (map.entries ++ more).Pairwise fun a b => compare a.1 b.1 = .lt) :
    (more.foldl (fun map entry => map.insert entry.1 entry.2) map).entries = map.entries ++ more := by
  induction more generalizing map with
  | nil => exact (List.append_nil _).symm
  | cons entry rest ih =>
    have beyond : ∀ before ∈ map.entries, compare before.1 entry.1 = .lt := fun before mem =>
      (List.pairwise_append.mp ascending).2.2 before mem entry List.mem_cons_self
    have inserted : (map.insert entry.1 entry.2).entries = map.entries ++ [entry] := insertEntry_beyond beyond
    have split : map.entries ++ entry :: rest = (map.insert entry.1 entry.2).entries ++ rest := by
      rw [inserted, List.append_assoc, List.singleton_append]
    rw [split] at ascending ⊢
    exact ih (map.insert entry.1 entry.2) ascending

/-- A map is made of its own entries. -/
theorem ofList_entries [Std.TransOrd K] [Std.LawfulEqOrd K] (map : SortedMap K V) : ofList map.entries = map := by
  obtain ⟨entries, ascending⟩ := map
  have same : (ofList entries).entries = entries := entries_foldl_insert empty entries ascending
  cases made : ofList entries with
  | mk others _ =>
    rw [made] at same
    cases same
    rfl

/-- After an insertion the new value is found under its key, and under every other what was found before. -/
theorem lookup_insertEntry [Std.TransOrd K] [Std.LawfulEqOrd K] [DecidableEq K] {key : K}
    {value : V} {entries : List (K × V)} (other : K) :
    lookup other (insertEntry key value entries)
      = if other = key then some value else lookup other entries := by
  induction entries with
  | nil => simp [insertEntry, lookup]
  | cons head rest ih =>
    rw [insertEntry]
    split
    · simp [lookup]
    · rename_i same
      have key_eq : key = head.1 := Std.LawfulEqCmp.eq_of_compare same
      simp only [lookup, Std.compare_eq_iff_eq, key_eq]
      split <;> simp_all
    · rename_i more
      have differ : key ≠ head.1 := by
        rintro rfl
        simp at more
      simp only [lookup, Std.compare_eq_iff_eq, ih]
      split
      · rename_i same
        simp [same, differ.symm]
      · rfl

/-- Reading after writing gives what was written, and the old value under every other key. -/
theorem get?_insert [Std.TransOrd K] [Std.LawfulEqOrd K] [DecidableEq K] (map : SortedMap K V)
    (key : K) (value : V) (other : K) :
    (map.insert key value).get? other = if other = key then some value else map.get? other :=
  lookup_insertEntry other

/-- In an ordered list a value is found under a key exactly if the two are an entry. -/
theorem lookup_eq_some_iff [Std.TransOrd K] [Std.LawfulEqOrd K] {key : K} {value : V}
    {entries : List (K × V)} (h : entries.Pairwise fun a b => compare a.1 b.1 = .lt) :
    lookup key entries = some value ↔ (key, value) ∈ entries := by
  induction entries with
  | nil => simp [lookup]
  | cons head rest ih =>
    obtain ⟨key', value'⟩ := head
    rw [lookup, List.mem_cons, ← ih (List.Pairwise.of_cons h)]
    split
    next same =>
      have key_eq : key = key' := Std.LawfulEqCmp.eq_of_compare same
      subst key_eq
      have alone : lookup key rest ≠ some value := by
        intro again
        have less := List.rel_of_pairwise_cons h ((ih (List.Pairwise.of_cons h)).mp again)
        simp at less
      simp only [alone, or_false, Option.some.injEq, Prod.mk.injEq, true_and]
      exact eq_comm
    next differ =>
      have key_ne : key ≠ key' := by
        rintro rfl
        simp at differ
      simp [key_ne]

/-- What is found under a key is what the map holds under it. -/
theorem get?_eq_some_iff [Std.TransOrd K] [Std.LawfulEqOrd K] {map : SortedMap K V} {key : K}
    {value : V} : map.get? key = some value ↔ (key, value) ∈ map.entries :=
  lookup_eq_some_iff map.ascending

@[simp]
theorem get?_empty (key : K) : (empty : SortedMap K V).get? key = none :=
  rfl

private theorem lookup_map (change : V → W) (key : K) (entries : List (K × V)) :
    lookup key (entries.map fun entry => (entry.1, change entry.2)) = (lookup key entries).map change := by
  induction entries with
  | nil => rfl
  | cons entry rest ih =>
    simp only [List.map_cons, lookup, ih]
    split <;> rfl

/-- A map whose values are changed has the changed value under each key. -/
@[simp]
theorem get?_mapValues (map : SortedMap K V) (change : V → W) (key : K) :
    (map.mapValues change).get? key = (map.get? key).map change :=
  lookup_map change key map.entries

end SortedMap

end Diorama
