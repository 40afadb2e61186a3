import Diorama.Proofs.Archive
import Diorama.Proofs.Directory

/-!
# The files that are archives

Which octets are an archive is said by their places: the signature at the front, the version and the number of
entries behind it, a table of that size inside the file, and every entry's data inside the file
(`Archive.WellFormed`). Parsing takes these files and no others (`Archive.parse_eq_ok_iff`).

Parsing here takes the octets apart by their pattern, and the data is cut out by `List.drop` and `List.take`,
which give less where there is less; so nothing can go wrong, and nothing says that reading stays inside the
file. A program that has the file as an array multiplies a count that it has not checked yet, adds an offset to
a size, and cuts out what lies between two places. The second half of this module reads archives in that way.
Every product and every sum has to fit 64 bits, every octet is looked up at its place, every cut is made between
two places, and where one of them fails the whole result is `none`. `Archive.parse_exact` is that this never
happens, whatever the octets are, and that the results are the same.
-/

namespace Diorama

/-! ## Places in a file -/

namespace Bytes

/-- The long word that begins at a place, with zeros behind the end. -/
def longAt (octets : Bytes) (place : Nat) : UInt32 :=
  toLong (octets.getD place 0) (octets.getD (place + 1) 0) (octets.getD (place + 2) 0) (octets.getD (place + 3) 0)

/-- The long word that begins at a place, if no octet of it is looked up where there is none. -/
def longAt? (octets : Bytes) (place : Nat) : Option UInt32 :=
  return toLong (← octets[place]?) (← octets[place + 1]?) (← octets[place + 2]?) (← octets[place + 3]?)

/-- The octets from one place up to another, if the last place is not beyond the end. -/
def slice? (octets : Bytes) (first last : Nat) : Option Bytes :=
  if first ≤ last ∧ last ≤ octets.length then some (octets.extract first last) else none

/-- A stretch between two places in order, inside of the octets, can be cut out. -/
theorem slice?_of_le {octets : Bytes} {first last : Nat} (ordered : first ≤ last)
    (inside : last ≤ octets.length) : octets.slice? first last = some (octets.extract first last) :=
  if_pos ⟨ordered, inside⟩

/-- What is cut out of the front of some octets is cut out of the octets. -/
theorem slice?_take {octets : Bytes} {first length size : Nat} (room : first + length ≤ size)
    (whole : size ≤ octets.length) :
    slice? (octets.take size) first (first + length) = some ((octets.drop first).take length) := by
  have inside : first + length ≤ (octets.take size).length := by rwa [List.length_take_of_le whole]
  rw [slice?_of_le (Nat.le_add_right ..) inside, List.extract_eq_take_drop, Nat.add_sub_cancel_left, List.drop_take,
    List.take_take, Nat.min_eq_left (by omega)]

/-- Sixteen octets are taken off the front, as the header is and every entry. -/
theorem exists_sixteen {octets : Bytes} (enough : 16 ≤ octets.length) :
    ∃ a b c d e f g h i j k l m n o p rest,
      octets = a :: b :: c :: d :: e :: f :: g :: h :: i :: j :: k :: l :: m :: n :: o :: p :: rest := by
  iterate 16
    rcases octets with _ | ⟨_, octets⟩
    · simp at enough
  exact ⟨_, _, _, _, _, _, _, _, _, _, _, _, _, _, _, _, octets, rfl⟩

end Bytes

/-- The entry that sixteen octets stand for. -/
def ArchiveEntry.ofOctets (raw : Bytes) : ArchiveEntry :=
  { kind := ⟨raw.getD 0 0, raw.getD 1 0, raw.getD 2 0, raw.getD 3 0⟩, id := raw.longAt 4, offset := raw.longAt 8,
    size := raw.longAt 12 }

namespace Archive

/-! ## What parsing accepts -/

/-- How many entries the header announces. -/
def entryCount (octets : Bytes) : Nat :=
  (octets.longAt 8).toNat

/-- The entry of the table with a number. -/
def tableEntry (octets : Bytes) (index : Nat) : ArchiveEntry :=
  .ofOctets (octets.drop (headerSize + index * entrySize))

/-- The octets are an archive. -/
structure WellFormed (octets : Bytes) : Prop where
  header : headerSize ≤ octets.length
  signed : signature <+: octets
  version : octets.longAt 4 = version
  table : headerSize + entryCount octets * entrySize ≤ octets.length
  inside : ∀ index < entryCount octets, (tableEntry octets index).stop ≤ octets.length

/-- An entry is read from the next sixteen octets, and the rest of the table from those behind them. -/
theorem readTable_succ (limit index count : Nat) {table : Bytes} (enough : entrySize ≤ table.length) :
    readTable limit index (count + 1) table =
      if (ArchiveEntry.ofOctets table).stop ≤ limit then do
        return .ofOctets table :: (← readTable limit (index + 1) count (table.drop entrySize))
      else .error (.beyondEnd index) := by
  obtain ⟨_, _, _, _, _, _, _, _, _, _, _, _, _, _, _, _, rest, rfl⟩ := Bytes.exists_sixteen enough
  rfl

/-- A header is checked from its front to its end, and then the table is read. -/
theorem parseEntries_eq (octets : Bytes) : parseEntries octets =
    if octets.length < headerSize then .error .tooSmall
    else if octets.take 4 ≠ signature then .error .unsigned
    else if octets.longAt 4 ≠ version then .error (.unsupportedVersion (octets.longAt 4))
    else if octets.length < headerSize + entryCount octets * entrySize then .error .tableTruncated
    else readTable octets.length 0 (entryCount octets) (octets.drop headerSize) := by
  by_cases small : octets.length < headerSize
  · rw [if_pos small]
    unfold parseEntries
    split
    next =>
      simp only [headerSize, List.length_cons] at small
      omega
    next => rfl
  · rw [if_neg small]
    have enough : headerSize ≤ octets.length := Nat.le_of_not_lt small
    obtain ⟨a, b, c, d, e, f, g, h, _, _, _, _, _, _, _, _, rest, rfl⟩ := Bytes.exists_sixteen enough
    simp only [← bne_iff_ne]
    rfl

/-- The entries of a whole table are read if the data of each lies inside the file. -/
theorem readTable_eq_ok_iff {limit index count : Nat} {table : Bytes} {entries : List ArchiveEntry}
    (whole : (index + count) * entrySize ≤ table.length) :
    readTable limit index count (table.drop (index * entrySize)) = .ok entries ↔
      entries = (List.range' index count).map (fun place => .ofOctets (table.drop (place * entrySize))) ∧
        ∀ entry ∈ entries, entry.stop ≤ limit := by
  induction count generalizing index entries with
  | zero =>
    rw [readTable, List.range'_zero, List.map_nil]
    constructor
    · rintro ⟨⟩
      exact ⟨rfl, by simp⟩
    · rintro ⟨rfl, -⟩
      rfl
  | succ count ih =>
    have next : (index + 1 + count) * entrySize ≤ table.length := by rwa [Nat.add_right_comm]
    have enough : entrySize ≤ (table.drop (index * entrySize)).length := by
      rw [List.length_drop]
      simp only [entrySize] at whole ⊢
      omega
    rw [readTable_succ limit index count enough, List.drop_drop, ← Nat.succ_mul, List.range'_succ, List.map_cons]
    -- An entry that reaches beyond the file ends the reading, whatever comes after it.
    split
    next inside =>
      simp only [Except.bind_eq_ok_iff, ih next]
      constructor
      · rintro ⟨others, ⟨rfl, onward⟩, same⟩
        cases same
        exact ⟨rfl, List.forall_mem_cons.mpr ⟨inside, onward⟩⟩
      · rintro ⟨rfl, all⟩
        exact ⟨_, ⟨rfl, (List.forall_mem_cons.mp all).2⟩, rfl⟩
    next beyond =>
      refine iff_of_false (by simp) ?_
      rintro ⟨rfl, all⟩
      exact beyond (List.forall_mem_cons.mp all).1

/-- An entry of the table is read at its place. -/
theorem tableEntry_eq (octets : Bytes) (index : Nat) :
    tableEntry octets index = .ofOctets ((octets.drop headerSize).drop (index * entrySize)) := by
  rw [tableEntry, List.drop_drop]

/-- Octets are parsed if they are an archive, and to the entries that its table has. -/
theorem parseEntries_eq_ok_iff {octets : Bytes} {entries : List ArchiveEntry} :
    parseEntries octets = .ok entries ↔
      WellFormed octets ∧ entries = (List.range (entryCount octets)).map (tableEntry octets) := by
  have among :
      (∀ entry ∈ (List.range (entryCount octets)).map (tableEntry octets), entry.stop ≤ octets.length) ↔
        ∀ index < entryCount octets, (tableEntry octets index).stop ≤ octets.length := by
    simp only [List.forall_mem_map, List.mem_range]
  have signed : octets.take 4 = signature ↔ signature <+: octets := by
    rw [List.prefix_iff_eq_take, eq_comm]
    rfl
  -- One branch for each condition of the form; where one fails, so does parsing.
  rw [parseEntries_eq]
  split
  next small => exact iff_of_false (by simp) fun h => Nat.not_le.mpr small h.1.header
  next header =>
  split
  next unsigned => exact iff_of_false (by simp) fun h => unsigned (signed.mpr h.1.signed)
  next marked =>
  split
  next other => exact iff_of_false (by simp) fun h => other h.1.version
  next known =>
  split
  next short => exact iff_of_false (by simp) fun h => Nat.not_le.mpr short h.1.table
  next table =>
    have whole : (0 + entryCount octets) * entrySize ≤ (octets.drop headerSize).length := by
      rw [List.length_drop, Nat.zero_add]
      omega
    have read := @readTable_eq_ok_iff octets.length 0 _ _ entries whole
    rw [Nat.zero_mul, List.drop_zero, ← List.range_eq_range'] at read
    simp only [← tableEntry_eq] at read
    rw [read]
    constructor
    · rintro ⟨rfl, all⟩
      exact ⟨⟨Nat.le_of_not_lt header, signed.mp (not_not.mp marked), not_not.mp known, Nat.le_of_not_lt table,
        among.mp all⟩, rfl⟩
    · rintro ⟨form, rfl⟩
      exact ⟨rfl, among.mpr form.inside⟩

/-- Parsing takes the files that are archives and no others. -/
theorem parse_eq_ok_iff {path : String} {octets : Bytes} {archive : Archive} :
    parse path octets = .ok archive ↔ WellFormed octets ∧
      archive = { path, octets, entries := (List.range (entryCount octets)).map (tableEntry octets) } := by
  rw [parse, Except.bind_eq_ok_iff]
  simp only [parseEntries_eq_ok_iff]
  constructor
  · rintro ⟨entries, ⟨form, rfl⟩, same⟩
    cases same
    exact ⟨form, rfl⟩
  · rintro ⟨form, rfl⟩
    exact ⟨_, ⟨form, rfl⟩, rfl⟩

/-! ## Reading by places -/

/-- A number, if it fits 64 bits. -/
def fits? (n : Nat) : Option Nat :=
  if n < UInt64.size then some n else none

/-- The entry of sixteen octets, if none is looked up where there is none. -/
def entryAtPlaces? (raw : Bytes) : Option ArchiveEntry :=
  return { kind := ⟨← raw[0]?, ← raw[1]?, ← raw[2]?, ← raw[3]?⟩, id := ← raw.longAt? 4,
           offset := ← raw.longAt? 8, size := ← raw.longAt? 12 }

/-- Where the data of an entry lies, if the place behind it fits 64 bits. -/
def rangeOf? (entry : ArchiveEntry) : Option (Nat × Nat) :=
  return (entry.offset.toNat, ← fits? (entry.offset.toNat + entry.size.toNat))

/-- The entries of a table from the one numbered `index` on, if none is cut out beyond the end of the table. -/
def tableAtPlaces? (limit : Nat) (table : Bytes) (index : Nat) :
    (count : Nat) → Option (Except ArchiveError (List ArchiveEntry))
  | 0 => some (.ok [])
  | count + 1 => do
    let raw ← table.slice? (← fits? (index * entrySize)) (← fits? ((index + 1) * entrySize))
    let entry ← entryAtPlaces? raw
    let (_, stop) ← rangeOf? entry
    if stop ≤ limit then
      let others ← tableAtPlaces? limit table (index + 1) count
      return do return entry :: (← others)
    else return .error (.beyondEnd index)

/-- The entries of an archive, if everything on the way fits and lies inside. -/
def parseAtPlaces? (octets : Bytes) : Option (Except ArchiveError (List ArchiveEntry)) :=
  if octets.length < headerSize then some (.error .tooSmall) else do
  let header ← octets.slice? 0 headerSize
  let mark ← header.slice? 0 4
  if mark ≠ signature then some (.error .unsigned) else do
  let found ← header.longAt? 4
  if found ≠ version then some (.error (.unsupportedVersion found)) else do
  let count := (← header.longAt? 8).toNat
  let size ← fits? (count * entrySize)
  let stop ← fits? (headerSize + size)
  if octets.length < stop then some (.error .tableTruncated) else do
  let table ← octets.slice? headerSize stop
  tableAtPlaces? octets.length table 0 count

/-- The data of an entry, if it lies inside the file. -/
def dataAtPlaces? (archive : Archive) (entry : ArchiveEntry) : Option Bytes := do
  let (start, stop) ← rangeOf? entry
  archive.octets.slice? start stop

/-- The data of the first entry with a kind and an id, if it lies inside the file. -/
def resourceAtPlaces? (archive : Archive) (kind : ResourceKind) (id : UInt32) : Option (Option Bytes) :=
  match archive.find? kind id with
  | none => some none
  | some entry => some <$> archive.dataAtPlaces? entry

/-- No place of a table is so far out that it could not be counted. -/
theorem fits?_of_le {n : Nat} (small : n ≤ headerSize + UInt32.size * entrySize) : fits? n = some n := by
  rw [fits?, if_pos]
  simp only [headerSize, entrySize, UInt32.size, UInt64.size] at small ⊢
  omega

/-- A long word counts a table that fits, also behind a header. -/
theorem fits?_table {count : Nat} (few : count ≤ UInt32.size) :
    fits? (count * entrySize) = some (count * entrySize) ∧
      fits? (headerSize + count * entrySize) = some (headerSize + count * entrySize) := by
  have behind : headerSize + count * entrySize ≤ headerSize + UInt32.size * entrySize :=
    Nat.add_le_add_left (Nat.mul_le_mul_right entrySize few) headerSize
  exact ⟨fits?_of_le (Nat.le_trans (Nat.le_add_left ..) behind), fits?_of_le behind⟩

/-- Two long words have a sum that fits. -/
theorem rangeOf?_eq (entry : ArchiveEntry) : rangeOf? entry = some (entry.start, entry.stop) := by
  have offset := entry.offset.toNat_lt
  have size := entry.size.toNat_lt
  have small : entry.offset.toNat + entry.size.toNat ≤ headerSize + UInt32.size * entrySize := by
    simp only [headerSize, entrySize, UInt32.size]
    omega
  rw [rangeOf?, fits?_of_le small]
  rfl

/-- An entry is read at its places if all of its octets are there. -/
theorem entryAtPlaces?_take {rest : Bytes} (enough : entrySize ≤ rest.length) :
    entryAtPlaces? (rest.take entrySize) = some (.ofOctets rest) := by
  obtain ⟨_, _, _, _, _, _, _, _, _, _, _, _, _, _, _, _, rest, rfl⟩ := Bytes.exists_sixteen enough
  rfl

/-- Of a table in front of other octets, every entry is cut out and read. -/
theorem tableAtPlaces?_eq {limit index count size : Nat} {table : Bytes} (room : (index + count) * entrySize ≤ size)
    (whole : size ≤ table.length) (few : index + count ≤ UInt32.size) :
    tableAtPlaces? limit (table.take size) index count =
      some (readTable limit index count (table.drop (index * entrySize))) := by
  induction count generalizing index with
  | zero => rfl
  | succ count ih =>
    have next : (index + 1 + count) * entrySize ≤ size := by rwa [Nat.add_right_comm]
    have place : (index + 1) * entrySize = index * entrySize + entrySize := Nat.succ_mul ..
    have enough : entrySize ≤ (table.drop (index * entrySize)).length := by
      rw [List.length_drop]
      simp only [entrySize] at room ⊢
      omega
    have upTo : index * entrySize + entrySize ≤ size := by
      simp only [entrySize] at room ⊢
      omega
    have first := (fits?_table (by omega : index ≤ UInt32.size)).1
    have last := (fits?_table (by omega : index + 1 ≤ UInt32.size)).1
    have cut := Bytes.slice?_take upTo whole
    rw [← place] at cut
    have onward := ih next (by omega)
    rw [readTable_succ limit index count enough, List.drop_drop, ← place]
    unfold tableAtPlaces?
    simp only [first, last, cut, entryAtPlaces?_take enough, rangeOf?_eq, onward, Option.bind_eq_bind,
      Option.bind_some]
    split <;> rfl

/-- Nothing goes wrong while an archive is parsed. -/
theorem parseAtPlaces?_eq (octets : Bytes) : parseAtPlaces? octets = some (parseEntries octets) := by
  rw [parseEntries_eq, parseAtPlaces?]
  split
  next => rfl
  next header =>
  have enough : headerSize ≤ octets.length := Nat.le_of_not_lt header
  have front : octets.slice? 0 headerSize = some (octets.take headerSize) :=
    Bytes.slice?_of_le (Nat.zero_le _) enough
  have mark : Bytes.slice? (octets.take headerSize) 0 4 = some (octets.take 4) :=
    @Bytes.slice?_take octets 0 4 headerSize (by decide) enough
  have found : Bytes.longAt? (octets.take headerSize) 4 = some (octets.longAt 4) := by
    obtain ⟨_, _, _, _, _, _, _, _, _, _, _, _, _, _, _, _, rest, rfl⟩ := Bytes.exists_sixteen enough
    rfl
  have count : Bytes.longAt? (octets.take headerSize) 8 = some (octets.longAt 8) := by
    obtain ⟨_, _, _, _, _, _, _, _, _, _, _, _, _, _, _, _, rest, rfl⟩ := Bytes.exists_sixteen enough
    rfl
  have few : entryCount octets ≤ UInt32.size := (octets.longAt 8).toNat_lt.le
  obtain ⟨size, stop⟩ := fits?_table few
  have announced : (octets.longAt 8).toNat = entryCount octets := rfl
  simp only [front, mark, found, count, announced, size, stop, Option.bind_eq_bind, Option.bind_some]
  split
  next => rfl
  next =>
  split
  next => rfl
  next =>
  split
  next => rfl
  next short =>
    have whole := Nat.le_of_not_lt short
    -- The length was compared with what the header announces, so the table lies inside.
    have behind : entryCount octets * entrySize ≤ (octets.drop headerSize).length := by
      rw [List.length_drop]
      omega
    have table : octets.slice? headerSize (headerSize + entryCount octets * entrySize)
        = some ((octets.drop headerSize).take (entryCount octets * entrySize)) := by
      rw [Bytes.slice?_of_le (Nat.le_add_right ..) whole, List.extract_eq_take_drop, Nat.add_sub_cancel_left]
    have read := @tableAtPlaces?_eq octets.length 0 _ _ _ (by rw [Nat.zero_add]) behind
      (by rwa [Nat.zero_add])
    rw [table, Option.bind_some, read, Nat.zero_mul, List.drop_zero]

/-! ## Archives are safe to read -/

/-- The data of an entry that lies inside the file is cut out of it. -/
theorem dataAtPlaces?_eq {archive : Archive} {entry : ArchiveEntry} (inside : entry.stop ≤ archive.octets.length) :
    archive.dataAtPlaces? entry = some (archive.octets.extract entry.start entry.stop) := by
  rw [dataAtPlaces?, rangeOf?_eq]
  exact Bytes.slice?_of_le (Nat.le_add_right ..) inside

/-- An archive whose entries all lie inside the file is read as by looking resources up. -/
theorem resourceAtPlaces?_eq {archive : Archive}
    (inside : ∀ entry ∈ archive.entries, entry.stop ≤ archive.octets.length) (kind : ResourceKind)
    (id : UInt32) : archive.resourceAtPlaces? kind id = some (archive.resource? kind id) := by
  unfold resourceAtPlaces? resource?
  cases found : archive.find? kind id with
  | none => rfl
  | some entry =>
    have among : entry ∈ archive.entries := List.mem_of_find?_eq_some found
    dsimp only
    rw [dataAtPlaces?_eq (inside entry among), Option.map_some, entryData_eq_extract]
    rfl

/-- Parsing takes exactly the files that are archives, and nothing that it or reading does goes outside the file
or beyond 64 bits. The data of an entry is what lies between its offset and its offset and size together, and
looking up a kind and an id gives the data of the first entry that has them. -/
theorem parse_exact (path : String) (octets : Bytes) :
    parseAtPlaces? octets = some (parseEntries octets) ∧
    ((∃ archive, parse path octets = .ok archive) ↔ WellFormed octets) ∧
    ∀ archive, parse path octets = .ok archive →
      archive.octets = octets ∧
      archive.entries = (List.range (entryCount octets)).map (tableEntry octets) ∧
      (∀ entry ∈ archive.entries, archive.dataAtPlaces? entry = some (archive.entryData entry) ∧
        archive.entryData entry = octets.extract entry.start entry.stop ∧ entry.stop ≤ octets.length) ∧
      ∀ kind id, archive.resourceAtPlaces? kind id = some (archive.resource? kind id) ∧
        (∀ data, archive.resource? kind id = some data ↔
          ∃ entry, IsFirst (fun entry => entry.kind = kind ∧ entry.id = id) archive.entries entry ∧
            octets.extract entry.start entry.stop = data) ∧
        (archive.resource? kind id = none ↔
          ¬ ∃ entry ∈ archive.entries, entry.kind = kind ∧ entry.id = id) := by
  refine ⟨parseAtPlaces?_eq octets, ?_, ?_⟩
  · simp only [parse_eq_ok_iff]
    exact ⟨fun ⟨_, form, _⟩ => form, fun form => ⟨_, form, rfl⟩⟩
  · intro archive parsed
    obtain ⟨form, rfl⟩ := parse_eq_ok_iff.mp parsed
    have inside := (inside_of_parse parsed).2
    refine ⟨rfl, rfl, fun entry among => ?_, fun kind id => ?_⟩
    · rw [dataAtPlaces?_eq (inside entry among), entryData_eq_extract]
      exact ⟨rfl, rfl, inside entry among⟩
    · exact ⟨resourceAtPlaces?_eq inside kind id, fun data => resource?_eq_some_iff, resource?_eq_none_iff⟩

/-- An archive with two entries and no data behind its table. The first entry is empty and lies at the end of the
file, and the second one is the whole file. -/
def entwined : Bytes :=
  signature ++ Bytes.ofLong version ++ Bytes.ofLong 2 ++ Bytes.ofLong 0
    ++ [⟨.card, 7, 48, 0⟩, ⟨.names, 0, 0, 48⟩].flatMap ArchiveEntry.octets

/-- An empty entry is read at the end of the file, and one that lies over the header and the table is the file. -/
theorem parse_exact_entwined : ∃ archive, parse "a.rxa" entwined = .ok archive ∧ WellFormed entwined ∧
    archive.resourceAtPlaces? .card 7 = some (some []) ∧
    archive.resourceAtPlaces? .names 0 = some (some entwined) ∧
    archive.resourceAtPlaces? .card 8 = some none := by
  obtain ⟨archive, parsed⟩ : ∃ archive, parse "a.rxa" entwined = .ok archive := ⟨_, rfl⟩
  obtain ⟨-, form, reads⟩ := parse_exact "a.rxa" entwined
  obtain ⟨-, -, -, looks⟩ := reads archive parsed
  refine ⟨archive, parsed, form.mp ⟨archive, parsed⟩, (looks .card 7).1.trans ?_, (looks .names 0).1.trans ?_,
    (looks .card 8).1.trans ?_⟩
  all_goals
    cases parsed
    rfl

end Archive

end Diorama
