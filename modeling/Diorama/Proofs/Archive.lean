import Diorama.Archive
import Diorama.Proofs.Format

/-!
# Archives are read as they were laid out

What `Resource.layout` gives, `Archive.parse` takes: one entry for every resource, in the order in which
they were added, each with the kind and id of its resource, and its data where the entry says
(`Archive.parse_layout`). Looking a resource up among the entries is then looking it up among the resources
(`Archive.HoldsAll.resource?_eq`, `Archive.HoldsAll.ids_eq`).

Laying out goes through the resources twice, once for the table and once for the data. What holds the two
together is the list of entries that the table stands for, `Resource.entriesFrom`: the table is their
octets, and the data of each lies where it says. `Archive.layout_read_back` is what this comes to for someone
who only writes and reads.
-/

namespace Diorama

/-- The long word that four octets stand for is the one that they were written from. -/
theorem Bytes.toLong_octets (word : UInt32) :
    toLong word.toUInt8 (word >>> 8).toUInt8 (word >>> 16).toUInt8 (word >>> 24).toUInt8 = word := by
  apply UInt32.toBitVec_inj.mp
  simp only [toLong, UInt32.toBitVec_or, UInt32.toBitVec_shiftLeft, UInt8.toBitVec_toUInt32,
    UInt32.toBitVec_toUInt8, UInt32.toBitVec_shiftRight]
  ext i below
  simp only [UInt32.toBitVec_ofNat, BitVec.ofNat_eq_ofNat, BitVec.reduceMod, BitVec.ushiftRight_eq',
    BitVec.toNat_ofNat, Nat.reducePow, Nat.reduceMod, BitVec.shiftLeft_eq', BitVec.getElem_or,
    BitVec.getElem_shiftLeft, BitVec.getElem_setWidth, BitVec.getLsbD_setWidth,
    BitVec.getLsbD_ushiftRight]
  -- The octet that begins at bit `n` holds the bits from `n` up to `n + 7`.
  have octet (n : Nat) :
      (!decide (i < n) && (decide (i - n < 8) && word.toBitVec.getLsbD (n + (i - n))))
        = (decide (n ≤ i ∧ i < n + 8) && word.toBitVec.getLsbD i) := by
    by_cases low : i < n
    · have outside : ¬ (n ≤ i ∧ i < n + 8) := by omega
      simp only [low, outside, decide_true, decide_false, Bool.not_true, Bool.false_and]
    · have inside : i - n < 8 ↔ n ≤ i ∧ i < n + 8 := by omega
      have place : n + (i - n) = i := by omega
      simp only [low, inside, place, decide_false, Bool.not_false, Bool.true_and]
  rw [octet 8, octet 16, octet 24, BitVec.getLsbD_eq_getElem below]
  cases word.toBitVec[i] with
  | false => simp only [Bool.and_false, Bool.or_false]
  | true =>
    simp only [Bool.and_true, Bool.or_eq_true, decide_eq_true_eq]
    omega

/-! ## The table -/

/-- The sixteen octets of an entry. -/
def ArchiveEntry.octets (entry : ArchiveEntry) : Bytes :=
  entry.kind.octets ++ Bytes.ofLong entry.id ++ Bytes.ofLong entry.offset ++ Bytes.ofLong entry.size

namespace Resource

/-- The entry of a resource whose data lies at `offset`. -/
def entryAt (offset : Nat) (resource : Resource) : ArchiveEntry :=
  { kind := resource.kind, id := resource.id, offset := offset.toUInt32,
    size := resource.data.length.toUInt32 }

/-- The entries of resources whose data lies one after the other from `offset` on. -/
def entriesFrom (offset : Nat) : List Resource → List ArchiveEntry
  | [] => []
  | resource :: rest => resource.entryAt offset :: entriesFrom (offset + resource.data.length) rest

/-- Every size and every place fits a long. -/
def FitFrom (offset : Nat) : List Resource → Prop
  | [] => True
  | resource :: rest => offset ≤ maxLong ∧ resource.data.length ≤ maxLong
    ∧ FitFrom (offset + resource.data.length) rest

/-- There is an entry for each resource. -/
theorem length_entriesFrom (offset : Nat) (resources : List Resource) :
    (entriesFrom offset resources).length = resources.length := by
  induction resources generalizing offset with
  | nil => rfl
  | cons resource rest ih => rw [entriesFrom, List.length_cons, ih, List.length_cons]

/-- A number that fits a long is the number of that long. -/
theorem toNat_toUInt32 {n : Nat} (h : n ≤ maxLong) : n.toUInt32.toNat = n := by
  have small : n ≤ 4294967295 := h
  exact Nat.mod_eq_of_lt (by omega)

/-- A table is the octets of its entries, and there is one only if everything fits. -/
theorem tableFrom_eq_ok_iff {offset : Nat} {resources : List Resource} {table : Bytes} :
    tableFrom offset resources = .ok table
      ↔ FitFrom offset resources ∧ table = (entriesFrom offset resources).flatMap ArchiveEntry.octets := by
  induction resources generalizing offset table with
  | nil => exact ⟨fun h => by cases h; exact ⟨trivial, rfl⟩, fun h => by rw [h.2]; rfl⟩
  | cons resource rest ih =>
    unfold tableFrom
    dsimp only
    by_cases large : maxLong < resource.data.length
    · rw [if_pos large]
      exact ⟨(nomatch ·), fun h => absurd h.1.2.1 (Nat.not_le.mpr large)⟩
    by_cases far : maxLong < offset
    · rw [if_neg large, if_pos far]
      exact ⟨(nomatch ·), fun h => absurd h.1.1 (Nat.not_le.mpr far)⟩
    rw [if_neg large, if_neg far]
    change (tableFrom (offset + resource.data.length) rest >>= fun tail =>
      pure (ArchiveEntry.octets (resource.entryAt offset) ++ tail)) = _ ↔ _
    simp only [Except.bind_eq_ok_iff, ih]
    constructor
    · rintro ⟨tail, ⟨fit, rfl⟩, same⟩
      cases same
      exact ⟨⟨Nat.not_lt.mp far, Nat.not_lt.mp large, fit⟩, rfl⟩
    · rintro ⟨⟨-, -, fit⟩, rfl⟩
      exact ⟨_, ⟨fit, rfl⟩, rfl⟩

end Resource

namespace Archive

/-- Entries that lie inside the file are read from their octets. -/
theorem readTable_octets {limit : Nat} {entries : List ArchiveEntry}
    (inside : ∀ entry ∈ entries, entry.stop ≤ limit) (index : Nat) (rest : Bytes) :
    readTable limit index entries.length (entries.flatMap ArchiveEntry.octets ++ rest) = .ok entries := by
  induction entries generalizing index with
  | nil => rfl
  | cons entry others ih =>
    have onward := ih (fun other among => inside other (List.mem_cons_of_mem _ among)) (index + 1)
    rw [List.flatMap_cons, List.append_assoc, List.length_cons]
    change (do
      let read : ArchiveEntry := ⟨entry.kind, Bytes.toLong _ _ _ _, Bytes.toLong _ _ _ _, Bytes.toLong _ _ _ _⟩
      if read.stop ≤ limit then
        return read :: (← readTable limit (index + 1) others.length
          (others.flatMap ArchiveEntry.octets ++ rest))
      else throw (ArchiveError.beyondEnd index)) = _
    simp only [Bytes.toLong_octets]
    rw [if_pos (inside entry List.mem_cons_self), onward]
    rfl

end Archive

/-! ## The data -/

namespace Resource

/-- No entry ends behind the data of the resources. -/
theorem stop_le_of_mem_entriesFrom {offset : Nat} {resources : List Resource}
    (fit : FitFrom offset resources) {entry : ArchiveEntry} (among : entry ∈ entriesFrom offset resources) :
    entry.stop ≤ offset + (resources.flatMap (·.data)).length := by
  induction resources generalizing offset with
  | nil => cases among
  | cons resource rest ih =>
    obtain ⟨near, small, fit⟩ := fit
    rw [List.flatMap_cons, List.length_append]
    rcases List.mem_cons.mp among with rfl | among
    · have place : (resource.entryAt offset).stop = offset + resource.data.length :=
        congrArg₂ (· + ·) (toNat_toUInt32 near) (toNat_toUInt32 small)
      omega
    · have later := ih fit among
      omega

/-- Data that lies one after the other from `offset` on is found where the entries say. -/
theorem data_of_entriesFrom {offset : Nat} {resources : List Resource} (fit : FitFrom offset resources)
    {front : Bytes} (length : front.length = offset) :
    List.Forall₂ (fun resource entry => entry.kind = resource.kind ∧ entry.id = resource.id ∧
        ((front ++ resources.flatMap (·.data)).drop entry.start).take entry.size.toNat = resource.data)
      resources (entriesFrom offset resources) := by
  induction resources generalizing offset front with
  | nil => exact .nil
  | cons resource rest ih =>
    obtain ⟨near, small, fit⟩ := fit
    rw [List.flatMap_cons, ← List.append_assoc]
    refine .cons ⟨rfl, rfl, ?_⟩ (ih fit ?_)
    · have start : (resource.entryAt offset).start = front.length := (toNat_toUInt32 near).trans length.symm
      have size : (resource.entryAt offset).size.toNat = resource.data.length := toNat_toUInt32 small
      rw [start, size, List.append_assoc, List.drop_left, List.take_left]
    · rw [List.length_append, length]

end Resource

/-! ## Whole archives -/

/-- Where the data begins: behind the header and the table. -/
def Resource.dataStart (resources : List Resource) : Nat :=
  Archive.headerSize + resources.length * Archive.entrySize

/-- The header of an archive with so many resources. -/
def Resource.header (resources : List Resource) : Bytes :=
  Archive.signature ++ Bytes.ofLong Archive.version ++ Bytes.ofLong resources.length.toUInt32
    ++ Bytes.ofLong 0

/-- The header has its size. -/
theorem Resource.length_header (resources : List Resource) : (header resources).length = Archive.headerSize :=
  rfl

/-- What lies before the data: the header and the table. -/
def Resource.front (resources : List Resource) : Bytes :=
  header resources ++ (entriesFrom (dataStart resources) resources).flatMap ArchiveEntry.octets

/-- Each entry of the table has its size. -/
theorem ArchiveEntry.length_octets (entries : List ArchiveEntry) :
    (entries.flatMap octets).length = entries.length * Archive.entrySize := by
  induction entries with
  | nil => rfl
  | cons entry others ih =>
    rw [List.flatMap_cons, List.length_append, ih, List.length_cons, Nat.succ_mul, Nat.add_comm]
    rfl

/-- Header and table end where the data begin. -/
theorem Resource.length_front (resources : List Resource) : (front resources).length = dataStart resources := by
  rw [front, List.length_append, length_header, ArchiveEntry.length_octets, length_entriesFrom, dataStart]

/-- An archive can be laid out if everything fits, and is then the table and the data behind it. -/
theorem Resource.layout_eq_ok_iff {resources : List Resource} {bytes : Bytes} :
    layout resources = .ok bytes ↔ resources.length ≤ maxLong ∧ FitFrom (dataStart resources) resources
      ∧ bytes = front resources ++ resources.flatMap (·.data) := by
  unfold layout
  dsimp only
  split
  next many => exact ⟨(nomatch ·), fun h => absurd h.1 (Nat.not_le.mpr many)⟩
  next few =>
    rw [Except.bind_eq_ok_iff]
    simp only [tableFrom_eq_ok_iff]
    constructor
    · rintro ⟨table, ⟨fit, rfl⟩, same⟩
      exact ⟨Nat.not_lt.mp few, fit, (Except.ok.inj same).symm⟩
    · rintro ⟨-, fit, rfl⟩
      exact ⟨_, ⟨fit, rfl⟩, rfl⟩

/-- The archive has one entry for every resource, in order, and the data of each. -/
def Archive.HoldsAll (archive : Archive) (resources : List Resource) : Prop :=
  List.Forall₂ (fun resource entry => entry.kind = resource.kind ∧ entry.id = resource.id
    ∧ archive.entryData entry = resource.data) resources archive.entries

namespace Archive

/-- What is made of a header: its version is checked, then that the table is there, and then the table is read. -/
theorem parseEntries_header (found count padding : UInt32) (table : Bytes) :
    parseEntries (signature ++ Bytes.ofLong found ++ Bytes.ofLong count ++ Bytes.ofLong padding ++ table) =
      if found != version then .error (.unsupportedVersion found)
      else if headerSize + table.length < headerSize + count.toNat * entrySize then .error .tableTruncated
      else readTable (headerSize + table.length) 0 count.toNat table := by
  have length : (signature ++ Bytes.ofLong found ++ Bytes.ofLong count ++ Bytes.ofLong padding ++ table).length
      = headerSize + table.length := by
    rw [List.length_append]
    rfl
  rw [← length]
  simp only [parseEntries, signature, Bytes.ofLong, List.cons_append, List.nil_append, Bytes.toLong_octets]
  rfl

/-- The table of a layout is read back as its entries. -/
theorem parseEntries_layout {resources : List Resource} {bytes : Bytes}
    (written : Resource.layout resources = .ok bytes) :
    parseEntries bytes = .ok (Resource.entriesFrom (Resource.dataStart resources) resources) := by
  obtain ⟨few, fit, rfl⟩ := Resource.layout_eq_ok_iff.mp written
  let entries := Resource.entriesFrom (Resource.dataStart resources) resources
  let table := entries.flatMap ArchiveEntry.octets ++ resources.flatMap (·.data)
  have size := Resource.length_front resources
  have limit : headerSize + table.length = Resource.dataStart resources + (resources.flatMap (·.data)).length := by
    rw [← size, ← Resource.length_header resources, ← List.length_append, ← List.length_append, Resource.front,
      List.append_assoc]
  have inside : ∀ entry ∈ entries, entry.stop ≤ headerSize + table.length := by
    intro entry among
    rw [limit]
    exact Resource.stop_le_of_mem_entriesFrom fit among
  have whole : ¬ headerSize + table.length < headerSize + resources.length * entrySize := by
    rw [limit, Resource.dataStart]
    omega
  have read := readTable_octets inside 0 (resources.flatMap (·.data))
  rw [Resource.length_entriesFrom] at read
  rw [Resource.front, Resource.header, List.append_assoc, parseEntries_header, Resource.toNat_toUInt32 few]
  exact (if_neg Bool.false_ne_true).trans ((if_neg whole).trans read)

/-- An archive that is laid out is read as what was laid out. -/
theorem parse_layout {resources : List Resource} {bytes : Bytes} (path : String)
    (written : Resource.layout resources = .ok bytes) :
    ∃ archive, parse path bytes = .ok archive ∧ archive.HoldsAll resources := by
  have read := parseEntries_layout written
  obtain ⟨-, fit, rfl⟩ := Resource.layout_eq_ok_iff.mp written
  refine ⟨_, by rw [parse, read]; rfl, ?_⟩
  exact Resource.data_of_entriesFrom fit (Resource.length_front resources)

/-- A table that is read has only entries whose data lies inside the file. -/
theorem stop_le_of_readTable {limit index count : Nat} {table : Bytes} {entries : List ArchiveEntry}
    (read : readTable limit index count table = .ok entries) {entry : ArchiveEntry} (among : entry ∈ entries) :
    entry.stop ≤ limit := by
  induction count generalizing index table entries with
  | zero =>
    cases read
    cases among
  | succ count ih =>
    unfold readTable at read
    split at read
    next => contradiction
    next same =>
      cases same
      dsimp only at read
      split at read
      next inside =>
        obtain ⟨others, onward, same⟩ := Except.bind_eq_ok_iff.mp read
        cases same
        rcases List.mem_cons.mp among with rfl | among
        · exact inside
        · exact ih onward among
      next => cases read
    next => cases read

/-- What parsing gives are the octets that were parsed, and entries whose data lies in them. -/
theorem inside_of_parse {path : String} {bytes : Bytes} {archive : Archive}
    (parsed : parse path bytes = .ok archive) :
    archive.octets = bytes ∧ ∀ entry ∈ archive.entries, entry.stop ≤ bytes.length := by
  obtain ⟨entries, read, same⟩ := Except.bind_eq_ok_iff.mp parsed
  cases same
  refine ⟨rfl, fun entry among => ?_⟩
  unfold parseEntries at read
  split at read
  next =>
    dsimp only at read
    split at read
    · cases read
    split at read
    · cases read
    split at read
    · cases read
    · exact stop_le_of_readTable read among
  next => cases read

namespace HoldsAll

variable {archive : Archive} {resources : List Resource}

/-- The entry at a place is that of the resource at this place. -/
theorem exists_entry (holds : archive.HoldsAll resources) {place : Nat} {resource : Resource}
    (there : resources[place]? = some resource) : ∃ entry, archive.entries[place]? = some entry ∧
      entry.kind = resource.kind ∧ entry.id = resource.id ∧ archive.entryData entry = resource.data := by
  unfold HoldsAll at holds
  generalize archive.entries = entries at holds
  induction holds generalizing place with
  | nil => cases there
  | @cons first entry resources entries same _ ih =>
    cases place with
    | zero =>
      cases there
      exact ⟨entry, rfl, same⟩
    | succ place => exact ih there

/-- Looking up among the entries is looking up among the resources. -/
theorem resource?_eq (holds : archive.HoldsAll resources) (kind : ResourceKind) (id : UInt32) :
    archive.resource? kind id
      = (resources.find? fun resource => resource.kind == kind && resource.id == id).map (·.data) := by
  unfold resource? find?
  unfold HoldsAll at holds
  generalize archive.entries = entries at holds
  induction holds with
  | nil => rfl
  | @cons resource entry resources entries same _ ih =>
    obtain ⟨kinds, ids, data⟩ := same
    rw [List.find?_cons, List.find?_cons, kinds, ids]
    cases resource.kind == kind && resource.id == id with
    | true => exact congrArg some data
    | false => exact ih

/-- The ids among the entries are those of the resources. -/
theorem ids_eq (holds : archive.HoldsAll resources) (kind : ResourceKind) :
    archive.ids kind = (resources.filter (·.kind == kind)).map (·.id) := by
  unfold ids
  unfold HoldsAll at holds
  generalize archive.entries = entries at holds
  induction holds with
  | nil => rfl
  | @cons resource entry resources entries same _ ih =>
    obtain ⟨kinds, ids, -⟩ := same
    rw [List.filter_cons, List.filter_cons, kinds]
    split
    · rw [List.map_cons, List.map_cons, ids, ih]
    · exact ih

end HoldsAll

/-! ## Out and in again -/

/-- Whatever can be laid out is read again as it was: the archive has one entry for every resource, in the order
in which they were added, with the kind and id of its resource, and the data of the resource is what lies in the
range of the entry. Looking up a kind and an id gives the data of the first resource that was added under them,
if there is one, and the ids of a kind are those of the resources of that kind. -/
theorem layout_read_back {resources : List Resource} {bytes : Bytes}
    (written : Resource.layout resources = .ok bytes) (path : String) : ∃ archive, parse path bytes = .ok archive ∧
      archive.entries.length = resources.length ∧
      (∀ (place : Nat) resource, resources[place]? = some resource → ∃ entry, archive.entries[place]? = some entry ∧
        entry.kind = resource.kind ∧ entry.id = resource.id ∧ entry.stop ≤ bytes.length ∧
        bytes.extract entry.start entry.stop = resource.data) ∧
      (∀ kind id, archive.resource? kind id =
        (resources.find? fun resource => resource.kind == kind && resource.id == id).map (·.data)) ∧
      ∀ kind, archive.ids kind = (resources.filter (·.kind == kind)).map (·.id) := by
  obtain ⟨archive, parsed, holds⟩ := parse_layout path written
  obtain ⟨octets, inside⟩ := inside_of_parse parsed
  refine ⟨archive, parsed, holds.length_eq.symm, fun place resource there => ?_, holds.resource?_eq, holds.ids_eq⟩
  obtain ⟨entry, here, kind, id, data⟩ := holds.exists_entry there
  refine ⟨entry, here, kind, id, inside entry (List.mem_of_getElem? here), ?_⟩
  have size : entry.stop - entry.start = entry.size.toNat := Nat.add_sub_cancel_left ..
  rw [List.extract_eq_take_drop, size, ← octets]
  exact data

/-- Two resources under one kind and id, and an empty one between them. -/
theorem layout_read_back_repeated : ∃ bytes archive,
    Resource.layout [⟨.card, 7, [1, 2]⟩, ⟨.names, 0, []⟩, ⟨.card, 7, [3]⟩] = .ok bytes ∧
    parse "a.rxa" bytes = .ok archive ∧ archive.entries.length = 3 ∧
    archive.resource? .card 7 = some [1, 2] ∧ archive.resource? .names 0 = some [] ∧
    archive.resource? .names 7 = none ∧ archive.ids .card = [7, 7] := by
  let resources : List Resource := [⟨.card, 7, [1, 2]⟩, ⟨.names, 0, []⟩, ⟨.card, 7, [3]⟩]
  obtain ⟨bytes, written⟩ : ∃ bytes, Resource.layout resources = .ok bytes := ⟨_, rfl⟩
  obtain ⟨archive, parsed, size, -, found, ids⟩ := layout_read_back written "a.rxa"
  exact ⟨bytes, archive, written, parsed, size, found .card 7, found .names 0, found .names 7, ids .card⟩

end Archive

end Diorama
