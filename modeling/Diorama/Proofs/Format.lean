import Diorama.Format
import Diorama.Proofs.Utf8
import Mathlib.Data.List.Forall2

/-!
# What writers write, readers read

The laws of the pieces from which stored forms are built, in a form that composes.

A writer is known by when it succeeds and what it gives then. A reader is known by what it *answers* to
octets that a writer gave, whatever follows them: `Reader.Answers reader octets value fits` says that it
takes `value` off the front, exactly the given octets long, provided that `fits` holds, and that it refuses
otherwise. Most pieces are always read, so that `fits` is `True` for them; what is stored deeper than a
reader goes is the exception for which `fits` is there.

`Codec` puts a writer beside its reader. Its one structural law is `Codec.list`: a codec of entries is a
codec of counted lists. Octets that no writer gives are not spoken of here.
-/

namespace Diorama

/-! ## Writers -/

section Except

variable {ε α β : Type}

/-- One step and then another succeed together. -/
theorem Except.bind_eq_ok_iff {first : Except ε α} {next : α → Except ε β} {result : β} :
    (first >>= next) = .ok result ↔ ∃ value, first = .ok value ∧ next value = .ok result := by
  cases first with
  | ok value => exact ⟨fun h => ⟨value, rfl, h⟩, fun ⟨_, same, h⟩ => by cases same; exact h⟩
  | error cause => exact ⟨(nomatch ·), fun ⟨_, same, _⟩ => nomatch same⟩

/-- A traversal succeeds with the results of its elements, in order. -/
theorem Except.mapM_eq_ok_iff {step : α → Except ε β} {values : List α} {results : List β} :
    values.mapM step = .ok results
      ↔ List.Forall₂ (fun value result => step value = .ok result) values results := by
  induction values generalizing results with
  | nil =>
    rw [List.mapM_nil, List.forall₂_nil_left_iff]
    exact ⟨fun h => by cases h; rfl, fun h => by rw [h]; rfl⟩
  | cons value rest ih =>
    rw [List.mapM_cons, bind_eq_ok_iff]
    constructor
    · rintro ⟨head, first, h⟩
      obtain ⟨tail, others, same⟩ := bind_eq_ok_iff.mp h
      cases same
      exact .cons first (ih.mp others)
    · intro h
      cases h with
      | cons first others =>
        exact ⟨_, first, bind_eq_ok_iff.mpr ⟨_, ih.mpr others, rfl⟩⟩

/-- A traversal succeeds if every element does. -/
theorem Except.mapM_succeeds_iff {step : α → Except ε β} {values : List α} :
    (∃ results, values.mapM step = .ok results)
      ↔ ∀ value ∈ values, ∃ result, step value = .ok result := by
  induction values with
  | nil => exact ⟨fun _ _ => (nomatch ·), fun _ => ⟨[], rfl⟩⟩
  | cons value rest ih =>
    rw [List.forall_mem_cons, ← ih]
    simp only [mapM_eq_ok_iff, List.forall₂_cons_left_iff]
    exact ⟨fun ⟨_, head, tail, first, others, _⟩ => ⟨⟨head, first⟩, tail, others⟩,
      fun ⟨⟨head, first⟩, tail, others⟩ => ⟨_, head, tail, first, others, rfl⟩⟩

end Except

namespace Written

variable {α : Type}

/-- A count is written as a word, up to the largest word. -/
theorem count_eq_ok_iff {size : Nat} {octets : Bytes} :
    count size = .ok octets ↔ size ≤ 65535 ∧ octets = Bytes.ofWord size.toUInt16 := by
  unfold count
  split
  next fits => exact ⟨fun h => ⟨fits, (Except.ok.inj h).symm⟩, fun h => by rw [h.2]⟩
  next tooLong => exact ⟨(nomatch ·), fun h => absurd h.1 tooLong⟩

/-- A name is written behind the number of its octets, of which there are 255 at most. -/
theorem name_eq_ok_iff {text : String} {octets : Bytes} :
    name text = .ok octets ↔ text.utf8ByteSize ≤ 255
      ∧ octets = text.utf8ByteSize.toUInt8 :: Utf8.encode text := by
  rw [← Utf8.length_encode]
  unfold name
  dsimp only
  split
  next fits => exact ⟨fun h => ⟨fits, (Except.ok.inj h).symm⟩, fun h => by rw [h.2]⟩
  next tooLong => exact ⟨(nomatch ·), fun h => absurd h.1 tooLong⟩

/-- A list is written as its count and its entries, end to end. -/
theorem list_eq_ok_iff {entry : α → Written} {entries : List α} {octets : Bytes} :
    list entry entries = .ok octets ↔ entries.length ≤ 65535 ∧ ∃ bodies,
      List.Forall₂ (fun value body => entry value = .ok body) entries bodies
        ∧ octets = Bytes.ofWord entries.length.toUInt16 ++ bodies.flatten := by
  unfold list
  simp only [Except.bind_eq_ok_iff, count_eq_ok_iff, Except.mapM_eq_ok_iff]
  constructor
  · rintro ⟨_, ⟨fits, rfl⟩, bodies, each, same⟩
    exact ⟨fits, bodies, each, (Except.ok.inj same).symm⟩
  · rintro ⟨fits, bodies, each, rfl⟩
    exact ⟨_, ⟨fits, rfl⟩, bodies, each, rfl⟩

/-- A list can be written if it can be counted and each of its entries can be written. -/
theorem list_succeeds_iff {entry : α → Written} {entries : List α} :
    (∃ octets, list entry entries = .ok octets)
      ↔ entries.length ≤ 65535 ∧ ∀ value ∈ entries, ∃ octets, entry value = .ok octets := by
  simp only [list_eq_ok_iff, ← Except.mapM_succeeds_iff, Except.mapM_eq_ok_iff]
  exact ⟨fun ⟨_, fits, bodies, each, _⟩ => ⟨fits, bodies, each⟩,
    fun ⟨fits, bodies, each⟩ => ⟨_, fits, bodies, each, rfl⟩⟩

/-- What stands behind a fixed front decides alone whether both can be written. -/
theorem after_eq_ok_iff {front octets : Bytes} {written : Written} :
    (do return front ++ (← written)) = .ok octets
      ↔ ∃ tail, written = .ok tail ∧ octets = front ++ tail := by
  rw [Except.bind_eq_ok_iff]
  constructor
  · rintro ⟨tail, same, h⟩
    exact ⟨tail, same, (Except.ok.inj h).symm⟩
  · rintro ⟨tail, same, rfl⟩
    exact ⟨tail, same, rfl⟩

/-- Something fixed in front of it is no obstacle. -/
theorem after_succeeds_iff {front : Bytes} {written : Written} :
    (∃ octets, (do return front ++ (← written)) = .ok octets) ↔ ∃ octets, written = .ok octets := by
  simp only [after_eq_ok_iff]
  exact ⟨fun ⟨_, tail, same, _⟩ => ⟨tail, same⟩, fun ⟨tail, same⟩ => ⟨_, tail, same, rfl⟩⟩

/-- Parts are written end to end. -/
theorem sequence_eq_ok_iff {parts : List Written} {octets : Bytes} :
    sequence parts = .ok octets ↔
      ∃ bodies, List.Forall₂ (fun part body => part = .ok body) parts bodies
        ∧ octets = bodies.flatten := by
  simp only [sequence, Except.bind_eq_ok_iff, Except.mapM_eq_ok_iff, id]
  exact ⟨fun ⟨bodies, each, same⟩ => ⟨bodies, each, (Except.ok.inj same).symm⟩,
    fun ⟨bodies, each, same⟩ => ⟨bodies, each, congrArg Except.ok same.symm⟩⟩

/-- A sequence can be written if each of its parts can. -/
theorem sequence_succeeds_iff {parts : List Written} :
    (∃ octets, sequence parts = .ok octets) ↔ ∀ part ∈ parts, ∃ octets, part = .ok octets := by
  have each : (∃ bodies, parts.mapM id = .ok bodies) ↔ _ := Except.mapM_succeeds_iff
  simp only [Except.mapM_eq_ok_iff, id] at each
  simp only [← each, sequence_eq_ok_iff]
  exact ⟨fun ⟨_, bodies, each, _⟩ => ⟨bodies, each⟩, fun ⟨bodies, each⟩ => ⟨_, bodies, each, rfl⟩⟩

end Written

/-! ## Readers -/

/-- The word that two octets stand for is the word that they were written from. -/
theorem Bytes.toWord_ofWord (word : UInt16) :
    toWord (word >>> 8).toUInt8 word.toUInt8 = word := by
  apply UInt16.toBitVec_inj.mp
  simp only [toWord, UInt16.toBitVec_or, UInt16.toBitVec_shiftLeft, UInt8.toBitVec_toUInt16,
    UInt16.toBitVec_toUInt8, UInt16.toBitVec_shiftRight]
  ext i below
  simp only [UInt16.toBitVec_ofNat, BitVec.ofNat_eq_ofNat, BitVec.reduceMod, BitVec.ushiftRight_eq',
    BitVec.toNat_ofNat, Nat.reducePow, Nat.reduceMod, BitVec.shiftLeft_eq', BitVec.getElem_or,
    BitVec.getElem_shiftLeft, BitVec.getElem_setWidth, BitVec.getLsbD_setWidth,
    BitVec.getLsbD_ushiftRight]
  by_cases low : i < 8
  · simp only [low, decide_true, Bool.not_true, Bool.false_and, Bool.false_or, Bool.true_and,
      BitVec.getLsbD_eq_getElem below]
  · have high : i - 8 < 8 := by omega
    have whole : 8 + (i - 8) = i := by omega
    simp only [low, high, whole, decide_true, decide_false, Bool.not_false, Bool.true_and,
      Bool.false_and, Bool.or_false, BitVec.getLsbD_eq_getElem below]

namespace Reader

variable {α β : Type}

/-- What a reader does with `octets`, whatever follows them: it takes `value` for exactly them if `fits`,
and refuses otherwise. -/
structure Answers (reader : Reader α) (octets : Bytes) (value : α) (fits : Prop) : Prop where
  takes : fits → ∀ rest, reader (octets ++ rest) = .ok (value, rest)
  refuses : ¬ fits → ∀ rest, ∃ cause, reader (octets ++ rest) = .error cause

/-- A reader that always takes what was written. -/
abbrev Takes (reader : Reader α) (octets : Bytes) (value : α) : Prop :=
  Answers reader octets value True

/-- A reader takes a value always if it does so whatever follows. -/
theorem Takes.of_eq {reader : Reader α} {octets : Bytes} {value : α}
    (h : ∀ rest, reader (octets ++ rest) = .ok (value, rest)) : Takes reader octets value :=
  ⟨fun _ => h, fun never => absurd trivial never⟩

/-- What follows a successful reader begins where that one has stopped. -/
theorem bind_ok {reader : Reader α} {bytes rest : Bytes} {value : α}
    (h : reader bytes = .ok (value, rest)) (next : α → Reader β) :
    (reader >>= next) bytes = next value rest := by
  change (reader bytes >>= fun pair => next pair.1 pair.2) = _
  rw [h]
  rfl

/-- What a reader refuses, anything that begins with it refuses for the same cause. -/
theorem bind_error {reader : Reader α} {bytes : Bytes} {cause : FormatError}
    (h : reader bytes = .error cause) (next : α → Reader β) :
    (reader >>= next) bytes = .error cause := by
  change (reader bytes >>= fun pair => next pair.1 pair.2) = _
  rw [h]
  rfl

/-- Two readers succeed if the first does and the second does on the rest. -/
theorem bind_eq_ok_iff {reader : Reader α} {next : α → Reader β} {bytes : Bytes} {result : β × Bytes} :
    (reader >>= next) bytes = .ok result
      ↔ ∃ value rest, reader bytes = .ok (value, rest) ∧ next value rest = .ok result := by
  change (reader bytes >>= fun pair => next pair.1 pair.2) = _ ↔ _
  rw [Except.bind_eq_ok_iff]
  exact ⟨fun ⟨pair, read, h⟩ => ⟨pair.1, pair.2, read, h⟩,
    fun ⟨value, rest, read, h⟩ => ⟨(value, rest), read, h⟩⟩

namespace Answers

variable {reader : Reader α} {next : α → Reader β} {octets others : Bytes} {value : α} {result : β}
  {fits fits' : Prop}

/-- The condition may be put in other words. -/
theorem congr (h : Answers reader octets value fits) (same : fits ↔ fits') :
    Answers reader octets value fits' :=
  ⟨fun h' => h.takes (same.mpr h'), fun h' => h.refuses (mt same.mp h')⟩

/-- A reader that reads nothing takes nothing. -/
theorem pure (value : α) : Takes (pure value : Reader α) [] value :=
  .of_eq fun _ => rfl

/-- What comes first decides first; only if it fits is the rest looked at. -/
theorem bind (first : Answers reader octets value fits)
    (second : Answers (next value) others result fits') :
    Answers (reader >>= next) (octets ++ others) result (fits ∧ fits') where
  takes := fun ⟨h, h'⟩ rest => by
    rw [List.append_assoc, bind_ok (first.takes h _), second.takes h']
  refuses := fun h rest => by
    rw [List.append_assoc]
    by_cases fits₁ : fits
    · obtain ⟨cause, refused⟩ := second.refuses (fun fits₂ => h ⟨fits₁, fits₂⟩) rest
      exact ⟨cause, by rw [bind_ok (first.takes fits₁ _), refused]⟩
    · obtain ⟨cause, refused⟩ := first.refuses fits₁ (others ++ rest)
      exact ⟨cause, bind_error refused next⟩

/-- A piece that is always read leaves the question to what follows. -/
theorem after (first : Takes reader octets value)
    (second : Answers (next value) others result fits) :
    Answers (reader >>= next) (octets ++ others) result fits :=
  (first.bind second).congr (iff_of_eq (true_and fits))

/-- The last piece of a whole. -/
theorem last (make : α → β) (h : Answers reader octets value fits) :
    Answers (reader >>= fun value => Pure.pure (make value)) octets (make value) fits := by
  let next : α → Reader β := fun value => Pure.pure (make value)
  have second : Takes (next value) [] (make value) := .pure (make value)
  simpa only [List.append_nil, and_true] using h.bind second

/-- A passage is told of in an error, and makes no difference to what is read. -/
theorem within (passage : Passage) (h : Answers reader octets value fits) :
    Answers (reader.within passage) octets value fits where
  takes := fun h' rest => by rw [Reader.within, h.takes h']
  refuses := fun h' rest => by
    obtain ⟨cause, refused⟩ := h.refuses h' rest
    exact ⟨.during passage cause, by rw [Reader.within, refused]⟩

end Answers

/-! ### Pieces -/

/-- Two octets are read as the word that they were written from. -/
theorem word_takes (value : UInt16) : Takes word (Bytes.ofWord value) value :=
  .of_eq fun rest => by
    change Except.ok (Bytes.toWord _ _, rest) = _
    rw [Bytes.toWord_ofWord]

/-- A signed word is read back with its sign. -/
theorem signed_takes (value : Int16) : Takes signed (Bytes.ofSigned value) value := by
  have h := (word_takes value.toUInt16).last UInt16.toInt16
  rwa [Int16.toInt16_toUInt16] at h

/-- Both truth values are read back from the words that stand for them. -/
theorem flag_takes (value : Bool) : Takes flag (Bytes.ofFlag value) value := by
  have h := (word_takes (if value then 1 else 0)).last (· != 0)
  have same : ((if value then 1 else 0 : UInt16) != 0) = value := by cases value <;> rfl
  rwa [same] at h

theorem octet_takes (value : UInt8) : Takes octet [value] value :=
  .of_eq fun _ => rfl

/-- As many octets are taken as were asked for. -/
theorem octets_takes (value : Bytes) : Takes (octets value.length) value value :=
  .of_eq fun rest => by
    rw [octets, List.take_left, List.drop_left]
    exact if_pos (beq_self_eq_true _)

/-- A name that could be written is read back, since its octets are well-formed text. -/
theorem name_takes {text : String} {written : Bytes} (h : Written.name text = .ok written) :
    Takes name written text := by
  obtain ⟨fits, rfl⟩ := Written.name_eq_ok_iff.mp h
  have size : text.utf8ByteSize.toUInt8.toNat = text.utf8ByteSize :=
    Nat.mod_eq_of_lt (by omega)
  have body := (octets_takes (Utf8.encode text)).last Utf8.lossy
  rw [Utf8.lossy_encode, Utf8.length_encode, ← size] at body
  exact (octet_takes _).after body

/-! ### Lists -/

variable {entry : Nat → Reader α} {values : List α} {bodies : List Bytes} {fits : α → Prop}

/-- Entries are read one after the other, and the first that does not fit ends the reading. -/
theorem entriesOnto_answers {written : α → Bytes → Prop}
    (h : ∀ index value body, written value body → Answers (entry index) body value (fits value))
    (each : List.Forall₂ written values bodies) (index : Nat) (read : List α) :
    Answers (entriesOnto entry index read values.length) bodies.flatten (read.reverse ++ values)
      (∀ value ∈ values, fits value) := by
  induction each generalizing index read with
  | nil =>
    rw [List.append_nil]
    exact (Answers.pure read.reverse).congr ⟨fun _ _ => (nomatch ·), fun _ => trivial⟩
  | @cons value body values bodies first _ ih =>
    have rest := ih (index + 1) (value :: read)
    rw [List.reverse_cons, List.append_assoc, List.singleton_append] at rest
    exact ((h index value body first).bind rest).congr List.forall_mem_cons.symm

/-- A list of entries is taken if each of them fits. -/
theorem entries_answers {written : α → Bytes → Prop}
    (h : ∀ index value body, written value body → Answers (entry index) body value (fits value))
    (each : List.Forall₂ written values bodies) :
    Answers (entries values.length entry) bodies.flatten values (∀ value ∈ values, fits value) :=
  entriesOnto_answers h each 0 []

end Reader

/-! ## Writers beside readers -/

/-- What a reader does with whatever octets a writer gave. -/
def Written.ReadBy {α : Type} (written : Written) (reader : Reader α) (value : α) (fits : Prop) : Prop :=
  ∀ octets, written = .ok octets → reader.Answers octets value fits

namespace Written.ReadBy

variable {α β : Type} {written : Written} {parts : List Written} {reader : Reader α}
  {next : α → Reader β} {value : α} {result : β} {octets : Bytes} {fits fits' : Prop}

/-- What is written without fail and always taken. -/
theorem of_takes (h : reader.Takes octets value) : ReadBy (.ok octets) reader value True :=
  fun _ same => by cases same; exact h

/-- A passage makes no difference to what is read back. -/
theorem within (passage : Passage) (h : ReadBy written reader value fits) :
    ReadBy written (reader.within passage) value fits :=
  fun octets same => (h octets same).within passage

/-- A sequence is read by reading its parts in turn. -/
theorem cons (first : ReadBy written reader value fits)
    (others : ReadBy (sequence parts) (next value) result fits') :
    ReadBy (sequence (written :: parts)) (reader >>= next) result (fits ∧ fits') := by
  intro octets same
  obtain ⟨_, each, rfl⟩ := sequence_eq_ok_iff.mp same
  cases each with
  | cons head tail =>
    exact (first _ head).bind (others _ (sequence_eq_ok_iff.mpr ⟨_, tail, rfl⟩))

/-- Nothing is written of nothing. -/
theorem nil (value : α) : ReadBy (sequence []) (pure value) value True :=
  of_takes (.pure value)

end Written.ReadBy

/-- A writer and a reader of the same form: what can be stored is what the writer accepts, and of that
the reader takes what fits. -/
structure Codec {α : Type} (write : α → Written) (read : Reader α) (storable fits : α → Prop) : Prop where
  succeeds_iff : ∀ value, (∃ octets, write value = .ok octets) ↔ storable value
  readBy : ∀ value, (write value).ReadBy read value (fits value)

namespace Codec

variable {α : Type} {write : α → Written} {storable fits storable' fits' : α → Prop}

/-- Both conditions may be put in other words. -/
theorem congr {read : Reader α} (h : Codec write read storable fits)
    (storable_iff : ∀ value, storable value ↔ storable' value)
    (fits_iff : ∀ value, fits value ↔ fits' value) : Codec write read storable' fits' where
  succeeds_iff value := (h.succeeds_iff value).trans (storable_iff value)
  readBy value octets written := (h.readBy value octets written).congr (fits_iff value)

/-- A passage makes no difference to a codec. -/
theorem within {read : Reader α} (passage : Passage) (h : Codec write read storable fits) :
    Codec write (read.within passage) storable fits where
  succeeds_iff := h.succeeds_iff
  readBy value := (h.readBy value).within passage

/-- A codec of pieces that are stored and read whatever they are. -/
theorem ofTakes {read : Reader α} {encode : α → Bytes} (h : ∀ value, read.Takes (encode value) value) :
    Codec (fun value => .ok (encode value)) read (fun _ => True) (fun _ => True) where
  succeeds_iff _ := ⟨fun _ => trivial, fun _ => ⟨_, rfl⟩⟩
  readBy _ := .of_takes (h _)

/-- Names of up to 255 octets are a codec. -/
theorem name : Codec Written.name Reader.name
    (fun text => text.utf8ByteSize ≤ 255) (fun _ => True) where
  succeeds_iff text := by
    simp only [Written.name_eq_ok_iff]
    exact ⟨fun ⟨_, short, _⟩ => short, fun short => ⟨_, short, rfl⟩⟩
  readBy _ _ := Reader.name_takes

/-- A number that fits a word is the number of that word. -/
private theorem toNat_count {size : Nat} (h : size ≤ 65535) : size.toUInt16.toNat = size :=
  Nat.mod_eq_of_lt (by omega)

/-- A codec of entries, told their numbers, is a codec of lists whose count is a passage. -/
theorem listWithin (passage : Passage) {entry : Nat → Reader α}
    (h : ∀ index, Codec write (entry index) storable fits) :
    Codec (Written.list write) (Reader.listWithin passage entry)
      (fun values => values.length ≤ 65535 ∧ ∀ value ∈ values, storable value)
      (fun values => ∀ value ∈ values, fits value) where
  succeeds_iff values := by
    rw [Written.list_succeeds_iff]
    simp only [(h 0).succeeds_iff]
  readBy values octets written := by
    obtain ⟨short, bodies, each, rfl⟩ := Written.list_eq_ok_iff.mp written
    have body := Reader.entries_answers (fun index => (h index).readBy) each
    rw [← toNat_count short] at body
    exact ((Reader.word_takes _).within passage).after body

/-- A codec of entries is a codec of counted lists. -/
theorem list {entry : Reader α} (h : Codec write entry storable fits) :
    Codec (Written.list write) (Reader.list entry)
      (fun values => values.length ≤ 65535 ∧ ∀ value ∈ values, storable value)
      (fun values => ∀ value ∈ values, fits value) where
  succeeds_iff values := by
    rw [Written.list_succeeds_iff]
    simp only [h.succeeds_iff]
  readBy values octets written := by
    obtain ⟨short, bodies, each, rfl⟩ := Written.list_eq_ok_iff.mp written
    have body := Reader.entries_answers (fun _ => h.readBy) each
    rw [← toNat_count short] at body
    exact (Reader.word_takes _).after body

/-- Counted words. -/
theorem words : Codec (Written.list fun word => .ok (Bytes.ofWord word)) (Reader.list Reader.word)
    (fun words => words.length ≤ 65535) (fun _ => True) :=
  (ofTakes Reader.word_takes).list.congr (fun _ => and_iff_left fun _ _ => trivial)
    (fun _ => iff_true_intro fun _ _ => trivial)

end Codec

end Diorama
