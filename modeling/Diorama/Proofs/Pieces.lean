import Diorama.Proofs.Format

/-!
# What octets hold, piece by piece

A stored form is a row of fields: words, flags and names, with nothing between them. This module is about
octets that were found, and not about octets that a writer gave.

`Piece` is a field as it lies there, and `Piece.field` what reading makes of it. Two pieces may be read
alike: every word but 0 is a true flag, and octets that spell no text are read as replacement characters.
Of those that are read alike only one is `Plain`, and that is what a writer lays down. Pieces delimit
themselves, so octets hold only one row of pieces that is read as given fields (`Piece.eq_of_lay`).

`Reader.Spells` says of a reader that whatever it takes off the front is such a row, that it tells which
fields, and that it takes the same from the front of any other octets. The last is what rules out that one
record is the beginning of another. `Written.Lays` is the law for writers: what they give is a row of plain
pieces.
-/

namespace Diorama

/-- A field of a stored form. -/
inductive Field where
  | word (value : UInt16)
  | flag (value : Bool)
  | name (text : String)
  deriving DecidableEq, Repr

/-- The fields of a counted list. -/
def Field.list {α : Type} (fields : α → List Field) (values : List α) : List Field :=
  .word values.length.toUInt16 :: values.flatMap fields

/-- A field as it lies in octets. A name has an octet before it that says how many it has. -/
inductive Piece where
  | word (value : UInt16)
  | flag (value : UInt16)
  | name (octets : Bytes) (short : octets.length ≤ 255)

namespace Piece

def octets : Piece → Bytes
  | .word value => Bytes.ofWord value
  | .flag value => Bytes.ofWord value
  | .name octets _ => octets.length.toUInt8 :: octets

/-- What reading makes of a piece. -/
def field : Piece → Field
  | .word value => .word value
  | .flag value => .flag (value != 0)
  | .name octets _ => .name (Utf8.lossy octets)

/-- A flag is 1 or 0, and a name is valid UTF-8. -/
def Plain : Piece → Prop
  | .word _ => True
  | .flag value => value = 0 ∨ value = 1
  | .name octets _ => ∃ text, octets = Utf8.encode text

/-- The octets of pieces that lie one behind the other. -/
def lay (pieces : List Piece) : Bytes :=
  pieces.flatMap octets

/-- Pieces lie one behind the other in their order. -/
theorem lay_append (front back : List Piece) : lay (front ++ back) = lay front ++ lay back :=
  List.flatMap_append

/-- A piece alone is its octets. -/
theorem lay_singleton (piece : Piece) : lay [piece] = piece.octets :=
  List.append_nil _

end Piece

/-- A word is told by its octets. -/
theorem Bytes.ofWord_inj {word word' : UInt16} (same : ofWord word = ofWord word') : word = word' := by
  obtain ⟨high, low⟩ := List.cons.inj same
  rw [← toWord_ofWord word, ← toWord_ofWord word', high, (List.cons.inj low).1]

/-- The two octets of a word are those that it was read from. -/
theorem Bytes.ofWord_toWord (high low : UInt8) : ofWord (toWord high low) = [high, low] := by
  have upper : (toWord high low >>> 8).toUInt8 = high := by
    apply UInt8.toBitVec_inj.mp
    ext i below
    have inside : 8 + i < 16 := by omega
    have above : ¬ 8 + i < 8 := by omega
    have small : i < 16 := by omega
    simp [toWord, BitVec.getLsbD_eq_getElem below, inside, above, small]
  have lower : (toWord high low).toUInt8 = low := by
    apply UInt8.toBitVec_inj.mp
    ext i
    simp [toWord]
  rw [ofWord, upper, lower]

namespace Piece

/-- Where a piece of a given field ends, its octets tell. -/
theorem eq_of_octets {piece other : Piece} {rest rest' : Bytes} (field : piece.field = other.field)
    (same : piece.octets ++ rest = other.octets ++ rest') : piece = other ∧ rest = rest' := by
  cases piece with
  | word value =>
    cases other with
    | word value' =>
      cases field
      exact ⟨rfl, List.append_cancel_left same⟩
    | flag | name => nomatch field
  | flag value =>
    cases other with
    | flag value' =>
      obtain ⟨words, rests⟩ := List.append_inj same rfl
      exact ⟨congrArg Piece.flag (Bytes.ofWord_inj words), rests⟩
    | word | name => nomatch field
  | name octets short =>
    cases other with
    | name octets' short' =>
      obtain ⟨sizes, same⟩ := List.cons.inj same
      have lengths : octets.length = octets'.length := by
        have sizes : octets.length % 256 = octets'.length % 256 := congrArg UInt8.toNat sizes
        omega
      obtain ⟨rfl, rests⟩ := List.append_inj same lengths
      exact ⟨rfl, rests⟩
    | word | flag => nomatch field

/-- Of the pieces that are read alike only one is plain. -/
theorem Plain.eq {piece other : Piece} (plain : piece.Plain) (plain' : other.Plain)
    (field : piece.field = other.field) : piece = other := by
  cases piece with
  | word value =>
    cases other with
    | word value' =>
      cases field
      rfl
    | flag | name => nomatch field
  | flag value =>
    cases other with
    | flag value' =>
      have same : (value != 0) = (value' != 0) := Field.flag.inj field
      rcases plain with rfl | rfl <;> rcases plain' with rfl | rfl
      · rfl
      · exact absurd same (by decide)
      · exact absurd same (by decide)
      · rfl
    | word | name => nomatch field
  | name octets short =>
    cases other with
    | name octets' short' =>
      obtain ⟨text, rfl⟩ := plain
      obtain ⟨text', rfl⟩ := plain'
      have texts : Utf8.lossy (Utf8.encode text) = Utf8.lossy (Utf8.encode text') := Field.name.inj field
      rw [Utf8.lossy_encode, Utf8.lossy_encode] at texts
      cases texts
      rfl
    | word | flag => nomatch field

/-- Two rows that are read alike are the same if their pieces are, one by one. -/
private theorem eq_of_fields (alike : List Piece → List Piece → Prop) {pieces others : List Piece}
    (head : ∀ {piece other pieces others}, alike (piece :: pieces) (other :: others) →
      piece.field = other.field → piece = other ∧ alike pieces others)
    (same : alike pieces others) (fields : pieces.map field = others.map field) : pieces = others := by
  induction pieces generalizing others with
  | nil => exact (List.map_eq_nil_iff.mp fields.symm).symm
  | cons piece pieces ih =>
    cases others with
    | nil => cases fields
    | cons other others =>
      obtain ⟨field, fields⟩ := List.cons.inj fields
      obtain ⟨here, rest⟩ := head same field
      rw [here, ih rest fields]

/-- Octets hold one row of pieces at most that is read as given fields. -/
theorem eq_of_lay {pieces others : List Piece} (same : lay pieces = lay others)
    (fields : pieces.map field = others.map field) : pieces = others :=
  eq_of_fields (fun pieces others => lay pieces = lay others)
    (fun same field => eq_of_octets field same) same fields

/-- Plain pieces are told by their fields. -/
theorem eq_of_plain {pieces others : List Piece} (plain : ∀ piece ∈ pieces, piece.Plain)
    (plain' : ∀ piece ∈ others, piece.Plain) (fields : pieces.map field = others.map field) :
    pieces = others := by
  refine eq_of_fields (fun pieces others =>
    (∀ piece ∈ pieces, piece.Plain) ∧ ∀ piece ∈ others, piece.Plain) ?_ ⟨plain, plain'⟩ fields
  intro piece other pieces others plain field
  rw [List.forall_mem_cons, List.forall_mem_cons] at plain
  obtain ⟨⟨first, rest⟩, first', rest'⟩ := plain
  exact ⟨first.eq first' field, rest, rest'⟩

end Piece

/-! ## Readers -/

namespace Reader

variable {α β : Type}

/-- What a reader takes off the front of octets is a row of pieces, of which it tells the fields, and which
it takes off the front of whatever octets begin with it. -/
def Spells (reader : Reader α) (tells : α → List Field → Prop) : Prop :=
  ∀ bytes value rest, reader bytes = .ok (value, rest) → ∃ pieces,
    tells value (pieces.map Piece.field) ∧ bytes = Piece.lay pieces ++ rest
      ∧ reader.Takes (Piece.lay pieces) value

namespace Spells

variable {reader : Reader α} {next : α → Reader β} {tells tells' : α → List Field → Prop}
  {told : β → List Field → Prop}

/-- Less may be told of what was read. -/
theorem mono (h : reader.Spells tells) (weaker : ∀ value fields, tells value fields → tells' value fields) :
    reader.Spells tells' := fun bytes value rest read =>
  let ⟨pieces, told, whole⟩ := h bytes value rest read
  ⟨pieces, weaker value _ told, whole⟩

/-- What reads nothing spells nothing. -/
theorem pure {value : α} (h : tells value []) : Spells (pure value : Reader α) tells := by
  rintro bytes _ rest read
  cases read
  exact ⟨[], h, rfl, .pure value⟩

/-- What comes first lies in front of what comes next. -/
theorem bind (first : reader.Spells tells)
    (second : ∀ value front, tells value front → (next value).Spells fun result back => told result (front ++ back)) :
    (reader >>= next).Spells told := by
  intro bytes result rest read
  obtain ⟨value, between, here, onward⟩ := bind_eq_ok_iff.mp read
  obtain ⟨front, tellsFront, rfl, takes⟩ := first bytes value between here
  obtain ⟨back, tellsBack, rfl, takes'⟩ := second value _ tellsFront between result rest onward
  refine ⟨front ++ back, ?_, ?_, ?_⟩
  · rwa [List.map_append]
  · rw [Piece.lay_append, List.append_assoc]
  · rw [Piece.lay_append]
    exact takes.after takes'

/-- A passage makes no difference to what is spelt. -/
theorem within (passage : Passage) (h : reader.Spells tells) : (reader.within passage).Spells tells := by
  intro bytes value rest read
  have inside : reader bytes = .ok (value, rest) := by
    unfold Reader.within at read
    split at read
    next same => rwa [← Except.ok.inj read]
    next => cases read
  obtain ⟨pieces, tellsPieces, whole, takes⟩ := h bytes value rest inside
  exact ⟨pieces, tellsPieces, whole, takes.within passage⟩

/-- Whatever is read is read alike before other octets. -/
theorem append (h : reader.Spells tells) {bytes rest : Bytes} {value : α} (read : reader bytes = .ok (value, rest))
    (more : Bytes) : reader (bytes ++ more) = .ok (value, rest ++ more) := by
  obtain ⟨pieces, _, rfl, takes⟩ := h bytes value rest read
  rw [List.append_assoc]
  exact takes.takes trivial (rest ++ more)

end Spells

/-! ### Pieces -/

/-- A reader that takes a single piece. -/
theorem spells_of_piece {reader : Reader α} {tells : α → List Field → Prop}
    (h : ∀ bytes value rest, reader bytes = .ok (value, rest) → ∃ piece : Piece,
      tells value [piece.field] ∧ bytes = piece.octets ++ rest ∧ reader.Takes piece.octets value) :
    reader.Spells tells := by
  intro bytes value rest read
  obtain ⟨piece, tellsPiece, whole, takes⟩ := h bytes value rest read
  refine ⟨[piece], tellsPiece, ?_, ?_⟩ <;> rwa [Piece.lay_singleton]

/-- A word that was read is the two octets in front. -/
private theorem word_eq_ok {bytes rest : Bytes} {value : UInt16} (read : word bytes = .ok (value, rest)) :
    bytes = Bytes.ofWord value ++ rest := by
  unfold word at read
  split at read
  next high low tail =>
    cases read
    rw [Bytes.ofWord_toWord]
    rfl
  next => cases read

/-- A word is one field. -/
theorem word_spells : word.Spells fun value fields => fields = [.word value] :=
  spells_of_piece fun _ value _ read => ⟨.word value, rfl, word_eq_ok read, word_takes value⟩

/-- A signed word is the field of the word that it is stored as. -/
theorem signed_spells : signed.Spells fun value fields => fields = [.word value.toUInt16] :=
  word_spells.bind fun value _ told => .pure <| by
    rw [told, UInt16.toUInt16_toInt16]
    rfl

/-- A flag is one field, whatever number it was stored as. -/
theorem flag_spells : flag.Spells fun value fields => fields = [.flag value] :=
  spells_of_piece fun bytes value rest read => by
    obtain ⟨word, between, here, last⟩ := bind_eq_ok_iff.mp read
    cases last
    exact ⟨.flag word, rfl, word_eq_ok here, (word_takes word).last (· != 0)⟩

/-- So many octets, and their number before them. -/
theorem name_spells : name.Spells fun text fields => fields = [.name text] :=
  spells_of_piece fun bytes text rest read => by
    obtain ⟨size, between, here, onward⟩ := bind_eq_ok_iff.mp read
    obtain ⟨taken, last, counted, made⟩ := bind_eq_ok_iff.mp onward
    cases made
    cases bytes with
    | nil => cases here
    | cons head tail =>
      cases here
      unfold octets at counted
      dsimp only at counted
      split at counted
      next enough =>
        cases counted
        have length : (between.take size.toNat).length = size.toNat := beq_iff_eq.mp enough
        have short : (between.take size.toNat).length ≤ 255 := by
          have := size.toNat_lt
          omega
        have counts : (between.take size.toNat).length.toUInt8 = size := by
          rw [length]
          exact UInt8.ofNat_toNat
        refine ⟨.name _ short, rfl, ?_, ?_⟩
        · change _ = (List.length _).toUInt8 :: (_ ++ _)
          rw [counts, List.take_append_drop]
        · have body := (octets_takes (between.take size.toNat)).last Utf8.lossy
          rw [length] at body
          have whole : name.Takes ([size] ++ between.take size.toNat) _ := (octet_takes size).after body
          change name.Takes ((List.length _).toUInt8 :: _) _
          rwa [counts]
      next => cases counted

/-! ### Lists -/

section Lists

variable {fields : α → List Field} {sound : α → Prop}

/-- Entries lie one behind the other. -/
theorem entriesOnto_spells {entry : Nat → Reader α}
    (h : ∀ index, (entry index).Spells fun value told => told = fields value ∧ sound value)
    (size index : Nat) (read : List α) : (entriesOnto entry index read size).Spells fun values told =>
      ∃ new, values = read.reverse ++ new ∧ new.length = size ∧ told = new.flatMap fields
        ∧ ∀ value ∈ new, sound value := by
  induction size generalizing index read with
  | zero => exact .pure ⟨[], (List.append_nil _).symm, rfl, rfl, nofun⟩
  | succ size ih =>
    refine (h index).bind fun value front told => (ih (index + 1) (value :: read)).mono ?_
    rintro values back ⟨new, rfl, rfl, rfl, sounds⟩
    obtain ⟨rfl, first⟩ := told
    refine ⟨value :: new, ?_, rfl, rfl, List.forall_mem_cons.mpr ⟨first, sounds⟩⟩
    rw [List.reverse_cons, List.append_assoc, List.singleton_append]

/-- What reading a counted list tells of it. -/
def TellsList (fields : α → List Field) (sound : α → Prop) (values : List α) (told : List Field) : Prop :=
  told = Field.list fields values ∧ values.length ≤ 65535 ∧ ∀ value ∈ values, sound value

/-- Entries that are read behind their count are a list of fields. -/
private theorem entries_spells {entry : Nat → Reader α}
    (h : ∀ index, (entry index).Spells fun value told => told = fields value ∧ sound value)
    (size : UInt16) : (entries size.toNat entry).Spells fun values back =>
      TellsList fields sound values ([.word size] ++ back) := by
  refine (entriesOnto_spells h size.toNat 0 []).mono ?_
  rintro values _ ⟨new, same, length, rfl, sounds⟩
  cases same
  have counts : new.length.toUInt16 = size := by
    rw [length]
    exact UInt16.ofNat_toNat
  refine ⟨?_, ?_, sounds⟩
  · change Field.word size :: _ = Field.word new.length.toUInt16 :: _
    rw [counts]
    rfl
  · have small := size.toNat_lt
    change new.length ≤ 65535
    omega

/-- A counted list is spelt as its count and the fields of its entries. -/
theorem list_spells {entry : Reader α}
    (h : entry.Spells fun value told => told = fields value ∧ sound value) :
    (list entry).Spells (TellsList fields sound) :=
  word_spells.bind fun size front told => by
    subst told
    exact entries_spells (fun _ => h) size

/-- So is a list whose entries are named in errors. -/
theorem listWithin_spells (passage : Passage) {entry : Nat → Reader α}
    (h : ∀ index, (entry index).Spells fun value told => told = fields value ∧ sound value) :
    (listWithin passage entry).Spells (TellsList fields sound) :=
  (word_spells.within passage).bind fun size front told => by
    subst told
    exact entries_spells h size

end Lists

end Reader

/-! ## Writers -/

/-- What a writer gives is the row of plain pieces that is read as these fields. -/
def Written.Lays (written : Written) (fields : List Field) : Prop :=
  ∀ octets, written = .ok octets → ∃ pieces : List Piece,
    (∀ piece ∈ pieces, piece.Plain) ∧ pieces.map Piece.field = fields ∧ octets = Piece.lay pieces

namespace Written.Lays

variable {α : Type} {written : Written} {parts : List Written} {fields others : List Field}

/-- A plain piece is written as it lies. -/
theorem of_piece (piece : Piece) (plain : piece.Plain) : Lays (.ok piece.octets) [piece.field] := by
  rintro _ ⟨⟩
  exact ⟨[piece], List.forall_mem_singleton.mpr plain, rfl, (Piece.lay_singleton piece).symm⟩

/-- Every word is plain. -/
theorem word (value : UInt16) : Lays (.ok (Bytes.ofWord value)) [.word value] :=
  of_piece (.word value) trivial

/-- A flag is written as one or as zero. -/
theorem flag (value : Bool) : Lays (.ok (Bytes.ofFlag value)) [.flag value] := by
  cases value with
  | false => exact of_piece (.flag 0) (.inl rfl)
  | true => exact of_piece (.flag 1) (.inr rfl)

/-- A name that is short enough is written as text. -/
theorem name (text : String) : Lays (Written.name text) [.name text] := by
  intro octets same
  obtain ⟨short, rfl⟩ := name_eq_ok_iff.mp same
  rw [← Utf8.length_encode] at short ⊢
  let piece : Piece := .name (Utf8.encode text) short
  refine ⟨[piece], List.forall_mem_singleton.mpr ⟨text, rfl⟩, ?_, (Piece.lay_singleton piece).symm⟩
  rw [List.map_singleton, Piece.field, Utf8.lossy_encode]

/-- What lies in front is laid in front. -/
theorem append {front back : Bytes} (first : Lays (.ok front) fields) (second : Lays (.ok back) others) :
    Lays (.ok (front ++ back)) (fields ++ others) := by
  rintro _ ⟨⟩
  obtain ⟨pieces, plain, rfl, rfl⟩ := first _ rfl
  obtain ⟨pieces', plain', rfl, rfl⟩ := second _ rfl
  exact ⟨pieces ++ pieces', List.forall_mem_append.mpr ⟨plain, plain'⟩, List.map_append,
    (Piece.lay_append _ _).symm⟩

/-- A front without fail, and what is written behind it. -/
theorem after {front : Bytes} (first : Lays (.ok front) fields) (second : Lays written others) :
    Lays (do return front ++ (← written)) (fields ++ others) := by
  intro octets same
  obtain ⟨back, here, rfl⟩ := after_eq_ok_iff.mp same
  exact first.append (fun _ same => second _ (here.trans same)) _ rfl

/-- Nothing is laid for nothing. -/
theorem nil : Lays (sequence []) [] := by
  rintro _ ⟨⟩
  exact ⟨[], nofun, rfl, rfl⟩

/-- The parts of a sequence are laid one behind the other. -/
theorem cons (first : Lays written fields) (second : Lays (sequence parts) others) :
    Lays (sequence (written :: parts)) (fields ++ others) := by
  intro octets same
  obtain ⟨_, each, rfl⟩ := sequence_eq_ok_iff.mp same
  cases each with
  | @cons _ front _ backs head tail =>
    have back : sequence parts = .ok backs.flatten := sequence_eq_ok_iff.mpr ⟨_, tail, rfl⟩
    exact append (fun _ same => first _ (head.trans same)) (fun _ same => second _ (back.trans same)) _ rfl

/-- So are the entries of a list. -/
theorem flatten {entries : List α} {bodies : List Bytes} {entry : α → Written} {fields : α → List Field}
    (h : ∀ value ∈ entries, Lays (entry value) (fields value))
    (each : List.Forall₂ (fun value body => entry value = .ok body) entries bodies) :
    Lays (.ok bodies.flatten) (entries.flatMap fields) := by
  induction each with
  | nil => exact nil
  | cons first _ ih =>
    rw [List.forall_mem_cons] at h
    exact append (fun _ same => h.1 _ (first.trans same)) (ih h.2)

/-- A counted list is laid as its count and its entries. -/
theorem list {entries : List α} {entry : α → Written} {fields : α → List Field}
    (h : ∀ value ∈ entries, Lays (entry value) (fields value)) :
    Lays (Written.list entry entries) (Field.list fields entries) := by
  intro octets same
  obtain ⟨_, bodies, each, rfl⟩ := list_eq_ok_iff.mp same
  exact append (word _) (flatten h each) _ rfl

end Written.Lays

end Diorama
