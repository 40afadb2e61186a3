import Diorama.Bytes

/-!
# Names survive their octets

A text that is written as UTF-8 and read lossily is the same text: the forgiveness of the reader is never
used on octets that the writer made. The step that carries it is `next_encodeChar`: in each of the four
lengths that a character can have, the lead octet falls into its own range, what follows it fits, and the
payloads add up to the number of the character. A character is no surrogate, which is what keeps the third
length inside the range that the reader accepts.

Nothing is said of octets that spell no text.
-/

namespace Diorama.Utf8

/-! ## Octets given as numbers -/

private theorem toNat_ofNat {n : Nat} (h : n < 256) : (UInt8.ofNat n).toNat = n :=
  Nat.mod_eq_of_lt h

private theorem ofNat_beq_iff {n : Nat} (h : n < 256) (octet : UInt8) :
    (UInt8.ofNat n == octet) = true ↔ n = octet.toNat := by
  rw [beq_iff_eq, ← UInt8.toNat_inj, toNat_ofNat h]

/-- An octet lies in a range if its number does. -/
private theorem range_iff {n : Nat} (h : n < 256) (low high : UInt8) :
    (low ≤ UInt8.ofNat n && UInt8.ofNat n ≤ high) = true ↔ low.toNat ≤ n ∧ n ≤ high.toNat := by
  rw [Bool.and_eq_true, decide_eq_true_eq, decide_eq_true_eq, UInt8.le_iff_toNat_le,
    UInt8.le_iff_toNat_le, toNat_ofNat h]

/-- An octet from 128 on is no character alone. -/
private theorem not_single {n : Nat} (h : n < 256) (high : 0x80 ≤ n) :
    ¬ UInt8.ofNat n < 0x80 := by
  rw [UInt8.lt_iff_toNat_lt, toNat_ofNat h]
  exact Nat.not_lt.mpr high

/-- Six bits behind the mark of a tail are a tail. -/
theorem isTail_tail (n : Nat) : isTail (UInt8.ofNat (n % 64 + 0x80)) = true := by
  refine (range_iff (by omega) 0x80 0xBF).mpr ?_
  change 0x80 ≤ _ ∧ _ ≤ 0xBF
  omega

/-- A tail gives back its six bits. -/
theorem payload_tail (n : Nat) : payload (UInt8.ofNat (n % 64 + 0x80)) = n % 64 := by
  rw [payload, toNat_ofNat (by omega)]
  omega

/-! ## The four lengths of a character -/

/-- Up to 7 bits are one octet. -/
private theorem next_one {n : Nat} (h : n ≤ 0x7F) (rest : Bytes) :
    next (UInt8.ofNat n) rest = (Char.ofNat n, 0) := by
  have small : n < 256 := by omega
  have one : UInt8.ofNat n < 0x80 := by
    rw [UInt8.lt_iff_toNat_lt, toNat_ofNat small]
    exact Nat.lt_succ_of_le h
  unfold next
  rw [if_pos one, toNat_ofNat small]

/-- Up to 11 bits are two octets. -/
private theorem next_two {n : Nat} (low : 0x80 ≤ n) (high : n ≤ 0x7FF) (rest : Bytes) :
    next (UInt8.ofNat (n / 64 % 32 + 0xC0)) (UInt8.ofNat (n % 64 + 0x80) :: rest)
      = (Char.ofNat n, 1) := by
  have small : n / 64 % 32 + 0xC0 < 256 := by omega
  have two := (range_iff small 0xC2 0xDF).mpr (by change 0xC2 ≤ _ ∧ _ ≤ 0xDF; omega)
  unfold next
  rw [if_neg (not_single small (by omega)), if_pos two]
  simp only [isTail_tail, payload_tail, if_true, toNat_ofNat small]
  congr 2
  omega

/-- The second octet fits: no overlong form, and no surrogate. -/
private theorem fitsThree_ofNat {n : Nat} (low : 0x800 ≤ n) (high : n ≤ 0xFFFF)
    (noSurrogate : n < 0xD800 ∨ 0xDFFF < n) :
    fitsThree (UInt8.ofNat (n / 4096 % 16 + 0xE0)) (UInt8.ofNat (n / 64 % 64 + 0x80)) = true := by
  have lead : n / 4096 % 16 + 0xE0 < 256 := by omega
  have second : n / 64 % 64 + 0x80 < 256 := by omega
  unfold fitsThree
  split
  next h =>
    have least : n / 4096 % 16 + 0xE0 = 0xE0 := (ofNat_beq_iff lead _).mp h
    exact (range_iff second 0xA0 0xBF).mpr (by change 0xA0 ≤ _ ∧ _ ≤ 0xBF; omega)
  next =>
    split
    next h =>
      have surrogates : n / 4096 % 16 + 0xE0 = 0xED := (ofNat_beq_iff lead _).mp h
      exact (range_iff second 0x80 0x9F).mpr (by change 0x80 ≤ _ ∧ _ ≤ 0x9F; omega)
    next => exact isTail_tail (n / 64)

/-- Up to 16 bits are three octets, and surrogates are no characters. -/
private theorem next_three {n : Nat} (low : 0x800 ≤ n) (high : n ≤ 0xFFFF)
    (noSurrogate : n < 0xD800 ∨ 0xDFFF < n) (rest : Bytes) :
    next (UInt8.ofNat (n / 4096 % 16 + 0xE0))
        (UInt8.ofNat (n / 64 % 64 + 0x80) :: UInt8.ofNat (n % 64 + 0x80) :: rest)
      = (Char.ofNat n, 2) := by
  have small : n / 4096 % 16 + 0xE0 < 256 := by omega
  have notTwo := mt (range_iff small 0xC2 0xDF).mp (by change ¬ (0xC2 ≤ _ ∧ _ ≤ 0xDF); omega)
  have three := (range_iff small 0xE0 0xEF).mpr (by change 0xE0 ≤ _ ∧ _ ≤ 0xEF; omega)
  unfold next
  rw [if_neg (not_single small (by omega)), if_neg notTwo, if_pos three]
  simp only [fitsThree_ofNat low high noSurrogate, isTail_tail, payload_tail, if_true,
    toNat_ofNat small]
  congr 2
  omega

/-- The second octet fits: no overlong form, and nothing above U+10FFFF. -/
private theorem fitsFour_ofNat {n : Nat} (low : 0x10000 ≤ n) (high : n ≤ 0x10FFFF) :
    fitsFour (UInt8.ofNat (n / 262144 % 8 + 0xF0)) (UInt8.ofNat (n / 4096 % 64 + 0x80)) = true := by
  have lead : n / 262144 % 8 + 0xF0 < 256 := by omega
  have second : n / 4096 % 64 + 0x80 < 256 := by omega
  unfold fitsFour
  split
  next h =>
    have least : n / 262144 % 8 + 0xF0 = 0xF0 := (ofNat_beq_iff lead _).mp h
    exact (range_iff second 0x90 0xBF).mpr (by change 0x90 ≤ _ ∧ _ ≤ 0xBF; omega)
  next =>
    split
    next h =>
      have greatest : n / 262144 % 8 + 0xF0 = 0xF4 := (ofNat_beq_iff lead _).mp h
      exact (range_iff second 0x80 0x8F).mpr (by change 0x80 ≤ _ ∧ _ ≤ 0x8F; omega)
    next => exact isTail_tail (n / 4096)

/-- Up to 21 bits are four octets, as far as there are characters. -/
private theorem next_four {n : Nat} (low : 0x10000 ≤ n) (high : n ≤ 0x10FFFF) (rest : Bytes) :
    next (UInt8.ofNat (n / 262144 % 8 + 0xF0))
        (UInt8.ofNat (n / 4096 % 64 + 0x80) :: UInt8.ofNat (n / 64 % 64 + 0x80)
          :: UInt8.ofNat (n % 64 + 0x80) :: rest)
      = (Char.ofNat n, 3) := by
  have small : n / 262144 % 8 + 0xF0 < 256 := by omega
  have notTwo := mt (range_iff small 0xC2 0xDF).mp (by change ¬ (0xC2 ≤ _ ∧ _ ≤ 0xDF); omega)
  have notThree := mt (range_iff small 0xE0 0xEF).mp (by change ¬ (0xE0 ≤ _ ∧ _ ≤ 0xEF); omega)
  have four := (range_iff small 0xF0 0xF4).mpr (by change 0xF0 ≤ _ ∧ _ ≤ 0xF4; omega)
  unfold next
  rw [if_neg (not_single small (by omega)), if_neg notTwo, if_neg notThree, if_pos four]
  simp only [fitsFour_ofNat low high, isTail_tail, payload_tail, if_true, toNat_ofNat small]
  congr 2
  omega

/-- The octets of a character are read as that character, whatever follows them. -/
theorem next_encodeChar (char : Char) : ∃ lead tail, String.utf8EncodeChar char = lead :: tail ∧
    ∀ rest, next lead (tail ++ rest) = (char, tail.length) := by
  have valid : char.val.toNat < 0xD800 ∨ 0xDFFF < char.val.toNat ∧ char.val.toNat < 0x110000 :=
    char.valid
  have same : Char.ofNat char.val.toNat = char := Char.ofNat_toNat char
  unfold String.utf8EncodeChar
  dsimp only
  split
  next one =>
    refine ⟨_, [], rfl, fun rest => ?_⟩
    rw [List.nil_append, next_one one, same, List.length_nil]
  next notOne =>
    split
    next two =>
      refine ⟨_, [_], rfl, fun rest => ?_⟩
      rw [List.singleton_append, next_two (by omega) two, same, List.length_singleton]
    next notTwo =>
      split
      next three =>
        refine ⟨_, [_, _], rfl, fun rest => ?_⟩
        rw [List.cons_append, List.singleton_append, next_three (by omega) three (by omega), same]
        rfl
      next notThree =>
        refine ⟨_, [_, _, _], rfl, fun rest => ?_⟩
        rw [List.cons_append, List.cons_append, List.singleton_append,
          next_four (by omega) (by omega), same]
        rfl

/-! ## Whole texts -/

/-- Reading goes on behind the octets of a character. -/
theorem readOnto_encodeChar (read : List Char) (char : Char) (rest : Bytes) :
    readOnto read (String.utf8EncodeChar char ++ rest) = readOnto (char :: read) rest := by
  obtain ⟨lead, tail, spelt, taken⟩ := next_encodeChar char
  rw [spelt, List.cons_append, readOnto, taken rest]
  dsimp only
  rw [List.drop_left]

/-- Characters are read back one after the other. -/
theorem readOnto_encode (chars read : List Char) :
    readOnto read (chars.flatMap String.utf8EncodeChar) = read.reverse ++ chars := by
  induction chars generalizing read with
  | nil => rw [List.flatMap_nil, readOnto, List.append_nil]
  | cons char rest ih =>
    rw [List.flatMap_cons, readOnto_encodeChar, ih, List.reverse_cons, List.append_assoc,
      List.singleton_append]

/-- A text is read back from its octets. -/
theorem lossy_encode (text : String) : lossy (encode text) = text := by
  rw [lossy, encode, readOnto_encode, List.reverse_nil, List.nil_append, String.ofList_toList]

/-- A text has as many octets as its size says. -/
theorem length_encode (text : String) : (encode text).length = text.utf8ByteSize := by
  have same : text.toByteArray = text.toList.utf8Encode := by
    rw [← String.toByteArray_ofList, String.ofList_toList]
  rw [encode, ← String.size_toByteArray, same, List.utf8Encode, List.size_toByteArray]

end Diorama.Utf8
