import Diorama.GameState
import Diorama.Proofs.JsonText
import Diorama.Proofs.Utf8

/-!
# A saved game is loaded as it was saved

Whatever the names of the variables and the stack are, the file of a saved game is loaded as the very game that
was saved (`GameState.load_save`). Its text is read as the JSON value that was printed (`Json.parse?_pretty`), so
what is left to show is that the value has a text, and that each decoder takes what its counterpart has made: a
word, a map in the order of its keys, a record of known fields.
-/

namespace Diorama

/-! ## Whole numbers -/

namespace JsonNumber

/-- The digits of a number stand for it. -/
theorem natOfDigits_digitsOfNat (n : Nat) : natOfDigits (digitsOfNat n) = n := by
  have spelt := Nat.ofDigitChars_toDigits (b := 10) (n := n) (by omega) (by omega)
  rw [Nat.ofDigitChars_eq_foldl] at spelt
  simpa only [natOfDigits, digitsOfNat, List.foldl_map, Nat.mul_comm] using spelt

/-- Every number has digits, each of them below ten. -/
theorem digits_digitsOfNat (n : Nat) : Digits (digitsOfNat n) := by
  constructor
  · intro none
    exact Nat.toDigits_ne_nil (List.map_eq_nil_iff.mp none)
  · intro digit among
    obtain ⟨char, here, rfl⟩ := List.mem_map.mp among
    have isDigit := Nat.isDigit_of_mem_toDigits (by omega) (by omega) here
    simp only [Char.isDigit, Bool.and_eq_true, decide_eq_true_eq, UInt32.le_iff_toNat_le] at isDigit
    have nine : '9'.val.toNat = '0'.val.toNat + 9 := rfl
    show char.val.toNat - '0'.val.toNat < 10
    omega

/-- A number below ten is one digit. -/
theorem digitsOfNat_of_lt {n : Nat} (small : n < 10) : digitsOfNat n = [n] := by
  revert n
  decide

/-- Of a larger number the last digit is split off. -/
theorem digitsOfNat_of_le {n : Nat} (large : 10 ≤ n) : digitsOfNat n = digitsOfNat (n / 10) ++ digitsOfNat (n % 10) := by
  have last : n % 10 < 10 := Nat.mod_lt n (by omega)
  simp only [digitsOfNat]
  rw [Nat.toDigits_of_base_le (by omega) large, Nat.toDigits_of_lt_base last, List.map_append]

/-- No number but zero begins with a zero. -/
theorem eq_zero_of_head?_digitsOfNat {n : Nat} (zero : (digitsOfNat n).head? = some 0) : n = 0 := by
  induction n using Nat.strongRecOn with
  | _ n ih =>
    by_cases small : n < 10
    · rw [digitsOfNat_of_lt small] at zero
      exact Option.some.inj zero
    have whole := digitsOfNat_of_le (n := n) (by omega)
    obtain ⟨digit, digits, front⟩ := List.exists_cons_of_ne_nil (digits_digitsOfNat (n / 10)).nonempty
    have first : (digitsOfNat (n / 10)).head? = some 0 := by
      rw [whole, front] at zero
      rw [front]
      exact zero
    have none := ih (n / 10) (by omega) first
    omega

/-- A whole number is written without a sign, a leading zero, a fraction or an exponent. -/
theorem plain_ofNat (n : Nat) : (ofNat n).Plain where
  whole := digits_digitsOfNat n
  leading := fun zero => by
    rw [show (ofNat n).whole = digitsOfNat n from rfl] at zero ⊢
    rw [eq_zero_of_head?_digitsOfNat zero]
    rfl
  fraction := nofun
  exponent := nofun

end JsonNumber

namespace Numeric

/-- A whole number that is not too large is read as one. -/
theorem ofNumber?_ofNat {n : Nat} (small : n ≤ maxSignificand) :
    ofNumber? (.ofNat n) = some (.natural n.toUInt64) := by
  simp [ofNumber?, JsonNumber.ofNat, JsonNumber.natOfDigits_digitsOfNat, small]

end Numeric

namespace Json

/-! ## Values that have a text -/

/-- A whole number has a text. -/
theorem Plain.nat (n : Nat) : (nat n).Plain :=
  .number (JsonNumber.plain_ofNat n)

/-- A record has a text if its fields have. -/
theorem Plain.record {members : List (String × Json)} (each : ∀ member ∈ members, member.2.Plain) :
    (record members).Plain := by
  apply Plain.object
  · intro member among
    obtain ⟨named, -, rfl⟩ := List.mem_map.mp among
    rfl
  · intro member among
    obtain ⟨named, here, rfl⟩ := List.mem_map.mp among
    exact each named here

/-! ## Decoders -/

/-- What is written of each value of a list is read back, one after the other. -/
theorem mapM_map_of_reads {α β : Type} {read : β → Option α} {write : α → β} {values : List α}
    (reads : ∀ value ∈ values, read (write value) = some value) : (values.map write).mapM read = some values := by
  induction values with
  | nil => rfl
  | cons value rest ih =>
    rw [List.forall_mem_cons] at reads
    simp [reads.1, ih reads.2]

namespace Decoder

/-- A word is read back from its number. -/
theorem word_nat (reading : Reading) (value : UInt16) : word reading (.nat value.toNat) = some value := by
  have bound := value.toNat_lt
  have written := Numeric.ofNumber?_ofNat (n := value.toNat) (by
    show value.toNat ≤ 2 ^ 64 - 1
    omega)
  have inRange : 0 ≤ (value.toNat : Int) ∧ (value.toNat : Int) ≤ 65535 := by omega
  simp [word, int, nat, written, Numeric.toInt?, inRange]

/-- A map is read from the record of its entries, if each value is. -/
theorem map_record {α : Type} {decoder : Decoder α} {write : α → Json} {reading inner : Reading}
    (enters : reading.enter? = some inner) (reads : ∀ value, decoder inner (write value) = some value)
    (values : SortedMap String α) :
    Decoder.map decoder reading (.record (values.entries.map fun entry => (entry.1, write entry.2))) = some values := by
  have read : (values.entries.map fun entry => (some entry.1, write entry.2)).mapM (fun member => do
      return (← member.1, ← decoder inner member.2)) = some values.entries :=
    mapM_map_of_reads fun entry _ => by
      rw [reads]
      rfl
  simp only [Json.record, List.map_map]
  unfold Decoder.map
  rw [enters, Option.bind_eq_bind, Option.bind_some]
  show (List.mapM _ (values.entries.map fun entry => (some entry.1, write entry.2)) >>= _) = _
  rw [read]
  exact congrArg some (SortedMap.ofList_entries values)

end Decoder

/-- A record is read as its fields, if all of them are known and none is given twice. -/
theorem Fields.of?_record {reading inner : Reading} (known : List String) (members : List (String × Json))
    (enters : reading.enter? = some inner) (isKnown : ∀ member ∈ members, member.1 ∈ known)
    (once : (members.map (·.1)).Nodup) : Fields.of? known reading (.record members) = some ⟨inner, members⟩ := by
  have named : (members.map fun member => (some member.1, member.2)).mapM (fun member => do
      return (← member.1, member.2)) = some members :=
    mapM_map_of_reads fun member _ => by
      rfl
  have all : (members.filter fun member => known.contains member.1) = members :=
    List.filter_eq_self.mpr fun member among => List.contains_iff_mem.mpr (isKnown member among)
  have picked : pick? known (members.map fun member => (some member.1, member.2)) = some members := by
    rw [pick?, named, Option.bind_eq_bind, Option.bind_some, all]
    exact if_pos once
  rw [of?, enters, Option.bind_eq_bind, Option.bind_some, record]
  show (pick? known _ >>= _) = _
  rw [picked]
  rfl

/-- A field that is given is the one that is required. -/
theorem Fields.required_of_lookup {α : Type} {fields : Fields} {name : String} {value : Json}
    (given : fields.given.lookup name = some value) (decoder : Decoder α) :
    fields.required name decoder = decoder fields.reading value := by
  rw [required, given]

/-- A field that is given is taken in place of the default. -/
theorem Fields.optional_of_lookup {α : Type} {fields : Fields} {name : String} {value : Json}
    (given : fields.given.lookup name = some value) (default : α) (decoder : Decoder α) :
    fields.optional name default decoder = decoder fields.reading value := by
  rw [optional, given]

end Json

/-! ## Documents -/

/-- A file that was written as text is text. -/
theorem fileText_encode (text : String) : fileText (.ok (Utf8.encode text)) = .ok text := by
  have read : Utf8.text? (Utf8.encode text) = some text := by
    simp [Utf8.text?, Utf8.lossy_encode]
  simp only [fileText, bind, Except.bind, read]
  rfl

/-- A document that was printed is loaded as what its value is read as. -/
theorem loadDocument_pretty {α : Type} (words : DocumentWords) {decoder : Json.Decoder α} {value : Json} {decoded : α}
    (path : String) (plain : value.Plain) (reads : decoder {} value = some decoded) :
    loadDocument words decoder path (.ok (Utf8.encode value.pretty)) = .ok decoded := by
  have used : Json.decodeText? decoder value.pretty = some decoded := by
    rw [Json.decodeText?, Json.parse?_pretty plain]
    exact reads
  simp only [loadDocument, fileText_encode, used]

/-! ## The game -/

namespace Location

/-- A location is read back from its record. -/
theorem decode_toJson {reading inner : Json.Reading} (enters : reading.enter? = some inner) (location : Location) :
    decode reading location.toJson = some location := by
  have fields := Json.Fields.of?_record ["stack", "id"]
    [("stack", .text location.stack), ("id", .nat location.id.toNat)] enters (by simp) (by simp)
  rw [decode, toJson, fields, Option.bind_eq_bind, Option.bind_some, Json.Fields.required_of_lookup rfl,
    Json.Fields.required_of_lookup rfl, Json.Decoder.word_nat]
  rfl

/-- A location has a text, whatever the key of its stack. -/
theorem plain_toJson (location : Location) : location.toJson.Plain := by
  apply Json.Plain.record
  intro member among
  simp only [List.mem_cons, List.not_mem_nil, or_false] at among
  rcases among with rfl | rfl
  · exact .string location.stack
  · exact .nat location.id.toNat

end Location

namespace GameState

/-- A game is read back from its record, with all of its variables. -/
theorem decode_toJson (state : GameState) : decode {} state.toJson = some state := by
  obtain ⟨location, game⟩ := state
  have enters : Json.Reading.enter? {} = some { room := 126 } := rfl
  have enters' : Json.Reading.enter? { room := 126 } = some { room := 125 } := rfl
  have fields := Json.Fields.of?_record ["location", "variables"]
    [("location", .orNull (location.map Location.toJson)),
      ("variables", .record (game.entries.map fun entry => (entry.1, .nat entry.2.toNat)))] enters (by simp) (by simp)
  have values := Json.Decoder.map_record enters' (fun value => Json.Decoder.word_nat _ value) game
  have stands : Json.Decoder.nullable Location.decode { room := 126 } (.orNull (location.map Location.toJson))
      = some location := by
    cases location with
    | none => rfl
    | some location => exact congrArg (Option.map some) (location.decode_toJson enters')
  rw [decode, toJson, fields, Option.bind_eq_bind, Option.bind_some, Json.Fields.optional_of_lookup rfl,
    Json.Fields.optional_of_lookup rfl, stands, values]
  rfl

/-- A game has a text, whatever the names of its variables. -/
theorem plain_toJson (state : GameState) : state.toJson.Plain := by
  apply Json.Plain.record
  intro member among
  simp only [List.mem_cons, List.not_mem_nil, or_false] at among
  rcases among with rfl | rfl
  · cases state.location with
    | none => exact .null
    | some location => exact location.plain_toJson
  · apply Json.Plain.record
    intro member among
    obtain ⟨entry, _, rfl⟩ := List.mem_map.mp among
    exact .nat entry.2.toNat

/-- A saved game is loaded from the octets that were written. -/
theorem load_save (state : GameState) (path : String) : load path (.ok (Utf8.encode state.save)) = .ok state :=
  loadDocument_pretty words path state.plain_toJson state.decode_toJson

end GameState

end Diorama
