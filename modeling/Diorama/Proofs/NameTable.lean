import Diorama.Card.Codec
import Diorama.Proofs.Pieces

/-!
# Tables of names

Commands name a variable by its place in the stack's table of names, so a table that is read must be the one that
was written, name for name. It is written exactly if it keeps within the limits of counted lists and counted
names, and then it is read back, whatever octets follow it; a table that has lost octets at its end is not read
as a shorter one, but refused, since octets run out in some name or in the count (`NameTable.table_read_back`).

What was read off the front of octets is read off the front of more octets alike (`Reader.Spells.append`). So if
the beginning of a table could be read, the whole table would leave octets over, and it leaves none.
-/

namespace Diorama

/-! ## Where octets run out -/

namespace Reader

variable {α β : Type}

/-- Whatever goes wrong in a reader, it is one of these things. -/
def FailsOnly (reader : Reader α) (causes : FormatError → Prop) : Prop :=
  ∀ bytes cause, reader bytes = .error cause → causes cause

namespace FailsOnly

variable {reader : Reader α} {next : α → Reader β} {causes : FormatError → Prop}

theorem pure (value : α) : FailsOnly (pure value : Reader α) causes :=
  fun _ _ failed => nomatch failed

/-- A reader fails as its first part does, or as what follows. -/
theorem bind (first : reader.FailsOnly causes) (second : ∀ value, (next value).FailsOnly causes) :
    (reader >>= next).FailsOnly causes := by
  intro bytes cause failed
  cases read : reader bytes with
  | error cause' =>
    rw [bind_error read] at failed
    cases failed
    exact first bytes cause read
  | ok taken =>
    obtain ⟨value, rest⟩ := taken
    rw [bind_ok read] at failed
    exact second value rest cause failed

/-- A cause within a passage is one that is told with the passage. -/
theorem within (passage : Passage) (h : reader.FailsOnly fun cause => causes (.during passage cause)) :
    (reader.within passage).FailsOnly causes := by
  intro bytes cause failed
  unfold Reader.within at failed
  split at failed
  next => cases failed
  next cause' read =>
    cases failed
    exact h bytes cause' read

/-- Entries fail as each of them may fail. -/
theorem entriesOnto {entry : Nat → Reader α} (h : ∀ index, (entry index).FailsOnly causes) (index : Nat)
    (read : List α) (size : Nat) : (entriesOnto entry index read size).FailsOnly causes := by
  induction size generalizing index read with
  | zero => exact .pure _
  | succ size ih => exact (h index).bind fun value => ih (index + 1) (value :: read)

end FailsOnly

/-- A word can only be short of octets. -/
theorem word_failsOnly : word.FailsOnly (· = .shortage) := by
  intro bytes cause failed
  unfold word at failed
  split at failed
  next => cases failed
  next =>
    cases failed
    rfl

/-- An octet can only be missing. -/
theorem octet_failsOnly : octet.FailsOnly (· = .shortage) := by
  intro bytes cause failed
  cases bytes with
  | nil =>
    cases failed
    rfl
  | cons head rest => cases failed

/-- Several octets can only be too few. -/
theorem octets_failsOnly (size : Nat) : (octets size).FailsOnly (· = .shortage) := by
  intro bytes cause failed
  unfold octets at failed
  dsimp only at failed
  split at failed
  next => cases failed
  next =>
    cases failed
    rfl

/-- A name can only be short of octets, for it is read as text whatever they are. -/
theorem name_failsOnly : name.FailsOnly (· = .shortage) :=
  octet_failsOnly.bind fun size => (octets_failsOnly size.toNat).bind fun _ => .pure _

end Reader

namespace NameTable

/-- Reads a table of names and leaves what follows it. -/
def read : Reader (List String) :=
  Reader.listWithin .nameCount fun index => Reader.within (.name index) Reader.name

/-- A table is decoded if it can be read off the front, whatever stands behind it. -/
theorem decode_eq_ok_iff {bytes : Bytes} {names : List String} :
    decode bytes = .ok names ↔ ∃ rest, read bytes = .ok (names, rest) := by
  show (read bytes >>= fun taken => .ok taken.1) = _ ↔ _
  cases read bytes with
  | error cause => simp [bind, Except.bind]
  | ok taken => simp [bind, Except.bind, Prod.ext_iff]

/-- Tables of up to 65535 names of up to 255 octets are a codec. -/
theorem codec : Codec encode read
    (fun names => names.length ≤ 65535 ∧ ∀ name ∈ names, name.utf8ByteSize ≤ 255) (fun names => ∀ name ∈ names, True) :=
  .listWithin .nameCount fun index => Codec.name.within (.name index)

/-- A table is read back, whatever follows it, and exactly its octets are taken. -/
theorem read_append {names : List String} {table : Bytes} (written : encode names = .ok table) (more : Bytes) :
    read (table ++ more) = .ok (names, more) :=
  (codec.readBy names table written).takes (fun _ _ => trivial) more

/-- A table is read back in front of anything. -/
theorem decode_append {names : List String} {table : Bytes} (written : encode names = .ok table) (more : Bytes) :
    decode (table ++ more) = .ok names :=
  decode_eq_ok_iff.mpr ⟨more, read_append written more⟩

/-- A table is read back alone. -/
theorem decode_encode {names : List String} {table : Bytes} (written : encode names = .ok table) :
    decode table = .ok names := by
  have read := decode_append written []
  rwa [List.append_nil] at read

/-- Before more octets the same names are read. -/
theorem read_append_of_read {bytes rest : Bytes} {names : List String} (here : read bytes = .ok (names, rest))
    (more : Bytes) : read (bytes ++ more) = .ok (names, rest ++ more) := by
  have entry (index : Nat) : (Reader.within (.name index) Reader.name).Spells fun name told =>
      told = [Field.name name] ∧ True :=
    (Reader.name_spells.mono fun _ _ told => ⟨told, trivial⟩).within _
  exact (Reader.listWithin_spells .nameCount entry).append here more

/-- Octets that are no table are too few. -/
theorem exists_passage_of_decode {bytes : Bytes} {cause : FormatError} (refused : decode bytes = .error cause) :
    ∃ passage, cause = .during passage .shortage := by
  have fails : read.FailsOnly fun cause => ∃ passage, cause = .during passage .shortage := by
    refine .bind (.within _ ?_) fun size => .entriesOnto (fun index => .within _ ?_) 0 [] size.toNat
    · exact fun bytes cause failed => ⟨_, congrArg _ (Reader.word_failsOnly bytes cause failed)⟩
    · exact fun bytes cause failed => ⟨_, congrArg _ (Reader.name_failsOnly bytes cause failed)⟩
  cases taken : read bytes with
  | error cause' =>
    have same : decode bytes = .error cause' := by
      show (read bytes >>= _) = _
      rw [taken]
      rfl
    rw [refused] at same
    cases same
    exact fails bytes cause taken
  | ok taken' =>
    obtain ⟨names, rest⟩ := taken'
    rw [decode_eq_ok_iff.mpr ⟨rest, taken⟩] at refused
    cases refused

/-- Names can be written as a table exactly if there are at most 65535 of them and each has at most 255 octets. Then
the table is read back as these names, whatever follows it, and every beginning of it but the whole is refused for
want of octets. -/
theorem table_read_back (names : List String) :
    ((∃ table, encode names = .ok table) ↔ names.length ≤ 65535 ∧ ∀ name ∈ names, name.utf8ByteSize ≤ 255) ∧
      ∀ table, encode names = .ok table → (∀ more, decode (table ++ more) = .ok names) ∧
        ∀ front, front <+: table → front ≠ table →
          ∃ passage, decode front = .error (.during passage .shortage) := by
  refine ⟨codec.succeeds_iff names, fun table written => ⟨decode_append written, ?_⟩⟩
  rintro front ⟨back, rfl⟩ proper
  cases cut : decode front with
  | error cause =>
    obtain ⟨passage, rfl⟩ := exists_passage_of_decode cut
    exact ⟨passage, rfl⟩
  | ok others =>
    obtain ⟨rest, here⟩ := decode_eq_ok_iff.mp cut
    have whole := read_append written []
    rw [List.append_nil, read_append_of_read here back] at whole
    -- The whole table leaves nothing over, so there was nothing behind its beginning.
    have nothing : back = [] := (List.append_eq_nil_iff.mp (congrArg Prod.snd (Except.ok.inj whole))).2
    rw [nothing, List.append_nil] at proper
    exact absurd rfl proper

/-- Two names are read back before another octet, and not without the last octet of the second. -/
theorem table_read_back_shorn :
    ∃ table, encode ["coin", "é"] = .ok table ∧ decode (table ++ [7]) = .ok ["coin", "é"] ∧
      table.dropLast <+: table ∧ ∃ passage, decode table.dropLast = .error (.during passage .shortage) := by
  obtain ⟨kept, cut⟩ := (table_read_back ["coin", "é"]).2 _ rfl
  exact ⟨_, rfl, kept [7], List.dropLast_prefix _, cut _ (List.dropLast_prefix _) (by decide)⟩

end NameTable

end Diorama
