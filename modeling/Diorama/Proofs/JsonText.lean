import Diorama.Json.Parser
import Diorama.Json.Value

/-!
# What is printed as JSON is read back

A value is printed so that reading the text gives the very same value, in whatever layout, as long as it has a
text at all: its strings and keys do, and its numbers are made of digits as the grammar has them (`Json.Plain`,
`Json.parse?_write`).

The two halves of reading meet in the tokens of a value (`Json.tokens`). The scanner is at rest after
punctuation, words and strings, but not after a number, which ends only with the character behind it; so what a
text does to the scanner is said with how the scanner stands before it and after it (`Scanner.Reads`), and texts
that fit together are read one after the other (`Scanner.Reads.append`). The parser takes the tokens of any value
for that value, among whatever is open around it.
-/

namespace Diorama

/-! ## Numbers -/

namespace JsonNumber

/-- Digits as they can be written: at least one, and each below ten. -/
structure Digits (digits : List Nat) : Prop where
  nonempty : digits ≠ []
  small : ∀ digit ∈ digits, digit < 10

/-- A number that can be written: no zero stands before other digits of the whole part. -/
structure Plain (number : JsonNumber) : Prop where
  whole : Digits number.whole
  leading : number.whole.head? = some 0 → number.whole.length = 1
  fraction : ∀ digits, number.fraction = some digits → Digits digits
  exponent : ∀ below digits, number.exponent = some (below, digits) → Digits digits

open Json (digitChars hexDigit numberText)

/-- Below ten a hexadecimal digit is a decimal one. -/
theorem isDigit_hexDigit {digit : Nat} (small : digit < 10) : (hexDigit digit).isDigit = true := by
  revert digit
  decide

/-- A decimal digit has the value that it was written for. -/
theorem digitValue_hexDigit {digit : Nat} (small : digit < 10) : digitValue (hexDigit digit) = digit := by
  revert digit
  decide

/-- A digit is none of the other characters. -/
theorem hexDigit_ne {digit : Nat} (small : digit < 10) {char : Char} (other : char.isDigit = false) :
    hexDigit digit ≠ char := by
  intro same
  rw [← same, isDigit_hexDigit small] at other
  cases other

/-- Digits are written with digits only. -/
theorem isDigit_of_mem_digitChars {digits : List Nat} (small : ∀ digit ∈ digits, digit < 10) {char : Char}
    (among : char ∈ digitChars digits) : char.isDigit = true := by
  obtain ⟨digit, here, rfl⟩ := List.mem_map.mp among
  exact isDigit_hexDigit (small digit here)

/-- Digits end where something else begins. -/
theorem spanDigits_append {digits : List Nat} (small : ∀ digit ∈ digits, digit < 10) (rest : List Char)
    (stops : ∀ char, rest.head? = some char → char.isDigit = false) :
    spanDigits (digitChars digits ++ rest) = (digits, rest) := by
  induction digits with
  | nil =>
    cases rest with
    | nil => rfl
    | cons char rest => simp [spanDigits, digitChars, stops char rfl]
  | cons digit digits ih =>
    have rest := ih fun other among => small other (List.mem_cons_of_mem _ among)
    have first := small digit List.mem_cons_self
    simp only [spanDigits, digitChars, Prod.mk.injEq] at rest
    simp [spanDigits, digitChars, isDigit_hexDigit first, digitValue_hexDigit first, rest.1, rest.2]

/-- Where nothing follows, all of the digits are taken. -/
theorem spanDigits_digitChars {digits : List Nat} (small : ∀ digit ∈ digits, digit < 10) :
    spanDigits (digitChars digits) = (digits, []) := by
  have alone := spanDigits_append small [] nofun
  rwa [List.append_nil] at alone

/-- The fraction of a number, as it is printed. -/
def fractionText : Option (List Nat) → List Char
  | some digits => '.' :: digitChars digits
  | none => []

/-- The exponent of a number, as it is printed. -/
def exponentText : Option (Bool × List Nat) → List Char
  | some (true, digits) => 'e' :: '-' :: digitChars digits
  | some (false, digits) => 'e' :: digitChars digits
  | none => []

/-- A number is written as its sign, its whole part, its fraction and its exponent. -/
theorem numberText_eq (number : JsonNumber) : numberText number =
    (if number.negative then ['-'] else []) ++
      (digitChars number.whole ++ (fractionText number.fraction ++ exponentText number.exponent)) := by
  obtain ⟨negative, whole, fraction, exponent⟩ := number
  simp only [numberText, List.append_assoc]
  rfl

/-- An exponent is read back; without a sign its first character is a digit. -/
theorem readExponent?_exponentText : {exponent : Option (Bool × List Nat)} →
    (∀ below digits, exponent = some (below, digits) → Digits digits) →
      readExponent? (exponentText exponent) = some exponent
  | none, _ => rfl
  | some (true, digits), plain => by
    have plain := plain true digits rfl
    simp [exponentText, readExponent?, spanDigits_digitChars plain.small, plain.nonempty]
  | some (false, []), plain => absurd rfl (plain false [] rfl).nonempty
  | some (false, digit :: digits), plain => by
    have plain := plain false (digit :: digits) rfl
    have span := spanDigits_digitChars plain.small
    -- The first digit is no sign.
    have small := plain.small digit List.mem_cons_self
    have noMinus : hexDigit digit ≠ '-' := hexDigit_ne small rfl
    have noPlus : hexDigit digit ≠ '+' := hexDigit_ne small rfl
    simp only [digitChars, List.map_cons] at span
    simp [exponentText, readExponent?, digitChars, noMinus, noPlus, span]

/-- An exponent begins with its letter. -/
theorem head?_exponentText (exponent : Option (Bool × List Nat)) (char : Char)
    (first : (exponentText exponent).head? = some char) : char = 'e' := by
  match exponent with
  | none => cases first
  | some (true, _) => exact (Option.some.inj first).symm
  | some (false, _) => exact (Option.some.inj first).symm

/-- A fraction is read back, and ends where the exponent begins. -/
theorem readFraction?_fractionText {fraction : Option (List Nat)}
    (plain : ∀ digits, fraction = some digits → Digits digits) (exponent : Option (Bool × List Nat)) :
    readFraction? (fractionText fraction ++ exponentText exponent) = some (fraction, exponentText exponent) := by
  cases fraction with
  | none =>
    match exponent with
    | none => rfl
    | some (true, _) => rfl
    | some (false, _) => rfl
  | some digits =>
    have plain := plain digits rfl
    have span := spanDigits_append plain.small (exponentText exponent) fun char first => by
      rw [head?_exponentText exponent char first]
      rfl
    simp [fractionText, readFraction?, span, plain.nonempty]

/-- The digits of a number end where its fraction or its exponent begins, if it has any. -/
theorem stops_fractionText (fraction : Option (List Nat)) (exponent : Option (Bool × List Nat)) (char : Char)
    (first : (fractionText fraction ++ exponentText exponent).head? = some char) : char.isDigit = false := by
  cases fraction with
  | none =>
    rw [head?_exponentText exponent char first]
    rfl
  | some digits =>
    cases first
    rfl

/-- A number that is printed is read back. -/
theorem ofText?_numberText {number : JsonNumber} (plain : number.Plain) : ofText? (numberText number) = some number := by
  obtain ⟨negative, whole, fraction, exponent⟩ := number
  obtain ⟨wholePlain, leading, fractionPlain, exponentPlain⟩ := plain
  have span := spanDigits_append wholePlain.small _ (stops_fractionText fraction exponent)
  have fractionRead := readFraction?_fractionText fractionPlain exponent
  have exponentRead := readExponent?_exponentText exponentPlain
  cases whole with
  | nil => exact absurd rfl wholePlain.nonempty
  | cons digit digits =>
    have noSign : hexDigit digit ≠ '-' := hexDigit_ne (wholePlain.small digit List.mem_cons_self) rfl
    have noZero : ¬ (digit = 0 ∧ digits ≠ []) := by
      rintro ⟨rfl, more⟩
      exact more (List.length_eq_zero_iff.mp (Nat.succ.inj (leading rfl)))
    simp only [digitChars, List.map_cons, List.cons_append] at span
    cases negative
    · simp [numberText_eq, ofText?, digitChars, noSign, span, noZero, fractionRead, exponentRead]
    · simp [numberText_eq, ofText?, digitChars, span, noZero, fractionRead, exponentRead]

/-! ### Of what characters a number is made -/

/-- Digits go on a number. -/
theorem isNumeric_of_mem_digitChars {digits : List Nat} (plain : Digits digits) {char : Char}
    (among : char ∈ digitChars digits) : isNumeric char = true := by
  simp [isNumeric, isDigit_of_mem_digitChars plain.small among]

/-- So does each character of a fraction. -/
theorem isNumeric_of_mem_fractionText {fraction : Option (List Nat)}
    (plain : ∀ digits, fraction = some digits → Digits digits) {char : Char} (among : char ∈ fractionText fraction) :
    isNumeric char = true := by
  cases fraction with
  | none => cases among
  | some digits =>
    rcases List.mem_cons.mp among with rfl | here
    · rfl
    · exact isNumeric_of_mem_digitChars (plain digits rfl) here

/-- So does each character of an exponent. -/
theorem isNumeric_of_mem_exponentText {exponent : Option (Bool × List Nat)}
    (plain : ∀ below digits, exponent = some (below, digits) → Digits digits) {char : Char}
    (among : char ∈ exponentText exponent) : isNumeric char = true := by
  match exponent with
  | none => cases among
  | some (true, digits) =>
    simp only [exponentText, List.mem_cons] at among
    rcases among with rfl | rfl | here
    · rfl
    · rfl
    · exact isNumeric_of_mem_digitChars (plain true digits rfl) here
  | some (false, digits) =>
    rcases List.mem_cons.mp among with rfl | here
    · rfl
    · exact isNumeric_of_mem_digitChars (plain false digits rfl) here

/-- The scanner takes every character of a number as part of it. -/
theorem isNumeric_of_mem_numberText {number : JsonNumber} (plain : number.Plain) {char : Char}
    (among : char ∈ numberText number) : isNumeric char = true := by
  rw [numberText_eq] at among
  simp only [List.mem_append] at among
  rcases among with sign | whole | fraction | exponent
  · split at sign
    · rw [List.mem_singleton.mp sign]
      rfl
    · cases sign
  · exact isNumeric_of_mem_digitChars plain.whole whole
  · exact isNumeric_of_mem_fractionText plain.fraction fraction
  · exact isNumeric_of_mem_exponentText plain.exponent exponent

end JsonNumber

namespace Json

/-- A value that has a text: its strings and keys have one, and its numbers can be written. -/
inductive Plain : Json → Prop where
  | null : Plain .null
  | bool (value : Bool) : Plain (.bool value)
  | number {value : JsonNumber} (plain : value.Plain) : Plain (.number value)
  | string (text : String) : Plain (.string (some text))
  | array {items : List Json} (each : ∀ item ∈ items, Plain item) : Plain (.array items)
  | object {members : List (Option String × Json)} (named : ∀ member ∈ members, member.1.isSome = true)
      (each : ∀ member ∈ members, Plain member.2) : Plain (.object members)

/-! ## Tokens -/

mutual

/-- The tokens of a value, whatever its layout. -/
def tokens : Json → List Token
  | .null => [.null]
  | .bool value => [.bool value]
  | .number value => [.number value]
  | .string text => [.string text]
  | .array [] => [.openArray, .closeArray]
  | .array (item :: rest) => .openArray :: (tokens item ++ itemTokens rest ++ [.closeArray])
  | .object [] => [.openObject, .closeObject]
  | .object (member :: rest) => .openObject :: (memberTokens member ++ membersTokens rest ++ [.closeObject])

/-- The tokens of the items after the first. -/
def itemTokens : List Json → List Token
  | [] => []
  | item :: rest => .comma :: (tokens item ++ itemTokens rest)

def memberTokens : Option String × Json → List Token
  | (key, value) => .string key :: .colon :: tokens value

/-- The tokens of the members after the first. -/
def membersTokens : List (Option String × Json) → List Token
  | [] => []
  | member :: rest => .comma :: (memberTokens member ++ membersTokens rest)

end

/-! ## Scanning -/

namespace Scanner

/-- The scanner is between two tokens, after these, the last first. -/
def Between (scanner : Scanner) (tokens : List Token) : Prop :=
  scanner = { tokens }

/-- The scanner has read these tokens, the last first; if the last is a number, it may be inside of it still. -/
def After (scanner : Scanner) (tokens : List Token) : Prop :=
  scanner.Between tokens ∨ ∃ read number earlier, scanner = ⟨.number read, earlier⟩ ∧
    JsonNumber.ofText? read.reverse = some number ∧ tokens = .number number :: earlier

/-- A text that is read as these tokens, by a scanner that stands in one way before it and in another after it. -/
def Reads (before : Scanner → List Token → Prop) (text : List Char) (tokens : List Token)
    (behind : Scanner → List Token → Prop) : Prop :=
  ∀ scanner earlier, before scanner earlier → ∃ later, text.foldlM step scanner = some later ∧
    behind later (tokens.reverse ++ earlier)

namespace Reads

variable {before between behind : Scanner → List Token → Prop} {text more : List Char} {tokens others : List Token}

/-- Texts that fit together are read one after the other. -/
theorem append (first : Reads before text tokens between) (second : Reads between more others behind) :
    Reads before (text ++ more) (tokens ++ others) behind := by
  intro scanner earlier stands
  obtain ⟨here, read, holds⟩ := first scanner earlier stands
  obtain ⟨there, readMore, holdsThere⟩ := second here _ holds
  refine ⟨there, ?_, ?_⟩
  · rw [List.foldlM_append, read]
    exact readMore
  · rwa [List.reverse_append, List.append_assoc]

/-- No text is read as no tokens. -/
theorem nil : Reads before [] [] before :=
  fun scanner _ stands => ⟨scanner, rfl, stands⟩

/-- At rest after a token is one way of being after it. -/
theorem rest (h : Reads before text tokens Between) : Reads before text tokens After := by
  intro scanner earlier stands
  obtain ⟨later, read, holds⟩ := h scanner earlier stands
  exact ⟨later, read, .inl holds⟩

/-- A text that can be read after a token can be read between two. -/
theorem start (h : Reads After text tokens behind) : Reads Between text tokens behind :=
  fun scanner earlier stands => h scanner earlier (.inl stands)

end Reads

/-- A character with which no number goes on is read alike behind a number. -/
theorem step_of_after {scanner : Scanner} {earlier : List Token} (stands : scanner.After earlier) {char : Char}
    (other : JsonNumber.isNumeric char = false) : scanner.step char = scanBetween earlier char := by
  rcases stands with rfl | ⟨read, number, before, rfl, spelt, rfl⟩
  · rfl
  · simp [step, other, spelt]

/-- A single character that is a token of its own, or none. -/
theorem reads_single {char : Char} (tokens : List Token) (other : JsonNumber.isNumeric char = false)
    (scanned : ∀ earlier, scanBetween earlier char = some { tokens := tokens.reverse ++ earlier }) :
    Reads After [char] tokens Between := by
  intro scanner earlier stands
  refine ⟨_, ?_, rfl⟩
  rw [List.foldlM_cons, step_of_after stands other, scanned]
  rfl

/-- A blank ends a number and is no token. -/
theorem reads_space {char : Char} (space : isSpace char = true) : Reads After [char] [] Between := by
  refine reads_single [] ?_ fun earlier => if_pos space
  simp only [isSpace, Bool.or_eq_true, beq_iff_eq] at space
  rcases space with ((rfl | rfl) | rfl) | rfl <;> rfl

/-- Blanks are read as nothing. -/
theorem reads_blank {blanks : List Char} (blank : ∀ char ∈ blanks, isSpace char = true) :
    Reads Between blanks [] Between := by
  induction blanks with
  | nil => exact .nil
  | cons char rest ih =>
    have rest := ih fun other among => blank other (List.mem_cons_of_mem _ among)
    exact (reads_space (blank char List.mem_cons_self)).start.append rest

/-- Blanks end a number that stands before them, if there are any. -/
theorem reads_blank_after {blanks : List Char} (blank : ∀ char ∈ blanks, isSpace char = true) :
    Reads After blanks [] After := by
  cases blanks with
  | nil => exact .nil
  | cons char rest =>
    have rest := reads_blank fun other among => blank other (List.mem_cons_of_mem _ among)
    exact ((reads_space (blank char List.mem_cons_self)).append rest).rest

/-! ### Strings -/

/-- A hexadecimal digit has the value that it was written for. -/
theorem hexValue?_hexDigit {digit : Nat} (small : digit < 16) : hexValue? (hexDigit digit) = some digit := by
  revert digit
  decide

/-- A unit below the surrogates is a character by itself. -/
theorem pushUnit_of_lt (spelling : Spelling) {unit : Nat} (small : unit < 0xD800) :
    spelling.pushUnit unit = spelling.push (Char.ofNat unit) := by
  have noHigh : ¬ 0xD800 ≤ unit := by omega
  have noLow : ¬ 0xDC00 ≤ unit := by omega
  simp [Spelling.pushUnit, noHigh, noLow]

/-- An escape of four hexadecimal digits, the first two of them zeros. -/
theorem foldlM_unit (spelling : Spelling) (earlier : List Token) {high low : Char} {upper lower : Nat}
    (highValue : hexValue? high = some upper) (lowValue : hexValue? low = some lower) :
    ['\\', 'u', '0', '0', high, low].foldlM step ⟨.string spelling, earlier⟩
      = some ⟨.string (spelling.pushUnit (upper * 16 + lower)), earlier⟩ := by
  have front : ['\\', 'u', '0', '0'].foldlM step ⟨.string spelling, earlier⟩ = some ⟨.unit spelling 2 0, earlier⟩ := rfl
  have third : step ⟨.unit spelling 2 0, earlier⟩ high = some ⟨.unit spelling 1 upper, earlier⟩ := by
    simp [step, highValue]
  have fourth : step ⟨.unit spelling 1 upper, earlier⟩ low
      = some ⟨.string (spelling.pushUnit (upper * 16 + lower)), earlier⟩ := by
    simp [step, lowValue]
  show (['\\', 'u', '0', '0'] ++ [high, low]).foldlM step _ = _
  rw [List.foldlM_append, front]
  simp [third, fourth]

/-- A character is read as itself, escaped or not. -/
theorem foldlM_escapeChar (spelling : Spelling) (earlier : List Token) (char : Char) :
    (escapeChar char).foldlM step ⟨.string spelling, earlier⟩ = some ⟨.string (spelling.push char), earlier⟩ := by
  unfold escapeChar
  by_cases quote : char = '"'
  · subst quote
    rfl
  by_cases slash : char = '\\'
  · subst slash
    rfl
  by_cases printable : 0x20 ≤ char.toNat
  · have noControl : ¬ char.toNat < 0x20 := by omega
    simp [quote, slash, printable, noControl, step]
  have control : char.toNat < 0x20 := by omega
  simp only [beq_iff_eq, quote, slash, printable, if_false]
  split
  · rfl
  · rfl
  · rfl
  · rfl
  · rfl
  next =>
    have high : hexValue? (hexDigit (char.toNat / 16)) = some _ := hexValue?_hexDigit (by omega)
    have low : hexValue? (hexDigit (char.toNat % 16)) = some _ := hexValue?_hexDigit (by omega)
    have whole : char.toNat / 16 * 16 + char.toNat % 16 = char.toNat := by omega
    rw [foldlM_unit spelling earlier high low, whole, pushUnit_of_lt spelling (by omega), Char.ofNat_toNat]

/-- Characters of a string are read back one by one, escaped or not. -/
theorem foldlM_escapeChars (earlier : List Token) (chars read : List Char) :
    (chars.flatMap escapeChar).foldlM step ⟨.string { read }, earlier⟩
      = some ⟨.string { read := chars.reverse ++ read }, earlier⟩ := by
  induction chars generalizing read with
  | nil => rfl
  | cons char rest ih =>
    rw [List.flatMap_cons, List.foldlM_append, foldlM_escapeChar, List.reverse_cons, List.append_assoc]
    exact ih (char :: read)

/-- A text in quotes is read as that text. -/
theorem reads_quote (text : String) : Reads Between (quote text) [.string (some text)] Between := by
  rintro _ earlier rfl
  refine ⟨_, ?_, rfl⟩
  have opened : step { tokens := earlier } '"' = some ⟨.string {}, earlier⟩ := rfl
  have ended : step ⟨.string { read := text.toList.reverse ++ [] }, earlier⟩ '"'
      = some { tokens := .string (some text) :: earlier } := by
    simp [step, Spelling.text?]
  simp only [quote, List.cons_append, List.foldlM_cons, List.foldlM_append, opened, Option.bind_eq_bind,
    Option.bind_some, foldlM_escapeChars, ended, List.foldlM_nil]
  rfl

/-! ### Numbers -/

/-- Inside a number each numeric character is kept for its text. -/
theorem foldlM_numeric (earlier : List Token) {chars : List Char} (numeric : ∀ char ∈ chars, JsonNumber.isNumeric char = true)
    (read : List Char) : chars.foldlM step ⟨.number read, earlier⟩ = some ⟨.number (chars.reverse ++ read), earlier⟩ := by
  induction chars generalizing read with
  | nil => rfl
  | cons char rest ih =>
    have first := numeric char List.mem_cons_self
    have onward : step ⟨.number read, earlier⟩ char = some ⟨.number (char :: read), earlier⟩ := if_pos first
    rw [List.foldlM_cons, onward, List.reverse_cons, List.append_assoc]
    exact ih (fun other among => numeric other (List.mem_cons_of_mem _ among)) (char :: read)

/-- A number begins with a digit or a minus. -/
theorem exists_numberText_eq_cons {number : JsonNumber} (plain : number.Plain) :
    ∃ char rest, numberText number = char :: rest ∧ (char.isDigit || char == '-') = true := by
  rw [JsonNumber.numberText_eq]
  obtain ⟨digit, digits, whole⟩ := List.exists_cons_of_ne_nil plain.whole.nonempty
  have small := plain.whole.small digit (whole ▸ List.mem_cons_self)
  cases number.negative with
  | true => exact ⟨'-', _, rfl, rfl⟩
  | false =>
    refine ⟨hexDigit digit, _, by rw [whole]; rfl, ?_⟩
    rw [JsonNumber.isDigit_hexDigit small, Bool.true_or]

/-- A number is read, and whether it has ended is not known before the next character. -/
theorem reads_number {number : JsonNumber} (plain : number.Plain) :
    Reads Between (numberText number) [.number number] After := by
  rintro _ earlier rfl
  obtain ⟨char, rest, text, begins⟩ := exists_numberText_eq_cons plain
  have spelt := JsonNumber.ofText?_numberText plain
  have numeric : ∀ other ∈ numberText number, JsonNumber.isNumeric other = true :=
    fun _ among => JsonNumber.isNumeric_of_mem_numberText plain among
  rw [text] at spelt numeric ⊢
  have noSpace : isSpace char = false := by
    rw [Bool.eq_false_iff]
    intro space
    simp only [isSpace, Bool.or_eq_true, beq_iff_eq] at space
    rcases space with ((rfl | rfl) | rfl) | rfl <;> cases begins
  have opened : step { tokens := earlier } char = some ⟨.number [char], earlier⟩ := by
    simp [step, scanBetween, noSpace, begins]
  refine ⟨⟨.number (rest.reverse ++ [char]), earlier⟩, ?_, .inr ⟨_, number, earlier, rfl, ?_, rfl⟩⟩
  · rw [List.foldlM_cons, opened]
    exact foldlM_numeric earlier (fun other among => numeric other (List.mem_cons_of_mem _ among)) [char]
  · rw [List.reverse_append, List.reverse_reverse]
    exact spelt

/-! ### Values -/

/-- A text of which the scanner makes tokens whatever it has read before. -/
theorem reads_fixed {text : List Char} {tokens : List Token}
    (scanned : ∀ earlier, text.foldlM step { tokens := earlier } = some { tokens := tokens.reverse ++ earlier }) :
    Reads Between text tokens After := by
  rintro _ earlier rfl
  exact ⟨_, scanned earlier, .inl rfl⟩

end Scanner

/-- A layout puts nothing but blanks around tokens. -/
structure Layout.Blank (layout : Layout) : Prop where
  line : ∀ depth, ∀ char ∈ layout.line depth, isSpace char = true
  colon : ∃ blanks, layout.colon = ':' :: blanks ∧ ∀ char ∈ blanks, isSpace char = true

/-- The indented layout consists of blanks between the tokens. -/
theorem Layout.blank_pretty : Layout.pretty.Blank := by
  refine ⟨fun depth char among => ?_, [' '], rfl, fun char among => ?_⟩
  · rcases List.mem_cons.mp among with rfl | among
    · rfl
    · rw [List.eq_of_mem_replicate among]
      rfl
  · rw [List.mem_singleton.mp among]
    rfl

namespace Layout.Blank

open Scanner

variable {layout : Layout} (blank : layout.Blank)
include blank

/-- A colon is read as itself, whatever blanks stand behind it. -/
theorem reads_colon : Reads After layout.colon [.colon] Between := by
  obtain ⟨blanks, colon, isBlank⟩ := blank.colon
  rw [colon]
  exact (reads_single [.colon] rfl fun _ => rfl).append (reads_blank isBlank)

/-- An opening bracket, or a comma, and the line that begins behind it. -/
theorem reads_opening (char : Char) {token : Token} (other : JsonNumber.isNumeric char = false)
    (scanned : ∀ earlier, scanBetween earlier char = some { tokens := token :: earlier }) (depth : Nat) :
    Reads After (char :: layout.line depth) [token] Between :=
  (reads_single [token] other scanned).append (reads_blank (blank.line depth))

/-- A closing bracket on a line of its own. -/
theorem reads_closing (char : Char) {token : Token} (other : JsonNumber.isNumeric char = false)
    (scanned : ∀ earlier, scanBetween earlier char = some { tokens := token :: earlier }) (depth : Nat) :
    Reads After (layout.line depth ++ [char]) [token] After :=
  ((reads_blank_after (blank.line depth)).append (reads_single [token] other scanned)).rest

mutual

/-- What is printed of a value is read as its tokens. -/
theorem reads_write : (value : Json) → value.Plain → (depth : Nat) →
    Reads Between (write layout depth value) (tokens value) After
  | .null, _, depth => reads_fixed fun _ => rfl
  | .bool true, _, depth => reads_fixed fun _ => rfl
  | .bool false, _, depth => reads_fixed fun _ => rfl
  | .number value, .number plain, depth => by
    rw [write, tokens]
    exact reads_number plain
  | .string _, .string text, depth => by
    rw [write, tokens]
    exact (reads_quote text).rest
  | .array [], _, depth => reads_fixed fun _ => rfl
  | .array (item :: rest), .array each, depth => by
    rw [List.forall_mem_cons] at each
    have opening := blank.reads_opening '[' rfl (fun _ => rfl) (depth + 1)
    have closing := blank.reads_closing ']' rfl (fun _ => rfl) depth
    have whole := opening.start.append <| (reads_write item each.1 (depth + 1)).append <|
      (reads_writeItems rest each.2 (depth + 1)).append closing
    simpa only [write, tokens, List.append_assoc, List.cons_append, List.nil_append] using whole
  | .object [], _, depth => reads_fixed fun _ => rfl
  | .object (member :: rest), .object named each, depth => by
    rw [List.forall_mem_cons] at named each
    have opening := blank.reads_opening '\x7b' rfl (fun _ => rfl) (depth + 1)
    have closing := blank.reads_closing '\x7d' rfl (fun _ => rfl) depth
    have whole := opening.start.append <| (reads_writeMember member named.1 each.1 (depth + 1)).append <|
      (reads_writeMembers rest named.2 each.2 (depth + 1)).append closing
    simpa only [write, tokens, List.append_assoc, List.cons_append, List.nil_append] using whole

/-- The items of an array are read one by one, each behind a comma. -/
theorem reads_writeItems : (items : List Json) → (∀ item ∈ items, item.Plain) → (depth : Nat) →
    Reads After (writeItems layout depth items) (itemTokens items) After
  | [], _, depth => by
    rw [writeItems, itemTokens]
    exact .nil
  | item :: rest, each, depth => by
    rw [List.forall_mem_cons] at each
    have opening := blank.reads_opening ',' rfl (fun _ => rfl) depth
    have whole := opening.append <| (reads_write item each.1 depth).append (reads_writeItems rest each.2 depth)
    simpa only [writeItems, itemTokens, List.append_assoc, List.cons_append, List.nil_append] using whole

/-- A member is read as its key, a colon and its value. -/
theorem reads_writeMember : (member : Option String × Json) → member.1.isSome = true → member.2.Plain →
    (depth : Nat) → Reads Between (writeMember layout depth member) (memberTokens member) After
  | (some key, value), _, plain, depth => by
    have whole := (reads_quote key).rest.append <| blank.reads_colon.append (reads_write value plain depth)
    simpa only [Option.getD_some, writeMember, memberTokens, List.append_assoc, List.cons_append, List.nil_append] using whole

/-- The members of an object are read one by one, each behind a comma. -/
theorem reads_writeMembers : (members : List (Option String × Json)) →
    (∀ member ∈ members, member.1.isSome = true) → (∀ member ∈ members, member.2.Plain) → (depth : Nat) →
      Reads After (writeMembers layout depth members) (membersTokens members) After
  | [], _, _, depth => by
    rw [writeMembers, membersTokens]
    exact .nil
  | member :: rest, named, each, depth => by
    rw [List.forall_mem_cons] at named each
    have opening := blank.reads_opening ',' rfl (fun _ => rfl) depth
    have whole := opening.append <| (reads_writeMember member named.1 each.1 depth).append
      (reads_writeMembers rest named.2 each.2 depth)
    simpa only [writeMembers, membersTokens, List.append_assoc, List.cons_append, List.nil_append] using whole

end

end Layout.Blank

/-- What is printed of a value, and nothing else, is cut into its tokens. -/
theorem scan?_write {layout : Layout} (blank : layout.Blank) {value : Json} (plain : value.Plain) (depth : Nat) :
    Token.scan? (write layout depth value) = some (tokens value) := by
  obtain ⟨later, read, stands⟩ := blank.reads_write value plain depth {} [] rfl
  rw [List.append_nil] at stands
  have ends : later.finish? = some (tokens value) := by
    rcases stands with rfl | ⟨read, number, earlier, rfl, spelt, same⟩
    · exact congrArg some (List.reverse_reverse _)
    · rw [← List.reverse_reverse (tokens value), same]
      simp [Scanner.finish?, spelt]
  rw [Token.scan?, read]
  exact ends

/-! ## Parsing -/

namespace Parser

/-- The first item of an array is taken as any value is. -/
theorem foldlM_firstItem (value : Json) (read : List Json) (frames : List Frame) (more : List Token) :
    (tokens value ++ more).foldlM step ⟨.array read :: frames, .firstItem⟩
      = (tokens value ++ more).foldlM step ⟨.array read :: frames, .value⟩ := by
  match value with
  | .null => rfl
  | .bool _ => rfl
  | .number _ => rfl
  | .string _ => rfl
  | .array [] => rfl
  | .array (_ :: _) => rw [tokens]; rfl
  | .object [] => rfl
  | .object (_ :: _) => rw [tokens]; rfl

mutual

/-- The tokens of a value are taken for the value, whatever is open around it and whatever comes next. -/
theorem foldlM_tokens : (value : Json) → (frames : List Frame) → (more : List Token) →
    (tokens value ++ more).foldlM step ⟨frames, .value⟩ = more.foldlM step ⟨frames, .after value⟩
  | .null, _, _ => rfl
  | .bool _, _, _ => rfl
  | .number _, _, _ => rfl
  | .string _, _, _ => rfl
  | .array [], _, _ => rfl
  | .array (item :: rest), frames, more => by
    have first := foldlM_tokens item (.array [] :: frames) (itemTokens rest ++ .closeArray :: more)
    rw [← foldlM_firstItem, foldlM_itemTokens rest item [] frames more] at first
    simp only [tokens, List.cons_append, List.append_assoc, List.nil_append]
    exact first
  | .object [], _, _ => rfl
  | .object ((key, value) :: rest), frames, more => by
    have first := foldlM_tokens value (.member [] key :: frames) (membersTokens rest ++ .closeObject :: more)
    rw [foldlM_membersTokens rest key value [] frames more] at first
    simp only [tokens, memberTokens, List.cons_append, List.append_assoc, List.nil_append]
    exact first

/-- The items after `value`, up to the end of the array. -/
theorem foldlM_itemTokens : (items : List Json) → (value : Json) → (read : List Json) → (frames : List Frame) →
    (more : List Token) → (itemTokens items ++ .closeArray :: more).foldlM step ⟨.array read :: frames, .after value⟩
      = more.foldlM step ⟨frames, .after (.array ((value :: read).reverse ++ items))⟩
  | [], value, read, frames, more => by
    rw [List.append_nil]
    rfl
  | item :: rest, value, read, frames, more => by
    have first := foldlM_tokens item (.array (value :: read) :: frames) (itemTokens rest ++ .closeArray :: more)
    rw [foldlM_itemTokens rest item (value :: read) frames more, List.reverse_cons, List.append_assoc] at first
    simp only [itemTokens, List.cons_append, List.append_assoc]
    exact first

/-- The members after the one of `key`, up to the end of the object. -/
theorem foldlM_membersTokens : (members : List (Option String × Json)) → (key : Option String) → (value : Json) →
    (read : List (Option String × Json)) → (frames : List Frame) → (more : List Token) →
      (membersTokens members ++ .closeObject :: more).foldlM step ⟨.member read key :: frames, .after value⟩
        = more.foldlM step ⟨frames, .after (.object (((key, value) :: read).reverse ++ members))⟩
  | [], key, value, read, frames, more => by
    rw [List.append_nil]
    rfl
  | (next, item) :: rest, key, value, read, frames, more => by
    have first := foldlM_tokens item (.member ((key, value) :: read) next :: frames)
      (membersTokens rest ++ .closeObject :: more)
    rw [foldlM_membersTokens rest next item ((key, value) :: read) frames more, List.reverse_cons,
      List.append_assoc] at first
    simp only [membersTokens, memberTokens, List.cons_append, List.append_assoc]
    exact first

end

end Parser

/-- The tokens of a value, alone, are that value. -/
theorem ofTokens?_tokens (value : Json) : ofTokens? (tokens value) = some value := by
  have taken := Parser.foldlM_tokens value [] []
  rw [List.append_nil] at taken
  show ((tokens value).foldlM Parser.step ⟨[], .value⟩ >>= Parser.finish?) = _
  rw [taken]
  rfl

/-- What is printed of a value that has a text is read back as that value, in every layout. -/
theorem parse?_write {layout : Layout} (blank : layout.Blank) {value : Json} (plain : value.Plain) :
    parse? (String.ofList (write layout 0 value)) = some value := by
  rw [parse?, String.toList_ofList, scan?_write blank plain]
  exact ofTokens?_tokens value

/-- What is printed for people to read is read back as well. -/
theorem parse?_pretty {value : Json} (plain : value.Plain) : parse? value.pretty = some value :=
  parse?_write Layout.blank_pretty plain

end Json

end Diorama
