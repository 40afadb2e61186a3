/-!
# JSON values and their text

A document is read into a value that still knows how its numbers were written and which of its
strings have no text. Both matter because reading a document is not the same as using it: a field
nobody asks for may hold a number no machine format can represent, or a string whose escapes name
half of a surrogate pair, and the document is accepted all the same. Only when such a value is used
does it fail.
-/

namespace Diorama

/-! ## Values -/

/-- A number as it is written: digits are kept, most significant first. -/
structure JsonNumber where
  negative : Bool
  whole : List Nat
  fraction : Option (List Nat)
  /-- Whether the exponent is negative, and its digits. -/
  exponent : Option (Bool × List Nat)
  deriving DecidableEq, Repr

/-- A JSON value. A string, or the key of a member, has no text when its escapes name a surrogate
that is not one of a pair. Members keep the order and the repetitions of the document. -/
inductive Json where
  | null
  | bool (value : Bool)
  | number (value : JsonNumber)
  | string (text : Option String)
  | array (items : List Json)
  | object (members : List (Option String × Json))
  deriving Inhabited

namespace JsonNumber

/-- The number that decimal digits spell, most significant first. -/
def natOfDigits (digits : List Nat) : Nat :=
  digits.foldl (fun value digit => value * 10 + digit) 0

def digitsOfNat (n : Nat) : List Nat :=
  (Nat.toDigits 10 n).map fun digit => digit.toNat - '0'.toNat

def ofNat (n : Nat) : JsonNumber :=
  ⟨false, digitsOfNat n, none, none⟩

def ofInt (n : Int) : JsonNumber :=
  ⟨n < 0, digitsOfNat n.natAbs, none, none⟩

end JsonNumber

namespace Json

def text (value : String) : Json :=
  .string (some value)

def nat (n : Nat) : Json :=
  .number (.ofNat n)

def record (members : List (String × Json)) : Json :=
  .object (members.map fun member => (some member.1, member.2))

/-- The value, or `null` where there is none. -/
def orNull (value : Option Json) : Json :=
  value.getD .null

end Json

end Diorama

namespace Diorama.Json

/-! ## JSON documents as text

A value is written compactly, or with one item a line and two blanks for each level of nesting; an
empty array or object stays on its line either way. In strings only the quote, the backslash and the
control characters below U+0020 are escaped, those with a letter of their own by that letter. -/

def hexDigit (n : Nat) : Char :=
  if n < 10 then Char.ofNat ('0'.toNat + n) else Char.ofNat ('a'.toNat + (n - 10))

def escapeChar (char : Char) : List Char :=
  if char == '"' then ['\\', '"']
  else if char == '\\' then ['\\', '\\']
  else if 0x20 ≤ char.toNat then [char]
  else
    match char with
    | '\x08' => ['\\', 'b']
    | '\x0c' => ['\\', 'f']
    | '\n' => ['\\', 'n']
    | '\r' => ['\\', 'r']
    | '\t' => ['\\', 't']
    | char => ['\\', 'u', '0', '0', hexDigit (char.toNat / 16), hexDigit (char.toNat % 16)]

def quote (text : String) : List Char :=
  '"' :: text.toList.flatMap escapeChar ++ ['"']

def digitChars (digits : List Nat) : List Char :=
  digits.map hexDigit

def numberText (number : JsonNumber) : List Char :=
  let sign := if number.negative then ['-'] else []
  let fraction :=
    match number.fraction with
    | some digits => '.' :: digitChars digits
    | none => []
  let exponent :=
    match number.exponent with
    | some (true, digits) => 'e' :: '-' :: digitChars digits
    | some (false, digits) => 'e' :: digitChars digits
    | none => []
  sign ++ digitChars number.whole ++ fraction ++ exponent

/-- Where lines break and what separates a key from its value. -/
structure Layout where
  line : Nat → List Char
  colon : List Char

def Layout.compact : Layout :=
  ⟨fun _ => [], [':']⟩

/-- A line for each item, two blanks for each level. -/
def Layout.pretty : Layout :=
  ⟨fun depth => '\n' :: List.replicate (2 * depth) ' ', [':', ' ']⟩

mutual

/-- A value at some depth. A string without text is written as an empty one. -/
def write (layout : Layout) (depth : Nat) : Json → List Char
  | .null => ['n', 'u', 'l', 'l']
  | .bool true => ['t', 'r', 'u', 'e']
  | .bool false => ['f', 'a', 'l', 's', 'e']
  | .number value => numberText value
  | .string text => quote (text.getD "")
  | .array [] => ['[', ']']
  | .array (item :: rest) =>
    '[' :: (layout.line (depth + 1) ++ write layout (depth + 1) item
      ++ writeItems layout (depth + 1) rest ++ layout.line depth ++ [']'])
  | .object [] => ['\x7b', '\x7d']
  | .object (member :: rest) =>
    '\x7b' :: (layout.line (depth + 1) ++ writeMember layout (depth + 1) member
      ++ writeMembers layout (depth + 1) rest ++ layout.line depth ++ ['\x7d'])

/-- The items after the first, each behind a comma. -/
def writeItems (layout : Layout) (depth : Nat) : List Json → List Char
  | [] => []
  | item :: rest =>
    ',' :: (layout.line depth ++ write layout depth item ++ writeItems layout depth rest)

def writeMember (layout : Layout) (depth : Nat) : Option String × Json → List Char
  | (key, value) => quote (key.getD "") ++ layout.colon ++ write layout depth value

/-- The members after the first, each behind a comma. -/
def writeMembers (layout : Layout) (depth : Nat) : List (Option String × Json) → List Char
  | [] => []
  | member :: rest =>
    ',' :: (layout.line depth ++ writeMember layout depth member ++ writeMembers layout depth rest)

end

def compact (value : Json) : String :=
  String.ofList (write .compact 0 value)

def pretty (value : Json) : String :=
  String.ofList (write .pretty 0 value)

end Diorama.Json
