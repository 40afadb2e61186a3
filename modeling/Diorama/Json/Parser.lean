import Diorama.Json.Value

/-!
# Reading JSON documents

A document is cut into tokens, and the tokens are put together into one value. Both are folds, so a long
document costs no stack.
-/

/-! ## The words of a JSON document

A document is cut into tokens one character at a time. The scanner is a machine whose state is the
token it is inside of, so that scanning is a fold over the characters and a long document costs no
stack. No token can run into the next: two values that stand together without punctuation between
them are two tokens, which no document has side by side.

Inside a string every escape of four hexadecimal digits is allowed. Whether the surrogates among them
form pairs decides only if the string has a text. -/

namespace Diorama.Json

/-- A word of a document. -/
inductive Token where
  | openArray
  | closeArray
  | openObject
  | closeObject
  | comma
  | colon
  | null
  | bool (value : Bool)
  | number (value : JsonNumber)
  | string (text : Option String)
  deriving DecidableEq, Repr

end Json

/-! ### Numbers -/

namespace JsonNumber

def digitValue (char : Char) : Nat :=
  char.toNat - '0'.toNat

/-- The digits at the front, and the rest. -/
def spanDigits (text : List Char) : List Nat × List Char :=
  ((text.takeWhile Char.isDigit).map digitValue, text.dropWhile Char.isDigit)

def readExponent? : List Char → Option (Option (Bool × List Nat))
  | [] => some none
  | mark :: rest =>
    if mark == 'e' || mark == 'E' then
      let (negative, rest) :=
        match rest with
        | '-' :: rest => (true, rest)
        | '+' :: rest => (false, rest)
        | rest => (false, rest)
      let (digits, rest) := spanDigits rest
      if digits.isEmpty || !rest.isEmpty then none else some (some (negative, digits))
    else none

def readFraction? : List Char → Option (Option (List Nat) × List Char)
  | '.' :: rest =>
    let (digits, rest) := spanDigits rest
    if digits.isEmpty then none else some (some digits, rest)
  | rest => some (none, rest)

/-- The number that a text spells: at least one digit, no leading zero, a point only before a digit,
an exponent only with digits. -/
def ofText? (text : List Char) : Option JsonNumber := do
  let (negative, text) :=
    match text with
    | '-' :: rest => (true, rest)
    | text => (false, text)
  let (whole, rest) := spanDigits text
  if whole.isEmpty || (whole.head? == some 0 && whole.length != 1) then none
  else
    let (fraction, rest) ← readFraction? rest
    let exponent ← readExponent? rest
    return { negative, whole, fraction, exponent }

def isNumeric (char : Char) : Bool :=
  char.isDigit || char == '-' || char == '+' || char == '.' || char == 'e' || char == 'E'

end JsonNumber

namespace Json

/-! ### Strings -/

/-- A string that is being read: its characters, last first, a high surrogate that waits for its
partner, and whether all surrogates so far had one. -/
structure Spelling where
  read : List Char := []
  high : Option Nat := none
  paired : Bool := true
  deriving DecidableEq, Repr

def Spelling.push (spelling : Spelling) (char : Char) : Spelling :=
  { read := char :: spelling.read, high := none,
    paired := spelling.paired && spelling.high.isNone }

/-- Reads an escaped code unit: a character, or half of one. -/
def Spelling.pushUnit (spelling : Spelling) (unit : Nat) : Spelling :=
  if 0xD800 ≤ unit && unit < 0xDC00 then
    { spelling with high := some unit, paired := spelling.paired && spelling.high.isNone }
  else if 0xDC00 ≤ unit && unit < 0xE000 then
    match spelling.high with
    | some high =>
      { spelling with
        read := Char.ofNat (0x10000 + (high - 0xD800) * 0x400 + (unit - 0xDC00)) :: spelling.read
        high := none }
    | none => { spelling with paired := false }
  else spelling.push (Char.ofNat unit)

/-- The text read, if every surrogate had its partner. -/
def Spelling.text? (spelling : Spelling) : Option String :=
  if spelling.paired && spelling.high.isNone then some (String.ofList spelling.read.reverse)
  else none

/-- The character that a one-letter escape stands for. -/
def unescape? : Char → Option Char
  | '"' => some '"'
  | '\\' => some '\\'
  | '/' => some '/'
  | 'b' => some '\x08'
  | 'f' => some '\x0c'
  | 'n' => some '\n'
  | 'r' => some '\r'
  | 't' => some '\t'
  | _ => none

/-- The value of a hexadecimal digit of either case. -/
def hexValue? (char : Char) : Option Nat :=
  if char.isDigit then some (char.toNat - '0'.toNat)
  else if 'a' ≤ char && char ≤ 'f' then some (char.toNat - 'a'.toNat + 10)
  else if 'A' ≤ char && char ≤ 'F' then some (char.toNat - 'A'.toNat + 10)
  else none

/-! ### The scanner -/

/-- What the scanner is inside of. -/
inductive Mode where
  | between
  /-- Inside `null`, `true` or `false`, with the letters still to come. -/
  | word (left : List Char) (token : Token)
  /-- Inside a number, its characters last first. -/
  | number (read : List Char)
  | string (spelling : Spelling)
  | escape (spelling : Spelling)
  /-- Inside an escape of four hexadecimal digits, with the digits still to come and those read. -/
  | unit (spelling : Spelling) (left value : Nat)
  deriving DecidableEq, Repr

/-- The scanner between two characters: its mode, and the tokens before it, last first. -/
structure Scanner where
  mode : Mode := .between
  tokens : List Token := []
  deriving DecidableEq, Repr

def isSpace (char : Char) : Bool :=
  char == ' ' || char == '\t' || char == '\n' || char == '\r'

def scanBetween (tokens : List Token) (char : Char) : Option Scanner :=
  if isSpace char then some { tokens }
  else if char.isDigit || char == '-' then some { mode := .number [char], tokens }
  else
    match char with
    | '[' => some { tokens := .openArray :: tokens }
    | ']' => some { tokens := .closeArray :: tokens }
    | '\x7b' => some { tokens := .openObject :: tokens }
    | '\x7d' => some { tokens := .closeObject :: tokens }
    | ',' => some { tokens := .comma :: tokens }
    | ':' => some { tokens := .colon :: tokens }
    | '"' => some { mode := .string {}, tokens }
    | 'n' => some { mode := .word ['u', 'l', 'l'] .null, tokens }
    | 't' => some { mode := .word ['r', 'u', 'e'] (.bool true), tokens }
    | 'f' => some { mode := .word ['a', 'l', 's', 'e'] (.bool false), tokens }
    | _ => none

/-- Reads one character. A control character inside a string is refused. -/
def Scanner.step (scanner : Scanner) (char : Char) : Option Scanner :=
  match scanner.mode with
  | .between => scanBetween scanner.tokens char
  | .word [last] token =>
    if char == last then some { tokens := token :: scanner.tokens } else none
  | .word left token =>
    if left.head? == some char then some { scanner with mode := .word left.tail token } else none
  | .number read =>
    if JsonNumber.isNumeric char then some { scanner with mode := .number (char :: read) }
    else do
      let number ← JsonNumber.ofText? read.reverse
      scanBetween (.number number :: scanner.tokens) char
  | .string spelling =>
    if char == '"' then some { tokens := .string spelling.text? :: scanner.tokens }
    else if char == '\\' then some { scanner with mode := .escape spelling }
    else if char.toNat < 0x20 then none
    else some { scanner with mode := .string (spelling.push char) }
  | .escape spelling =>
    if char == 'u' then some { scanner with mode := .unit spelling 4 0 }
    else do
      let char ← unescape? char
      return { scanner with mode := .string (spelling.push char) }
  | .unit spelling left value => do
    let digit ← hexValue? char
    let value := value * 16 + digit
    if left ≤ 1 then return { scanner with mode := .string (spelling.pushUnit value) }
    else return { scanner with mode := .unit spelling (left - 1) value }

/-- The tokens of a document that ends here. -/
def Scanner.finish? (scanner : Scanner) : Option (List Token) :=
  match scanner.mode with
  | .between => some scanner.tokens.reverse
  | .number read => do
    let number ← JsonNumber.ofText? read.reverse
    return (.number number :: scanner.tokens).reverse
  | _ => none

def Token.scan? (document : List Char) : Option (List Token) := do
  let scanner ← document.foldlM Scanner.step {}
  scanner.finish?

end Json

end Diorama

namespace Diorama.Json

/-! ## From words to a JSON value

The grammar is read by a machine with a stack of its own: the arrays and objects that are open, the
innermost first, and what may come next. Nesting is therefore bounded by nothing but the document,
and parsing is a fold over the tokens. -/

/-- An array or object that is not closed yet, its contents last first. -/
inductive Frame where
  | array (items : List Json)
  | object (members : List (Option String × Json))
  /-- An object whose member under `key` is being read. -/
  | member (members : List (Option String × Json)) (key : Option String)

/-- What may come next. -/
inductive Place where
  /-- A value. -/
  | value
  /-- The first item of an array, or its end. -/
  | firstItem
  /-- The first key of an object, or its end. -/
  | firstKey
  /-- A key. -/
  | key
  /-- The colon after a key. -/
  | colon (key : Option String)
  /-- Whatever follows a complete value. -/
  | after (value : Json)

/-- The parser between two tokens. -/
structure Parser where
  frames : List Frame := []
  place : Place := .value

/-- Takes the first token of a value. -/
def Parser.begin? (frames : List Frame) : Token → Option Parser
  | .null => some ⟨frames, .after .null⟩
  | .bool value => some ⟨frames, .after (.bool value)⟩
  | .number value => some ⟨frames, .after (.number value)⟩
  | .string text => some ⟨frames, .after (.string text)⟩
  | .openArray => some ⟨.array [] :: frames, .firstItem⟩
  | .openObject => some ⟨.object [] :: frames, .firstKey⟩
  | _ => none

def Parser.step (parser : Parser) (token : Token) : Option Parser :=
  match parser.place, token, parser.frames with
  | .value, token, frames => Parser.begin? frames token
  | .firstItem, .closeArray, .array _ :: frames => some ⟨frames, .after (.array [])⟩
  | .firstItem, token, frames => Parser.begin? frames token
  | .firstKey, .closeObject, .object _ :: frames => some ⟨frames, .after (.object [])⟩
  | .firstKey, .string key, frames => some ⟨frames, .colon key⟩
  | .key, .string key, frames => some ⟨frames, .colon key⟩
  | .colon key, .colon, .object members :: frames => some ⟨.member members key :: frames, .value⟩
  | .after value, .comma, .array items :: frames => some ⟨.array (value :: items) :: frames, .value⟩
  | .after value, .closeArray, .array items :: frames =>
    some ⟨frames, .after (.array (value :: items).reverse)⟩
  | .after value, .comma, .member members key :: frames =>
    some ⟨.object ((key, value) :: members) :: frames, .key⟩
  | .after value, .closeObject, .member members key :: frames =>
    some ⟨frames, .after (.object ((key, value) :: members).reverse)⟩
  | _, _, _ => none

/-- The value of a document that ends here. -/
def Parser.finish? : Parser → Option Json
  | ⟨[], .after value⟩ => some value
  | _ => none

/-- The value whose tokens these are. -/
def ofTokens? (tokens : List Token) : Option Json := do
  let parser ← tokens.foldlM Parser.step {}
  parser.finish?

def parse? (document : String) : Option Json := do
  ofTokens? (← Token.scan? document.toList)

end Diorama.Json
