import Diorama.Bytes
import Diorama.Text.Characters

/-!
# Octets and characters as digits

Octets are written as text two hexadecimal digits an octet, and a character that leaves no mark of its
own is shown in a message by its hexadecimal number.
-/

namespace Diorama.Hex

/-! ## Octets

Of the two digits of an octet the more significant one comes first. Digits above nine are small letters,
and no others are read. -/

def digit (n : Nat) : Char :=
  Nat.digitChar n

def value? (digit : Char) : Option Nat :=
  if digit.isDigit then some (digit.toNat - '0'.toNat)
  else if 'a' ≤ digit && digit ≤ 'f' then some (digit.toNat - 'a'.toNat + 10)
  else none

def ofBytes (bytes : Bytes) : String :=
  bytes.foldl (fun text octet => (text.push (digit (octet.toNat / 16))).push (digit (octet.toNat % 16))) ""

/-- Reads octets onto `read`, which holds those already read, last first. -/
def readOnto? (read : Bytes) : List Char → Option Bytes
  | [] => some read.reverse
  | high :: low :: rest => do
    readOnto? ((16 * (← value? high) + (← value? low)).toUInt8 :: read) rest
  | [_] => none

/-- The octets that a text spells, if it spells any. -/
def bytes? (text : String) : Option Bytes :=
  readOnto? [] text.toList

/-- The text of a number with so many digits at least. -/
def ofNat (digits n : Nat) : String :=
  let text := String.ofList (Nat.toDigits 16 n)
  "".pushn '0' (digits - text.length) ++ text

end Diorama.Hex

namespace Diorama.Text

/-! ## Text in quotes for the reader of a message

A key that is shown in a description stands in quotes. The quote and the backslash are escaped, as are
tab, line feed, carriage return and the null character by their letters. Every other character that
leaves no mark of its own is shown by its number: one that prints nothing, unless it is the space, a mark
that is drawn on the character before it, and a letter that only fills a place. -/

/-- The letters that stand for nothing: fillers for a missing part of a Korean syllable. -/
def fillers : List Char :=
  ['\u115F', '\u1160', '\u3164', '\uFFA0']

/-- Whether a character leaves no mark of its own. -/
def isUnmarked (char : Char) : Bool :=
  char != ' ' && (isUnprintable char || isExtending char || fillers.contains char)

/-- The hexadecimal digits of a number, in lower case. -/
def hexDigits (n : Nat) : List Char :=
  Nat.toDigits 16 n

def quoteChar (char : Char) : List Char :=
  match char with
  | '"' => ['\\', '"']
  | '\\' => ['\\', '\\']
  | '\t' => ['\\', 't']
  | '\n' => ['\\', 'n']
  | '\r' => ['\\', 'r']
  | '\x00' => ['\\', '0']
  | char =>
    if isUnmarked char then ['\\', 'u', '\x7b'] ++ hexDigits char.toNat ++ ['\x7d'] else [char]

def quoted (text : String) : String :=
  String.ofList ('"' :: text.toList.flatMap quoteChar ++ ['"'])

end Diorama.Text
