/-!
# Byte strings, their words and their texts

Every stored form of this library is a list of octets. This module says how words lie in one, and how
octets are read as text.
-/

namespace Diorama

/-! ## Words

Card records and name tables hold 16-bit words most significant octet first; the archive's header and
entry table hold 32-bit words least significant octet first. A truth value is stored as a word, and a
signed word in two's complement. Each writer gives as many octets as its word has, whatever the word is. -/

/-- A stored form: octets in the order they lie in the file. -/
abbrev Bytes := List UInt8

namespace Bytes

/-- The two octets of a word, most significant first. -/
def ofWord (word : UInt16) : Bytes :=
  [(word >>> 8).toUInt8, word.toUInt8]

/-- The word whose most significant octet is `high`. -/
def toWord (high low : UInt8) : UInt16 :=
  (high.toUInt16 <<< 8) ||| low.toUInt16

/-- The two octets of a signed word, in two's complement, most significant first. -/
def ofSigned (word : Int16) : Bytes :=
  ofWord word.toUInt16

/-- The four octets of a long word, least significant first. -/
def ofLong (word : UInt32) : Bytes :=
  [word.toUInt8, (word >>> 8).toUInt8, (word >>> 16).toUInt8, (word >>> 24).toUInt8]

/-- The long word whose least significant octet is `a`. -/
def toLong (a b c d : UInt8) : UInt32 :=
  a.toUInt32 ||| (b.toUInt32 <<< 8) ||| (c.toUInt32 <<< 16) ||| (d.toUInt32 <<< 24)

/-- A truth value is stored as the word 1 or 0. -/
def ofFlag (flag : Bool) : Bytes :=
  ofWord (if flag then 1 else 0)

end Bytes

end Diorama

namespace Diorama.Utf8

/-! ## UTF-8, read with and without forgiveness

Names inside records and archives are octets that ought to be UTF-8. They are read *lossily*: every
maximal run of octets that begins a character but cannot finish one, and every octet that begins
none, turns into a single U+FFFD. Text files, on the other hand, are read *strictly*: one stray octet
refuses the whole file.

Both readings share one step, `Utf8.next`. Strict reading asks that writing the lossy reading gives
the octets back: a replacement character that was not in the file is three octets which the file
does not have at that place, so the comparison fails exactly when something was replaced. -/

def isTail (octet : UInt8) : Bool :=
  0x80 ≤ octet && octet ≤ 0xBF

/-- The character that stands for octets which spell none. -/
def replacement : Char := '\uFFFD'

/-- The payload of a tail octet: its low six bits. -/
def payload (octet : UInt8) : Nat :=
  octet.toNat % 64

/-- The octets that may follow the lead octet of a three-octet character: no overlong form and no
surrogate. -/
def fitsThree (lead second : UInt8) : Bool :=
  if lead == 0xE0 then 0xA0 ≤ second && second ≤ 0xBF
  else if lead == 0xED then 0x80 ≤ second && second ≤ 0x9F
  else isTail second

/-- The octets that may follow the lead octet of a four-octet character: no overlong form and
nothing above U+10FFFF. -/
def fitsFour (lead second : UInt8) : Bool :=
  if lead == 0xF0 then 0x90 ≤ second && second ≤ 0xBF
  else if lead == 0xF4 then 0x80 ≤ second && second ≤ 0x8F
  else isTail second

/-- Reads one character that starts with `lead`: the character, or the replacement for the longest
beginning of one, and how many octets of `rest` belong to it. -/
def next (lead : UInt8) (rest : Bytes) : Char × Nat :=
  if lead < 0x80 then (Char.ofNat lead.toNat, 0)
  else if 0xC2 ≤ lead && lead ≤ 0xDF then
    match rest with
    | second :: _ =>
      if isTail second then (Char.ofNat (lead.toNat % 32 * 64 + payload second), 1)
      else (replacement, 0)
    | [] => (replacement, 0)
  else if 0xE0 ≤ lead && lead ≤ 0xEF then
    match rest with
    | second :: third :: _ =>
      if fitsThree lead second then
        if isTail third then
          (Char.ofNat ((lead.toNat % 16 * 64 + payload second) * 64 + payload third), 2)
        else (replacement, 1)
      else (replacement, 0)
    | [second] => if fitsThree lead second then (replacement, 1) else (replacement, 0)
    | [] => (replacement, 0)
  else if 0xF0 ≤ lead && lead ≤ 0xF4 then
    match rest with
    | second :: third :: fourth :: _ =>
      if fitsFour lead second then
        if isTail third then
          if isTail fourth then
            (Char.ofNat (((lead.toNat % 8 * 64 + payload second) * 64 + payload third) * 64
              + payload fourth), 3)
          else (replacement, 2)
        else (replacement, 1)
      else (replacement, 0)
    | [second, third] =>
      if fitsFour lead second then
        if isTail third then (replacement, 2) else (replacement, 1)
      else (replacement, 0)
    | [second] => if fitsFour lead second then (replacement, 1) else (replacement, 0)
    | [] => (replacement, 0)
  else (replacement, 0)

/-- Reads characters onto `read`, which holds those already read, last first. -/
def readOnto (read : List Char) : Bytes → List Char
  | [] => read.reverse
  | lead :: rest =>
    let (char, used) := next lead rest
    readOnto (char :: read) (rest.drop used)
termination_by bytes => bytes.length
decreasing_by simp only [List.length_drop, List.length_cons]; omega

/-- Lossy reading: each maximal run of octets that spells no character is one U+FFFD. -/
def lossy (bytes : Bytes) : String :=
  String.ofList (readOnto [] bytes)

def encode (text : String) : Bytes :=
  text.toList.flatMap String.utf8EncodeChar

/-- Strict reading: the text whose octets these are, if there is one. -/
def text? (bytes : Bytes) : Option String :=
  let text := lossy bytes
  if encode text == bytes then some text else none

end Diorama.Utf8
