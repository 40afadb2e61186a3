import Diorama.Json.Parser
import Diorama.Json.Value
import Diorama.SortedMap

/-!
# Using a JSON value

A decoder turns a value into data of the domain, or fails; no decoder says why, because a document
that cannot be used is reported as a whole.

What is used is held to more than what is skipped. A used value nests at most 127 levels deep, its
strings have texts, its numbers are in range. A field that a record does not know is skipped, however
deep and whatever its strings and numbers.

Some values are *collected* before they are used: a command is, because the key that says what kind
of command it is may come last, and so is a card of a manifest. In a collected value nothing is
skipped, so even the fields nobody knows must be usable.

A record is an object whose members may come in any order, or an array of its fields in the order of
their declaration, whose tail may be missing as far as its fields have defaults. A known member given
twice is refused.
-/

namespace Diorama

/-! ## The machine number that a written number stands for

A whole number that fits 64 bits is that number, signed if a minus stands before it; minus zero, and
every number with a fraction or an exponent, is a double, and so is a whole number too large for 64
bits.

The double is found by one rule, fast and not always the nearest: digits are gathered in an unsigned
64-bit word for as long as they fit. From the first digit that does not, further digits of the whole
part only raise the exponent, and further digits of the fraction are ignored. The word is then
rounded to a double and multiplied or divided by a power of ten that is itself a double. A number too
large for a double is no number at all; one too small is zero. -/

/-- A machine number. -/
inductive Numeric where
  /-- A whole number from zero on that fits 64 bits. -/
  | natural (value : UInt64)
  /-- A whole number below zero that fits 64 bits. -/
  | negative (value : Int64)
  | float (value : Float)

namespace Numeric

def maxSignificand : Nat := UInt64.size - 1

/-- Gathers digits onto `significand` while they fit: the significand, and the digits left over. -/
def gather (significand : Nat) : List Nat → Nat × List Nat
  | [] => (significand, [])
  | digit :: rest =>
    let next := significand * 10 + digit
    if next ≤ maxSignificand then gather next rest else (significand, digit :: rest)

/-- The greatest power of ten in the table. -/
def maxPower : Nat := 308

def powerOfTen (exponent : Nat) : Float :=
  Float.ofScientific 1 false exponent

/-- Divides by `10 ^ exponent`, in steps of the greatest power of the table, until the power is in
the table or nothing is left. -/
def scaleDown (value : Float) (exponent : Nat) : Float :=
  if exponent ≤ maxPower then value / powerOfTen exponent
  else if value == 0 then value
  else scaleDown (value / powerOfTen maxPower) (exponent - maxPower)
termination_by exponent
decreasing_by simp_all only [maxPower]; omega

/-- The double for `significand * 10 ^ exponent`, unless it is too large. -/
def scale? (significand : Nat) (exponent : Int) : Option Float :=
  let value := significand.toUInt64.toFloat
  if exponent < 0 then some (scaleDown value (-exponent).toNat)
  else if exponent.toNat ≤ maxPower then
    let value := value * powerOfTen exponent.toNat
    if value.isInf then none else some value
  else if value == 0 then some value
  else none

def maxExponent : Int := Int32.maxValue.toInt

def saturate (exponent : Int) : Int :=
  max Int32.minValue.toInt (min maxExponent exponent)

/-- The double for a significand with an exponent already made from its digits, and the exponent that
is written. A written exponent out of range is an overflow, or nothing is left of the number. -/
def withExponent? (significand : Nat) (exponent : Int) :
    Option (Bool × List Nat) → Option Float
  | none => scale? significand exponent
  | some (below, digits) =>
    let written : Int := JsonNumber.natOfDigits digits
    if maxExponent < written then
      if significand != 0 && !below then none else some 0
    else
      scale? significand (saturate (if below then exponent - written else exponent + written))

/-- The size of a number as a double. -/
def magnitude? (number : JsonNumber) : Option Float :=
  let (significand, excess) := gather 0 number.whole
  let fraction := number.fraction.getD []
  let (significand, ignored) := gather significand fraction
  let exponent : Int := excess.length - (fraction.length - ignored.length : Nat)
  withExponent? significand exponent number.exponent

/-- The machine number that a written number stands for, if there is one. -/
def ofNumber? (number : JsonNumber) : Option Numeric :=
  let size := JsonNumber.natOfDigits number.whole
  if number.fraction.isNone && number.exponent.isNone && size ≤ maxSignificand then
    if !number.negative then some (.natural size.toUInt64)
    else if size == 0 || -(size : Int) < Int64.minValue.toInt then some (.float (-size.toUInt64.toFloat))
    else some (.negative (Int64.ofInt (-(size : Int))))
  else (magnitude? number).map fun value => .float (if number.negative then -value else value)

/-- The whole number, unless it is a double. -/
def toInt? : Numeric → Option Int
  | .natural value => some value.toNat
  | .negative value => some value.toInt
  | .float _ => none

def toFloat : Numeric → Float
  | .natural value => value.toFloat
  | .negative value => value.toFloat
  | .float value => value

/-- The number as a single. A whole number is rounded once, from its exact value. -/
def toFloat32 : Numeric → Float32
  | .natural value => value.toFloat32
  | .negative value => value.toFloat32
  | .float value => value.toFloat32

end Numeric

end Diorama

namespace Diorama.Json

/-! ## Decoders -/

/-- How many levels a used value may nest. -/
def maxDepth : Nat := 127

/-- The circumstances in which a value is used. -/
structure Reading where
  /-- How many more levels the value may nest. -/
  room : Nat := maxDepth
  /-- Whether the value was collected before. -/
  collected : Bool := false

/-- A decoder of values of some type. -/
abbrev Decoder (α : Type) := Reading → Json → Option α

def Reading.enter? (reading : Reading) : Option Reading :=
  match reading.room with
  | 0 => none
  | room + 1 => some { reading with room }

/-- Whether everything in a value can be used, with `room` levels left. -/
def usable (room : Nat) (value : Json) : Bool :=
  match value, room with
  | .null, _ => true
  | .bool _, _ => true
  | .number written, _ => (Numeric.ofNumber? written).isSome
  | .string text, _ => text.isSome
  | .array _, 0 => false
  | .array items, room + 1 => items.all (usable room)
  | .object _, 0 => false
  | .object members, room + 1 =>
    members.all fun member => member.1.isSome && usable room member.2

namespace Decoder

variable {α : Type}

def bool : Decoder Bool := fun _ value =>
  match value with
  | .bool value => some value
  | _ => none

def text : Decoder String := fun _ value =>
  match value with
  | .string text => text
  | _ => none

def int (low high : Int) : Decoder Int := fun _ value =>
  match value with
  | .number written => do
    let n ← (← Numeric.ofNumber? written).toInt?
    if low ≤ n && n ≤ high then some n else none
  | _ => none

def word : Decoder UInt16 := fun reading value =>
  (int 0 65535 reading value).map fun n => n.toNat.toUInt16

def signed : Decoder Int16 := fun reading value =>
  (int (-32768) 32767 reading value).map Int16.ofInt

def long : Decoder UInt64 := fun reading value =>
  (int 0 (UInt64.size - 1) reading value).map fun n => n.toNat.toUInt64

def single : Decoder Float32 := fun _ value =>
  match value with
  | .number written => (Numeric.ofNumber? written).map Numeric.toFloat32
  | _ => none

/-- A value, or nothing where `null` stands. -/
def nullable (decoder : Decoder α) : Decoder (Option α) := fun reading value =>
  match value with
  | .null => some none
  | value => (decoder reading value).map some

def array (decoder : Decoder α) : Decoder (List α) := fun reading value => do
  let reading ← reading.enter?
  match value with
  | .array items => items.mapM (decoder reading)
  | _ => none

/-- An object of values under arbitrary keys. Of a repeated key the last value counts, but each of
its values must be usable. -/
def map (decoder : Decoder α) : Decoder (SortedMap String α) := fun reading value => do
  let reading ← reading.enter?
  match value with
  | .object members =>
    let entries ← members.mapM fun member => do
      return (← member.1, ← decoder reading member.2)
    return .ofList entries
  | _ => none

end Decoder

/-! ### Records -/

/-- The known fields that a record gives, and the circumstances of their use. -/
structure Fields where
  reading : Reading
  given : List (String × Json)

/-- The known fields among members, each at most once. Every key must have a text. -/
def Fields.pick? (known : List String) (members : List (Option String × Json)) :
    Option (List (String × Json)) := do
  let named ← members.mapM fun member => do
    return (← member.1, member.2)
  let given := named.filter fun member => known.contains member.1
  if (given.map (·.1)).Nodup then some given else none

/-- The fields of a record in either of its forms. -/
def Fields.of? (known : List String) (reading : Reading) (value : Json) : Option Fields := do
  let reading ← reading.enter?
  match value with
  | .object members => return { reading, given := ← Fields.pick? known members }
  | .array items =>
    if items.length ≤ known.length then return { reading, given := known.zip items } else none
  | _ => none

/-- The value of a field, or `default` where it is not given. -/
def Fields.optional {α : Type} (fields : Fields) (name : String) (default : α)
    (decoder : Decoder α) : Option α :=
  match fields.given.lookup name with
  | some value => decoder fields.reading value
  | none => some default

/-- The value of a field that must be given. -/
def Fields.required {α : Type} (fields : Fields) (name : String) (decoder : Decoder α) : Option α :=
  match fields.given.lookup name with
  | some value => decoder fields.reading value
  | none => none

/-- Reads a document and uses all of it. -/
def decodeText? {α : Type} (decoder : Decoder α) (document : String) : Option α := do
  decoder {} (← parse? document)

end Diorama.Json
