/-!
# Binary numbers in decimal

How numbers of the machine are written out and read: a double with the shortest digits that read back, a
single with two places, and the single nearest to what an argument says. Everything is exact arithmetic on
whole numbers.
-/

namespace Diorama.Decimal

/-! ## Floating-point numbers as exact fractions

A finite binary number is a whole mantissa times a power of two. Everything that prints such numbers
works on that pair in exact integer arithmetic; the bit pattern is read once, here, for both widths
the library uses. -/

/-- A number of some binary format, taken apart. -/
inductive Dyadic where
  | nan
  | infinite (negative : Bool)
  /-- The number `mantissa * 2 ^ exponent`, with its sign; zero keeps a sign too. -/
  | finite (negative : Bool) (mantissa : Nat) (exponent : Int)
  deriving DecidableEq, Repr

/-- Takes a bit pattern apart: `fraction` low bits of fraction, then `width` bits of exponent, then
the sign. -/
def Dyadic.ofBits (fraction width bits : Nat) : Dyadic :=
  let low := bits % .pow 2 fraction
  let high := bits / .pow 2 fraction % .pow 2 width
  let negative := bits / .pow 2 (fraction + width) % 2 == 1
  let least : Int := 2 - Nat.pow 2 (width - 1) - fraction
  if high + 1 = .pow 2 width then
    if low = 0 then .infinite negative else .nan
  else if high = 0 then .finite negative low least
  else .finite negative (low + .pow 2 fraction) (least + high - 1)

def Dyadic.ofFloat (x : Float) : Dyadic :=
  ofBits 52 11 x.toBits.toNat

def Dyadic.ofFloat32 (x : Float32) : Dyadic :=
  ofBits 23 8 x.toBits.toNat

/-- The sign in front of a printed number. -/
def signText (negative : Bool) : String :=
  if negative then "-" else ""

/-! ## Two places after the point

Shares of a cross-fade are shown with two places. The exact value of the single is rounded, and a
tie goes to the even neighbour. -/

/-- The whole number nearest to `numerator / denominator`, the even one on a tie. -/
def roundRatio (numerator denominator : Nat) : Nat :=
  let floor := numerator / denominator
  let twice := 2 * (numerator % denominator)
  if denominator < twice || (twice == denominator && floor % 2 == 1) then floor + 1 else floor

def hundredthsText (hundredths : Nat) : String :=
  let cents := hundredths % 100
  s!"{hundredths / 100}." ++ (if cents < 10 then s!"0{cents}" else s!"{cents}")

/-- The text of a single with two places. -/
def twoPlaces (x : Float32) : String :=
  match Dyadic.ofFloat32 x with
  | .nan => "NaN"
  | .infinite negative => signText negative ++ "inf"
  | .finite negative mantissa exponent =>
    let hundredths :=
      roundRatio (100 * mantissa * .pow 2 exponent.toNat) (.pow 2 (-exponent).toNat)
    signText negative ++ hundredthsText hundredths

/-! ## The shortest decimal that reads back

A double is printed with the fewest significant digits that still lie nearer to it than to any other
double; of two such decimals the nearer one is taken, and of two equally near the one farther from
zero. The digits are found on decimal grids, the coarsest first: if any multiple of `10 ^ k` lies in the
interval that rounds to the number, one of the two multiples beside the number does, and the first grid
on which one of them does gives the fewest digits.

The number is written out positionally, whatever its size: never an exponent, and no point in a whole
number. -/

/-- A non-negative fraction. -/
structure Ratio where
  numerator : Nat
  denominator : Nat
  deriving DecidableEq, Repr

/-- The power `base ^ exponent` as a fraction. -/
def Ratio.power (base : Nat) (exponent : Int) : Ratio :=
  ⟨.pow base exponent.toNat, .pow base (-exponent).toNat⟩

/-- The decimals `count * 10 ^ scale`. -/
structure Scaled where
  count : Nat
  scale : Int
  deriving DecidableEq, Repr

/-- The interval of numbers that round to a double, in quarters of its last place: from `low` to
`high` around `value`, ends included when `closed`. One unit is `unit`. -/
structure Interval where
  low : Nat
  value : Nat
  high : Nat
  closed : Bool
  unit : Ratio
  deriving DecidableEq, Repr

/-- The interval around `mantissa * 2 ^ exponent`. Below a power of two the neighbour is only half as
far, unless the exponent is already the least. -/
def Interval.around (mantissa : Nat) (exponent : Int) : Interval :=
  let half := mantissa == Nat.pow 2 52 && exponent != -1074
  { low := 4 * mantissa - (if half then 1 else 2), value := 4 * mantissa, high := 4 * mantissa + 2,
    closed := mantissa % 2 == 0, unit := .power 2 (exponent - 2) }

/-- Whether `count` steps of the grid `step` lie in the interval. -/
def Interval.covers (interval : Interval) (step : Ratio) (count : Nat) : Bool :=
  let place := count * step.numerator * interval.unit.denominator
  let quarter := interval.unit.numerator * step.denominator
  let below := interval.low * quarter
  let above := interval.high * quarter
  if interval.closed then below ≤ place && place ≤ above else below < place && place < above

/-- The neighbour on the grid of multiples of `10 ^ scale` that lies in the interval, the nearer one
if both do; on a tie the upper one. -/
def Interval.onGrid? (interval : Interval) (scale : Int) : Option Scaled :=
  let step := Ratio.power 10 scale
  let place := interval.value * interval.unit.numerator * step.denominator
  let stride := step.numerator * interval.unit.denominator
  let floor := place / stride
  let upper := stride ≤ 2 * (place % stride)
  match interval.covers step floor && floor != 0, interval.covers step (floor + 1) with
  | true, true => some ⟨if upper then floor + 1 else floor, scale⟩
  | true, false => some ⟨floor, scale⟩
  | false, true => some ⟨floor + 1, scale⟩
  | false, false => none

/-- Tries `grids` grids, each ten times finer than the one before. -/
def Interval.search (interval : Interval) (scale : Int) : (grids : Nat) → Scaled
  | 0 => ⟨interval.value / 4, 0⟩
  | grids + 1 =>
    match interval.onGrid? scale with
    | some found => found
    | none => interval.search (scale - 1) grids

/-- A decimal exponent above the leading digit of `mantissa * 2 ^ exponent`. -/
def topScale (mantissa : Nat) (exponent : Int) : Int :=
  (((mantissa.log2 : Int) + 1 + exponent) * 30103) / 100000 + 1

/-- The shortest decimal for a positive double. Twenty-two grids are more than seventeen digits
need. -/
def shortest (mantissa : Nat) (exponent : Int) : Scaled :=
  (Interval.around mantissa exponent).search (topScale mantissa exponent) 22

/-- A scaled decimal written out without an exponent. -/
def Scaled.positional (decimal : Scaled) : String :=
  let digits := (Nat.toDigits 10 decimal.count)
  if 0 ≤ decimal.scale then
    String.ofList (digits ++ List.replicate decimal.scale.toNat '0')
  else
    let places := (-decimal.scale).toNat
    let padded := List.replicate (places + 1 - digits.length) '0' ++ digits
    let whole := padded.length - places
    String.ofList (padded.take whole ++ '.' :: padded.drop whole)

/-- The text of a double: shortest digits, positional. -/
def floatText (x : Float) : String :=
  match Dyadic.ofFloat x with
  | .nan => "NaN"
  | .infinite negative => signText negative ++ "inf"
  | .finite negative mantissa exponent =>
    if mantissa = 0 then signText negative ++ "0"
    else signText negative ++ (shortest mantissa exponent).positional

/-! ## Numbers on the command line

A coordinate given as an argument is a sign, then `inf`, `infinity` or `nan` in any mixture of cases,
or digits with at most one point and perhaps an exponent. At least one digit stands before or after
the point, and at least one in the exponent. Its value is the single nearest to what is written. -/

/-- The number that decimal digits spell, most significant first. -/
def natOfDigits (digits : List Char) : Nat :=
  digits.foldl (fun value digit => value * 10 + (digit.toNat - '0'.toNat)) 0

/-- The digits at the front, and the rest. -/
def spanDigits (text : List Char) : List Char × List Char :=
  (text.takeWhile Char.isDigit, text.dropWhile Char.isDigit)

/-- A sign at the front: whether it is a minus, and the rest. A text without one is positive. -/
def spanSign : List Char → Bool × List Char
  | '-' :: rest => (true, rest)
  | '+' :: rest => (false, rest)
  | text => (false, text)

/-- The exponent that ends a number: nothing, or `e` with an optional sign and digits. -/
def exponent? : List Char → Option Int
  | [] => some 0
  | mark :: rest =>
    if mark == 'e' || mark == 'E' then
      let (negative, rest) := spanSign rest
      let (digits, rest) := spanDigits rest
      if digits.isEmpty || !rest.isEmpty then none
      else some (if negative then -(natOfDigits digits : Int) else natOfDigits digits)
    else none

/-- The binary exponent of a positive fraction: the greatest `e` with `2 ^ e` not above it. -/
def binaryExponent (numerator denominator : Nat) : Int :=
  let guess : Int := numerator.log2 - denominator.log2
  if numerator * .pow 2 (-guess).toNat < denominator * .pow 2 guess.toNat then guess - 1
  else guess

/-- The single nearest to a fraction, the one with the even mantissa on a tie. The mantissa is counted in
units of its last place, which is never finer than `2 ^ (-149)`, and the bit patterns of the positive
singles ascend with their values; what is too large for a single is infinite. -/
def nearestSingle (numerator denominator : Nat) : Float32 :=
  if numerator = 0 then 0
  else
    let place := max (binaryExponent numerator denominator - 23) (-149)
    let mantissa :=
      roundRatio (numerator * .pow 2 (-place).toNat) (denominator * .pow 2 place.toNat)
    Float32.ofBits (min ((place + 149).toNat * .pow 2 23 + mantissa) 0x7F800000).toUInt32

/-- The single nearest to `mantissa * 10 ^ exponent`. Beyond some eight hundred orders of magnitude
past the digits given, the exponent no longer matters. -/
def singleOfScaled (mantissa : Nat) (exponent : Int) : Float32 :=
  let reach : Int := 800 + mantissa.log2
  let exponent := max (-reach) (min reach exponent)
  nearestSingle (mantissa * .pow 10 exponent.toNat) (.pow 10 (-exponent).toNat)

def unsigned? (text : List Char) : Option Float32 :=
  let (whole, rest) := spanDigits text
  let (places, rest) : List Char × List Char :=
    match rest with
    | '.' :: rest => spanDigits rest
    | rest => ([], rest)
  if whole.isEmpty && places.isEmpty then none
  else do
    let exponent ← exponent? rest
    return singleOfScaled (natOfDigits (whole ++ places)) (exponent - places.length)

/-- The single that an argument spells, if it spells one. -/
def single? (text : List Char) : Option Float32 :=
  let (negative, body) := spanSign text
  let magnitude : Option Float32 :=
    match String.ofList (body.map Char.toLower) with
    | "inf" | "infinity" => some (1 / 0)
    | "nan" => some (0 / 0)
    | _ => unsigned? body
  magnitude.map fun value => if negative then -value else value

end Diorama.Decimal
