import Diorama.Decimal
import Diorama.Geometry
import Diorama.Text.Characters

/-!
# Arguments

The arguments of a tool are options, each with a value, and operands. An option stands under its long
name behind two dashes, or under a letter behind one. Its value follows behind an equals sign, or directly
behind the letter, or as the next argument unless that looks like an option. Two dashes alone end the
options.

Arguments are judged from left to right. An option nobody knows, one given twice that may be given once, a
value that is missing or that the option does not accept, and an operand too many make the line a misuse
as soon as they are met; a request for the version is granted as soon as it is met.
-/

namespace Diorama

/-- An option of a tool. -/
structure CommandOption where
  name : String
  letter : Option Char := none
  repeatable : Bool := false
  accepts : String → Bool

/-- What a tool takes: options, and so many operands, each of which is a path. -/
structure CommandGrammar where
  options : List CommandOption
  operands : Nat := 0

/-- The values given, the latest first. -/
structure CommandValues where
  options : List (String × String) := []
  operands : List String := []
  deriving DecidableEq, Repr

/-- What a tool is asked to do. -/
inductive CommandLine where
  | version
  | run (values : CommandValues)
  deriving DecidableEq, Repr

/-- Whether a value can be a path. -/
def isPath (value : String) : Bool :=
  !value.isEmpty

namespace CommandValues

/-- The values of an option, in the order in which they were given. -/
def all (values : CommandValues) (name : String) : List String :=
  ((values.options.filter (·.1 == name)).map (·.2)).reverse

/-- The value of an option, if it was given. -/
def get? (values : CommandValues) (name : String) : Option String :=
  values.options.lookup name

def give? (values : CommandValues) (option : CommandOption) (value : String) :
    Option CommandValues :=
  if !option.repeatable && (values.options.lookup option.name).isSome then none
  else if option.accepts value then
    some { values with options := (option.name, value) :: values.options }
  else none

/-- Takes an operand, of which there may be `limit`. -/
def operand? (values : CommandValues) (limit : Nat) (value : String) : Option CommandValues :=
  if values.operands.length < limit && isPath value then
    some { values with operands := values.operands ++ [value] }
  else none

end CommandValues

/-- One argument, by its form. -/
inductive Argument where
  /-- The end of the options. -/
  | rest
  /-- An option by its long name, perhaps with its value. -/
  | long (name : String) (value : Option String)
  /-- An option by its letter, perhaps with its value. -/
  | short (letter : Char) (value : Option String)
  | operand (value : String)
  deriving DecidableEq, Repr

namespace Argument

/-- The form of an argument. A single dash is an operand. -/
def ofText (text : String) : Argument :=
  match text.toList with
  | ['-', '-'] => .rest
  | '-' :: '-' :: body =>
    let name := String.ofList (body.takeWhile (· != '='))
    match body.dropWhile (· != '=') with
    | _ :: value => .long name (some (String.ofList value))
    | [] => .long name none
  | '-' :: letter :: body =>
    match body with
    | [] => .short letter none
    | '=' :: value => .short letter (some (String.ofList value))
    | value => .short letter (some (String.ofList value))
  | _ => .operand text

/-- Whether an argument can be the value of the option before it. -/
def isValue (text : String) : Bool :=
  match ofText text with
  | .operand _ => true
  | _ => false

end Argument

namespace CommandGrammar

/-- What an argument asks for: the version, an option with the value it brings, or nothing known. -/
inductive Request where
  | version
  | option (option : CommandOption) (value : Option String)

/-- The request of an argument for an option. -/
def request? (grammar : CommandGrammar) : Argument → Option Request
  | .long "version" none => some .version
  | .long name value => (grammar.options.find? (·.name == name)).map (.option · value)
  | .short 'V' _ => some .version
  | .short letter value =>
    (grammar.options.find? (·.letter == some letter)).map (.option · value)
  | _ => none

/-- Judges the arguments from left to right; `none` is a misuse. -/
def judge (grammar : CommandGrammar) (values : CommandValues) : List String → Option CommandLine
  | [] => some (.run values)
  | text :: others =>
    match Argument.ofText text with
    | .operand value => do grammar.judge (← values.operand? grammar.operands value) others
    | .rest => do
      return .run (← others.foldlM (fun values value => values.operand? grammar.operands value) values)
    | argument =>
      match grammar.request? argument, others with
      | none, _ => none
      | some .version, _ => some .version
      | some (.option option (some value)), others => do
        grammar.judge (← values.give? option value) others
      | some (.option _ none), [] => none
      | some (.option option none), next :: others =>
        if Argument.isValue next then do grammar.judge (← values.give? option next) others
        else none

/-- What the arguments ask for; `none` is a misuse. -/
def parse (grammar : CommandGrammar) (arguments : List String) : Option CommandLine :=
  grammar.judge {} arguments

end CommandGrammar

/-! ## Values -/

/-- A whole number from zero to a limit. A sign may stand before it, but only zero can be negative. -/
def natural? (limit : Nat) (text : String) : Option Nat :=
  let (negative, digits) := Decimal.spanSign text.toList
  if digits.isEmpty || !digits.all Char.isDigit then none
  else
    let n := Decimal.natOfDigits digits
    if limit < n || (negative && n != 0) then none else some n

/-- Two singles on either side of the first separator, blanks around them aside. -/
def pair? (separates : Char → Bool) (text : String) : Option (Float32 × Float32) :=
  let chars := text.toList
  match chars.dropWhile (!separates ·) with
  | [] => none
  | _ :: second => do
    let first ← Decimal.single? (Text.trim (chars.takeWhile (!separates ·)))
    return (first, ← Decimal.single? (Text.trim second))

/-- A size, as in `800x600`. -/
def size? (text : String) : Option (Size Float32) :=
  (pair? (fun char => char == 'x' || char == 'X') text).map fun sides => ⟨sides.1, sides.2⟩

/-- A point, as in `50,422`. -/
def point? (text : String) : Option (Point Float32) :=
  (pair? (· == ',') text).map fun sides => ⟨sides.1, sides.2⟩

end Diorama
