import Diorama.Compositor
import Diorama.Decimal
import Diorama.Document
import Diorama.Json.Decoder

/-!
# Configuration

How an engine is set up: the sizes of card and window, how long a cross-fade takes, how often the
animation clock ticks, engine variables over the built-in ones, stacks to load ahead, and a card to
start with. Every field has a default, and a file need only name the fields that differ.
-/

namespace Diorama

/-! ## Engine variables

The engine's own settings and signals: truth values, whole numbers, doubles and strings under dotted
paths. They are read by type, and a value of another type reads as if it were not there, except that a
whole number can be read as a double. -/

/-- The value of an engine variable. -/
inductive EngineValue where
  | bool (value : Bool)
  | integer (value : Int64)
  | float (value : Float)
  | string (value : String)

namespace EngineValue

def text : EngineValue → String
  | .bool value => if value then "true" else "false"
  | .integer value => toString value.toInt
  | .float value => Decimal.floatText value
  | .string value => value

/-- Whether two values are the same. Doubles are compared as numbers. -/
def same : EngineValue → EngineValue → Bool
  | .bool a, .bool b => a == b
  | .integer a, .integer b => a == b
  | .float a, .float b => a == b
  | .string a, .string b => a == b
  | _, _ => false

/-- Reads a value. A whole number that fits 64 signed bits is an integer, any other number a double. -/
def decode : Json.Decoder EngineValue := fun reading value =>
  match value with
  | .bool value => some (.bool value)
  | .string text => text.map .string
  | .number written => do
    let number ← Numeric.ofNumber? written
    match Json.Decoder.int Int64.minValue.toInt Int64.maxValue.toInt reading value with
    | some n => return .integer (Int64.ofInt n)
    | none => return .float number.toFloat
  | _ => none

/-- The value as JSON under the name of its type. An integer is written as
decimal text, since it may need all of its 64 bits, and a double by `double`. -/
def tagged (double : Float → Json) : EngineValue → Json
  | .bool value => .record [("bool", .bool value)]
  | .integer value => .record [("int", .text (toString value.toInt))]
  | .float value => .record [("float", double value)]
  | .string value => .record [("string", .text value)]

end EngineValue

/-- Engine variables in the order of their paths. -/
abbrev EngineVariables := SortedMap String EngineValue

namespace EngineVariables

/-- Set when a script has failed. -/
def scriptErrorFlag : String := "engine.script_error"

/-- The message of the script that failed last. -/
def lastScriptError : String := "engine.last_script_error"

/-- Whether movies play at all. -/
def moviesEnabled : String := "rendering.movies"

/-- Whether sound groups are heard. -/
def ambientSoundsEnabled : String := "rendering.ambient_sounds"

def soundGain : String := "sound.gain"

def builtIn : EngineVariables :=
  .ofList [(moviesEnabled, .bool true), (ambientSoundsEnabled, .bool true), (soundGain, .float 1.0),
    (scriptErrorFlag, .bool false)]

/-- Whether a variable is the truth value true. -/
def flag (settings : EngineVariables) (path : String) : Bool :=
  match settings.get? path with
  | some (.bool value) => value
  | _ => false

/-- A variable as an unsigned number of 32 bits; zero if it is none. -/
def natural (settings : EngineVariables) (path : String) : UInt32 :=
  match settings.get? path with
  | some (.integer value) =>
    if 0 ≤ value.toInt && value.toInt < UInt32.size then value.toInt.toNat.toUInt32 else 0
  | _ => 0

/-- A variable as a double, if it is a number. -/
def float? (settings : EngineVariables) (path : String) : Option Float :=
  match settings.get? path with
  | some (.float value) => some value
  | some (.integer value) => some value.toFloat
  | _ => none

/-- The variables as rows of path and value. -/
def rows (double : Float → Json) (settings : EngineVariables) : Json :=
  .array (settings.entries.map fun entry => .array [.text entry.1, entry.2.tagged double])

end EngineVariables

/-! ## The configuration -/

/-- How an engine is set up. -/
structure EngineConfig where
  cardSize : Size Float32 := ⟨608, 392⟩
  margin : Float32 := 80
  viewport : Size Float32 := ⟨608, 472⟩
  transitionMs : UInt64 := 500
  animationIntervalMs : UInt64 := 50
  settings : EngineVariables := .empty
  preload : List String := []
  start : Option Location := none
  eventLogCapacity : UInt64 := 4096

namespace EngineConfig

def transitionDuration (config : EngineConfig) : Nanoseconds :=
  .ofMilliseconds config.transitionMs.toNat

/-- The time between two ticks of the animation clock: at least a millisecond. -/
def animationIntervalMsUsed (config : EngineConfig) : UInt64 :=
  max config.animationIntervalMs 1

/-- The built-in engine variables, and over them the configured ones. -/
def initialVariables (config : EngineConfig) : EngineVariables :=
  EngineVariables.builtIn.overlay config.settings

/-- Whether two lists of variables agree, path by path. -/
def sameVariables (a b : EngineVariables) : Bool :=
  a.keys == b.keys && (a.values.zip b.values).all fun pair => pair.1.same pair.2

/-- Whether two configurations are the same. -/
def same (a b : EngineConfig) : Bool :=
  a.cardSize == b.cardSize && a.margin == b.margin && a.viewport == b.viewport
    && a.transitionMs == b.transitionMs && a.animationIntervalMs == b.animationIntervalMs
    && sameVariables a.settings b.settings && a.preload == b.preload && a.start == b.start
    && a.eventLogCapacity == b.eventLogCapacity

def decodeSize : Json.Decoder (Size Float32) := fun reading value => do
  let fields ← Json.Fields.of? ["width", "height"] reading value
  return { width := ← fields.required "width" .single, height := ← fields.required "height" .single }

/-- The fields of a configuration, in the order of their declaration. -/
def fieldNames : List String :=
  ["core_viewport", "inventory_margin", "viewport", "transition_ms", "animation_interval_ms",
    "variables", "preload", "start", "event_log_capacity"]

def decode : Json.Decoder EngineConfig := fun reading value => do
  let fields ← Json.Fields.of? fieldNames reading value
  let default : EngineConfig := {}
  return { cardSize := ← fields.optional "core_viewport" default.cardSize decodeSize,
           margin := ← fields.optional "inventory_margin" default.margin .single,
           viewport := ← fields.optional "viewport" default.viewport decodeSize,
           transitionMs := ← fields.optional "transition_ms" default.transitionMs .long,
           animationIntervalMs :=
             ← fields.optional "animation_interval_ms" default.animationIntervalMs .long,
           settings := ← fields.optional "variables" default.settings (.map EngineValue.decode),
           preload := ← fields.optional "preload" default.preload (.array .text),
           start := ← fields.optional "start" default.start (.nullable Location.decode),
           eventLogCapacity :=
             ← fields.optional "event_log_capacity" default.eventLogCapacity .long }

/-- What is said of attempts at a configuration. -/
def words : DocumentWords :=
  ⟨"failed to read engine config: ", "failed to parse engine config: "⟩

/-- Loads the configuration in the file at `path`. -/
def load : String → Except FileError Bytes → Except DocumentError EngineConfig :=
  loadDocument words decode

end EngineConfig

end Diorama
