import Diorama.Card.Record
import Diorama.Json.Decoder

/-!
# Cards as JSON

The authoring form of a card, in both directions. What an author may leave out has a default; what
is written always has every field.

A command says by its key `kind` whether it is an operation or a branch. It is collected before it is
used, since that key may stand anywhere; where it was already collected as part of something larger,
the kinds may also be numbered, 0 for an operation and 1 for a branch.
-/

namespace Diorama

open Json

/-! ## Reading -/

/-- The two kinds of command. -/
inductive CommandKind where
  | op
  | branch
  deriving DecidableEq, Repr

def CommandKind.decode : Decoder CommandKind := fun reading value =>
  match value with
  | .string (some "op") => some .op
  | .string (some "branch") => some .branch
  | .number _ =>
    if reading.collected then
      match Decoder.int 0 1 reading value with
      | some 0 => some .op
      | some _ => some .branch
      | none => none
    else none
  | _ => none

/-- Takes the kind of a command off its collected form; what is left are its fields. -/
def CommandKind.split? (reading : Reading) : Json → Option (CommandKind × Json)
  | .array (kind :: fields) => do
    return (← CommandKind.decode reading kind, .array fields)
  | .object members => do
    match members.filter (·.1 == some "kind") with
    | [(_, kind)] =>
      return (← CommandKind.decode reading kind, .object (members.filter (·.1 != some "kind")))
    | _ => none
  | _ => none

/-- Reads a case, whose commands `inner` reads. -/
def Case.decodeWith (inner : Decoder (List Command)) : Decoder Case := fun reading value => do
  let fields ← Fields.of? ["value", "commands"] reading value
  return { value := ← fields.required "value" .word, commands := ← fields.required "commands" inner }

/-- Reads a command, whose nested command lists `inner` reads. -/
def Command.decodeWith (inner : Decoder (List Command)) : Decoder Command := fun reading value => do
  if usable reading.room value then
    let (kind, rest) ← CommandKind.split? reading value
    let reading := { reading with collected := true }
    match kind with
    | .op =>
      let fields ← Fields.of? ["opcode", "args"] reading rest
      return .op (← fields.required "opcode" .word) (← fields.optional "args" [] (.array .word))
    | .branch =>
      let fields ← Fields.of? ["variable", "cases"] reading rest
      return .branch (← fields.required "variable" .word)
        (← fields.required "cases" (.array (Case.decodeWith inner)))
  else none

/-- Reads a command list whose branches nest less than `levels` deep. -/
def Command.decodeListWithin : (levels : Nat) → Decoder (List Command)
  | 0 => fun _ _ => none
  | levels + 1 => Decoder.array (Command.decodeWith (Command.decodeListWithin levels))

/-- Reads a command list. Every branch takes room, so the room left bounds their nesting. -/
def Command.decodeList : Decoder (List Command) := fun reading value =>
  Command.decodeListWithin (reading.room + 1) reading value

def Handler.decode : Decoder Handler := fun reading value => do
  let fields ← Fields.of? ["event", "commands"] reading value
  return { event := ← fields.required "event" .word,
           commands := ← fields.required "commands" Command.decodeList }

def PixelRect.decode : Decoder PixelRect := fun reading value => do
  let fields ← Fields.of? ["left", "top", "right", "bottom"] reading value
  return { left := ← fields.required "left" .signed, top := ← fields.required "top" .signed,
           right := ← fields.required "right" .signed,
           bottom := ← fields.required "bottom" .signed }

/-- Reads a hotspot. It is enabled unless it says otherwise. -/
def HotspotRecord.decode : Decoder HotspotRecord := fun reading value => do
  let fields ← Fields.of? ["id", "rect", "cursor", "name", "enabled", "scripts"] reading value
  return { id := ← fields.required "id" .word, rect := ← fields.required "rect" PixelRect.decode,
           cursor := ← fields.optional "cursor" 0 .word, name := ← fields.optional "name" "" .text,
           enabled := ← fields.optional "enabled" true .bool,
           scripts := ← fields.optional "scripts" [] (.array Handler.decode) }

def Picture.decode : Decoder Picture := fun reading value => do
  let fields ← Fields.of? ["index", "bitmap", "rect"] reading value
  return { index := ← fields.required "index" .word, bitmap := ← fields.required "bitmap" .word,
           rect := ← fields.required "rect" PixelRect.decode }

def SoundGroup.decode : Decoder SoundGroup := fun reading value => do
  let fields ← Fields.of? ["index", "sounds", "volume", "looping"] reading value
  return { index := ← fields.required "index" .word,
           sounds := ← fields.required "sounds" (.array .word),
           volume := ← fields.optional "volume" 0 .word,
           looping := ← fields.optional "looping" false .bool }

def Movie.decode : Decoder Movie := fun reading value => do
  let fields ← Fields.of? ["index", "movie", "code", "left", "top", "looping"] reading value
  return { index := ← fields.required "index" .word, movie := ← fields.required "movie" .word,
           code := ← fields.required "code" .word, left := ← fields.optional "left" 0 .signed,
           top := ← fields.optional "top" 0 .signed,
           looping := ← fields.optional "looping" false .bool }

def Button.decode : Decoder Button := fun reading value => do
  let fields ← Fields.of? ["index", "enabled", "hotspot_id"] reading value
  return { index := ← fields.required "index" .word, enabled := ← fields.required "enabled" .bool,
           hotspot := ← fields.required "hotspot_id" .word }

/-- The fields of a card, in the order of their declaration. -/
def CardRecord.fieldNames : List String :=
  ["name", "scripts", "hotspots", "pictures", "sound_groups", "movies", "buttons"]

def CardRecord.ofFields? (fields : Fields) : Option CardRecord := do
  return { name := ← fields.optional "name" "" .text,
           scripts := ← fields.optional "scripts" [] (.array Handler.decode),
           hotspots := ← fields.optional "hotspots" [] (.array HotspotRecord.decode),
           pictures := ← fields.optional "pictures" [] (.array Picture.decode),
           soundGroups := ← fields.optional "sound_groups" [] (.array SoundGroup.decode),
           movies := ← fields.optional "movies" [] (.array Movie.decode),
           buttons := ← fields.optional "buttons" [] (.array Button.decode) }

def CardRecord.decodeJson : Decoder CardRecord := fun reading value => do
  CardRecord.ofFields? (← Fields.of? CardRecord.fieldNames reading value)

/-! ## Writing -/

def Json.word (n : UInt16) : Json :=
  .nat n.toNat

def Json.signed (n : Int16) : Json :=
  .number (.ofInt n.toInt)

def Json.words (ns : List UInt16) : Json :=
  .array (ns.map Json.word)

mutual

def Command.toJson : Command → Json
  | .op opcode args =>
    .record [("kind", .text "op"), ("opcode", .word opcode), ("args", .words args)]
  | .branch index cases =>
    .record [("kind", .text "branch"), ("variable", .word index), ("cases", .array (Case.listToJson cases))]

def Case.toJson : Case → Json
  | ⟨value, commands⟩ =>
    .record [("value", .word value), ("commands", .array (Command.listToJson commands))]

def Command.listToJson : List Command → List Json
  | [] => []
  | command :: rest => command.toJson :: Command.listToJson rest

def Case.listToJson : List Case → List Json
  | [] => []
  | case :: rest => case.toJson :: Case.listToJson rest

end

def Handler.toJson (handler : Handler) : Json :=
  .record [("event", .word handler.event), ("commands", .array (handler.commands.map Command.toJson))]

def PixelRect.toJson (rect : PixelRect) : Json :=
  .record [("left", .signed rect.left), ("top", .signed rect.top), ("right", .signed rect.right),
    ("bottom", .signed rect.bottom)]

def HotspotRecord.toJson (hotspot : HotspotRecord) : Json :=
  .record [("id", .word hotspot.id), ("rect", hotspot.rect.toJson), ("cursor", .word hotspot.cursor),
    ("name", .text hotspot.name), ("enabled", .bool hotspot.enabled),
    ("scripts", .array (hotspot.scripts.map Handler.toJson))]

def Picture.toJson (picture : Picture) : Json :=
  .record [("index", .word picture.index), ("bitmap", .word picture.bitmap),
    ("rect", picture.rect.toJson)]

def SoundGroup.toJson (group : SoundGroup) : Json :=
  .record [("index", .word group.index), ("sounds", .words group.sounds),
    ("volume", .word group.volume), ("looping", .bool group.looping)]

def Movie.toJson (movie : Movie) : Json :=
  .record [("index", .word movie.index), ("movie", .word movie.movie), ("code", .word movie.code),
    ("left", .signed movie.left), ("top", .signed movie.top), ("looping", .bool movie.looping)]

def Button.toJson (button : Button) : Json :=
  .record [("index", .word button.index), ("enabled", .bool button.enabled),
    ("hotspot_id", .word button.hotspot)]

def CardRecord.toJson (card : CardRecord) : Json :=
  .record [("name", .text card.name), ("scripts", .array (card.scripts.map Handler.toJson)),
    ("hotspots", .array (card.hotspots.map HotspotRecord.toJson)),
    ("pictures", .array (card.pictures.map Picture.toJson)),
    ("sound_groups", .array (card.soundGroups.map SoundGroup.toJson)),
    ("movies", .array (card.movies.map Movie.toJson)),
    ("buttons", .array (card.buttons.map Button.toJson))]

end Diorama
