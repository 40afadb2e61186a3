import Diorama.Card.Record
import Diorama.Format

/-!
# Card records and name tables as octets

The stored form of a card is its fields in the order of their declaration, lists behind their count
and names behind their length, with nothing between and nothing after. A plain command is its opcode
and its counted operands; a branch is the branch opcode, the variable's index and the counted cases.

Writing and reading have different limits, and both are kept apart on purpose. Writing refuses a
plain command with the branch opcode, because reading would take it for a branch, but writes branches
nested to any depth. Reading stops at the command list below the sixteenth branch.

The name table of a stack is a counted list of names. Octets after it are nobody's concern, while a
card record must end where the octets end.
-/

namespace Diorama

/-! ## Writing -/

def PixelRect.encode (rect : PixelRect) : Bytes :=
  Bytes.ofSigned rect.left ++ Bytes.ofSigned rect.top ++ Bytes.ofSigned rect.right
    ++ Bytes.ofSigned rect.bottom

mutual

def Command.encode : Command → Written
  | .op opcode args =>
    if opcode = branchOpcode then .error .flatBranch
    else do
      let args ← Written.list (fun arg => .ok (Bytes.ofWord arg)) args
      return Bytes.ofWord opcode ++ args
  | .branch index cases => do
    let count ← Written.count cases.length
    let cases ← Case.encodeEach cases
    return Bytes.ofWord branchOpcode ++ Bytes.ofWord index ++ count ++ cases

def Case.encode : Case → Written
  | ⟨value, commands⟩ => do
    let count ← Written.count commands.length
    let commands ← Command.encodeEach commands
    return Bytes.ofWord value ++ count ++ commands

/-- The octets of commands, one after the other. -/
def Command.encodeEach : List Command → Written
  | [] => .ok []
  | command :: rest => do
    let head ← command.encode
    let tail ← Command.encodeEach rest
    return head ++ tail

/-- The octets of cases, one after the other. -/
def Case.encodeEach : List Case → Written
  | [] => .ok []
  | case :: rest => do
    let head ← case.encode
    let tail ← Case.encodeEach rest
    return head ++ tail

end

def Command.encodeList (commands : List Command) : Written := do
  let count ← Written.count commands.length
  return count ++ (← Command.encodeEach commands)

def Handler.encode (handler : Handler) : Written := do
  return Bytes.ofWord handler.event ++ (← Command.encodeList handler.commands)

def HotspotRecord.encode (hotspot : HotspotRecord) : Written :=
  Written.sequence
    [ .ok (Bytes.ofWord hotspot.id), .ok hotspot.rect.encode, .ok (Bytes.ofWord hotspot.cursor)
    , .ok (Bytes.ofFlag hotspot.enabled), Written.name hotspot.name
    , Written.list Handler.encode hotspot.scripts ]

def Picture.encode (picture : Picture) : Written :=
  .ok (Bytes.ofWord picture.index ++ Bytes.ofWord picture.bitmap ++ picture.rect.encode)

def SoundGroup.encode (group : SoundGroup) : Written :=
  Written.sequence
    [ .ok (Bytes.ofWord group.index)
    , Written.list (fun sound => .ok (Bytes.ofWord sound)) group.sounds
    , .ok (Bytes.ofWord group.volume), .ok (Bytes.ofFlag group.looping) ]

def Movie.encode (movie : Movie) : Written :=
  .ok (Bytes.ofWord movie.index ++ Bytes.ofWord movie.movie ++ Bytes.ofWord movie.code
    ++ Bytes.ofSigned movie.left ++ Bytes.ofSigned movie.top ++ Bytes.ofFlag movie.looping)

def Button.encode (button : Button) : Written :=
  .ok (Bytes.ofWord button.index ++ Bytes.ofFlag button.enabled ++ Bytes.ofWord button.hotspot)

def CardRecord.encode (card : CardRecord) : Written :=
  Written.sequence
    [ Written.name card.name, Written.list Handler.encode card.scripts
    , Written.list HotspotRecord.encode card.hotspots, Written.list Picture.encode card.pictures
    , Written.list SoundGroup.encode card.soundGroups, Written.list Movie.encode card.movies
    , Written.list Button.encode card.buttons ]

/-! ## Reading -/

def PixelRect.read : Reader PixelRect := do
  return { left := ← Reader.signed, top := ← Reader.signed, right := ← Reader.signed,
           bottom := ← Reader.signed }

/-- Reads one command, whose nested command lists `inner` reads. -/
def Command.read (inner : Reader (List Command)) : Reader Command := do
  let opcode ← Reader.word
  if opcode = branchOpcode then
    let index ← Reader.word
    let cases ← Reader.list do
      let value ← Reader.word
      return { value, commands := ← inner }
    return .branch index cases
  else
    return .op opcode (← Reader.list Reader.word)

/-- Reads a counted command list. Below it, branches may nest one level less than `room`. -/
def Command.readList : (room : Nat) → Reader (List Command)
  | 0 => fun _ => .error .branchTooDeep
  | room + 1 => Reader.list (Command.read (Command.readList room))

def Handler.read : Reader Handler := do
  let event ← Reader.word
  let commands ← Reader.within (.handler event) (Command.readList (maxNesting + 1))
  return { event, commands }

def HotspotRecord.read : Reader HotspotRecord := do
  let id ← Reader.word
  let rect ← PixelRect.read
  let cursor ← Reader.word
  let enabled ← Reader.flag
  let name ← Reader.name
  let scripts ← Reader.list Handler.read
  return { id, rect, cursor, name, enabled, scripts }

def Picture.read : Reader Picture := do
  return { index := ← Reader.word, bitmap := ← Reader.word, rect := ← PixelRect.read }

def SoundGroup.read : Reader SoundGroup := do
  return { index := ← Reader.word, sounds := ← Reader.list Reader.word, volume := ← Reader.word,
           looping := ← Reader.flag }

def Movie.read : Reader Movie := do
  return { index := ← Reader.word, movie := ← Reader.word, code := ← Reader.word,
           left := ← Reader.signed, top := ← Reader.signed, looping := ← Reader.flag }

def Button.read : Reader Button := do
  return { index := ← Reader.word, enabled := ← Reader.flag, hotspot := ← Reader.word }

/-- Reads a card and leaves what follows it. -/
def CardRecord.read : Reader CardRecord := do
  let name ← Reader.within .cardName Reader.name
  let scripts ← Reader.within .cardScripts (Reader.list Handler.read)
  let hotspots ← Reader.listWithin .hotspotCount fun index =>
    Reader.within (.hotspot index) HotspotRecord.read
  let pictures ← Reader.listWithin .pictureCount fun _ => Picture.read
  let soundGroups ← Reader.listWithin .soundGroupCount fun _ => SoundGroup.read
  let movies ← Reader.listWithin .movieCount fun _ => Movie.read
  let buttons ← Reader.listWithin .buttonCount fun _ => Button.read
  return { name, scripts, hotspots, pictures, soundGroups, movies, buttons }

/-- The card whose stored form these octets are. -/
def CardRecord.decode (bytes : Bytes) : Except FormatError CardRecord := do
  let (card, rest) ← CardRecord.read bytes
  if rest.isEmpty then return card else throw (.trailing rest.length)

/-! ## Name tables -/

namespace NameTable

/-- The stored form of a stack's variable names. -/
def encode (names : List String) : Written :=
  Written.list Written.name names

/-- The variable names at the front of the octets. -/
def decode (bytes : Bytes) : Except FormatError (List String) := do
  let (names, _) ← Reader.listWithin .nameCount
    (fun index => Reader.within (.name index) Reader.name) bytes
  return names

end NameTable

end Diorama
