import Diorama.Card.Record
import Diorama.CardFrame
import Diorama.Stack.Source

/-!
# Instructions

What scripts are made of, from the number in a record to a command that can be carried out: the opcodes,
the faults for which a script stops, and commands with their operands in place.
-/

namespace Diorama

/-! ## Opcodes

The closed set of commands that scripts are made of. Each has a code, by which records name it, a name,
by which it is shown, and a least number of operands; more operands are allowed and most commands
ignore them. Codes that lie between these belong to no command. -/

/-- A command of the interpreter. -/
inductive Opcode where
  | gotoCard
  | playDataSound
  | setVariable
  | branch
  | enableHotspot
  | disableHotspot
  | clearSoundGroup
  | setCursor
  | callExternal
  | scheduleTransition
  | refresh
  | disableScreenUpdates
  | enableScreenUpdates
  | disableMovie
  | disableAllMovies
  | enableMovie
  | startMovieBlocking
  | startMovie
  | stopMovie
  | scheduleMovieCommand
  | activatePicture
  | activateSoundGroup
  | activateMovieAndStart
  | activateButton
  | activateMovie
  deriving DecidableEq, Repr

namespace Opcode

/-- The opcodes in the order of their codes. -/
def all : List Opcode :=
  [ gotoCard, playDataSound, setVariable, branch, enableHotspot, disableHotspot, clearSoundGroup
  , setCursor, callExternal, scheduleTransition, refresh, disableScreenUpdates, enableScreenUpdates
  , disableMovie, disableAllMovies, enableMovie, startMovieBlocking, startMovie, stopMovie
  , scheduleMovieCommand, activatePicture, activateSoundGroup, activateMovieAndStart, activateButton
  , activateMovie ]

/-- The code by which records name a command. -/
def code : Opcode → UInt16
  | gotoCard => 2
  | playDataSound => 4
  | setVariable => 7
  | branch => 8
  | enableHotspot => 9
  | disableHotspot => 10
  | clearSoundGroup => 12
  | setCursor => 13
  | callExternal => 17
  | scheduleTransition => 18
  | refresh => 19
  | disableScreenUpdates => 20
  | enableScreenUpdates => 21
  | disableMovie => 28
  | disableAllMovies => 29
  | enableMovie => 31
  | startMovieBlocking => 32
  | startMovie => 33
  | stopMovie => 34
  | scheduleMovieCommand => 38
  | activatePicture => 39
  | activateSoundGroup => 40
  | activateMovieAndStart => 41
  | activateButton => 43
  | activateMovie => 46

/-- The command with a code, if there is one. -/
def ofCode? (code : UInt16) : Option Opcode :=
  all.find? (·.code == code)

def operands : Opcode → Nat
  | clearSoundGroup | refresh | disableScreenUpdates | enableScreenUpdates | disableAllMovies
  | branch => 0
  | setVariable | callExternal => 2
  | scheduleMovieCommand => 4
  | _ => 1

def name : Opcode → String
  | gotoCard => "goto_card"
  | playDataSound => "play_data_sound"
  | setVariable => "set_variable"
  | branch => "branch"
  | enableHotspot => "enable_hotspot"
  | disableHotspot => "disable_hotspot"
  | clearSoundGroup => "clear_slst"
  | setCursor => "set_cursor"
  | callExternal => "call_external"
  | scheduleTransition => "schedule_transition"
  | refresh => "refresh"
  | disableScreenUpdates => "disable_screen_updates"
  | enableScreenUpdates => "enable_screen_updates"
  | disableMovie => "disable_movie"
  | disableAllMovies => "disable_all_movies"
  | enableMovie => "enable_movie"
  | startMovieBlocking => "start_movie_blocking"
  | startMovie => "start_movie"
  | stopMovie => "stop_movie"
  | scheduleMovieCommand => "schedule_movie_command"
  | activatePicture => "activate_plst"
  | activateSoundGroup => "activate_slst"
  | activateMovieAndStart => "activate_mlst_and_start"
  | activateButton => "activate_blst"
  | activateMovie => "activate_mlst"

/-- The words of a name run together, each with a capital, as error messages show it. -/
def title (opcode : Opcode) : String :=
  String.join ((opcode.name.splitOn "_").map String.capitalize)

/-- Every command is found by its code. -/
theorem ofCode?_code (opcode : Opcode) : ofCode? opcode.code = some opcode := by
  cases opcode <;> rfl

/-- Only the branch has the branch code. -/
theorem code_eq_branchOpcode_iff (opcode : Opcode) : opcode.code = branchOpcode ↔ opcode = branch := by
  cases opcode <;> decide

end Opcode

/-! ## Faults

A script can stop for reasons of its own, or because a card that it asked for cannot be opened. The wording
of every cause is in one function. -/

/-- The lists of a card that scripts activate by index. -/
inductive ResourceList where
  | pictures
  | soundGroups
  | movies
  | buttons
  deriving DecidableEq, Repr

def ResourceList.label : ResourceList → String
  | .pictures => "PLST"
  | .soundGroups => "SLST"
  | .movies => "MLST"
  | .buttons => "BLST"

/-- How deep command lists may lie inside one another while they run. -/
def maxScriptDepth : Nat := 32

/-- Why a script stops. -/
inductive ScriptError where
  | unknownOpcode (code : UInt16)
  | missingOperands (opcode : Opcode) (expected actual : Nat)
  | noResource (list : ResourceList) (index : UInt16)
  | unknownHotspot (id : UInt16)
  | unknownVariable (index : UInt16)
  | unknownMovie (code : UInt16)
  | unknownRenderState (code : UInt16)
  | flatBranch
  | tooDeep
  | noActiveCard
  | stack (cause : StackError)
  deriving DecidableEq, Repr

def ScriptError.message : ScriptError → String
  | .unknownOpcode code => s!"unknown opcode {code}"
  | .missingOperands opcode expected actual =>
    s!"opcode {opcode.title} expects {expected} operands, got {actual}"
  | .noResource list index => s!"{list.label} has no record with index {index}"
  | .unknownHotspot id => s!"no hotspot with id {id}"
  | .unknownVariable index => s!"variable index {index} is not in the stack name table"
  | .unknownMovie code => s!"no movie registered under code {code}"
  | .unknownRenderState code => s!"render state {code} does not exist"
  | .flatBranch => "branch opcode without case table"
  | .tooDeep => s!"script nesting exceeded {maxScriptDepth} levels"
  | .noActiveCard => "no active card"
  | .stack cause => cause.message

def Opcode.checkOperands (opcode : Opcode) (args : List UInt16) : Except ScriptError Unit :=
  if args.length < opcode.operands then
    .error (.missingOperands opcode opcode.operands args.length)
  else .ok ()

def Opcode.ofCode (code : UInt16) : Except ScriptError Opcode :=
  match Opcode.ofCode? code with
  | some opcode => .ok opcode
  | none => .error (.unknownOpcode code)

/-! ## Operands

An instruction is a plain command with its operands in place. Decoding checks everything about a command
that can be checked without a card: that its opcode exists, that it has operands enough, that the render
state or the later command it names exists. Carrying an instruction out therefore never looks for an
operand that is not there.

Two commands look further into their operands. An external call says in its second operand how many
arguments follow. A scheduled command holds a whole command behind the movie code and the time, whose
operands are counted already when it is scheduled; everything else about it is checked when it runs. -/

/-- A plain command with its operands in place. -/
inductive Instruction where
  | gotoCard (id : UInt16)
  | playSound (id volume : UInt16)
  | setVariable (index value : UInt16)
  | setHotspot (id : UInt16) (enabled : Bool)
  | clearSoundGroup
  | setCursor (cursor : UInt16)
  | callExternal (id : UInt16) (args : List UInt16)
  | scheduleTransition (state : RenderState)
  | refresh
  | disableScreenUpdates
  | enableScreenUpdates
  | setMovie (code : UInt16) (enabled : Bool)
  | disableAllMovies
  | startMovieBlocking (code : UInt16)
  | startMovie (code : UInt16)
  | stopMovie (code : UInt16)
  /-- Runs a command when a movie has come to a time, in milliseconds. -/
  | scheduleCommand (code : UInt16) (at_ : Nat) (opcode : Opcode) (args : List UInt16)
  | activatePicture (index : UInt16)
  | activateSoundGroup (index : UInt16)
  | activateMovie (index : UInt16)
  | activateMovieAndStart (index : UInt16)
  | activateButton (index : UInt16)
  deriving DecidableEq, Repr

namespace Instruction

/-- The volume of a sound that names none. -/
def defaultVolume : UInt16 := 256

/-- A time given in two words, the higher first. -/
def milliseconds (high low : UInt16) : Nat :=
  high.toNat * 65536 + low.toNat

/-- The instruction of an opcode with its operands. -/
def ofOpcode (opcode : Opcode) (args : List UInt16) : Except ScriptError Instruction :=
  match opcode, args with
  | .gotoCard, id :: _ => .ok (.gotoCard id)
  | .playDataSound, [id] => .ok (.playSound id defaultVolume)
  | .playDataSound, id :: volume :: _ => .ok (.playSound id volume)
  | .setVariable, index :: value :: _ => .ok (.setVariable index value)
  | .branch, _ => .error .flatBranch
  | .enableHotspot, id :: _ => .ok (.setHotspot id true)
  | .disableHotspot, id :: _ => .ok (.setHotspot id false)
  | .clearSoundGroup, _ => .ok .clearSoundGroup
  | .setCursor, cursor :: _ => .ok (.setCursor cursor)
  | .callExternal, id :: count :: rest =>
    if rest.length < count.toNat then
      .error (.missingOperands .callExternal (2 + count.toNat) args.length)
    else .ok (.callExternal id (rest.take count.toNat))
  | .scheduleTransition, code :: _ =>
    match RenderState.ofCode? code with
    | some state => .ok (.scheduleTransition state)
    | none => .error (.unknownRenderState code)
  | .refresh, _ => .ok .refresh
  | .disableScreenUpdates, _ => .ok .disableScreenUpdates
  | .enableScreenUpdates, _ => .ok .enableScreenUpdates
  | .disableMovie, code :: _ => .ok (.setMovie code false)
  | .disableAllMovies, _ => .ok .disableAllMovies
  | .enableMovie, code :: _ => .ok (.setMovie code true)
  | .startMovieBlocking, code :: _ => .ok (.startMovieBlocking code)
  | .startMovie, code :: _ => .ok (.startMovie code)
  | .stopMovie, code :: _ => .ok (.stopMovie code)
  | .scheduleMovieCommand, code :: high :: low :: opcode :: rest => do
    let opcode ← Opcode.ofCode opcode
    opcode.checkOperands rest
    return .scheduleCommand code (milliseconds high low) opcode rest
  | .activatePicture, index :: _ => .ok (.activatePicture index)
  | .activateSoundGroup, index :: _ => .ok (.activateSoundGroup index)
  | .activateMovieAndStart, index :: _ => .ok (.activateMovieAndStart index)
  | .activateButton, index :: _ => .ok (.activateButton index)
  | .activateMovie, index :: _ => .ok (.activateMovie index)
  | opcode, args => .error (.missingOperands opcode opcode.operands args.length)

/-- The instruction that a plain command of a record stands for. -/
def decode (code : UInt16) (args : List UInt16) : Except ScriptError Instruction := do
  ofOpcode (← Opcode.ofCode code) args

/-- A command with fewer operands than its opcode needs is refused, and both counts are given. -/
theorem ofOpcode_of_lt {opcode : Opcode} {args : List UInt16} (h : args.length < opcode.operands) :
    ofOpcode opcode args = .error (.missingOperands opcode opcode.operands args.length) := by
  rcases args with _ | ⟨a, _ | ⟨b, _ | ⟨c, _ | ⟨d, rest⟩⟩⟩⟩ <;>
    cases opcode <;> simp_all [Opcode.operands, ofOpcode]
  all_goals omega

end Instruction

end Diorama
