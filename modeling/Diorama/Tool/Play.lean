import Diorama.Tool.Arguments
import Diorama.Tool.Host
import Diorama.World

/-!
# The playing tool

Opens a data root, goes to a card or restores a saved game, clicks here and there, draws frames at a
steady pace, and says what is shown at the end. It can write the event log and save the game. Movies that
are waited for end at once.
-/

namespace Diorama

/-- What the playing tool is asked to do. -/
structure PlayOptions where
  dataRoot : String
  config : Option String
  start : Option Location
  viewport : Option (Size Float32)
  clicks : List (Point Float32)
  frames : Nat
  loadState : Option String
  eventLog : Option String
  saveState : Option String

namespace PlayOptions

def grammar : CommandGrammar where
  options :=
    [ { name := "data-root", accepts := isPath }
    , { name := "config", accepts := isPath }
    , { name := "stack", accepts := fun _ => true }
    , { name := "card", accepts := fun value => (natural? 65535 value).isSome }
    , { name := "viewport", accepts := fun value => (size? value).isSome }
    , { name := "click", repeatable := true, accepts := fun value => (point? value).isSome }
    , { name := "frames", accepts := fun value => (natural? (UInt32.size - 1) value).isSome }
    , { name := "load-state", accepts := isPath }
    , { name := "event-log-json", accepts := isPath }
    , { name := "save-state", accepts := isPath } ]

/-- Where to play unless it is said. -/
def defaultDataRoot : String := "data"

/-- How many frames are drawn unless it is said. -/
def defaultFrames : Nat := 30

/-- The options that values stand for. Stack and card go together, and not with a saved game. -/
def ofValues (values : CommandValues) : Except Failure PlayOptions := do
  let card := (values.get? "card").bind (natural? 65535)
  let start : Option Location ←
    match values.get? "stack", card with
    | some stack, some id => pure (some { stack, id := id.toUInt16 })
    | none, none => pure none
    | _, _ => throw ⟨["--stack and --card must be given together"]⟩
  let loadState := values.get? "load-state"
  if start.isSome && loadState.isSome then
    throw ⟨["--load-state cannot be combined with --stack/--card"]⟩
  return { dataRoot := (values.get? "data-root").getD defaultDataRoot
           config := values.get? "config"
           start
           viewport := (values.get? "viewport").bind size?
           clicks := (values.all "click").filterMap point?
           frames := ((values.get? "frames").bind (natural? (UInt32.size - 1))).getD defaultFrames
           loadState
           eventLog := values.get? "event-log-json"
           saveState := values.get? "save-state" }

end PlayOptions

def WorldError.failure (error : WorldError) : Failure :=
  ⟨[error.message]⟩

namespace Play

/-- The name and version of the playing tool. -/
def version : String := "rx_engine 0.1.0"

def frameInterval : Nanoseconds := .ofMilliseconds 16

variable {m : Type → Type} [Monad m] [Host m]

def loadConfig (path : Option String) : Task m EngineConfig :=
  match path with
  | none => return {}
  | some path => do
    match EngineConfig.load path (← Task.read path) with
    | .ok config => return config
    | .error error => throw (.during "loading engine config" error.failure)

/-- Loads the saved game to be restored, if there is one, and says where it was. -/
def loadSaved (path : Option String) : Task m (Option (String × GameState)) :=
  match path with
  | none => return none
  | some path => do
    match GameState.load path (← Task.read path) with
    | .ok state => return some (path, state)
    | .error error => throw error.failure

/-- Opens what is to be played: a saved game, or else a card, or else nothing. -/
def openFirst (saved : Option (String × GameState)) (start : Option Location) (world : World) :
    Except Failure World :=
  match saved, start with
  | some (path, state), _ =>
    (world.ask (.restore state ·)).mapError fun error =>
      .during s!"restoring game state from {path}" error.failure
  | none, some location =>
    (world.ask fun ticket => .goto location (some ticket)).mapError fun error =>
      .during s!"opening start card {location.text}" error.failure
  | none, none => .ok world

/-- The configuration of the engine. The card to start with is taken out of it, to be opened here, unless another
one is given. -/
def engineConfig (options : PlayOptions) (config : EngineConfig) : EngineConfig :=
  { config with
    viewport := options.viewport.getD config.viewport
    start := if options.start.isSome then config.start else none }

/-- The world when everything has been opened that is to be opened before the first click. -/
def begin (options : PlayOptions) (config : EngineConfig) (provider : Provider)
    (saved : Option (String × GameState)) : Except Failure World :=
  openFirst saved (options.start.or config.start)
    (World.ofConfig (engineConfig options config) provider .finishing).settle

/-- A click: the pointer moves there, and the button goes down and up. -/
def click (world : World) (point : Point Float32) : Except WorldError World := do
  let world ← world.send (.pointerMoved point)
  let world ← world.sendClick .pointerDown
  let world ← world.sendClick .pointerUp
  return world.settle

/-- Draws the frames numbered from `frame` on, the last `count` of them, and gives the report of the last
one drawn. -/
def drawFrames (last : Option FrameReport) (world : World) (frame : Nat) :
    (count : Nat) → Except WorldError (Option FrameReport × World)
  | 0 => .ok (last, world)
  | count + 1 => do
    let (report, world) ← world.displayTick (frameInterval * frame)
    drawFrames (some report) world (frame + 1) count

def printReport (frames : Nat) (report : FrameReport) : Task m Unit := do
  let blend := Decimal.twoPlaces report.blend
  Task.print s!"Render state after {frames} frames: {report.current.label} (blend {blend})"
  for layer in report.layers do
    Task.print ("  - " ++ layer.text)

/-- Says where the game begins, clicks, draws, says what is shown, and writes what is to be written. -/
def playOn (options : PlayOptions) (world : World) : Task m Unit := do
  match world.stage.location with
  | some location => Task.print s!"Opened card {location.text}"
  | none => Task.print "No card opened"
  let world ← Task.need ((options.clicks.foldlM click world).mapError WorldError.failure)
  let (report, world) ←
    Task.need ((drawFrames none world 0 options.frames).mapError WorldError.failure)
  match report with
  | some report => printReport options.frames report
  | none => pure ()
  match options.eventLog with
  | some path =>
    Task.write (EventLog.writing path) path (Utf8.encode world.stage.log.document)
    Task.print s!"Saved event log to {path}"
  | none => pure ()
  match options.saveState with
  | some path =>
    Task.write (GameState.writing path) path (Utf8.encode world.stage.gameState.save)
    Task.print s!"Saved game state to {path}"
  | none => pure ()

/-- Plays with a configuration. -/
def playWith (options : PlayOptions) (config : EngineConfig) : Task m Unit := do
  let provider := Provider.directory options.dataRoot (← ExceptT.lift (Host.list options.dataRoot))
  let saved ← loadSaved options.loadState
  playOn options (← Task.need (begin options config provider saved))

def play (options : PlayOptions) : Task m Unit := do
  playWith options (← loadConfig options.config)

def run (arguments : List String) : m Ending :=
  match PlayOptions.grammar.parse arguments with
  | none => return .misused
  | some .version => Task.ending (Task.print version)
  | some (.run values) => Task.ending (Task.need (PlayOptions.ofValues values) >>= play)

end Play

end Diorama
