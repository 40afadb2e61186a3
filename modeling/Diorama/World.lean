import Diorama.Session.Events

/-!
# The world

Several parties act on one session. The host sends messages; the script loop takes them in the order they
were sent and carries each out before it takes the next; the stack loop does the same with the stacks that
are to be loaded ahead; the animation clock adds ticks to the script loop's messages, at most one at a
time; the display takes what was handed to it and composes a frame. What each of them does in one go is
one function here, and a run of the world is any sequence of them.

The script loop may stand still in the middle of a message, waiting for a movie. Everybody else goes on
meanwhile, and what they do to the stage is there when the script goes on.

Every request of the host is counted from when it is sent until it has been carried out, so that the host
can tell when nothing is left to do; ticks are not counted. Bringing the world down ends the wait there may
be, skips the messages that are left, closes the card, and releases what was loaded and shown.
-/

namespace Diorama

/-- Why the host's call was refused, or what came of its request. -/
inductive WorldError where
  | tornDown
  | script (cause : ScriptError)
  deriving DecidableEq, Repr

def WorldError.message : WorldError → String
  | .tornDown => "world has been torn down"
  | .script cause => cause.message

/-- A message to the script loop. A ticket asks for a reply. -/
inductive Message where
  | goto (location : Location) (ticket : Option Nat)
  | restore (state : GameState) (ticket : Nat)
  | pointerMoved (point : Point Float32)
  | pointerDown
  | pointerUp
  | viewport (size : Size Float32)
  | movieFinished (code : UInt16)
  | tick

namespace Message

/-- What carrying a message out does to the session. -/
def script : Message → Script Unit
  | .goto location _ => Script.goto location
  | .restore state _ => Script.restore state
  | .pointerMoved point => Script.pointerMoved point
  | .pointerDown => Script.pointerDown
  | .pointerUp => Script.pointerUp
  | .viewport size => Script.viewportChanged size
  | .movieFinished code => Script.movieFinished code
  | .tick => Script.animationTick

/-- The ticket of a message, if its sender waits for a reply. -/
def ticket? : Message → Option Nat
  | .goto _ ticket => ticket
  | .restore _ ticket => some ticket
  | _ => none

/-- Whether a message is a request of the host, which is counted. -/
def isRequest : Message → Bool
  | .tick => false
  | _ => true

end Message

/-- A message in the middle of which the script loop waits for a movie. -/
structure Suspended where
  message : Message
  resume : Session → GateOutcome → Progress (Except ScriptError Unit)

/-- The outcome of a request with a ticket. -/
structure Reply where
  ticket : Nat
  outcome : Except ScriptError Unit

/-- Everything there is. -/
structure World where
  session : Session
  compositor : Compositor
  suspended : Option Suspended := none
  /-- The messages that the script loop has not taken yet, in the order they were sent. -/
  messages : List Message := []
  /-- The stacks that the stack loop has not taken yet. -/
  preloads : List String := []
  /-- How many requests are sent and not carried out. -/
  work : Nat := 0
  /-- Whether a tick is among the messages. -/
  tickPending : Bool := false
  /-- The replies given, the latest first. -/
  replies : List Reply := []

namespace World

def onStage (world : World) (change : Stage → Stage) : World :=
  { world with session := world.session.onStage change }

def stage (world : World) : Stage :=
  world.session.toStage

/-! ## What the host does -/

/-- Refuses to do anything in a world that is torn down. -/
def live (world : World) (change : World → World) : Except WorldError World :=
  if world.stage.tornDown then .error .tornDown else .ok (change world)

def send (world : World) (message : Message) : Except WorldError World :=
  world.live fun world =>
    { world with messages := world.messages ++ [message], work := world.work + 1 }

/-- Sends a click, which is dropped while a movie is waited for. -/
def sendClick (world : World) (message : Message) : Except WorldError World :=
  if world.stage.blockingMovie then world.live id else world.send message

/-- Reports the end of a movie: to the gate if it is waited for, else to the script loop. -/
def movieFinished (world : World) (code : UInt16) : Except WorldError World :=
  match world.live id with
  | .error error => .error error
  | .ok world =>
    match world.stage.gate.complete code with
    | (true, gate) => .ok (world.onStage fun stage => { stage with gate })
    | (false, _) => world.send (.movieFinished code)

/-- Skips the movie that is waited for; says whether there was one. -/
def skipMovie (world : World) : Bool × World :=
  let (skipped, gate) := world.stage.gate.skip
  (skipped, world.onStage fun stage => { stage with gate })

/-- Asks for a stack to be loaded ahead. -/
def preload (world : World) (key : String) : Except WorldError World :=
  world.live fun world =>
    { world with preloads := world.preloads ++ [key], work := world.work + 1 }

def setVariable (world : World) (path : String) (value : EngineValue) : World :=
  world.onStage fun stage => { stage with settings := stage.settings.insert path value }

/-- Composes a frame for the display: takes the requests handed over since the last one, and shows the
latest snapshot. -/
def displayTick (world : World) (now : Nanoseconds) : Except WorldError (FrameReport × World) :=
  if world.stage.tornDown then .error .tornDown
  else
    let (requests, stage) := world.stage.drainDisplay
    let compositor := requests.foldl (fun compositor state => compositor.request state now)
      world.compositor
    let (report, compositor) := compositor.tick now stage.frames.latest
    .ok (report, { world.onStage fun _ => stage with compositor })

/-! ## What the loops do -/

/-- The animation clock ticks. No tick is added while one waits. -/
def clockTick (world : World) : World :=
  if world.tickPending then world
  else { world with messages := world.messages ++ [.tick], tickPending := true }

def finishWork (world : World) : World :=
  { world with work := world.work - 1 }

/-- The script loop has come as far with a message as it can. -/
def proceed (world : World) (message : Message) :
    Progress (Except ScriptError Unit) → World
  | .waiting session resume =>
    { world with session, suspended := some { message, resume } }
  | .done session outcome =>
    let replies := (message.ticket?.map fun ticket => { ticket, outcome : Reply }).toList
    let world := { world with session, suspended := none, replies := replies ++ world.replies }
    if message.isRequest then world.finishWork else world

/-- The script loop goes on with the message it waits in, if its wait can end. -/
def resumeScript (world : World) : World :=
  match world.suspended, world.stage.gate.wait? with
  | some suspended, some (outcome, gate) =>
    world.proceed suspended.message (suspended.resume { world.session with gate } outcome)
  | _, _ => world

/-- The script loop carries out a message that it has taken. In a world that is torn down it only lets
it go. -/
def handle (world : World) (message : Message) : World :=
  if world.stage.tornDown then world
  else
    let world :=
      match message with
      | .tick => { world with tickPending := false }
      | _ => world
    world.proceed message (message.script world.session)

/-- The script loop takes the next message, unless it waits in one. -/
def takeMessage (world : World) : World :=
  match world.suspended, world.messages with
  | none, message :: rest => { world with messages := rest }.handle message
  | _, _ => world

def takePreload (world : World) : World :=
  match world.preloads with
  | [] => world
  | key :: rest => { world.onStage (·.preload key) with preloads := rest }.finishWork

/-- The stack loop loads all stacks that are asked for. -/
def loadAll (world : World) : World :=
  world.preloads.foldl (fun world _ => world.takePreload) world

/-- The script loop works until it has no message left or waits for a movie. -/
def workOff (world : World) : World :=
  let world := world.resumeScript
  world.messages.foldl (fun world _ => world.takeMessage) world

/-- Both loops work until there is nothing left to do, or the script loop waits for a movie. -/
def settle (world : World) : World :=
  world.loadAll.workOff

/-- Sends a request with a ticket, lets the loops work, and gives the world if the request was carried
out well. -/
def ask (world : World) (request : Nat → Message) : Except WorldError World :=
  let ticket := world.replies.length
  match world.send (request ticket) with
  | .error error => .error error
  | .ok sent =>
    let world := sent.settle
    match world.replies.find? (·.ticket == ticket) with
    | some ⟨_, .ok _⟩ => .ok world
    | some ⟨_, .error cause⟩ => .error (.script cause)
    | none => .error .tornDown

/-- Whether every request has been carried out. -/
def isIdle (world : World) : Bool :=
  world.work == 0

/-! ## Beginning and end -/

/-- The world of a configuration: the stacks to be loaded ahead and the card to start with are asked
for at once. -/
def ofConfig (config : EngineConfig) (provider : Provider) (player : MediaPlayer) : World :=
  let start := config.start.map fun location => Message.goto location none
  { session := .ofStage (.ofConfig config provider player)
    compositor := { duration := config.transitionDuration }
    messages := start.toList
    preloads := config.preload
    work := start.toList.length + config.preload.length }

/-- The world is marked as coming down, and waits end. -/
def beginTeardown (world : World) : World :=
  world.onStage fun stage => { stage with tornDown := true, gate := stage.gate.abort }

/-- Everything is released once the loops have ended. -/
def release (world : World) : World :=
  { world.onStage fun stage =>
      { stage with
        resolver := stage.resolver.clear
        frames := { stage.frames with latest := none }
        blockingMovie := false }.record .tornDown with
    work := 0 }

/-- Brings the world down: the wait there may be ends, the messages that are left are skipped, the
stacks that are asked for are still loaded, the card is closed, and everything is released. A second time
it does nothing. -/
def teardown (world : World) : World :=
  if world.stage.tornDown then world
  else
    let world := world.beginTeardown.settle
    { world with session := world.session.closeCard, messages := [] }.release

end World

end Diorama
