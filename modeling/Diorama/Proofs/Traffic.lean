import Diorama.Proofs.WorldRuns

/-!
# Traffic

The turns of `World.run` are as large as they can be: a call that sends something counts it and puts it into a
queue in one go, and a loop takes a thing, does it and counts it off in one go. The parties themselves take
smaller steps, and any other party may come in between. `Traffic` is the world together with where everybody
stands between two such steps: requests whose callers have made their checks and have not counted them yet,
requests that are counted and in no queue yet, a tick that the clock is about to send, and what each of the two
loops has in hand. `Traffic.step` is one small step, and a run is any list of steps, so it is any way in which
the parties may come in between each other. Bringing the world down is not among the steps.

A traffic remembers what was asked for and what became of it, so that laws can speak of it. Nothing is decided
by what it remembers.

The small steps are those of which turns are made: every turn but the one that brings the world down is a few
steps that nobody comes in between (`Traffic.exists_run_turn`). So a run of the world is a run of the traffic
(`Traffic.exists_run_ofConfig`), and what holds of every traffic holds of the world.
-/

namespace Diorama

/-- Something that a caller asks of one of the loops. -/
inductive Request where
  | message (sent : Message)
  | preload (key : String)

/-- What a call comes to ask for, if it passes its checks and comes to ask for anything. -/
def Call.request? (world : World) (call : Call) : Option Request :=
  if world.stage.tornDown then none
  else
    match call with
    | .preload key => some (.preload key)
    | call => (call.message? world).map .message

/-- What a loop has in hand: nothing, or something that it has taken from its queue, or something that it has done
and not counted off. -/
inductive Hand (α : Type) where
  | free
  | taken (what : α)
  | finished (what : α)

namespace Hand

variable {α : Type}

def held : Hand α → List α
  | .free => []
  | .taken what | .finished what => [what]

def done : Hand α → List α
  | .finished what => [what]
  | .free | .taken _ => []

end Hand

/-- The world, and where everybody stands between two steps. -/
structure Traffic where
  world : World
  /-- Requests whose callers have made their checks. -/
  calling : List Request := []
  /-- Requests that are counted and that no queue has yet. -/
  sending : List Request := []
  /-- Whether the clock is about to send a tick. -/
  ticking : Bool := false
  /-- What the script loop has in hand, beside the message it may wait in. -/
  script : Hand Message := .free
  /-- What the stack loop has in hand. -/
  stack : Hand String := .free
  /-- The requests that were counted, in the order in which they were. -/
  accepted : List Request := []
  /-- The requests that could not be sent, and were counted off by their callers. -/
  withdrawn : List Request := []
  /-- How often the count was lowered. -/
  lowered : Nat := 0
  /-- What was put into the queue of the script loop, and what the loop is done with. -/
  sent : List Message := []
  handled : List Message := []
  /-- What was put into the queue of the stack loop, and what the loop is done with. -/
  asked : List String := []
  loaded : List String := []

/-- What one party does in one step. -/
inductive Step where
  /-- A caller makes the checks of a call. One that comes to no request is over with this. -/
  | check (call : Call)
  /-- A caller counts its request. -/
  | count (caller : Nat)
  /-- A caller puts its request into a queue. -/
  | post (caller : Nat)
  /-- A caller finds the queue closed, and counts its request off. -/
  | withdraw (caller : Nat)
  /-- Somebody does something to the stage, other than bringing the world down. -/
  | outside (act : Outside) (stays : act ≠ .tearDown)
  /-- The clock sees that no tick is pending, and marks one. -/
  | mark
  /-- The clock sends the tick that it has marked. -/
  | tick
  /-- The script loop takes the next message from its queue. -/
  | receive
  /-- The script loop carries out the message in hand, to its end or to where it waits. -/
  | carryOut
  /-- The script loop goes on with the message that it waits in. -/
  | resume
  /-- The script loop counts off the request that it has carried out. -/
  | finish
  /-- The stack loop takes the next stack from its queue. -/
  | fetch
  /-- The stack loop loads the stack in hand. -/
  | load
  /-- The stack loop counts off the stack that it has loaded. -/
  | finishLoad

/-- A tick that is carried out is not pending any more. -/
def World.hear (world : World) : Message → World
  | .tick => { world with tickPending := false }
  | _ => world

namespace Traffic

variable (traffic : Traffic)

/-! ## Callers and the clock -/

def check (call : Call) : Traffic :=
  match call.request? traffic.world with
  | some request => { traffic with calling := traffic.calling ++ [request] }
  | none => { traffic with world := traffic.world.turn (.call call) }

def count (caller : Nat) : Traffic :=
  match traffic.calling[caller]? with
  | none => traffic
  | some request =>
    { traffic with
      world := { traffic.world with work := traffic.world.work + 1 }
      calling := traffic.calling.eraseIdx caller
      sending := traffic.sending ++ [request]
      accepted := traffic.accepted ++ [request] }

/-- A request is in its queue. -/
def deliver : Request → Traffic
  | .message message =>
    { traffic with
      world := { traffic.world with messages := traffic.world.messages ++ [message] }
      sent := traffic.sent ++ [message] }
  | .preload key =>
    { traffic with
      world := { traffic.world with preloads := traffic.world.preloads ++ [key] }
      asked := traffic.asked ++ [key] }

def post (caller : Nat) : Traffic :=
  match traffic.sending[caller]? with
  | none => traffic
  | some request => { traffic with sending := traffic.sending.eraseIdx caller }.deliver request

/-- The count is lowered. -/
def countOff : Traffic :=
  { traffic with world := traffic.world.finishWork, lowered := traffic.lowered + 1 }

def withdraw (caller : Nat) : Traffic :=
  match traffic.sending[caller]? with
  | none => traffic
  | some request =>
    { traffic with
      sending := traffic.sending.eraseIdx caller
      withdrawn := traffic.withdrawn ++ [request] }.countOff

def mark : Traffic :=
  if traffic.ticking || traffic.world.tickPending then traffic
  else { traffic with world := { traffic.world with tickPending := true }, ticking := true }

def tick : Traffic :=
  if traffic.ticking then { traffic with ticking := false }.deliver (.message .tick) else traffic

/-! ## The loops -/

def receive : Traffic :=
  match traffic.script, traffic.world.suspended, traffic.world.messages with
  | .free, none, message :: rest =>
    { traffic with world := { traffic.world with messages := rest }, script := .taken message }
  | _, _, _ => traffic

/-- The script loop has come as far with a message as it can. The sender of a request with a ticket has its
reply before the request is counted off. -/
def comeTo (message : Message) : Progress (Except ScriptError Unit) → Traffic
  | .waiting session resume =>
    { traffic with
      world := { traffic.world with session, suspended := some { message, resume } }
      script := .free }
  | .done session outcome =>
    let replies := (message.ticket?.map fun ticket => { ticket, outcome : Reply }).toList
    let world := { traffic.world with session, suspended := none, replies := replies ++ traffic.world.replies }
    if message.isRequest then { traffic with world, script := .finished message }
    else { traffic with world, script := .free, handled := traffic.handled ++ [message] }

def carryOut : Traffic :=
  match traffic.script with
  | .taken message =>
    if traffic.world.stage.tornDown then { traffic with script := .free }
    else
      let world := traffic.world.hear message
      { traffic with world }.comeTo message (message.script world.session)
  | _ => traffic

def resume : Traffic :=
  match traffic.script, traffic.world.suspended, traffic.world.stage.gate.wait? with
  | .free, some suspended, some (outcome, gate) =>
    traffic.comeTo suspended.message (suspended.resume { traffic.world.session with gate } outcome)
  | _, _, _ => traffic

def finish : Traffic :=
  match traffic.script with
  | .finished message =>
    { traffic with script := .free, handled := traffic.handled ++ [message] }.countOff
  | _ => traffic

def fetch : Traffic :=
  match traffic.stack, traffic.world.preloads with
  | .free, key :: rest =>
    { traffic with world := { traffic.world with preloads := rest }, stack := .taken key }
  | _, _ => traffic

def load : Traffic :=
  match traffic.stack with
  | .taken key => { traffic with world := traffic.world.onStage (·.preload key), stack := .finished key }
  | _ => traffic

def finishLoad : Traffic :=
  match traffic.stack with
  | .finished key => { traffic with stack := .free, loaded := traffic.loaded ++ [key] }.countOff
  | _ => traffic

/-- The traffic after a step. Who cannot take it does nothing. -/
def step : Step → Traffic
  | .check call => traffic.check call
  | .count caller => traffic.count caller
  | .post caller => traffic.post caller
  | .withdraw caller => traffic.withdraw caller
  | .outside act _ => { traffic with world := traffic.world.onStage act.apply }
  | .mark => traffic.mark
  | .tick => traffic.tick
  | .receive => traffic.receive
  | .carryOut => traffic.carryOut
  | .resume => traffic.resume
  | .finish => traffic.finish
  | .fetch => traffic.fetch
  | .load => traffic.load
  | .finishLoad => traffic.finishLoad

def run (steps : List Step) : Traffic :=
  steps.foldl step traffic

/-- Before anybody has asked for anything. -/
def beginning (config : EngineConfig) (provider : Provider) (player : MediaPlayer) : Traffic :=
  { world := .silent config provider player }

end Traffic

/-! ## What a call comes to -/

namespace World

/-- The world when a request has been counted and is in its queue. -/
def requested (world : World) : Request → World
  | .message message => { world with messages := world.messages ++ [message], work := world.work + 1 }
  | .preload key => { world with preloads := world.preloads ++ [key], work := world.work + 1 }

/-- A call that comes to a request does nothing but make it. -/
theorem turn_of_request? {world : World} {call : Call} {request : Request}
    (asks : call.request? world = some request) : world.turn (.call call) = world.requested request := by
  unfold Call.request? at asks
  split at asks
  next => cases asks
  next living =>
    have sends (message : Message) : world.send message = .ok (world.requested (.message message)) := if_neg living
    -- A click is dropped while a blocking movie plays, so it only comes to a request where it is sent.
    have clicks {message : Message} {call : Call} (click : call.perform world = world.sendClick message)
        (asks : (if world.stage.blockingMovie then none else some message).map .message = some request) :
        world.turn (.call call) = world.requested request := by
      split at asks
      next => cases asks
      next unblocked =>
        cases asks
        rw [turn, click, sendClick, if_neg unblocked, sends]
    cases call with
    | pointerDown => exact clicks rfl asks
    | pointerUp => exact clicks rfl asks
    | movieFinished code =>
      have told : (if (world.stage.gate.complete code).1 then none else some (Message.movieFinished code)).map
          Request.message = some request := asks
      split at told
      next => cases told
      next unwaited =>
        cases told
        have live : world.stage.tornDown = false := Bool.eq_false_iff.mpr living
        rw [turn, Call.perform, movieFinished_of_live live, if_neg unwaited, sends]
    | preload key =>
      cases asks
      have asked : world.preload key = .ok (world.requested (.preload key)) := if_neg living
      rw [turn, Call.perform, asked]
    | displayTick now => cases asks
    | _ =>
      cases asks
      rw [turn, Call.perform, sends]

end World

/-! ## Turns as steps -/

namespace World

/-- A loop that handles a message at once hears it, carries it out and comes to what it comes to. -/
theorem handle_of_live {world : World} (live : ¬ world.stage.tornDown = true) (message : Message) :
    world.handle message = (world.hear message).proceed message (message.script (world.hear message).session) := by
  cases message <;> exact if_neg live

end World

namespace Traffic

/-- Nobody is between two steps. -/
structure AtRest (traffic : Traffic) : Prop where
  calling : traffic.calling = []
  sending : traffic.sending = []
  ticking : traffic.ticking = false
  script : traffic.script = .free
  stack : traffic.stack = .free

/-- Steps are taken one after the other. -/
theorem run_append (traffic : Traffic) (steps more : List Step) :
    traffic.run (steps ++ more) = (traffic.run steps).run more :=
  List.foldl_append

variable {traffic : Traffic}

/-- A caller whom nobody comes in between counts its request and sends it in one go. -/
theorem run_request (rests : traffic.AtRest) {call : Call} {request : Request}
    (asks : call.request? traffic.world = some request) :
    traffic.run [.check call, .count 0, .post 0] =
      { traffic with
        world := { traffic.world with work := traffic.world.work + 1 }
        accepted := traffic.accepted ++ [request] }.deliver request := by
  obtain ⟨world, calling, sending⟩ := traffic
  obtain ⟨rfl, rfl, -, -, -⟩ := rests
  rw [run, List.foldl_cons, step, check, asks]
  rfl

/-- The script loop goes as far with a message as it can, and if that is to the end, counts it off. -/
theorem finish_comeTo (rests : { traffic with script := .free }.AtRest) (message : Message)
    (progress : Progress (Except ScriptError Unit)) :
    (traffic.comeTo message progress).finish.world = traffic.world.proceed message progress ∧
      (traffic.comeTo message progress).finish.AtRest := by
  cases progress with
  | waiting session resume => exact ⟨rfl, { rests with }⟩
  | done session outcome =>
    unfold comeTo World.proceed
    dsimp only
    split
    · exact ⟨rfl, { rests with }⟩
    · exact ⟨rfl, { rests with }⟩

/-- To take a message, to carry it out and to finish it is to handle it at once. -/
theorem finish_carryOut (rests : { traffic with script := .free }.AtRest) {message : Message}
    (taken : traffic.script = .taken message) :
    traffic.carryOut.finish.world = traffic.world.handle message ∧ traffic.carryOut.finish.AtRest := by
  unfold carryOut
  rw [taken]
  dsimp only
  split
  next down => exact ⟨(if_pos down).symm, { rests with }⟩
  next live =>
    let heard : Traffic := { traffic with world := traffic.world.hear message, script := .taken message }
    rw [World.handle_of_live live]
    exact @finish_comeTo heard { rests with } message _

/-- A call that nobody comes in between. -/
theorem exists_run_call (rests : traffic.AtRest) (call : Call) :
    ∃ steps, (traffic.run steps).world = traffic.world.turn (.call call) ∧ (traffic.run steps).AtRest := by
  cases asks : call.request? traffic.world with
  | none =>
    refine ⟨[.check call], ?_⟩
    rw [run, List.foldl_cons, step, check, asks]
    exact ⟨rfl, { rests with }⟩
  | some request =>
    refine ⟨[.check call, .count 0, .post 0], ?_⟩
    rw [run_request rests asks, World.turn_of_request? asks]
    cases request with
    | message message => exact ⟨rfl, { rests with }⟩
    | preload key => exact ⟨rfl, { rests with }⟩

/-- The world takes a message by steps of the script loop. -/
theorem exists_run_take (rests : traffic.AtRest) :
    ∃ steps, (traffic.run steps).world = traffic.world.takeMessage ∧ (traffic.run steps).AtRest := by
  obtain ⟨⟨session, compositor, suspended, messages⟩, calling, sending, ticking, script⟩ := traffic
  obtain rfl : script = .free := rests.script
  cases suspended with
  | some suspended => exact ⟨[], rfl, rests⟩
  | none =>
    cases messages with
    | nil => exact ⟨[], rfl, rests⟩
    | cons message rest =>
      exact ⟨[.receive, .carryOut, .finish], finish_carryOut { rests with script := rfl } rfl⟩

/-- The world goes on with a message by steps of the script loop. -/
theorem exists_run_resume (rests : traffic.AtRest) :
    ∃ steps, (traffic.run steps).world = traffic.world.resumeScript ∧ (traffic.run steps).AtRest := by
  have free := rests.script
  cases waits : traffic.world.suspended with
  | none =>
    refine ⟨[], ?_, rests⟩
    rw [World.resumeScript, waits]
    rfl
  | some suspended =>
    cases answered : traffic.world.stage.gate.wait? with
    | none =>
      refine ⟨[], ?_, rests⟩
      rw [World.resumeScript, waits, answered]
      rfl
    | some answer =>
      refine ⟨[.resume, .finish], ?_⟩
      change traffic.resume.finish.world = _ ∧ traffic.resume.finish.AtRest
      rw [World.resumeScript, waits, answered, resume, free, waits, answered]
      exact finish_comeTo { rests with script := rfl } suspended.message _

/-- The world loads a stack by steps of the stack loop. -/
theorem exists_run_load (rests : traffic.AtRest) :
    ∃ steps, (traffic.run steps).world = traffic.world.takePreload ∧ (traffic.run steps).AtRest := by
  cases first : traffic.world.preloads with
  | nil =>
    refine ⟨[], ?_, rests⟩
    rw [World.takePreload, first]
    rfl
  | cons key rest =>
    refine ⟨[.fetch, .load, .finishLoad], ?_⟩
    change traffic.fetch.load.finishLoad.world = _ ∧ traffic.fetch.load.finishLoad.AtRest
    rw [World.takePreload, first, fetch, rests.stack, first]
    exact ⟨rfl, { rests with stack := rfl }⟩

/-- The world takes note of the clock by steps of the clock. -/
theorem exists_run_clock (rests : traffic.AtRest) :
    ∃ steps, (traffic.run steps).world = traffic.world.clockTick ∧ (traffic.run steps).AtRest := by
  cases pending : traffic.world.tickPending with
  | true => exact ⟨[], (if_pos pending).symm, rests⟩
  | false =>
    refine ⟨[.mark, .tick], ?_⟩
    change traffic.mark.tick.world = _ ∧ traffic.mark.tick.AtRest
    rw [World.clockTick, mark, rests.ticking, pending]
    exact ⟨rfl, { rests with ticking := rfl }⟩

/-- Every turn but the one that brings the world down is a few steps that nobody comes in between. -/
theorem exists_run_turn (rests : traffic.AtRest) {turn : Turn} (goesOn : turn ≠ .teardown) :
    ∃ steps, (traffic.run steps).world = traffic.world.turn turn ∧ (traffic.run steps).AtRest := by
  have acts (act : Outside) (stays : act ≠ .tearDown) : ∃ steps,
      (traffic.run steps).world = traffic.world.onStage act.apply ∧ (traffic.run steps).AtRest :=
    ⟨[.outside act stays], rfl, { rests with }⟩
  cases turn with
  | call call => exact exists_run_call rests call
  | skip => exact acts (.gate .skip) nofun
  | setVariable path value => exact acts (.setting path value) nofun
  | outside act stays => exact acts act stays
  | clock => exact exists_run_clock rests
  | resume => exact exists_run_resume rests
  | take => exact exists_run_take rests
  | load => exact exists_run_load rests
  | teardown => exact absurd rfl goesOn

/-- As long as the world is not brought down, its turns are steps of the traffic. -/
theorem exists_run (rests : traffic.AtRest) {turns : List Turn} (goesOn : .teardown ∉ turns) :
    ∃ steps, (traffic.run steps).world = traffic.world.run turns ∧ (traffic.run steps).AtRest := by
  induction turns generalizing traffic with
  | nil => exact ⟨[], rfl, rests⟩
  | cons turn rest ih =>
    rw [List.mem_cons, not_or] at goesOn
    obtain ⟨steps, world, between⟩ := exists_run_turn rests (Ne.symm goesOn.1)
    obtain ⟨more, later, ended⟩ := ih between goesOn.2
    refine ⟨steps ++ more, ?_, ?_⟩
    · rw [run_append, later, world]
      rfl
    · rwa [run_append]

/-- The world of a configuration, and whatever comes of it until it is brought down, is the world of a run of the
traffic that begins before anybody, the configuration included, has asked for anything. -/
theorem exists_run_ofConfig (config : EngineConfig) (provider : Provider) (player : MediaPlayer)
    {turns : List Turn} (goesOn : .teardown ∉ turns) :
    ∃ steps, ((beginning config provider player).run steps).AtRest ∧
      ((beginning config provider player).run steps).world
        = (World.ofConfig config provider player).run turns := by
  have rests : (beginning config provider player).AtRest := ⟨rfl, rfl, rfl, rfl, rfl⟩
  have calls : Turn.teardown ∉ config.calls.map Turn.call ++ turns := by
    rw [List.mem_append, not_or]
    refine ⟨fun among => ?_, goesOn⟩
    obtain ⟨call, -, never⟩ := List.mem_map.mp among
    cases never
  obtain ⟨steps, world, ended⟩ := exists_run rests calls
  refine ⟨steps, ended, ?_⟩
  rw [world, World.run_append, World.ofConfig_eq_run]
  rfl

end Traffic

end Diorama
