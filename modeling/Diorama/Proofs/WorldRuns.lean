import Diorama.Proofs.Legs
import Mathlib.Data.List.Induction

/-!
# Runs of the world

Several parties act on one world, and each of them does one thing at a time: the host makes a call, the clock
ticks, a loop takes the next thing it has to do or goes on with what it waits in, somebody else does something
to the stage. A run is any list of such turns (`World.run`), so what is proved of all runs holds for every
order in which they may come. Calls that wait for a reply are not turns by themselves; what they do is to send
a message and to let the loops have their turns.

What a turn can be for the script loop is said once (`World.Move`): either it does not concern the loop, and
perhaps adds something to its queue; or the loop goes on with the message it waits in; or it takes the next
one. From this comes what holds in all runs. The session is one that a session can come to, and when the loop
waits, it waits where that session waits (`World.Engaged`).

Bringing the world down is no such move. While it comes down it is `World.Falling`, and the loops come to their
ends; then it has `World.Ended`, and stays so. Before that it `World.Lives`, and what every move keeps holds as
long as it does (`World.live_invariant`). What has come down was brought down at one moment of the run, and
lived until then (`World.exists_teardown`).
-/

namespace Diorama

/-! ## Turns -/

/-- A call of the host that asks the loops for something, or shows the display. -/
inductive Call where
  | goto (location : Location) (ticket : Option Nat)
  | restore (state : GameState) (ticket : Nat)
  | pointerMoved (point : Point Float32)
  | pointerDown
  | pointerUp
  | viewport (size : Size Float32)
  | movieFinished (code : UInt16)
  | preload (key : String)
  | displayTick (now : Nanoseconds)

/-- What the call makes of the world, or why it is refused. -/
def Call.perform (world : World) : Call → Except WorldError World
  | .goto location ticket => world.send (.goto location ticket)
  | .restore state ticket => world.send (.restore state ticket)
  | .pointerMoved point => world.send (.pointerMoved point)
  | .pointerDown => world.sendClick .pointerDown
  | .pointerUp => world.sendClick .pointerUp
  | .viewport size => world.send (.viewport size)
  | .movieFinished code => world.movieFinished code
  | .preload key => world.preload key
  | .displayTick now => (world.displayTick now).map (·.2)

/-- What one party does in one go. -/
inductive Turn where
  | call (call : Call)
  /-- The host skips the movie that is waited for. -/
  | skip
  | setVariable (path : String) (value : EngineValue)
  /-- Somebody else does something to the stage, other than bringing the world down. -/
  | outside (act : Outside) (stays : act ≠ .tearDown)
  /-- The animation clock ticks. -/
  | clock
  /-- The script loop goes on with the message it waits in. -/
  | resume
  /-- The script loop takes the next message. -/
  | take
  /-- The stack loop takes the next stack. -/
  | load
  | teardown

namespace World

/-- The world after a turn. A call that is refused changes nothing. -/
def turn (world : World) : Turn → World
  | .call call =>
    match call.perform world with
    | .ok later => later
    | .error _ => world
  | .skip => world.skipMovie.2
  | .setVariable path value => world.setVariable path value
  | .outside act _ => world.onStage act.apply
  | .clock => world.clockTick
  | .resume => world.resumeScript
  | .take => world.takeMessage
  | .load => world.takePreload
  | .teardown => world.teardown

/-- The world after some turns. -/
def run (world : World) (turns : List Turn) : World :=
  turns.foldl turn world

/-- Turns are taken one after the other. -/
theorem run_append (world : World) (turns more : List Turn) :
    world.run (turns ++ more) = (world.run turns).run more :=
  List.foldl_append

/-- The last turn is taken after all others. -/
theorem run_concat (world : World) (turns : List Turn) (turn : Turn) :
    world.run (turns ++ [turn]) = (world.run turns).turn turn :=
  world.run_append turns [turn]

end World

/-! ## How a world begins -/

/-- A world of which nobody has asked for anything yet. -/
def World.silent (config : EngineConfig) (provider : Provider) (player : MediaPlayer) : World :=
  { session := .ofStage (.ofConfig config provider player)
    compositor := { duration := config.transitionDuration } }

/-- The calls by which a configuration asks for stacks to be loaded ahead and for a card to start with. -/
def EngineConfig.calls (config : EngineConfig) : List Call :=
  config.preload.map Call.preload ++ config.start.toList.map (Call.goto · none)

namespace World

/-- In a world that lives, to ask for stacks one by one is to put all of them into the queue. -/
theorem run_preloads {world : World} (live : world.stage.tornDown = false) (keys : List String) :
    world.run (keys.map fun key => .call (.preload key)) =
      { world with preloads := world.preloads ++ keys, work := world.work + keys.length } := by
  induction keys generalizing world with
  | nil =>
    rw [List.append_nil]
    rfl
  | cons key rest ih =>
    let asked : World := { world with preloads := world.preloads ++ [key], work := world.work + 1 }
    have done : world.preload key = .ok asked := if_neg (Bool.eq_false_iff.mp live)
    have first : world.turn (.call (.preload key)) = asked := by
      rw [turn, Call.perform, done]
    have onward := @ih asked live
    rw [run, List.map_cons, List.foldl_cons, first]
    refine onward.trans ?_
    rw [List.append_assoc, List.singleton_append, Nat.add_assoc, Nat.add_comm 1]
    rfl

/-- The world of a configuration is a silent one in which the configuration has asked for what it asks for. -/
theorem ofConfig_eq_run (config : EngineConfig) (provider : Provider) (player : MediaPlayer) :
    ofConfig config provider player = (silent config provider player).run (config.calls.map .call) := by
  have live : (silent config provider player).stage.tornDown = false := rfl
  have preloads : (silent config provider player).run (config.preload.map fun key => .call (.preload key)) =
      { silent config provider player with
        preloads := config.preload, work := 0 + config.preload.length } := run_preloads live config.preload
  rw [EngineConfig.calls, List.map_append, List.map_map, run_append]
  change _ = run (run _ (config.preload.map fun key => .call (.preload key))) _
  rw [preloads, ofConfig, Nat.zero_add]
  cases config.start with
  | none =>
    rw [Option.map_none, Option.toList_none, List.length_nil, Nat.zero_add]
    rfl
  | some location =>
    rw [Option.map_some, Option.toList_some, List.length_singleton, Nat.add_comm]
    rfl

end World

/-! ## What is sent -/

/-- The message that a call adds to the queue of the script loop, if it is not refused. -/
def Call.message? (world : World) : Call → Option Message
  | .goto location ticket => some (.goto location ticket)
  | .restore state ticket => some (.restore state ticket)
  | .pointerMoved point => some (.pointerMoved point)
  | .pointerDown => if world.stage.blockingMovie then none else some .pointerDown
  | .pointerUp => if world.stage.blockingMovie then none else some .pointerUp
  | .viewport size => some (.viewport size)
  | .movieFinished code => if (world.stage.gate.complete code).1 then none else some (.movieFinished code)
  | .preload _ | .displayTick _ => none

/-- The message that a turn adds to the queue of the script loop. -/
def Turn.message? (world : World) : Turn → Option Message
  | .call made => if world.stage.tornDown then none else made.message? world
  | .clock => if world.tickPending then none else some .tick
  | _ => none

/-! ## What a turn can be -/

namespace World

/-- What a turn can be for the script loop, where these are the messages that it adds to the queue. -/
inductive Move (world : World) (sent : List Message) (later : World) : Prop where
  /-- It does not concern what the loop does, except that something is sent. -/
  | apart (session : later.session = world.session ∨
        ∃ act, act ≠ Outside.tearDown ∧ later.session = world.session.suffer act)
      (suspended : later.suspended = world.suspended) (messages : later.messages = world.messages ++ sent)
  /-- The loop goes on with the message it waits in. -/
  | resumes {suspended : Suspended} {outcome : GateOutcome} {gate : MovieGate} (silent : sent = [])
      (waits : world.suspended = some suspended)
      (answered : world.session.gate.wait? = some (outcome, gate))
      (same : later = world.proceed suspended.message (suspended.resume { world.session with gate } outcome))
  /-- The loop takes a message and carries it out. -/
  | takes {message : Message} {rest : List Message} {between : World} (silent : sent = [])
      (idle : world.suspended = none) (first : world.messages = message :: rest)
      (live : world.session.tornDown = false) (session : between.session = world.session)
      (messages : between.messages = rest)
      (same : later = between.proceed message (message.script world.session))
  /-- In a world that is torn down the loop lets a message go. -/
  | drops {message : Message} {rest : List Message} (silent : sent = []) (idle : world.suspended = none)
      (first : world.messages = message :: rest) (down : world.session.tornDown = true)
      (session : later.session = world.session) (still : later.suspended = none)
      (messages : later.messages = rest)

namespace Move

variable {world : World}

/-- Nothing happens. -/
theorem refl (world : World) : world.Move [] world :=
  .apart (.inl rfl) rfl (List.append_nil _).symm

/-- Somebody does something to the stage. -/
theorem suffer (act : Outside) (stays : act ≠ .tearDown) (world : World) :
    world.Move [] (world.onStage act.apply) :=
  .apart (.inr ⟨act, stays, rfl⟩) rfl (List.append_nil _).symm

end Move

/-- A message that is sent to a world that lives is added to the queue. -/
theorem move_of_send (world : World) (message : Message) {later : World} (sent : world.send message = .ok later) :
    world.stage.tornDown = false ∧ world.Move [message] later := by
  unfold World.send World.live at sent
  split at sent
  next => cases sent
  next live =>
    cases sent
    exact ⟨Bool.eq_false_iff.mpr live, .apart (.inl rfl) rfl rfl⟩

/-- A click is sent, or dropped while a blocking movie plays. -/
theorem move_of_sendClick (world : World) (message : Message) {later : World}
    (sent : world.sendClick message = .ok later) : world.stage.tornDown = false ∧
      world.Move (if world.stage.blockingMovie then none else some message).toList later := by
  unfold World.sendClick at sent
  split at sent
  next blocked =>
    unfold World.live at sent
    split at sent
    next => cases sent
    next live =>
      cases sent
      rw [if_pos blocked]
      exact ⟨Bool.eq_false_iff.mpr live, .refl world⟩
  next open_ =>
    rw [if_neg open_]
    exact world.move_of_send message sent

/-- In a world that lives, the end of a movie goes to the gate if it is waited for, and else into the queue. -/
theorem movieFinished_of_live {world : World} (live : world.stage.tornDown = false) (code : UInt16) :
    world.movieFinished code =
      if (world.stage.gate.complete code).1 then .ok (world.onStage (Outside.gate (.complete code)).apply)
      else world.send (.movieFinished code) := by
  have allowed : world.live id = .ok world := if_neg (Bool.eq_false_iff.mp live)
  rw [movieFinished, allowed]
  dsimp only
  cases reported : world.stage.gate.complete code with
  | mk waited gate =>
    have same : gate = (world.stage.gate.complete code).2 := by rw [reported]
    cases waited with
    | true =>
      rw [same]
      rfl
    | false => rfl

/-- The end of a movie is told to the gate if it is waited for, and is sent otherwise. -/
theorem move_of_movieFinished (world : World) (code : UInt16) {later : World}
    (told : world.movieFinished code = .ok later) : world.stage.tornDown = false ∧
      world.Move (if (world.stage.gate.complete code).1 then none else some (.movieFinished code)).toList
        later := by
  cases down : world.stage.tornDown with
  | true =>
    have refused : world.live id = .error .tornDown := if_pos down
    rw [movieFinished, refused] at told
    cases told
  | false =>
    rw [movieFinished_of_live down] at told
    split at told
    next waited =>
      cases told
      rw [if_pos waited]
      exact ⟨rfl, .suffer (.gate (.complete code)) nofun world⟩
    next unwaited =>
      rw [if_neg unwaited]
      exact ⟨rfl, (world.move_of_send _ told).2⟩

/-- To ask for a stack sends nothing to the script loop. -/
theorem move_of_preload (world : World) (key : String) {later : World} (asked : world.preload key = .ok later) :
    world.stage.tornDown = false ∧ world.Move [] later := by
  unfold World.preload World.live at asked
  split at asked
  next => cases asked
  next live =>
    cases asked
    exact ⟨Bool.eq_false_iff.mpr live, .apart (.inl rfl) rfl (List.append_nil _).symm⟩

/-- To fetch what the display is to show sends nothing to the script loop. -/
theorem move_of_displayTick (world : World) (now : Nanoseconds) {later : World}
    (shown : (world.displayTick now).map (·.2) = .ok later) :
    world.stage.tornDown = false ∧ world.Move [] later := by
  unfold World.displayTick at shown
  split at shown
  next => cases shown
  next live =>
    cases shown
    exact ⟨Bool.eq_false_iff.mpr live, .apart (.inr ⟨.drain, nofun, rfl⟩) rfl (List.append_nil _).symm⟩

/-- A call that is not refused was made in a world that lives, and sends what it sends. -/
theorem move_of_perform {world later : World} {call : Call} (done : call.perform world = .ok later) :
    world.stage.tornDown = false ∧ world.Move (call.message? world).toList later := by
  cases call with
  | goto location ticket => exact world.move_of_send _ done
  | restore state ticket => exact world.move_of_send _ done
  | pointerMoved point => exact world.move_of_send _ done
  | pointerDown => exact world.move_of_sendClick _ done
  | pointerUp => exact world.move_of_sendClick _ done
  | viewport size => exact world.move_of_send _ done
  | movieFinished code => exact world.move_of_movieFinished code done
  | preload key => exact world.move_of_preload key done
  | displayTick now => exact world.move_of_displayTick now done

/-- In a world that has come down nothing is sent. -/
theorem send_of_tornDown {world : World} (down : world.stage.tornDown = true) (message : Message) :
    world.send message = .error .tornDown :=
  if_pos down

/-- In a world that is torn down every call is refused. -/
theorem perform_of_tornDown {world : World} (down : world.stage.tornDown = true) (call : Call) :
    call.perform world = .error .tornDown := by
  have clicks (message : Message) : world.sendClick message = .error .tornDown := by
    unfold World.sendClick
    split
    · exact if_pos down
    · exact send_of_tornDown down message
  cases call with
  | pointerDown => exact clicks .pointerDown
  | pointerUp => exact clicks .pointerUp
  | movieFinished code =>
    have refused : world.live id = .error .tornDown := if_pos down
    change world.movieFinished code = _
    rw [World.movieFinished, refused]
  | preload key => exact if_pos down
  | displayTick now =>
    have refused : world.displayTick now = .error .tornDown := if_pos down
    change (world.displayTick now).map _ = _
    rw [refused]
    rfl
  | _ => exact send_of_tornDown down _

/-- In a world that lives no call is refused. -/
theorem exists_perform {world : World} (live : world.stage.tornDown = false) (call : Call) :
    ∃ later, call.perform world = .ok later := by
  have living : ¬ world.stage.tornDown = true := Bool.eq_false_iff.mp live
  have sends (message : Message) : ∃ later, world.send message = .ok later := ⟨_, if_neg living⟩
  have clicks (message : Message) : ∃ later, world.sendClick message = .ok later := by
    unfold World.sendClick
    split
    · exact ⟨_, if_neg living⟩
    · exact sends message
  cases call with
  | pointerDown => exact clicks .pointerDown
  | pointerUp => exact clicks .pointerUp
  | movieFinished code =>
    change ∃ later, world.movieFinished code = _
    rw [movieFinished_of_live live]
    split
    · exact ⟨_, rfl⟩
    · exact sends (.movieFinished code)
  | preload key => exact ⟨_, if_neg living⟩
  | displayTick now =>
    have shown : world.displayTick now = .ok _ := if_neg living
    change ∃ later, (world.displayTick now).map _ = _
    rw [shown]
    exact ⟨_, rfl⟩
  | _ => exact sends _

/-- The loop goes on with the message it waits in, if the gate has answered. -/
theorem move_of_resumeScript (world : World) : world.Move [] world.resumeScript := by
  unfold resumeScript
  cases waits : world.suspended with
  | none => exact .refl world
  | some suspended =>
    cases answered : world.stage.gate.wait? with
    | none => exact .refl world
    | some answer => exact .resumes rfl waits answered rfl

/-- The loop takes a message if it waits in none, and in a world that is torn down lets it go. -/
theorem move_of_takeMessage (world : World) : world.Move [] world.takeMessage := by
  unfold takeMessage
  cases idle : world.suspended with
  | some suspended => exact .refl world
  | none =>
    cases first : world.messages with
    | nil => exact .refl world
    | cons message rest =>
      dsimp only
      unfold handle
      split
      next down => exact .drops rfl idle first down rfl rfl rfl
      next live =>
        have live : world.session.tornDown = false := Bool.eq_false_iff.mpr live
        cases message with
        | tick =>
          refine .takes rfl idle first live ?_ ?_ rfl
          · rfl
          · rfl
        | _ =>
          refine .takes rfl idle first live ?_ ?_ rfl
          · rfl
          · rfl

/-- What the stack loop does is to the script loop what others do to the stage. -/
theorem move_of_takePreload (world : World) : world.Move [] world.takePreload := by
  unfold takePreload
  cases world.preloads with
  | nil => exact .refl world
  | cons key rest => exact .apart (.inr ⟨.preload key, nofun, rfl⟩) rfl (List.append_nil _).symm

/-- Every turn but bringing the world down is a move. -/
theorem turn_move (world : World) {turn : Turn} (goesOn : turn ≠ .teardown) :
    world.Move (turn.message? world).toList (world.turn turn) := by
  cases turn with
  | call call =>
    change world.Move (if world.stage.tornDown then none else call.message? world).toList _
    unfold World.turn
    dsimp only
    cases done : call.perform world with
    | ok later =>
      obtain ⟨live, move⟩ := move_of_perform done
      rw [if_neg (Bool.eq_false_iff.mp live)]
      exact move
    -- Calls are refused only once the world is down, and then nothing is sent.
    | error error =>
      have down : world.stage.tornDown = true := by
        rw [← Bool.not_eq_false]
        intro live
        obtain ⟨later, allowed⟩ := exists_perform live call
        cases done.symm.trans allowed
      rw [if_pos down]
      exact .refl world
  | skip => exact .suffer (.gate .skip) nofun world
  | setVariable path value => exact .suffer (.setting path value) nofun world
  | outside act stays => exact .suffer act stays world
  | clock =>
    unfold World.turn clockTick Turn.message?
    dsimp only
    split
    · exact .refl world
    · exact .apart (.inl rfl) rfl rfl
  | resume => exact world.move_of_resumeScript
  | take => exact world.move_of_takeMessage
  | load => exact world.move_of_takePreload
  | teardown => exact absurd rfl goesOn

/-! ## What the loop does with a message -/

@[simp] theorem session_proceed (world : World) (message : Message)
    (progress : Progress (Except ScriptError Unit)) :
    (world.proceed message progress).session = progress.session := by
  cases progress with
  | waiting session resume => rfl
  | done session outcome =>
    unfold proceed
    dsimp only
    split <;> rfl

@[simp] theorem messages_proceed (world : World) (message : Message)
    (progress : Progress (Except ScriptError Unit)) :
    (world.proceed message progress).messages = world.messages := by
  cases progress with
  | waiting session resume => rfl
  | done session outcome =>
    unfold proceed
    dsimp only
    split <;> rfl

/-- The loop waits exactly where the program does. -/
theorem suspended_proceed (world : World) (message : Message) (progress : Progress (Except ScriptError Unit)) :
    (world.proceed message progress).suspended =
      match progress with
      | .waiting _ resume => some { message, resume }
      | .done _ _ => none := by
  cases progress with
  | waiting session resume => rfl
  | done session outcome =>
    unfold proceed
    dsimp only
    split <;> rfl

end World

/-- Whether the button is held after a message, if it is a click. -/
def Message.click? : Message → Option Bool
  | .pointerDown => some true
  | .pointerUp => some false
  | _ => none

/-- The session as a message begins: a click sets the button. -/
def Message.press (message : Message) (session : Session) : Session :=
  match message.click? with
  | some down => { session with buttonDown := down }
  | none => session

/-- Once a click has set the button, every message goes in legs. -/
theorem Message.legs (message : Message) (session : Session) :
    (message.script session).Legs (message.press session) := by
  have law := Script.legs
  cases message with
  | goto location ticket => exact law.goto_holds location session
  | restore state ticket => exact law.restore_holds state session
  | pointerMoved point => exact law.pointerMoved_holds point session
  | pointerDown => exact law.active_settle_holds .mouseDown { session with buttonDown := true }
  | pointerUp => exact law.active_settle_holds .mouseUp { session with buttonDown := false }
  | viewport size => exact law.viewportChanged_holds size session
  | movieFinished code => exact law.movieFinished_holds code session
  | tick => exact law.animationTick_holds Script.get_legs session

/-! ## Runs and sessions -/

/-- What an event has come to can go on. -/
theorem Reachable.onward {progress further : Progress (Except ScriptError Unit)} (reachable : Reachable progress)
    (leads : progress.Leads further) : Reachable further := by
  cases reachable with
  | start config provider player =>
    rw [Progress.leads_done_iff.mp leads]
    exact .start config provider player
  | outside before act =>
    rw [Progress.leads_done_iff.mp leads]
    exact .outside before act
  | event before event begun => exact .event before event (begun.trans leads)

namespace World

/-- The session is one that a session can come to; and if the loop waits, it is where that session waits. -/
def Engaged (world : World) : Prop :=
  match world.suspended with
  | none => ∃ result, Reachable (.done world.session result)
  | some suspended => Reachable (.waiting world.session suspended.resume) ∧
      ∀ later outcome, (suspended.resume later outcome).Legs later

/-- A world whose loop is idle stands between two events. -/
theorem engaged_of_idle {world : World} (idle : world.suspended = none) :
    world.Engaged ↔ ∃ result, Reachable (.done world.session result) := by
  rw [Engaged, idle]

/-- A world whose loop waits stands where a run waits, and goes on in legs. -/
theorem engaged_of_waits {world : World} {suspended : Suspended} (waits : world.suspended = some suspended) :
    world.Engaged ↔ Reachable (.waiting world.session suspended.resume) ∧
      ∀ later outcome, (suspended.resume later outcome).Legs later := by
  rw [Engaged, waits]

/-- The queues make no difference to where the session stands. -/
theorem Engaged.of_same {world later : World} (h : world.Engaged)
    (session : later.session = world.session) (suspended : later.suspended = world.suspended) : later.Engaged := by
  unfold Engaged
  rw [session, suspended]
  exact h

/-- Whatever somebody else does to the stage. -/
theorem Engaged.suffer {world later : World} (h : world.Engaged) {act : Outside}
    (session : later.session = world.session.suffer act) (same : later.suspended = world.suspended) :
    later.Engaged := by
  cases waits : world.suspended with
  | none =>
    obtain ⟨result, reachable⟩ := (engaged_of_idle waits).mp h
    refine (engaged_of_idle (same.trans waits)).mpr ⟨result, ?_⟩
    rw [session]
    exact .outside reachable act
  | some suspended =>
    obtain ⟨reachable, legs⟩ := (engaged_of_waits waits).mp h
    refine (engaged_of_waits (same.trans waits)).mpr ⟨?_, legs⟩
    rw [session]
    exact reachable.onward (.single (.outside world.session suspended.resume act))

/-- A loop that has come as far as it can stands where its run has come to. -/
theorem engaged_proceed {world : World} {message : Message} {progress : Progress (Except ScriptError Unit)}
    {first : Session} (reachable : Reachable progress) (legs : progress.Legs first) :
    (world.proceed message progress).Engaged := by
  have waits := world.suspended_proceed message progress
  cases progress with
  | done session result => exact (engaged_of_idle waits).mpr ⟨result, by rwa [session_proceed]⟩
  | waiting session resume => exact (engaged_of_waits waits).mpr ⟨reachable, legs.2.2⟩

/-- No turn brings the session to where no session can come. -/
theorem Engaged.move {world later : World} {sent : List Message} (h : world.Engaged)
    (move : world.Move sent later) : later.Engaged := by
  cases move with
  | apart session suspended messages =>
    rcases session with same | ⟨act, -, same⟩
    · exact h.of_same same suspended
    · exact h.suffer same suspended
  | @resumes suspended outcome gate _ waits answered same =>
    obtain ⟨reachable, legs⟩ := (engaged_of_waits waits).mp h
    rw [same]
    exact engaged_proceed (reachable.onward (.single (.answer answered suspended.resume))) (legs _ outcome)
  | @takes message rest between _ idle first live session messages same =>
    obtain ⟨result, reachable⟩ := (engaged_of_idle idle).mp h
    rw [same]
    exact engaged_proceed (.event reachable (.message message) .refl) (message.legs world.session)
  | drops _ idle first down session still messages => exact h.of_same session (still.trans idle.symm)

end World

/-- What somebody else does to the stage is no more than what a leg may do, unless it is the end. -/
theorem Session.ongoing_suffer (session : Session) {act : Outside} (stays : act ≠ .tearDown) :
    session.Ongoing (session.suffer act) := by
  cases act with
  | gate call => exact ⟨rfl, rfl, fun aborted => MovieGate.aborted_receive aborted call, fun _ => rfl, rfl⟩
  | preload key =>
    refine ⟨rfl, rfl, id, fun _ => rfl, ?_⟩
    refine (List.countP_cons_of_neg ?_ : _ = session.endings)
    split <;> exact Bool.false_ne_true
  | tearDown => exact absurd rfl stays
  | _ => exact ⟨rfl, rfl, id, fun _ => rfl, rfl⟩

namespace World

/-- A move is a leg that begins with the session as it is, or as a click that was taken makes it. -/
theorem Engaged.ongoing {world later : World} {sent : List Message} (h : world.Engaged)
    (move : world.Move sent later) : ∃ first : Session, first.Ongoing later.session ∧
      (first = world.session ∨ world.session.tornDown = false ∧
        ∃ message rest, world.messages = message :: rest ∧ first = message.press world.session) := by
  cases move with
  | apart session suspended messages =>
    refine ⟨world.session, ?_, .inl rfl⟩
    rcases session with same | ⟨act, stays, same⟩
    · rw [same]
      exact .refl world.session
    · rw [same]
      exact world.session.ongoing_suffer stays
  | @resumes suspended outcome gate _ waits answered same =>
    obtain ⟨-, legs⟩ := (engaged_of_waits waits).mp h
    have leg := (legs { world.session with gate } outcome).session
    refine ⟨world.session, ?_, .inl rfl⟩
    rw [same, session_proceed]
    exact ((Session.leg_answered answered).trans leg).toOngoing
  | @takes message rest between _ idle first live session messages same =>
    refine ⟨message.press world.session, ?_, .inr ⟨live, message, rest, first, rfl⟩⟩
    rw [same, session_proceed]
    exact (message.legs world.session).session.toOngoing
  | drops _ idle first down session still messages =>
    refine ⟨world.session, ?_, .inl rfl⟩
    rw [session]
    exact .refl world.session

/-- No turn takes the world down by itself; a teardown is not a turn. -/
theorem Engaged.tornDown {world later : World} {sent : List Message} (h : world.Engaged)
    (move : world.Move sent later) : later.session.tornDown = world.session.tornDown := by
  obtain ⟨first, ongoing, begins⟩ := h.ongoing move
  rw [ongoing.tornDown]
  rcases begins with rfl | ⟨-, message, rest, -, rfl⟩
  · rfl
  · unfold Message.press
    split <;> rfl

/-! ## Coming down -/

/-- The world is coming down: its session goes on, but no wait lasts and no message is carried out. -/
structure Falling (world : World) : Prop where
  engaged : world.Engaged
  tornDown : world.session.tornDown = true
  aborted : world.session.gate.aborted = true

/-- A teardown begins by marking the session and aborting the gate. -/
theorem Engaged.falling_beginTeardown {world : World} (h : world.Engaged) : world.beginTeardown.Falling where
  engaged :=
    have begins : world.beginTeardown.session = world.session.suffer .tearDown := rfl
    h.suffer begins rfl
  tornDown := rfl
  aborted := rfl

namespace Falling

variable {world : World}

/-- Whatever happens while the world comes down, no message is carried out. -/
theorem move {later : World} {sent : List Message} (h : world.Falling) (move : world.Move sent later) :
    later.Falling ∧ world.session.Ongoing later.session := by
  obtain ⟨first, ongoing, rfl | ⟨live, -⟩⟩ := h.engaged.ongoing move
  · exact ⟨⟨h.engaged.move move, ongoing.tornDown.trans h.tornDown, ongoing.aborted h.aborted⟩, ongoing⟩
  · cases live.symm.trans h.tornDown

/-- The stacks that are asked for are still loaded. -/
theorem loads (h : world.Falling) (keys : List String) :
    let later := keys.foldl (fun world _ => world.takePreload) world
    later.Falling ∧ world.session.Ongoing later.session := by
  induction keys generalizing world with
  | nil => exact ⟨h, .refl world.session⟩
  | cons key rest ih =>
    obtain ⟨falling, ongoing⟩ := h.move world.move_of_takePreload
    obtain ⟨falling, onward⟩ := ih falling
    exact ⟨falling, ongoing.trans onward⟩

/-- The wait there may be ends, and what comes of the message after it does not wait again. -/
theorem suspended_resumeScript (h : world.Falling) : world.resumeScript.suspended = none := by
  unfold resumeScript
  cases waits : world.suspended with
  | none => exact waits
  | some suspended =>
    have answered : world.stage.gate.wait? = some (.aborted, { world.stage.gate with waiting := none }) :=
      if_pos h.aborted
    obtain ⟨-, legs⟩ := (engaged_of_waits waits).mp h.engaged
    rw [answered]
    dsimp only
    obtain ⟨later, result, done⟩ := (legs { world.session with
      gate := { world.stage.gate with waiting := none } } .aborted).done_of_aborted h.aborted
    rw [suspended_proceed, done]

/-- The messages that are left are let go. -/
theorem skips (h : world.Falling) (idle : world.suspended = none) {messages : List Message}
    (same : world.messages = messages) :
    let later := messages.foldl (fun world _ => world.takeMessage) world
    later.Falling ∧ later.session = world.session ∧ later.suspended = none := by
  induction messages generalizing world with
  | nil => exact ⟨h, rfl, idle⟩
  | cons message rest ih =>
    have goes : world.takeMessage = { world with messages := rest } := by
      unfold takeMessage
      rw [idle, same]
      exact if_pos h.tornDown
    obtain ⟨falling, -⟩ := h.move world.move_of_takeMessage
    rw [List.foldl_cons, goes]
    rw [goes] at falling
    exact ih falling idle rfl

/-- When the loops have come to their ends, nothing is waited for. -/
theorem settle (h : world.Falling) :
    world.settle.Falling ∧ world.session.Ongoing world.settle.session ∧ world.settle.suspended = none := by
  obtain ⟨loaded, ongoing⟩ := h.loads world.preloads
  obtain ⟨resumed, onward⟩ := loaded.move (move_of_resumeScript _)
  obtain ⟨skipped, same, idle⟩ := resumed.skips loaded.suspended_resumeScript rfl
  refine ⟨skipped, ?_, idle⟩
  have ended := ongoing.trans onward
  rwa [← same] at ended

end Falling

/-- The world has come down. -/
structure Ended (world : World) : Prop where
  tornDown : world.session.tornDown = true
  suspended : world.suspended = none
  endings : world.session.endings = 1

/-- The world lives. -/
structure Lives (world : World) : Prop where
  engaged : world.Engaged
  live : world.session.tornDown = false
  endings : world.session.endings = 0

namespace Ended

variable {world : World}

/-- In a world that has come down the loop carries nothing out any more. -/
theorem move {later : World} {sent : List Message} (h : world.Ended) (move : world.Move sent later) :
    later.Ended ∧ world.session.Ongoing later.session := by
  have goesOn {session : Session} (ongoing : world.session.Ongoing session) (same : later.session = session)
      (suspended : later.suspended = none) : later.Ended ∧ world.session.Ongoing later.session := by
    rw [← same] at ongoing
    exact ⟨⟨ongoing.tornDown.trans h.tornDown, suspended, ongoing.endings.trans h.endings⟩, ongoing⟩
  cases move with
  | apart session suspended messages =>
    have idle := suspended.trans h.suspended
    rcases session with same | ⟨act, stays, same⟩
    · exact goesOn (.refl world.session) same idle
    · exact goesOn (world.session.ongoing_suffer stays) same idle
  | resumes _ waits answered same => cases waits.symm.trans h.suspended
  | takes _ idle first live session messages same => cases live.symm.trans h.tornDown
  | drops _ idle first down session still messages => exact goesOn (.refl world.session) session still

/-- Bringing it down again does nothing. -/
theorem teardown (h : world.Ended) : world.teardown = world :=
  if_pos h.tornDown

/-- Whatever is called for in a world that has come down, it stays as it has ended. -/
theorem turn (h : world.Ended) (turn : Turn) :
    (world.turn turn).Ended ∧ world.session.Ongoing (world.turn turn).session := by
  by_cases again : turn = .teardown
  · subst again
    have same : world.turn .teardown = world := h.teardown
    rw [same]
    exact ⟨h, .refl world.session⟩
  · exact h.move (world.turn_move again)

/-- So the end of the world is recorded once, whatever turns follow. -/
theorem run (h : world.Ended) (turns : List Turn) :
    (world.run turns).Ended ∧ world.session.Ongoing (world.run turns).session := by
  induction turns generalizing world with
  | nil => exact ⟨h, .refl world.session⟩
  | cons turn rest ih =>
    obtain ⟨ended, ongoing⟩ := h.turn turn
    obtain ⟨last, onward⟩ := ih ended
    exact ⟨last, ongoing.trans onward⟩

end Ended

namespace Lives

variable {world : World}

/-- A world that is opened lives. -/
theorem ofConfig (config : EngineConfig) (provider : Provider) (player : MediaPlayer) :
    (World.ofConfig config provider player).Lives where
  engaged := (engaged_of_idle rfl).mpr ⟨.ok (), .start config provider player⟩
  live := rfl
  endings := rfl

/-- A world goes on living whatever the loop does. -/
theorem move {later : World} {sent : List Message} (h : world.Lives) (move : world.Move sent later) :
    later.Lives := by
  refine ⟨h.engaged.move move, (h.engaged.tornDown move).trans h.live, ?_⟩
  obtain ⟨first, ongoing, begins⟩ := h.engaged.ongoing move
  rw [ongoing.endings]
  rcases begins with rfl | ⟨-, message, rest, -, rfl⟩
  · exact h.endings
  · unfold Message.press
    split <;> exact h.endings

/-- What is left of the session when the loops have ended and the card is about to be closed. -/
theorem settle_beginTeardown (h : world.Lives) :
    (∃ result, Reachable (.done world.beginTeardown.settle.session result)) ∧
    world.beginTeardown.session.Ongoing world.beginTeardown.settle.session ∧
    world.beginTeardown.settle.suspended = none := by
  obtain ⟨falling, ongoing, idle⟩ := h.engaged.falling_beginTeardown.settle
  exact ⟨(engaged_of_idle idle).mp falling.engaged, ongoing, idle⟩

/-- How a world comes down that lives. -/
theorem teardown_eq (h : world.Lives) : world.teardown =
    { world.beginTeardown.settle with
      session := world.beginTeardown.settle.session.closeCard, messages := [] }.release :=
  if_neg (Bool.eq_false_iff.mp h.live)

/-- A teardown ends a world that lives. -/
theorem teardown (h : world.Lives) : world.teardown.Ended := by
  obtain ⟨-, ongoing, idle⟩ := h.settle_beginTeardown
  have closed := world.beginTeardown.settle.session.aside_closeCard
  rw [h.teardown_eq]
  refine ⟨closed.tornDown.trans ongoing.tornDown, idle, ?_⟩
  have before : world.beginTeardown.settle.session.closeCard.endings = 0 :=
    (closed.endings.trans ongoing.endings).trans h.endings
  exact (List.countP_cons_of_pos rfl : _ = _ + 1).trans (congrArg (· + 1) before)

/-- In a world that lives after a turn, the turn was not the one that brings it down. -/
theorem goesOn (h : world.Lives) {turn : Turn} (live : (world.turn turn).session.tornDown = false) :
    turn ≠ .teardown := by
  rintro rfl
  cases live.symm.trans h.teardown.tornDown

end Lives

/-- At every moment of a run the world lives or has come down. -/
theorem lives_or_ended (config : EngineConfig) (provider : Provider) (player : MediaPlayer)
    (turns : List Turn) : ((ofConfig config provider player).run turns).Lives ∨
      ((ofConfig config provider player).run turns).Ended := by
  induction turns using List.reverseRecOn with
  | nil => exact .inl (.ofConfig config provider player)
  | append_singleton turns turn ih =>
    rw [run_concat]
    rcases ih with lives | ended
    · by_cases down : turn = .teardown
      · subst down
        exact .inr lives.teardown
      · exact .inl (lives.move (turn_move _ down))
    · exact .inr (ended.turn turn).1

/-- A world that has come down was brought down at some moment of the run, and it lived until then. -/
theorem exists_teardown (config : EngineConfig) (provider : Provider) (player : MediaPlayer) {turns : List Turn}
    (down : ((ofConfig config provider player).run turns).session.tornDown = true) :
    ∃ before after, turns = before ++ .teardown :: after ∧
      ((ofConfig config provider player).run before).Lives := by
  induction turns using List.reverseRecOn with
  | nil => cases down
  | append_singleton turns turn ih =>
    rcases lives_or_ended config provider player turns with lives | ended
    · by_cases brought : turn = .teardown
      · exact ⟨turns, [], by rw [brought], lives⟩
      · rw [run_concat] at down
        cases (lives.move (turn_move _ brought)).live.symm.trans down
    · obtain ⟨before, after, split, lives⟩ := ih ended.tornDown
      exact ⟨before, after ++ [turn], by rw [split, List.append_assoc, List.cons_append], lives⟩

/-- What holds in the beginning and is kept by every move holds in every run, as long as the world lives. -/
theorem live_invariant (config : EngineConfig) (provider : Provider) (player : MediaPlayer)
    (holds : List Turn → World → Prop) (start : holds [] (ofConfig config provider player))
    (step : ∀ turns turn, ((ofConfig config provider player).run turns).Lives →
      holds turns ((ofConfig config provider player).run turns) →
      ∀ later, ((ofConfig config provider player).run turns).Move
        (turn.message? ((ofConfig config provider player).run turns)).toList later →
          holds (turns ++ [turn]) later)
    {turns : List Turn} (live : ((ofConfig config provider player).run turns).session.tornDown = false) :
    holds turns ((ofConfig config provider player).run turns) := by
  induction turns using List.reverseRecOn with
  | nil => exact start
  | append_singleton turns turn ih =>
    rw [run_concat] at live ⊢
    rcases lives_or_ended config provider player turns with lives | ended
    · exact step turns turn lives (ih lives.live) _ (turn_move _ (lives.goesOn live))
    · cases live.symm.trans (ended.turn turn).1.tornDown

end World

end Diorama
