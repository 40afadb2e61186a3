import Diorama.Proofs.Preloads
import Diorama.Proofs.Traffic
import Diorama.Proofs.Window
import Mathlib.Data.List.Perm.Basic

/-!
# Idle means done

Every request is counted when its caller is about to send it, and counted off when a loop is done with it, or
when it cannot be sent after all. The host waits for the count to be zero, and takes that for a sign that
nothing is left to do. `Traffic.idle_means_done` is why it may: however the steps of the parties come in between
each other, the count is the number of requests that are being sent, wait in a queue, or are in the hands of a
loop. Ticks are in none of these numbers, though they go through the same queue.

Lowering a count that is zero would do nothing, and a request counted off twice would hide one that is still to
be done. It does not happen, because the count is only lowered for something that is outstanding at that moment
(`Traffic.Accounted.countOff`).

That a message has been *handled* is not only a matter of bookkeeping: the session is what carrying out the
messages makes of it, one after the other in the order in which they were sent (`Ran`), to where the script loop
has come with the last one. That a stack has been *loaded* is recorded by the session, which records nothing else of
the kind (`Traffic.Recorded`), and what it records is so (`Session.Accords`). `Traffic.Accounted` says of one moment
how the count, the queues and the session stand, and every step keeps it. For the turns of the world, which are runs
of steps, there is `World.work_eq`.
-/

namespace Diorama

/-! ## What is under way -/

namespace Traffic

variable (traffic : Traffic)

/-- The message that the script loop has taken and is not done with. -/
def inProgress : List Message :=
  (traffic.world.suspended.map (·.message)).toList ++ traffic.script.held

/-- The messages that the script loop has begun to carry out. -/
def begun : List Message :=
  traffic.handled ++ (traffic.world.suspended.map (·.message)).toList ++ traffic.script.done

/-- The stacks that the stack loop has loaded. -/
def preloaded : List String :=
  traffic.loaded ++ traffic.stack.done

/-- The requests that are being sent, wait in a queue, or are in the hands of a loop. -/
def outstanding : List Request :=
  traffic.sending ++ ((traffic.inProgress ++ traffic.world.messages).filter (·.isRequest)).map .message
    ++ (traffic.stack.held ++ traffic.world.preloads).map .preload

/-- What is outstanding counts what is being sent, what the loops hold, and what waits in the queues. -/
theorem length_outstanding (traffic : Traffic) : traffic.outstanding.length = traffic.sending.length +
    ((traffic.inProgress.filter (·.isRequest)).length + (traffic.world.messages.filter (·.isRequest)).length) +
      (traffic.stack.held.length + traffic.world.preloads.length) := by
  simp only [outstanding, List.filter_append, List.length_append, List.length_map]

end Traffic

/-- What the script loop has come to with the last message that it has begun; `result` if it is done with it. -/
def World.standing (world : World) (result : Except ScriptError Unit) : Progress (Except ScriptError Unit) :=
  match world.suspended with
  | none => .done world.session result
  | some suspended => .waiting world.session suspended.resume

/-! ## What is done to the stacks -/

/-- The stack that somebody other than the stack loop loads ahead. -/
def Step.preload? : Step → Option String
  | .outside (.preload key) _ => some key
  | _ => none

/-- Whether the stacks that are loaded stay loaded, and those that there are stay the same. -/
def Step.keepsStacks : Step → Bool
  | .outside (.provider _) _ | .outside .clearStacks _ => false
  | _ => true

/-- Whether something is done to the stacks beyond asking for them. -/
def Step.touchesStacks : Step → Bool
  | .outside act _ => act.touchesStacks
  | .load => true
  | _ => false

/-! ## What is counted -/

/-- What the count is for: requests of the host to either loop. -/
def Request.Counted : Request → Prop
  | .message sent => sent.isRequest = true
  | .preload _ => True

/-- A message that a caller sends is a request; only the clock sends anything else. -/
theorem Call.isRequest_of_message? {world : World} {call : Call} {message : Message}
    (sends : call.message? world = some message) : message.isRequest = true := by
  unfold message? at sends
  split at sends
  all_goals first | contradiction | (cases sends; rfl) | (split at sends <;> cases sends; rfl)

/-- Whatever a call comes to ask for is counted. -/
theorem Call.counted_of_request? {world : World} {call : Call} {request : Request}
    (asks : call.request? world = some request) : request.Counted := by
  unfold request? at asks
  split at asks
  next => cases asks
  next =>
    split at asks
    next key =>
      cases asks
      exact trivial
    next =>
      obtain ⟨message, sends, rfl⟩ := Option.map_eq_some_iff.mp asks
      exact isRequest_of_message? sends

/-- What is under way is as it was, whatever else has been done to the stage and to the display. -/
structure World.Aside (world later : World) : Prop where
  session : later.session = world.session ∨
    ∃ act, act ≠ Outside.tearDown ∧ later.session = world.session.suffer act
  suspended : later.suspended = world.suspended
  messages : later.messages = world.messages
  preloads : later.preloads = world.preloads
  work : later.work = world.work

namespace World

/-- To act on the stage leaves the queues and the loops alone. -/
theorem aside_onStage (world : World) (act : Outside) (stays : act ≠ .tearDown) :
    world.Aside (world.onStage act.apply) :=
  ⟨.inr ⟨act, stays, rfl⟩, rfl, rfl, rfl, rfl⟩

/-- To hear of a message is no more than to know that no tick is pending. -/
theorem aside_hear (world : World) (message : Message) : world.Aside (world.hear message) := by
  cases message <;> exact ⟨.inl rfl, rfl, rfl, rfl, rfl⟩

/-- The session knows nothing of pending ticks. -/
theorem session_hear (world : World) (message : Message) : (world.hear message).session = world.session := by
  cases message <;> rfl

/-- A call that comes to no request is over when it has been checked. -/
theorem aside_of_request?_eq_none {world : World} (live : world.stage.tornDown = false) {call : Call}
    (silent : call.request? world = none) : world.Aside (world.turn (.call call)) ∧
      world.session.Resolves (world.turn (.call call)).session := by
  have living : ¬ world.stage.tornDown = true := Bool.eq_false_iff.mp live
  have same : world.Aside world ∧ world.session.Resolves world.session :=
    ⟨⟨.inl rfl, rfl, rfl, rfl, rfl⟩, .refl world.session⟩
  have clicks {message : Message} {call : Call} (click : call.perform world = world.sendClick message)
      (dropped : (if world.stage.blockingMovie then none else some message) = none) :
      world.Aside (world.turn (.call call)) ∧ world.session.Resolves (world.turn (.call call)).session := by
    split at dropped
    next blocked =>
      have ignored : world.sendClick message = .ok world := (if_pos blocked).trans (if_neg living)
      rwa [turn, click, ignored]
    next => cases dropped
  unfold Call.request? at silent
  rw [if_neg living] at silent
  cases call with
  | pointerDown => exact clicks rfl (Option.map_eq_none_iff.mp silent)
  | pointerUp => exact clicks rfl (Option.map_eq_none_iff.mp silent)
  | movieFinished code =>
    have told : (if (world.stage.gate.complete code).1 then none else some (Message.movieFinished code)) = none :=
      Option.map_eq_none_iff.mp silent
    split at told
    next waited =>
      rw [turn, Call.perform, movieFinished_of_live live, if_pos waited]
      exact ⟨world.aside_onStage (.gate (.complete code)) (by simp),
        world.session.resolves_suffer (rfl : (Outside.gate (.complete code)).touchesStacks = false)⟩
    next => cases told
  | displayTick now =>
    have shown : world.displayTick now = .ok _ := if_neg living
    rw [turn, Call.perform, shown]
    exact ⟨⟨.inr ⟨.drain, by simp, rfl⟩, rfl, rfl, rfl, rfl⟩,
      world.session.resolves_suffer (rfl : Outside.drain.touchesStacks = false)⟩
  | _ => cases silent

end World

/-! ## What every step keeps -/

/-- What an event has come to can go on. -/
theorem Ran.onward {config : EngineConfig} {provider : Provider} {player : MediaPlayer} {events : List Event}
    {progress further : Progress (Except ScriptError Unit)} (ran : Ran config provider player events progress)
    (leads : progress.Leads further) : Ran config provider player events further := by
  cases ran with
  | start =>
    rw [Progress.leads_done_iff.mp leads]
    exact .start
  | outside before act =>
    rw [Progress.leads_done_iff.mp leads]
    exact .outside before act
  | event before event begun => exact .event before event (begun.trans leads)

namespace World

/-- A loop that is done with its message stands at the end of it. -/
theorem standing_of_idle {world : World} (idle : world.suspended = none) (result : Except ScriptError Unit) :
    world.standing result = .done world.session result := by
  rw [standing, idle]

/-- A loop that waits stands where the message will be resumed. -/
theorem standing_of_waits {world : World} {suspended : Suspended} (waits : world.suspended = some suspended)
    (result : Except ScriptError Unit) :
    world.standing result = .waiting world.session suspended.resume := by
  rw [standing, waits]

end World

namespace Traffic

/-- How the count, the queues and the session stand to what has been sent so far. -/
structure Accounted (config : EngineConfig) (provider : Provider) (player : MediaPlayer) (traffic : Traffic) :
    Prop where
  /-- Callers are concerned only with what is counted. -/
  counted : ∀ request ∈ traffic.calling ++ traffic.sending, request.Counted
  finished : ∀ message ∈ traffic.script.done, message.isRequest = true
  work : traffic.world.work = traffic.outstanding.length
  lowered : traffic.world.work + traffic.lowered = traffic.accepted.length
  accepted : traffic.accepted.Perm (traffic.withdrawn ++ (traffic.sending ++
    ((traffic.sent.filter (·.isRequest)).map .message ++ traffic.asked.map .preload)))
  sent : traffic.sent = traffic.handled ++ traffic.inProgress ++ traffic.world.messages
  asked : traffic.asked = traffic.loaded ++ traffic.stack.held ++ traffic.world.preloads
  /-- The script loop does not take a message while it waits in one. -/
  alone : traffic.script = .free ∨ traffic.world.suspended = none
  /-- The session is what the messages make of it. -/
  ran : ∃ result, Ran config provider player (traffic.begun.map .message) (traffic.world.standing result)
  legs : ∀ suspended, traffic.world.suspended = some suspended →
    ∀ later outcome, (suspended.resume later outcome).Legs later
  live : traffic.world.session.tornDown = false

namespace Accounted

variable {config : EngineConfig} {provider : Provider} {player : MediaPlayer} {traffic : Traffic}

/-- In the beginning all of it holds, for there is nothing yet. -/
theorem beginning : (Traffic.beginning config provider player).Accounted config provider player where
  counted := nofun
  finished := nofun
  work := rfl
  lowered := rfl
  accepted := .nil
  sent := rfl
  asked := rfl
  alone := .inl rfl
  ran := ⟨.ok (), .start⟩
  legs := nofun
  live := rfl

/-- What a list is without one of its values. -/
private theorem perm_eraseIdx {α : Type} {list : List α} {place : Nat} {value : α}
    (found : list[place]? = some value) : list.Perm (value :: list.eraseIdx place) := by
  obtain ⟨below, rfl⟩ := List.getElem?_eq_some_iff.mp found
  exact (List.getElem_cons_eraseIdx_perm below).symm

/-- Something is put into the middle of what it was in front of. -/
private theorem perm_move {α : Type} (value : α) (first second last : List α) :
    (value :: first ++ (second ++ last)).Perm (first ++ (second ++ value :: last)) := by
  have middle : (value :: (first ++ second ++ last)).Perm (first ++ second ++ value :: last) :=
    List.perm_middle.symm
  rwa [List.append_assoc, List.append_assoc] at middle

variable (h : traffic.Accounted config provider player)
include h

/-- Whatever is done to the stage and to the display, what is under way stays so. -/
theorem aside {later : World} (aside : traffic.world.Aside later) :
    { traffic with world := later }.Accounted config provider player := by
  obtain ⟨session, suspended, messages, preloads, work⟩ := aside
  have inProgress : ({ traffic with world := later } : Traffic).inProgress = traffic.inProgress := by
    rw [Traffic.inProgress, suspended]
    rfl
  have outstanding : ({ traffic with world := later } : Traffic).outstanding = traffic.outstanding := by
    rw [Traffic.outstanding, inProgress, messages, preloads]
    rfl
  have begun : ({ traffic with world := later } : Traffic).begun = traffic.begun := by
    rw [Traffic.begun, suspended]
    rfl
  obtain ⟨result, ran⟩ := h.ran
  refine { h with
    work := ?_, lowered := ?_, sent := ?_, asked := ?_, alone := ?_, ran := ?_, legs := ?_, live := ?_ }
  · rw [outstanding, ← h.work, work]
  · rw [work]
    exact h.lowered
  · rw [inProgress, messages]
    exact h.sent
  · rw [preloads]
    exact h.asked
  · rw [suspended]
    exact h.alone
  · refine ⟨result, ?_⟩
    rw [begun]
    rcases session with same | ⟨act, -, same⟩
    · rwa [World.standing, same, suspended]
    · -- What is done to the stage between two events belongs to the run; within one, to its wait.
      cases waits : traffic.world.suspended with
      | none =>
        rw [World.standing_of_idle waits] at ran
        rw [World.standing_of_idle (suspended.trans waits), same]
        exact ran.outside act
      | some waiting =>
        rw [World.standing_of_waits waits] at ran
        rw [World.standing_of_waits (suspended.trans waits), same]
        exact ran.onward (.single (.outside traffic.world.session waiting.resume act))
  · rw [suspended]
    exact h.legs
  · rcases session with same | ⟨act, stays, same⟩
    · rw [same]
      exact h.live
    · rw [same, (traffic.world.session.ongoing_suffer stays).tornDown]
      exact h.live

/-- To check a call is to let a caller on that is concerned with something counted, or to be over with the call. -/
theorem check (call : Call) : (traffic.check call).Accounted config provider player := by
  unfold Traffic.check
  split
  next request asks =>
    refine { h with counted := fun other among => ?_ }
    rw [List.append_assoc, List.mem_append, List.singleton_append, List.mem_cons] at among
    rcases among with before | rfl | sending
    · exact h.counted other (List.mem_append_left _ before)
    · exact Call.counted_of_request? asks
    · exact h.counted other (List.mem_append_right _ sending)
  next silent => exact h.aside (World.aside_of_request?_eq_none h.live silent).1

/-- A caller that is through leaves the others with what is counted. -/
theorem counted_eraseIdx {caller : Nat} {request : Request} (found : traffic.sending[caller]? = some request) :
    request.Counted ∧ ∀ other ∈ traffic.calling ++ traffic.sending.eraseIdx caller, other.Counted := by
  refine ⟨h.counted request (List.mem_append_right _ (List.mem_of_getElem? found)), fun other among => ?_⟩
  refine h.counted other (((perm_eraseIdx found).append_left traffic.calling).mem_iff.mpr ?_)
  rw [List.mem_append, List.mem_cons]
  exact (List.mem_append.mp among).imp_right .inr

/-- A request is counted and is then being sent, so it is outstanding. -/
theorem count (caller : Nat) : (traffic.count caller).Accounted config provider player := by
  unfold Traffic.count
  split
  next => exact h
  next request found =>
    have same := perm_eraseIdx found
    refine { h with counted := fun other among => ?_, work := ?_, lowered := ?_, accepted := ?_ }
    · refine h.counted other ((same.append_right traffic.sending).mem_iff.mpr ?_)
      simpa [or_comm, or_left_comm, or_assoc] using among
    · have work := h.work
      simp only [length_outstanding, inProgress, List.length_append, List.length_singleton] at work ⊢
      omega
    · have lowered := h.lowered
      rw [List.length_append, List.length_singleton, ← lowered]
      exact Nat.add_right_comm ..
    · have accepted := h.accepted.append_right [request]
      refine accepted.trans ?_
      simp only [List.append_assoc]
      refine .append_left _ (.append_left _ ?_)
      rw [← List.append_assoc]
      exact List.perm_append_comm

/-- A request leaves its caller for its queue. -/
theorem post (caller : Nat) : (traffic.post caller).Accounted config provider player := by
  unfold Traffic.post
  split
  next => exact h
  next request found =>
    have same := perm_eraseIdx found
    have length : traffic.sending.length = (traffic.sending.eraseIdx caller).length + 1 := same.length_eq
    obtain ⟨this, others⟩ := h.counted_eraseIdx found
    have work := h.work
    have accepted := h.accepted.trans (.append_left _ (same.append_right _))
    rw [length_outstanding] at work
    cases request with
    | message message =>
      have alone : [message].filter (·.isRequest) = [message] := List.filter_cons_of_pos this
      refine { h with counted := others, work := ?_, accepted := ?_, sent := ?_ }
      · rw [length_outstanding]
        simp only [deliver, inProgress, List.filter_append, alone, List.length_append,
          List.length_singleton] at work ⊢
        omega
      · refine accepted.trans (.append_left _ ?_)
        simp only [deliver, List.filter_append, alone, List.map_append, List.map_singleton, List.append_assoc]
        exact perm_move ..
      · exact (congrArg (· ++ [message]) h.sent).trans (List.append_assoc ..)
    | preload key =>
      refine { h with counted := others, work := ?_, accepted := ?_, asked := ?_ }
      · rw [length_outstanding]
        simp only [deliver, inProgress, List.length_append, List.length_singleton] at work ⊢
        omega
      · refine accepted.trans (.append_left _ ?_)
        have moved := perm_move (Request.preload key) (traffic.sending.eraseIdx caller)
          ((traffic.sent.filter (·.isRequest)).map .message ++ traffic.asked.map .preload) []
        simpa only [deliver, List.map_append, List.map_singleton, List.append_assoc, List.append_nil] using moved
      · exact (congrArg (· ++ [key]) h.asked).trans (List.append_assoc ..)

/-- A tick is put into the queue, and is not counted. -/
theorem tick : traffic.tick.Accounted config provider player := by
  unfold Traffic.tick
  split
  next =>
    have none : [Message.tick].filter (·.isRequest) = [] := rfl
    have work := h.work
    refine { h with work := ?_, accepted := ?_, sent := ?_ }
    · rw [length_outstanding] at work ⊢
      simpa only [deliver, inProgress, List.filter_append, none, List.append_nil] using work
    · simpa only [deliver, List.filter_append, none, List.append_nil] using h.accepted
    · exact (congrArg (· ++ [Message.tick]) h.sent).trans (List.append_assoc ..)
  next => exact h

/-- A pending tick is no request. -/
theorem mark : traffic.mark.Accounted config provider player := by
  unfold Traffic.mark
  split
  · exact h
  · exact { h with }

/-- The count is lowered for something that is outstanding, so it was not zero. -/
theorem countOff (later : Traffic) (fewer : traffic.outstanding.length = later.outstanding.length + 1)
    (work : later.world.work = traffic.world.work) (lowered : later.lowered = traffic.lowered)
    (accepted : later.accepted = traffic.accepted) :
    later.countOff.world.work = later.countOff.outstanding.length ∧
      later.countOff.world.work + later.countOff.lowered = later.countOff.accepted.length := by
  have before := h.work
  have balance := h.lowered
  have same : later.countOff.outstanding = later.outstanding := rfl
  rw [same]
  simp only [Traffic.countOff, World.finishWork, work, lowered, accepted]
  omega

/-- A request that cannot be sent is counted off, and was outstanding until then. -/
theorem withdraw (caller : Nat) : (traffic.withdraw caller).Accounted config provider player := by
  unfold Traffic.withdraw
  split
  next => exact h
  next request found =>
    have same := perm_eraseIdx found
    have length : traffic.sending.length = (traffic.sending.eraseIdx caller).length + 1 := same.length_eq
    let without : Traffic := { traffic with
      sending := traffic.sending.eraseIdx caller
      withdrawn := traffic.withdrawn ++ [request] }
    have fewer : traffic.outstanding.length = without.outstanding.length + 1 := by
      rw [length_outstanding, length_outstanding, length]
      simp only [without, inProgress]
      omega
    have off := h.countOff without fewer rfl rfl rfl
    refine { h with
      counted := (h.counted_eraseIdx found).2, work := off.1, lowered := off.2, accepted := ?_ }
    refine h.accepted.trans (.trans (.append_left _ (same.append_right _)) ?_)
    simp only [Traffic.countOff, List.append_assoc]
    exact .refl _

/-! ### The script loop -/

/-- The loop takes the foremost message in hand. It was outstanding in the queue, and is so in the hand. -/
theorem receive : traffic.receive.Accounted config provider player := by
  unfold Traffic.receive
  split
  next message rest free idle waiting =>
    have parted : (message :: rest).filter (·.isRequest) =
        [message].filter (·.isRequest) ++ rest.filter (·.isRequest) := List.filter_append [message] rest
    have work := h.work
    have sent := h.sent
    obtain ⟨result, ran⟩ := h.ran
    refine { h with finished := nofun, work := ?_, sent := ?_, alone := .inr idle, ran := ⟨result, ?_⟩ }
    · rw [length_outstanding] at work ⊢
      simp only [inProgress, free, idle, waiting, parted, Hand.held, Option.map_none, Option.toList_none,
        List.nil_append, List.filter_nil, List.length_nil, List.length_append, Nat.zero_add] at work ⊢
      exact work
    · simp only [inProgress, free, idle, waiting, Hand.held, Option.map_none, Option.toList_none,
        List.append_nil, List.nil_append] at sent ⊢
      rw [sent, List.append_assoc, List.singleton_append]
    · rwa [begun, free] at ran
  next => exact h

/-- The loop has carried out the message in hand, or waits in it. Nothing is counted off by this. -/
theorem comeTo {message : Message} (here : traffic.inProgress = [message]) {first : Session}
    {progress : Progress (Except ScriptError Unit)}
    (ran : Ran config provider player ((traffic.handled ++ [message]).map .message) progress)
    (legs : progress.Legs first) (live : first.tornDown = false) :
    (traffic.comeTo message progress).Accounted config provider player := by
  have work := h.work
  have sent := h.sent
  have stays : progress.session.tornDown = false := legs.session.tornDown.trans live
  rw [length_outstanding, here] at work
  rw [here] at sent
  cases progress with
  | waiting session resume =>
    have begun : (traffic.comeTo message (.waiting session resume)).begun = traffic.handled ++ [message] :=
      List.append_nil _
    refine { h with finished := nofun, work := ?_, sent := sent, alone := .inl rfl, ran := ⟨.ok (), ?_⟩,
                    legs := ?_, live := stays }
    · rw [length_outstanding]
      exact work
    · rwa [begun]
    · rintro _ ⟨⟩
      exact legs.2.2
  | done session outcome =>
    unfold Traffic.comeTo
    dsimp only
    -- A request is still counted until the loop finishes it; a tick never was, and is over at once.
    split
    next request =>
      refine { h with finished := ?_, work := ?_, sent := sent, alone := .inr rfl, ran := ⟨outcome, ?_⟩,
                      legs := nofun, live := stays }
      · exact fun other among => List.mem_singleton.mp among ▸ request
      · rw [length_outstanding]
        exact work
      · rwa [begun, Option.map_none, Option.toList_none, List.append_nil]
    next silent =>
      have uncounted : [message].filter (·.isRequest) = [] := List.filter_cons_of_neg silent
      refine { h with finished := nofun, work := ?_, sent := ?_, alone := .inl rfl, ran := ⟨outcome, ?_⟩,
                      legs := nofun, live := stays }
      · rw [length_outstanding]
        rwa [uncounted] at work
      · exact sent.trans (congrArg (· ++ _) (List.append_nil _).symm)
      · change Ran config provider player ((traffic.handled ++ [message] ++ [] ++ []).map .message) _
        rwa [List.append_nil, List.append_nil]

/-- A loop that carries out its message is not in the middle of another, so the run goes on with a new event. -/
theorem carryOut : traffic.carryOut.Accounted config provider player := by
  unfold Traffic.carryOut
  split
  next message taken =>
    have idle : traffic.world.suspended = none := h.alone.resolve_left (by rw [taken]; nofun)
    split
    next down => cases h.live.symm.trans down
    next =>
      have here : traffic.inProgress = [message] := by
        rw [inProgress, idle, taken]
        rfl
      have live : (message.press traffic.world.session).tornDown = false := by
        unfold Message.press
        split <;> exact h.live
      obtain ⟨result, ran⟩ := h.ran
      rw [World.standing_of_idle idle, begun, idle, taken, Option.map_none, Option.toList_none, Hand.done,
        List.append_nil, List.append_nil] at ran
      have begins : Ran config provider player ((traffic.handled ++ [message]).map .message)
          (message.script traffic.world.session) := by
        rw [List.map_append]
        exact ran.event (.message message) .refl
      dsimp only
      rw [World.session_hear]
      refine (h.aside (traffic.world.aside_hear message)).comeTo ?_ begins (message.legs _) live
      rw [inProgress, (traffic.world.aside_hear message).suspended]
      exact here
  next => exact h

/-- A wait that has been answered goes on within the event that it belongs to. -/
theorem resume : traffic.resume.Accounted config provider player := by
  unfold Traffic.resume
  split
  next suspended outcome gate free waits answered =>
    have here : traffic.inProgress = [suspended.message] := by
      rw [inProgress, waits, free]
      rfl
    obtain ⟨result, ran⟩ := h.ran
    rw [World.standing_of_waits waits, begun, waits, free, Hand.done, List.append_nil] at ran
    exact h.comeTo here (ran.onward (.single (.answer answered suspended.resume)))
      (h.legs suspended waits _ outcome) h.live
  next => exact h

/-- A request is counted off by the loop that is done with it, and was in its hand until then. -/
theorem finish : traffic.finish.Accounted config provider player := by
  unfold Traffic.finish
  split
  next message finished =>
    have request : message.isRequest = true := by
      refine h.finished message ?_
      rw [finished]
      exact List.mem_singleton_self message
    have alone : [message].filter (·.isRequest) = [message] := List.filter_cons_of_pos request
    have idle : traffic.world.suspended = none := h.alone.resolve_left (by rw [finished]; nofun)
    have here : traffic.inProgress = [message] := by
      rw [inProgress, idle, finished]
      rfl
    let later : Traffic := { traffic with script := .free, handled := traffic.handled ++ [message] }
    have nothing : later.inProgress = [] := by
      rw [inProgress, idle]
      rfl
    have whole : later.begun = traffic.handled ++ [message] := by
      change traffic.handled ++ [message] ++ (traffic.world.suspended.map Suspended.message).toList ++ [] = _
      rw [idle, Option.map_none, Option.toList_none, List.append_nil, List.append_nil]
    -- The message was the only one in hand, so there is one outstanding fewer.
    have fewer : traffic.outstanding.length = later.outstanding.length + 1 := by
      rw [length_outstanding, length_outstanding, here, nothing, alone, List.filter_nil, List.length_singleton,
        List.length_nil]
      dsimp only [later]
      omega
    have off := h.countOff later fewer rfl rfl rfl
    obtain ⟨result, ran⟩ := h.ran
    rw [begun, idle, finished, Option.map_none, Option.toList_none, Hand.done, List.append_nil] at ran
    refine { h with finished := nofun, work := off.1, lowered := off.2, sent := ?_, alone := .inl rfl,
                    ran := ⟨result, ?_⟩ }
    · have sent := h.sent
      rw [here] at sent
      change traffic.sent = traffic.handled ++ [message] ++ later.inProgress ++ traffic.world.messages
      rw [nothing, List.append_nil, sent]
    · change Ran config provider player (later.begun.map .message) _
      rwa [whole]
  next => exact h

/-! ### The stack loop -/

/-- The foremost stack of the queue is taken in hand. -/
theorem fetch : traffic.fetch.Accounted config provider player := by
  unfold Traffic.fetch
  split
  next key rest free waiting =>
    have work := h.work
    have asked := h.asked
    rw [length_outstanding, free, waiting] at work
    rw [free, waiting, Hand.held, List.append_nil] at asked
    refine { h with work := ?_, asked := ?_ }
    · rw [length_outstanding]
      simp only [Hand.held, inProgress, List.length_nil, List.length_cons] at work ⊢
      omega
    · exact asked.trans (List.append_cons ..)
  next => exact h

/-- To load a stack acts on the stage, and counts nothing off. -/
theorem load : traffic.load.Accounted config provider player := by
  unfold Traffic.load
  split
  next key taken =>
    have loaded := h.aside (traffic.world.aside_onStage (.preload key) nofun)
    have same : traffic.stack.held = [key] := by rw [taken]; rfl
    refine { loaded with work := ?_, asked := ?_ }
    · have work := loaded.work
      rw [length_outstanding] at work ⊢
      rwa [same] at work
    · have asked := loaded.asked
      rwa [same] at asked
  next => exact h

/-- A stack is counted off by the loop that has loaded it. -/
theorem finishLoad : traffic.finishLoad.Accounted config provider player := by
  unfold Traffic.finishLoad
  split
  next key finished =>
    have held : traffic.stack.held = [key] := by rw [finished]; rfl
    let later : Traffic := { traffic with stack := .free, loaded := traffic.loaded ++ [key] }
    have fewer : traffic.outstanding.length = later.outstanding.length + 1 := by
      rw [length_outstanding, length_outstanding, held, List.length_singleton]
      simp only [later, inProgress, Hand.held, List.length_nil]
      omega
    have off := h.countOff later fewer rfl rfl rfl
    have asked := h.asked
    rw [held] at asked
    exact { h with
      work := off.1, lowered := off.2
      asked := asked.trans (congrArg (· ++ traffic.world.preloads) (List.append_nil _).symm) }
  next => exact h

/-- The script loop is concerned with one message at most. -/
theorem length_inProgress_le : traffic.inProgress.length ≤ 1 := by
  rw [inProgress, List.length_append]
  rcases h.alone with free | idle
  · rw [free]
    cases traffic.world.suspended with
    | none => exact Nat.zero_le 1
    | some suspended => exact Nat.le_refl 1
  · rw [idle]
    cases traffic.script <;> simp [Hand.held]

/-- What was accepted has been taken back, or is outstanding, or has been handled by the loop that it was for. -/
theorem accepted_perm : traffic.accepted.Perm (traffic.withdrawn ++ (traffic.outstanding ++
    ((traffic.handled.filter (·.isRequest)).map .message ++ traffic.loaded.map .preload))) := by
  -- The queues are accounted for one by one, but what is outstanding stands across both.
  have regroup (handled waiting loaded asked : List Request) :
      (handled ++ waiting ++ (loaded ++ asked)).Perm (waiting ++ asked ++ (handled ++ loaded)) := by
    have parts : (handled ++ waiting ++ (loaded ++ asked)).Perm (waiting ++ handled ++ (asked ++ loaded)) :=
      List.perm_append_comm.append List.perm_append_comm
    refine parts.trans ?_
    simp only [List.append_assoc]
    refine .append_left waiting ?_
    rw [← List.append_assoc, ← List.append_assoc]
    exact List.perm_append_comm.append_right loaded
  have messages : (traffic.sent.filter (·.isRequest)).map Request.message =
      (traffic.handled.filter (·.isRequest)).map .message ++
        ((traffic.inProgress ++ traffic.world.messages).filter (·.isRequest)).map .message := by
    rw [h.sent, List.append_assoc, List.filter_append, List.map_append]
  have keys : traffic.asked.map Request.preload =
      traffic.loaded.map .preload ++ (traffic.stack.held ++ traffic.world.preloads).map .preload := by
    rw [h.asked, List.append_assoc, List.map_append]
  have accepted := h.accepted
  rw [messages, keys] at accepted
  refine accepted.trans (.append_left _ ?_)
  rw [outstanding, List.append_assoc traffic.sending, List.append_assoc traffic.sending]
  exact (regroup ..).append_left traffic.sending

/-- When nothing is outstanding, what was sent has been handled. -/
theorem done_of_idle (idle : traffic.world.isIdle = true) : traffic.outstanding = [] ∧
    traffic.handled.filter (·.isRequest) = traffic.sent.filter (·.isRequest) ∧
      traffic.loaded = traffic.asked := by
  have nothing : traffic.outstanding = [] := List.length_eq_zero_iff.mp (h.work.symm.trans (beq_iff_eq.mp idle))
  obtain ⟨⟨-, ⟨inProgress, messages⟩⟩, held, preloads⟩ : (traffic.sending = [] ∧
      traffic.inProgress.filter (·.isRequest) = [] ∧ traffic.world.messages.filter (·.isRequest) = []) ∧
        traffic.stack.held = [] ∧ traffic.world.preloads = [] := by
    simpa only [outstanding, List.append_eq_nil_iff, List.map_eq_nil_iff, List.filter_append] using nothing
  refine ⟨nothing, ?_, ?_⟩
  · rw [h.sent, List.filter_append, List.filter_append, inProgress, messages, List.append_nil, List.append_nil]
  · rw [h.asked, held, preloads, List.append_nil, List.append_nil]

/-! ### Runs -/

/-- Whatever party takes a step, the account is kept. -/
theorem step (step : Step) : (traffic.step step).Accounted config provider player := by
  cases step with
  | check call => exact h.check call
  | count caller => exact h.count caller
  | post caller => exact h.post caller
  | withdraw caller => exact h.withdraw caller
  | outside act stays => exact h.aside (traffic.world.aside_onStage act stays)
  | mark => exact h.mark
  | tick => exact h.tick
  | receive => exact h.receive
  | carryOut => exact h.carryOut
  | resume => exact h.resume
  | finish => exact h.finish
  | fetch => exact h.fetch
  | load => exact h.load
  | finishLoad => exact h.finishLoad

/-- So it is kept by steps of all parties, in any order. -/
theorem run (steps : List Step) : (traffic.run steps).Accounted config provider player := by
  induction steps generalizing traffic with
  | nil => exact h
  | cons step rest ih => exact ih (h.step step)

end Accounted

/-! ## What becomes of the stacks -/

/-- Nothing is loaded ahead, and of the stacks some are asked for at most. -/
structure LeavesStacks (traffic later : Traffic) : Prop where
  resolves : traffic.world.session.Resolves later.world.session
  preloaded : later.preloaded = traffic.preloaded

/-- Whoever does nothing leaves the stacks alone. -/
theorem LeavesStacks.refl (traffic : Traffic) : traffic.LeavesStacks traffic :=
  ⟨.refl _, rfl⟩

/-- How far a loop comes with a message does nothing to the stacks but what the message does. -/
theorem leavesStacks_comeTo {traffic : Traffic} (message : Message) {progress : Progress (Except ScriptError Unit)}
    (resolves : traffic.world.session.Resolves progress.session) :
    traffic.LeavesStacks (traffic.comeTo message progress) := by
  cases progress with
  | waiting session resume => exact ⟨resolves, rfl⟩
  | done session outcome =>
    unfold comeTo
    dsimp only
    split
    · exact ⟨resolves, rfl⟩
    · exact ⟨resolves, rfl⟩

/-- A message in its queue has done nothing yet. -/
theorem leavesStacks_post (traffic : Traffic) (caller : Nat) : traffic.LeavesStacks (traffic.post caller) := by
  unfold post
  split
  next => exact .refl traffic
  next request _ =>
    cases request with
    | message message => exact ⟨.refl _, rfl⟩
    | preload key => exact ⟨.refl _, rfl⟩

/-- A message that is carried out is a program, which loads no stack ahead; nor does a press of the button that
comes with it. -/
theorem leavesStacks_carryOut (traffic : Traffic) : traffic.LeavesStacks traffic.carryOut := by
  unfold carryOut
  split
  next message _ =>
    split
    next => exact ⟨.refl _, rfl⟩
    next =>
      let heard : Traffic := { traffic with world := traffic.world.hear message }
      have pressed : heard.world.session.Resolves (message.press heard.world.session) := by
        unfold Message.press
        split
        · exact ⟨.refl, rfl⟩
        · exact ⟨.refl, rfl⟩
      have carried : heard.LeavesStacks (heard.comeTo message (message.script heard.world.session)) :=
        leavesStacks_comeTo message (pressed.trans (message.legs heard.world.session).session.toResolves)
      exact ⟨traffic.world.session_hear message ▸ carried.resolves, carried.preloaded⟩
  next => exact .refl traffic

/-- A stack that the stack loop takes from its queue is not loaded yet. -/
theorem leavesStacks_fetch (traffic : Traffic) : traffic.LeavesStacks traffic.fetch := by
  unfold fetch
  split
  next key rest free _ =>
    refine ⟨.refl _, ?_⟩
    rw [preloaded, preloaded, free]
    rfl
  next => exact .refl traffic

/-- A stack that the stack loop is done with was loaded before. -/
theorem leavesStacks_finishLoad (traffic : Traffic) : traffic.LeavesStacks traffic.finishLoad := by
  unfold finishLoad
  split
  next key finished =>
    refine ⟨.refl _, ?_⟩
    rw [preloaded, preloaded, finished]
    exact List.append_nil _
  next => exact .refl traffic

section

variable {config : EngineConfig} {provider : Provider} {player : MediaPlayer} {traffic : Traffic}

/-- A call that comes to no request has been answered beside all programs. -/
theorem Accounted.leavesStacks_check (h : traffic.Accounted config provider player) (call : Call) :
    traffic.LeavesStacks (traffic.check call) := by
  unfold Traffic.check
  split
  next => exact ⟨.refl _, rfl⟩
  next silent => exact ⟨(World.aside_of_request?_eq_none h.live silent).2, rfl⟩

/-- What is left of a message after a wait is a program too. -/
theorem Accounted.leavesStacks_resume (h : traffic.Accounted config provider player) :
    traffic.LeavesStacks traffic.resume := by
  unfold Traffic.resume
  split
  next suspended outcome gate _ waits answered =>
    have leg := (Session.leg_answered answered).trans (h.legs suspended waits _ outcome).session
    exact leavesStacks_comeTo suspended.message leg.toResolves
  next => exact .refl traffic

/-- Only the stack loop loads stacks ahead, and others who do so on their own. -/
theorem Accounted.leavesStacks (h : traffic.Accounted config provider player) {step : Step}
    (leaves : step.touchesStacks = false) : traffic.LeavesStacks (traffic.step step) := by
  cases step with
  | check call => exact h.leavesStacks_check call
  | outside act stays => exact ⟨traffic.world.session.resolves_suffer leaves, rfl⟩
  | post caller => exact traffic.leavesStacks_post caller
  | carryOut => exact traffic.leavesStacks_carryOut
  | resume => exact h.leavesStacks_resume
  | fetch => exact traffic.leavesStacks_fetch
  | load => cases leaves
  | finishLoad => exact traffic.leavesStacks_finishLoad
  | count | withdraw | mark | tick | receive | finish =>
    -- The books are kept, or a message is moved from one place to another: the session is not touched.
    simp only [Traffic.step, Traffic.count, Traffic.withdraw, Traffic.mark, Traffic.tick, Traffic.receive,
      Traffic.finish]
    split
    · exact ⟨.refl _, rfl⟩
    · exact ⟨.refl _, rfl⟩

/-- The stack loop loads the stack in hand, if it has one. -/
theorem load_cases (traffic : Traffic) : traffic.load = traffic ∨
    ∃ key, traffic.load.world.session = traffic.world.session.suffer (.preload key) ∧
      traffic.load.preloaded = traffic.preloaded ++ [key] := by
  unfold load
  split
  next key taken =>
    refine .inr ⟨key, rfl, ?_⟩
    rw [preloaded, preloaded, taken, Hand.done, Hand.done, List.append_nil]
  next => exact .inl rfl

/-! ### The record -/

/-- What has been recorded of loading stacks ahead: what the stack loop has loaded, in its order, and beside it what
others have loaded apart from it, each once. -/
structure Recorded (traffic : Traffic) (apart : List String) : Prop where
  sound : traffic.world.session.resolver.Sound
  order : traffic.preloaded.Sublist (traffic.world.session.preloads.map Prod.fst)
  once : (traffic.world.session.preloads.map Prod.fst).Perm (traffic.preloaded ++ apart)

/-- The record does not change while the stacks are left alone. -/
theorem Recorded.leave {later : Traffic} {apart : List String} (recorded : traffic.Recorded apart)
    (leaves : traffic.LeavesStacks later) : later.Recorded apart := by
  refine ⟨leaves.resolves.resolver.sound recorded.sound, ?_, ?_⟩
  · rw [leaves.preloaded, leaves.resolves.preloads]
    exact recorded.order
  · rw [leaves.preloaded, leaves.resolves.preloads]
    exact recorded.once

/-- Whatever is done to the stacks from outside, they are filed under their keys. -/
theorem Recorded.sound_suffer {apart : List String} (recorded : traffic.Recorded apart) (act : Outside) :
    (traffic.world.session.suffer act).resolver.Sound :=
  ScriptAct.sound (.suffered act) recorded.sound

/-- A stack that the stack loop has loaded stands last in the record. -/
theorem Recorded.load {apart : List String} (recorded : traffic.Recorded apart) : traffic.load.Recorded apart := by
  rcases traffic.load_cases with same | ⟨key, session, preloaded⟩
  · rwa [same]
  · refine ⟨session ▸ recorded.sound_suffer _, ?_, ?_⟩
    · rw [session, preloaded, Session.keys_suffer_preload recorded.sound]
      exact recorded.order.append (.refl [key])
    · rw [session, preloaded, Session.keys_suffer_preload recorded.sound, List.append_assoc]
      -- The record has the key at its end, the account has it before what others have loaded.
      refine (recorded.once.append_right [key]).trans ?_
      rw [List.append_assoc]
      exact List.perm_append_comm.append_left _

/-- So does a stack that others have loaded. -/
theorem Recorded.suffer_preload {apart : List String} (recorded : traffic.Recorded apart) (key : String) :
    { traffic with world := traffic.world.onStage (·.preload key) }.Recorded (apart ++ [key]) := by
  refine ⟨recorded.sound_suffer (.preload key), ?_, ?_⟩
  · change traffic.preloaded.Sublist ((traffic.world.session.suffer (.preload key)).preloads.map Prod.fst)
    rw [Session.keys_suffer_preload recorded.sound]
    exact recorded.order.trans (List.sublist_append_left _ _)
  · change ((traffic.world.session.suffer (.preload key)).preloads.map Prod.fst).Perm (traffic.preloaded ++ _)
    rw [Session.keys_suffer_preload recorded.sound, ← List.append_assoc]
    exact recorded.once.append_right [key]

/-- A step adds to the record what the stack loop has loaded, and what others have loaded apart from it. -/
theorem Recorded.step (h : traffic.Accounted config provider player) {apart : List String}
    (recorded : traffic.Recorded apart) (step : Step) :
    (traffic.step step).Recorded (apart ++ step.preload?.toList) := by
  cases touches : step.touchesStacks with
  | false =>
    have nothing : step.preload? = none := by
      cases step with
      | outside act stays => cases act <;> first | rfl | cases touches
      | _ => rfl
    rw [nothing, Option.toList_none, List.append_nil]
    exact recorded.leave (h.leavesStacks touches)
  | true =>
    cases step with
    | load =>
      change traffic.load.Recorded (apart ++ [])
      rw [List.append_nil]
      exact recorded.load
    | outside act stays =>
      cases act with
      | preload key => exact recorded.suffer_preload key
      | provider next =>
        change Recorded _ (apart ++ [])
        rw [List.append_nil]
        exact ⟨recorded.sound_suffer (.provider next), recorded.order, recorded.once⟩
      | clearStacks =>
        change Recorded _ (apart ++ [])
        rw [List.append_nil]
        exact ⟨recorded.sound_suffer .clearStacks, recorded.order, recorded.once⟩
      | _ => cases touches
    | _ => cases touches

/-- What a run adds is recorded in order for the loop, and complete for all. -/
theorem Recorded.run (h : traffic.Accounted config provider player) {apart : List String}
    (recorded : traffic.Recorded apart) (steps : List Step) :
    (traffic.run steps).Recorded (apart ++ steps.filterMap Step.preload?) := by
  induction steps generalizing traffic apart with
  | nil =>
    rw [List.filterMap_nil, List.append_nil]
    exact recorded
  | cons step rest ih =>
    have after := ih (h.step step) (Recorded.step h recorded step)
    rw [List.append_assoc] at after
    rw [List.filterMap_cons]
    cases found : step.preload? <;> rwa [found] at after

/-- In the beginning nothing has been loaded and nothing is recorded. -/
theorem recorded_beginning (config : EngineConfig) (provider : Provider) (player : MediaPlayer) :
    (beginning config provider player).Recorded [] :=
  ⟨.empty provider 0, .slnil, .nil⟩

/-! ### What it says -/

/-- As long as loaded stacks are kept and the provider stays, a step leaves the record in accord with the
provider. -/
theorem accords_step (h : traffic.Accounted config provider player)
    (accords : traffic.world.session.Accords provider) {step : Step} (keeps : step.keepsStacks = true) :
    (traffic.step step).world.session.Accords provider := by
  cases touches : step.touchesStacks with
  | false => exact accords.resolves (h.leavesStacks touches).resolves
  | true =>
    cases step with
    | load =>
      rcases traffic.load_cases with same | ⟨key, session, -⟩
      · change traffic.load.world.session.Accords provider
        rwa [same]
      · change traffic.load.world.session.Accords provider
        rw [session]
        exact accords.preload key
    | outside act stays =>
      cases act with
      | preload key => exact accords.preload key
      | provider next => cases keeps
      | clearStacks => cases keeps
      | _ => cases touches
    | _ => cases touches

/-- By induction, so does a run. -/
theorem accords_run (h : traffic.Accounted config provider player)
    (accords : traffic.world.session.Accords provider) {steps : List Step}
    (keep : ∀ step ∈ steps, step.keepsStacks = true) : (traffic.run steps).world.session.Accords provider := by
  induction steps generalizing traffic with
  | nil => exact accords
  | cons step rest ih =>
    exact ih (h.step step) (accords_step h accords (keep step List.mem_cons_self)) fun other among =>
      keep other (List.mem_cons_of_mem step among)

/-- In the beginning there is nothing on record to be in accord with. -/
theorem accords_beginning (config : EngineConfig) (provider : Provider) (player : MediaPlayer) :
    (beginning config provider player).world.session.Accords provider :=
  ⟨⟨rfl, nofun⟩, nofun⟩

end

/-- Before the world is brought down, and however the steps of the parties come in between each other: the count
is the number of requests that are being sent, wait in a queue or are in the hands of a loop, and it has been
lowered at most as often as it was raised. These are the accepted requests that were neither taken back nor
handled. The script loop has in hand at most one message, and takes them in the order in which they were sent; the
session is what carrying out those that it has begun makes of it, to where it has come with the last of them. The
session has recorded of each stack that the stack loop has loaded what came of it, in the order in which the loop took
them, and beside these only what others have loaded; and unless somebody clears the stacks or exchanges them, what it
has recorded is so: the stack is loaded, or the provider refuses it. So if the count is zero, no caller is about to
send anything, and what was accepted and not taken back has been handled, each once, and in each queue in the order
in which it was sent. -/
theorem idle_means_done (config : EngineConfig) (provider : Provider) (player : MediaPlayer)
    (steps : List Step) :
    let traffic := (beginning config provider player).run steps
    traffic.world.work = traffic.outstanding.length ∧
    traffic.world.work + traffic.lowered = traffic.accepted.length ∧
    traffic.accepted.Perm (traffic.withdrawn ++ (traffic.outstanding ++
      ((traffic.handled.filter (·.isRequest)).map .message ++ traffic.loaded.map .preload))) ∧
    traffic.sent = traffic.handled ++ traffic.inProgress ++ traffic.world.messages ∧
    traffic.inProgress.length ≤ 1 ∧
    traffic.asked = traffic.loaded ++ traffic.stack.held ++ traffic.world.preloads ∧
    traffic.preloaded.Sublist (traffic.world.session.preloads.map Prod.fst) ∧
    (traffic.world.session.preloads.map Prod.fst).Perm (traffic.preloaded ++ steps.filterMap Step.preload?) ∧
    ((∀ step ∈ steps, step.keepsStacks = true) →
      ∀ entry ∈ traffic.world.session.preloads, traffic.world.session.Upholds provider entry) ∧
    (∃ result, Ran config provider player (traffic.begun.map .message) (traffic.world.standing result)) ∧
    (traffic.world.isIdle = true →
      traffic.outstanding = [] ∧
      traffic.handled.filter (·.isRequest) = traffic.sent.filter (·.isRequest) ∧
      traffic.loaded = traffic.asked ∧
      traffic.accepted.Perm (traffic.withdrawn ++
        ((traffic.handled.filter (·.isRequest)).map .message ++ traffic.loaded.map .preload))) := by
  intro traffic
  have h : traffic.Accounted config provider player := Accounted.beginning.run steps
  have recorded := Recorded.run .beginning (recorded_beginning config provider player) steps
  have upholds (keep : ∀ step ∈ steps, step.keepsStacks = true) :=
    (accords_run .beginning (accords_beginning config provider player) keep).upholds
  refine ⟨h.work, h.lowered, h.accepted_perm, h.sent, h.length_inProgress_le, h.asked, recorded.order,
    recorded.once, upholds, h.ran, fun idle => ?_⟩
  obtain ⟨nothing, handled, loaded⟩ := h.done_of_idle idle
  have accepted := h.accepted_perm
  rw [nothing, List.nil_append] at accepted
  exact ⟨nothing, handled, loaded, accepted⟩

end Traffic

/-- Between the turns of a world that has not been brought down, the count is the number of requests in the queues
and of that in which the script loop waits, if it is one. -/
theorem World.work_eq (config : EngineConfig) (provider : Provider) (player : MediaPlayer) {turns : List Turn}
    (goesOn : .teardown ∉ turns) :
    let world := (ofConfig config provider player).run turns
    world.work = (((world.suspended.map (·.message)).toList ++ world.messages).filter (·.isRequest)).length
      + world.preloads.length := by
  obtain ⟨steps, rests, world⟩ := Traffic.exists_run_ofConfig config provider player goesOn
  have work := (Traffic.Accounted.beginning.run steps : Traffic.Accounted config provider player _).work
  rw [Traffic.outstanding, Traffic.inProgress, rests.sending, rests.script, rests.stack, world] at work
  simpa [Hand.held, Nat.add_assoc] using work

end Diorama
