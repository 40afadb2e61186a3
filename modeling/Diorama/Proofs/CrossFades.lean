import Diorama.Compositor
import Mathlib.Data.List.Destutter

/-!
# Every request for a render state is served

A compositor is asked for render states at any time, and shows them one after the other. A request that
comes during a cross-fade waits for its turn, and one for the state that is current at its turn is passed
over. So what is served is what was asked for, if a state that is asked for several times in a row counts as
asked for once; `List.destutter` takes a list to that.

The law is about three lists put together (`Compositor.serves`): the states that have been current, the one
that is fading in, and the ones that wait. Without repetitions they are the first state and the requests. It
holds after any calls, whatever the instants and however long a cross-fade takes; so nothing is lost, asked
for twice or moved, and what has not been current yet is still to come (`Compositor.pending`).

That requests are served at all is said of a tick: it makes the incoming state current if its share is full,
and changes nothing about what is current otherwise (`Compositor.current_tick`).

The proof is an induction on the calls, over all compositors with which they may begin. What it needs of them
is that nothing waits while nothing is fading in (`Compositor.Prompt`).
-/

namespace Diorama

/-! ## Lists without repetitions -/

section Repetitions

variable {α : Type} [DecidableEq α]

theorem destutter_cons_cons_self (a : α) (l : List α) :
    (a :: a :: l).destutter (· ≠ ·) = (a :: l).destutter (· ≠ ·) := by
  rw [List.destutter_cons_cons, if_neg (not_not_intro rfl), List.destutter_cons']

theorem destutter_cons_cons_of_ne {a b : α} (h : a ≠ b) (l : List α) :
    (a :: b :: l).destutter (· ≠ ·) = a :: (b :: l).destutter (· ≠ ·) := by
  rw [List.destutter_cons_cons, if_pos h, List.destutter_cons']

/-- What goes before two lists that are the same without repetitions does not tell them apart. -/
theorem destutter_cons_congr {l l' : List α} (a b : α)
    (h : (b :: l).destutter (· ≠ ·) = (b :: l').destutter (· ≠ ·)) :
    (a :: b :: l).destutter (· ≠ ·) = (a :: b :: l').destutter (· ≠ ·) := by
  by_cases same : a = b
  · rw [same, destutter_cons_cons_self, destutter_cons_cons_self, h]
  · rw [destutter_cons_cons_of_ne same, destutter_cons_cons_of_ne same, h]

/-- Entries that repeat the one before them may be passed over. -/
theorem destutter_cons_dropWhile (a : α) (l rest : List α) :
    (a :: (l.dropWhile (· = a) ++ rest)).destutter (· ≠ ·) = (a :: (l ++ rest)).destutter (· ≠ ·) := by
  induction l with
  | nil => rfl
  | cons b l ih =>
    by_cases same : b = a
    · rw [List.dropWhile_cons_of_pos (by simpa using same), ih, same, List.cons_append,
        destutter_cons_cons_self]
    · rw [List.dropWhile_cons_of_neg (by simpa using same)]

end Repetitions

/-! ## Calls -/

/-- What is asked of a compositor. -/
inductive Compositor.Call where
  | request (state : RenderState) (now : Nanoseconds)
  | tick (now : Nanoseconds) (card : Option CardFrame)

/-- The state that a call asks for, if it asks for one. -/
def Compositor.Call.asked? : Call → Option RenderState
  | .request state _ => some state
  | .tick _ _ => none

namespace Compositor

def answer (compositor : Compositor) : Call → Compositor
  | .request state now => compositor.request state now
  | .tick now card => (compositor.tick now card).2

/-- The states that have been current: the first, and then the one after each call. -/
def currents (compositor : Compositor) : List Call → List RenderState
  | [] => [compositor.current.state]
  | call :: rest => compositor.current.state :: (compositor.answer call).currents rest

/-- The states that are to come: the one that is fading in, and those that wait. -/
def pending (compositor : Compositor) : List RenderState :=
  (compositor.incoming.map (·.view.state)).toList ++ compositor.queued

/-- Nothing waits while nothing is fading in. -/
def Prompt (compositor : Compositor) : Prop :=
  compositor.incoming.isSome = true ∨ compositor.queued = []

/-- A compositor's past begins with what is current. -/
theorem currents_eq_cons (compositor : Compositor) (calls : List Call) :
    ∃ rest, compositor.currents calls = compositor.current.state :: rest := by
  cases calls with
  | nil => exact ⟨[], rfl⟩
  | cons call rest => exact ⟨_, rfl⟩

/-! ## Requests -/

/-- A request changes nothing about what is current. -/
theorem current_request (compositor : Compositor) (state : RenderState) (now : Nanoseconds) :
    (compositor.request state now).current = compositor.current := by
  unfold request
  split
  · rfl
  · split <;> rfl

/-- A request at rest begins at once, and any other joins the queue. -/
theorem prompt_request {compositor : Compositor} (prompt : compositor.Prompt) (state : RenderState)
    (now : Nanoseconds) : (compositor.request state now).Prompt := by
  unfold request
  split
  next fading => exact .inl fading
  next =>
    split
    · exact prompt
    · exact .inl rfl

/-- A request is the last of those to come, unless nothing is to come and the state is current. -/
theorem pending_request {compositor : Compositor} (prompt : compositor.Prompt) (state : RenderState)
    (now : Nanoseconds) : (compositor.request state now).pending = compositor.pending ++ [state] ∨
      state = compositor.current.state ∧ compositor.pending = [] ∧
        (compositor.request state now).pending = [] := by
  unfold request
  split
  next fading => exact .inl (List.append_assoc _ _ _).symm
  next idle =>
    have nothing : compositor.incoming = none := Option.not_isSome_iff_eq_none.mp idle
    have unasked : compositor.queued = [] := prompt.resolve_left idle
    have none : compositor.pending = [] := by simp [pending, nothing, unasked]
    split
    next same => exact .inr ⟨same, none, none⟩
    next => exact .inl (by simp [pending, nothing, unasked])

/-! ## Ticks -/

/-- The next fade is to the first state that waits and is not current. -/
theorem startNext_eq (compositor : Compositor) (now : Nanoseconds) (queued : List RenderState) :
    (compositor.startNext now queued).current = compositor.current ∧
      (compositor.incoming = none → (compositor.startNext now queued).Prompt ∧
        (compositor.startNext now queued).pending
          = queued.dropWhile (· = compositor.current.state)) := by
  induction queued with
  | nil => exact ⟨rfl, fun idle => ⟨.inr rfl, by simp [startNext, pending, idle]⟩⟩
  | cons next rest ih =>
    unfold startNext
    split
    next same =>
      rw [List.dropWhile_cons_of_pos (by simpa using same)]
      exact ih
    next different =>
      rw [List.dropWhile_cons_of_neg (by simpa using different)]
      exact ⟨rfl, fun _ => ⟨.inl rfl, rfl⟩⟩

/-- Whether a tick at some time completes the fade. -/
def completes (compositor : Compositor) (now : Nanoseconds) : Bool :=
  compositor.incoming.isSome && 1 ≤ compositor.blend now

/-- A tick that completes no fade changes nothing about what is shown and what is to come. -/
theorem tick_of_not_completes {compositor : Compositor} {now : Nanoseconds}
    (h : compositor.completes now = false) (card : Option CardFrame) :
    (compositor.tick now card).2.current.state = compositor.current.state ∧
      (compositor.tick now card).2.pending = compositor.pending ∧
      (compositor.Prompt → (compositor.tick now card).2.Prompt) := by
  unfold completes at h
  simp only [tick, h, Bool.false_eq_true, if_false]
  refine ⟨rfl, ?_, fun prompt => ?_⟩
  · simp only [pending, Option.map_map]
    rfl
  · simpa only [Prompt, Option.isSome_map] using prompt

/-- A tick that completes a fade makes the incoming state current, and begins the next fade. -/
theorem tick_of_completes {compositor : Compositor} {now : Nanoseconds} {incoming : Incoming}
    (fading : compositor.incoming = some incoming) (full : 1 ≤ compositor.blend now)
    (card : Option CardFrame) :
    (compositor.tick now card).2.current.state = incoming.view.state ∧
      (compositor.tick now card).2.pending = compositor.queued.dropWhile (· = incoming.view.state) ∧
      (compositor.tick now card).2.Prompt := by
  let finished : Compositor :=
    { compositor with
      frame := compositor.frame + 1
      current := incoming.view.render.flush
      incoming := none }
  have same : (compositor.tick now card).2 = finished.startNext now compositor.queued := by
    simp [tick, finish, fading, full, finished]
  obtain ⟨current, onward⟩ := finished.startNext_eq now compositor.queued
  obtain ⟨prompt, pending⟩ := onward rfl
  rw [same]
  exact ⟨by rw [current]; rfl, pending, prompt⟩

/-- What is current changes in a tick only, if the share of the incoming state is full, and then to that
state. -/
theorem current_tick (compositor : Compositor) (now : Nanoseconds) (card : Option CardFrame) :
    (compositor.tick now card).2.current.state =
      match compositor.incoming with
      | some incoming =>
        if 1 ≤ (compositor.tick now card).1.blend then incoming.view.state
        else compositor.current.state
      | none => compositor.current.state := by
  change _ = match compositor.incoming with
    | some incoming =>
      if 1 ≤ compositor.blend now then incoming.view.state else compositor.current.state
    | none => compositor.current.state
  cases fading : compositor.incoming with
  | none => exact (tick_of_not_completes (by simp [completes, fading]) card).1
  | some incoming =>
    dsimp only
    split
    next full => exact (tick_of_completes fading full card).1
    next partly => exact (tick_of_not_completes (by simp [completes, partly]) card).1

/-! ## Any calls -/

/-- No call leaves a queue behind a display at rest. -/
theorem prompt_answer {compositor : Compositor} (prompt : compositor.Prompt) (call : Call) :
    (compositor.answer call).Prompt := by
  cases call with
  | request state now => exact prompt_request prompt state now
  | tick now card =>
    cases completes : compositor.completes now with
    | false => exact (tick_of_not_completes completes card).2.2 prompt
    | true =>
      obtain ⟨fading, full⟩ := Bool.and_eq_true_iff.mp completes
      obtain ⟨incoming, fading⟩ := Option.isSome_iff_exists.mp fading
      exact (tick_of_completes fading (by simpa using full) card).2.2

/-- One call: what was current and is to come, followed by what the call asks for, is what is current and
to come after it, with what was current before. -/
theorem answer_keeps {compositor : Compositor} (prompt : compositor.Prompt) (call : Call)
    (later : List RenderState) :
    (compositor.current.state :: (compositor.answer call).current.state ::
      ((compositor.answer call).pending ++ later)).destutter (· ≠ ·)
      = (compositor.current.state ::
        (compositor.pending ++ (call.asked?.toList ++ later))).destutter (· ≠ ·) := by
  cases call with
  | request state now =>
    have current : (compositor.answer (.request state now)).current = compositor.current :=
      compositor.current_request state now
    rw [current, destutter_cons_cons_self]
    change (_ :: ((compositor.request state now).pending ++ later)).destutter _ = _
    -- What is asked for comes last, or is dropped because the last state is the same.
    obtain last | ⟨same, nothing, still⟩ := pending_request prompt state now
    · rw [last, List.append_assoc]
      rfl
    · rw [still, nothing, same]
      exact (destutter_cons_cons_self _ _).symm
  | tick now card =>
    cases completes : compositor.completes now with
    | false =>
      obtain ⟨current, pending, -⟩ := tick_of_not_completes completes card
      change (_ :: (compositor.tick now card).2.current.state :: _).destutter _ = _
      rw [current, destutter_cons_cons_self]
      change (_ :: ((compositor.tick now card).2.pending ++ later)).destutter _ = _
      rw [pending]
      rfl
    | true =>
      obtain ⟨fading, full⟩ := Bool.and_eq_true_iff.mp completes
      obtain ⟨incoming, fading⟩ := Option.isSome_iff_exists.mp fading
      -- The fade is complete: what came in is current now, and repetitions of it in the queue are passed by.
      obtain ⟨current, pending, -⟩ := tick_of_completes fading (by simpa using full) card
      change (_ :: (compositor.tick now card).2.current.state ::
        ((compositor.tick now card).2.pending ++ later)).destutter _ = _
      rw [current, pending, Compositor.pending, fading]
      exact destutter_cons_congr _ _ (destutter_cons_dropWhile _ _ _)

/-- Whatever is to come when the calls begin, and whatever they ask for, has been current or is still to
come, in that order. -/
theorem currents_append_pending {compositor : Compositor} (prompt : compositor.Prompt) (calls : List Call) :
    (compositor.currents calls ++ (calls.foldl answer compositor).pending).destutter (· ≠ ·)
      = (compositor.current.state ::
        (compositor.pending ++ calls.filterMap Call.asked?)).destutter (· ≠ ·) := by
  induction calls generalizing compositor with
  | nil => rw [List.filterMap_nil, List.append_nil]; rfl
  | cons call rest ih =>
    have asked : (call :: rest).filterMap Call.asked? = call.asked?.toList ++ rest.filterMap Call.asked? := by
      cases call <;> rfl
    have onward := ih (prompt_answer prompt call)
    obtain ⟨past, begins⟩ := (compositor.answer call).currents_eq_cons rest
    rw [asked, ← answer_keeps prompt call]
    change (compositor.current.state :: ((compositor.answer call).currents rest ++ _)).destutter _ = _
    rw [begins] at onward ⊢
    exact destutter_cons_congr _ _ onward

/-- After any calls on a new compositor: the states that have been current, the one that is fading in and
those that wait are, without repetitions, the first state and those asked for; nothing waits while nothing is
fading in; a request changes nothing about what is current, and a tick makes the incoming state current if
its share is full, and otherwise changes nothing about it either. -/
theorem serves (duration : Nanoseconds) (calls : List Call) :
    let start : Compositor := { duration }
    let last := calls.foldl answer start
    (start.currents calls ++ ((last.incoming.map (·.view.state)).toList ++ last.queued)).destutter (· ≠ ·)
        = (.card :: calls.filterMap Call.asked?).destutter (· ≠ ·) ∧
      (last.incoming.isSome = true ∨ last.queued = []) ∧
      (∀ state now, (last.request state now).current = last.current) ∧
      ∀ now card, (last.tick now card).2.current.state =
        match last.incoming with
        | some incoming =>
          if 1 ≤ (last.tick now card).1.blend then incoming.view.state else last.current.state
        | none => last.current.state := by
  intro start last
  have prompt : start.Prompt := .inr rfl
  have promptLast : last.Prompt :=
    List.foldlRecOn calls answer prompt fun _ prompt call _ => prompt_answer prompt call
  refine ⟨currents_append_pending prompt calls, promptLast, ?_, ?_⟩
  · exact last.current_request
  · exact last.current_tick

end Compositor

end Diorama
