import Diorama.Proofs.CrossFades
import Diorama.Proofs.History

/-!
# Frames are numbered from the first one

A view is made when its cross-fade begins, fades in, is current, and fades out while the next one fades in; on the
way it is moved from one place in the compositor to another, and it counts the frames that it has flushed. So what
a transition movie or the credits show is how many ticks there have been since their fade began, whatever was
requested in between, however long fades take and wherever the view is by then (`Compositor.frames_numbered`).

Views have no names. What tells them apart is the call that began their fade: `Compositor.Begins` says of a call
that it begins one, and `Compositor.Since` that one was begun, which calls came after that, and how many fades were
completed among them. With none completed the view is fading in, with one it is current or fading out, and after
that it is gone. `Compositor.Counted` ties the views of the compositor to this, and every call keeps it.

A tick hands its steps over as a list of hooks. `Compositor.perform` carries out one of them on the view that it
names, and refuses to flush a view that has rendered nothing; that a tick's hooks can be carried out, and do to the
views what the tick does, is `Compositor.perform_hooks`.
-/

namespace Diorama

/-! ## Hooks, one at a time -/

/-- Flushes a frame that has been rendered. -/
def View.flush? (view : View) : Option View :=
  if view.rendered then some view.flush else none

/-- The layer of a view. -/
def View.layer (view : View) (alpha : Float32) (card : Option CardFrame) : Layer :=
  { state := view.state, alpha, content := view.content card }

/-- A layer of a view that shows its frames by number shows this one. -/
def Layer.Numbered (layer : Layer) (n : Nat) : Prop :=
  (layer.state = .transitionMovie → layer.content = .transitionMovie n) ∧
    (layer.state = .credits → ∃ page, layer.content = .credits page ∧ page.toNat = n / 30)

namespace Compositor

/-- Does something to the view with a state; there may be none, or it may refuse. -/
def onView? (compositor : Compositor) (state : RenderState) (act : View → Option View) : Option Compositor :=
  if compositor.current.state = state then
    (act compositor.current).map fun view => { compositor with current := view }
  else
    match compositor.incoming with
    | some incoming =>
      if incoming.view.state = state then
        (act incoming.view).map fun view => { compositor with incoming := some { incoming with view } }
      else none
    | none => none

/-- Carries out one hook. -/
def perform (compositor : Compositor) : Hook → Option Compositor
  | .render state => compositor.onView? state fun view => some view.render
  | .composite => some compositor
  | .flush state => compositor.onView? state View.flush?

/-- The views after a frame has been drawn and flushed. -/
def drawn (compositor : Compositor) : Compositor :=
  { compositor with
    current := compositor.current.render.flush
    incoming := compositor.incoming.map fun incoming => { incoming with view := incoming.view.render.flush } }

/-- What is fading in is not what is current. -/
def Distinct (compositor : Compositor) : Prop :=
  ∀ incoming, compositor.incoming = some incoming → incoming.view.state ≠ compositor.current.state

/-- What has been rendered can be flushed. -/
theorem flush?_render (view : View) : view.render.flush? = some view.render.flush := rfl

/-- The hooks of a tick can be carried out in their order. -/
theorem perform_hooks {compositor : Compositor} (distinct : compositor.Distinct) (now : Nanoseconds)
    (card : Option CardFrame) :
    (compositor.tick now card).1.hooks.foldlM perform compositor = some compositor.drawn := by
  have same (view : View) : view.render.state = view.state ∧ view.flush.state = view.state := ⟨rfl, rfl⟩
  cases fading : compositor.incoming with
  | none => simp [tick, fading, perform, onView?, same, flush?_render, drawn]
  | some incoming =>
    -- The state of a hook names one view only.
    have apart := (distinct incoming fading).symm
    simp [tick, fading, perform, onView?, same, flush?_render, drawn, apart]

/-- What a tick makes of the compositor: the next frame is drawn, and a fade that is over gives way to the next. -/
theorem tick_eq (compositor : Compositor) (now : Nanoseconds) (card : Option CardFrame) :
    (compositor.tick now card).2 =
      let later := { compositor.drawn with frame := compositor.frame + 1 }
      if compositor.completes now then later.finish now else later := rfl

/-! ## What a call does to the views -/

/-- What is fading in, if anything is, has only just begun to, and is not what is current. -/
def Fresh (compositor : Compositor) : Prop :=
  ∀ incoming, compositor.incoming = some incoming →
    incoming.view = { state := incoming.view.state } ∧ incoming.view.state ≠ compositor.current.state

/-- A request to a display at rest begins its fade at zero. -/
theorem fresh_request {compositor : Compositor} (idle : compositor.incoming = none) (state : RenderState)
    (now : Nanoseconds) : (compositor.request state now).Fresh := by
  unfold request
  rw [idle]
  intro incoming fading
  by_cases same : state = compositor.current.state
  · simp [same, idle] at fading
  · simp only [Option.isSome_none, Bool.false_eq_true, if_false, if_neg same] at fading ⊢
    cases fading
    exact ⟨rfl, same⟩

/-- A fade that was queued begins at zero. -/
theorem fresh_startNext {compositor : Compositor} (idle : compositor.incoming = none) (now : Nanoseconds)
    (queued : List RenderState) : (compositor.startNext now queued).Fresh := by
  induction queued with
  | nil =>
    intro incoming fading
    simp [startNext, idle] at fading
  | cons next rest ih =>
    unfold startNext
    split
    next => exact ih
    next different =>
      intro incoming fading
      cases fading
      exact ⟨rfl, different⟩

/-- A view after a call: a tick draws and flushes one more frame of it. -/
def Call.advance : Call → View → View
  | .request _ _, view => view
  | .tick _ _, view => view.render.flush

def Call.isTick : Call → Bool
  | .request _ _ => false
  | .tick _ _ => true

/-- Calls do not change what a view is of. -/
theorem Call.state_advance (call : Call) (view : View) : (call.advance view).state = view.state := by
  cases call <;> rfl

/-- A view counts the ticks that it has been drawn for. -/
theorem Call.frames_advance (call : Call) (view : View) :
    (call.advance view).frames = view.frames + [call].countP isTick := by
  cases call <;> rfl

/-- Whether a call completes a fade. -/
def completesBy (compositor : Compositor) : Call → Bool
  | .request _ _ => false
  | .tick now _ => compositor.completes now

/-- A call that completes a fade makes the view that faded in current, and may begin the next fade. -/
theorem answer_of_completes {compositor : Compositor} {call : Call} (full : compositor.completesBy call = true) :
    (compositor.answer call).Fresh ∧ ∃ incoming, compositor.incoming = some incoming ∧
      (compositor.answer call).current = call.advance incoming.view := by
  cases call with
  | request state now => cases full
  | tick now card =>
    have full : compositor.completes now = true := full
    obtain ⟨fading, -⟩ := Bool.and_eq_true_iff.mp full
    obtain ⟨incoming, fading⟩ := Option.isSome_iff_exists.mp fading
    let finished : Compositor :=
      { compositor with frame := compositor.frame + 1, current := incoming.view.render.flush, incoming := none }
    have same : compositor.answer (.tick now card) = finished.startNext now compositor.queued := by
      show (compositor.tick now card).2 = _
      rw [tick_eq]
      dsimp only
      rw [if_pos full]
      simp [finish, drawn, fading, finished]
    rw [same]
    exact ⟨fresh_startNext rfl now _, incoming, fading, (finished.startNext_eq now _).1⟩

/-- Any other call leaves the views where they are, and may begin a fade if there is none. -/
theorem answer_of_not_completes {compositor : Compositor} {call : Call}
    (partly : compositor.completesBy call = false) :
    (compositor.answer call).current = call.advance compositor.current ∧
      (compositor.incoming = none → (compositor.answer call).Fresh) ∧
      ∀ incoming, compositor.incoming = some incoming →
        (compositor.answer call).incoming = some { incoming with view := call.advance incoming.view } := by
  cases call with
  | request state now =>
    refine ⟨compositor.current_request state now, fun idle => fresh_request idle state now, ?_⟩
    intro incoming fading
    simp [answer, request, fading, Call.advance]
  | tick now card =>
    have same : compositor.answer (.tick now card) = { compositor.drawn with frame := compositor.frame + 1 } := by
      show (compositor.tick now card).2 = _
      rw [tick_eq]
      dsimp only
      rw [if_neg (by simpa [completesBy] using partly)]
    rw [same]
    refine ⟨rfl, ?_, ?_⟩
    · intro idle incoming fading
      simp [drawn, idle] at fading
    · intro incoming fading
      simp [drawn, fading, Call.advance]

/-- No call brings the state in that is there already. -/
theorem distinct_answer {compositor : Compositor} (distinct : compositor.Distinct) (call : Call) :
    (compositor.answer call).Distinct := by
  cases completes : compositor.completesBy call with
  | true =>
    intro incoming fading
    exact ((answer_of_completes completes).1 incoming fading).2
  | false =>
    obtain ⟨current, begins, goesOn⟩ := answer_of_not_completes completes
    intro incoming fading
    cases before : compositor.incoming with
    | none => exact (begins before incoming fading).2
    | some earlier =>
      rw [goesOn earlier before] at fading
      cases fading
      rw [current, Call.state_advance, Call.state_advance]
      exact distinct earlier before

/-! ## Fades, and what has come after their beginning -/

/-- A call begins the fade to a state. -/
def Begins (compositor : Compositor) (call : Call) (state : RenderState) : Prop :=
  (compositor.incoming = none ∨ compositor.completesBy call = true) ∧
    (compositor.answer call).incoming.map (·.view.state) = some state

/-- How many fades are completed in some calls. -/
def completions (compositor : Compositor) : List Call → Nat
  | [] => 0
  | call :: rest => (compositor.completesBy call).toNat + (compositor.answer call).completions rest

/-- One of some calls began the fade to a state; these calls came after it, and completed so many fades. -/
def Since (start : Compositor) (calls : List Call) (state : RenderState) (since : List Call)
    (completed : Nat) : Prop :=
  ∃ before call, calls = before ++ call :: since ∧
    (before.foldl answer start).Begins call state ∧
    ((before.foldl answer start).answer call).completions since = completed

/-- Fades are counted as they complete. -/
theorem completions_concat (compositor : Compositor) (calls : List Call) (call : Call) :
    compositor.completions (calls ++ [call])
      = compositor.completions calls + ((calls.foldl answer compositor).completesBy call).toNat := by
  induction calls generalizing compositor with
  | nil => simp [completions]
  | cons first rest ih => simp [completions, ih, Nat.add_assoc]

/-- The fade was begun by the last call, or by one before it. -/
theorem Since.concat_iff {start : Compositor} {calls since : List Call} {call : Call} {state : RenderState}
    {completed : Nat} : Since start (calls ++ [call]) state since completed ↔
      (calls.foldl answer start).Begins call state ∧ since = [] ∧ completed = 0 ∨
      ∃ front earlier, since = front ++ [call] ∧ Since start calls state front earlier ∧
        completed = earlier + ((calls.foldl answer start).completesBy call).toNat := by
  constructor
  · intro ⟨before, first, split, begins, count⟩
    rcases concat_eq_append_cons_iff.mp split with ⟨rfl, rfl, rfl⟩ | ⟨front, rfl, rfl⟩
    · exact .inl ⟨begins, rfl, count.symm⟩
    · refine .inr ⟨front, _, rfl, ⟨before, first, rfl, begins, rfl⟩, ?_⟩
      rw [← count, completions_concat]
      simp
  · rintro (⟨begins, rfl, rfl⟩ | ⟨front, _, rfl, ⟨before, first, rfl, begins, rfl⟩, rfl⟩)
    · exact ⟨calls, call, rfl, begins, rfl⟩
    · refine ⟨before, first, by simp, begins, ?_⟩
      rw [completions_concat]
      simp

section

variable {start : Compositor} {calls since : List Call} {call : Call} {state : RenderState}

/-- One more call since a fade was begun. -/
theorem Since.concat {completed : Nat} (begun : Since start calls state since completed) (call : Call) :
    Since start (calls ++ [call]) state (since ++ [call])
      (completed + ((calls.foldl answer start).completesBy call).toNat) :=
  concat_iff.mpr (.inr ⟨since, completed, rfl, begun, rfl⟩)

/-- A fade has begun with the last call, or goes on through it. -/
theorem Since.of_concat_zero (begun : Since start (calls ++ [call]) state since 0) :
    (calls.foldl answer start).Begins call state ∧ since = [] ∨
      (calls.foldl answer start).completesBy call = false ∧
        ∃ front, since = front ++ [call] ∧ Since start calls state front 0 := by
  rcases concat_iff.mp begun with ⟨begins, none, -⟩ | ⟨front, earlier, split, begun, count⟩
  · exact .inl ⟨begins, none⟩
  · obtain ⟨rfl, partly⟩ := Nat.add_eq_zero_iff.mp count.symm
    exact .inr ⟨Bool.toNat_eq_zero.mp partly, front, split, begun⟩

/-- The one fade that has been completed was completed by the last call, or before it. -/
theorem Since.of_concat_one (begun : Since start (calls ++ [call]) state since 1) :
    ∃ front, since = front ++ [call] ∧
      ((calls.foldl answer start).completesBy call = true ∧ Since start calls state front 0 ∨
        (calls.foldl answer start).completesBy call = false ∧ Since start calls state front 1) := by
  rcases concat_iff.mp begun with ⟨-, -, none⟩ | ⟨front, earlier, split, begun, count⟩
  · cases none
  · refine ⟨front, split, ?_⟩
    cases completes : (calls.foldl answer start).completesBy call with
    | true =>
      rw [completes, Bool.toNat_true, Nat.right_eq_add] at count
      subst count
      exact .inl ⟨rfl, begun⟩
    | false =>
      rw [completes, Bool.toNat_false, Nat.add_zero] at count
      subst count
      exact .inr ⟨rfl, begun⟩

end

/-- What a call begins the fade to is a view that has shown nothing yet. -/
theorem Begins.exists_incoming {compositor : Compositor} {call : Call} {state : RenderState}
    (begins : compositor.Begins call state) :
    ∃ incoming, (compositor.answer call).incoming = some incoming ∧ incoming.view = { state } := by
  obtain ⟨free, arises⟩ := begins
  obtain ⟨incoming, fading, rfl⟩ := Option.map_eq_some_iff.mp arises
  refine ⟨incoming, fading, ?_⟩
  cases completes : compositor.completesBy call with
  | true => exact ((answer_of_completes completes).1 incoming fading).1
  | false =>
    have idle : compositor.incoming = none := free.resolve_right (by simp [completes])
    exact ((answer_of_not_completes completes).2.1 idle incoming fading).1

/-! ## Counting -/

/-- The views have been shown as often as there have been ticks since their fades began. -/
structure Counted (start : Compositor) (calls : List Call) (last : Compositor) : Prop where
  fadingIn : ∀ state since, Since start calls state since 0 → ∃ incoming, last.incoming = some incoming ∧
    incoming.view.state = state ∧ incoming.view.frames = since.countP Call.isTick
  current : ∀ state since, Since start calls state since 1 →
    last.current.state = state ∧ last.current.frames = since.countP Call.isTick
  /-- Whatever is on screen and is not the card had its fade begun. -/
  incomingBegun : ∀ incoming, last.incoming = some incoming →
    ∃ since, Since start calls incoming.view.state since 0
  currentBegun : last.current.state ≠ .card → ∃ since, Since start calls last.current.state since 1

namespace Counted

variable {start last : Compositor} {calls : List Call}

/-- Before any call nothing is fading in. -/
theorem nil (idle : start.incoming = none) (card : start.current.state = .card) : Counted start [] start where
  fadingIn state since h := by
    obtain ⟨before, call, split, -⟩ := h
    simp at split
  current state since h := by
    obtain ⟨before, call, split, -⟩ := h
    simp at split
  incomingBegun incoming fading := by simp [idle] at fading
  currentBegun shown := absurd card shown

/-- One more call keeps count. -/
theorem concat (call : Call) (counted : Counted start calls (calls.foldl answer start)) :
    Counted start (calls ++ [call]) ((calls.foldl answer start).answer call) where
  fadingIn state since begun := by
    rcases begun.of_concat_zero with ⟨begins, rfl⟩ | ⟨partly, front, rfl, before⟩
    · obtain ⟨incoming, fading, view⟩ := begins.exists_incoming
      exact ⟨incoming, fading, by rw [view], by rw [view]; rfl⟩
    · obtain ⟨incoming, fading, same, frames⟩ := counted.fadingIn state front before
      refine ⟨_, (answer_of_not_completes partly).2.2 incoming fading, ?_, ?_⟩
      · rw [Call.state_advance, same]
      · rw [Call.frames_advance, List.countP_append, frames]
  current state since begun := by
    obtain ⟨front, rfl, ⟨full, before⟩ | ⟨partly, before⟩⟩ := begun.of_concat_one
    · obtain ⟨-, incoming, fading, arrives⟩ := answer_of_completes full
      obtain ⟨other, fading', same, frames⟩ := counted.fadingIn state front before
      rw [fading] at fading'
      cases fading'
      rw [arrives, Call.state_advance, Call.frames_advance, List.countP_append, same, frames]
      exact ⟨rfl, rfl⟩
    · obtain ⟨same, frames⟩ := counted.current state front before
      rw [(answer_of_not_completes partly).1, Call.state_advance, Call.frames_advance, List.countP_append, same,
        frames]
      exact ⟨rfl, rfl⟩
  incomingBegun incoming fading := by
    -- A fade that the call has begun counts from here; one that was there before goes on counting.
    have first (free : (calls.foldl answer start).incoming = none
        ∨ (calls.foldl answer start).completesBy call = true) :
        Since start (calls ++ [call]) incoming.view.state [] 0 :=
      Since.concat_iff.mpr (.inl ⟨⟨free, by rw [fading]; rfl⟩, rfl, rfl⟩)
    cases completes : (calls.foldl answer start).completesBy call with
    | true => exact ⟨[], first (.inr completes)⟩
    | false =>
      cases before : (calls.foldl answer start).incoming with
      | none => exact ⟨[], first (.inl before)⟩
      | some earlier =>
        rw [(answer_of_not_completes completes).2.2 earlier before] at fading
        cases fading
        obtain ⟨since, begun⟩ := counted.incomingBegun earlier before
        have later := begun.concat call
        rw [completes] at later
        rw [Call.state_advance]
        exact ⟨since ++ [call], later⟩
  currentBegun unlikeCard := by
    cases completes : (calls.foldl answer start).completesBy call with
    | true =>
      obtain ⟨-, incoming, fading, arrives⟩ := answer_of_completes completes
      obtain ⟨since, begun⟩ := counted.incomingBegun incoming fading
      have later := begun.concat call
      rw [completes] at later
      rw [arrives, Call.state_advance]
      exact ⟨since ++ [call], later⟩
    | false =>
      rw [(answer_of_not_completes completes).1, Call.state_advance] at unlikeCard ⊢
      obtain ⟨since, begun⟩ := counted.currentBegun unlikeCard
      have later := begun.concat call
      rw [completes] at later
      exact ⟨since ++ [call], later⟩

end Counted

/-- After any calls the views have been counted by the ticks since their fades began. -/
theorem counted_calls {start : Compositor} (idle : start.incoming = none) (card : start.current.state = .card)
    (calls : List Call) : Counted start calls (calls.foldl answer start) := by
  induction calls using List.reverseRecOn with
  | nil => exact .nil idle card
  | append_singleton calls call counted =>
    rw [List.foldl_concat]
    exact counted.concat call

/-- A tick gives a layer for the current view, and one for the view that is fading in. -/
theorem layers_tick (compositor : Compositor) (now : Nanoseconds) (card : Option CardFrame) :
    (compositor.tick now card).1.layers =
      compositor.current.layer (if compositor.incoming.isSome then 1 - compositor.blend now else 1) card
        :: (compositor.incoming.map (·.view.layer (compositor.blend now) card)).toList := rfl

/-- A view shows the number of frames that it has flushed. -/
theorem numbered_layer {view : View} (few : view.frames < UInt32.size) (alpha : Float32)
    (card : Option CardFrame) : (view.layer alpha card).Numbered view.frames := by
  constructor
  · intro (movie : view.state = .transitionMovie)
    simp [View.layer, View.content, movie]
  · intro (credits : view.state = .credits)
    refine ⟨(view.frames / framesPerPage).toUInt32, by simp [View.layer, View.content, credits], ?_⟩
    have small : view.frames / 30 < UInt32.size := by omega
    exact Nat.mod_eq_of_lt small

/-- After any calls on a new compositor, with fewer than 2³² ticks among them: what is fading in is not what is
current, and nothing waits while nothing is fading in. The next tick renders the view that is current and the one
that is fading in, composites them, and flushes them in the same order, each of which can be done when its turn
comes; it gives a layer for each of the two. A fade that has been begun is the second layer as long as no fade has
been completed since, and the first one until another has; the number that it shows is that of the ticks since
its fade was begun. Whatever is shown and is not the card is there because of a fade that was begun. -/
theorem frames_numbered (duration : Nanoseconds) (calls : List Call)
    (few : calls.countP Call.isTick < UInt32.size) :
    let start : Compositor := { duration }
    let last := calls.foldl answer start
    (∀ incoming, last.incoming = some incoming → incoming.view.state ≠ last.current.state) ∧
    (last.incoming = none → last.queued = []) ∧
    ∀ now card,
      let report := (last.tick now card).1
      let shown := last.current.state :: (last.incoming.map (·.view.state)).toList
      report.hooks = shown.map Hook.render ++ [.composite] ++ shown.map Hook.flush ∧
      (∃ flushed, report.hooks.foldlM perform last = some flushed ∧
        (last.tick now card).2 =
          let later := { flushed with frame := last.frame + 1 }
          if last.completes now then later.finish now else later) ∧
      report.layers.map (·.state) = shown ∧
      (∀ state since, Since start calls state since 0 → ∃ layer, report.layers[1]? = some layer ∧
        layer.state = state ∧ layer.Numbered (since.countP Call.isTick)) ∧
      (∀ state since, Since start calls state since 1 → ∃ layer, report.layers[0]? = some layer ∧
        layer.state = state ∧ layer.Numbered (since.countP Call.isTick)) ∧
      ∀ place layer, report.layers[place]? = some layer → layer.state ≠ .card →
        ∃ since, Since start calls layer.state since (1 - place) := by
  intro start last
  have counted : Counted start calls last := counted_calls rfl rfl calls
  have distinct : last.Distinct :=
    List.foldlRecOn calls answer (by simp [Distinct, start]) fun _ distinct call _ => distinct_answer distinct call
  have prompt : last.Prompt :=
    List.foldlRecOn calls answer (.inr rfl) fun _ prompt call _ => prompt_answer prompt call
  -- What is counted since a fade began is counted among all the calls, so the word that holds it does not run full.
  have bounded {state : RenderState} {since : List Call} {completed : Nat}
      (begun : Since start calls state since completed) : since.countP Call.isTick < UInt32.size := by
    obtain ⟨before, call, rfl, -⟩ := begun
    rw [List.countP_append, List.countP_cons] at few
    omega
  refine ⟨distinct, ?_, ?_⟩
  · intro idle
    exact prompt.resolve_left (by simp [idle])
  intro now card
  dsimp only
  refine ⟨?_, ⟨last.drawn, perform_hooks distinct now card, last.tick_eq now card⟩, ?_, ?_, ?_, ?_⟩
  · cases fading : last.incoming <;> simp [tick, fading]
  · cases fading : last.incoming <;> simp [tick, fading]
  · intro state since begun
    obtain ⟨incoming, fading, same, frames⟩ := counted.fadingIn state since begun
    have few := bounded begun
    rw [← frames] at few ⊢
    refine ⟨incoming.view.layer (last.blend now) card, ?_, same, numbered_layer few _ card⟩
    rw [layers_tick, fading]
    rfl
  · intro state since begun
    obtain ⟨same, frames⟩ := counted.current state since begun
    have few := bounded begun
    rw [← frames] at few ⊢
    exact ⟨_, rfl, same, numbered_layer few _ card⟩
  · intro place layer there unlikeCard
    rw [layers_tick] at there
    cases place with
    | zero =>
      cases there
      exact counted.currentBegun unlikeCard
    | succ place =>
      cases fading : last.incoming with
      | none => simp [fading] at there
      | some incoming =>
        obtain ⟨rfl, rfl⟩ : place = 0 ∧ incoming.view.layer (last.blend now) card = layer := by
          simpa [fading, List.getElem?_singleton] using there
        exact counted.incomingBegun incoming fading

/-- A movie is requested and shown, and then the credits and the card are requested. -/
def movieThenCredits : List Call :=
  [.request .transitionMovie 0, .tick 0 none, .request .credits 0, .request .card 0]

/-- The movie fades out while the credits fade in: its second frame, and their first page. -/
theorem frames_numbered_fadingOut :
    movieThenCredits.countP Call.isTick < UInt32.size ∧
    Since { duration := 0 } movieThenCredits .transitionMovie
      [.tick 0 none, .request .credits 0, .request .card 0] 1 ∧
    Since { duration := 0 } movieThenCredits .credits [.request .card 0] 0 ∧
    ∃ movie credits, ((movieThenCredits.foldl answer { duration := 0 }).tick 0 none).1.layers[0]? = some movie ∧
      ((movieThenCredits.foldl answer { duration := 0 }).tick 0 none).1.layers[1]? = some credits ∧
      movie.content = .transitionMovie 1 ∧ ∃ page, credits.content = .credits page ∧ page.toNat = 0 := by
  have movieBegun : Since { duration := 0 } movieThenCredits .transitionMovie
      [.tick 0 none, .request .credits 0, .request .card 0] 1 :=
    ⟨[], .request .transitionMovie 0, rfl, ⟨.inl rfl, rfl⟩, by decide +kernel⟩
  have creditsBegun : Since { duration := 0 } movieThenCredits .credits [.request .card 0] 0 :=
    ⟨[.request .transitionMovie 0, .tick 0 none], .request .credits 0, rfl,
      ⟨.inl (by decide +kernel), by decide +kernel⟩, by decide +kernel⟩
  obtain ⟨-, -, next⟩ := frames_numbered 0 movieThenCredits (by decide)
  obtain ⟨-, -, -, fadingIn, current, -⟩ := next 0 none
  obtain ⟨movie, first, shown, counted⟩ := current _ _ movieBegun
  obtain ⟨credits, second, shown', counted'⟩ := fadingIn _ _ creditsBegun
  exact ⟨by decide, movieBegun, creditsBegun, movie, credits, first, second, counted.1 shown, counted'.2 shown'⟩

end Compositor

end Diorama
