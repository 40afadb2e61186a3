import Diorama.Proofs.Lockstep
import Diorama.Proofs.WorldRuns

/-!
# The button

What the engine takes the button to be, against what the host has said of it. The host reports the button by
clicks, and a click goes one of three ways. If a movie is waited for it is dropped, though the host is told
that it was accepted. Otherwise it is added to the queue; and when it is taken from there, the button is set
before any script runs. No script sets it.

So in a world that lives the clicks that were kept are those that were handled and then those that are still
in the queue, and the button is as the last one that was handled has set it. Bringing the world down ends this:
the clicks in the queue are skipped, the button stays as it is, and no click is accepted any more
(`World.button_follows`). A release that is dropped leaves it held (`World.button_stuck`).

The button matters to the animation clock alone. If it is not held, a tick is a tick that knows of no held
button (`Script.animationTick_resting`).
-/

namespace Diorama

/-! ## Clicks -/

/-- A click of the host that it was told is accepted. -/
structure Click where
  /-- Whether the button was pressed, or released. -/
  down : Bool
  /-- Whether a movie was waited for, and the click was dropped. -/
  dropped : Bool
  deriving DecidableEq, Repr

/-- Whether a call reports the button, and how. -/
def Call.click? : Call → Option Bool
  | .pointerDown => some true
  | .pointerUp => some false
  | _ => none

/-- The click of a turn, if it is one and is accepted. -/
def Turn.click? (world : World) : Turn → Option Click
  | .call made =>
    match made.click?, made.perform world with
    | some down, .ok _ => some { down, dropped := world.stage.blockingMovie }
    | _, _ => none
  | _ => none

/-- The clicks of the host in a run, the oldest first. -/
def World.clicks (world : World) : List Turn → List Click
  | [] => []
  | turn :: rest => (turn.click? world).toList ++ (world.turn turn).clicks rest

/-- What the clicks that were not dropped say of the button. -/
def Click.kept (clicks : List Click) : List Bool :=
  (clicks.filter (!·.dropped)).map (·.down)

/-- The clicks of two runs of turns, one after the other. -/
theorem World.clicks_append (world : World) (turns more : List Turn) :
    world.clicks (turns ++ more) = world.clicks turns ++ (world.run turns).clicks more := by
  induction turns generalizing world with
  | nil => rfl
  | cons first rest ih =>
    rw [List.cons_append, clicks, clicks, ih, List.append_assoc]
    rfl

/-- The last click is that of the last turn, if it is one. -/
theorem World.clicks_concat (world : World) (turns : List Turn) (turn : Turn) :
    world.clicks (turns ++ [turn]) = world.clicks turns ++ (turn.click? (world.run turns)).toList := by
  rw [clicks_append]
  exact congrArg _ (List.append_nil _)

/-- Each click is kept or dropped by itself. -/
theorem Click.kept_append (clicks others : List Click) : kept (clicks ++ others) = kept clicks ++ kept others := by
  rw [kept, List.filter_append, List.map_append]
  rfl

/-- In a world that lives, a click that is not dropped is what is sent. -/
theorem Turn.kept_click? {world : World} (live : world.stage.tornDown = false) (turn : Turn) :
    Click.kept (turn.click? world).toList = (turn.message? world).toList.filterMap (·.click?) := by
  cases turn with
  | call made =>
    obtain ⟨later, done⟩ := World.exists_perform live made
    have lives : ¬ world.stage.tornDown = true := Bool.eq_false_iff.mp live
    unfold click? message?
    dsimp only
    rw [done, if_neg lives]
    cases made with
    | pointerDown =>
      cases blocked : world.stage.blockingMovie <;> simp only [Call.message?, blocked] <;> rfl
    | pointerUp =>
      cases blocked : world.stage.blockingMovie <;> simp only [Call.message?, blocked] <;> rfl
    | movieFinished code =>
      cases waited : (world.stage.gate.complete code).1 <;> simp only [Call.message?, waited] <;> rfl
    | _ => rfl
  | clock => cases pending : world.tickPending <;> simp only [message?, pending] <;> rfl
  | _ => rfl

/-! ## The queue -/

/-- A move takes messages from the front of the queue and adds what is sent at its end, and the button is as
the last click among those taken has set it. -/
theorem World.Lives.button {world later : World} {sent : List Message} (h : world.Lives)
    (move : world.Move sent later) : ∃ taken, world.messages ++ sent = taken ++ later.messages ∧
      later.session.buttonDown = (taken.filterMap (·.click?)).getLast?.getD world.session.buttonDown := by
  cases move with
  | apart session suspended messages =>
    refine ⟨[], messages.symm, ?_⟩
    rcases session with same | ⟨act, -, same⟩
    · rw [same]
      rfl
    · rw [same]
      rfl
  | @resumes suspended outcome gate silent waits answered same =>
    obtain ⟨-, legs⟩ := (World.engaged_of_waits waits).mp h.engaged
    refine ⟨[], ?_, ?_⟩
    · rw [same, World.messages_proceed, silent, List.append_nil]
      rfl
    · rw [same, World.session_proceed]
      exact (legs { world.session with gate } outcome).session.buttonDown
  | @takes message rest between silent idle first live session messages same =>
    refine ⟨[message], ?_, ?_⟩
    · rw [same, World.messages_proceed, messages, silent, List.append_nil, first]
      rfl
    · rw [same, World.session_proceed, (message.legs world.session).session.buttonDown]
      unfold Message.press
      cases message <;> rfl
  | drops _ idle first down session still messages => cases down.symm.trans h.live

/-! ## Ticks -/

namespace Script

/-- A tick that knows of no held button. -/
def restingTick : Script Unit := do
  if (← get).card.isSome then
    let inside ← runActiveHotspot .mouseInside
    let pending ← if inside.isNone then fireCues else pure inside
    settle pending

end Script

/-- The two sessions are the same, and the button is not held. -/
def Session.Resting (session twin : Session) : Prop :=
  twin = session ∧ session.buttonDown = false

/-- What others do brings no button down. -/
theorem Session.resting_coupling : Session.Coupling Session.Resting where
  suffer act related := by
    obtain ⟨rfl, released⟩ := related
    exact ⟨rfl, released⟩
  gate related := by rw [related.1]
  answered gate related := by
    obtain ⟨rfl, released⟩ := related
    exact ⟨rfl, released⟩

/-- With the button not held, a program that goes in legs goes in lockstep with itself. -/
theorem Progress.Legs.resting {α : Type} {progress : Progress α} {first : Session}
    (legs : progress.Legs first) (released : first.buttonDown = false) :
    progress.Lockstep Session.Resting progress := by
  induction progress generalizing first with
  | done later result => exact ⟨⟨rfl, legs.buttonDown.trans released⟩, rfl⟩
  | waiting session resume ih =>
    obtain ⟨here, -, onward⟩ := legs
    refine ⟨⟨rfl, here.buttonDown.trans released⟩, ?_⟩
    rintro later _ outcome ⟨rfl, released⟩
    exact ih _ outcome (onward _ outcome) released

/-- A program that is the same for both goes before what the two have that is different. -/
theorem Script.Legs.resting_bind {α β : Type} {script : Script α} {next next' : α → Script β}
    (legs : Script.Legs script) {session : Session} (released : session.buttonDown = false)
    (onward : ∀ later value, later.buttonDown = false →
      (next value later).Lockstep Session.Resting (next' value later)) :
    ((script >>= next) session).Lockstep Session.Resting ((script >>= next') session) := by
  refine ((legs session).resting released).bind ?_
  rintro later _ result ⟨rfl, released⟩
  cases result with
  | ok value => exact onward _ value released
  | error error => exact ⟨⟨rfl, released⟩, rfl⟩

open Script in
/-- If the button is not held, a tick goes in lockstep with one that knows of no held button. -/
theorem Script.animationTick_resting {session : Session} (released : session.buttonDown = false) :
    (animationTick session).Lockstep Session.Resting (restingTick session) := by
  unfold animationTick restingTick
  rw [get_bind, get_bind]
  split
  · refine (legs.runActiveHotspot_holds .mouseInside).resting_bind released fun later inside released => ?_
    rw [get_bind, released, Bool.and_false]
    have onward (script : Script (Option Location)) (goes : Legs script) :
        ((script >>= settle) later).Lockstep Session.Resting ((script >>= settle) later) :=
      ((legs.bind goes legs.settle_holds) later).resting released
    cases inside with
    | none => exact onward _ (legs.fireCues_holds get_legs)
    | some target => exact onward _ (legs.pure _)
  · exact ((legs.pure ()) session).resting released

/-! ## Runs -/

namespace World

/-- How the button stands after these clicks: some of those that were kept have been handled, the others are
in the queue, and the button is as the last one that was handled has set it. -/
def Follows (clicks : List Click) (world : World) : Prop :=
  ∃ handled, Click.kept clicks = handled ++ world.messages.filterMap (·.click?) ∧
    world.session.buttonDown = handled.getLast?.getD false

/-- A turn adds at most one click at the end, and takes some from the front. -/
theorem Follows.move {world later : World} {clicks : List Click} {turn : Turn} (h : world.Follows clicks)
    (lives : world.Lives) (move : world.Move (turn.message? world).toList later) :
    later.Follows (clicks ++ (turn.click? world).toList) := by
  obtain ⟨handled, same, button⟩ := h
  obtain ⟨taken, queue, pressed⟩ := lives.button move
  refine ⟨handled ++ taken.filterMap (·.click?), ?_, ?_⟩
  · rw [Click.kept_append, turn.kept_click? lives.live, same, List.append_assoc, ← List.filterMap_append, queue,
      List.filterMap_append, List.append_assoc]
  · rw [pressed, button, List.getLast?_append]
    cases (taken.filterMap (·.click?)).getLast? <;> rfl

/-- As long as the world stands, its button is as the kept clicks have set it that were handled, and the others
wait in the queue. Each turn keeps this, so a run does, by induction on its turns. -/
theorem follows_run (config : EngineConfig) (provider : Provider) (player : MediaPlayer) {turns : List Turn}
    (live : ((ofConfig config provider player).run turns).session.tornDown = false) :
    ((ofConfig config provider player).run turns).Follows ((ofConfig config provider player).clicks turns) := by
  refine live_invariant config provider player
    (fun turns world => world.Follows ((ofConfig config provider player).clicks turns)) ?_ ?_ live
  · refine ⟨[], ?_, rfl⟩
    change [] = (config.start.map fun location => Message.goto location none).toList.filterMap _
    cases config.start <;> rfl
  · intro turns turn lives follows later move
    rw [clicks_concat]
    exact follows.move lives move

/-- No script sets the button while the world comes down. -/
theorem Lives.button_teardown {world : World} (h : world.Lives) :
    world.teardown.session.buttonDown = world.session.buttonDown := by
  obtain ⟨-, ongoing, -⟩ := h.settle_beginTeardown
  have closed := world.beginTeardown.settle.session.aside_closeCard
  rw [h.teardown_eq]
  exact closed.buttonDown.trans ongoing.buttonDown

/-- A world that has come down accepts no click. -/
theorem Ended.clicks {world : World} (h : world.Ended) (turns : List Turn) : world.clicks turns = [] := by
  induction turns generalizing world with
  | nil => rfl
  | cons turn rest ih =>
    have refused : turn.click? world = none := by
      cases turn with
      | call made =>
        unfold Turn.click?
        dsimp only
        rw [perform_of_tornDown h.tornDown made]
        cases made.click? <;> rfl
      | _ => rfl
    rw [World.clicks, refused, ih (h.turn turn).1]
    rfl

/-- As long as the world lives, the button is as the last click that was handled has set it; the clicks that
were handled are those that were not dropped, without those that are still in the queue. So when the queue is
empty the button is held exactly if the last click that was not dropped pressed it. From the moment at which
the world is brought down the button stays as it is, and no click is accepted. And while the button is not held,
a tick comes to nothing but what it would come to if there were no scripts for a held button. -/
theorem button_follows (config : EngineConfig) (provider : Provider) (player : MediaPlayer) (turns : List Turn) :
    let beginning := ofConfig config provider player
    let world := beginning.run turns
    let clicks := beginning.clicks turns
    (world.stage.tornDown = false →
      (∃ handled, Click.kept clicks = handled ++ world.messages.filterMap (·.click?) ∧
        world.session.buttonDown = handled.getLast?.getD false) ∧
      (world.messages = [] → (world.session.buttonDown = true ↔ (Click.kept clicks).getLast? = some true))) ∧
    (world.stage.tornDown = true → ∃ before after, turns = before ++ .teardown :: after ∧
      (beginning.run before).stage.tornDown = false ∧ clicks = beginning.clicks before ∧
      world.session.buttonDown = (beginning.run before).session.buttonDown) ∧
    (world.session.buttonDown = false → ∀ others,
      ((Script.animationTick world.session).under others).session
        = ((Script.restingTick world.session).under others).session) := by
  refine ⟨fun live => ?_, fun down => ?_, fun released others => ?_⟩
  · have follows := follows_run config provider player live
    refine ⟨follows, fun empty => ?_⟩
    obtain ⟨handled, same, button⟩ := follows
    rw [empty, List.filterMap_nil, List.append_nil] at same
    rw [same, button]
    cases handled.getLast? with
    | none => exact iff_of_false Bool.false_ne_true nofun
    | some down => exact (Option.some_inj).symm
  · obtain ⟨before, after, rfl, lives⟩ := exists_teardown config provider player down
    refine ⟨before, after, rfl, lives.live, ?_, ?_⟩
    · have refused : World.clicks _ (.teardown :: after) = [] := lives.teardown.clicks after
      rw [clicks_append, refused, List.append_nil]
    · obtain ⟨-, ongoing⟩ := lives.teardown.run after
      rw [run_append]
      exact ongoing.buttonDown.trans lives.button_teardown
  · have lockstep := (Script.animationTick_resting released).under Session.resting_coupling others
    exact lockstep.session.1.symm

/-- The start script of a card waits for a movie. The host has pressed the button before; it releases it while
the movie plays, and once more when the movie has ended. -/
theorem button_follows_late : ∃ config provider player turns,
    let world := (ofConfig config provider player).run turns
    let clicks := (ofConfig config provider player).clicks turns
    world.stage.tornDown = false ∧ world.messages = [] ∧
      clicks = [⟨true, false⟩, ⟨false, true⟩, ⟨false, false⟩] ∧ world.session.buttonDown = false ∧
      ∀ others, ((Script.animationTick world.session).under others).session
        = ((Script.restingTick world.session).under others).session := by
  let movie : Movie := { index := 1, movie := 9, code := 5, left := 0, top := 0, looping := false }
  let card : CardRecord := { scripts := [⟨9, [.op 46 [1], .op 32 [5]]⟩], movies := [movie] }
  let turns : List Turn :=
    [ .call .pointerDown, .take, .call (.goto ⟨"a", 1⟩ none), .take, .call .pointerUp
    , .call (.movieFinished 5), .resume, .call .pointerUp, .take ]
  let provider := (Session.beginning "a" [(1, card)]).resolver.provider
  have ran : let world := (ofConfig {} provider {}).run turns
      !world.stage.tornDown && world.messages.isEmpty &&
        (ofConfig {} provider {}).clicks turns == [⟨true, false⟩, ⟨false, true⟩, ⟨false, false⟩] := by
    decide +kernel
  obtain ⟨⟨live, empty⟩, clicks⟩ := by simpa only [Bool.and_eq_true, Bool.not_eq_true', beq_iff_eq] using ran
  obtain ⟨living, -, resting⟩ := button_follows {} provider {} turns
  obtain ⟨-, held⟩ := living live
  have released : ((ofConfig {} provider {}).run turns).session.buttonDown = false := by
    rw [← Bool.not_eq_true, held (List.isEmpty_iff.mp empty), clicks]
    decide
  exact ⟨{}, provider, {}, turns, live, List.isEmpty_iff.mp empty, clicks, released, resting released⟩

/-- The host has pressed the button and released it while a movie was waited for, and it was told that both
clicks are accepted. The movie has ended, nothing is left to do, and the button is held. -/
theorem button_stuck : ∃ config provider player turns,
    let world := (ofConfig config provider player).run turns
    let clicks := (ofConfig config provider player).clicks turns
    world.stage.tornDown = false ∧ world.messages = [] ∧ world.suspended.isNone = true ∧
      clicks.getLast?.map (·.down) = some false ∧ world.session.buttonDown = true := by
  let movie : Movie := { index := 1, movie := 9, code := 5, left := 0, top := 0, looping := false }
  let card : CardRecord := { scripts := [⟨9, [.op 46 [1], .op 32 [5]]⟩], movies := [movie] }
  let turns : List Turn :=
    [ .call .pointerDown, .take, .call (.goto ⟨"a", 1⟩ none), .take, .call .pointerUp
    , .call (.movieFinished 5), .resume ]
  let provider := (Session.beginning "a" [(1, card)]).resolver.provider
  have ran : let world := (ofConfig {} provider {}).run turns
      !world.stage.tornDown && world.messages.isEmpty && world.suspended.isNone &&
        ((ofConfig {} provider {}).clicks turns).getLast?.map (·.down) == some false &&
        world.session.buttonDown := by decide +kernel
  obtain ⟨⟨⟨⟨live, empty⟩, idle⟩, released⟩, held⟩ := by
    simpa only [Bool.and_eq_true, Bool.not_eq_true', beq_iff_eq] using ran
  exact ⟨{}, provider, {}, turns, live, List.isEmpty_iff.mp empty, idle, released, held⟩

end World

end Diorama
