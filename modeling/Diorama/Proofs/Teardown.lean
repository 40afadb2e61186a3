import Diorama.Proofs.Aborts
import Diorama.Proofs.WorldRuns

/-!
# Teardown

What is left of a world that is brought down, in whatever situation that happens: with nothing to do, with
messages in the queue, or in the middle of a script that waits for a movie. The loops come to their ends, the
script that waited with an aborted wait; then the card is closed, and everything is released.

Closing the card stops what the card says is playing. That is everything that has been started and neither
ended nor been stopped, but for a movie that was waited for: the wait is aborted, its slot is told that it is
not playing, and so it is not stopped (`World.teardown_releases`). A world that is torn down stays so, and no
script command begins in it.
-/

namespace Diorama

namespace Happening

/-- Nothing is heard of the end of the world. -/
theorem Abandoned.tornDown {code : UInt16} {media : MediaRef} {transcript : List Happening}
    (h : Abandoned code media transcript) : Abandoned code media (.recorded .tornDown :: transcript) :=
  h.cons nofun

end Happening

namespace Session

variable {session : Session}

/-- Without a card no slot is playing. -/
theorem heard_of_closed (closed : session.card = none) (code : UInt16) : session.heard code = none := by
  rw [heard, movie?, closed]
  rfl

/-- With no card open, what is left playing has been abandoned. -/
theorem Excused.abandoned (h : session.Excused) (closed : session.card = none) {code : UInt16} {media : MediaRef}
    (playing : Happening.live code session.transcript = some media) :
    Happening.Abandoned code media session.transcript := by
  refine (Happening.excused_or_abandoned playing).resolve_left fun excused => ?_
  have ledger : Ledger session.excuse.heard session.excuse.group? session.excuse.transcript := h
  have silent := ledger.live code
  have closed : session.excuse.card = none := closed
  rw [heard_of_closed closed] at silent
  cases excused.symm.trans silent

/-- Without a card no sound group sounds. -/
theorem Excused.sounding_of_closed (h : session.Excused) (closed : session.card = none) :
    Happening.sounding session.transcript = [] := by
  have none : session.excuse.group? = none := by
    have closed : session.excuse.card = none := closed
    rw [group?, closed]
    rfl
  have ledger : Ledger session.excuse.heard session.excuse.group? session.excuse.transcript := h
  rw [none] at ledger
  rw [← Happening.sounding_excuse]
  exact ledger.sounding_of_none

end Session

namespace World

variable {world : World}

/-! ## An idle world -/

/-- Loading stacks leaves alone what is played. -/
theorem loads_playsSame (world : World) (keys : List String) :
    let later := keys.foldl (fun world _ => world.takePreload) world
    world.session.PlaysSame later.session ∧ later.suspended = world.suspended := by
  induction keys generalizing world with
  | nil => exact ⟨.refl world.session, rfl⟩
  | cons key rest ih =>
    have loads : world.session.PlaysSame world.takePreload.session ∧
        world.takePreload.suspended = world.suspended := by
      unfold takePreload
      cases world.preloads with
      | nil => exact ⟨.refl world.session, rfl⟩
      | cons first others => exact ⟨(QuietAct.suffered (.preload first)).same, rfl⟩
    obtain ⟨onward, idle⟩ := ih world.takePreload
    exact ⟨loads.1.trans onward, idle.trans loads.2⟩

/-- If nothing is waited for, no script runs while the world comes down. -/
theorem Lives.playsSame (h : world.Lives) (idle : world.suspended = none) :
    world.session.PlaysSame world.beginTeardown.settle.session := by
  let falling := world.beginTeardown
  have begins : world.session.PlaysSame falling.session := (QuietAct.suffered .tearDown).same
  obtain ⟨loads, still⟩ := falling.loads_playsSame falling.preloads
  obtain ⟨loaded, -⟩ := h.engaged.falling_beginTeardown.loads falling.preloads
  have idle : falling.loadAll.suspended = none := still.trans idle
  have unresumed : falling.loadAll.resumeScript = falling.loadAll := by
    unfold resumeScript
    rw [idle]
  obtain ⟨-, same, -⟩ := loaded.skips idle rfl
  have settled : world.beginTeardown.settle.session = falling.loadAll.session := by
    rw [settle, workOff, unresumed]
    exact same
  rw [settled]
  exact begins.trans loads

/-! ## What is left -/

/-- Everything that was loaded or shown or to be done is gone. -/
structure Released (world : World) : Prop where
  unloaded : world.stage.resolver.loadedKeys = []
  frame : world.stage.frames.latest = none
  blockingMovie : world.stage.blockingMovie = false
  card : world.session.card = none
  suspended : world.suspended = none
  messages : world.messages = []

namespace Lives

/-- A teardown leaves no stack loaded, no frame shown, no card open, no movie waited for and no message to be
carried out. -/
theorem released (h : world.Lives) : world.teardown.Released := by
  obtain ⟨-, -, idle⟩ := h.settle_beginTeardown
  rw [h.teardown_eq]
  exact ⟨rfl, rfl, rfl, Session.closeCard_card _, idle, rfl⟩

/-- Up to where the card is closed, what is left is a session that a session can come to. -/
theorem reachable_closeCard (h : world.Lives) :
    Reachable (.done world.beginTeardown.settle.session.closeCard (.ok ())) := by
  obtain ⟨⟨result, reachable⟩, -⟩ := h.settle_beginTeardown
  exact .event reachable .shutdown .refl

/-- The end of the world is the last that is noted, right behind the closing of the card. -/
theorem transcript_teardown (h : world.Lives) : world.teardown.session.transcript =
    .recorded .tornDown :: world.beginTeardown.settle.session.closeCard.transcript := by
  rw [h.teardown_eq]
  rfl

/-- No command begins while the world comes down. -/
theorem begun_teardown (h : world.Lives) : world.teardown.session.begun = world.session.begun := by
  obtain ⟨-, ongoing, -⟩ := h.settle_beginTeardown
  rw [h.teardown_eq]
  have closed := world.beginTeardown.settle.session.aside_closeCard
  exact closed.begun.trans (ongoing.begun rfl)

/-- A movie that is left playing has been abandoned. -/
theorem abandoned (h : world.Lives) {code : UInt16} {media : MediaRef}
    (playing : Happening.live code world.teardown.session.transcript = some media) :
    Happening.Abandoned code media world.teardown.session.transcript := by
  rw [h.transcript_teardown] at playing ⊢
  exact (h.reachable_closeCard.excused.abandoned (Session.closeCard_card _) playing).tornDown

/-- After a teardown no sound group sounds. -/
theorem sounding_teardown (h : world.Lives) : Happening.sounding world.teardown.session.transcript = [] := by
  rw [h.transcript_teardown]
  exact h.reachable_closeCard.excused.sounding_of_closed (Session.closeCard_card _)

/-- The player has received every request that the transcript tells of. -/
theorem recorded_teardown (h : world.Lives) : world.teardown.stage.Recorded := by
  have start (config : EngineConfig) (provider : Provider) (player : MediaPlayer) :
      (Stage.ofConfig config provider player).Recorded := List.nil_prefix
  have recorded := h.reachable_closeCard.invariant start EngineAct.recorded_keeps
  rw [h.teardown_eq]
  exact recorded

/-- If nothing is waited for and no wait has been aborted before, no movie is left playing. -/
theorem silent_teardown (h : world.Lives) (idle : world.suspended = none)
    (unaborted : world.session.gate.aborted = false) (code : UInt16) :
    Happening.live code world.teardown.session.transcript = none := by
  obtain ⟨result, reachable⟩ := (engaged_of_idle idle).mp h.engaged
  have closed := (Session.Ledgered.playsSame (reachable.ledgered unaborted) (h.playsSame idle)).closeCard
  rw [h.transcript_teardown]
  refine (closed.live code).trans ?_
  rw [Session.heard_of_closed (Session.closeCard_card _)]
  rfl

end Lives

/-! ## Runs -/

/-- When a world is brought down that lives, in whatever situation: the player is told to stop everything that
it was told to start and that has neither ended nor been stopped, but for a movie the wait for which has been
aborted; if nothing is waited for and nothing was aborted before, for all movies. Everything is released and no
command begins. And whatever happens afterwards, no command begins, every call is refused, bringing the world
down again does nothing, and its end is recorded once. -/
theorem teardown_releases (config : EngineConfig) (provider : Provider) (player : MediaPlayer)
    {turns : List Turn} (live : ((ofConfig config provider player).run turns).stage.tornDown = false) :
    let world := (ofConfig config provider player).run turns
    let ended := world.teardown
    let transcript := ended.session.transcript
    transcript.filterMap Happening.request? <+: ended.stage.player.requests ∧
    Happening.sounding transcript = [] ∧
    (∀ code media, Happening.live code transcript = some media → Happening.Abandoned code media transcript) ∧
    (world.suspended.isNone = true → world.stage.gate.aborted = false →
      ∀ code, Happening.live code transcript = none) ∧
    ended.Released ∧ ended.session.begun = world.session.begun ∧
    ∀ further, let later := ended.run further
      later.stage.tornDown = true ∧ later.session.begun = world.session.begun ∧
      (∀ call : Call, call.perform later = .error .tornDown) ∧ later.teardown = later ∧
      later.session.transcript.countP (·.isEnd) = 1 := by
  rcases lives_or_ended config provider player turns with lives | ended
  · refine ⟨lives.recorded_teardown, lives.sounding_teardown, fun code media => lives.abandoned,
      fun idle => lives.silent_teardown (Option.isNone_iff_eq_none.mp idle), lives.released, lives.begun_teardown,
      fun further => ?_⟩
    obtain ⟨still, ongoing⟩ := lives.teardown.run further
    have begun := (ongoing.begun lives.teardown.tornDown).trans lives.begun_teardown
    exact ⟨still.tornDown, begun, fun call => perform_of_tornDown still.tornDown call, still.teardown,
      still.endings⟩
  · cases live.symm.trans ended.tornDown

/-- The start script of a card waits for a movie, and the world is brought down. The player is not told to stop
the movie. -/
theorem teardown_releases_blocked : ∃ config provider player turns,
    let world := (ofConfig config provider player).run turns
    let ended := world.teardown
    world.stage.tornDown = false ∧ world.suspended.isSome = true ∧ ended.Released ∧
      ended.session.begun = world.session.begun ∧
      ∃ media, Happening.live 5 ended.session.transcript = some media ∧
        Happening.Abandoned 5 media ended.session.transcript ∧
        MediaRequest.start media true ∈ ended.stage.player.requests ∧
        MediaRequest.stop media ∉ ended.stage.player.requests := by
  let movie : Movie := { index := 1, movie := 9, code := 5, left := 0, top := 0, looping := false }
  let card : CardRecord := { scripts := [⟨9, [.op 46 [1], .op 32 [5]]⟩], movies := [movie] }
  let turns : List Turn := [.call (.goto ⟨"a", 1⟩ none), .take]
  let provider := (Session.beginning "a" [(1, card)]).resolver.provider
  have ran : let world := (ofConfig {} provider {}).run turns
      !world.stage.tornDown && world.suspended.isSome &&
        Happening.live 5 world.teardown.session.transcript == some movie.media &&
        world.teardown.stage.player.requests == [.start movie.media true] := by
    decide +kernel
  obtain ⟨⟨⟨live, waits⟩, playing⟩, received⟩ := by
    simpa only [Bool.and_eq_true, Bool.not_eq_true', beq_iff_eq] using ran
  obtain ⟨-, -, abandoned, -, released, begun, -⟩ := teardown_releases {} provider {} live
  refine ⟨{}, provider, {}, turns, live, waits, released, begun, movie.media, playing,
    abandoned 5 movie.media playing, ?_, ?_⟩
  · rw [received]
    exact List.mem_singleton_self _
  · rw [received]
    decide

end World

end Diorama
