import Diorama.Proofs.WorldRuns
import Diorama.Tool.Play

/-!
# What is opened first

Before the first click the playing tool brings the engine to the place where the game begins: to the card named on
the command line, or to where a saved game was left, or to the card that the configuration starts with. What it asks
of the engine on the way is a list of calls, between which the loops settle (`World.settle_eq_run`,
`World.ask_eq`), so the world in which the clicks begin is that of a run (`Play.begin_eq`).

`Play.opened_first` says which locations are in that list. The tool takes the card to start with out of the
configuration and opens it itself, but only where no card is named on the command line. Where one is named, the
configuration keeps its own card, and a world opens the card of its configuration as soon as it is made. So there
are two, and the scripts of the first can leave their mark on the game (`Play.opened_first_both`). A saved game
comes alone, and so does the card of the configuration where no other is named.
-/

namespace Diorama

/-- The location that a call asks for. -/
def Call.location? : Call → Option Location
  | .goto location _ => some location
  | .restore state _ => state.location
  | _ => none

/-- It is one of the two loops that does something. -/
def Turn.OfLoop : Turn → Prop
  | .resume | .take | .load => True
  | _ => False

namespace World

theorem foldl_turn {α : Type} (world : World) (turn : Turn) (list : List α) :
    list.foldl (fun world _ => world.turn turn) world = world.run (list.map fun _ => turn) :=
  (List.foldl_map ..).symm

/-- Settling is a run in which only the loops do something. -/
theorem settle_eq_run (world : World) :
    ∃ loops, (∀ turn ∈ loops, turn.OfLoop) ∧ world.settle = world.run loops := by
  let loads := world.preloads.map fun _ => Turn.load
  let takes := (world.run loads).resumeScript.messages.map fun _ => Turn.take
  refine ⟨loads ++ .resume :: takes, fun turn among => ?_, ?_⟩
  · rcases List.mem_append.mp among with among | among
    · obtain ⟨_, -, rfl⟩ := List.mem_map.mp among
      trivial
    rcases List.mem_cons.mp among with rfl | among
    · trivial
    · obtain ⟨_, -, rfl⟩ := List.mem_map.mp among
      trivial
  · have loaded : world.loadAll = world.run loads := world.foldl_turn .load world.preloads
    have worked : world.settle = (world.loadAll.resumeScript).run
        (world.loadAll.resumeScript.messages.map fun _ => .take) :=
      foldl_turn _ .take _
    rw [worked, loaded, run_append]
    rfl

theorem Lives.run {world : World} (lives : world.Lives) {turns : List Turn}
    (goesOn : .teardown ∉ turns) : (world.run turns).Lives := by
  induction turns generalizing world with
  | nil => exact lives
  | cons turn rest ih =>
    rw [List.mem_cons, not_or] at goesOn
    exact ih (lives.move (world.turn_move (Ne.symm goesOn.1))) goesOn.2

/-- What the sender of a request with a ticket is told when the loops have settled. -/
def answer (world : World) (ticket : Nat) : Except WorldError World :=
  match world.replies.find? (·.ticket == ticket) with
  | some ⟨_, .ok _⟩ => .ok world
  | some ⟨_, .error cause⟩ => .error (.script cause)
  | none => .error .tornDown

/-- A request with a ticket is a call, after which the loops settle. -/
theorem ask_eq {world : World} (live : world.stage.tornDown = false) {request : Nat → Message} {call : Call}
    (same : call.perform world = world.send (request world.replies.length)) :
    world.ask request = (world.turn (.call call)).settle.answer world.replies.length := by
  obtain ⟨later, sent⟩ : ∃ later, world.send (request world.replies.length) = .ok later :=
    ⟨_, if_neg (Bool.eq_false_iff.mp live)⟩
  have turned : world.turn (.call call) = later := by
    rw [turn, same, sent]
  rw [ask, turned]
  dsimp only
  rw [sent]
  rfl

end World

namespace Play

/-- The last call before the first click. -/
def lastCalls (saved : Option (String × GameState)) (start : Option Location) (ticket : Nat) : List Call :=
  match saved, start with
  | some (_, state), _ => [.restore state ticket]
  | none, some location => [.goto location (some ticket)]
  | none, none => []

/-- What comes of an answer that is only told in other words. -/
private theorem mapError_answer (world : World) (ticket : Nat) (tell : WorldError → Failure) :
    (world.answer ticket).mapError tell = .ok world ∨
      ∃ error, world.answer ticket = .error error ∧ (world.answer ticket).mapError tell = .error (tell error) := by
  unfold World.answer
  split
  · exact .inl rfl
  · exact .inr ⟨_, rfl, rfl⟩
  · exact .inr ⟨_, rfl, rfl⟩

/-- The last call is made of a world that lives, and the loops settle after it. -/
theorem openFirst_eq {world : World} (lives : world.Lives) (saved : Option (String × GameState))
    (start : Option Location) : ∃ loops, (∀ turn ∈ loops, turn.OfLoop) ∧
      let ticket := world.replies.length
      let later := world.run ((lastCalls saved start ticket).map .call ++ loops)
      openFirst saved start world = .ok later ∨ ∃ error failure, later.answer ticket = .error error ∧
        openFirst saved start world = .error failure := by
  -- Both kinds of last call wait for a reply, and only their failures are told in different words.
  have asks {call : Call} {request : Nat → Message}
      (same : call.perform world = world.send (request world.replies.length)) (tell : WorldError → Failure) :
      ∃ loops, (∀ turn ∈ loops, turn.OfLoop) ∧
        let later := world.run (.call call :: loops)
        (world.ask request).mapError tell = .ok later ∨
          ∃ error failure, later.answer world.replies.length = .error error ∧
            (world.ask request).mapError tell = .error failure := by
    obtain ⟨loops, ofLoop, settled⟩ := (world.turn (.call call)).settle_eq_run
    refine ⟨loops, ofLoop, ?_⟩
    rw [World.ask_eq lives.live same, settled]
    rcases mapError_answer (world.run (.call call :: loops)) world.replies.length tell with done | ⟨error, h, h'⟩
    · exact .inl done
    · exact .inr ⟨error, _, h, h'⟩
  cases saved with
  | some saved => exact asks rfl _
  | none =>
    cases start with
    | some location => exact asks rfl _
    | none => exact ⟨[], nofun, .inl rfl⟩

/-- Everything that is asked of a world before the first click: the stacks that the configuration wants ahead and
the card that it keeps, then the last call. -/
theorem begin_eq (options : PlayOptions) (config : EngineConfig) (provider : Provider)
    (saved : Option (String × GameState)) : ∃ loops more ticket, (∀ turn ∈ loops ++ more, turn.OfLoop) ∧
      let kept := engineConfig options config
      let last := lastCalls saved (options.start.or config.start) ticket
      let world := (World.silent kept provider .finishing).run
        (kept.calls.map .call ++ loops ++ (last.map .call ++ more))
      begin options config provider saved = .ok world ∨ ∃ error failure, world.answer ticket = .error error ∧
        begin options config provider saved = .error failure := by
  let first := World.ofConfig (engineConfig options config) provider .finishing
  obtain ⟨loops, ofLoop, settled⟩ := first.settle_eq_run
  -- The last call is only known to be taken in a world that lives, and the loops do not bring it down.
  have goesOn : Turn.teardown ∉ loops := fun among => ofLoop _ among
  have lives : first.settle.Lives := by
    rw [settled]
    exact (World.Lives.ofConfig ..).run goesOn
  obtain ⟨more, ofLoop', opened⟩ := openFirst_eq lives saved (options.start.or config.start)
  refine ⟨loops, more, first.settle.replies.length, fun turn among => ?_, ?_⟩
  · exact (List.mem_append.mp among).elim (ofLoop turn) (ofLoop' turn)
  · dsimp only
    rw [World.run_append, World.run_append _ _ loops, ← World.ofConfig_eq_run, ← settled]
    exact opened

theorem locations_calls (config : EngineConfig) : config.calls.filterMap Call.location? = config.start.toList := by
  have none_ahead : (config.preload.map Call.preload).filterMap Call.location? = [] := by
    rw [List.filterMap_map]
    exact List.filterMap_eq_nil_iff.mpr fun _ _ => rfl
  rw [EngineConfig.calls, List.filterMap_append, none_ahead]
  cases config.start <;> rfl

end Play

namespace PlayOptions

/-- The card that values name, if they name one. -/
def cardOf (values : CommandValues) : Option Location := do
  let stack ← values.get? "stack"
  let id ← (values.get? "card").bind (natural? 65535)
  return { stack, id := id.toUInt16 }

/-- What values say about what is opened. A card and a saved game are not given together. -/
theorem opens_of_values {values : CommandValues} {options : PlayOptions}
    (accepted : ofValues values = .ok options) :
    options.start = cardOf values ∧ options.loadState = values.get? "load-state" ∧
      (options.loadState.isSome = true → options.start = none) := by
  unfold ofValues at accepted
  unfold cardOf
  cases named : values.get? "stack" with
  | some stack =>
    cases numbered : (values.get? "card").bind (natural? 65535) with
    | some id =>
      cases loads : values.get? "load-state" with
      | some path =>
        rw [named, numbered, loads] at accepted
        cases accepted
      | none =>
        rw [named, numbered, loads] at accepted
        cases accepted
        exact ⟨rfl, rfl, nofun⟩
    | none =>
      rw [named, numbered] at accepted
      cases accepted
  | none =>
    cases numbered : (values.get? "card").bind (natural? 65535) with
    | some id =>
      rw [named, numbered] at accepted
      cases accepted
    | none =>
      rw [named, numbered] at accepted
      cases accepted
      exact ⟨rfl, rfl, fun _ => rfl⟩

end PlayOptions

namespace Play

/-- The locations that are asked for before the first click. The card of the configuration is among them whenever no
game is loaded, also where another card is given. -/
theorem locations_asked {options : PlayOptions} (exclusive : options.loadState.isSome = true → options.start = none)
    (config : EngineConfig) {saved : Option (String × GameState)} (loads : saved.isSome = options.loadState.isSome)
    (ticket : Nat) :
    ((engineConfig options config).calls ++ lastCalls saved (options.start.or config.start) ticket).filterMap
        Call.location? =
      saved.elim (config.start.toList ++ options.start.toList) fun game => game.2.location.toList := by
  rw [List.filterMap_append, locations_calls]
  cases saved with
  | some saved =>
    have absent : (engineConfig options config).start = none := by
      rw [engineConfig, exclusive loads.symm]
      rfl
    rw [absent]
    cases saved.2.location <;> rfl
  | none =>
    cases given : options.start with
    | some location =>
      have kept : (engineConfig options config).start = config.start := by
        rw [engineConfig, given]
        rfl
      rw [kept]
      rfl
    | none =>
      have taken : (engineConfig options config).start = none := by
        rw [engineConfig, given]
        rfl
      rw [taken]
      cases config.start <;> rfl

section Hosts

variable {m : Type → Type} [Monad m] [LawfulMonad m] [Host m]

/-- Once a saved game is loaded, it only matters what is done with the one there is. -/
theorem loadSaved_bind (path : String) {onward onward' : Option (String × GameState) → Task m Unit}
    (same : ∀ saved, onward (some saved) = onward' (some saved)) :
    loadSaved (some path) >>= onward = loadSaved (some path) >>= onward' := by
  rw [loadSaved, bind_assoc, bind_assoc]
  -- After the file has been read, either there is a saved game or the task is over.
  congr 1
  funext octets
  split
  · exact (pure_bind ..).trans ((same _).trans (pure_bind ..).symm)
  · have stops (onward : Option (String × GameState) → Task m Unit) (failure : Failure) :
        (throw failure : Task m _) >>= onward = throw failure :=
      pure_bind (Except.error failure) (ExceptT.bindCont onward)
    rw [stops, stops]

/-- How what is played is opened. A card on the command line excludes a saved game. With the configuration, the tool
makes a world of which nothing is asked but the stacks wanted ahead, the card that the configuration keeps, and at
last the saved game or the card to begin with; in between only the loops work. It plays on in that world, or fails
because the last of these is refused. So the saved game is opened alone, and so is the card of the configuration if
no other is named; but a card on the command line is opened after that of the configuration. With a saved game it
makes no difference what the configuration starts with; and without one, starting there is the same as naming that
card on the command line. -/
theorem opened_first {arguments : List String} {values : CommandValues} {options : PlayOptions}
    (parsed : PlayOptions.grammar.parse arguments = some (.run values))
    (accepted : PlayOptions.ofValues values = .ok options) :
    (run arguments : m Ending) = Task.ending (loadConfig options.config >>= playWith options) ∧
    options.start = PlayOptions.cardOf values ∧ (options.loadState.isSome = true → options.start = none) ∧
    (∀ config provider saved, saved.isSome = options.loadState.isSome →
      ∃ loops more ticket, (∀ turn ∈ loops ++ more, turn.OfLoop) ∧
        let kept := engineConfig options config
        let last := lastCalls saved (options.start.or config.start) ticket
        let world := (World.silent kept provider .finishing).run
          (kept.calls.map .call ++ loops ++ (last.map .call ++ more))
        (begin options config provider saved = .ok world ∨ ∃ error failure, world.answer ticket = .error error ∧
          begin options config provider saved = .error failure) ∧
        (kept.calls ++ last).filterMap Call.location? =
          saved.elim (config.start.toList ++ options.start.toList) fun game => game.2.location.toList) ∧
    (options.loadState.isSome = true → ∀ config start,
      (playWith options { config with start } : Task m Unit) = playWith options config) ∧
    (options.start = none → options.loadState = none → ∀ config,
      (playWith options config : Task m Unit) =
        playWith { options with start := config.start } { config with start := none }) := by
  obtain ⟨named, -, exclusive⟩ := PlayOptions.opens_of_values accepted
  refine ⟨?_, named, exclusive, fun config provider saved loads => ?_, fun loads config start => ?_,
    fun unnamed unsaved config => ?_⟩
  · rw [run, parsed]
    dsimp only
    rw [accepted]
    exact congrArg Task.ending (pure_bind ..)
  · obtain ⟨loops, more, ticket, ofLoop, began⟩ := begin_eq options config provider saved
    exact ⟨loops, more, ticket, ofLoop, began, locations_asked exclusive config loads ticket⟩
  -- With a saved game no card is named, and the configuration's own is set aside.
  · obtain ⟨path, isSaved⟩ := Option.isSome_iff_exists.mp loads
    have kept : engineConfig options { config with start } = engineConfig options config := by
      rw [engineConfig, engineConfig, exclusive loads]
      rfl
    rw [playWith, playWith, isSaved]
    refine congrArg _ (funext fun listed => loadSaved_bind path fun game => ?_)
    rw [begin, begin, kept]
    rfl
  -- Without a saved game, both ways come to the same list of calls.
  · have begins (provider : Provider) (saved : Option (String × GameState)) :
        begin options config provider saved =
          begin { options with start := config.start } { config with start := none } provider saved := by
      rw [begin, begin, engineConfig, engineConfig, unnamed]
      cases config.start <;> rfl
    rw [playWith, playWith]
    simp only [begins]
    rfl

end Hosts

/-- A card is named on the command line, and the configuration starts with another one, which takes a coin. Both are
opened, and the game goes on with the coin. It would not, had the configuration no card to start with. -/
theorem opened_first_both : ∃ (options : PlayOptions) (config : EngineConfig) (provider : Provider)
      (first last : List Call) (loops more : List Turn) (world bare : World),
    (run ["--stack", "a", "--card", "2"] : StateM MemoryHost Ending) =
      Task.ending (loadConfig options.config >>= playWith options) ∧
    begin options config provider none = .ok world ∧
    world = (World.silent (engineConfig options config) provider .finishing).run
      (first.map .call ++ loops ++ (last.map .call ++ more)) ∧
    (first ++ last).filterMap Call.location? = [⟨"a", 1⟩, ⟨"a", 2⟩] ∧
    begin options { config with start := none } provider none = .ok bare ∧
    world.stage.location = bare.stage.location ∧
    world.stage.game.get? "coin" = some 5 ∧ bare.stage.game.get? "coin" = none := by
  let toll : CardRecord := { scripts := [⟨9, [.op 7 [0, 5]]⟩] }
  let config : EngineConfig := { start := some ⟨"a", 1⟩ }
  let provider := (Session.beginningWith (some ["coin"]) "a" [(1, toll), (2, {})]).resolver.provider
  let values : CommandValues := { options := [("card", "2"), ("stack", "a")] }
  let options : PlayOptions :=
    { dataRoot := "data", config := none, start := some ⟨"a", 2⟩, viewport := none, clicks := [], frames := 30
      loadState := none, eventLog := none, saveState := none }
  have parsed : PlayOptions.grammar.parse ["--stack", "a", "--card", "2"] = some (.run values) := by decide +kernel
  have accepted : PlayOptions.ofValues values = .ok options := rfl
  let there (coin : Option UInt16) (world : World) : Bool :=
    world.stage.location == some ⟨"a", 2⟩ && world.stage.game.get? "coin" == coin
  have begins (config : EngineConfig) (coin : Option UInt16)
      (opened : (begin options config provider none).toOption.any (there coin) = true) :
      ∃ world, begin options config provider none = .ok world ∧
        world.stage.location = some ⟨"a", 2⟩ ∧ world.stage.game.get? "coin" = coin := by
    cases began : begin options config provider none with
    | error failure =>
      rw [began] at opened
      cases opened
    | ok world =>
      rw [began] at opened
      have found : there coin world = true := opened
      exact ⟨world, rfl, by simpa only [there, Bool.and_eq_true, beq_iff_eq] using found⟩
  obtain ⟨world, began, location, coin⟩ := begins config (some 5) (by decide +kernel)
  obtain ⟨bare, began', location', coin'⟩ := begins { config with start := none } none (by decide +kernel)
  obtain ⟨ran, -, -, opened, -⟩ := opened_first (m := StateM MemoryHost) parsed accepted
  obtain ⟨loops, more, ticket, -, opens, asked⟩ := opened config provider none rfl
  rcases opens with done | ⟨_, _, -, failed⟩
  · have same := Except.ok.inj (began.symm.trans done)
    exact ⟨options, config, provider, _, _, loops, more, world, bare, ran, began, same, asked, began',
      location.trans location'.symm, coin, coin'⟩
  · cases began.symm.trans failed

end Play

end Diorama
