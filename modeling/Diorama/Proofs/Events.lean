import Diorama.Proofs.Frame
import Diorama.Proofs.Loading

/-!
# What events do

One law for each program of the engine, from the card change to the whole event. Every one of them says
that the program does nothing but what the engine does (`EngineChain`), and adds what the program is for:

* a card change opens the card and shows it, or, if the card cannot be had, has done nothing but ask for
  its stack (`Script.changeCard_sat`);
* settling ends with a test of the pointer of which no card change came, or is cut off
  (`Script.settleWithin_sat`);
* going to a card succeeds exactly if the card can be had, and opens that one first (`Script.goto_sat`).

`Event.sat` puts the events together. It is what whole runs are about: `Reachable.chain` makes of a run a
chain of acts from its beginning, and `Reachable.invariant` is how an invariant of the acts becomes one of
all runs.

A stack is filed under its own key, which is why a card that is opened is where it was looked for. That is
an invariant as well (`EngineChain.sound`), and as every program that opens a card needs it, it comes first.
-/

namespace Diorama

/-! ## The stacks stay filed -/

/-- A stack that is asked for is filed under its own key. -/
theorem Stage.sound_resolve {stage : Stage} (sound : stage.resolver.Sound) (key : String) :
    (stage.resolve key).2.resolver.Sound :=
  (sound.resolve key).1

/-- Whether it was loaded now or before, the stack that is found has the key that was asked for. -/
theorem Stage.key_of_resolve {stage : Stage} {key : String} {stack : Stack}
    (sound : stage.resolver.Sound) (h : (stage.resolve key).1 = .ok stack) : stack.key = key := by
  have filed := (sound.resolve key).2
  change ((stage.resolver.resolve key).1.map (·.stack)) = .ok stack at h
  cases found : (stage.resolver.resolve key).1 with
  | error error =>
    rw [found] at h
    cases h
  | ok loaded =>
    rw [found] at h
    cases h
    exact filed loaded found

/-- While a script runs, only others load stacks, and they file them soundly. -/
theorem ScriptAct.sound {session later : Session} (act : ScriptAct session later)
    (sound : session.resolver.Sound) : later.resolver.Sound := by
  cases act with
  | suffered act =>
    cases act with
    | preload key => exact Stage.sound_resolve sound key
    | clearStacks => exact .empty session.resolver.provider session.resolver.loads
    | _ => exact sound
  | shows enabled =>
    obtain ⟨frames, transcript, same⟩ := session.showCard_stage
    rwa [same]
  | _ => exact sound

/-- What the engine loads it files soundly. -/
theorem EngineAct.sound {session later : Session} (act : EngineAct session later)
    (sound : session.resolver.Sound) : later.resolver.Sound := by
  cases act with
  | script act => exact act.sound sound
  | resolves key => exact Stage.sound_resolve sound key
  | closes =>
    obtain ⟨player, log, transcript, same⟩ := session.closeCard_stage
    rwa [same]
  | _ => exact sound

/-- So stacks stay filed soundly through any number of acts. -/
theorem EngineChain.sound {session later : Session} (chain : EngineChain session later)
    (sound : session.resolver.Sound) : later.resolver.Sound :=
  chain.keeps EngineAct.sound sound

/-! ## Running scripts inside a program -/

namespace Script

variable {α β : Type} {first session : Session}

/-- A script runs, and whatever it has done is part of the chain. -/
theorem RunsScripts.sat_bind {script : Script α} {next : α → Script β}
    {ends : Session → Except ScriptError β → Prop} (runs : RunsScripts script)
    (before : EngineChain first session)
    (onward : ∀ later value, EngineChain first later → ScriptChain session later →
      (next value later).Sat (EngineChain first) ends) :
    ((script >>= next) session).Sat (EngineChain first) ends := by
  have chain := (runs.script session).and (runs.unfailing session)
  refine sat_bind_of (chain.mono (fun later h => before.trans h.1.engine) fun _ _ => id) ?_ ?_
  · exact fun later value h => onward later value (before.trans h.1.engine) h.1
  · rintro later error ⟨_, value, never⟩
    cases never

/-- A script that runs inside of a program does what scripts do, and ends with a value. -/
theorem RunsScripts.sat {script : Script α} {ends : Session → Except ScriptError α → Prop}
    (runs : RunsScripts script) (before : EngineChain first session)
    (atEnd : ∀ later value, EngineChain first later → ScriptChain session later →
      ends later (.ok value)) : (script session).Sat (EngineChain first) ends := by
  have chain := (runs.script session).and (runs.unfailing session)
  refine chain.mono (fun later h => before.trans h.1.engine) ?_
  rintro later _ ⟨h, value, rfl⟩
  exact atEnd later value (before.trans h.engine) h

end Script

/-! ## Card changes -/

namespace Session

/-- The session after the stack of a location has been asked for. -/
def resolved (session : Session) (location : Location) : Session :=
  { session with toStage := (session.resolve location.stack).2 }

/-- Whether a location can be gone to: its stack is there, and holds a record under its id that can be
read. -/
def CanOpen (session : Session) (location : Location) : Prop :=
  ∃ stack, (session.resolve location.stack).1 = .ok stack
    ∧ ∃ record, stack.loadCard location.id = .ok record

/-- The card at a location, or why it cannot be had. -/
def cardAt (session : Session) (location : Location) : Except ScriptError OpenCard :=
  ((session.resolve location.stack).1.bind fun stack =>
    OpenCard.load stack location.id session.mapper).mapError .stack

/-- A card is there if its stack can be had and the card be read from it. -/
theorem cardAt_eq_ok {session : Session} {location : Location} {card : OpenCard}
    (h : session.cardAt location = .ok card) : ∃ stack, (session.resolve location.stack).1 = .ok stack ∧
      OpenCard.load stack location.id session.mapper = .ok card := by
  unfold cardAt at h
  cases found : (session.resolve location.stack).1 with
  | error error =>
    rw [found] at h
    cases h
  | ok stack =>
    rw [found] at h
    change (OpenCard.load stack location.id session.mapper).mapError _ = _ at h
    cases loaded : OpenCard.load stack location.id session.mapper with
    | error error =>
      rw [loaded] at h
      cases h
    | ok other =>
      rw [loaded] at h
      cases h
      exact ⟨stack, rfl, loaded⟩

/-- A location can be opened if there is a card at it. -/
theorem canOpen_iff {session : Session} {location : Location} :
    session.CanOpen location ↔ ∃ card, session.cardAt location = .ok card := by
  constructor
  · rintro ⟨stack, found, record, decoded⟩
    rw [cardAt, found, Except.bind, OpenCard.load, decoded]
    exact ⟨_, rfl⟩
  · rintro ⟨card, had⟩
    obtain ⟨stack, found, loaded⟩ := cardAt_eq_ok had
    obtain ⟨record, decoded, _⟩ := Except.bind_eq_ok_iff.mp loaded
    exact ⟨stack, found, record, decoded⟩

/-- Where no card can be opened there is an error that says why. -/
theorem cardAt_of_not_canOpen {session : Session} {location : Location} (h : ¬ session.CanOpen location) :
    ∃ error, session.cardAt location = .error error := by
  cases had : session.cardAt location with
  | error error => exact ⟨error, rfl⟩
  | ok card => exact absurd (canOpen_iff.mpr ⟨card, had⟩) h

/-- The card that is open has been shown. -/
def Shown (session : Session) : Prop :=
  ∀ card, session.card = some card → card.published.isSome

/-- A card that was shown before a script is shown after it. -/
theorem Continues.shown {session later : Session} (h : session.Continues later)
    (shown : session.Shown) : later.Shown := by
  intro card isOpen
  have related := h.card
  rw [isOpen] at related
  generalize original : session.card = before at related
  cases related with
  | some continues => exact continues.published (shown _ original)

/-- The cards opened so far, the oldest first. -/
def opened (session : Session) : List Location :=
  session.visits.filterMap fun
    | .opened location => some location
    | .closed _ => none

/-- A snapshot of the card is what showing it takes. -/
theorem shown_publish (session : Session) : session.publish.Shown := by
  have shown : session.showCard.Shown := by
    intro card isOpen
    unfold showCard at isOpen
    split at isOpen
    next closed =>
      rw [closed] at isOpen
      cases isOpen
    next =>
      cases isOpen
      rfl
  exact session.showCard.flushHeld_chain.continues.shown shown

/-- To arrive at a card is to open it, as far as visits go. -/
theorem visits_arrival (session : Session) (card : OpenCard) (location : Location) :
    ({ session.record (.cardOpened location) with
      card := some card, location := some location }.changeUpdates .opened).visits
      = session.visits ++ [.opened location] :=
  (Happening.visits_cons_of_none rfl _).trans (Happening.visits_cons_of_some rfl _)

/-- The card that is arrived at is the last one opened. -/
theorem opened_arrival (session : Session) (card : OpenCard) (location : Location) :
    ({ session.record (.cardOpened location) with
      card := some card, location := some location }.changeUpdates .opened).opened
      = session.opened ++ [location] := by
  rw [opened, visits_arrival, List.filterMap_append]
  rfl

/-- Closing a card opens none. -/
theorem closeCard_opened (session : Session) : session.closeCard.opened = session.opened := by
  rw [opened, closeCard_visits, List.filterMap_append]
  cases session.card <;> exact List.append_nil _

/-- Cards are opened after those that were opened before. -/
theorem opened_of_chain {session later : Session} (chain : EngineChain session later) :
    ∃ others, later.opened = session.opened ++ others := by
  obtain ⟨during, same⟩ := chain.grows
  have visits : later.visits = session.visits ++ Happening.visits during := by
    rw [Session.visits, ← same, Happening.visits_append]
    rfl
  exact ⟨_, by rw [opened, visits, List.filterMap_append]; rfl⟩

/-- Scripts open no cards. -/
theorem Continues.opened {session later : Session} (h : session.Continues later) :
    later.opened = session.opened := by
  rw [Session.opened, h.visits, Session.opened]

end Session

namespace Script

variable {first session : Session}

/-- Loading a card changes the table of stacks alone. -/
theorem loadCard_eq (location : Location) (session : Session) :
    loadCard location session = .done (session.resolved location) (session.cardAt location) := by
  unfold loadCard Session.cardAt Session.resolved
  rw [get_bind]
  rcases session.toStage.resolve location.stack with ⟨found, stage⟩
  dsimp only
  rw [modify_bind]
  cases found with
  | error error => rfl
  | ok stack =>
    dsimp only [Except.bind]
    rw [get_bind]
    dsimp only
    cases OpenCard.load stack location.id session.mapper <;> rfl

/-- The rule for card changes: either the card cannot be had, or the open card is left, and then one arrives at
the card that was loaded. -/
theorem changeCard_sat_of {waits left : Session → Prop}
    {ends : Session → Except ScriptError (Option Location) → Prop} {location : Location}
    (sound : session.resolver.Sound)
    (refused : ∀ error, session.cardAt location = .error error → ends (session.resolved location) (.error error))
    (leaves : (leaveCard (session.resolved location)).Sat waits fun later result =>
      result = .ok () ∧ later.mapper = session.mapper ∧ left later)
    (arrives : ∀ later stack card, session.cardAt location = .ok card → left later →
      stack.key = location.stack → OpenCard.load stack location.id later.mapper = .ok card →
        (arriveAt location card later).Sat waits ends) :
    (changeCard location session).Sat waits ends := by
  unfold changeCard
  rw [sat_bind, loadCard_eq]
  cases had : session.cardAt location with
  | error error => exact refused error had
  | ok card =>
    obtain ⟨stack, found, loaded⟩ := Session.cardAt_eq_ok had
    refine sat_bind_of leaves ?_ fun later error ended => by cases ended.1
    rintro later _ ⟨-, mapper, left⟩
    rw [← mapper] at loaded
    exact arrives later stack card had left (Stage.key_of_resolve sound found) loaded

/-- A card is left by running its leave script, closing it, and nothing else. -/
theorem leaveCard_sat (before : EngineChain first session) :
    (leaveCard session).Sat (EngineChain first) fun later result => result = .ok () ∧
      later.mapper = session.mapper ∧ EngineChain first later ∧ later.card = none
        ∧ later.opened = session.opened := by
  unfold leaveCard
  rw [sat_bind]
  change Progress.Sat _ _ ((if session.card.isSome = true then _ else _ : Script Unit) session)
  split
  next isOpen =>
    rw [sat_bind]
    have leaving := before.trans (EngineAct.leaves true).chain
    refine (runCardScript_runs .leave).sat_bind leaving fun later _ left script => ?_
    let ended : Session := { later with inLeave := false }
    have chain : EngineChain first ended := left.trans (EngineAct.leaves false).chain
    have continues := script.continues
    refine ⟨rfl, ?_, chain.trans EngineAct.closes.chain, ended.closeCard_card, ?_⟩
    · exact ended.closeCard_mapper.trans continues.mapper
    · exact ended.closeCard_opened.trans continues.opened
  next closed =>
    have none : session.card = none := Option.not_isSome_iff_eq_none.mp closed
    exact ⟨rfl, rfl, before, none, rfl⟩

/-- A card at which one arrives is the next one opened, and is shown. -/
theorem arriveAt_sat {stack : Stack} {card : OpenCard} {location : Location} (closed : session.card = none)
    (key : stack.key = location.stack) (loaded : OpenCard.load stack location.id session.mapper = .ok card)
    (before : EngineChain first session) :
    (arriveAt location card session).Sat (EngineChain first) fun later result =>
      (∃ next, result = .ok next) ∧ EngineChain first later
        ∧ later.opened = session.opened ++ [location] ∧ later.Shown := by
  unfold arriveAt
  rw [Script.record, modify_bind, modify_bind]
  have arrived := before.trans (EngineAct.opens location closed key loaded).chain
  refine (runCardScript_runs .prepare).sat_bind arrived fun prepared redirected chain script => ?_
  have here : prepared.opened = session.opened ++ [location] :=
    script.continues.opened.trans (session.opened_arrival card location)
  -- Whatever the prepare script has handed over, showing the card first is left to what follows it.
  have unseen : Happening.revealed prepared.transcript = false := script.revealed
  have isOpen : prepared.card.isSome = true := script.continues.card_isSome
  let revealed := prepared.changeUpdates .shown
  have published : ScriptChain revealed revealed.publish := Session.publish_chain rfl
  have chain := (chain.trans (EngineAct.reveals isOpen unseen).chain).trans published.engine
  have here : revealed.publish.opened = session.opened ++ [location] :=
    published.continues.opened.trans here
  rw [modify_bind]
  cases redirected with
  | some target => exact ⟨⟨_, rfl⟩, chain, here, Session.shown_publish _⟩
  | none =>
    refine (runCardScript_runs .start).sat chain fun later pending chain script => ?_
    have started := script.continues
    exact ⟨⟨_, rfl⟩, chain, started.opened.trans here, started.shown (Session.shown_publish _)⟩

/-- What comes of a card change: the card is open and shown, or nothing has happened but that its stack was
asked for. -/
def CardChanged (session : Session) (location : Location) (later : Session) :
    Except ScriptError (Option Location) → Prop
  | .ok _ => session.CanOpen location ∧ later.opened = session.opened ++ [location] ∧ later.Shown
  | .error _ => ¬ session.CanOpen location ∧ later = session.resolved location

/-- A card change does only what the engine does, and it fails only if the card cannot be had. -/
theorem changeCard_sat (sound : first.resolver.Sound) (before : EngineChain first session)
    (location : Location) : (changeCard location session).Sat (EngineChain first)
      fun later result => EngineChain first later ∧ CardChanged session location later result := by
  have resolved : EngineChain first (session.resolved location) :=
    before.trans (EngineAct.resolves location.stack).chain
  refine changeCard_sat_of (before.sound sound) (fun error had => ?_) (leaveCard_sat resolved) ?_
  · refine ⟨resolved, fun can => ?_, rfl⟩
    obtain ⟨card, same⟩ := Session.canOpen_iff.mp can
    rw [had] at same
    cases same
  · rintro left stack card had ⟨chain, closed, opened⟩ key loaded
    refine (arriveAt_sat closed key loaded chain).imp ?_
    rintro later _ ⟨⟨next, rfl⟩, chain, here, shown⟩
    rw [opened] at here
    exact ⟨chain, Session.canOpen_iff.mpr ⟨card, had⟩, here, shown⟩

/-! ## Settling -/

/-- What happens while the moves of the pointer are made known: acts of the engine that leave alone what
scripts leave alone. -/
def HoverChain (session later : Session) : Prop :=
  EngineChain session later ∧ session.Continues later

/-- While a script of a hotspot waits, others add to such a chain what they do. -/
private theorem hover_lasting : Lasting HoverChain :=
  EngineChain.lasting.and Session.Continues.lasting

/-- What scripts do is part of such a chain. -/
private theorem RunsScripts.hovers {α : Type} {script : Script α} (runs : RunsScripts script) :
    Does HoverChain script :=
  runs.script.mono fun chain => ⟨chain.engine, chain.continues⟩

/-- So is what the engine notes by itself. -/
private theorem record_hovers {notice : Notice} (ofEngine : notice.OfEngine) :
    Does HoverChain (record notice) :=
  .modify fun session =>
    ⟨(EngineAct.recorded notice ofEngine).chain, session.continues_record ofEngine.visit?_eq_none⟩

/-- A move is noted and runs a script, if the hotspot is still there. -/
private theorem makeKnown_hovers {notice : Hotspot Float32 → Notice}
    (ofEngine : ∀ hotspot, (notice hotspot).OfEngine) (index : UInt16) (trigger : Trigger) :
    Does HoverChain (do
      match (← get).card.bind (·.hotspots.get? index) with
      | some hotspot => record (notice hotspot)
      | none => pure ()
      runHotspotScript index trigger) := by
  refine .bind hover_lasting (.get hover_lasting) fun session => ?_
  have runs := (runHotspotScript_runs index trigger).hovers
  split
  · exact .bind hover_lasting (record_hovers (ofEngine _)) fun _ => runs
  · exact .bind hover_lasting (.pure hover_lasting ()) fun _ => runs

/-- To enter and to leave differ only in what is noted and in the script. -/
theorem makeMove_hovers (move : HotspotMove) : Does HoverChain (makeMove move) := by
  cases move with
  | exited index =>
    have ofEngine (hotspot : Hotspot Float32) : (Notice.hotspotExited hotspot).OfEngine := trivial
    exact makeKnown_hovers ofEngine index .mouseExit
  | entered index =>
    have ofEngine (hotspot : Hotspot Float32) : (Notice.hotspotEntered hotspot).OfEngine := trivial
    exact makeKnown_hovers ofEngine index .mouseEnter

/-- A move that goes to a hotspot that is gone does nothing, and scripts report their errors themselves. -/
theorem makeMove_unfailing (move : HotspotMove) : Unfailing (makeMove move) := by
  refine .bind .get fun session => ?_
  have runs (index : UInt16) (trigger : Trigger) :=
    (runHotspotScript_runs index trigger).unfailing
  dsimp only
  split
  · exact .bind (.modify _) fun _ => runs _ _
  · exact .bind (.pure ()) fun _ => runs _ _

/-- All moves that a test of the pointer leads to are part of such a chain. -/
theorem makeMoves_hovers (moves : List HotspotMove) : Does HoverChain (makeMoves moves) := by
  induction moves with
  | nil => exact .pure hover_lasting none
  | cons move rest ih =>
    refine .bind hover_lasting (makeMove_hovers move) fun target => ?_
    cases target with
    | none => exact ih
    | some target => exact .pure hover_lasting _

/-- None of them fails. -/
theorem makeMoves_unfailing (moves : List HotspotMove) : Unfailing (makeMoves moves) := by
  induction moves with
  | nil => exact .pure none
  | cons move rest ih =>
    refine .bind (makeMove_unfailing move) fun target => ?_
    cases target with
    | none => exact ih
    | some target => exact .pure _

end Script

namespace Session

/-- The number of the hotspot under the pointer. -/
def hitIndex (session : Session) : Option UInt16 :=
  session.hotspotUnderPointer.map (·.index)

/-- The session after the pointer has been tested, before any script hears of it. -/
def tested (session : Session) : Session :=
  { session with tracker := session.tracker.moveTo session.hitIndex }

/-- The pointer was tested at `before`, and all that has happened since is that its moves were made
known. -/
structure TestedAt (before later : Session) : Prop where
  made : (Script.makeMoves (before.tracker.moves before.hitIndex) before.tested).Leads
    (.done later (.ok none))
  continues : before.tested.Continues later

end Session

namespace Script

variable {first session : Session}

/-- How a session goes on: the chain from one to the other, and that a card which has been shown remains
one that has been shown. -/
structure Follows (session later : Session) : Prop where
  chain : EngineChain session later
  shown : session.Shown → later.Shown

/-- Nothing is lost where nothing is done. -/
theorem Follows.refl (session : Session) : Follows session session :=
  ⟨.refl, fun shown => shown⟩

/-- From a session to one between and on from there. -/
theorem Follows.trans {session between later : Session} (h : Follows session between)
    (h' : Follows between later) : Follows session later :=
  ⟨h.chain.trans h'.chain, fun shown => h'.shown (h.shown shown)⟩

/-- A script opens no card, and leaves shown what is shown. -/
theorem follows_of_script {session later : Session} (chain : ScriptChain session later) :
    Follows session later :=
  ⟨chain.engine, chain.continues.shown⟩

/-- A refusal is noted, and the card that is open stays open. -/
theorem follows_refuse (session : Session) (location : Location) (error : ScriptError) :
    Follows session (session.refuse location error) := by
  have noted : Follows session (session.onStage (·.note (.refused location))) :=
    ⟨(EngineAct.refuses location).chain, fun shown => shown⟩
  exact noted.trans (follows_of_script (ScriptAct.fails "goto" error).chain)

/-- If no card change comes of a test of the pointer, it is the last one. -/
theorem refreshHover_sat (session : Session) :
    (refreshHover session).Sat (EngineChain session) fun later result =>
      Follows session later ∧ ∃ pending, result = .ok pending
        ∧ (pending = none → session.TestedAt later) := by
  have tested : EngineChain session session.tested := (EngineAct.tracks session.hitIndex).chain
  have here := makeMoves_hovers (session.tracker.moves session.hitIndex) session.tested
  have ends := makeMoves_unfailing (session.tracker.moves session.hitIndex) session.tested
  have leads := Progress.sat_leads
    (makeMoves (session.tracker.moves session.hitIndex) session.tested)
  refine ((here.and ends).and leads).mono (fun later h => tested.trans h.1.1.1) ?_
  rintro later result ⟨⟨⟨chain, continues⟩, pending, rfl⟩, made⟩
  have shown : session.Shown → later.Shown := continues.shown
  refine ⟨⟨tested.trans chain, shown⟩, pending, rfl, ?_⟩
  rintro rfl
  exact ⟨made, continues⟩

/-- A card that cannot be opened is reported, and that is all. -/
theorem followTo_sat {session : Session} (sound : session.resolver.Sound) (pending : Option Location) :
    (followTo pending session).Sat (EngineChain session) fun later result =>
      Follows session later ∧ ∃ next, result = .ok next := by
  cases pending with
  | none => exact ⟨.refl session, none, rfl⟩
  | some location =>
    refine sat_attempt_bind_of (changeCard_sat sound .refl location) fun later result ends => ?_
    obtain ⟨chain, changed⟩ := ends
    cases result with
    | ok next => exact ⟨⟨chain, fun _ => changed.2.2⟩, next, rfl⟩
    | error error =>
      obtain ⟨_, rfl⟩ := changed
      have resolved : Follows session (session.resolved location) := ⟨chain, fun shown => shown⟩
      exact ⟨resolved.trans (follows_refuse _ location error), none, rfl⟩

/-- Something has happened since. -/
def Since (session later : Session) (happening : Happening) : Prop :=
  ∃ during, later.transcript = during ++ session.transcript ∧ happening ∈ during

/-- What has happened since then has happened since an earlier time. -/
theorem Since.earlier {session between later : Session} {happening : Happening}
    (since : Since between later happening) (before : EngineChain session between) :
    Since session later happening := by
  obtain ⟨first, same⟩ := before.grows
  obtain ⟨during, same', among⟩ := since
  exact ⟨during ++ first, by rw [same', ← same, List.append_assoc], List.mem_append_left _ among⟩

/-- A session that has settled: no card change came of the last test of the pointer, or there was no turn
left. -/
def Settled (session later : Session) : Prop :=
  (∃ before, EngineChain session before ∧ Session.TestedAt before later) ∨ Since session later .cutOff

/-- What has settled since then has settled since an earlier time. -/
theorem Settled.earlier {session between later : Session} (settled : Settled between later)
    (before : EngineChain session between) : Settled session later := by
  obtain ⟨test, chain, tested⟩ | cut := settled
  · exact .inl ⟨test, before.trans chain, tested⟩
  · exact .inr (cut.earlier before)

/-- By induction on the turns: each follows a card change or tests the pointer, and it ends with a test that
asks for no card, or because no turns are left. -/
theorem settleWithin_sat {session : Session} (sound : session.resolver.Sound) (turns : Nat)
    (pending : Option Location) :
    (settleWithin turns pending session).Sat (EngineChain session) fun later result =>
      result = .ok () ∧ Follows session later ∧ Settled session later := by
  induction turns generalizing session pending with
  | zero =>
    have cut : Follows session (session.onStage (·.note .cutOff)) :=
      ⟨EngineAct.cutsOff.chain, fun shown => shown⟩
    exact ⟨rfl, cut, .inr ⟨[.cutOff], rfl, List.mem_singleton_self _⟩⟩
  | succ turns ih =>
    -- A card change that is asked for, by a card or by a hotspot, leaves it to the turns that are left.
    have again {between : Session} (follows : Follows session between) (next : Option Location) :
        (settleWithin turns next between).Sat (EngineChain session) fun later result =>
          result = .ok () ∧ Follows session later ∧ Settled session later := by
      refine (follows.chain.onward (ih (follows.chain.sound sound) next)).imp ?_
      rintro later result ⟨ended, onward, settled⟩
      exact ⟨ended, follows.trans onward, settled.earlier follows.chain⟩
    unfold settleWithin
    refine sat_bind_of (followTo_sat sound pending) ?_ fun _ _ h => nomatch h.2
    rintro between next ⟨follows, -⟩
    cases next with
    | some target => exact again follows (some target)
    | none =>
      have hovers := follows.chain.onward (refreshHover_sat between)
      refine sat_bind_of hovers ?_ fun _ _ h => nomatch h.2
      rintro later next ⟨onward, _, same, tested⟩
      cases same
      cases next with
      | some target => exact again (follows.trans onward) (some target)
      | none => exact ⟨rfl, follows.trans onward, .inl ⟨between, follows.chain, tested rfl⟩⟩

/-- Settling never fails, and at its end the pointer has been tested or the chain of cards was cut off. -/
theorem settle_sat {session : Session} (sound : session.resolver.Sound) (pending : Option Location) :
    (settle pending session).Sat (EngineChain session) fun later result =>
      result = .ok () ∧ Follows session later ∧ Settled session later :=
  settleWithin_sat sound maxCardChain pending

/-! ## Cues -/

/-- Cues are carried out one after the other, and each does only what a script does. -/
theorem runCues_sat (cues : List Cue) (session : Session) : (runCues cues session).Sat (EngineChain session)
    fun later result => Follows session later ∧ ∃ pending, result = .ok pending := by
  induction cues generalizing session with
  | nil => exact ⟨.refl session, none, rfl⟩
  | cons cue rest ih =>
    have fired : Follows session (session.fire cue) :=
      ⟨(EngineAct.firesCue cue).chain, fun shown => shown⟩
    unfold runCues
    rw [modify_bind]
    refine (runScript_runs _ _).sat_bind fired.chain fun later target chain script => ?_
    have before := fired.trans (follows_of_script script)
    cases target with
    | some target => exact ⟨before, some target, rfl⟩
    | none => exact (chain.onward (ih later)).imp fun _ _ h => ⟨before.trans h.1, h.2⟩

/-- Whatever the cues do, the card that was open is still open and shown, and a card may be asked for. -/
theorem fireCues_sat (session : Session) : (fireCues session).Sat (EngineChain session)
    fun later result => Follows session later ∧ ∃ pending, result = .ok pending := by
  have taken : Follows session session.takeDue := ⟨EngineAct.takesCues.chain, fun shown => shown⟩
  exact (taken.chain.onward (runCues_sat session.dueCues session.takeDue)).imp
    fun _ _ h => ⟨taken.trans h.1, h.2⟩

/-! ## Events -/

/-- Going to a card succeeds if the card can be had, and then that card is the first one opened. -/
theorem goto_sat {session : Session} (sound : session.resolver.Sound) (location : Location) :
    (goto location session).Sat (EngineChain session) fun later result =>
      Follows session later ∧ (result = .ok () ↔ session.CanOpen location) ∧
        (result = .ok () → Settled session later
          ∧ ∃ others, later.opened = session.opened ++ location :: others) := by
  refine sat_attempt_bind_of (changeCard_sat sound .refl location) fun between result ends => ?_
  obtain ⟨chain, changed⟩ := ends
  cases result with
  | error error =>
    obtain ⟨cannot, rfl⟩ := changed
    have resolved : Follows session (session.resolved location) := ⟨chain, fun shown => shown⟩
    have refused := follows_refuse (session.resolved location) location error
    exact ⟨resolved.trans refused, iff_of_false (nomatch ·) cannot, (nomatch ·)⟩
  | ok pending =>
    obtain ⟨can, opened, shown⟩ := changed
    have follows : Follows session between := ⟨chain, fun _ => shown⟩
    refine (chain.onward (settle_sat (chain.sound sound) pending)).imp ?_
    rintro later result ⟨rfl, onward, settled⟩
    refine ⟨follows.trans onward, iff_of_true rfl can, fun _ => ?_⟩
    obtain ⟨others, same⟩ := Session.opened_of_chain onward.chain
    refine ⟨settled.earlier chain, others, ?_⟩
    rw [same, opened, List.append_assoc]
    rfl

/-- Whether or not the card of the saved state can be opened, what was shown is not lost. -/
theorem restore_sat {session : Session} (sound : session.resolver.Sound) (state : GameState) :
    (restore state session).Sat (EngineChain session) fun later _ => Follows session later := by
  let put : Session := { session with game := state.game }
  have follows : Follows session put :=
    ⟨(EngineAct.putsVariables state.game).chain, fun shown => shown⟩
  have recorded {later : Session} (before : Follows session later) :
      Follows session (later.record .stateRestored) :=
    before.trans ⟨(EngineAct.recorded .stateRestored trivial).chain, fun shown => shown⟩
  unfold restore
  rw [get_bind, modify_bind]
  cases state.location with
  | none => exact recorded follows
  | some location =>
    dsimp only
    have stillSound : put.resolver.Sound := sound
    have goes := goto_sat stillSound location
    refine sat_attempt_bind_of (follows.chain.onward goes) ?_
    rintro later result ⟨onward, -⟩
    cases result with
    | ok _ => exact recorded (follows.trans onward)
    | error error =>
      have before := follows.trans onward
      exact before.trans ⟨(EngineAct.putsVariables session.game).chain, fun shown => shown⟩

/-- Settling after something else. -/
private theorem settle_after {session between : Session} (sound : session.resolver.Sound)
    (before : Follows session between) (pending : Option Location) :
    (settle pending between).Sat (EngineChain session) fun later _ =>
      Follows session later ∧ Settled session later := by
  refine (before.chain.onward (settle_sat (before.chain.sound sound) pending)).imp ?_
  rintro later result ⟨-, onward, settled⟩
  exact ⟨before.trans onward, settled.earlier before.chain⟩

/-- Scripts may run before a session settles. -/
private theorem runs_settle_after {session between : Session} (sound : session.resolver.Sound)
    (before : Follows session between) {script : Script (Option Location)} (runs : RunsScripts script) :
    ((script >>= settle) between).Sat (EngineChain session) fun later _ =>
      Follows session later ∧ Settled session later :=
  runs.sat_bind before.chain fun _ pending _ script =>
    settle_after sound (before.trans (follows_of_script script)) pending

/-- The window is resized, and the pointer tested with the hotspots in their new places. -/
theorem viewportChanged_sat {session : Session} (sound : session.resolver.Sound) (viewport : Size Float32) :
    (viewportChanged viewport session).Sat (EngineChain session) fun later _ =>
      Follows session later ∧ Settled session later := by
  let resized : Session := { session with
    mapper := session.mapper.resize viewport
    card := session.card.map fun card =>
      { card with hotspots := card.hotspots.resize (session.mapper.resize viewport) } }
  have shown : session.Shown → resized.Shown := by
    rintro shown card isOpen
    obtain ⟨original, there, rfl⟩ := Option.map_eq_some_iff.mp isOpen
    exact shown original there
  have follows : Follows session resized := ⟨(EngineAct.resizes viewport).chain, shown⟩
  exact settle_after sound (follows.trans (follows_of_script resized.publishIfNeeded_chain)) none

/-- A tick without a card does nothing that would have to settle. -/
theorem animationTick_sat {session : Session} (sound : session.resolver.Sound) :
    (animationTick session).Sat (EngineChain session) fun later _ =>
      Follows session later ∧ (session.card.isSome → Settled session later) := by
  have settles {between : Session} (before : Follows session between) (pending : Option Location) :
      (settle pending between).Sat (EngineChain session) fun later _ =>
        Follows session later ∧ (session.card.isSome → Settled session later) :=
    (settle_after sound before pending).imp fun _ _ h => ⟨h.1, fun _ => h.2⟩
  have cues {between : Session} (before : Follows session between) (held : Option Location) :
      ((if held.isNone then fireCues >>= settle else pure held >>= settle : Script Unit) between).Sat
        (EngineChain session) fun later _ =>
          Follows session later ∧ (session.card.isSome → Settled session later) := by
    split
    next =>
      have fired := before.chain.onward (fireCues_sat between)
      refine sat_bind_of fired ?_ fun _ _ h => nomatch h.2
      exact fun later pending h => settles (before.trans h.1) pending
    next => exact settles before held
  unfold animationTick
  rw [get_bind]
  split
  next isOpen =>
    refine (runActiveHotspot_runs .mouseInside).sat_bind .refl fun later inside chain script => ?_
    have before := follows_of_script script
    rw [get_bind]
    dsimp only
    split
    next =>
      refine (runActiveHotspot_runs .mouseStillDown).sat_bind chain fun held target _ script => ?_
      exact cues (before.trans (follows_of_script script)) target
    next => exact cues before inside
  next closed => exact ⟨.refl session, fun isOpen => absurd isOpen closed⟩

/-- A movie that ends changes its slot and what is shown, and tests no pointer. -/
theorem movieFinished_sat (session : Session) (code : UInt16) :
    (movieFinished code session).Sat (EngineChain session) fun later _ => Follows session later := by
  unfold movieFinished
  rw [get_bind]
  split
  next =>
    let ended := session.onMovie code fun slot =>
      if slot.movie.looping then slot else { slot with playing := false }
    have changed : Follows session ended := follows_of_script (ScriptAct.setVisual _).chain
    have recorded : Follows ended (ended.record (.movieFinished code)) :=
      ⟨(EngineAct.recorded (.movieFinished code) trivial).chain, fun shown => shown⟩
    exact (changed.trans recorded).trans (follows_of_script (Session.publishIfNeeded_chain _))
  next => exact .refl session

end Script

/-- Whether an event ends with a test of the pointer. -/
def Event.Settles (session : Session) (result : Except ScriptError Unit) : Event → Prop
  | .message (.goto _ _) => result = .ok ()
  | .message (.pointerMoved _) | .message .pointerDown | .message .pointerUp
  | .message (.viewport _) => True
  | .message .tick => session.card.isSome
  | .message (.restore _ _) | .message (.movieFinished _) | .shutdown => False

open Script in
/-- Every event does only what the engine does, leaves the card shown, and settles if it is one that
does. -/
theorem Event.sat {session : Session} (sound : session.resolver.Sound) (event : Event) :
    (event.script session).Sat (EngineChain session) fun later result =>
      Follows session later ∧ (event.Settles session result → Settled session later) := by
  have settles {script : Script Unit} (h : (script session).Sat (EngineChain session) fun later _ =>
      Follows session later ∧ Settled session later) {always : Except ScriptError Unit → Prop} :
      (script session).Sat (EngineChain session) fun later result =>
        Follows session later ∧ (always result → Settled session later) :=
    h.imp fun _ _ h => ⟨h.1, fun _ => h.2⟩
  have goesOn {script : Script Unit} (h : (script session).Sat (EngineChain session) fun later _ =>
      Follows session later) : (script session).Sat (EngineChain session) fun later _ =>
        Follows session later ∧ (False → Settled session later) :=
    h.imp fun _ _ h => ⟨h, False.elim⟩
  have untouched {between : Session} (act : EngineAct session between) (same : between.card = session.card) :
      Follows session between :=
    ⟨act.chain, fun shown card isOpen => shown card (same ▸ isOpen)⟩
  -- Clicks and moves of the pointer settle; restoring, and the end of a movie, only go on.
  cases event with
  | message sent =>
    cases sent with
    | goto location ticket =>
      exact (goto_sat sound location).imp fun _ _ h => ⟨h.1, fun ok => (h.2.2 ok).1⟩
    | restore state ticket => exact goesOn (restore_sat sound state)
    | pointerMoved point =>
      exact settles (settle_after sound (untouched (.points point) rfl) none)
    | pointerDown =>
      exact settles (runs_settle_after sound (untouched (.presses true) rfl)
        (runActiveHotspot_runs .mouseDown))
    | pointerUp =>
      exact settles (runs_settle_after sound (untouched (.presses false) rfl)
        (runActiveHotspot_runs .mouseUp))
    | viewport size => exact settles (viewportChanged_sat sound size)
    | movieFinished code => exact goesOn (movieFinished_sat session code)
    | tick => exact animationTick_sat sound
  | shutdown =>
    have closed : session.closeCard.Shown := by
      intro card isOpen
      rw [Session.closeCard_card] at isOpen
      cases isOpen
    exact ⟨⟨EngineAct.closes.chain, fun _ => closed⟩, False.elim⟩

/-! ## Every run -/

/-- Wherever an event has come, it has come there by a chain of acts. -/
theorem Event.chain {session : Session} {progress : Progress (Except ScriptError Unit)}
    (sound : session.resolver.Sound) {event : Event} (leads : (event.script session).Leads progress) :
    EngineChain session progress.session :=
  (((Event.sat sound event).imp fun _ _ h => h.1.chain).leads leads).now

namespace Reachable

variable {progress : Progress (Except ScriptError Unit)}

/-- Whatever a session comes to is a chain of acts from its beginning. -/
theorem chain (reachable : Reachable progress) : ∃ config provider player,
    EngineChain (.ofStage (.ofConfig config provider player)) progress.session := by
  induction reachable with
  | start config provider player => exact ⟨config, provider, player, .refl⟩
  | outside _ act ih =>
    obtain ⟨config, provider, player, before⟩ := ih
    exact ⟨config, provider, player, before.tail (.script (.suffered act))⟩
  | event _ event leads ih =>
    obtain ⟨config, provider, player, before⟩ := ih
    exact ⟨config, provider, player, before.trans (Event.chain (before.sound (.empty provider 0)) leads)⟩

/-- What holds in the beginning, and is kept by every act, holds of whatever a session comes to. -/
theorem invariant {holds : Session → Prop}
    (start : ∀ config provider player, holds (.ofStage (.ofConfig config provider player)))
    (step : ∀ {session later}, EngineAct session later → holds session → holds later)
    (reachable : Reachable progress) : holds progress.session := by
  obtain ⟨config, provider, player, chain⟩ := reachable.chain
  exact chain.keeps step (start config provider player)

theorem sound (reachable : Reachable progress) : progress.session.resolver.Sound :=
  reachable.invariant (fun _ provider _ => .empty provider 0) EngineAct.sound

/-- Between two events the card that is open has been shown. -/
theorem shown (reachable : Reachable progress) {session : Session} {result : Except ScriptError Unit}
    (ended : progress = .done session result) : session.Shown := by
  induction reachable generalizing session result with
  | start config provider player =>
    cases ended
    exact fun _ isOpen => nomatch isOpen
  | outside _ act ih =>
    cases ended
    have before := ih rfl
    exact before
  | event before event leads ih =>
    cases ended
    exact ((Event.sat before.sound event).of_leads_done leads).1.shown (ih rfl)

end Reachable

end Diorama
