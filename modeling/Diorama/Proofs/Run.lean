import Diorama.World
import Mathlib.Logic.Relation

/-!
# Runs

What a session can come to. A run begins with a configuration, the stacks there are and a player; from
then on events are carried out one after the other, each to its end, and the stage may change between
them and while one of them waits for a movie.

`Outside` lists what the others do to the stage: they report movies to the gate, set variables, take what
was handed to the display, load stacks ahead, exchange the stacks behind the provider or the player's
answers, and bring the world down. No program is asked whether it likes that, so whatever is proved of all
runs holds for every interleaving with them.

`Progress.Leads` is one event: from how far its program has come to how far it can come. `Reachable` is
the whole run, ended events and waiting ones alike. That an event which waits for ever never ends is part
of this picture; that every event can be brought to an end is `Progress.exists_leads_done`.
-/

namespace Diorama

/-- What others do to the stage while no program runs, or one waits. -/
inductive Outside where
  | gate (call : GateCall)
  | setting (path : String) (value : EngineValue)
  | gameVariable (name : String) (value : UInt16)
  | position (code : UInt16) (milliseconds : Nat)
  | replies (each : List PlayerReply) (last : PlayerReply)
  | drain
  | preload (key : String)
  | provider (next : Provider)
  | clearStacks
  | tearDown

/-- The stage afterwards. -/
def Outside.apply (stage : Stage) : Outside → Stage
  | .gate call => { stage with gate := stage.gate.receive call }
  | .setting path value => { stage with settings := stage.settings.insert path value }
  | .gameVariable name value => { stage with game := stage.game.insert name value }
  | .position code milliseconds =>
    { stage with player := stage.player.setPosition code milliseconds }
  | .replies each lastReply =>
    { stage with player := { stage.player with replies := each, lastReply } }
  | .drain => stage.drainDisplay.2
  | .preload key => stage.preload key
  | .provider next => { stage with resolver := { stage.resolver with provider := next } }
  | .clearStacks => { stage with resolver := stage.resolver.clear }
  | .tearDown => { stage with tornDown := true, gate := stage.gate.abort }

/-- The session after somebody else has done something. -/
def Session.suffer (session : Session) (act : Outside) : Session :=
  session.onStage act.apply

/-- The sessions that others can make of one, with no program taking part. -/
def Session.Meanwhile : Session → Session → Prop :=
  Relation.ReflTransGen fun session later => ∃ act, later = session.suffer act

/-! ## One event -/

namespace Progress

variable {α : Type}

/-- What can happen to a program that waits: somebody does something, or the wait ends. -/
inductive Next : Progress α → Progress α → Prop where
  | outside (session : Session) (resume : Session → GateOutcome → Progress α) (act : Outside) :
      Next (.waiting session resume) (.waiting (session.suffer act) resume)
  | answer {session : Session} {outcome : GateOutcome} {gate : MovieGate}
      (answered : session.gate.wait? = some (outcome, gate))
      (resume : Session → GateOutcome → Progress α) :
      Next (.waiting session resume) (resume { session with gate } outcome)

/-- How far a program can come from where it is. -/
def Leads : Progress α → Progress α → Prop :=
  Relation.ReflTransGen Next

/-- A program that has ended leads nowhere else. -/
theorem leads_done_iff {session : Session} {result : α} {progress : Progress α} :
    (Progress.done session result).Leads progress ↔ progress = .done session result := by
  constructor
  · intro leads
    induction leads with
    | refl => rfl
    | tail _ step same =>
      rw [same] at step
      cases step
  · rintro rfl
    exact .refl

/-- It makes no difference how three programs are put together. -/
theorem bind_assoc {β γ : Type} (progress : Progress α) (next : Session → α → Progress β)
    (last : Session → β → Progress γ) :
    (progress.bind next).bind last = progress.bind fun session value => (next session value).bind last := by
  induction progress with
  | done session result => rfl
  | waiting session resume ih =>
    rw [Progress.bind, Progress.bind, Progress.bind]
    congr 1
    funext later outcome
    exact ih later outcome

/-- What comes after a program does not matter to how far it can come. -/
theorem Leads.bind {β : Type} {progress further : Progress α} (leads : progress.Leads further)
    (next : Session → α → Progress β) : (progress.bind next).Leads (further.bind next) := by
  refine leads.lift (Progress.bind · next) ?_
  intro here there step
  cases step with
  | outside session resume act => exact .outside session _ act
  | answer answered resume => exact .answer answered _

/-- Whatever a program waits for, it can be brought to an end: an abort ends every wait. -/
theorem exists_leads_done (progress : Progress α) :
    ∃ session result, progress.Leads (.done session result) := by
  induction progress with
  | done session result => exact ⟨session, result, .refl⟩
  | waiting session resume ih =>
    -- An abort answers every wait.
    let aborted := session.suffer (.gate .abort)
    let gate : MovieGate := { aborted.gate with waiting := none }
    have answered : aborted.gate.wait? = some (.aborted, gate) := if_pos rfl
    obtain ⟨last, result, leads⟩ := ih { aborted with gate } .aborted
    have waits := Next.outside session resume (.gate .abort)
    exact ⟨last, result, .head waits (.head (.answer answered resume) leads)⟩

/-! ### What others do, as data -/

/-- How far a program comes if this is what others do at each turn: after each, a wait ends if it can. -/
def under : Progress α → List (List Outside) → Progress α
  | .waiting session resume, acts :: turns =>
    let later := acts.foldl Session.suffer session
    match later.gate.wait? with
    | some (outcome, gate) => (resume { later with gate } outcome).under turns
    | none => (waiting later resume).under turns
  | progress, _ => progress

/-- Others can do nothing to a program that has ended. -/
theorem under_done (session : Session) (result : α) (turns : List (List Outside)) :
    (done session result).under turns = .done session result := by
  cases turns <;> rfl

/-- Where others take no turn the program stands where it stood. -/
theorem under_nil (progress : Progress α) : progress.under [] = progress := by
  cases progress <;> rfl

/-- What comes after a program and does not wait is not concerned by what others do. -/
theorem under_bind {β : Type} {next : Session → α → Progress β}
    (ends : ∀ session value, ∃ later result, next session value = .done later result)
    (progress : Progress α) (turns : List (List Outside)) :
    (progress.bind next).under turns = (progress.under turns).bind next := by
  induction turns generalizing progress with
  | nil => rw [under_nil, under_nil]
  | cons acts turns ih =>
    cases progress with
    | done session value =>
      obtain ⟨later, result, same⟩ := ends session value
      rw [under_done, Progress.bind, same, under_done]
    | waiting session resume =>
      rw [Progress.bind, under, under]
      split
      next outcome gate answered => exact ih _
      next => exact ih (.waiting _ resume)

/-- While a program waits it is led on by what others do. -/
theorem leads_foldl_suffer (acts : List Outside) (session : Session)
    (resume : Session → GateOutcome → Progress α) :
    (waiting session resume).Leads (waiting (acts.foldl Session.suffer session) resume) := by
  induction acts generalizing session with
  | nil => exact .refl
  | cons act rest ih => exact .head (.outside session resume act) (ih (session.suffer act))

/-- Whatever others do, a program only comes to what it can come to. -/
theorem leads_under (progress : Progress α) (turns : List (List Outside)) :
    progress.Leads (progress.under turns) := by
  induction turns generalizing progress with
  | nil =>
    rw [under_nil]
    exact .refl
  | cons acts turns ih =>
    cases progress with
    | done session result => exact .refl
    | waiting session resume =>
      have suffered := leads_foldl_suffer acts session resume
      unfold under
      dsimp only
      split
      next outcome gate answered => exact (suffered.tail (.answer answered resume)).trans (ih _)
      next => exact suffered.trans (ih _)

end Progress

/-! ## Whole runs -/

/-- Something that is carried out on a session. -/
inductive Event where
  | message (sent : Message)
  | shutdown

/-- What carrying it out does. -/
def Event.script : Event → Script Unit
  | .message sent => sent.script
  | .shutdown => Script.shutdown

/-- What a session can come to: it has begun, the stage has changed between two events, or an event has
come as far as it can or waits. -/
inductive Reachable : Progress (Except ScriptError Unit) → Prop where
  | start (config : EngineConfig) (provider : Provider) (player : MediaPlayer) :
      Reachable (.done (.ofStage (.ofConfig config provider player)) (.ok ()))
  | outside {session : Session} {result : Except ScriptError Unit}
      (before : Reachable (.done session result)) (act : Outside) :
      Reachable (.done (session.suffer act) result)
  | event {session : Session} {result : Except ScriptError Unit}
      {progress : Progress (Except ScriptError Unit)}
      (before : Reachable (.done session result)) (event : Event)
      (leads : (event.script session).Leads progress) : Reachable progress

/-! ## Small runs -/

/-- The session with which a run begins that has one stack, with these names of variables and these cards, and a
player that ends every movie at once. -/
def Session.beginningWith (names : Option (List String)) (key : String) (cards : List (UInt16 × CardRecord)) :
    Session :=
  let bytes := cards.map fun card => (card.1, card.2.encode.toOption.getD [])
  let shelf := SortedMap.empty.insert key (.memory key (.ofList bytes) names)
  .ofStage (.ofConfig {} (.memory shelf) .finishing)

/-- The same, where the stack has no names of variables. -/
def Session.beginning (key : String) (cards : List (UInt16 × CardRecord)) : Session :=
  .beginningWith none key cards

/-- The session with which a program has ended, if it has ended, and well. -/
def Progress.ended? : Progress (Except ScriptError Unit) → Option Session
  | .done session (.ok _) => some session
  | _ => none

/-- A program that ended well has come to its end. -/
theorem Progress.leads_of_ended? {progress : Progress (Except ScriptError Unit)} {session : Session}
    (ended : progress.ended? = some session) : progress.Leads (.done session (.ok ())) := by
  unfold Progress.ended? at ended
  split at ended
  · cases ended
    exact .refl
  · cases ended

/-- The session in which a program waits, if it does. -/
def Progress.standing? {α : Type} : Progress α → Option Session
  | .waiting session _ => some session
  | .done _ _ => none

/-- A program that stands still waits. -/
theorem Progress.eq_of_standing? {α : Type} {progress : Progress α} {session : Session}
    (standing : progress.standing? = some session) : ∃ resume, progress = .waiting session resume := by
  cases progress with
  | done => cases standing
  | waiting here resume =>
    cases standing
    exact ⟨resume, rfl⟩

/-- The session with which a program has failed, and why, if it has failed. -/
def Progress.failed? {α : Type} : Progress (Except ScriptError α) → Option (Session × ScriptError)
  | .done session (.error error) => some (session, error)
  | _ => none

/-- A program that failed has come to its failure. -/
theorem Progress.leads_of_failed? {α : Type} {progress : Progress (Except ScriptError α)} {session : Session}
    {error : ScriptError} (failed : progress.failed? = some (session, error)) :
    progress.Leads (.done session (.error error)) := by
  unfold Progress.failed? at failed
  split at failed
  · cases failed
    exact .refl
  · cases failed

/-- The session after some events, if every one of them ends at once, and well. -/
def Session.after? (session : Session) : List Event → Option Session
  | [] => some session
  | event :: rest => (event.script session).ended?.bind fun later => later.after? rest

/-- Events that are over at once bring a session on to one that is reachable, too. -/
theorem Reachable.of_after? {session later : Session} {events : List Event}
    (before : Reachable (.done session (.ok ()))) (ended : session.after? events = some later) :
    Reachable (.done later (.ok ())) := by
  induction events generalizing session with
  | nil =>
    cases ended
    exact before
  | cons event rest ih =>
    obtain ⟨between, carriedOut, onward⟩ := Option.bind_eq_some_iff.mp ended
    exact ih (.event before event (Progress.leads_of_ended? carriedOut)) onward

/-- What a small run comes to is reachable. -/
theorem Reachable.exists_after {first : Session} (before : Reachable (.done first (.ok ()))) {events : List Event}
    {holds : Session → Bool} (h : (first.after? events).any holds = true) :
    ∃ session, Reachable (.done session (.ok ())) ∧ holds session = true := by
  obtain ⟨session, ended, here⟩ := (Option.any_eq_true ..).mp h
  exact ⟨session, before.of_after? ended, here⟩

/-- What is checked of the session after some events holds of a reachable one. -/
theorem Session.exists_after (key : String) (cards : List (UInt16 × CardRecord)) {events : List Event}
    {holds : Session → Bool} (h : ((beginning key cards).after? events).any holds = true) :
    ∃ session, Reachable (.done session (.ok ())) ∧ holds session = true :=
  Reachable.exists_after (.start ..) h

end Diorama
