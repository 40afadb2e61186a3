import Diorama.Proofs.Programs

/-!
# From one wait to the next

A program that waits is handed a session when it goes on, and that need not be the one that it left: others
have been there meanwhile. So what is to be said of the rest of it is said from the session that it is handed.
`Progress.Legs` cuts a program into legs, from its beginning to its first wait, from there to the next, and
from the last one to its end, and says of every leg that it is `Session.Ongoing`: the button is held as before,
an abort stays one, no end of the world is recorded, and a world that has been torn down stays so and has no
further command begun in it. Of the stacks a leg asks for some at most, and loads none ahead (`Session.Resolves`).

The world needs this when it goes on with a message that it had to leave, and most when it comes down. A leg
that begins with the gate aborted does not end with a wait, because at an aborted gate nobody waits
(`Progress.Legs.done_of_aborted`).
-/

namespace Diorama

/-- It is the end of the world. -/
def Happening.isEnd : Happening → Bool
  | .recorded .tornDown => true
  | _ => false

/-- The stack that was to be loaded ahead, and why it could not be, where that is recorded. -/
def Happening.preload? : Happening → Option (String × Option StackError)
  | .recorded (.stackPreloaded key) => some (key, none)
  | .recorded (.stackRefused key error) => some (key, some error)
  | _ => none

namespace Session

/-- How often the end of the world has been recorded. -/
def endings (session : Session) : Nat :=
  session.transcript.countP (·.isEnd)

/-- What has come of loading stacks ahead, as it was recorded, the oldest first. -/
def preloads (session : Session) : List (String × Option StackError) :=
  (session.transcript.filterMap Happening.preload?).reverse

/-- What a leg of a program may not change. -/
structure Ongoing (session later : Session) : Prop where
  buttonDown : later.buttonDown = session.buttonDown
  tornDown : later.tornDown = session.tornDown
  aborted : session.gate.aborted = true → later.gate.aborted = true
  begun : session.tornDown = true → later.begun = session.begun
  endings : later.endings = session.endings

/-- What a leg does with stacks: it asks for some, and has nothing to say of any that are loaded ahead. -/
structure Resolves (session later : Session) : Prop where
  resolver : session.resolver.Asked later.resolver
  preloads : later.preloads = session.preloads

/-- What a leg may do. -/
structure Leg (session later : Session) : Prop extends Ongoing session later, Resolves session later

variable {session between later : Session}

/-- Nothing has changed where nothing was done. -/
theorem Ongoing.refl (session : Session) : session.Ongoing session :=
  ⟨rfl, rfl, id, fun _ => rfl, rfl⟩

/-- A leg goes on from where one stands. -/
theorem Ongoing.trans (h : session.Ongoing between) (h' : between.Ongoing later) : session.Ongoing later := by
  refine ⟨h'.buttonDown.trans h.buttonDown, h'.tornDown.trans h.tornDown, h'.aborted ∘ h.aborted, ?_,
    h'.endings.trans h.endings⟩
  intro tornDown
  exact (h'.begun (h.tornDown.trans tornDown)).trans (h.begun tornDown)

/-- No stack was asked for. -/
theorem Resolves.refl (session : Session) : session.Resolves session :=
  ⟨.refl, rfl⟩

/-- Stacks were asked for before, and then some more. -/
theorem Resolves.trans (h : session.Resolves between) (h' : between.Resolves later) : session.Resolves later :=
  ⟨h.resolver.trans h'.resolver, h'.preloads.trans h.preloads⟩

theorem Leg.refl (session : Session) : session.Leg session :=
  ⟨.refl session, .refl session⟩

/-- Two legs without a wait between them are one. -/
theorem Leg.trans (h : session.Leg between) (h' : between.Leg later) : session.Leg later :=
  ⟨h.toOngoing.trans h'.toOngoing, h.toResolves.trans h'.toResolves⟩

/-- What is beside the point is not the end of the world. -/
theorem Aside.endings (aside : session.Aside later) : later.endings = session.endings := by
  obtain ⟨during, same, plain⟩ := aside.transcript
  have none : during.countP (·.isEnd) = 0 := by
    refine List.countP_eq_zero.mpr fun happening among => ?_
    have here := plain happening among
    cases happening with
    | recorded notice => cases notice <;> first | exact here.elim | exact Bool.false_ne_true
    | _ => exact Bool.false_ne_true
  rw [Session.endings, same, List.countP_append, none, Nat.zero_add]
  rfl

/-- What is beside the point takes back no abort and begins no command. -/
theorem Aside.ongoing (aside : session.Aside later) : session.Ongoing later := by
  refine ⟨aside.buttonDown, aside.tornDown, ?_, fun _ => aside.begun, aside.endings⟩
  rw [aside.gate]
  exact id

/-- What is beside the point loads no stack ahead. -/
theorem Aside.resolves (aside : session.Aside later) : session.Resolves later := by
  refine ⟨aside.resolver, ?_⟩
  obtain ⟨during, same, plain⟩ := aside.transcript
  -- A stack that is loaded ahead is told, and nothing of the kind is told here.
  have none : during.filterMap Happening.preload? = [] := by
    refine List.filterMap_eq_nil_iff.mpr fun happening among => ?_
    have here := plain happening among
    cases happening with
    | recorded notice => cases notice <;> first | exact here.elim | rfl
    | _ => rfl
  rw [preloads, same, List.filterMap_append, none, List.nil_append]
  rfl

/-- So it may be done in any leg. -/
theorem Aside.leg (aside : session.Aside later) : session.Leg later :=
  ⟨aside.ongoing, aside.resolves⟩

/-- A wait that ends takes the answer from the gate, and an abort stays there for the next one. -/
theorem leg_answered {outcome : GateOutcome} {gate : MovieGate}
    (answered : session.gate.wait? = some (outcome, gate)) : session.Leg { session with gate } :=
  ⟨⟨rfl, rfl, fun aborted => MovieGate.aborted_wait? aborted answered, fun _ => rfl, rfl⟩, .refl, rfl⟩

end Session

/-! ## Legs -/

namespace Progress

variable {α β : Type}

/-- Every leg of the program does what a leg may do; the first one has begun with `first`. -/
def Legs : Progress α → Session → Prop
  | .done later _, first => first.Leg later
  | .waiting session resume, first => first.Leg session ∧ session.gate.aborted = false ∧
      ∀ later outcome, (resume later outcome).Legs later

/-- The first leg may have begun earlier. -/
theorem Legs.earlier {progress : Progress α} {first between : Session} (h : progress.Legs between)
    (before : first.Leg between) : progress.Legs first := by
  cases progress with
  | done later result => exact before.trans h
  | waiting session resume =>
    obtain ⟨here, unaborted, onward⟩ := h
    exact ⟨before.trans here, unaborted, onward⟩

/-- The last leg of a program and the first one of what follows are one leg. -/
theorem Legs.bind {progress : Progress α} {next : Session → α → Progress β} {first : Session}
    (h : progress.Legs first) (h' : ∀ later value, (next later value).Legs later) :
    (progress.bind next).Legs first := by
  induction progress generalizing first with
  | done later result => exact (h' later result).earlier h
  | waiting session resume ih =>
    obtain ⟨here, unaborted, onward⟩ := h
    exact ⟨here, unaborted, fun later outcome => ih later outcome (onward later outcome)⟩

/-- Wherever the leg ends, it is one. -/
theorem Legs.session {progress : Progress α} {first : Session} (h : progress.Legs first) :
    first.Leg progress.session := by
  cases progress with
  | done later result => exact h
  | waiting session resume => exact h.1

/-- A leg that begins with an abort is the last one. -/
theorem Legs.done_of_aborted {progress : Progress α} {first : Session} (h : progress.Legs first)
    (aborted : first.gate.aborted = true) : ∃ later result, progress = .done later result := by
  cases progress with
  | done later result => exact ⟨later, result, rfl⟩
  | waiting session resume =>
    obtain ⟨here, unaborted, -⟩ := h
    cases unaborted.symm.trans (here.aborted aborted)

end Progress

/-! ## Every program goes in legs -/

namespace Script

variable {α β : Type}

/-- The program goes in legs, wherever it begins. -/
def Legs (script : Script α) : Prop :=
  ∀ session, (script session).Legs session

/-- Programs that go in legs can be put one after the other. -/
theorem Legs.bind {script : Script α} {next : α → Script β} (h : Legs script)
    (h' : ∀ value, Legs (next value)) : Legs (script >>= next) := by
  refine fun session => (h session).bind fun later result => ?_
  cases result with
  | ok value => exact h' value later
  | error error => exact .refl later

/-- A change that a leg may make is a leg by itself. -/
theorem Legs.modify {change : Session → Session} (h : ∀ session : Session, session.Leg (change session)) :
    Legs (modify change) :=
  h

/-- To look at the session is no leg at all. -/
theorem get_legs : Legs get :=
  .refl

/-- Going in legs is closed under putting programs together. -/
theorem legs_composes : Composes Legs where
  pure _ := .refl
  fail _ := .refl
  reads _ h := .bind get_legs h
  bind := .bind
  attempt h session := (h session).bind fun later _ => .refl later
  minor h := .modify fun session => (h.aside session).leg

/-- A wait begins only while there is no abort. -/
theorem awaitMovie_legs : Legs awaitMovie := by
  intro session
  unfold awaitMovie
  split
  next outcome gate answered => exact Session.leg_answered answered
  next unanswered =>
    refine ⟨.refl session, ?_, fun later _ => .refl later⟩
    rw [MovieGate.wait?] at unanswered
    split at unanswered
    next => cases unanswered
    next unaborted => exact Bool.eq_false_iff.mpr unaborted

/-- Everything that is set for a time concerns neither the button nor the end of the world. -/
theorem legs_stepwise : Stepwise Legs where
  toComposes := legs_composes
  begins {next} command h := by
    intro session
    change Progress.Legs ((if session.tornDown = true then _ else _ : Script Flow) session) session
    split
    next => exact .refl session
    next live =>
      have begun : session.Leg (session.begin command) :=
        ⟨⟨rfl, rfl, id, fun tornDown => absurd tornDown live, rfl⟩, .refl, rfl⟩
      exact (h (session.begin command)).earlier begun
  arms code := .modify fun _ => ⟨⟨rfl, rfl, id, fun _ => rfl, rfl⟩, .refl, rfl⟩
  awaited code := .modify fun _ => ⟨⟨rfl, rfl, id, fun _ => rfl, rfl⟩, .refl, rfl⟩
  starts media := .modify fun _ =>
    ⟨⟨rfl, rfl, fun aborted => MovieGate.aborted_foldl_receive aborted _, fun _ => rfl, rfl⟩, .refl, rfl⟩
  waits := awaitMovie_legs
  answered code outcome := .modify fun _ => ⟨⟨rfl, rfl, id, fun _ => rfl, rfl⟩, .refl, rfl⟩
  covers := .modify fun _ => ⟨⟨rfl, rfl, id, fun _ => rfl, rfl⟩, .refl, rfl⟩
  uncovers before := .modify fun _ => ⟨⟨rfl, rfl, id, fun _ => rfl, rfl⟩, .refl, rfl⟩
  leaving running := .modify fun _ => ⟨⟨rfl, rfl, id, fun _ => rfl, rfl⟩, .refl, rfl⟩
  fails label error := .modify fun _ => ⟨⟨rfl, rfl, id, fun _ => rfl, rfl⟩, .refl, rfl⟩

/-- Every program of the engine goes in legs. -/
theorem legs : Law Legs :=
  legs_stepwise.law

end Script

end Diorama
