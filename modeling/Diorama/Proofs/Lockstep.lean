import Diorama.Proofs.Programs
import Diorama.Proofs.Run

/-!
# Two programs in lockstep

What two programs have in common whatever others do while they wait. They go in lockstep (`Progress.Lockstep`)
if they come to their waits together, in sessions that are related, and end together, in related sessions and
with the same result; where the relation is one that others do not break by doing the same to both
(`Session.Coupling`). Then the same turns of others bring both to related sessions
(`Progress.Lockstep.under`).

A program that is resumed is handed any session; so lockstep asks that it goes on in lockstep from all
sessions that are related, not only from those that the waits before can have led to.

The relation this is used for is that the sessions are alike: every program but those of the animation clock
goes in lockstep with itself from such sessions (`Script.parallels`).
-/

namespace Diorama

/-! ## Coupled programs -/

/-- A relation of sessions that others keep by doing the same to both, and by which the same movie is waited
for, with the same outcome. -/
structure Session.Coupling (R : Session → Session → Prop) : Prop where
  suffer : ∀ {session twin} act, R session twin → R (session.suffer act) (twin.suffer act)
  gate : ∀ {session twin}, R session twin → twin.gate = session.gate
  answered : ∀ {session twin} gate, R session twin → R { session with gate } { twin with gate }

namespace Progress

variable {α β : Type} {R : Session → Session → Prop}

/-- Both programs wait, or both have ended, with the same result; and if they wait, they go on in lockstep. -/
def Lockstep (R : Session → Session → Prop) : Progress α → Progress α → Prop
  | .done session result, .done twin result' => R session twin ∧ result' = result
  | .waiting session resume, .waiting twin resume' => R session twin ∧
      ∀ later later' outcome, R later later' → (resume later outcome).Lockstep R (resume' later' outcome)
  | _, _ => False

/-- Where two programs stand that go in lockstep. -/
theorem Lockstep.session {progress twin : Progress α} (h : progress.Lockstep R twin) :
    R progress.session twin.session := by
  cases progress with
  | done session result =>
    cases twin with
    | done session' result' => exact h.1
    | waiting session' resume' => exact h.elim
  | waiting session resume =>
    cases twin with
    | done session' result' => exact h.elim
    | waiting session' resume' => exact h.1

/-- A program that has ended goes in lockstep only with one that has ended. -/
theorem Lockstep.of_done {session : Session} {result : α} {twin : Progress α}
    (h : (done session result).Lockstep R twin) :
    ∃ session', twin = .done session' result ∧ R session session' := by
  cases twin with
  | done session' result' =>
    obtain ⟨related, rfl⟩ := h
    exact ⟨session', rfl, related⟩
  | waiting session' resume' => exact h.elim

/-- Two programs and then two others: the others take up where the first two have ended. -/
theorem Lockstep.bind {progress twin : Progress α} {next next' : Session → α → Progress β}
    (h : progress.Lockstep R twin)
    (onward : ∀ later later' value, R later later' → (next later value).Lockstep R (next' later' value)) :
    (progress.bind next).Lockstep R (twin.bind next') := by
  induction progress generalizing twin with
  | done session result =>
    obtain ⟨session', rfl, related⟩ := h.of_done
    exact onward session session' result related
  | waiting session resume ih =>
    cases twin with
    | done session' result' => exact h.elim
    | waiting session' resume' =>
      obtain ⟨related, goesOn⟩ := h
      refine ⟨related, fun later later' outcome related => ?_⟩
      exact ih later outcome (goesOn later later' outcome related)

/-- The same turns of others keep two programs in lockstep. -/
theorem Lockstep.under (coupling : Session.Coupling R) {progress twin : Progress α}
    (h : progress.Lockstep R twin) (turns : List (List Outside)) :
    (progress.under turns).Lockstep R (twin.under turns) := by
  have suffers (acts : List Outside) {session twin : Session} (related : R session twin) :
      R (acts.foldl Session.suffer session) (acts.foldl Session.suffer twin) := by
    induction acts generalizing session twin with
    | nil => exact related
    | cons act rest ih => exact ih (coupling.suffer act related)
  induction turns generalizing progress twin with
  | nil => rwa [under_nil, under_nil]
  | cons acts turns ih =>
    cases progress with
    | done session result =>
      obtain ⟨session', rfl, related⟩ := h.of_done
      exact ⟨related, rfl⟩
    | waiting session resume =>
      cases twin with
      | done session' result' => exact h.elim
      | waiting session' resume' =>
        obtain ⟨related, goesOn⟩ := h
        have later := suffers acts related
        have same := coupling.gate later
        unfold Progress.under
        dsimp only
        rw [same]
        split
        next outcome gate answered => exact ih (goesOn _ _ outcome (coupling.answered gate later))
        next => exact ih ⟨later, goesOn⟩

end Progress

/-! ## Sessions that are alike

Every program but those of the animation clock goes in lockstep with itself from sessions that have the same
essence (`Script.parallels`): it waits for the same movies, and ends with the same result, in sessions that have
the same essence again. What the display was shown, what was recorded, and what the player was asked for makes
no difference to what scripts do. -/

/-- What others do, and the end of a wait, make of sessions that are alike sessions that are. -/
theorem Session.alike_coupling : Session.Coupling Session.Alike where
  suffer act alike := (Session.essential_suffer act).alike alike
  gate alike := congrArg (·.gate) alike
  answered gate alike := by
    have answers : Session.Essential fun session => { session with gate } :=
      ⟨fun essence => { essence with gate }, fun _ => rfl⟩
    exact answers.alike alike

namespace Script

variable {α β : Type}

/-- From sessions that are alike the program goes in lockstep. -/
def Parallels (script : Script α) : Prop :=
  ∀ session twin : Session, session.Alike twin → (script session).Lockstep Session.Alike (script twin)

/-- A change that goes by the essence makes the same of sessions that are alike. -/
theorem Parallels.modify {change : Session → Session} (h : Session.Essential change) :
    Parallels (modify change) :=
  fun _ _ alike => ⟨h.alike alike, rfl⟩

/-- Two programs one after the other go in lockstep if both do. -/
theorem Parallels.bind {script : Script α} {next : α → Script β} (h : Parallels script)
    (h' : ∀ value, Parallels (next value)) : Parallels (script >>= next) := by
  refine fun session twin alike => (h session twin alike).bind fun later later' result alike => ?_
  cases result with
  | ok value => exact h' value later later' alike
  | error error => exact ⟨alike, rfl⟩

/-- What ends in lockstep is gone on from in lockstep. -/
theorem Parallels.attempt_bind {script : Script α} {next : Except ScriptError α → Script β}
    {session twin : Session} (h : (script session).Lockstep Session.Alike (script twin))
    (h' : ∀ result, Parallels (next result)) :
    ((attempt script >>= next) session).Lockstep Session.Alike ((attempt script >>= next) twin) := by
  have attempted : (attempt script session).Lockstep Session.Alike (attempt script twin) :=
    h.bind fun _ _ _ alike => ⟨alike, rfl⟩
  refine attempted.bind fun later later' result alike => ?_
  cases result with
  | ok result => exact h' result later later' alike
  | error error => exact ⟨alike, rfl⟩

/-- Going in lockstep is closed under putting programs together. -/
theorem parallels_composes : Composes Parallels where
  pure _ _ _ alike := ⟨alike, rfl⟩
  fail _ _ _ alike := ⟨alike, rfl⟩
  reads {_ next} same h := by
    intro session twin alike
    have alike' : twin.essence = session.essence := alike
    have both : next twin = next session := by rw [← same twin, alike', same]
    rw [get_bind, get_bind, both]
    exact h session session twin alike
  bind := .bind
  attempt h session twin alike := (h session twin alike).bind fun _ _ _ alike => ⟨alike, rfl⟩
  minor h := .modify h.essential

/-- The same movie is waited for, and the same outcome answers both. -/
theorem awaitMovie_parallels : Parallels awaitMovie := by
  intro session twin alike
  have same : twin.gate = session.gate := Session.alike_coupling.gate alike
  unfold awaitMovie
  rw [same]
  cases session.gate.wait? with
  | some answer => exact ⟨Session.alike_coupling.answered answer.2 alike, rfl⟩
  | none => exact ⟨alike, fun _ _ _ alike => ⟨alike, rfl⟩⟩

/-- What is set for a time is set without a look at anything else. -/
theorem parallels_stepwise : Stepwise Parallels where
  toComposes := parallels_composes
  begins command h := by
    refine parallels_composes.reads (fun _ => rfl) fun session => ?_
    split
    · exact parallels_composes.pure _
    · exact .bind (.modify (.of_unseen fun _ => rfl)) fun _ => h
  arms code := .modify ⟨fun essence => { essence with gate := essence.gate.arm code }, fun _ => rfl⟩
  awaited code := .modify (.of_unseen fun _ => rfl)
  starts media := .modify (Session.essential_startMedia media true)
  waits := awaitMovie_parallels
  answered code outcome := .modify (.of_unseen fun _ => rfl)
  covers := .modify
    ⟨fun essence => { essence with inScreenUpdate := true, updatesEnabled := false }, fun _ => rfl⟩
  uncovers before := .modify
    ⟨fun essence => { essence with inScreenUpdate := false, updatesEnabled := before }, fun _ => rfl⟩
  leaving running := .modify ⟨fun essence => { essence with inLeave := running }, fun _ => rfl⟩
  fails label error := .modify (Session.essential_scriptFailed label error)

/-- Every program that does not look at the clock's part of a session. -/
theorem parallels : Law Parallels :=
  parallels_stepwise.law

end Script

end Diorama
