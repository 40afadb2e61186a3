import Diorama.Proofs.Run

/-!
# What programs do, whatever others do meanwhile

The rules by which something is proved of a program. `Progress.Sat waits ends` says of a program, as far
as it has come, that `ends` holds of the session and the result with which it ends, and `waits` of every
session in which it waits for a movie, whatever others do to the stage while it waits. It recurses on the
program, so a rule for each way of putting programs together is all there is to it; `Progress.Sat.leads`
says that what is proved by the rules holds of everything the program can come to.

`Script.Does R` is the special case for things that hold of every step: wherever a program stands, it is
related by `R` to where it began. A relation is `Script.Lasting` if it can be carried through a run: it is
a preorder and others do not break it.
-/

namespace Diorama

variable {α β : Type}

namespace Progress

variable {waits waits' : Session → Prop} {ends ends' : Session → α → Prop}

/-- What holds whenever the program waits, and when it ends. -/
def Sat (waits : Session → Prop) (ends : Session → α → Prop) : Progress α → Prop
  | .done session result => ends session result
  | .waiting session resume => ∀ later, session.Meanwhile later → waits later ∧
      ∀ outcome gate, later.gate.wait? = some (outcome, gate) →
        (resume { later with gate } outcome).Sat waits ends

/-- What holds of every session and result holds of a program. -/
theorem Sat.of_forall {progress : Progress α} (whileWaiting : ∀ session, waits session)
    (atEnd : ∀ session result, ends session result) : progress.Sat waits ends := by
  induction progress with
  | done session result => exact atEnd session result
  | waiting session resume ih =>
    exact fun later _ => ⟨whileWaiting later, fun _ _ _ => ih _ _⟩

/-- Less may be asked of the waits and of the end. -/
theorem Sat.mono {progress : Progress α} (h : progress.Sat waits ends)
    (whileWaiting : ∀ session, waits session → waits' session)
    (atEnd : ∀ session result, ends session result → ends' session result) :
    progress.Sat waits' ends' := by
  induction progress with
  | done session result => exact atEnd session result h
  | waiting session resume ih =>
    intro later meanwhile
    obtain ⟨here, onward⟩ := h later meanwhile
    exact ⟨whileWaiting later here,
      fun outcome gate answered => ih _ outcome (onward outcome gate answered)⟩

/-- Less may be asked of the end. -/
theorem Sat.imp {progress : Progress α} (h : progress.Sat waits ends)
    (atEnd : ∀ session result, ends session result → ends' session result) : progress.Sat waits ends' :=
  h.mono (fun _ => id) atEnd

/-- What holds of one program and then another holds of the first with what follows from the second at its end. -/
theorem sat_bind {progress : Progress α} {next : Session → α → Progress β}
    {ends : Session → β → Prop} :
    (progress.bind next).Sat waits ends
      ↔ progress.Sat waits fun session result => (next session result).Sat waits ends := by
  induction progress with
  | done session result => exact Iff.rfl
  | waiting session resume ih =>
    constructor
    · intro h later meanwhile
      obtain ⟨here, onward⟩ := h later meanwhile
      exact ⟨here, fun outcome gate answered =>
        (ih _ outcome).mp (onward outcome gate answered)⟩
    · intro h later meanwhile
      obtain ⟨here, onward⟩ := h later meanwhile
      exact ⟨here, fun outcome gate answered =>
        (ih _ outcome).mpr (onward outcome gate answered)⟩

/-- Two things that hold of a program hold of it together. -/
theorem Sat.and {progress : Progress α} (h : progress.Sat waits ends)
    (h' : progress.Sat waits' ends') :
    progress.Sat (fun session => waits session ∧ waits' session)
      fun session result => ends session result ∧ ends' session result := by
  induction progress with
  | done session result => exact ⟨h, h'⟩
  | waiting session resume ih =>
    intro later meanwhile
    obtain ⟨here, onward⟩ := h later meanwhile
    obtain ⟨here', onward'⟩ := h' later meanwhile
    exact ⟨⟨here, here'⟩, fun outcome gate answered =>
      ih _ outcome (onward outcome gate answered) (onward' outcome gate answered)⟩

/-- What holds of a program holds one step further. -/
private theorem Sat.next {progress further : Progress α} (h : progress.Sat waits ends)
    (step : progress.Next further) : further.Sat waits ends := by
  cases step with
  | outside session resume act =>
    exact fun later meanwhile => h later (.head ⟨act, rfl⟩ meanwhile)
  | answer answered resume => exact (h _ .refl).2 _ _ answered

/-- What is proved by the rules holds of everything the program can come to. -/
theorem Sat.leads {progress further : Progress α} (h : progress.Sat waits ends)
    (leads : progress.Leads further) : further.Sat waits ends := by
  induction leads with
  | refl => exact h
  | tail _ step ih => exact ih.next step

/-- So what is asked of the end holds of every end that the program can come to. -/
theorem Sat.of_leads_done {progress : Progress α} {session : Session} {result : α}
    (h : progress.Sat waits ends) (leads : progress.Leads (.done session result)) :
    ends session result :=
  h.leads leads

/-- While a program waits it is led on by what others do. -/
private theorem Leads.of_meanwhile {session later : Session} (meanwhile : session.Meanwhile later)
    (resume : Session → GateOutcome → Progress α) :
    (waiting session resume).Leads (waiting later resume) := by
  induction meanwhile with
  | refl => exact .refl
  | tail _ step before =>
    obtain ⟨act, rfl⟩ := step
    exact .tail before (.outside _ resume act)

/-- What a program ends with is something that it leads to. -/
theorem sat_leads (progress : Progress α) :
    progress.Sat (fun _ => True) fun session result => progress.Leads (.done session result) := by
  induction progress with
  | done session result => exact Relation.ReflTransGen.refl
  | waiting session resume ih =>
    refine fun later meanwhile => ⟨trivial, fun outcome gate answered => ?_⟩
    have reached := (Leads.of_meanwhile meanwhile resume).tail (.answer answered resume)
    exact (ih _ outcome).imp fun _ _ => reached.trans

/-- What holds while waiting and at the end holds wherever the program stands. -/
theorem Sat.now {holds : Session → Prop} {progress : Progress α}
    (h : progress.Sat holds fun session _ => holds session) : holds progress.session := by
  cases progress with
  | done session result => exact h
  | waiting session resume => exact (h session .refl).1

end Progress

namespace Script

variable {waits : Session → Prop}

/-! ## The rules -/

/-- A program that looks at the session goes on in the same one. -/
theorem get_bind (next : Session → Script β) (session : Session) :
    (get >>= next) session = next session session :=
  rfl

/-- A program that changes the session goes on in the changed one. -/
theorem modify_bind (change : Session → Session) (next : Unit → Script β) (session : Session) :
    (modify change >>= next) session = next () (change session) :=
  rfl

/-- A value that is there already is returned. -/
theorem lift_ok (value : α) (session : Session) : lift (.ok value) session = .done session (.ok value) :=
  rfl

/-- An error that is there already ends the program. -/
theorem lift_error (error : ScriptError) (session : Session) :
    (lift (.error error) : Script α) session = .done session (.error error) :=
  rfl

/-- A program that fails at once is all there is to what it begins. -/
theorem bind_of_error {script : Script α} {session later : Session} {error : ScriptError}
    (failed : script session = .done later (.error error)) (next : α → Script β) :
    (script >>= next) session = .done later (.error error) := by
  change (script session).bind _ = _
  rw [failed]
  rfl

/-- What a program gives at once is gone on with. -/
theorem bind_of_ok {script : Script α} {session later : Session} {value : α}
    (ended : script session = .done later (.ok value)) (next : α → Script β) :
    (script >>= next) session = next value later := by
  change (script session).bind _ = _
  rw [ended]
  rfl

/-- A program whose error is looked at, and that ends at once. -/
theorem attempt_bind_of_done {script : Script α} {session later : Session} {result : Except ScriptError α}
    (ended : script session = .done later result) (next : Except ScriptError α → Script β) :
    (attempt script >>= next) session = next result later := by
  change ((script session).bind _).bind _ = _
  rw [ended]
  rfl

section Rules

variable {ends : Session → Except ScriptError α → Prop} {session : Session}

/-- One program and then another: the second takes up where the first has ended well. -/
theorem sat_bind {script : Script α} {next : α → Script β}
    {ends : Session → Except ScriptError β → Prop} :
    ((script >>= next) session).Sat waits ends ↔ (script session).Sat waits fun session result =>
      match result with
      | .ok value => (next value session).Sat waits ends
      | .error error => ends session (.error error) := by
  refine Progress.sat_bind.trans (iff_of_eq (congrArg (Progress.Sat waits · (script session)) ?_))
  funext session result
  cases result <;> rfl

/-- A result that is there already is the end. -/
theorem sat_lift {value : Except ScriptError α} :
    (lift value session).Sat waits ends ↔ ends session value := by
  cases value <;> rfl

/-- A change of the session never waits and never fails. -/
theorem sat_modify {change : Session → Session} {ends : Session → Except ScriptError Unit → Prop} :
    (modify change session).Sat waits ends ↔ ends (change session) (.ok ()) :=
  Iff.rfl

/-- An attempt ends with the result of the program as its value. -/
theorem sat_attempt {script : Script α}
    {ends : Session → Except ScriptError (Except ScriptError α) → Prop} :
    (attempt script session).Sat waits ends
      ↔ (script session).Sat waits fun session result => ends session (.ok result) :=
  Progress.sat_bind

/-- The second program begins wherever the first may have ended well. -/
theorem sat_bind_of {script : Script α} {next : α → Script β}
    {middle : Session → Except ScriptError α → Prop} {ends : Session → Except ScriptError β → Prop}
    (first : (script session).Sat waits middle)
    (ok : ∀ later value, middle later (.ok value) → (next value later).Sat waits ends)
    (error : ∀ later cause, middle later (.error cause) → ends later (.error cause)) :
    ((script >>= next) session).Sat waits ends := by
  rw [sat_bind]
  refine first.imp fun later result reached => ?_
  cases result with
  | ok value => exact ok later value reached
  | error cause => exact error later cause reached

/-- The second program begins wherever the first may have ended, if that never fails. -/
theorem sat_bind_ok {script : Script α} {next : α → Script β} {middle : Session → α → Prop}
    {ends : Session → Except ScriptError β → Prop}
    (first : (script session).Sat waits fun later result => ∃ value, result = .ok value ∧ middle later value)
    (onward : ∀ later value, middle later value → (next value later).Sat waits ends) :
    ((script >>= next) session).Sat waits ends := by
  refine sat_bind_of first ?_ ?_
  · rintro later value ⟨_, same, reached⟩
    cases same
    exact onward later value reached
  · rintro later error ⟨_, never, -⟩
    cases never

/-- A program whose error is looked at goes on in any case. -/
theorem sat_attempt_bind_of {script : Script α} {next : Except ScriptError α → Script β}
    {middle : Session → Except ScriptError α → Prop} {ends : Session → Except ScriptError β → Prop}
    (first : (script session).Sat waits middle)
    (onward : ∀ later result, middle later result → (next result later).Sat waits ends) :
    ((attempt script >>= next) session).Sat waits ends := by
  rw [sat_bind, sat_attempt]
  exact first.imp onward

end Rules

/-! ## What every step does -/

/-- A relation that can be carried through a run: a preorder that others do not break. -/
structure Lasting (R : Session → Session → Prop) : Prop where
  refl : ∀ session, R session session
  trans : ∀ {session between later}, R session between → R between later → R session later
  suffer : ∀ session act, R session (session.suffer act)
  answered : ∀ {session : Session} {outcome gate},
    session.gate.wait? = some (outcome, gate) → R session { session with gate }

/-- Wherever the program stands, `R` relates where it began to it. -/
def Does (R : Session → Session → Prop) (script : Script α) : Prop :=
  ∀ session, (script session).Sat (R session) fun later _ => R session later

/-- The program ends with a value whenever it ends. -/
def Unfailing (script : Script α) : Prop :=
  ∀ session, (script session).Sat (fun _ => True) fun _ result => ∃ value, result = .ok value

section Does

variable {R : Session → Session → Prop} {script : Script α} {next : α → Script β}

/-- What others do one after the other can be carried along with the rest. -/
theorem Lasting.meanwhile (lasting : Lasting R) {session later : Session}
    (meanwhile : session.Meanwhile later) : R session later := by
  induction meanwhile with
  | refl => exact lasting.refl session
  | tail _ step before =>
    obtain ⟨act, rfl⟩ := step
    exact lasting.trans before (lasting.suffer _ act)

/-- Two things that last, last together. -/
theorem Lasting.and {S : Session → Session → Prop} (h : Lasting R) (h' : Lasting S) :
    Lasting fun session later => R session later ∧ S session later where
  refl session := ⟨h.refl session, h'.refl session⟩
  trans := fun a b => ⟨h.trans a.1 b.1, h'.trans a.2 b.2⟩
  suffer session act := ⟨h.suffer session act, h'.suffer session act⟩
  answered := fun answered => ⟨h.answered answered, h'.answered answered⟩

/-- A step that is taken later is counted from the beginning. -/
theorem Does.onward (h : Does R script) (lasting : Lasting R) {first session : Session}
    (before : R first session) : (script session).Sat (R first) fun later _ => R first later :=
  (h session).mono (fun _ => lasting.trans before) (fun _ _ => lasting.trans before)

/-- Less may be asked of every step. -/
theorem Does.mono {S : Session → Session → Prop} (h : Does R script)
    (weaker : ∀ {session later}, R session later → S session later) : Does S script :=
  fun session => (h session).mono (fun _ => weaker) fun _ _ => weaker

/-- To return a value is no step. -/
theorem Does.pure (lasting : Lasting R) (value : α) : Does R (Pure.pure value : Script α) :=
  lasting.refl

/-- To look at the session is no step. -/
theorem Does.get (lasting : Lasting R) : Does R get :=
  lasting.refl

/-- To fail is no step. -/
theorem Does.fail (lasting : Lasting R) (error : ScriptError) : Does R (fail error : Script α) :=
  lasting.refl

/-- Neither is to return or to fail as a result says. -/
theorem Does.lift (lasting : Lasting R) (value : Except ScriptError α) : Does R (lift value) :=
  fun session => sat_lift.mpr (lasting.refl session)

/-- A change of the session is one step. -/
theorem Does.modify {change : Session → Session} (h : ∀ session, R session (change session)) :
    Does R (modify change) :=
  h

/-- The steps of two programs are put one after the other. -/
theorem Does.bind (lasting : Lasting R) (h : Does R script) (h' : ∀ value, Does R (next value)) :
    Does R (script >>= next) := by
  intro session
  rw [sat_bind]
  refine (h session).imp fun later result before => ?_
  cases result with
  | ok value => exact (h' value).onward lasting before
  | error error => exact before

theorem Does.ite {other : Script α} {condition : Prop} [Decidable condition] (h : Does R script)
    (h' : Does R other) : Does R (if condition then script else other) := by
  split
  · exact h
  · exact h'

/-- An error that is caught does not undo the steps before it. -/
theorem Does.attempt (h : Does R script) : Does R (attempt script) :=
  fun session => sat_attempt.mpr (h session)

/-- A wait is the steps of others and then the answer of the gate. -/
theorem Does.awaitMovie (lasting : Lasting R) : Does R awaitMovie := by
  intro session
  unfold Script.awaitMovie
  split
  next answered => exact lasting.answered answered
  next =>
    intro later meanwhile
    have before := lasting.meanwhile meanwhile
    exact ⟨before, fun _ _ answered => lasting.trans before (lasting.answered answered)⟩

end Does

/-! ## Programs that never fail -/

section Unfailing

variable {script : Script α} {next : α → Script β}

theorem Unfailing.pure (value : α) : Unfailing (Pure.pure value : Script α) :=
  fun _ => ⟨value, rfl⟩

theorem Unfailing.get : Unfailing get :=
  fun session => ⟨session, rfl⟩

theorem Unfailing.modify (change : Session → Session) : Unfailing (modify change) :=
  fun _ => ⟨(), rfl⟩

theorem Unfailing.attempt (script : Script α) : Unfailing (attempt script) :=
  fun _ => sat_attempt.mpr (.of_forall (fun _ => trivial) fun _ result => ⟨result, rfl⟩)

/-- Programs that never fail can be put one after the other. -/
theorem Unfailing.bind (h : Unfailing script) (h' : ∀ value, Unfailing (next value)) :
    Unfailing (script >>= next) := by
  intro session
  rw [sat_bind]
  refine (h session).imp fun later result ends => ?_
  obtain ⟨value, rfl⟩ := ends
  exact h' value later

/-- Every wait ends with an outcome; an abort is one. -/
theorem Unfailing.awaitMovie : Unfailing awaitMovie := by
  intro session
  unfold Script.awaitMovie
  split
  next outcome gate _ => exact ⟨outcome, rfl⟩
  next => exact fun _ _ => ⟨trivial, fun outcome _ _ => ⟨outcome, rfl⟩⟩

/-- What never fails is gone on from wherever it ends. -/
theorem Unfailing.sat_bind {waits : Session → Prop} {ends : Session → Except ScriptError β → Prop}
    {middle : Session → Prop} {session : Session} (h : Unfailing script)
    (first : (script session).Sat waits fun later _ => middle later)
    (onward : ∀ later value, middle later → (next value later).Sat waits ends) :
    ((script >>= next) session).Sat waits ends := by
  have never := (first.and (h session)).mono (fun _ both => both.1) fun _ _ => id
  refine sat_bind_of never (fun later value both => onward later value both.1) ?_
  rintro later error ⟨-, value, same⟩
  cases same

end Unfailing

end Script

end Diorama
