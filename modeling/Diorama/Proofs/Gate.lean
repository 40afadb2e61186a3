import Diorama.Media
import Diorama.Proofs.History

/-!
# An outcome goes through a gate once

A gate is armed, told of outcomes, aborted and waited at by different parties, in any order: reports come early,
late, twice or for another movie, and an abort may come at any time. What has happened at a gate since it was new is
a history of `MovieGate.Turns`: any calls, each with its answer, except that nobody waits where waiting would block.

The law reads every answer off the calls before it, and never off the gate. What matters are the calls since
the gate was last armed with nobody waiting among them (`OpenFor`): a report is accepted if the gate is open for
it and none of these calls was accepted; a wait gives back the one that was, unless there has been an abort. So an
acceptance belongs to one arming and to one wait, and no outcome is given out twice (`MovieGate.delivers_once`).

The gate itself keeps three things that can disagree: after an abort it may be disarmed and still hold an outcome.
`MovieGate.Recalls` is what they mean in terms of the past, and is kept by every call; the law follows from it.
-/

namespace Diorama

/-- A call of a gate, with its answer. -/
inductive GateEvent where
  | arm (code : UInt16)
  | complete (code : UInt16) (accepted : Bool)
  | skip (accepted : Bool)
  | abort
  | wait (outcome : GateOutcome)
  deriving DecidableEq, Repr

namespace GateEvent

/-- The outcome that was accepted in a call, if one was. -/
def accepted? : GateEvent → Option GateOutcome
  | .complete _ true => some .completed
  | .skip true => some .skipped
  | _ => none

/-- Whether a call begins or ends what the gate is open for. -/
def isBoundary : GateEvent → Bool
  | .arm _ | .wait _ => true
  | _ => false

end GateEvent

/-- Whether a call makes one gate into another, with this answer. -/
def MovieGate.Turns (gate : MovieGate) (event : GateEvent) (later : MovieGate) : Prop :=
  match event with
  | .arm code => later = gate.arm code
  | .complete code accepted => gate.complete code = (accepted, later)
  | .skip accepted => gate.skip = (accepted, later)
  | .abort => later = gate.abort
  | .wait outcome => gate.wait? = some (outcome, later)

/-- The gate was last armed with a code, these calls came after that, and nobody has waited among them. -/
def OpenFor (past : List GateEvent) (code : UInt16) (since : List GateEvent) : Prop :=
  ∃ before, past = before ++ .arm code :: since ∧ ∀ event ∈ since, event.isBoundary = false

/-- The gate is open for a code, and no outcome has been accepted since it was armed. -/
def Unanswered (past : List GateEvent) (code : UInt16) : Prop :=
  ∃ since, OpenFor past code since ∧ since.filterMap GateEvent.accepted? = []

/-- The gate is open, and this is the one outcome that has been accepted since it was armed. -/
def AnsweredBy (past : List GateEvent) (outcome : GateOutcome) : Prop :=
  ∃ code since, OpenFor past code since ∧ since.filterMap GateEvent.accepted? = [outcome]

/-! ## What the gate is open for -/

namespace OpenFor

variable {past since : List GateEvent} {code : UInt16}

/-- The last call either armed the gate, or is one more since it was armed. -/
theorem concat_iff {event : GateEvent} :
    OpenFor (past ++ [event]) code since ↔ event = .arm code ∧ since = [] ∨
      event.isBoundary = false ∧ ∃ front, since = front ++ [event] ∧ OpenFor past code front := by
  constructor
  · intro ⟨before, split, inner⟩
    rcases concat_eq_append_cons_iff.mp split with ⟨rfl, -, rfl⟩ | ⟨front, rfl, earlier⟩
    · exact .inl ⟨rfl, rfl⟩
    · refine .inr ⟨inner event (by simp), front, rfl, before, earlier, ?_⟩
      intro other among
      exact inner other (List.mem_append_left _ among)
  · rintro (⟨rfl, rfl⟩ | ⟨inside, front, rfl, before, rfl, inner⟩)
    · exact ⟨past, rfl, by simp⟩
    · refine ⟨before, by simp, ?_⟩
      intro other among
      rcases List.mem_append.mp among with among | among
      · exact inner other among
      · rw [List.mem_singleton.mp among]
        exact inside

/-- Just after arming the gate is open for the movie that it was armed for. -/
theorem concat_arm_iff {armed : UInt16} :
    OpenFor (past ++ [.arm armed]) code since ↔ code = armed ∧ since = [] := by
  simp [concat_iff, GateEvent.isBoundary, eq_comm]

/-- After a wait the gate is open for nothing. -/
theorem not_concat_wait {outcome : GateOutcome} : ¬ OpenFor (past ++ [.wait outcome]) code since := by
  simp [concat_iff, GateEvent.isBoundary]

/-- What is neither an arming nor a wait adds to what has happened since. -/
theorem concat_inside_iff {event : GateEvent} (inside : event.isBoundary = false) :
    OpenFor (past ++ [event]) code since ↔ ∃ front, since = front ++ [event] ∧ OpenFor past code front := by
  have unarmed : event ≠ .arm code := by
    rintro rfl
    cases inside
  simp [concat_iff, inside, unarmed]

/-- So it does not change whether the gate is open. -/
theorem exists_concat_inside_iff {event : GateEvent} (inside : event.isBoundary = false) :
    (∃ since, OpenFor (past ++ [event]) code since) ↔ ∃ since, OpenFor past code since := by
  simp only [concat_inside_iff inside]
  constructor
  · intro ⟨_, front, _, opened⟩
    exact ⟨front, opened⟩
  · intro ⟨front, opened⟩
    exact ⟨_, front, rfl, opened⟩

/-- The gate was armed either among the last few calls or before them all. -/
theorem of_append {between : List GateEvent} (opened : OpenFor (past ++ between) code since) :
    (∃ front, between = front ++ .arm code :: since) ∨
      ∃ front, since = front ++ between ∧ OpenFor past code front := by
  obtain ⟨before, split, inner⟩ := opened
  rcases List.append_eq_append_iff.mp split with ⟨front, -, rest⟩ | ⟨front, whole, rest⟩
  · exact .inl ⟨front, rest⟩
  · cases front with
    | nil => exact .inl ⟨[], rest.symm⟩
    | cons armed front =>
      rw [List.cons_append] at rest
      obtain ⟨rfl, rfl⟩ := List.cons_eq_cons.mp rest
      refine .inr ⟨front, rfl, before, whole, ?_⟩
      intro event among
      exact inner event (List.mem_append_left _ among)

end OpenFor

/-! ## What the gate recalls -/

/-- What the gate holds, read off its past. -/
structure MovieGate.Recalls (gate : MovieGate) (past : List GateEvent) : Prop where
  aborted : gate.aborted = true ↔ .abort ∈ past
  waiting : ∀ code, gate.waiting = some code ↔ ∃ since, OpenFor past code since
  outcome : ∀ code since, OpenFor past code since → since.filterMap GateEvent.accepted? = gate.outcome.toList
  /-- Only an abort leaves an outcome in a gate that is not armed. -/
  empty : gate.aborted = false → gate.waiting = none → gate.outcome = none

namespace MovieGate

variable {gate later : MovieGate} {past : List GateEvent}

/-- A report is accepted if the gate waits for it and has no outcome, and changes nothing otherwise. -/
theorem accept_eq_iff {fits : UInt16 → Bool} {outcome : GateOutcome} {accepted : Bool} :
    gate.accept fits outcome = (accepted, later) ↔
      (accepted = true ↔ (∃ code, gate.waiting = some code ∧ fits code = true) ∧ gate.outcome = none) ∧
        later = if accepted then { gate with outcome := some outcome } else gate := by
  unfold accept
  have open_iff : (gate.waiting.any fits && gate.outcome.isNone) = true ↔
      (∃ code, gate.waiting = some code ∧ fits code = true) ∧ gate.outcome = none := by
    simp [Option.any_eq_true]
  rw [← open_iff]
  split
  next opened => cases accepted <;> simp [opened, eq_comm]
  next closed => cases accepted <;> simp [closed, eq_comm]

/-- A wait ends aborted and leaves the outcome where it is, or takes the outcome away. -/
theorem wait?_eq_some_iff {outcome : GateOutcome} : gate.wait? = some (outcome, later) ↔
    gate.aborted = true ∧ outcome = .aborted ∧ later = { gate with waiting := none } ∨
      gate.aborted = false ∧ gate.outcome = some outcome ∧ later = { gate with waiting := none, outcome := none } := by
  unfold wait?
  cases aborted : gate.aborted with
  | true => simp [eq_comm]
  | false => cases answer : gate.outcome <;> simp [eq_comm]

/-- A wait blocks while there is no outcome and no abort. -/
theorem wait?_eq_none_iff : gate.wait? = none ↔ gate.aborted = false ∧ gate.outcome = none := by
  unfold wait?
  cases aborted : gate.aborted with
  | true => simp
  | false => cases answer : gate.outcome <;> simp

namespace Recalls

/-- A new gate has nothing to recall. -/
theorem new : Recalls {} [] where
  aborted := by simp
  waiting := by simp [OpenFor]
  outcome := by simp [OpenFor]
  empty := by simp

/-- Arming begins anew, except that an abort is for good. -/
theorem arm (recalls : gate.Recalls past) (code : UInt16) : (gate.arm code).Recalls (past ++ [.arm code]) where
  aborted := by simp [MovieGate.arm, recalls.aborted]
  waiting other := by simp [MovieGate.arm, OpenFor.concat_arm_iff, eq_comm]
  outcome other since opened := by
    obtain ⟨-, rfl⟩ := OpenFor.concat_arm_iff.mp opened
    rfl
  empty _ disarmed := by simp [MovieGate.arm] at disarmed

/-- An abort is recalled whatever the gate is armed for. -/
theorem abort (recalls : gate.Recalls past) : gate.abort.Recalls (past ++ [.abort]) where
  aborted := by simp [MovieGate.abort]
  waiting code := by
    rw [OpenFor.exists_concat_inside_iff rfl]
    exact recalls.waiting code
  outcome code since opened := by
    obtain ⟨front, rfl, before⟩ := (OpenFor.concat_inside_iff rfl).mp opened
    rw [List.filterMap_append, recalls.outcome code front before]
    exact List.append_nil _
  empty untouched := by simp [MovieGate.abort] at untouched

/-- A report adds its outcome to those since the gate was armed, if it is accepted. -/
theorem accept {fits : UInt16 → Bool} {outcome : GateOutcome} {accepted : Bool} {event : GateEvent}
    (recalls : gate.Recalls past) (answer : gate.accept fits outcome = (accepted, later))
    (inside : event.isBoundary = false) (report : event ≠ .abort)
    (carries : event.accepted? = if accepted then some outcome else none) :
    later.Recalls (past ++ [event]) := by
  obtain ⟨accepts, rfl⟩ := accept_eq_iff.mp answer
  have aborted : gate.aborted = true ↔ .abort ∈ past ++ [event] := by simp [recalls.aborted, report.symm]
  have waiting (code : UInt16) : gate.waiting = some code ↔ ∃ since, OpenFor (past ++ [event]) code since := by
    rw [OpenFor.exists_concat_inside_iff inside]
    exact recalls.waiting code
  cases accepted with
  | false =>
    refine ⟨aborted, waiting, ?_, recalls.empty⟩
    intro code since opened
    obtain ⟨front, rfl, before⟩ := (OpenFor.concat_inside_iff inside).mp opened
    simpa [carries] using recalls.outcome code front before
  | true =>
    obtain ⟨⟨armed, waits, -⟩, unanswered⟩ := accepts.mp rfl
    refine ⟨aborted, waiting, ?_, ?_⟩
    · intro code since opened
      obtain ⟨front, rfl, before⟩ := (OpenFor.concat_inside_iff inside).mp opened
      rw [List.filterMap_append, recalls.outcome code front before, unanswered]
      simp [carries]
    · intro _ disarmed
      simp [waits] at disarmed

/-- A wait takes the outcome away, except that an abort is for good. -/
theorem wait {outcome : GateOutcome} (recalls : gate.Recalls past)
    (answer : gate.wait? = some (outcome, later)) : later.Recalls (past ++ [.wait outcome]) := by
  have ended := wait?_eq_some_iff.mp answer
  have aborted : later.aborted = gate.aborted := by
    rcases ended with ⟨-, -, rfl⟩ | ⟨-, -, rfl⟩ <;> rfl
  have disarmed : later.waiting = none := by
    rcases ended with ⟨-, -, rfl⟩ | ⟨-, -, rfl⟩ <;> rfl
  refine ⟨?_, ?_, ?_, ?_⟩
  · simp [aborted, recalls.aborted]
  · simp [disarmed, OpenFor.not_concat_wait]
  · intro code since opened
    exact absurd opened OpenFor.not_concat_wait
  · intro untouched _
    rcases ended with ⟨broken, -, -⟩ | ⟨-, -, rfl⟩
    · simp [aborted, broken] at untouched
    · rfl

/-- Every call keeps what the gate recalls. -/
theorem turns {event : GateEvent} (recalls : gate.Recalls past) (turns : gate.Turns event later) :
    later.Recalls (past ++ [event]) := by
  cases event with
  | arm code =>
    rw [show later = gate.arm code from turns]
    exact recalls.arm code
  | complete code accepted => exact recalls.accept turns rfl (by simp) (by cases accepted <;> rfl)
  | skip accepted => exact recalls.accept turns rfl (by simp) (by cases accepted <;> rfl)
  | abort =>
    rw [show later = gate.abort from turns]
    exact recalls.abort
  | wait outcome => exact recalls.wait turns

/-- After any history the gate recalls what the history says. -/
theorem of_history (lived : History Turns {} gate past) : gate.Recalls past := by
  induction lived with
  | nil => exact .new
  | concat _ turns recalls => exact recalls.turns turns

/-! ## The answers -/

/-- A report is accepted if the gate is open for a code that it fits, and has no answer yet. -/
theorem accepted_iff {fits : UInt16 → Bool} {outcome : GateOutcome} {accepted : Bool} (recalls : gate.Recalls past)
    (answer : gate.accept fits outcome = (accepted, later)) :
    accepted = true ↔ ∃ code, Unanswered past code ∧ fits code = true := by
  rw [(accept_eq_iff.mp answer).1]
  constructor
  · intro ⟨⟨code, waits, fit⟩, unanswered⟩
    obtain ⟨since, opened⟩ := (recalls.waiting code).mp waits
    refine ⟨code, ⟨since, opened, ?_⟩, fit⟩
    rw [recalls.outcome code since opened, unanswered]
    rfl
  · intro ⟨code, ⟨since, opened, nothing⟩, fit⟩
    refine ⟨⟨code, (recalls.waiting code).mpr ⟨since, opened⟩, fit⟩, ?_⟩
    rw [recalls.outcome code since opened] at nothing
    exact Option.toList_eq_nil_iff.mp nothing

/-- The end of a movie is accepted if the gate is open for it and has no answer yet. -/
theorem complete_iff {code : UInt16} {accepted : Bool} (recalls : gate.Recalls past)
    (answer : gate.complete code = (accepted, later)) : accepted = true ↔ Unanswered past code := by
  rw [recalls.accepted_iff answer]
  constructor
  · rintro ⟨armed, unanswered, same⟩
    rwa [← beq_iff_eq.mp same]
  · intro unanswered
    exact ⟨code, unanswered, beq_self_eq_true code⟩

/-- A skip is accepted if the gate is open for any movie and has no answer yet. -/
theorem skip_iff {accepted : Bool} (recalls : gate.Recalls past) (answer : gate.skip = (accepted, later)) :
    accepted = true ↔ ∃ code, Unanswered past code := by
  rw [recalls.accepted_iff answer]
  simp only [and_true]

/-- What is accepted is an answer to a gate that has none. -/
theorem exists_unanswered {event : GateEvent} {outcome : GateOutcome} (recalls : gate.Recalls past)
    (turns : gate.Turns event later) (accepted : event.accepted? = some outcome) :
    ∃ code, Unanswered past code := by
  cases event with
  | complete code answer =>
    cases answer with
    | false => cases accepted
    | true => exact ⟨code, (recalls.complete_iff turns).mp rfl⟩
  | skip answer =>
    cases answer with
    | false => cases accepted
    | true => exact (recalls.skip_iff turns).mp rfl
  | arm | abort | wait => cases accepted

/-- What the gate holds while there has been no abort is the answer that it has. -/
theorem answeredBy_iff {outcome : GateOutcome} (recalls : gate.Recalls past) (untouched : gate.aborted = false) :
    AnsweredBy past outcome ↔ gate.outcome = some outcome := by
  constructor
  · intro ⟨code, since, opened, answered⟩
    rw [recalls.outcome code since opened] at answered
    exact Option.toList_eq_singleton_iff.mp answered
  · intro answered
    cases waits : gate.waiting with
    | none =>
      rw [recalls.empty untouched waits] at answered
      cases answered
    | some code =>
      obtain ⟨since, opened⟩ := (recalls.waiting code).mp waits
      refine ⟨code, since, opened, ?_⟩
      rw [recalls.outcome code since opened, answered]
      rfl

/-- A wait ends aborted if there has been an abort, and otherwise with the answer that the gate has. -/
theorem waited {outcome : GateOutcome} (recalls : gate.Recalls past)
    (answer : gate.wait? = some (outcome, later)) :
    (.abort ∈ past → outcome = .aborted) ∧ (.abort ∉ past → AnsweredBy past outcome) := by
  rw [← recalls.aborted]
  rcases wait?_eq_some_iff.mp answer with ⟨aborted, rfl, -⟩ | ⟨untouched, answered, -⟩
  · exact ⟨fun _ => rfl, fun untouched => absurd aborted untouched⟩
  · refine ⟨?_, fun _ => (recalls.answeredBy_iff untouched).mpr answered⟩
    intro aborted
    rw [untouched] at aborted
    cases aborted

/-- A wait blocks as long as there has been no abort and the gate has no answer. -/
theorem blocks_iff (recalls : gate.Recalls past) :
    gate.wait? = none ↔ .abort ∉ past ∧ ∀ outcome, ¬ AnsweredBy past outcome := by
  rw [wait?_eq_none_iff, ← recalls.aborted, Bool.not_eq_true]
  apply and_congr_right
  intro untouched
  simp only [recalls.answeredBy_iff untouched, Option.eq_none_iff_forall_ne_some, ne_eq]

end Recalls

/-- As long as the gate is not armed again, no second outcome is accepted. -/
theorem accepted_once {between : List GateEvent} (lived : History Turns {} gate (past ++ between))
    (unarmed : ∀ code, .arm code ∉ between) : (between.filterMap GateEvent.accepted?).length ≤ 1 := by
  induction between using List.reverseRecOn generalizing gate with
  | nil => simp
  | append_singleton between event ih =>
    rw [← List.append_assoc] at lived
    obtain ⟨earlier, later, lived, turns⟩ := lived.split rfl
    have before : ∀ code, .arm code ∉ between := fun code among => unarmed code (List.mem_append_left _ among)
    rw [List.filterMap_append, List.length_append]
    cases accepted : event.accepted? with
    | none => simpa [accepted] using ih lived before
    | some outcome =>
      obtain ⟨code, since, opened, nothing⟩ := (Recalls.of_history lived).exists_unanswered turns accepted
      rcases opened.of_append with ⟨front, armed⟩ | ⟨front, rfl, -⟩
      · exact absurd (by simp [armed]) (before code)
      · rw [List.filterMap_append, List.append_eq_nil_iff] at nothing
        simp [nothing.2, accepted]

/-- The answer that a wait gives is one that was accepted after the last wait, and for another arming. -/
theorem answered_after_wait {between : List GateEvent} {first second : GateOutcome}
    (answered : AnsweredBy (past ++ .wait first :: between) second) :
    ∃ front code since, between = front ++ .arm code :: since ∧
      since.filterMap GateEvent.accepted? = [second] := by
  obtain ⟨code, since, opened, accepted⟩ := answered
  rw [List.append_cons] at opened
  rcases opened.of_append with ⟨front, armed⟩ | ⟨front, -, earlier⟩
  · exact ⟨front, code, since, armed, accepted⟩
  · exact absurd earlier OpenFor.not_concat_wait

/-- Whatever has happened at a gate: a completion was accepted exactly if the gate was last armed with its code,
nobody had waited since, and no outcome had been accepted since; a skip likewise, whatever the code. So between
two armings at most one of them was. A wait ended aborted if there had been an abort before it, and otherwise
with the one outcome that was accepted since the gate was last armed. The outcomes of two waits were accepted after
two armings, the later one of them after the first wait. A wait blocks as long as it has none of these to end
with. -/
theorem delivers_once (lived : History Turns {} gate past) :
    (∀ before code accepted after, past = before ++ .complete code accepted :: after →
      (accepted = true ↔ Unanswered before code)) ∧
    (∀ before accepted after, past = before ++ .skip accepted :: after →
      (accepted = true ↔ ∃ code, Unanswered before code)) ∧
    (∀ before between after, past = before ++ between ++ after → (∀ code, .arm code ∉ between) →
      (between.filterMap GateEvent.accepted?).length ≤ 1) ∧
    (∀ before outcome after, past = before ++ .wait outcome :: after →
      (.abort ∈ before → outcome = .aborted) ∧ (.abort ∉ before → AnsweredBy before outcome)) ∧
    (∀ before first between second after,
      past = before ++ .wait first :: (between ++ .wait second :: after) → .abort ∉ before ++ between →
      ∃ front code since, between = front ++ .arm code :: since ∧
        since.filterMap GateEvent.accepted? = [second]) ∧
    (gate.wait? = none ↔ .abort ∉ past ∧ ∀ outcome, ¬ AnsweredBy past outcome) := by
  refine ⟨?_, ?_, ?_, ?_, ?_, (Recalls.of_history lived).blocks_iff⟩
  · intro before code accepted after there
    obtain ⟨_, _, lived, turns⟩ := lived.split there
    exact (Recalls.of_history lived).complete_iff turns
  · intro before accepted after there
    obtain ⟨_, _, lived, turns⟩ := lived.split there
    exact (Recalls.of_history lived).skip_iff turns
  · intro before between after there unarmed
    rw [there] at lived
    obtain ⟨_, lived⟩ := lived.of_append
    exact accepted_once lived unarmed
  · intro before outcome after there
    obtain ⟨_, _, lived, turns⟩ := lived.split there
    exact (Recalls.of_history lived).waited turns
  · intro before first between second after there untouched
    rw [← List.cons_append, ← List.append_assoc] at there
    obtain ⟨_, _, lived, turns⟩ := lived.split there
    have still : .abort ∉ before ++ .wait first :: between := by simpa using untouched
    exact answered_after_wait (((Recalls.of_history lived).waited turns).2 still)

/-- A report for another movie, one in time and one too many; then a skip that an abort overtakes. -/
theorem delivers_once_overtaken : ∃ gate : MovieGate,
    History Turns {} gate [.arm 7, .complete 8 false, .complete 7 true, .skip false, .wait .completed, .arm 9,
      .skip true, .abort, .wait .aborted] ∧
    ¬ Unanswered [.arm 7] 8 ∧ Unanswered [.arm 7, .complete 8 false] 7 ∧
    (¬ ∃ code, Unanswered [.arm 7, .complete 8 false, .complete 7 true] code) ∧
    AnsweredBy [.arm 7, .complete 8 false, .complete 7 true, .skip false] .completed ∧
    gate.wait? ≠ none := by
  let armed : MovieGate := { waiting := some 7 }
  let answered : MovieGate := { armed with outcome := some .completed }
  let again : MovieGate := { waiting := some 9 }
  let skipped : MovieGate := { again with outcome := some .skipped }
  let broken : MovieGate := { skipped with aborted := true }
  have ended : History Turns {} answered _ := History.nil
    |>.concat (show Turns {} (.arm 7) armed from rfl)
    |>.concat (show Turns armed (.complete 8 false) armed from rfl)
    |>.concat (show Turns armed (.complete 7 true) answered from rfl)
    |>.concat (show Turns answered (.skip false) answered from rfl)
  have lived : History Turns {} { broken with waiting := none } _ := ended
    |>.concat (show Turns answered (.wait .completed) {} from rfl)
    |>.concat (show Turns {} (.arm 9) again from rfl)
    |>.concat (show Turns again (.skip true) skipped from rfl)
    |>.concat (show Turns skipped .abort broken from rfl)
    |>.concat (show Turns broken (.wait .aborted) _ from rfl)
  obtain ⟨completes, skips, -, waits, -, -⟩ := delivers_once lived
  refine ⟨_, lived, ?_, ?_, ?_, ?_, by decide⟩
  · exact fun unanswered => Bool.false_ne_true ((completes [.arm 7] 8 false _ rfl).mpr unanswered)
  · exact (completes [.arm 7, .complete 8 false] 7 true _ rfl).mp rfl
  · exact fun unanswered => Bool.false_ne_true ((skips _ false _ rfl).mpr unanswered)
  · exact (waits _ .completed _ rfl).2 (by decide)

end MovieGate

end Diorama
