import Mathlib.Data.List.Induction

/-!
# Histories

Something that changes in steps, with everything that has happened to it: each step with what came of it, the
oldest first. A law about an answer can then be read off what happened before it (`History.split`), and what holds
of a whole history holds of every part that it begins with (`History.of_append`).
-/

namespace Diorama

/-- A list with one more entry, taken apart at some entry: it is the last one or one before it. -/
theorem concat_eq_append_cons_iff {α : Type} {l before after : List α} {last a : α} :
    l ++ [last] = before ++ a :: after ↔
      after = [] ∧ l = before ∧ last = a ∨ ∃ front, after = front ++ [last] ∧ l = before ++ a :: front := by
  constructor
  · intro split
    rcases after.eq_nil_or_concat with rfl | ⟨front, other, rfl⟩
    · obtain ⟨same, here⟩ := List.append_inj' split rfl
      exact .inl ⟨rfl, same, by simpa using here⟩
    · rw [List.concat_eq_append] at split ⊢
      rw [← List.cons_append, ← List.append_assoc] at split
      obtain ⟨same, here⟩ := List.append_inj' split rfl
      exact .inr ⟨front, by rw [here], same⟩
  · rintro (⟨rfl, rfl, rfl⟩ | ⟨front, rfl, rfl⟩)
    · rfl
    · rw [List.append_assoc, List.cons_append]

/-- What has happened since the start, and what it has come to. -/
inductive History {State Event : Type} (step : State → Event → State → Prop) (start : State) :
    State → List Event → Prop where
  | nil : History step start start []
  | concat {here later : State} {past : List Event} {event : Event} :
    History step start here past → step here event later → History step start later (past ++ [event])

namespace History

variable {State Event : Type} {step : State → Event → State → Prop} {start here : State} {past : List Event}

/-- Everything that has happened was a step, with what happened before it in the past. -/
theorem split {before after : List Event} {event : Event} (lived : History step start here past)
    (there : past = before ++ event :: after) :
    ∃ earlier later, History step start earlier before ∧ step earlier event later := by
  induction lived generalizing after with
  | nil => simp at there
  | @concat earlier later past last lived stepped ih =>
    rcases concat_eq_append_cons_iff.mp there with ⟨-, rfl, rfl⟩ | ⟨front, -, there⟩
    · exact ⟨earlier, later, lived, stepped⟩
    · exact ih there

/-- What has happened begins with what had happened earlier. -/
theorem of_append {after : List Event} (lived : History step start here (past ++ after)) :
    ∃ earlier, History step start earlier past := by
  cases after with
  | nil => exact ⟨here, by simpa using lived⟩
  | cons event after =>
    obtain ⟨earlier, -, lived, -⟩ := lived.split rfl
    exact ⟨earlier, lived⟩

end History

end Diorama
