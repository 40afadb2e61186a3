import Diorama.Proofs.WorldRuns

/-!
# Stacks that are loaded ahead

The stack loop loads a stack by asking the resolver for it, and records what came of that: that the stack has been
loaded, or why it could not be. The record and the resolver are two accounts of the same thing, and they agree
(`Session.Accords`): a stack that was recorded as loaded is loaded, and one that was recorded as refused is refused
by the provider. Programs keep the agreement, because on a leg they do no more than ask for stacks
(`Session.Resolves`). Who clears the resolver, or puts other stacks behind its provider, breaks it.
-/

namespace Diorama

/-- Whether something is done to the stacks that are loaded, or to those that there are. -/
def Outside.touchesStacks : Outside → Bool
  | .preload _ | .provider _ | .clearStacks => true
  | _ => false

namespace Session

variable {session later : Session}

/-- Whoever leaves the stacks alone does no more to them than a program. -/
theorem resolves_suffer (session : Session) {act : Outside} (apart : act.touchesStacks = false) :
    session.Resolves (session.suffer act) := by
  cases act with
  | preload key => cases apart
  | provider next => cases apart
  | clearStacks => cases apart
  | _ => exact ⟨.refl, rfl⟩

/-- A stack that is loaded ahead is resolved, and it is recorded under its key that it is loaded, or why not. -/
theorem preloads_suffer_preload (sound : session.resolver.Sound) {key : String}
    {answer : Except StackError LoadedStack} {resolver : Resolver}
    (resolves : session.resolver.resolve key = (answer, resolver)) :
    (session.suffer (.preload key)).resolver = resolver ∧
      ((∃ stack, answer = .ok stack ∧
          (session.suffer (.preload key)).preloads = session.preloads ++ [(key, none)]) ∨
        ∃ error, answer = .error error ∧
          (session.suffer (.preload key)).preloads = session.preloads ++ [(key, some error)]) := by
  have stage : (session.suffer (.preload key)).toStage = session.toStage.preload key := rfl
  have own := (sound.resolve key).2
  rw [resolves] at own
  rw [preloads, preloads, stage]
  unfold Stage.preload Stage.resolve
  rw [resolves]
  refine ⟨rfl, ?_⟩
  cases answer with
  | ok stack =>
    refine .inl ⟨stack, rfl, ?_⟩
    rw [← own stack rfl]
    exact List.reverse_cons
  | error error => exact .inr ⟨error, rfl, List.reverse_cons⟩

/-- A stack that is loaded ahead is recorded once. -/
theorem keys_suffer_preload (sound : session.resolver.Sound) (key : String) :
    (session.suffer (.preload key)).preloads.map Prod.fst = session.preloads.map Prod.fst ++ [key] := by
  obtain ⟨-, ⟨_, -, recorded⟩ | ⟨_, -, recorded⟩⟩ :=
    preloads_suffer_preload sound (rfl : session.resolver.resolve key = (_, _))
  · rw [recorded, List.map_append, List.map_singleton]
  · rw [recorded, List.map_append, List.map_singleton]

/-! ## The record and the resolver -/

/-- What was recorded of loading a stack ahead is so. -/
def Upholds (session : Session) (provider : Provider) : String × Option StackError → Prop
  | (key, none) => ∃ loaded, session.resolver.loaded? key = some loaded ∧
      Stack.load provider key = .ok loaded.stack
  | (key, some error) => Stack.load provider key = .error error

/-- The stacks are those of the provider, and all that was recorded of loading some of them ahead is so. -/
structure Accords (session : Session) (provider : Provider) : Prop where
  provided : session.resolver.Serves provider
  upholds : ∀ entry ∈ session.preloads, session.Upholds provider entry

variable {provider : Provider}

/-- What is loaded stays loaded, so a record stays true. -/
theorem Upholds.of_loaded {entry : String × Option StackError} (upholds : session.Upholds provider entry)
    (kept : ∀ key loaded, session.resolver.loaded? key = some loaded → later.resolver.loaded? key = some loaded) :
    later.Upholds provider entry := by
  obtain ⟨key, refusal⟩ := entry
  cases refusal with
  | none =>
    obtain ⟨loaded, found, same⟩ := upholds
    exact ⟨loaded, kept key loaded found, same⟩
  | some error => exact upholds

/-- Asking for stacks does not belie what was recorded. -/
theorem Accords.resolves (accords : session.Accords provider) (resolves : session.Resolves later) :
    later.Accords provider := by
  refine ⟨accords.provided.asked resolves.resolver, fun entry among => ?_⟩
  rw [resolves.preloads] at among
  exact (accords.upholds entry among).of_loaded fun _ _ => resolves.resolver.loaded?

/-- One more stack is loaded ahead, and recorded as it is. -/
theorem Accords.preload (accords : session.Accords provider) (key : String) :
    (session.suffer (.preload key)).Accords provider := by
  have sound : session.resolver.Sound := fun other loaded found =>
    Stack.key_of_load (accords.provided.loaded other loaded found)
  cases resolves : session.resolver.resolve key with
  | mk answer resolver =>
    obtain ⟨same, recorded⟩ := preloads_suffer_preload sound resolves
    obtain ⟨serves, gives, filed⟩ := accords.provided.resolve resolves
    refine ⟨same ▸ serves, fun entry among => ?_⟩
    -- Loading one more stack leaves the earlier entries true; the last one is about the stack itself.
    have before (entry : String × Option StackError) (among : entry ∈ session.preloads) :
        (session.suffer (.preload key)).Upholds provider entry := by
      refine (accords.upholds entry among).of_loaded fun other loaded found => ?_
      rw [same]
      exact Resolver.loaded?_of_resolve resolves found
    rcases recorded with ⟨stack, rfl, recorded⟩ | ⟨error, rfl, recorded⟩
    · rw [recorded] at among
      rcases List.mem_append.mp among with among | among
      · exact before entry among
      · rw [List.mem_singleton.mp among]
        refine ⟨stack, ?_, gives.symm⟩
        rw [same]
        exact filed stack rfl
    · rw [recorded] at among
      rcases List.mem_append.mp among with among | among
      · exact before entry among
      · rw [List.mem_singleton.mp among]
        exact gives.symm

end Session

end Diorama
