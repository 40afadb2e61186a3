import Diorama.Proofs.CardCycle
import Diorama.Proofs.Flags

/-!
# Refused card changes

A card that is asked for is loaded before anything is done to the card that is open. So if it cannot be had,
nothing has happened yet that would have to be undone: no script has run, and the open card is as it was. What
is done then is what is done when a script fails. The failure is reported, updates are enabled, the requests
that are held are thrown away, and picture and cursor of the card are again what the display shows.

`Session.afterRefusal` is the session in full. It is written as a change of the session before, so whatever
it does not name is as it was: the hotspots, the movies and the sound group of the card, the location, the game
variables, the pointer and its button, the cues, what is on display and what waits for it, and all that the
player was asked for. That nothing more is needed rests on what holds between two events: the flags that the
report takes back are not set (`Reachable.unoccupied`), and what the card has published last is what is on
display (`Reachable.orderly`).
-/

namespace Diorama

/-- What a refused card change makes of a session. The stack of the location may have been loaded. -/
def Session.afterRefusal (session : Session) (location : Location) (error : ScriptError) : Session :=
  { session with
    resolver := (session.resolver.resolve location.stack).2
    settings :=
      (session.settings.insert EngineVariables.scriptErrorFlag (.bool true)).insert
        EngineVariables.lastScriptError (.string error.message)
    log := session.log.record (Notice.scriptFailed "goto" error).text
    transcript :=
      .updates .failed :: .recorded (.scriptFailed "goto" error) :: .refused location :: session.transcript
    updatesEnabled := true
    held := []
    card := session.card.map fun card =>
      { card with
        visual :=
          { card.visual with
            picture := session.frames.latest.bind (·.visual.picture)
            cursor := session.frames.latest.bind (·.visual.cursor) } } }

namespace Session

/-- The report of a refusal does only this, if no flag is set and the card is on display. -/
theorem refuse_resolved {session : Session} (unoccupied : session.Unoccupied)
    (onDisplay : ∀ card, session.card = some card → card.published = session.frames.latest)
    (location : Location) (error : ScriptError) :
    (session.resolved location).refuse location error = session.afterRefusal location error := by
  obtain ⟨-, screen, movie, -, -⟩ := unoccupied
  have shown (card : OpenCard) (isOpen : session.card = some card) : card.discardUnpublished =
      { card with
        visual :=
          { card.visual with
            picture := session.frames.latest.bind (·.visual.picture)
            cursor := session.frames.latest.bind (·.visual.cursor) } } := by
    rw [OpenCard.discardUnpublished, onDisplay card isOpen]
    cases session.frames.latest <;> rfl
  have card : session.card.map OpenCard.discardUnpublished = (session.afterRefusal location error).card := by
    cases isOpen : session.card with
    | none => simp [afterRefusal, isOpen]
    | some card => simp [afterRefusal, isOpen, shown card isOpen]
  calc
    (session.resolved location).refuse location error
      = { session.afterRefusal location error with
          card := session.card.map OpenCard.discardUnpublished
          inScreenUpdate := false
          blockingMovie := false } := rfl
    _ = { session.afterRefusal location error with
          card := (session.afterRefusal location error).card
          inScreenUpdate := session.inScreenUpdate
          blockingMovie := session.blockingMovie } := by rw [card, screen, movie]
    _ = session.afterRefusal location error := rfl

end Session

namespace Script

variable {session later : Session} {location : Location} {error : ScriptError}

/-- Where a card cannot be had, going there ends at once. -/
theorem goto_of_cardAt (refused : session.cardAt location = .error error) :
    goto location session = .done ((session.resolved location).refuse location error) (.error error) := by
  have load := loadCard_eq location session
  rw [refused] at load
  exact attempt_bind_of_done (bind_of_error load _) _

/-- Where the card of a saved game cannot be had, restoring it ends at once, and the game variables that were
put in place are taken back. -/
theorem restore_of_cardAt {state : GameState} (saved : state.location = some location)
    (refused : session.cardAt location = .error error) :
    restore state session = .done ((session.resolved location).refuse location error) (.error error) := by
  let put : Session := { session with game := state.game }
  have stillRefused : put.cardAt location = .error error := refused
  unfold restore
  rw [get_bind, modify_bind, saved]
  exact attempt_bind_of_done (goto_of_cardAt stillRefused) _

/-- Restoring a game fails only if it names a card that cannot be opened. -/
theorem restore_succeeds_or (sound : session.resolver.Sound) (state : GameState) :
    (restore state session).Sat (fun _ => True) fun _ result => result = .ok () ∨
      ∃ location, state.location = some location ∧ ¬ session.CanOpen location := by
  unfold restore
  rw [get_bind, modify_bind]
  cases state.location with
  | none => exact .inl rfl
  | some location =>
    let put : Session := { session with game := state.game }
    have stillSound : put.resolver.Sound := sound
    have goes := (goto_sat stillSound location).mono (fun _ _ => trivial) fun _ _ => id
    refine sat_attempt_bind_of goes fun later result ends => ?_
    cases result with
    | ok _ => exact .inl rfl
    | error error =>
      have cannot : ¬ session.CanOpen location := fun can => nomatch ends.2.1.mpr can
      exact .inr ⟨location, rfl, cannot⟩

end Script

/-! ## Between two events -/

/-- A card that was asked for is refused: it cannot be had, and the session is only changed by the report. No
stack but that of the card may have been loaded for it, and that one only if it was not loaded before. -/
structure Session.Refused (session : Session) (location : Location) (error : ScriptError)
    (later : Session) : Prop where
  cause : session.cardAt location = .error error
  after : later = session.afterRefusal location error
  provider : later.resolver.provider = session.resolver.provider
  otherStacks : ∀ key, key ≠ location.stack → later.resolver.loaded? key = session.resolver.loaded? key
  loadedBefore : ∀ loaded, session.resolver.loaded? location.stack = some loaded →
    later.resolver = session.resolver

/-- What a card has published last is on display. -/
theorem Reachable.onDisplay {session : Session} {result : Except ScriptError Unit}
    (reachable : Reachable (.done session result)) (card : OpenCard) (isOpen : session.card = some card) :
    card.published = session.frames.latest := by
  obtain ⟨frame, published⟩ := Option.isSome_iff_exists.mp (reachable.shown rfl card isOpen)
  exact published.trans (reachable.orderly.latest card frame isOpen published).1.symm

theorem Reachable.refused {session : Session} {result : Except ScriptError Unit} {location : Location}
    {error : ScriptError} (reachable : Reachable (.done session result))
    (cause : session.cardAt location = .error error) :
    session.Refused location error ((session.resolved location).refuse location error) := by
  rw [Session.refuse_resolved reachable.unoccupied reachable.onDisplay]
  exact ⟨cause, rfl, session.resolver.provider_resolve location.stack,
    fun _ => session.resolver.loaded?_resolve_of_ne, fun _ => Resolver.resolve_of_loaded⟩

/-- Between two events: if going to a card or restoring a game fails, it does so at once, because the card
cannot be had, and nothing comes of it but the report. -/
theorem Reachable.refused_changes {session : Session} {result : Except ScriptError Unit}
    (reachable : Reachable (.done session result)) :
    (∀ location later error, (Script.goto location session).Leads (.done later (.error error)) →
      Script.goto location session = .done later (.error error) ∧ session.Refused location error later) ∧
    (∀ state later error, (Script.restore state session).Leads (.done later (.error error)) →
      ∃ location, state.location = some location ∧
        Script.restore state session = .done later (.error error) ∧ session.Refused location error later) ∧
    ∀ card, session.card = some card → card.published = session.frames.latest := by
  have sound : session.resolver.Sound := reachable.sound
  refine ⟨fun location later error leads => ?_, fun state later error leads => ?_, reachable.onDisplay⟩
  · have goes := (Script.goto_sat sound location).of_leads_done leads
    have cannot : ¬ session.CanOpen location := fun can => nomatch goes.2.1.mpr can
    obtain ⟨cause, had⟩ := Session.cardAt_of_not_canOpen cannot
    have ended := Script.goto_of_cardAt had
    rw [ended, Progress.leads_done_iff] at leads
    cases leads
    exact ⟨ended, reachable.refused had⟩
  · have restores := (Script.restore_succeeds_or sound state).of_leads_done leads
    obtain ⟨location, saved, cannot⟩ := restores.resolve_left (nomatch ·)
    obtain ⟨cause, had⟩ := Session.cardAt_of_not_canOpen cannot
    have ended := Script.restore_of_cardAt saved had
    rw [ended, Progress.leads_done_iff] at leads
    cases leads
    exact ⟨location, saved, ended, reachable.refused had⟩

/-- A card has disabled updates, asked for a render state and changed its cursor. It stays open when another
one, or the one of a saved game, cannot be had, and what the screen was not shown is taken back. -/
theorem Reachable.refused_changes_unseen : ∃ session gone back : Session, ∃ why whyNot : ScriptError,
    Reachable (.done session (.ok ())) ∧
    (Script.goto ⟨"a", 9⟩ session).Leads (.done gone (.error why)) ∧
    (Script.restore { location := some ⟨"b", 1⟩ } session).Leads (.done back (.error whyNot)) ∧
    session.updatesEnabled = false ∧ session.held.length = 1 ∧
    session.card.bind (·.visual.cursor) = some 3000 ∧ session.game.get? "coin" = some 3 ∧
    gone = session.afterRefusal ⟨"a", 9⟩ why ∧ gone.card.bind (·.visual.cursor) = none ∧
    back = session.afterRefusal ⟨"b", 1⟩ whyNot ∧ back.game.get? "coin" = some 3 := by
  let start : Handler := ⟨9, [.op 20 [], .op 18 [2], .op 13 [3000]]⟩
  let coin : Outside := .gameVariable "coin" 3
  let saved : GameState := { location := some ⟨"b", 1⟩ }
  let here (session : Session) : Bool :=
    !session.updatesEnabled && session.held.length == 1
      && session.card.bind (·.visual.cursor) == some 3000 && session.game.get? "coin" == some 3
      && (session.frames.latest.bind (·.visual.cursor)).isNone
      && (Script.goto ⟨"a", 9⟩ session).failed?.isSome && (Script.restore saved session).failed?.isSome
  have ran : ((Session.beginning "a" [(1, { scripts := [start] })]).after?
      [.message (.goto ⟨"a", 1⟩ none)]).any (fun session => here (session.suffer coin)) = true := by
    decide +kernel
  obtain ⟨before, reachable, held⟩ := Session.exists_after "a" _ ran
  have reachable : Reachable (.done (before.suffer coin) (.ok ())) := .outside reachable coin
  generalize before.suffer coin = session at held reachable
  simp only [here, Bool.and_eq_true, Bool.not_eq_true', beq_iff_eq, Option.isSome_iff_exists] at held
  obtain ⟨⟨⟨⟨⟨⟨disabled, asked⟩, cursor⟩, has⟩, shown⟩, ⟨gone, why⟩, went⟩, ⟨back, whyNot⟩, restored⟩ := held
  have leads := Progress.leads_of_failed? went
  have leadsBack := Progress.leads_of_failed? restored
  obtain ⟨goes, restores, _⟩ := Reachable.refused_changes reachable
  obtain ⟨_, refused⟩ := goes _ gone why leads
  obtain ⟨location, same, _, refusedBack⟩ := restores saved back whyNot leadsBack
  cases same
  have taken : gone.card.bind (·.visual.cursor) = none := by
    obtain ⟨card, isOpen, _⟩ := Option.bind_eq_some_iff.mp cursor
    rw [refused.after, Session.afterRefusal, isOpen]
    exact Option.isNone_iff_eq_none.mp shown
  have kept : back.game.get? "coin" = some 3 := by
    rw [refusedBack.after]
    exact has
  exact ⟨session, gone, back, why, whyNot, reachable, leads, leadsBack, disabled, asked, cursor, has,
    refused.after, taken, refusedBack.after, kept⟩

end Diorama
