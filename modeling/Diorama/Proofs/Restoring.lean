import Diorama.Proofs.Pairing
import Diorama.Proofs.Lockstep
import Diorama.Proofs.Refusals

/-!
# Restoring a game

What a restored game has to do with the session that it is restored in. The game variables are put in place
first, and then the saved card is gone to as any card is: the card that is open is left, and one arrives at the
saved one. Leaving runs the leave script of a card that has no part in the saved game, on the variables that
were restored. What that script writes stays.

Arriving depends on nothing that only the old session had (`Script.arriving_lockstep`). So the leave script is
all there is in the way. If neither of two sessions has one to run, a game that is restored in both comes to the
same; and in any case it does if leaving leaves the two alike (`Reachable.restore_forgets`).
-/

namespace Diorama

/-! ## Surroundings -/

namespace Session

/-- The two sessions differ in nothing but the open card, the location and the game variables, and in what no
script goes by. -/
structure SameSurroundings (session twin : Session) : Prop where
  resolver : twin.resolver = session.resolver
  settings : twin.settings.essence = session.settings.essence
  mapper : twin.mapper = session.mapper
  pointer : twin.pointer = session.pointer
  gate : twin.gate = session.gate
  replies : twin.player.replies = session.player.replies
  lastReply : twin.player.lastReply = session.player.lastReply
  tornDown : twin.tornDown = session.tornDown

/-- No card is open, and nothing is left of one. -/
structure Vacant (session : Session) : Prop where
  card : session.card = none
  tracker : session.tracker = {}
  inLeave : session.inLeave = false
  inScreenUpdate : session.inScreenUpdate = false

variable {session between twin : Session}

namespace SameSurroundings

/-- The same around both of them. -/
theorem symm (h : session.SameSurroundings twin) : twin.SameSurroundings session :=
  ⟨h.resolver.symm, h.settings.symm, h.mapper.symm, h.pointer.symm, h.gate.symm, h.replies.symm,
    h.lastReply.symm, h.tornDown.symm⟩

/-- The same around all three. -/
theorem trans (h : session.SameSurroundings between) (h' : between.SameSurroundings twin) :
    session.SameSurroundings twin :=
  ⟨h'.resolver.trans h.resolver, h'.settings.trans h.settings, h'.mapper.trans h.mapper,
    h'.pointer.trans h.pointer, h'.gate.trans h.gate, h'.replies.trans h.replies,
    h'.lastReply.trans h.lastReply, h'.tornDown.trans h.tornDown⟩

/-- In the same surroundings the same cards can be had. -/
theorem cardAt (h : session.SameSurroundings twin) (location : Location) :
    twin.cardAt location = session.cardAt location := by
  unfold Session.cardAt Stage.resolve
  rw [h.resolver, h.mapper]

/-- At the same card, with the same game variables, the two sessions are alike. -/
theorem arrived (h : session.SameSurroundings twin) (vacant : session.Vacant) (vacant' : twin.Vacant)
    (game : twin.game = session.game) (location : Location) (card : OpenCard) :
    (session.arrived location card).Alike (twin.arrived location card) := by
  unfold Alike essence Session.arrived changeUpdates record onStage Stage.record Stage.note
  dsimp only
  rw [h.resolver, h.settings, h.mapper, h.pointer, h.gate, h.replies, h.lastReply, h.tornDown, game,
    vacant.tracker, vacant'.tracker, vacant.inLeave, vacant'.inLeave, vacant.inScreenUpdate,
    vacant'.inScreenUpdate]

end SameSurroundings

/-- Closing the card touches none of the surroundings. -/
theorem sameSurroundings_closeCard (session : Session) : session.SameSurroundings session.closeCard := by
  cases isOpen : session.card with
  | none =>
    rw [closeCard_of_none isOpen]
    exact ⟨rfl, rfl, rfl, rfl, rfl, rfl, rfl, rfl⟩
  | some card =>
    have same := essence_closeCard_of_some isOpen
    exact ⟨congrArg (·.resolver) same, congrArg (·.settings) same, congrArg (·.mapper) same,
      congrArg (·.pointer) same, congrArg (·.gate) same, congrArg (·.player.replies) same,
      congrArg (·.player.lastReply) same, congrArg (·.tornDown) same⟩

/-- To close a card leaves the variables alone. -/
theorem closeCard_game (session : Session) : session.closeCard.game = session.game := by
  obtain ⟨player, log, transcript, same⟩ := session.closeCard_stage
  exact congrArg (·.game) same

/-- The session in which a card is left for the one of a saved game. -/
def putting (session : Session) (state : GameState) (location : Location) : Session :=
  { session with game := state.game }.resolved location

/-- Variables that are put in place are not part of the surroundings. -/
theorem SameSurroundings.putting (h : session.SameSurroundings twin) (state : GameState) (location : Location) :
    (session.putting state location).SameSurroundings (twin.putting state location) := by
  refine ⟨?_, h.settings, h.mapper, h.pointer, h.gate, h.replies, h.lastReply, h.tornDown⟩
  exact congrArg (fun resolver : Resolver => (resolver.resolve location.stack).2) h.resolver

/-- The leave script of the open card. -/
def leaveScript? (session : Session) : Option (List Command) :=
  session.card.bind (·.script? .leave)

/-- What leaving a card rests on: no flag is set, and with no card open the pointer is nowhere. -/
structure Leavable (session : Session) : Prop where
  inLeave : session.inLeave = false
  inScreenUpdate : session.inScreenUpdate = false
  tracker : session.card = none → session.tracker = {}

/-- When the card is closed, nothing of it is left. -/
theorem Leavable.vacant_closeCard (h : session.Leavable) : session.closeCard.Vacant := by
  have aside := session.aside_closeCard
  refine ⟨session.closeCard_card, ?_, aside.inLeave.trans h.inLeave,
    aside.inScreenUpdate.trans h.inScreenUpdate⟩
  cases isOpen : session.card with
  | none =>
    rw [closeCard_of_none isOpen]
    exact h.tracker isOpen
  | some card => exact congrArg (·.tracker) (essence_closeCard_of_some isOpen)

end Session

/-- Between two events the card can be left, with whatever variables. -/
theorem Reachable.leavable {session : Session} {result : Except ScriptError Unit}
    (reachable : Reachable (.done session result)) (state : GameState) (location : Location) :
    (session.putting state location).Leavable := by
  have unoccupied := reachable.unoccupied
  refine ⟨unoccupied.inLeave, unoccupied.inScreenUpdate, fun closed => ?_⟩
  have atRest : session.AtRest := reachable.atRest
  exact congrArg HotspotTracker.mk (atRest.1.nowhere closed)

/-! ## Leaving and arriving -/

namespace Script

variable {session twin left left' : Session} {state : GameState} {location : Location} {card : OpenCard}

/-- A card without a leave script is closed at once. -/
theorem leaveCard_of_silent (silent : session.leaveScript? = none) (idle : session.inLeave = false) :
    leaveCard session = .done session.closeCard (.ok ()) := by
  unfold leaveCard
  rw [get_bind]
  split
  next isOpen =>
    let leaving : Session := { session with inLeave := true }
    have unscripted : runCardScript .leave leaving = .done leaving (.ok none) := by
      have none : leaving.card.bind (·.script? .leave) = none := silent
      rw [runCardScript, get_bind, none]
      rfl
    have ended : ({ session with inLeave := false } : Session) = session := by rw [← idle]
    rw [modify_bind]
    change (runCardScript .leave leaving).bind _ = _
    rw [unscripted]
    change Progress.done (Session.closeCard { session with inLeave := false }) _ = _
    rw [ended]
  next closed =>
    rw [Session.closeCard_of_none (Option.not_isSome_iff_eq_none.mp closed)]
    rfl

/-- When a card has been left, nothing of it is there. -/
theorem leaveCard_vacates (h : session.Leavable) (leads : (leaveCard session).Leads (.done left (.ok ()))) :
    left.Vacant := by
  have vacates : (leaveCard session).Sat (fun _ => True) fun later _ => later.Vacant := by
    unfold leaveCard
    rw [get_bind]
    split
    next isOpen =>
      rw [modify_bind]
      let leaving : Session := { session with inLeave := true }
      have runs := runCardScript_runs .leave
      have ran := (runs.script leaving).and (steadies.runCardScript_holds .leave leaving)
      refine runs.unfailing.sat_bind (ran.mono (fun _ _ => trivial) fun _ _ => id) ?_
      rintro later _ ⟨chain, steady⟩
      let ended : Session := { later with inLeave := false }
      have still : ended.card.isSome = true := chain.continues.card_isSome.trans isOpen
      have leavable : ended.Leavable := by
        refine ⟨rfl, steady.inScreenUpdate h.inScreenUpdate, fun closed => ?_⟩
        rw [closed] at still
        cases still
      exact leavable.vacant_closeCard
    next closed =>
      have closed : session.card = none := Option.not_isSome_iff_eq_none.mp closed
      exact ⟨closed, h.tracker closed, h.inLeave, h.inScreenUpdate⟩
  exact vacates.of_leads_done leads

/-- What is left to do to go to a card, when the open one has been left. -/
def arriving (location : Location) (card : OpenCard) : Script Unit := do
  match ← attempt (arriveAt location card) with
  | .ok pending => settle pending
  | .error error =>
    modify (·.refuse location error)
    fail error

/-- One arrives in the same way in two sessions that are alike once the card is open. -/
theorem arriving_lockstep (alike : (left.arrived location card).Alike (left'.arrived location card)) :
    (arriving location card left).Lockstep Session.Alike (arriving location card left') := by
  have law := parallels
  have shows : Session.Minor fun session : Session => (session.changeUpdates .shown).publish :=
    Session.minor_publish.comp (Session.minor_changeUpdates .shown)
  have arrives : (arriveAt location card left).Lockstep Session.Alike (arriveAt location card left') := by
    unfold arriveAt record
    rw [modify_bind, modify_bind, modify_bind, modify_bind]
    refine law.bind (law.runCardScript_holds .prepare) (fun redirected => ?_) _ _ alike
    refine law.bind (law.minor shows) fun _ => ?_
    cases redirected with
    | some target => exact law.pure _
    | none => exact law.runCardScript_holds .start
  refine Parallels.attempt_bind arrives fun result => ?_
  cases result with
  | ok pending => exact law.settle_holds pending
  | error error => exact law.bind (law.refuse_holds location error) fun _ => law.fail error

/-- Where a card can be had, one changes to it by leaving the open one and arriving. -/
theorem changeCard_of_cardAt (had : session.cardAt location = .ok card) : changeCard location session =
    (leaveCard >>= fun _ => arriveAt location card : Script (Option Location)) (session.resolved location) := by
  have load := loadCard_eq location session
  rw [had] at load
  change (loadCard location session).bind _ = _
  rw [load]
  rfl

/-- Where the card is left without a wait, one goes on to arrive. -/
theorem goto_of_left (had : session.cardAt location = .ok card)
    (ended : leaveCard (session.resolved location) = .done left (.ok ())) :
    goto location session = arriving location card left := by
  have changes : changeCard location session = arriveAt location card left := by
    rw [changeCard_of_cardAt had]
    change (leaveCard (session.resolved location)).bind _ = _
    rw [ended]
    rfl
  change ((changeCard location session).bind _).bind _ = _
  rw [changes]
  rfl

/-- Where the card is left with waits, one arrives after them. -/
theorem goto_leads (had : session.cardAt location = .ok card)
    (leads : (leaveCard (session.resolved location)).Leads (.done left (.ok ()))) :
    (goto location session).Leads (arriving location card left) := by
  have changes : (changeCard location session).Leads (arriveAt location card left) := by
    rw [changeCard_of_cardAt had]
    exact leads.bind _
  exact (changes.bind _).bind _

/-- What restoring a game comes to when the saved card has been gone to, or could not be. -/
def restored (before : GameVariables) (gone : Session) :
    Except ScriptError Unit → Progress (Except ScriptError Unit)
  | .ok _ => .done (gone.record .stateRestored) (.ok ())
  | .error error => .done { gone with game := before } (.error error)

/-- Restoring a game is going to the saved card with the saved variables, and what comes of it. -/
theorem restore_eq (saved : state.location = some location) (session : Session) : restore state session =
    (goto location { session with game := state.game }).bind (restored session.game) := by
  unfold restore
  rw [get_bind, modify_bind, saved]
  change ((goto location _).bind _).bind _ = _
  rw [Progress.bind_assoc]
  congr 1
  funext gone result
  cases result <;> rfl

/-- A restore that succeeds notes as much at its end. -/
theorem ended?_restored {progress : Progress (Except ScriptError Unit)} {before : GameVariables}
    {later : Session} (ended : (progress.bind (restored before)).ended? = some later) :
    ∃ gone, progress = .done gone (.ok ()) ∧ later = gone.record .stateRestored := by
  cases progress with
  | waiting session resume => cases ended
  | done gone result =>
    cases result with
    | ok _ =>
      cases ended
      exact ⟨gone, rfl, rfl⟩
    | error error => cases ended

/-- Two sessions that are alike once the saved card is open come to the same saved game. -/
theorem gameState_of_arriving (alike : (left.arrived location card).Alike (left'.arrived location card))
    {before before' : GameVariables} {turns : List (List Outside)} {later later' : Session}
    (ended : (((arriving location card left).bind (restored before)).under turns).ended? = some later)
    (ended' : (((arriving location card left').bind (restored before')).under turns).ended? = some later') :
    later'.gameState = later.gameState := by
  have ends (before : GameVariables) (gone : Session) (result : Except ScriptError Unit) :
      ∃ later ended, restored before gone result = .done later ended := by
    cases result <;> exact ⟨_, _, rfl⟩
  rw [Progress.under_bind (ends before)] at ended
  rw [Progress.under_bind (ends before')] at ended'
  obtain ⟨gone, arrived, rfl⟩ := ended?_restored ended
  obtain ⟨gone', arrived', rfl⟩ := ended?_restored ended'
  have lockstep := (arriving_lockstep alike).under Session.alike_coupling turns
  rw [arrived, arrived'] at lockstep
  have same : gone'.essence = gone.essence := lockstep.1
  have saved : gone'.gameState = gone.gameState := congrArg (·.gameState) same
  exact saved

end Script

namespace Reachable

open Script in
/-- Two sessions between events that differ in the open card, the location and the game variables, and a saved
game with a location. If neither has a leave script to run, restoring the game comes to the same game in both
when it succeeds, whatever others do. And in general, if leaving the open cards, which is done on the restored
variables, leaves the two in the same surroundings and with the same game variables, then what is left of
restoring comes to the same game. -/
theorem restore_forgets {session twin : Session} {result result' : Except ScriptError Unit}
    (reachable : Reachable (.done session result)) (reachable' : Reachable (.done twin result'))
    (same : session.SameSurroundings twin) {state : GameState} {location : Location}
    (saved : state.location = some location) :
    (session.leaveScript? = none → twin.leaveScript? = none → ∀ turns later later',
      ((restore state session).under turns).ended? = some later →
      ((restore state twin).under turns).ended? = some later' → later'.gameState = later.gameState) ∧
    ∀ card, session.cardAt location = .ok card → twin.cardAt location = .ok card ∧ ∀ left left',
      (leaveCard (session.putting state location)).Leads (.done left (.ok ())) →
      (leaveCard (twin.putting state location)).Leads (.done left' (.ok ())) →
      left.SameSurroundings left' → left'.game = left.game →
        let rest := (arriving location card left).bind (restored session.game)
        let rest' := (arriving location card left').bind (restored twin.game)
        (restore state session).Leads rest ∧ (restore state twin).Leads rest' ∧ ∀ turns later later',
          (rest.under turns).ended? = some later → (rest'.under turns).ended? = some later' →
            later'.gameState = later.gameState := by
  have leavable := reachable.leavable state location
  have leavable' := reachable'.leavable state location
  let put (session : Session) : Session := { session with game := state.game }
  refine ⟨fun silent silent' turns later later' ended ended' => ?_, fun card had => ⟨?_, ?_⟩⟩
  · rw [restore_eq saved] at ended ended'
    cases had : session.cardAt location with
    | error error =>
      have refused : (put session).cardAt location = .error error := had
      rw [goto_of_cardAt refused, Progress.bind, restored, Progress.under_done] at ended
      cases ended
    | ok card =>
      have found : (put session).cardAt location = .ok card := had
      have found' : (put twin).cardAt location = .ok card := (same.cardAt location).trans had
      rw [goto_of_left found (leaveCard_of_silent silent leavable.inLeave)] at ended
      rw [goto_of_left found' (leaveCard_of_silent silent' leavable'.inLeave)] at ended'
      refine gameState_of_arriving ?_ ended ended'
      have closed := Session.sameSurroundings_closeCard (session.putting state location)
      have closed' := Session.sameSurroundings_closeCard (twin.putting state location)
      refine ((closed.symm.trans (same.putting state location)).trans closed').arrived leavable.vacant_closeCard
        leavable'.vacant_closeCard ?_ location card
      rw [Session.closeCard_game, Session.closeCard_game]
      rfl
  · rw [same.cardAt, had]
  -- From where the leave scripts have come to, the old cards are closed and nothing of them is left.
  · intro left left' leads leads' alike game
    have arrives := alike.arrived (leaveCard_vacates leavable leads) (leaveCard_vacates leavable' leads') game
      location card
    have found : (put session).cardAt location = .ok card := had
    have found' : (put twin).cardAt location = .ok card := (same.cardAt location).trans had
    refine ⟨?_, ?_, fun turns later later' => gameState_of_arriving arrives⟩
    · rw [restore_eq saved]
      exact (goto_leads found leads).bind _
    · rw [restore_eq saved]
      exact (goto_leads found' leads').bind _

open Script in
/-- A card is open that has no leave script, and a game is restored; and the same game where that card has been
closed and another game is on. The saved card writes a variable of its own. It comes to the same. -/
theorem restore_forgets_closed : ∃ (state : GameState) (session twin : Session),
    Reachable (.done session (.ok ())) ∧ Reachable (.done twin (.ok ())) ∧ session.SameSurroundings twin ∧
    session.card.isSome = true ∧ twin.card = none ∧ session.game ≠ twin.game ∧
    ∃ later later', (restore state session).ended? = some later ∧ (restore state twin).ended? = some later' ∧
      later.game.get? "door" = some 4 ∧ later'.gameState = later.gameState := by
  let saved : CardRecord := { scripts := [⟨9, [.op 7 [1, 4]]⟩] }
  let beginning := Session.beginningWith (some ["coin", "door"]) "a" [(1, {}), (2, saved)]
  let state : GameState := { location := some ⟨"a", 2⟩, game := .ofList [("coin", 1)] }
  let other (session : Session) : Session := session.closeCard.suffer (.gameVariable "coin" 7)
  let here (session : Session) : Bool :=
    session.card.isSome && session.leaveScript?.isNone && session.game != (other session).game &&
      (restore state session).ended?.any (·.game.get? "door" == some 4) &&
      (restore state (other session)).ended?.isSome
  have ran : (beginning.after? [.message (.goto ⟨"a", 1⟩ none)]).any here = true := by decide +kernel
  obtain ⟨session, reachable, holds⟩ := Reachable.exists_after (.start ..) ran
  obtain ⟨⟨⟨⟨isOpen, silent⟩, differ⟩, restored⟩, restored'⟩ := by
    simpa only [here, Bool.and_eq_true, Option.isNone_iff_eq_none, bne_iff_ne] using holds
  obtain ⟨later, ended, written⟩ := (Option.any_eq_true ..).mp restored
  obtain ⟨later', ended'⟩ := Option.isSome_iff_exists.mp restored'
  have twin : Reachable (.done (other session) (.ok ())) := .outside (.event reachable .shutdown .refl) _
  have closed := session.sameSurroundings_closeCard
  have same : session.SameSurroundings (other session) :=
    ⟨closed.resolver, closed.settings, closed.mapper, closed.pointer, closed.gate, closed.replies,
      closed.lastReply, closed.tornDown⟩
  have nothing : (other session).card = none := session.closeCard_card
  have unscripted : (other session).leaveScript? = none := by
    rw [Session.leaveScript?, nothing]
    rfl
  have located : state.location = some ⟨"a", 2⟩ := rfl
  have forgets := (restore_forgets reachable twin same located).1 silent unscripted []
  rw [Progress.under_nil, Progress.under_nil] at forgets
  exact ⟨state, session, other session, reachable, twin, same, isOpen, nothing, differ, later, later', ended,
    ended', beq_iff_eq.mp written, forgets later later' ended ended'⟩

open Script in
/-- What a leave script writes stays: where a card is open whose leave script writes a variable, the restored
game is another than where that card has been closed. -/
theorem restore_remembers : ∃ (state : GameState) (session : Session),
    Reachable (.done session (.ok ())) ∧ Reachable (.done session.closeCard (.ok ())) ∧
    session.SameSurroundings session.closeCard ∧
    ∃ later later', (restore state session).ended? = some later ∧
      (restore state session.closeCard).ended? = some later' ∧
      later'.gameState = state ∧ later.gameState ≠ state := by
  let leaves : CardRecord := { scripts := [⟨7, [.op 7 [0, 5]]⟩] }
  let beginning := Session.beginningWith (some ["coin"]) "a" [(1, leaves), (2, {})]
  let state : GameState := { location := some ⟨"a", 2⟩ }
  let here (session : Session) : Bool :=
    (restore state session).ended?.any (·.gameState != state) &&
      (restore state session.closeCard).ended?.any (·.gameState == state)
  have ran : (beginning.after? [.message (.goto ⟨"a", 1⟩ none)]).any here = true := by decide +kernel
  obtain ⟨session, reachable, holds⟩ := Reachable.exists_after (.start ..) ran
  obtain ⟨restored, restored'⟩ := Bool.and_eq_true_iff.mp holds
  obtain ⟨later, ended, differs⟩ := (Option.any_eq_true ..).mp restored
  obtain ⟨later', ended', same⟩ := (Option.any_eq_true ..).mp restored'
  exact ⟨state, session, reachable, .event reachable .shutdown .refl, session.sameSurroundings_closeCard, later,
    later', ended, ended', beq_iff_eq.mp same, bne_iff_ne.mp differs⟩

end Reachable

end Diorama
