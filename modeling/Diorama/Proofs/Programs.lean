import Diorama.Proofs.Essence

/-!
# What holds of every program

Some things cannot be said of one act after another, because a program breaks them for a time and mends them
before it ends. They are properties of whole programs, and to prove one of them is to go through the
interpreter and the events. That is done here once: a property that is closed under the ways of putting
programs together (`Script.Composes`, `Script.Law`) holds of every program of the engine
(`Script.Law.event_holds`).

Most of what programs change is beside the point: the card, the variables, the log, what is handed over. Such
a change is `Session.Minor`, and a law takes all of them in one clause. What a law has to answer for by itself
are the few places where a program sets something for a time: a command is begun, a movie is waited for, the
screen-update script runs out of sight, a card is left, and a failure takes things back. In the same way a
program that looks at the session looks at its essence, and only the animation clock looks at more.

The two clicks begin with a change that is not aside, since the button is held afterwards or is not; so
they are left to those who know what follows from it, and the law speaks of what comes after
(`Script.Law.active_settle_holds`).
-/

namespace Diorama

/-! ## Changes that are beside the point -/

/-- It neither begins nor ends a wait for a movie, is not the end of the world, and does not say what came of
loading a stack ahead. -/
def Happening.Plain : Happening → Prop
  | .recorded (.movieAwaited _) | .recorded .tornDown | .recorded (.stackPreloaded _)
  | .recorded (.stackRefused _ _) | .answered _ _ => False
  | _ => True

/-- How the player will reply when movies are waited for. -/
def MediaPlayer.answers (player : MediaPlayer) : List PlayerReply × PlayerReply :=
  (player.replies, player.lastReply)

/-- Nothing is touched that programs set for a time, nor the gate, nor the button, nor how the player will reply, nor
the end of the world; and of the resolver stacks are asked for at most. -/
structure Session.Aside (session later : Session) : Prop where
  inLeave : later.inLeave = session.inLeave
  inScreenUpdate : later.inScreenUpdate = session.inScreenUpdate
  blockingMovie : later.blockingMovie = session.blockingMovie
  gate : later.gate = session.gate
  buttonDown : later.buttonDown = session.buttonDown
  tornDown : later.tornDown = session.tornDown
  begun : later.begun = session.begun
  answers : later.player.answers = session.player.answers
  resolver : session.resolver.Asked later.resolver
  transcript : ∃ during, later.transcript = during ++ session.transcript ∧
    ∀ happening ∈ during, happening.Plain

namespace Session

namespace Aside

/-- Doing nothing is beside the point. -/
theorem refl (session : Session) : session.Aside session :=
  ⟨rfl, rfl, rfl, rfl, rfl, rfl, rfl, rfl, .refl, [], rfl, List.forall_mem_nil _⟩

/-- What is beside the point can be done one after the other; what is noted meanwhile is put together. -/
theorem trans {session between later : Session} (h : session.Aside between) (h' : between.Aside later) :
    session.Aside later := by
  obtain ⟨first, same, plain⟩ := h.transcript
  obtain ⟨second, same', plain'⟩ := h'.transcript
  refine ⟨h'.inLeave.trans h.inLeave, h'.inScreenUpdate.trans h.inScreenUpdate,
    h'.blockingMovie.trans h.blockingMovie, h'.gate.trans h.gate, h'.buttonDown.trans h.buttonDown,
    h'.tornDown.trans h.tornDown, h'.begun.trans h.begun, h'.answers.trans h.answers,
    h.resolver.trans h'.resolver, second ++ first, ?_, fun happening among => ?_⟩
  · rw [same', same, List.append_assoc]
  · rcases List.mem_append.mp among with among | among
    · exact plain' happening among
    · exact plain happening among

end Aside

variable {session : Session}

/-- To note something plain changes the transcript alone. -/
theorem aside_note {happening : Happening} (plain : happening.Plain) :
    session.Aside (session.onStage (·.note happening)) :=
  ⟨rfl, rfl, rfl, rfl, rfl, rfl, rfl, rfl, .refl, [happening], rfl, by simpa using plain⟩

/-- The log is not among the things that programs set for a time. -/
theorem aside_record {notice : Notice} (plain : (Happening.recorded notice).Plain) :
    session.Aside (session.record notice) :=
  ⟨rfl, rfl, rfl, rfl, rfl, rfl, rfl, rfl, .refl, [.recorded notice], rfl, by simpa using plain⟩

/-- What the card shows may change in any way. -/
theorem aside_onVisual (change : CardVisual → CardVisual) : session.Aside (session.onVisual change) :=
  ⟨rfl, rfl, rfl, rfl, rfl, rfl, rfl, rfl, .refl, [], rfl, List.forall_mem_nil _⟩

/-- Only a movie that is waited for brings the player to do something to the gate. -/
theorem aside_startMedia (media : MediaRef) : session.Aside (session.startMedia media false) :=
  ⟨rfl, rfl, rfl, rfl, rfl, rfl, rfl, rfl, .refl, [.started media false], rfl, by simp [Happening.Plain]⟩

/-- A stopped medium is noted, and makes no difference to the replies that are still to come. -/
theorem aside_stopMedia (media : MediaRef) : session.Aside (session.onStage (·.stopMedia media)) :=
  ⟨rfl, rfl, rfl, rfl, rfl, rfl, rfl, rfl, .refl, [.stopped media], rfl, by simp [Happening.Plain]⟩

/-- A movie is put into its slot, and the one that played there is stopped. -/
theorem aside_putMovie (session : Session) (movie : Movie) : session.Aside (session.putMovie movie) := by
  have put := session.aside_onVisual fun visual =>
    { visual with movies := visual.movies.insert movie.code { movie } }
  unfold putMovie
  dsimp only
  split
  · split
    · exact put.trans (aside_stopMedia _)
    · exact put
  · exact put

/-- Whether updates are shown is not among the things that are set for a time, only what covers them is. -/
theorem aside_changeUpdates (change : UpdatesChange) : session.Aside (session.changeUpdates change) :=
  ⟨rfl, rfl, rfl, rfl, rfl, rfl, rfl, rfl, .refl, [.updates change], rfl, by simp [Happening.Plain]⟩

/-- A request is noted twice, in the log and as handed to the display. -/
theorem aside_request (state : RenderState) : session.Aside (session.request state) := by
  refine ⟨rfl, rfl, rfl, rfl, rfl, rfl, rfl, rfl, .refl, [.recorded (.renderRequested state), .requested state], rfl, ?_⟩
  simp [Happening.Plain]

/-- A snapshot that is handed to the display is noted, and the card remembers it. -/
theorem aside_showCard (session : Session) : session.Aside session.showCard := by
  unfold showCard
  split
  · exact .refl session
  · exact ⟨rfl, rfl, rfl, rfl, rfl, rfl, rfl, rfl, .refl, [.published _], rfl, by simp [Happening.Plain]⟩

/-- The requests that were held back are handed over one by one, each of them beside the point. -/
theorem aside_flushHeld (session : Session) : session.Aside session.flushHeld := by
  have handed (states : List RenderState) (session : Session) :
      session.Aside (states.foldl request session) := by
    induction states generalizing session with
    | nil => exact .refl session
    | cons state rest ih => exact (aside_request state).trans (ih _)
  unfold flushHeld
  split
  · have emptied (session : Session) : session.Aside { session with held := [] } :=
      ⟨rfl, rfl, rfl, rfl, rfl, rfl, rfl, rfl, .refl, [], rfl, List.forall_mem_nil _⟩
    exact (handed session.held session).trans (emptied _)
  · exact .refl session

/-- To publish is to show the card and to hand over what was held back. -/
theorem aside_publish (session : Session) : session.Aside session.publish :=
  session.aside_showCard.trans session.showCard.aside_flushHeld

/-- Whether there is anything to publish makes no difference here. -/
theorem aside_publishIfNeeded (session : Session) : session.Aside session.publishIfNeeded := by
  unfold publishIfNeeded
  split
  · split
    · exact session.aside_publish
    · exact session.aside_flushHeld
  · exact .refl session

/-- A card that is closed stops what it plays, and no more than the transcript and the player tells of it. -/
theorem aside_closeCard (session : Session) : session.Aside session.closeCard := by
  cases isOpen : session.card with
  | none =>
    rw [closeCard_of_none isOpen]
    exact .refl session
  | some card =>
    have stopped (media : List MediaRef) (stage : Stage) :
        (media.foldl Stage.stopMedia stage).player.answers = stage.player.answers := by
      induction media generalizing stage with
      | nil => rfl
      | cons head rest ih => exact ih (stage.stopMedia head)
    have answers : session.closeCard.player.answers = session.player.answers := by
      unfold closeCard
      rw [isOpen]
      exact stopped (playing card) session.toStage
    obtain ⟨player, same⟩ := closeCard_of_some isOpen
    let stops := ((playing card).map Happening.stopped).reverse
    rw [same] at answers ⊢
    refine ⟨rfl, rfl, rfl, rfl, rfl, rfl, rfl, answers, .refl,
      .recorded (.cardClosed card.location) :: .updates .closed :: stops, rfl, fun happening among => ?_⟩
    rcases List.mem_cons.mp among with rfl | among
    · trivial
    rcases List.mem_cons.mp among with rfl | among
    · trivial
    · obtain ⟨media, -, rfl⟩ := List.mem_map.mp (List.mem_reverse.mp among)
      trivial

/-- A change that is beside the point, and to which only the essence of the session matters. -/
structure Minor (change : Session → Session) : Prop where
  aside : ∀ session : Session, session.Aside (change session)
  essential : Essential change

/-- Minor changes can be made one after the other. -/
theorem Minor.comp {change next : Session → Session} (h : Minor next) (h' : Minor change) :
    Minor fun session => next (change session) :=
  ⟨fun session => (h'.aside session).trans (h.aside (change session)), h.essential.comp h'.essential⟩

theorem minor_note {happening : Happening} (plain : happening.Plain) :
    Minor (·.onStage (·.note happening)) :=
  ⟨fun _ => aside_note plain, .of_unseen fun _ => rfl⟩

theorem minor_record {notice : Notice} (plain : (Happening.recorded notice).Plain) : Minor (·.record notice) :=
  ⟨fun _ => aside_record plain, .of_unseen fun _ => rfl⟩

/-- A change of what the card shows is minor if it goes by the essence of what is shown. -/
theorem minor_onVisual {change : CardVisual → CardVisual}
    (h : ∀ visual : CardVisual, (change visual).essence = (change visual.essence).essence) :
    Minor (·.onVisual change) :=
  ⟨fun _ => aside_onVisual change, essential_onVisual h⟩

/-- A slot is found by its code and changed in place, and the slots are part of the essence. -/
theorem minor_onMovie (code : UInt16) (change : MovieSlot → MovieSlot) : Minor (·.onMovie code change) :=
  ⟨fun _ => aside_onVisual _, essential_onMovie code change⟩

/-- Updates may be enabled and disabled, for nothing in the essence but the flag depends on it. -/
theorem minor_changeUpdates (change : UpdatesChange) : Minor (·.changeUpdates change) :=
  ⟨fun _ => aside_changeUpdates change, essential_changeUpdates change⟩

/-- Publishing is minor: what the display was shown is not part of the essence. -/
theorem minor_publish : Minor publish :=
  ⟨aside_publish, .of_unseen unseen_publish⟩

/-- Scripts see neither what is published nor whether it was needed. -/
theorem minor_publishIfNeeded : Minor publishIfNeeded :=
  ⟨aside_publishIfNeeded, .of_unseen unseen_publishIfNeeded⟩

/-- To close the card is minor, for its slots say what has to be stopped. -/
theorem minor_closeCard : Minor closeCard :=
  ⟨aside_closeCard, essential_closeCard⟩

end Session

namespace Script

variable {α β : Type}

/-- What is done with the open card is done with it if there is one. -/
theorem openCard_bind_eq (next : OpenCard → Script α) :
    openCard >>= next = get >>= fun session => session.card.elim (Script.fail .noActiveCard) next := by
  funext session
  have here : openCard session =
      session.card.elim (.done session (.error .noActiveCard)) fun card => .done session (.ok card) := by
    unfold openCard
    rw [get_bind]
    cases session.card <;> rfl
  change (openCard session).bind _ = session.card.elim _ next session
  rw [here]
  cases session.card <;> rfl

/-- A property of programs that is closed under the ways of putting programs together, and that holds of every
change that is beside the point. -/
structure Composes (P : ∀ {α : Type}, Script α → Prop) : Prop where
  pure : ∀ {α : Type} (value : α), P (Pure.pure value : Script α)
  fail : ∀ {α : Type} (error : ScriptError), P (fail error : Script α)
  /-- A program may look at what scripts go by. -/
  reads : ∀ {α : Type} {next : Session → Script α}, (∀ session, next session.essence = next session) →
    (∀ session, P (next session)) → P (get >>= next)
  bind : ∀ {α β : Type} {script : Script α} {next : α → Script β},
    P script → (∀ value, P (next value)) → P (script >>= next)
  attempt : ∀ {α : Type} {script : Script α}, P script → P (attempt script)
  minor : ∀ {change : Session → Session}, Session.Minor change → P (modify change)

/-- A property of programs that holds of the few that set something for a time, too. -/
structure Law (P : ∀ {α : Type}, Script α → Prop) : Prop extends Composes P where
  /-- A command is begun only while the world is not torn down. -/
  begins : ∀ {next : Script Flow} (command : Command), P next → P (do
    if (← Script.get).tornDown then return Flow.halt
    else
      modify (·.begin command)
      next)
  awaits : ∀ code, P (startMovieBlocking code)
  covers : ∀ {inner : List Command → Script Flow}, (∀ commands, P (inner commands)) →
    P (enableScreenUpdates inner)
  leaves : P (runCardScript .leave) → P leaveCard
  fails : ∀ label error, P (modify (·.scriptFailed label error))

namespace Composes

variable {P : ∀ {α : Type}, Script α → Prop} (law : Composes P)
include law

/-- A result that is there already is returned or fails. -/
theorem lift (value : Except ScriptError α) : P (lift value) := by
  cases value with
  | ok value => exact law.pure value
  | error error => exact law.fail error

/-- What goes on with the next command. -/
theorem goesOn {script : Script Unit} (h : P script) : P (do script; return Flow.next) :=
  law.bind h fun _ => law.pure _

/-! ## Commands -/

/-- What is done with the open card, if it does not depend on what only the display sees of it. -/
theorem openCard_bind {next : OpenCard → Script α} (same : ∀ card : OpenCard, next card.essence = next card)
    (h : ∀ card, P (next card)) : P (openCard >>= next) := by
  rw [openCard_bind_eq]
  refine law.reads (fun session => ?_) fun session => ?_
  · change (session.card.map OpenCard.essence).elim _ next = _
    cases session.card with
    | none => rfl
    | some card => exact same card
  · cases session.card with
    | none => exact law.fail _
    | some card => exact h card

/-- The name of a variable is looked up in the card, and the lookup may fail. -/
theorem variableName_holds (index : UInt16) : P (variableName index) := by
  refine law.openCard_bind (fun _ => rfl) fun card => ?_
  cases card.stack.variableName? index with
  | none => exact law.fail _
  | some name => exact law.pure name

/-- The slot of a movie is looked up in what the card shows. -/
theorem movieSlot_holds (code : UInt16) : P (movieSlot code) := by
  refine law.openCard_bind (fun _ => rfl) fun card => ?_
  cases card.visual.movies.get? code with
  | none => exact law.fail _
  | some slot => exact law.pure slot

/-- A flag that the engine asks for is part of the essence. -/
theorem flag_holds {path : String} (asked : EngineVariables.Asked path) : P (flag path) :=
  law.reads (fun session => congrArg Pure.pure (asked session.settings)) fun _ => law.pure _

/-- The log may be written at any time, except for what tells of waits and of the end of the world. -/
theorem record_holds {notice : Notice} (plain : (Happening.recorded notice).Plain) : P (record notice) :=
  law.minor (Session.minor_record plain)

/-- A slot is changed in place, whatever the change. -/
theorem onMovie_holds (code : UInt16) (change : MovieSlot → MovieSlot) : P (modify (·.onMovie code change)) :=
  law.minor (Session.minor_onMovie code change)

/-- Media that nobody waits for may be started at any time. -/
theorem startMedia_holds (media : MediaRef) : P (startMedia media) :=
  law.minor ⟨fun _ => Session.aside_startMedia media, Session.essential_startMedia media false⟩

/-- Media may be stopped at any time. -/
theorem stopMedia_holds (media : MediaRef) : P (stopMedia media) :=
  law.minor ⟨fun _ => Session.aside_stopMedia media, .of_unseen fun _ => rfl⟩

/-- A script that is leaving already goes nowhere; else the target lies in the stack of the card that is open. -/
theorem gotoCard_holds (id : UInt16) : P (gotoCard id) := by
  refine law.reads (fun _ => rfl) fun session => ?_
  split
  · exact law.pure _
  · exact law.openCard_bind (fun _ => rfl) fun _ => law.pure _

/-- A hotspot that the card does not have is an error, and the flag of one that it has may be set. -/
theorem setHotspot_holds (id : UInt16) (enabled : Bool) : P (setHotspot id enabled) := by
  refine law.openCard_bind (fun _ => rfl) fun card => ?_
  split
  next hotspots _ =>
    have aside (session : Session) : session.Aside (session.onCard fun card => { card with hotspots }) :=
      ⟨rfl, rfl, rfl, rfl, rfl, rfl, rfl, rfl, .refl, [], rfl, List.forall_mem_nil _⟩
    exact law.minor ⟨aside, Session.essential_onCard fun _ => rfl⟩
  next => exact law.fail _

/-- The group is forgotten first, and looked up and stopped only after that. -/
theorem clearSoundGroup_holds : P clearSoundGroup := by
  refine law.openCard_bind (fun _ => rfl) fun card => ?_
  split
  · exact law.pure _
  · refine law.bind (law.minor (Session.minor_onVisual fun _ => rfl)) fun _ => ?_
    exact law.bind (law.lift _) fun _ => law.stopMedia_holds _

/-- The group before is stopped, and the new one started if ambient sounds are on. -/
theorem activateSoundGroup_holds (index : UInt16) : P (activateSoundGroup index) := by
  have starts (group : SoundGroup) : P (do
      if ← flag EngineVariables.ambientSoundsEnabled then startMedia group.media) := by
    refine law.bind (law.flag_holds EngineVariables.asked_ambientSoundsEnabled) fun on => ?_
    split
    · exact law.startMedia_holds _
    · exact law.pure _
  refine law.openCard_bind (fun _ => rfl) fun card => law.bind (law.lift _) fun group => ?_
  refine law.bind (law.minor (Session.minor_onVisual fun _ => rfl)) fun _ => ?_
  split
  · exact law.bind (law.stopMedia_holds _) fun _ => starts group
  · exact starts group

/-- The movie is put into the slot of its code, and what played there is stopped. -/
theorem activateMovie_holds (index : UInt16) : P (activateMovie index) := by
  refine law.openCard_bind (fun _ => rfl) fun card => law.bind (law.lift _) fun movie => ?_
  refine law.bind (law.minor (Session.minor_onVisual fun _ => rfl)) fun _ => ?_
  split
  · split
    · exact law.bind (law.stopMedia_holds _) fun _ => law.pure _
    · exact law.pure _
  · exact law.pure _

/-- A movie starts only if movies are on and its slot is enabled. -/
theorem startMovie_holds (code : UInt16) : P (startMovie code) := by
  refine law.bind (law.flag_holds EngineVariables.asked_moviesEnabled) fun on => ?_
  split
  · refine law.bind (law.movieSlot_holds code) fun slot => ?_
    split
    · refine law.bind (law.onMovie_holds code _) fun _ => ?_
      exact law.bind (law.startMedia_holds _) fun _ => law.record_holds trivial
    · exact law.pure _
  · exact law.record_holds trivial

/-- A movie is stopped only if it plays. -/
theorem stopMovie_holds (code : UInt16) : P (stopMovie code) := by
  refine law.bind (law.movieSlot_holds code) fun slot => ?_
  split
  · exact law.bind (law.onMovie_holds code _) fun _ => law.stopMedia_holds _
  · exact law.pure _

/-- The slot has to be there, and then its flag is set. -/
theorem setMovie_holds (code : UInt16) (enabled : Bool) : P (setMovie code enabled) :=
  law.bind (law.movieSlot_holds code) fun _ => law.onMovie_holds code _

end Composes

/-! ### Step by step -/

/-- A property of programs that holds of each step by itself, also of those that set something for a time or
take it back. -/
structure Stepwise (P : ∀ {α : Type}, Script α → Prop) : Prop extends Composes P where
  /-- A command is begun only while the world is not torn down. -/
  begins : ∀ {next : Script Flow} (command : Command), P next → P (do
    if (← Script.get).tornDown then return Flow.halt
    else
      modify (·.begin command)
      next)
  arms : ∀ code, P (modify fun session => { session with gate := session.gate.arm code, blockingMovie := true })
  awaited : ∀ code, P (record (.movieAwaited code))
  starts : ∀ media, P (modify (·.startMedia media true))
  waits : P awaitMovie
  answered : ∀ code outcome, P (modify fun session =>
    { session.onStage (·.note (.answered code outcome)) with blockingMovie := false })
  covers : P (modify fun session => { session with inScreenUpdate := true }.changeUpdates .covered)
  uncovers : ∀ before, P (modify fun session =>
    { session.changeUpdates (.restored before) with inScreenUpdate := false })
  leaving : ∀ running, P (modify fun session => { session with inLeave := running })
  fails : ∀ label error, P (modify (·.scriptFailed label error))

namespace Stepwise

variable {P : ∀ {α : Type}, Script α → Prop} (steps : Stepwise P)
include steps

/-- A blocking movie is a sequence of steps: the slot is marked and shown, the gate armed, the movie started and
waited for, the outcome noted, and then dealt with. -/
theorem startMovieBlocking_holds (code : UInt16) : P (startMovieBlocking code) := by
  refine steps.bind (steps.flag_holds EngineVariables.asked_moviesEnabled) fun on => ?_
  split
  · have shows := Session.minor_publishIfNeeded.comp
      (Session.minor_onMovie code fun slot => { slot with playing := true })
    refine steps.bind (steps.movieSlot_holds code) fun slot => steps.bind (steps.minor shows) fun _ => ?_
    refine steps.bind (steps.arms code) fun _ => steps.bind (steps.awaited code) fun _ => ?_
    refine steps.bind (steps.starts slot.media) fun _ => steps.bind steps.waits fun outcome => ?_
    refine steps.bind (steps.answered code outcome) fun _ => steps.bind (steps.onMovie_holds code _) fun _ => ?_
    cases outcome with
    | completed => exact steps.pure _
    | skipped => exact steps.bind (steps.stopMedia_holds _) fun _ => steps.goesOn (steps.record_holds trivial)
    | aborted => exact steps.pure _
  · exact steps.goesOn (steps.record_holds trivial)

/-- The screen-update script runs covered, and whatever came of it the cover is taken off before anything is
shown. -/
theorem enableScreenUpdates_holds {inner : List Command → Script Flow} (h : ∀ commands, P (inner commands)) :
    P (enableScreenUpdates inner) := by
  have shown : P (do
      modify fun session => (session.changeUpdates .enabled).publish
      return Flow.next) :=
    steps.goesOn (steps.minor (Session.minor_publish.comp (Session.minor_changeUpdates .enabled)))
  refine steps.reads (fun _ => rfl) fun session => ?_
  split
  · exact shown
  · refine steps.openCard_bind (fun _ => rfl) fun card => ?_
    split
    · exact shown
    · refine steps.reads (fun _ => rfl) fun session => steps.bind steps.covers fun _ => ?_
      refine steps.bind (steps.attempt (h _)) fun result => steps.bind (steps.uncovers _) fun _ => ?_
      refine steps.bind (steps.lift result) fun flow => ?_
      cases flow with
      | next => exact shown
      | goto target => exact steps.pure _
      | halt => exact steps.pure _

/-- A card is left in four steps: the mark is set, the leave script runs, the mark is taken off, the card is
closed. -/
theorem leaveCard_holds (h : P (runCardScript .leave)) : P leaveCard := by
  refine steps.reads (fun session => ?_) fun session => ?_
  · rw [session.card_isSome_essence]
  · split
    · refine steps.bind (steps.leaving true) fun _ => steps.bind h fun _ => ?_
      exact steps.bind (steps.leaving false) fun _ => steps.minor Session.minor_closeCard
    · exact steps.pure ()

/-- What holds of each step by itself is a law. -/
theorem law : Law P where
  toComposes := steps.toComposes
  begins := steps.begins
  awaits := steps.startMovieBlocking_holds
  covers := steps.enableScreenUpdates_holds
  leaves := steps.leaveCard_holds
  fails := steps.fails

end Stepwise

namespace Law

variable {P : ∀ {α : Type}, Script α → Prop} (law : Law P)
include law

section Inner

variable {inner : List Command → Script Flow} (h : ∀ commands, P (inner commands))
include h

/-- A branch looks the variable up and runs the list of the case that it finds. -/
theorem branch_holds (index : UInt16) (cases : List Case) : P (branch inner index cases) := by
  refine law.bind (law.variableName_holds index) fun name => law.reads (fun _ => rfl) fun session => ?_
  split
  · exact h _
  · exact law.pure _

/-- A law holds of every plain command, if it holds of the lists that may lie inside. -/
theorem carryOut_holds (instruction : Instruction) : P (carryOut inner instruction) := by
  -- Most commands do one minor thing and go on; the law is asked for itself only where a script lies inside, and
  -- where the command waits.
  have minor {change : Session → Session} (h : Session.Minor change) : P (do modify change; return Flow.next) :=
    law.goesOn (law.minor h)
  cases instruction with
  | gotoCard id => exact law.gotoCard_holds id
  | playSound id volume =>
    exact law.bind (law.startMedia_holds _) fun _ => law.goesOn (law.record_holds trivial)
  | setVariable index value =>
    refine law.bind (law.variableName_holds index) fun name => minor ⟨fun _ => ?_, ?_⟩
    · exact ⟨rfl, rfl, rfl, rfl, rfl, rfl, rfl, rfl, .refl, [], rfl, List.forall_mem_nil _⟩
    · exact ⟨fun essence => { essence with game := essence.game.insert name value }, fun _ => rfl⟩
  | setHotspot id enabled => exact law.goesOn (law.setHotspot_holds id enabled)
  | clearSoundGroup => exact law.goesOn law.clearSoundGroup_holds
  | setCursor cursor =>
    exact law.openCard_bind (fun _ => rfl) fun _ => minor (Session.minor_onVisual fun _ => rfl)
  | callExternal id args => exact law.goesOn (law.record_holds trivial)
  | scheduleTransition state =>
    refine minor ⟨fun _ => ?_, .of_unseen fun _ => rfl⟩
    exact ⟨rfl, rfl, rfl, rfl, rfl, rfl, rfl, rfl, .refl, [.asked state], rfl, by simp [Happening.Plain]⟩
  | refresh =>
    refine minor ⟨fun session => ?_, .of_unseen fun session => ?_⟩
    · split
      · exact session.aside_publish
      · exact .refl session
    · split
      · exact session.unseen_publish
      · rfl
  | disableScreenUpdates => exact minor (Session.minor_changeUpdates .disabled)
  | enableScreenUpdates => exact law.covers h
  | setMovie code enabled => exact law.goesOn (law.setMovie_holds code enabled)
  | disableAllMovies =>
    exact law.openCard_bind (fun _ => rfl) fun _ => minor (Session.minor_onVisual fun _ => rfl)
  | startMovieBlocking code => exact law.awaits code
  | startMovie code => exact law.goesOn (law.startMovie_holds code)
  | stopMovie code => exact law.goesOn (law.stopMovie_holds code)
  | scheduleCommand code due opcode args =>
    refine minor ⟨fun _ => ?_, .of_unseen fun _ => rfl⟩
    exact ⟨rfl, rfl, rfl, rfl, rfl, rfl, rfl, rfl, .refl, [.scheduled _], rfl, by simp [Happening.Plain]⟩
  | activatePicture index =>
    refine law.openCard_bind (fun _ => rfl) fun _ => law.bind (law.lift _) fun _ => ?_
    exact minor (Session.minor_onVisual fun _ => rfl)
  | activateSoundGroup index => exact law.goesOn (law.activateSoundGroup_holds index)
  | activateMovie index => exact law.bind (law.activateMovie_holds index) fun _ => law.pure _
  | activateMovieAndStart index =>
    exact law.bind (law.activateMovie_holds index) fun code => law.goesOn (law.startMovie_holds code)
  | activateButton index =>
    refine law.openCard_bind (fun _ => rfl) fun _ => law.bind (law.lift _) fun button => ?_
    exact law.goesOn (law.setHotspot_holds _ _)

/-- A command is a plain one that has to be decoded first, or a branch. -/
theorem runCommand_holds (command : Command) : P (runCommand inner command) := by
  cases command with
  | op opcode args => exact law.bind (law.lift _) fun _ => law.carryOut_holds h _
  | branch index cases => exact law.branch_holds h index cases

end Inner

/-- A list begins its commands one by one, as long as the world is not torn down and none of them leads away. -/
theorem runEach_holds {run : Command → Script Flow} (h : ∀ command, P (run command))
    (commands : List Command) : P (runEach run commands) := by
  induction commands with
  | nil => exact law.pure _
  | cons command rest ih =>
    refine law.begins command (law.bind (h command) fun flow => ?_)
    cases flow with
    | next => exact law.bind (law.minor Session.minor_publishIfNeeded) fun _ => ih
    | goto target => exact law.pure _
    | halt => exact law.pure _

/-- By induction on the room that is left, a law holds of a list however deep lists lie in it. -/
theorem runList_holds (room : Nat) (commands : List Command) : P (runList room commands) := by
  induction room generalizing commands with
  | zero => exact law.fail _
  | succ room ih => exact law.runEach_holds (law.runCommand_holds ih) commands

/-! ## Scripts -/

/-- A script reports the error that ends its list, and goes no further with it. -/
theorem runScript_holds (label : String) (commands : List Command) : P (runScript label commands) := by
  refine law.bind (law.attempt (law.runList_holds _ commands)) fun result => ?_
  cases result with
  | ok flow => cases flow <;> exact law.pure _
  | error error => exact law.bind (law.fails label error) fun _ => law.pure _

/-- A card that has no such script runs nothing. -/
theorem runCardScript_holds (trigger : Trigger) : P (runCardScript trigger) := by
  refine law.reads (fun session => ?_) fun session => ?_
  · rw [session.card_bind_essence fun _ => rfl]
  · split
    · exact law.runScript_holds _ _
    · exact law.pure _

/-- A hotspot that is gone by now runs nothing. -/
theorem runHotspotScript_holds (index : UInt16) (trigger : Trigger) : P (runHotspotScript index trigger) := by
  refine law.reads (fun session => ?_) fun session => ?_
  · rw [session.card_bind_essence fun _ => rfl]
  · split
    · exact law.pure _
    · split
      · exact law.runScript_holds _ _
      · exact law.pure _

/-- The script of the active hotspot is run, if there is one. -/
theorem runActiveHotspot_holds (trigger : Trigger) : P (runActiveHotspot trigger) := by
  refine law.reads (fun _ => rfl) fun session => ?_
  split
  · exact law.runHotspotScript_holds _ _
  · exact law.pure _

/-! ## Card changes -/

/-- The stack is asked for and the card read from it, before anything of the session changes but what was
loaded. -/
theorem loadCard_holds (location : Location) : P (loadCard location) := by
  have asks : loadCard location = (do
      let session ← Script.get
      modify (·.resolved location)
      Script.lift (session.cardAt location)) := by
    funext session
    rw [loadCard_eq, get_bind, modify_bind]
    cases session.cardAt location <;> rfl
  have resolves : Session.Minor (·.resolved location) :=
    ⟨fun _ => ⟨rfl, rfl, rfl, rfl, rfl, rfl, rfl, rfl, .single ⟨location.stack, rfl⟩, [], rfl,
        List.forall_mem_nil _⟩,
      fun essence => essence.resolved location, fun _ => rfl⟩
  rw [asks]
  exact law.reads (fun _ => rfl) fun session => law.bind (law.minor resolves) fun _ => law.lift _

/-- The card is put in its place and runs its two scripts, and between them it is shown. -/
theorem arriveAt_holds (location : Location) (card : OpenCard) : P (arriveAt location card) := by
  have opens : Session.Minor fun session : Session =>
      { session with card := some card, location := some location }.changeUpdates .opened :=
    ⟨fun _ => ⟨rfl, rfl, rfl, rfl, rfl, rfl, rfl, rfl, .refl, [.updates .opened], rfl, by simp [Happening.Plain]⟩,
      fun essence =>
        { essence with card := some card.essence, location := some location, updatesEnabled := false },
      fun _ => rfl⟩
  have shows : Session.Minor fun session : Session => (session.changeUpdates .shown).publish :=
    Session.minor_publish.comp (Session.minor_changeUpdates .shown)
  refine law.bind (law.record_holds trivial) fun _ => law.bind (law.minor opens) fun _ => ?_
  refine law.bind (law.runCardScript_holds .prepare) fun redirected => law.bind (law.minor shows) fun _ => ?_
  cases redirected with
  | some target => exact law.pure _
  | none => exact law.runCardScript_holds .start

/-- The new card is loaded, the old one left, and the new one arrived at, in this order. -/
theorem changeCard_holds (location : Location) : P (changeCard location) :=
  law.bind (law.loadCard_holds location) fun card =>
    law.bind (law.leaves (law.runCardScript_holds .leave)) fun _ => law.arriveAt_holds location card

/-- A card that cannot be opened is noted before it is reported. -/
theorem refuse_holds (location : Location) (error : ScriptError) : P (modify (·.refuse location error)) := by
  have noted : P (modify (·.onStage (·.note (.refused location)))) :=
    law.minor (Session.minor_note trivial)
  exact law.bind noted fun _ => law.fails "goto" error

/-! ## Settling -/

/-- A move of the pointer is noted and runs the script of the hotspot, if that is still on the card. -/
private theorem makeKnown_holds (notice : Hotspot Float32 → Notice)
    (plain : ∀ hotspot, (Happening.recorded (notice hotspot)).Plain) (index : UInt16) (trigger : Trigger) :
    P (do
      match (← Script.get).card.bind (·.hotspots.get? index) with
      | some hotspot => record (notice hotspot)
      | none => Pure.pure ()
      runHotspotScript index trigger) := by
  refine law.reads (fun session => ?_) fun session => ?_
  · rw [session.card_bind_essence fun _ => rfl]
  · split
    · exact law.bind (law.record_holds (plain _)) fun _ => law.runHotspotScript_holds index trigger
    · exact law.runHotspotScript_holds index trigger

/-- The two moves differ in what is noted and in the script. -/
theorem makeMove_holds (move : HotspotMove) : P (makeMove move) := by
  cases move with
  | exited index => exact law.makeKnown_holds .hotspotExited (fun _ => trivial) index .mouseExit
  | entered index => exact law.makeKnown_holds .hotspotEntered (fun _ => trivial) index .mouseEnter

/-- The moves are made in order, until one of them leads to another card. -/
theorem makeMoves_holds (moves : List HotspotMove) : P (makeMoves moves) := by
  induction moves with
  | nil => exact law.pure none
  | cons move rest ih =>
    refine law.bind (law.makeMove_holds move) fun target => ?_
    cases target with
    | some target => exact law.pure _
    | none => exact ih

/-- The pointer is tested once, the tracker moved, and the moves are made that follow from it. -/
theorem refreshHover_holds : P refreshHover := by
  have tracks (hit : Option UInt16) :
      Session.Minor fun session => { session with tracker := session.tracker.moveTo hit } :=
    ⟨fun _ => ⟨rfl, rfl, rfl, rfl, rfl, rfl, rfl, rfl, .refl, [], rfl, List.forall_mem_nil _⟩,
      fun essence => { essence with tracker := essence.tracker.moveTo hit }, fun _ => rfl⟩
  refine law.reads (fun session => ?_) fun session =>
    law.bind (law.minor (tracks _)) fun _ => law.makeMoves_holds _
  rw [session.hotspotUnderPointer_essence]
  rfl

/-- A card change that was asked for is made, and refused if it fails. -/
theorem followTo_holds (pending : Option Location) : P (followTo pending) := by
  cases pending with
  | none => exact law.pure none
  | some location =>
    refine law.bind (law.attempt (law.changeCard_holds location)) fun result => ?_
    cases result with
    | ok next => exact law.pure next
    | error error => exact law.bind (law.refuse_holds location error) fun _ => law.pure none

/-- By induction on the turns: each follows a card change or tests the pointer. -/
theorem settleWithin_holds (turns : Nat) (pending : Option Location) : P (settleWithin turns pending) := by
  induction turns generalizing pending with
  | zero => exact law.minor (Session.minor_note trivial)
  | succ turns ih =>
    refine law.bind (law.followTo_holds pending) fun next => ?_
    cases next with
    | some target => exact ih (some target)
    | none =>
      refine law.bind law.refreshHover_holds fun next => ?_
      cases next with
      | some target => exact ih (some target)
      | none => exact law.pure ()

/-- Settling takes as many turns as a chain of cards may have. -/
theorem settle_holds (pending : Option Location) : P (settle pending) :=
  law.settleWithin_holds maxCardChain pending

/-- What a click does once the button is known to be held, or not to be. -/
theorem active_settle_holds (trigger : Trigger) : P (runActiveHotspot trigger >>= settle) :=
  law.bind (law.runActiveHotspot_holds trigger) law.settle_holds

/-! ## Events -/

/-- The card is changed and everything settles, or the change is refused and the event fails. -/
theorem goto_holds (location : Location) : P (goto location) := by
  refine law.bind (law.attempt (law.changeCard_holds location)) fun result => ?_
  cases result with
  | ok pending => exact law.settle_holds pending
  | error error => exact law.bind (law.refuse_holds location error) fun _ => law.fail error

/-- The variables are put in place before the card is gone to, and put back if that fails. -/
theorem restore_holds (state : GameState) : P (restore state) := by
  have puts (game : GameVariables) : Session.Minor fun session : Session => { session with game } :=
    ⟨fun _ => ⟨rfl, rfl, rfl, rfl, rfl, rfl, rfl, rfl, .refl, [], rfl, List.forall_mem_nil _⟩,
      fun essence => { essence with game }, fun _ => rfl⟩
  have put (game : GameVariables) : P (modify fun session : Session => { session with game }) :=
    law.minor (puts game)
  have recorded : P (record .stateRestored) := law.record_holds trivial
  refine law.reads (fun _ => rfl) fun session => law.bind (put state.game) fun _ => ?_
  cases state.location with
  | none => exact law.bind (law.pure ()) fun _ => recorded
  | some location =>
    refine law.bind (law.attempt (law.goto_holds location)) fun result => ?_
    cases result with
    | ok _ => exact law.bind (law.pure ()) fun _ => recorded
    | error error => exact law.bind (put session.game) fun _ => law.bind (law.fail error) fun _ => recorded

/-- The slot is cleared and the card shown, if a card is open. -/
theorem movieFinished_holds (code : UInt16) : P (movieFinished code) := by
  refine law.reads (fun session => ?_) fun session => ?_
  · rw [session.card_isSome_essence]
  · split
    · refine law.bind (law.onMovie_holds code _) fun _ => law.bind (law.record_holds trivial) fun _ => ?_
      exact law.minor Session.minor_publishIfNeeded
    · exact law.pure ()

/-- The mapper and the hotspots are made anew for the viewport; what they are is part of the essence. -/
theorem viewportChanged_holds (viewport : Size Float32) : P (viewportChanged viewport) := by
  let fits (mapper : Mapper Float32) (card : OpenCard) : OpenCard :=
    { card with hotspots := card.hotspots.resize mapper }
  let resized (session : Session) : Session :=
    { session.onCard (fits (session.mapper.resize viewport)) with mapper := session.mapper.resize viewport }
  have resizes : Session.Minor resized := by
    refine ⟨fun _ => ⟨rfl, rfl, rfl, rfl, rfl, rfl, rfl, rfl, .refl, [], rfl, List.forall_mem_nil _⟩, resized,
      fun session => ?_⟩
    have card (mapper : Mapper Float32) : (session.card.map (fits mapper)).map OpenCard.essence
        = (session.card.map OpenCard.essence).map (fits mapper) := by
      cases session.card <;> rfl
    calc
      (resized session).essence
        = { session.essence with
            mapper := session.mapper.resize viewport
            card := (session.card.map (fits (session.mapper.resize viewport))).map OpenCard.essence } := rfl
      _ = resized session.essence := by
        rw [card]
        rfl
  refine law.bind (law.minor resizes) fun _ => ?_
  exact law.bind (law.minor Session.minor_publishIfNeeded) fun _ => law.settle_holds none

/-- The pointer is where it was moved to, and everything settles. -/
theorem pointerMoved_holds (point : Point Float32) : P (pointerMoved point) := by
  refine law.bind (law.minor ⟨fun _ => ?_, ?_⟩) fun _ => law.settle_holds none
  · exact ⟨rfl, rfl, rfl, rfl, rfl, rfl, rfl, rfl, .refl, [], rfl, List.forall_mem_nil _⟩
  · exact ⟨fun essence => { essence with pointer := some point }, fun _ => rfl⟩

/-! ### The animation clock

It looks at the cues and at the button, so this is for laws that let a program look at everything. -/

/-- The cues of a tick run in order until one of them asks for a card. -/
theorem runCues_holds (cues : List Cue) : P (runCues cues) := by
  induction cues with
  | nil => exact law.pure none
  | cons cue rest ih =>
    refine law.bind (law.minor (Session.minor_note trivial)) fun _ => ?_
    refine law.bind (law.runScript_holds _ _) fun target => ?_
    cases target with
    | some target => exact law.pure _
    | none => exact ih

section Clock

variable (looks : P Script.get)
include looks

/-- What is due is taken off the schedule and run. -/
theorem fireCues_holds : P fireCues := by
  have takes : Session.Minor Session.takeDue := by
    refine ⟨fun session => ?_, .of_unseen fun _ => rfl⟩
    exact ⟨rfl, rfl, rfl, rfl, rfl, rfl, rfl, rfl, .refl, [.cuesTaken session.player.positions], rfl,
      by simp [Happening.Plain]⟩
  exact law.bind looks fun session => law.bind (law.minor takes) fun _ => law.runCues_holds _

/-- A tick runs the scripts of the active hotspot, then the cues that are due, and settles once. -/
theorem animationTick_holds : P animationTick := by
  refine law.bind looks fun session => ?_
  have onward (held : Option Location) :
      P (if held.isNone then fireCues >>= settle else Pure.pure held >>= settle : Script Unit) := by
    split
    · exact law.bind (law.fireCues_holds looks) law.settle_holds
    · exact law.bind (law.pure held) law.settle_holds
  split
  · refine law.bind (law.runActiveHotspot_holds .mouseInside) fun inside => law.bind looks fun _ => ?_
    dsimp only
    split
    · exact law.bind (law.runActiveHotspot_holds .mouseStillDown) onward
    · exact law.bind (law.pure inside) onward
  · exact law.pure ()

/-- The law holds of every event, given that it holds of the two clicks. -/
theorem event_holds (event : Event)
    (pressed : event = .message .pointerDown → P pointerDown)
    (released : event = .message .pointerUp → P pointerUp) : P event.script := by
  cases event with
  | message sent =>
    cases sent with
    | goto location ticket => exact law.goto_holds location
    | restore state ticket => exact law.restore_holds state
    | pointerMoved point => exact law.pointerMoved_holds point
    | pointerDown => exact pressed rfl
    | pointerUp => exact released rfl
    | viewport size => exact law.viewportChanged_holds size
    | movieFinished code => exact law.movieFinished_holds code
    | tick => exact law.animationTick_holds looks
  | shutdown => exact law.minor Session.minor_closeCard

end Clock

end Law

end Script

end Diorama
