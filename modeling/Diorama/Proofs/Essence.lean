import Diorama.Proofs.Events

/-!
# What scripts go by

Much of what a session holds is there to be handed to somebody: the snapshots and requests for the display, the
log, the requests to the player. No script looks at it, so it cannot make a difference to what scripts do. What
is left without it is the *essence* of a session: the stacks, the location and the game variables, the open card
but for its picture and cursor, the pointer and where it was, the gate, how the player will reply, the two
engine variables that scripts ask for, and the flags that say in what circumstances a script runs.

The button, the cues and the positions of movies are not part of it either. They matter to the animation clock
alone.

A change of the session is `Session.Essential` if it makes the same of sessions with the same essence; and what
others do to the stage is essential, whatever it is.
-/

namespace Diorama

/-! ## The essence -/

namespace EngineVariables

/-- The two engine variables that scripts ask for. -/
def essence (settings : EngineVariables) : EngineVariables :=
  .ofList [(moviesEnabled, .bool (settings.flag moviesEnabled)),
    (ambientSoundsEnabled, .bool (settings.flag ambientSoundsEnabled))]

/-- A variable that is the same in the essence. -/
def Asked (path : String) : Prop :=
  ∀ settings : EngineVariables, settings.essence.flag path = settings.flag path

/-- A variable that was just set has nothing to do with the others. -/
theorem flag_insert_of_ne (settings : EngineVariables) {path other : String} (value : EngineValue)
    (apart : other ≠ path) : flag (settings.insert path value) other = settings.flag other := by
  rw [flag, SortedMap.get?_insert, if_neg apart]
  rfl

/-- Whether a variable that was just set is true has nothing to do with the others. -/
theorem flag_insert_self (settings others : EngineVariables) (path : String) (value : EngineValue) :
    flag (settings.insert path value) path = flag (others.insert path value) path := by
  rw [flag, flag, SortedMap.get?_insert, SortedMap.get?_insert, if_pos rfl, if_pos rfl]

/-- Whether movies are on is part of the essence. -/
theorem asked_moviesEnabled : Asked moviesEnabled := by
  intro settings
  change flag ((SortedMap.empty.insert moviesEnabled (.bool _)).insert ambientSoundsEnabled _) _ = _
  rw [flag_insert_of_ne _ _ (by decide), flag, SortedMap.get?_insert, if_pos rfl]

/-- Whether ambient sounds are on is part of the essence. -/
theorem asked_ambientSoundsEnabled : Asked ambientSoundsEnabled := by
  intro settings
  change flag ((SortedMap.empty.insert moviesEnabled _).insert ambientSoundsEnabled (.bool _)) _ = _
  rw [flag, SortedMap.get?_insert, if_pos rfl]

/-- Variables in which these two are the same have the same essence. -/
theorem essence_congr {settings others : EngineVariables}
    (movies : settings.flag moviesEnabled = others.flag moviesEnabled)
    (sounds : settings.flag ambientSoundsEnabled = others.flag ambientSoundsEnabled) :
    settings.essence = others.essence := by
  rw [essence, essence, movies, sounds]

/-- What a new value makes of the essence depends on the essence alone. -/
theorem essence_insert (settings : EngineVariables) (path : String) (value : EngineValue) :
    essence (settings.insert path value) = essence (settings.essence.insert path value) := by
  have same {other : String} (asked : Asked other) :
      flag (settings.insert path value) other = flag (settings.essence.insert path value) other := by
    by_cases here : other = path
    · subst here
      exact flag_insert_self settings settings.essence other value
    · rw [flag_insert_of_ne _ _ here, flag_insert_of_ne _ _ here, asked]
  exact essence_congr (same asked_moviesEnabled) (same asked_ambientSoundsEnabled)

end EngineVariables

/-- What is shown of a card, without its picture and cursor. -/
def CardVisual.essence (visual : CardVisual) : CardVisual :=
  { visual with picture := none, cursor := none }

/-- A card, without what only the display sees. -/
def OpenCard.essence (card : OpenCard) : OpenCard :=
  { card with visual := card.visual.essence, published := none }

namespace Session

/-- What scripts go by. -/
def essence (session : Session) : Session :=
  { session with
    config := {}
    settings := session.settings.essence
    frames := {}
    log := .withCapacity 0
    display := []
    player := { replies := session.player.replies, lastReply := session.player.lastReply }
    blockingMovie := false
    transcript := []
    card := session.card.map OpenCard.essence
    buttonDown := false
    cues := []
    held := []
    begun := []
    starts := [] }

/-- The two sessions are the same to scripts. -/
def Alike (session twin : Session) : Prop :=
  twin.essence = session.essence

/-- What the change makes of the essence of a session depends on that alone. -/
def Essential (change : Session → Session) : Prop :=
  ∃ made : Session → Session, ∀ session, (change session).essence = made session.essence

variable {change next : Session → Session}

/-- Sessions that are alike stay so if the same essential change is made to both. -/
theorem Essential.alike (h : Essential change) {session twin : Session} (alike : session.Alike twin) :
    (change session).Alike (change twin) := by
  obtain ⟨made, same⟩ := h
  rw [Alike, same, same, alike]

/-- Essential changes can be made one after the other. -/
theorem Essential.comp (h : Essential next) (h' : Essential change) :
    Essential fun session => next (change session) := by
  obtain ⟨made, same⟩ := h
  obtain ⟨made', same'⟩ := h'
  exact ⟨fun essence => made (made' essence), fun session => by rw [same, same']⟩

/-- Nothing is seen here of a change that leaves the essence as it is. -/
theorem Essential.of_unseen (unseen : ∀ session : Session, (change session).essence = session.essence) :
    Essential change :=
  ⟨id, unseen⟩

/-! ## Changes of the card -/

/-- A change of the card is essential if it goes by what scripts see of the card. -/
theorem essential_onCard {change : OpenCard → OpenCard}
    (h : ∀ card : OpenCard, (change card).essence = (change card.essence).essence) :
    Essential (·.onCard change) := by
  refine ⟨fun essence => { essence with card := essence.card.map fun card => (change card).essence },
    fun session => ?_⟩
  have same : (session.card.map change).map OpenCard.essence
      = (session.card.map OpenCard.essence).map fun card => (change card).essence := by
    rw [Option.map_map, Option.map_map]
    exact Option.map_congr fun card _ => h card
  unfold essence Session.onCard
  dsimp only
  rw [same]

/-- A change of what the card shows is essential if it goes by what scripts see of that. -/
theorem essential_onVisual {change : CardVisual → CardVisual}
    (h : ∀ visual : CardVisual, (change visual).essence = (change visual.essence).essence) :
    Essential (·.onVisual change) := by
  refine essential_onCard fun card => ?_
  unfold OpenCard.essence
  dsimp only
  rw [h card.visual]

/-- The slots of the movies are part of the essence. -/
theorem essential_onMovie (code : UInt16) (change : MovieSlot → MovieSlot) :
    Essential (·.onMovie code change) := by
  refine essential_onVisual fun visual => ?_
  have same : visual.essence.movies = visual.movies := rfl
  rw [same]
  cases visual.movies.get? code <;> rfl

/-! ## Changes that are not seen -/

/-- That the display was handed a snapshot is not part of the essence. -/
theorem unseen_showCard (session : Session) : session.showCard.essence = session.essence := by
  unfold Session.showCard
  cases isOpen : session.card with
  | none => rfl
  | some card =>
    unfold essence
    rw [isOpen]
    rfl

/-- Nor is anything else that is published. -/
theorem unseen_publish (session : Session) : session.publish.essence = session.essence :=
  look_publish essence (fun _ _ => rfl) (fun _ => rfl) unseen_showCard session

/-- Nor does it matter whether it was needed. -/
theorem unseen_publishIfNeeded (session : Session) : session.publishIfNeeded.essence = session.essence :=
  look_publishIfNeeded essence (fun _ _ => rfl) (fun _ => rfl) unseen_showCard session

/-! ## Looks at the session -/

/-- A look at the card that does not see its picture and cursor is a look at the essence. -/
theorem card_bind_essence (session : Session) {β : Type} {look : OpenCard → Option β}
    (same : ∀ card : OpenCard, look card.essence = look card) :
    session.essence.card.bind look = session.card.bind look := by
  rw [essence, Option.bind_map]
  exact congrArg _ (funext same)

/-- Whether a card is open is part of the essence. -/
theorem card_isSome_essence (session : Session) : session.essence.card.isSome = session.card.isSome :=
  Option.isSome_map

/-- What is under the pointer is decided by the essence. -/
theorem hotspotUnderPointer_essence (session : Session) :
    session.essence.hotspotUnderPointer = session.hotspotUnderPointer :=
  session.card_bind_essence fun _ => rfl

/-! ## Other changes -/

/-- Whether updates are shown is part of the essence, for scripts run on either way. -/
theorem essential_changeUpdates (change : UpdatesChange) : Essential (·.changeUpdates change) :=
  ⟨fun essence => { essence with updatesEnabled := change.enables }, fun _ => rfl⟩

/-- What the player does to the gate does not depend on what it was asked for before. -/
theorem essential_startMedia (media : MediaRef) (blocking : Bool) :
    Essential (·.startMedia media blocking) := by
  refine ⟨fun essence =>
    { essence with
      gate := (essence.player.start media blocking).1.foldl MovieGate.receive essence.gate
      player :=
        { replies := (essence.player.start media blocking).2.replies
          lastReply := (essence.player.start media blocking).2.lastReply } }, fun session => ?_⟩
  dsimp only [Session.startMedia, onStage, Stage.startMedia, MediaPlayer.start, essence]
  cases blocking with
  | false => rfl
  | true =>
    cases media.movieCode? with
    | none => rfl
    | some code =>
      dsimp only
      cases session.player.replies <;> rfl

/-- What the player is told to stop is not part of the essence. -/
theorem unseen_stops (media : List MediaRef) (session : Session) :
    { session with toStage := media.foldl Stage.stopMedia session.toStage : Session }.essence
      = session.essence := by
  induction media generalizing session with
  | nil => rfl
  | cons head rest ih => exact ih (session.onStage (·.stopMedia head))

/-- What is left of the essence when a card is closed: no card, nothing tracked, and updates enabled. -/
theorem essence_closeCard_of_some {session : Session} {card : OpenCard} (isOpen : session.card = some card) :
    session.closeCard.essence =
      { session.essence with card := none, tracker := {}, updatesEnabled := true } := by
  unfold closeCard
  rw [isOpen]
  change ({ essence { session with toStage := (playing card).foldl Stage.stopMedia session.toStage } with
    card := none, tracker := {}, updatesEnabled := true } : Session) = _
  rw [unseen_stops]

/-- Closing goes by whether there is a card. -/
theorem essential_closeCard : Essential closeCard := by
  refine ⟨fun essence => if essence.card.isSome then
    { essence with card := none, tracker := {}, updatesEnabled := true } else essence, fun session => ?_⟩
  dsimp only
  rw [card_isSome_essence]
  cases isOpen : session.card with
  | none =>
    rw [closeCard_of_none isOpen]
    rfl
  | some card => exact essence_closeCard_of_some isOpen

/-- What a failure takes back is the picture and the cursor, which no script sees. -/
theorem essential_scriptFailed (label : String) (error : ScriptError) :
    Essential (·.scriptFailed label error) := by
  refine ⟨fun essence => { essence with inScreenUpdate := false, updatesEnabled := true }, fun session => ?_⟩
  let settings := (session.settings.insert EngineVariables.scriptErrorFlag (.bool true)).insert
    EngineVariables.lastScriptError (.string error.message)
  have unasked : EngineVariables.essence settings = session.settings.essence := by
    have apart {path : String} (flag : path ≠ EngineVariables.scriptErrorFlag)
        (last : path ≠ EngineVariables.lastScriptError) :
        EngineVariables.flag settings path = session.settings.flag path := by
      rw [EngineVariables.flag_insert_of_ne _ _ last, EngineVariables.flag_insert_of_ne _ _ flag]
    exact EngineVariables.essence_congr (apart (by decide) (by decide)) (apart (by decide) (by decide))
  have card : (session.card.map OpenCard.discardUnpublished).map OpenCard.essence
      = session.card.map OpenCard.essence := by
    cases session.card <;> rfl
  calc
    (session.scriptFailed label error).essence
      = { session.essence with
          settings := EngineVariables.essence settings
          card := (session.card.map OpenCard.discardUnpublished).map OpenCard.essence
          inScreenUpdate := false
          updatesEnabled := true } := rfl
    _ = { session.essence with inScreenUpdate := false, updatesEnabled := true } := by
      rw [unasked, card]
      rfl

/-- What others do to the stage makes the same of sessions that are alike. -/
theorem essential_suffer (act : Outside) : Essential (·.suffer act) := by
  cases act with
  | setting path value =>
    let made (essence : Session) (settings : EngineVariables) : Session :=
      { essence with settings := EngineVariables.essence (settings.insert path value) }
    refine ⟨fun essence => made essence essence.settings, fun session => ?_⟩
    calc
      (session.suffer (.setting path value)).essence = made session.essence session.settings := rfl
      _ = made session.essence session.settings.essence := by
        unfold made
        rw [EngineVariables.essence_insert]
  | gate call => exact ⟨fun essence => essence.suffer (.gate call), fun _ => rfl⟩
  | gameVariable name value => exact ⟨fun essence => essence.suffer (.gameVariable name value), fun _ => rfl⟩
  | replies each lastReply => exact ⟨fun essence => essence.suffer (.replies each lastReply), fun _ => rfl⟩
  | preload key =>
    exact ⟨fun essence => { essence with resolver := (essence.resolver.resolve key).2 }, fun _ => rfl⟩
  | provider next => exact ⟨fun essence => essence.suffer (.provider next), fun _ => rfl⟩
  | clearStacks => exact ⟨fun essence => essence.suffer .clearStacks, fun _ => rfl⟩
  | tearDown => exact ⟨fun essence => essence.suffer .tearDown, fun _ => rfl⟩
  | position code milliseconds => exact .of_unseen fun _ => rfl
  | drain => exact .of_unseen fun _ => rfl

end Session

end Diorama
