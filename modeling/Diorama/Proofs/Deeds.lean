import Diorama.Proofs.Acts

/-!
# What commands do to what is played

`ScriptAct` says one thing at a time, and between two of them the card and the player may disagree: a slot
says that its movie is playing before the player has been asked. A command puts that right before it ends.
So what is to hold of what is played is proved of larger steps, the deeds: either an act that does not touch
what is played (`QuietAct`), or all that a command does to a movie or a sound group in one go. Each deed
carries the reasons for which the command does it.

A deed is a chain of acts (`Deed.chain`), so what every act keeps, every deed keeps.
-/

namespace Diorama

/-! ## What is played -/

/-- What the player is to know of a slot: which movie lies in it, and whether it is playing. -/
def MovieSlot.heard (slot : MovieSlot) : Movie × Bool :=
  (slot.movie, slot.playing)

/-- Nothing about it bears on what goes on playing. One-shot sounds end by themselves. -/
def Happening.Silent : Happening → Prop
  | .started (.sound _ _) _ => True
  | .started _ _ | .stopped _ | .answered _ .completed | .answered _ .aborted => False
  | .recorded (.movieFinished _) | .recorded (.cardOpened _) | .recorded (.cardClosed _) => False
  | _ => True

/-- What scripts write to the log by itself starts and stops nothing. -/
theorem Notice.OfScript.silent {notice : Notice} (ofScript : notice.OfScript) :
    (Happening.recorded notice).Silent := by
  cases notice <;> trivial

namespace Session

/-- The slot of the open card under a code. -/
def movie? (session : Session) (code : UInt16) : Option MovieSlot :=
  session.card.bind (·.visual.movies.get? code)

/-- The sound group of the open card, which its record should list. -/
def group? (session : Session) : Option (Except ScriptError SoundGroup) :=
  session.card.bind fun card => card.visual.soundGroup.map card.soundGroup

/-- Nothing that is played is touched. -/
structure PlaysSame (session later : Session) : Prop where
  movies : ∀ code, (later.movie? code).map MovieSlot.heard = (session.movie? code).map MovieSlot.heard
  group : later.group? = session.group?
  transcript : ∃ during, later.transcript = during ++ session.transcript ∧
    ∀ happening ∈ during, happening.Silent

/-- To change the slot of one code leaves the slots of the others alone. -/
theorem movie?_onMovie (session : Session) (code : UInt16) (change : MovieSlot → MovieSlot)
    (other : UInt16) : (session.onMovie code change).movie? other
      = if other = code then (session.movie? code).map change else session.movie? other := by
  cases isOpen : session.card with
  | none => simp [onMovie, onVisual, onCard, movie?, isOpen]
  | some card =>
    cases found : card.visual.movies.get? code with
    | none =>
      simp only [onMovie, onVisual, onCard, movie?, isOpen, Option.map_some, Option.bind_some, found]
      split <;> simp_all
    | some slot =>
      simp [onMovie, onVisual, onCard, movie?, isOpen, found, SortedMap.get?_insert]

/-- The slots of movies have nothing to do with the sound group. -/
theorem group?_onMovie (session : Session) (code : UInt16) (change : MovieSlot → MovieSlot) :
    (session.onMovie code change).group? = session.group? := by
  cases isOpen : session.card with
  | none => simp [onMovie, onVisual, onCard, group?, isOpen]
  | some card =>
    simp only [onMovie, onVisual, onCard, group?, isOpen, Option.map_some, Option.bind_some]
    split <;> rfl

namespace PlaysSame

/-- Nothing is touched where nothing is done. -/
theorem refl (session : Session) : session.PlaysSame session :=
  ⟨fun _ => rfl, rfl, [], rfl, fun _ among => nomatch among⟩

/-- Between two sessions nothing is touched if nothing is on the way; what is noted is put together. -/
theorem trans {session between later : Session} (h : session.PlaysSame between)
    (h' : between.PlaysSame later) : session.PlaysSame later := by
  obtain ⟨first, same, silent⟩ := h.transcript
  obtain ⟨second, same', silent'⟩ := h'.transcript
  refine ⟨fun code => (h'.movies code).trans (h.movies code), h'.group.trans h.group, second ++ first, ?_, ?_⟩
  · rw [same', same, List.append_assoc]
  · intro happening among
    rcases List.mem_append.mp among with among | among
    · exact silent' happening among
    · exact silent happening among

/-- Something that does not concern the card, with at most one happening. -/
theorem ofCard {session later : Session} (card : later.card = session.card) (happening : Option Happening)
    (transcript : later.transcript = happening.toList ++ session.transcript)
    (silent : ∀ h ∈ happening, h.Silent) : session.PlaysSame later := by
  refine ⟨fun code => ?_, ?_, happening.toList, transcript, ?_⟩
  · rw [movie?, movie?, card]
  · rw [group?, group?, card]
  · intro h among
    exact silent h (Option.mem_toList.mp among)

/-- A change of the card that leaves its movies and its sound group as they are. -/
theorem onCard {session : Session} {change : OpenCard → OpenCard}
    (movies : ∀ card code, ((change card).visual.movies.get? code).map MovieSlot.heard
      = (card.visual.movies.get? code).map MovieSlot.heard)
    (group : ∀ card, (change card).visual.soundGroup.map (change card).soundGroup
      = card.visual.soundGroup.map card.soundGroup) :
    session.PlaysSame (session.onCard change) := by
  refine ⟨fun code => ?_, ?_, [], rfl, fun _ among => nomatch among⟩
  · cases isOpen : session.card with
    | none => simp [movie?, Session.onCard, isOpen]
    | some card => simp [movie?, Session.onCard, isOpen, movies]
  · cases isOpen : session.card with
    | none => simp [group?, Session.onCard, isOpen]
    | some card => simp [group?, Session.onCard, isOpen, group]

end PlaysSame

end Session

/-! ## Quiet acts -/

/-- An act that leaves alone what is played. -/
structure QuietAct (session later : Session) : Prop where
  act : ScriptAct session later
  same : session.PlaysSame later

/-- Anything that can happen while what is played is left alone. -/
def QuietChain : Session → Session → Prop :=
  Relation.ReflTransGen QuietAct

namespace QuietAct

variable {session : Session}

/-- One quiet act. -/
theorem chain {later : Session} (act : QuietAct session later) : QuietChain session later :=
  .single act

/-- What others do while a program waits is quiet, for they do not touch the card. -/
theorem suffered (act : Outside) : QuietAct session (session.suffer act) := by
  refine ⟨.suffered act, ?_⟩
  cases act with
  | drain => exact .ofCard rfl (some .drained) rfl (by simp [Happening.Silent])
  | preload key =>
    refine .ofCard rfl (some (.recorded _)) rfl ?_
    simp only [Option.mem_def, Option.some.injEq, forall_eq']
    split <;> trivial
  | _ => exact .ofCard rfl none rfl (by simp)

/-- That the gate is read is quiet; what follows from the outcome is not. -/
theorem answered {outcome : GateOutcome} {gate : MovieGate}
    (answered : session.gate.wait? = some (outcome, gate)) : QuietAct session { session with gate } :=
  ⟨.answered answered, .ofCard rfl none rfl (by simp)⟩

/-- An entry of the log. -/
theorem recorded (notice : Notice) (ofScript : notice.OfScript) :
    QuietAct session (session.record notice) :=
  ⟨.recorded notice ofScript, .ofCard rfl (some _) rfl (by simpa using ofScript.silent)⟩

/-- A sound that is played once ends by itself, so no slot is concerned. -/
theorem playsSound (id volume : UInt16) :
    QuietAct session (session.startMedia (.sound id volume) false) :=
  ⟨.started _ _, .ofCard rfl (some _) rfl (by simp [Happening.Silent])⟩

/-- The variables of the game are not played. -/
theorem setVariable (name : String) (value : UInt16) :
    QuietAct session { session with game := session.game.insert name value } :=
  ⟨.setVariable name value, .ofCard rfl none rfl (by simp)⟩

/-- Whether a hotspot is enabled is not heard. -/
theorem setHotspot {card : OpenCard} {hotspots : HotspotTable Float32} (id : UInt16) (enabled : Bool)
    (isOpen : session.card = some card) (found : card.hotspots.setEnabled? id enabled = some hotspots) :
    QuietAct session { session with card := some { card with hotspots } } := by
  refine ⟨.setHotspot id enabled isOpen found, fun code => ?_, ?_, [], rfl, fun _ among => nomatch among⟩
  · simp [Session.movie?, isOpen]
  · simp only [Session.group?, isOpen, Option.bind_some]
    rfl

/-- A change of what the card shows that leaves its movies and its sound group as they are. -/
theorem setVisual (change : CardVisual → CardVisual)
    (movies : ∀ visual code, ((change visual).movies.get? code).map MovieSlot.heard
      = (visual.movies.get? code).map MovieSlot.heard)
    (group : ∀ visual, (change visual).soundGroup = visual.soundGroup) :
    QuietAct session (session.onVisual change) := by
  refine ⟨.setVisual change, .onCard (fun card => movies card.visual) fun card => ?_⟩
  dsimp only
  rw [group card.visual]
  rfl

/-- Movies are enabled or disabled, whether they are playing or not. -/
theorem switchMovie (code : UInt16) (enabled : Bool) :
    QuietAct session (session.onMovie code fun slot => { slot with enabled }) := by
  refine setVisual _ (fun visual other => ?_) fun visual => ?_
  · dsimp only
    split
    next slot found =>
      rw [SortedMap.get?_insert]
      split
      next same => rw [same, found]; rfl
      next => rfl
    next => rfl
  · dsimp only
    split <;> rfl

/-- To switch all slots changes what may be started, but nothing that plays. -/
theorem switchMovies (enabled : Bool) : QuietAct session (session.onVisual fun visual =>
    { visual with movies := visual.movies.mapValues fun slot => { slot with enabled } }) := by
  refine setVisual _ (fun visual code => ?_) fun _ => rfl
  rw [SortedMap.get?_mapValues, Option.map_map]
  rfl

/-- A request is held back until something is published. -/
theorem holds (state : RenderState) : QuietAct session (session.hold state) :=
  ⟨.holds state, .ofCard rfl (some (.asked state)) rfl (by simp [Happening.Silent])⟩

/-- What is put on the schedule is done by the clock. -/
theorem schedules (cue : Cue) : QuietAct session (session.schedule cue) :=
  ⟨.schedules cue, .ofCard rfl (some (.scheduled cue)) rfl (by simp [Happening.Silent])⟩

/-- Whether updates are shown is not heard. -/
theorem changesUpdates (change : UpdatesChange) (ofScript : change.OfScript) :
    QuietAct session (session.changeUpdates change) :=
  ⟨.changesUpdates change ofScript, .ofCard rfl (some (.updates change)) rfl (by simp [Happening.Silent])⟩

/-- That the screen-update script is running is not heard. -/
theorem covers (running : Bool) : QuietAct session { session with inScreenUpdate := running } :=
  ⟨.covers running, .ofCard rfl none rfl (by simp)⟩

/-- The snapshot goes to the display, and the card remembers it, which changes none of its slots. -/
theorem shows (enabled : session.updatesEnabled = true) : QuietAct session session.showCard := by
  refine ⟨.shows enabled, ?_⟩
  cases isOpen : session.card with
  | none =>
    have same : session.showCard = session := by rw [Session.showCard, isOpen]
    rw [same]
    exact .refl session
  | some card =>
    have same : ∃ frame published frames, session.showCard =
        { session.onStage fun stage => { stage with frames }.note (.published frame) with
          card := some { card with published } } := by
      rw [Session.showCard, isOpen]
      exact ⟨_, _, _, rfl⟩
    obtain ⟨frame, published, frames, same⟩ := same
    rw [same]
    refine ⟨fun code => ?_, ?_, [.published frame], rfl, by simp [Happening.Silent]⟩
    · simp [Session.movie?, isOpen]
    · simp only [Session.group?, isOpen, Option.bind_some]
      rfl

/-- A request that was held back goes to the display. -/
theorem hands {state : RenderState} {rest : List RenderState} (first : session.held = state :: rest)
    (enabled : session.updatesEnabled = true) :
    QuietAct session { session.request state with held := rest } := by
  refine ⟨.hands first enabled, fun _ => rfl, rfl, [.recorded (.renderRequested state), .requested state],
    rfl, ?_⟩
  simp [Happening.Silent]

/-- A command that begins is noted, together with what it finds. -/
theorem begins (command : Command) (live : session.tornDown = false) :
    QuietAct session (session.begin command) :=
  ⟨.begins command live, .ofCard rfl none rfl (by simp)⟩

/-- A failed script gives the picture and the cursor back that were published last, and touches no slot. -/
theorem fails (label : String) (error : ScriptError) :
    QuietAct session (session.scriptFailed label error) := by
  refine ⟨.fails label error, ?_⟩
  have takenBack : session.PlaysSame (session.onCard (·.discardUnpublished)) :=
    .onCard (fun _ _ => rfl) fun _ => rfl
  refine ⟨takenBack.movies, takenBack.group,
    [.updates .failed, .recorded (.scriptFailed label error)], rfl, ?_⟩
  simp [Happening.Silent]

end QuietAct

namespace QuietChain

variable {session later : Session}

/-- Quiet acts are acts of scripts. -/
theorem script (chain : QuietChain session later) : ScriptChain session later :=
  Relation.ReflTransGen.mono (fun _ _ => QuietAct.act) _ _ chain

/-- No number of quiet acts touches what is played. -/
theorem playsSame (chain : QuietChain session later) : session.PlaysSame later := by
  induction chain with
  | refl => exact .refl session
  | tail _ act before => exact before.trans act.same

end QuietChain

/-! ## Publishing -/

namespace Session

/-- To hand requests over one by one concerns the stage alone. -/
private theorem foldl_request (states : List RenderState) (session : Session) :
    states.foldl request session = session.onStage (states.foldl Stage.request) := by
  induction states generalizing session with
  | nil => rfl
  | cons state rest ih => exact ih (session.request state)

section Publishing

variable {R : Session → Session → Prop}
  (shows : ∀ {session : Session}, session.updatesEnabled = true → R session session.showCard)
  (hands : ∀ {session : Session} {state : RenderState} {rest : List RenderState}, session.held = state :: rest →
    session.updatesEnabled = true → R session { session.request state with held := rest })
include hands

/-- Requests that are held are handed over one by one, the oldest first. -/
private theorem handHeld_steps {states : List RenderState} {session : Session}
    (held : session.held = states) (enabled : session.updatesEnabled = true) :
    Relation.ReflTransGen R session { states.foldl request session with held := [] } := by
  induction states generalizing session with
  | nil =>
    have same : session = { session with held := [] } := by rw [← held]
    exact same ▸ .refl
  | cons state rest ih =>
    let next : Session := { session.request state with held := rest }
    have handed : R session next := hands held enabled
    have same : { (state :: rest).foldl request session with held := [] }
        = { rest.foldl request next with held := [] } := by
      rw [foldl_request, foldl_request]
      rfl
    have onward : Relation.ReflTransGen R next { rest.foldl request next with held := [] } := ih rfl enabled
    rw [same]
    exact .head handed onward

/-- What is held is handed over in steps, each of them with permission. -/
theorem flushHeld_steps (session : Session) : Relation.ReflTransGen R session session.flushHeld := by
  unfold flushHeld
  split
  next enabled => exact handHeld_steps hands rfl enabled
  next => exact .refl

include shows

/-- To publish is to show the card and then to hand over the requests. -/
theorem publish_steps {session : Session} (enabled : session.updatesEnabled = true) :
    Relation.ReflTransGen R session session.publish :=
  .head (shows enabled) (flushHeld_steps hands session.showCard)

/-- Only what is not yet shown is shown, and only while updates are enabled. -/
theorem publishIfNeeded_steps (session : Session) : Relation.ReflTransGen R session session.publishIfNeeded := by
  unfold publishIfNeeded
  split
  next enabled =>
    split
    · exact publish_steps shows hands enabled
    · exact flushHeld_steps hands session
  next => exact .refl

end Publishing

/-- A publication is two acts, and either is done only with permission. -/
theorem publish_quiet {session : Session} (enabled : session.updatesEnabled = true) :
    QuietChain session session.publish :=
  publish_steps .shows .hands enabled

/-- Nothing that is played is touched by what is published after a command. -/
theorem publishIfNeeded_quiet (session : Session) : QuietChain session session.publishIfNeeded :=
  publishIfNeeded_steps .shows .hands session

section Look

variable {β : Type} (look : Session → β) (requested : ∀ session state, look (request session state) = look session)
  (emptied : ∀ session : Session, look { session with held := [] } = look session)
include requested emptied

/-- What is not concerned by requests is the same after those that were held have been handed over. -/
theorem look_flushHeld (session : Session) : look session.flushHeld = look session := by
  have handed (states : List RenderState) (session : Session) :
      look (states.foldl request session) = look session := by
    induction states generalizing session with
    | nil => rfl
    | cons state rest ih => exact (ih _).trans (requested session state)
  unfold flushHeld
  split
  · exact (emptied _).trans (handed _ _)
  · rfl

variable (shown : ∀ session, look (showCard session) = look session)
include shown

/-- What neither a request nor a snapshot changes, publishing does not change. -/
theorem look_publish (session : Session) : look session.publish = look session :=
  (look_flushHeld look requested emptied session.showCard).trans (shown session)

/-- Nor does it change where only what is needed is published. -/
theorem look_publishIfNeeded (session : Session) : look session.publishIfNeeded = look session := by
  unfold publishIfNeeded
  split
  · split
    · exact look_publish look requested emptied shown session
    · exact look_flushHeld look requested emptied session
  · rfl

end Look

/-- The requests that were held back are handed over by acts of scripts. -/
theorem flushHeld_chain (session : Session) : ScriptChain session session.flushHeld :=
  flushHeld_steps .hands session

/-- To publish is what scripts may do while updates are enabled. -/
theorem publish_chain {session : Session} (enabled : session.updatesEnabled = true) :
    ScriptChain session session.publish :=
  (publish_quiet enabled).script

/-- To publish what is needed is what scripts may do, for it asks itself whether updates are enabled. -/
theorem publishIfNeeded_chain (session : Session) : ScriptChain session session.publishIfNeeded :=
  session.publishIfNeeded_quiet.script

/-! ## What a command does in one go -/

/-- A movie is started, and nobody waits for it. -/
def startMovie (session : Session) (code : UInt16) (media : MediaRef) : Session :=
  (session.onMovie code fun slot => { slot with playing := true }).startMedia media false

/-- A movie is started and waited for: it is shown to be playing, the gate is armed, the player is asked. -/
def beginWait (session : Session) (code : UInt16) (media : MediaRef) : Session :=
  let shown := (session.onMovie code fun slot => { slot with playing := true }).publishIfNeeded
  let armed := { shown with gate := shown.gate.arm code, blockingMovie := true }
  (armed.record (.movieAwaited code)).startMedia media true

/-- The wait for a movie has ended, and the movie is no longer playing. If it was skipped it is stopped. -/
def endWait (session : Session) (code : UInt16) (media : MediaRef) (outcome : GateOutcome) : Session :=
  let told := { session.onStage (·.note (.answered code outcome)) with blockingMovie := false }
  let ended := told.onMovie code fun slot => { slot with playing := false }
  match outcome with
  | .skipped => ended.onStage (·.stopMedia media)
  | .completed | .aborted => ended

def stopMovie (session : Session) (code : UInt16) (media : MediaRef) : Session :=
  (session.onMovie code fun slot => { slot with playing := false }).onStage (·.stopMedia media)

/-- A movie is put into the slot of its code. The one that was there is stopped, if it was playing. -/
def putMovie (session : Session) (movie : Movie) : Session :=
  let put := session.onVisual fun visual =>
    { visual with movies := visual.movies.insert movie.code { movie } }
  match session.movie? movie.code with
  | some slot => if slot.playing then put.onStage (·.stopMedia slot.media) else put
  | none => put

/-- The sound group of a card is taken off, and stopped if the record lists it. -/
def clearGroup (session : Session) (card : OpenCard) (index : UInt16) : Session :=
  let cleared := session.onVisual fun visual => { visual with soundGroup := none }
  match card.soundGroup index with
  | .ok group => cleared.onStage (·.stopMedia group.media)
  | .error _ => cleared

/-- A sound group is put on, and another one that was on before is stopped. -/
def putGroup (session : Session) (card : OpenCard) (group : SoundGroup) : Session :=
  let put := session.onVisual fun visual => { visual with soundGroup := some group.index }
  let previous := (card.visual.soundGroup.filter (· != group.index)).bind fun index =>
    (card.soundGroup index).toOption
  match previous with
  | some previous => put.onStage (·.stopMedia previous.media)
  | none => put

/-! What the session notes of its own moments, most of this leaves as it is. -/

/-- Nothing has been noted as begun or started, and the engine variables are as they were. -/
structure NotesSame (session later : Session) : Prop where
  begun : later.begun = session.begun
  starts : later.starts = session.starts
  settings : later.settings = session.settings

/-- Showing the card is not noted as a moment. -/
theorem notes_showCard (session : Session) : session.NotesSame session.showCard := by
  unfold showCard
  split <;> exact ⟨rfl, rfl, rfl⟩

/-- Nor is publishing what is needed. -/
theorem notes_publishIfNeeded (session : Session) : session.NotesSame session.publishIfNeeded where
  begun := look_publishIfNeeded (·.begun) (fun _ _ => rfl) (fun _ => rfl) (·.notes_showCard.begun) session
  starts := look_publishIfNeeded (·.starts) (fun _ _ => rfl) (fun _ => rfl) (·.notes_showCard.starts) session
  settings := look_publishIfNeeded (·.settings) (fun _ _ => rfl) (fun _ => rfl) (·.notes_showCard.settings) session

/-- Nor is the end of a wait, for the start of the movie was. -/
theorem notes_endWait (session : Session) (code : UInt16) (media : MediaRef) (outcome : GateOutcome) :
    session.NotesSame (session.endWait code media outcome) := by
  cases outcome <;> exact ⟨rfl, rfl, rfl⟩

/-- Nor is a movie that is put into its slot. -/
theorem notes_putMovie (session : Session) (movie : Movie) : session.NotesSame (session.putMovie movie) := by
  unfold putMovie
  dsimp only
  split
  · split <;> exact ⟨rfl, rfl, rfl⟩
  · exact ⟨rfl, rfl, rfl⟩

/-- The movie lies in the slot of its code, enabled and not playing. -/
theorem movie?_putMovie {session : Session} {card : OpenCard} (isOpen : session.card = some card) (movie : Movie) :
    (session.putMovie movie).movie? movie.code = some { movie } := by
  have put : (session.onVisual fun visual =>
      { visual with movies := visual.movies.insert movie.code { movie } }).movie? movie.code = some { movie } := by
    simp [movie?, onVisual, onCard, isOpen, SortedMap.get?_insert]
  unfold putMovie
  dsimp only
  split
  · split <;> exact put
  · exact put

/-- Nor is a sound group that is taken off. -/
theorem notes_clearGroup (session : Session) (card : OpenCard) (index : UInt16) :
    session.NotesSame (session.clearGroup card index) := by
  unfold clearGroup
  dsimp only
  split <;> exact ⟨rfl, rfl, rfl⟩

/-- Nor is one that is put on. -/
theorem notes_putGroup (session : Session) (card : OpenCard) (group : SoundGroup) :
    session.NotesSame (session.putGroup card group) := by
  unfold putGroup
  dsimp only
  split <;> exact ⟨rfl, rfl, rfl⟩

end Session

/-- What a card gives for an index has that index. -/
theorem OpenCard.index_of_entry {α : Type} {list : ResourceList} {entries : List α} {indexOf : α → UInt16}
    {index : UInt16} {found : α} (listed : OpenCard.entry list entries indexOf index = .ok found) :
    indexOf found = index := by
  unfold OpenCard.entry at listed
  split at listed
  next here there =>
    cases listed
    simpa using List.find?_some there
  next => cases listed

/-- The movie that is waited for is playing while the wait lasts. -/
theorem Session.movie?_beginWait {session : Session} {code : UInt16} {slot : MovieSlot}
    (found : session.movie? code = some slot) (media : MediaRef) :
    ∃ playing, (session.beginWait code media).movie? code = some playing ∧ playing.playing = true ∧
      playing.media = slot.media := by
  let put := session.onMovie code fun slot => { slot with playing := true }
  have here : put.movie? code = some { slot with playing := true } := by
    simp [put, Session.movie?_onMovie, found]
  have heard := put.publishIfNeeded_quiet.playsSame.movies code
  rw [here] at heard
  obtain ⟨playing, there, same⟩ := Option.map_eq_some_iff.mp heard
  obtain ⟨movie, isPlaying⟩ := Prod.mk.inj same
  refine ⟨playing, there, isPlaying, ?_⟩
  change playing.movie = slot.movie at movie
  rw [MovieSlot.media, movie, MovieSlot.media]

/-- What movies the card has is of no concern to its sound group. -/
theorem Session.group?_onMovies (session : Session)
    (change : SortedMap UInt16 MovieSlot → SortedMap UInt16 MovieSlot) :
    (session.onVisual fun visual => { visual with movies := change visual.movies }).group? = session.group? := by
  unfold Session.group? Session.onVisual Session.onCard
  cases session.card <;> rfl

/-- A movie that is put into its slot leaves the sound group alone. -/
theorem Session.group?_putMovie (session : Session) (movie : Movie) :
    (session.putMovie movie).group? = session.group? := by
  have put := session.group?_onMovies (·.insert movie.code { movie })
  unfold Session.putMovie
  dsimp only
  split
  · split <;> exact put
  · exact put

/-- No group is on once it was taken off. -/
theorem Session.group?_takeOff (session : Session) :
    (session.onVisual fun visual => { visual with soundGroup := none }).group? = none := by
  unfold Session.group? Session.onVisual Session.onCard
  cases session.card <;> rfl

/-- No group is on after it was cleared, whether or not it could be stopped. -/
theorem Session.group?_clearGroup (session : Session) (card : OpenCard) (index : UInt16) :
    (session.clearGroup card index).group? = none := by
  unfold Session.clearGroup
  dsimp only
  split <;> exact session.group?_takeOff

/-- A group that has been put on is the one that the card has on. -/
theorem Session.group?_putGroup {session : Session} {card : OpenCard} {index : UInt16} {group : SoundGroup}
    (isOpen : session.card = some card) (listed : card.soundGroup index = .ok group) :
    (session.putGroup card group).group? = some (.ok group) := by
  have numbered : group.index = index := OpenCard.index_of_entry listed
  have put : (session.onVisual fun visual => { visual with soundGroup := some group.index }).group?
      = some (.ok group) := by
    rw [numbered, ← listed]
    simp only [Session.group?, Session.onVisual, Session.onCard, isOpen, Option.map_some, Option.bind_some]
    rfl
  unfold Session.putGroup
  dsimp only
  split
  · exact put
  · exact put

/-! ## Deeds -/

/-- What a command does in one go. -/
inductive Deed (session : Session) : Session → Prop where
  | quiet {later : Session} (act : QuietAct session later) : Deed session later
  | startsMovie {slot : MovieSlot} (code : UInt16) (found : session.movie? code = some slot)
      (on : session.settings.flag EngineVariables.moviesEnabled = true) (enabled : slot.enabled = true) :
      Deed session (session.startMovie code slot.media)
  | awaitsMovie {slot : MovieSlot} (code : UInt16) (found : session.movie? code = some slot)
      (on : session.settings.flag EngineVariables.moviesEnabled = true) :
      Deed session (session.beginWait code slot.media)
  | endsWait {slot : MovieSlot} (code : UInt16) (outcome : GateOutcome)
      (found : session.movie? code = some slot) (playing : slot.playing = true)
      (told : outcome = .aborted → session.gate.aborted = true) :
      Deed session (session.endWait code slot.media outcome)
  | stopsMovie {slot : MovieSlot} (code : UInt16) (found : session.movie? code = some slot)
      (playing : slot.playing = true) : Deed session (session.stopMovie code slot.media)
  | putsMovie {card : OpenCard} {index : UInt16} {movie : Movie} (isOpen : session.card = some card)
      (listed : card.movie index = .ok movie) : Deed session (session.putMovie movie)
  | clearsGroup {card : OpenCard} {index : UInt16} (isOpen : session.card = some card)
      (on : card.visual.soundGroup = some index) : Deed session (session.clearGroup card index)
  | putsGroup {card : OpenCard} {index : UInt16} {group : SoundGroup} (isOpen : session.card = some card)
      (listed : card.soundGroup index = .ok group) : Deed session (session.putGroup card group)
  | startsGroup {group : SoundGroup} (on : session.group? = some (.ok group)) :
      Deed session (session.startMedia group.media false)

/-- Anything that commands can do. -/
def DeedChain : Session → Session → Prop :=
  Relation.ReflTransGen Deed

/-- One deed. -/
theorem Deed.chain {session later : Session} (deed : Deed session later) : DeedChain session later :=
  .single deed

/-- A quiet act is a deed by itself. -/
theorem QuietAct.deed {session later : Session} (act : QuietAct session later) : DeedChain session later :=
  (Deed.quiet act).chain

/-- Quiet acts are deeds. -/
theorem QuietChain.deeds {session later : Session} (chain : QuietChain session later) :
    DeedChain session later :=
  Relation.ReflTransGen.mono (fun _ _ => Deed.quiet) _ _ chain

/-- A deed is done act by act. -/
theorem Deed.script {session later : Session} (deed : Deed session later) : ScriptChain session later := by
  have changed (change : CardVisual → CardVisual) : ScriptChain session (session.onVisual change) :=
    (ScriptAct.setVisual change).chain
  cases deed with
  | quiet act => exact act.act.chain
  | startsMovie code found on enabled => exact (changed _).tail (.started _ false)
  | awaitsMovie code found on =>
    let put := session.onMovie code fun slot => { slot with playing := true }
    have shown : ScriptChain session put.publishIfNeeded := (changed _).trans put.publishIfNeeded_chain
    exact (shown.tail (.awaits code)).tail (.started _ true)
  -- Only a movie that was skipped is stopped.
  | endsWait code outcome found playing told =>
    let told := { session.onStage (·.note (.answered code outcome)) with blockingMovie := false }
    have ended : ScriptChain session (told.onMovie code fun slot => { slot with playing := false }) :=
      (ScriptAct.unblocks code outcome).chain.tail (.setVisual _)
    cases outcome with
    | skipped => exact ended.tail (.stopped _)
    | completed => exact ended
    | aborted => exact ended
  | stopsMovie code found playing => exact (changed _).tail (.stopped _)
  | putsMovie isOpen listed =>
    unfold Session.putMovie
    dsimp only
    split
    next slot found =>
      split
      · exact (changed _).tail (.stopped _)
      · exact changed _
    next => exact changed _
  | clearsGroup isOpen on =>
    unfold Session.clearGroup
    dsimp only
    split
    · exact (changed _).tail (.stopped _)
    · exact changed _
  | putsGroup isOpen listed =>
    unfold Session.putGroup
    dsimp only
    split
    · exact (changed _).tail (.stopped _)
    · exact changed _
  | startsGroup on => exact (ScriptAct.started _ false).chain

namespace DeedChain

variable {session later : Session}

/-- Deeds are made of acts of scripts. -/
theorem script (chain : DeedChain session later) : ScriptChain session later := by
  induction chain with
  | refl => exact .refl
  | tail _ deed before => exact before.trans deed.script

/-- Chains of deeds last across waits, since what others do is quiet. -/
theorem lasting : Script.Lasting DeedChain where
  refl _ := .refl
  trans := .trans
  suffer _ act := (QuietAct.suffered act).deed
  answered answered := (QuietAct.answered answered).deed

/-- What every deed keeps, a chain of them keeps. -/
theorem keeps {holds : Session → Prop}
    (step : ∀ {session later}, Deed session later → holds session → holds later)
    (chain : DeedChain session later) (h : holds session) : holds later := by
  induction chain with
  | refl => exact h
  | tail _ deed before => exact step deed before

end DeedChain

end Diorama
