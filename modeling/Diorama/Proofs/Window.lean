import Diorama.Proofs.Hover

/-!
# The window, and what is worked out from it

The mapper keeps the frame of the card, and every hotspot of the open card keeps the rectangle in which it
appears. Both are worked out from the size of the window, and only now and then: the frame when the window
is told to have changed, a hotspot's rectangle then, too, and when its card is opened. `Ran.up_to_date` says
that nobody ever finds an old one, not even a script that waits for a movie: whatever has happened so far,
the frame is that of the last size told, and every hotspot lies where that frame puts it.

Two things make this true, and they are proved apart. The hotspots of the open card are those of its record
as the mapper of this moment lays them out, except that scripts may have switched them
(`Session.LaidOut`); this is kept by every act, since the one act that changes the mapper lays the open card
out again, whether or not the display may be shown it, and a card is opened under the mapper there is. And
the mapper is that of the last size told, which is not for acts to say but for events: only one event
resizes, and it does so once and first (`Event.window_sat`). So the sizes are read off the events of a run,
and `Ran` is a run with its events beside it.
-/

namespace Diorama

/-! ## Laying out hotspots -/

namespace HotspotTable

variable {R : Type} [Coordinate R]

/-- Laying out again forgets how things lay. -/
theorem resize_ofRecords (before after : Mapper R) (records : List HotspotRecord) :
    (ofRecords before records).resize after = ofRecords after records := by
  refine congrArg HotspotTable.mk (List.ext_getElem? fun place => ?_)
  rw [ofRecords, List.getElem?_map, List.getElem?_mapIdx, List.getElem?_mapIdx, Option.map_map]
  rfl

/-- Laying out has nothing to do with which hotspots are enabled. -/
theorem map_fixed_resize {table other : HotspotTable R}
    (same : table.hotspots.map Hotspot.fixed = other.hotspots.map Hotspot.fixed) (mapper : Mapper R) :
    (table.resize mapper).hotspots.map Hotspot.fixed = (other.resize mapper).hotspots.map Hotspot.fixed := by
  have commutes (table : HotspotTable R) : (table.resize mapper).hotspots.map Hotspot.fixed =
      (table.hotspots.map Hotspot.fixed).map fun hotspot =>
        { hotspot with frame := mapper.toWindow hotspot.rect } := by
    rw [resize, List.map_map, List.map_map]
    rfl
  rw [commutes, commutes, same]

end HotspotTable

/-- The hotspots of a card are those of its record, as a mapper lays them out. Scripts may have enabled and
disabled some. -/
def OpenCard.LaidOut (mapper : Mapper Float32) (card : OpenCard) : Prop :=
  card.hotspots.hotspots.map Hotspot.fixed
    = (HotspotTable.ofRecords mapper card.record.hotspots).hotspots.map Hotspot.fixed

namespace OpenCard

variable {mapper : Mapper Float32} {card later : OpenCard}

/-- A card is laid out when it is read, by the mapper it is read under. -/
theorem laidOut_of_load {stack : Stack} {id : UInt16} (loaded : load stack id mapper = .ok card) :
    card.LaidOut mapper := by
  obtain ⟨record, _, made⟩ := Except.bind_eq_ok_iff.mp loaded
  cases made
  rfl

/-- Scripts leave the hotspots where they are, and the record as it is. -/
theorem LaidOut.continues (laidOut : card.LaidOut mapper) (continues : card.Continues later) :
    later.LaidOut mapper := by
  rw [LaidOut, continues.hotspots, continues.record]
  exact laidOut

/-- Laid out again, a card is laid out by the next mapper. -/
theorem LaidOut.resize (laidOut : card.LaidOut mapper) (next : Mapper Float32) :
    ({ card with hotspots := card.hotspots.resize next } : OpenCard).LaidOut next := by
  have again := HotspotTable.map_fixed_resize laidOut next
  rwa [HotspotTable.resize_ofRecords] at again

/-- There are as many hotspots as the record has regions. -/
theorem LaidOut.length_eq (laidOut : card.LaidOut mapper) :
    card.hotspots.hotspots.length = card.record.hotspots.length := by
  have lengths := congrArg List.length laidOut
  simpa only [HotspotTable.ofRecords, List.length_map, List.length_mapIdx] using lengths

/-- A hotspot has the place of its region among those of the record, and appears where the mapper puts that
region. -/
theorem LaidOut.at (laidOut : card.LaidOut mapper) {place : Nat} {hotspot : Hotspot Float32}
    (found : card.hotspots.hotspots[place]? = some hotspot) :
    ∃ record, card.record.hotspots[place]? = some record ∧ hotspot.rect = .ofPixels record.rect
      ∧ hotspot.frame = mapper.toWindow hotspot.rect := by
  have fixed : (card.hotspots.hotspots.map Hotspot.fixed)[place]? = some hotspot.fixed := by
    rw [List.getElem?_map, found]
    rfl
  -- What is fixed of a hotspot leaves out whether it is enabled, which is all that scripts can change.
  rw [laidOut, List.getElem?_map, HotspotTable.ofRecords, List.getElem?_mapIdx, Option.map_map,
    Option.map_eq_some_iff] at fixed
  obtain ⟨record, there, same⟩ := fixed
  have rect : CardRect.ofPixels record.rect = hotspot.rect := congrArg Hotspot.rect same
  have frame : mapper.toWindow (.ofPixels record.rect) = hotspot.frame := congrArg Hotspot.frame same
  exact ⟨record, there, rect.symm, by rw [← frame, rect]⟩

end OpenCard

/-- The open card is laid out by the mapper there is. -/
def Session.LaidOut (session : Session) : Prop :=
  ∀ card, session.card = some card → card.LaidOut session.mapper

/-- A card that is laid out stays so while scripts run. -/
theorem Session.Continues.laidOut {session later : Session} (h : session.Continues later)
    (laidOut : session.LaidOut) : later.LaidOut := by
  intro card isOpen
  have related := h.card
  rw [isOpen] at related
  generalize original : session.card = before at related
  cases related with
  | some continues =>
    rw [h.mapper]
    exact (laidOut _ original).continues continues

/-- The one act that changes the mapper lays the card out again, and a card is opened under the mapper there is. -/
theorem EngineAct.laidOut {session later : Session} (act : EngineAct session later)
    (laidOut : session.LaidOut) : later.LaidOut := by
  cases act with
  | script act => exact act.continues.laidOut laidOut
  | closes =>
    intro card isOpen
    rw [session.closeCard_card] at isOpen
    cases isOpen
  | opens location closed key loaded =>
    intro card isOpen
    cases isOpen
    exact OpenCard.laidOut_of_load loaded
  | resizes viewport =>
    intro card isOpen
    obtain ⟨original, there, rfl⟩ := Option.map_eq_some_iff.mp isOpen
    exact (laidOut original there).resize (session.mapper.resize viewport)
  | _ => exact laidOut

/-- At every moment of a run the open card is laid out by the mapper of that moment. -/
theorem Reachable.laidOut {progress : Progress (Except ScriptError Unit)} (reachable : Reachable progress) :
    progress.session.LaidOut :=
  reachable.invariant (fun _ _ _ _ isOpen => nomatch isOpen) EngineAct.laidOut

/-! ## Who changes the mapper -/

/-- The mapper is as it was. -/
def Session.SameMapper (session later : Session) : Prop :=
  later.mapper = session.mapper

namespace Script

/-- Others who act while a program waits leave the mapper alone. -/
theorem sameMapper_lasting : Lasting Session.SameMapper where
  refl _ := rfl
  trans before after := after.trans before
  suffer _ _ := rfl
  answered _ := rfl

/-- A program to which the mapper is given. -/
def KeepsMapper {α : Type} (script : Script α) : Prop :=
  Does Session.SameMapper script

namespace KeepsMapper

variable {α β : Type} {script : Script α}

theorem pure (value : α) : KeepsMapper (Pure.pure value : Script α) :=
  Does.pure sameMapper_lasting value

theorem get : KeepsMapper Script.get :=
  Does.get sameMapper_lasting

/-- Programs to which the mapper is given can be put one after the other. -/
theorem bind {next : α → Script β} (h : KeepsMapper script) (h' : ∀ value, KeepsMapper (next value)) :
    KeepsMapper (script >>= next) :=
  Does.bind sameMapper_lasting h h'

theorem modify {change : Session → Session} (h : ∀ session, (change session).mapper = session.mapper) :
    KeepsMapper (Script.modify change) :=
  Does.modify h

theorem fail (error : ScriptError) : KeepsMapper (Script.fail error : Script α) :=
  Does.fail sameMapper_lasting error

theorem attempt (h : KeepsMapper script) : KeepsMapper (Script.attempt script) :=
  Does.attempt h

/-- Scripts leave the mapper alone. -/
theorem runs (runs : RunsScripts script) : KeepsMapper script :=
  runs.script.mono fun chain => chain.continues.mapper

end KeepsMapper

theorem record_keepsMapper (notice : Notice) : KeepsMapper (record notice) :=
  .modify fun _ => rfl

/-! ### Card changes -/

/-- The mapper is asked for when a card is loaded, and left as it is. -/
theorem loadCard_keepsMapper (location : Location) : KeepsMapper (loadCard location) := by
  intro session
  rw [loadCard_eq]
  rfl

/-- To leave a card is to run a script and to close the card. -/
theorem leaveCard_keepsMapper : KeepsMapper leaveCard := by
  refine .bind .get fun session => ?_
  split
  · refine .bind (.modify fun _ => rfl) fun _ => .bind (.runs (runCardScript_runs .leave)) fun _ => ?_
    exact .bind (.modify fun _ => rfl) fun _ => .modify Session.closeCard_mapper
  · exact .pure ()

/-- To arrive at a card is to put it in its place, to show it, and to run its scripts. -/
theorem arriveAt_keepsMapper (location : Location) (card : OpenCard) : KeepsMapper (arriveAt location card) := by
  have shows (session : Session) : (session.changeUpdates .shown).publish.mapper = session.mapper :=
    (Session.publish_chain rfl).continues.mapper
  refine .bind (record_keepsMapper _) fun _ => .bind (.modify fun _ => rfl) fun _ => ?_
  refine .bind (.runs (runCardScript_runs .prepare)) fun redirected => .bind (.modify shows) fun _ => ?_
  cases redirected with
  | some target => exact .pure _
  | none => exact .runs (runCardScript_runs .start)

/-- So the mapper outlives a card change. -/
theorem changeCard_keepsMapper (location : Location) : KeepsMapper (changeCard location) :=
  .bind (loadCard_keepsMapper location) fun card =>
    .bind leaveCard_keepsMapper fun _ => arriveAt_keepsMapper location card

/-! ### Settling -/

/-- A test of the pointer uses the hotspots as they lie. -/
theorem refreshHover_keepsMapper : KeepsMapper refreshHover := by
  refine .bind .get fun session => .bind (.modify fun _ => rfl) fun _ => ?_
  exact (makeMoves_hovers _).mono fun hovers => hovers.2.mapper

/-- Whether or not the card change succeeds. -/
theorem followTo_keepsMapper (pending : Option Location) : KeepsMapper (followTo pending) := by
  cases pending with
  | none => exact .pure none
  | some location =>
    refine .bind (.attempt (changeCard_keepsMapper location)) fun result => ?_
    cases result with
    | ok next => exact .pure next
    | error error => exact .bind (.modify fun _ => rfl) fun _ => .pure none

/-- By induction on the turns. -/
theorem settleWithin_keepsMapper (turns : Nat) (pending : Option Location) :
    KeepsMapper (settleWithin turns pending) := by
  induction turns generalizing pending with
  | zero => exact .modify fun _ => rfl
  | succ turns ih =>
    refine .bind (followTo_keepsMapper pending) fun next => ?_
    cases next with
    | some target => exact ih (some target)
    | none =>
      refine .bind refreshHover_keepsMapper fun next => ?_
      cases next with
      | some target => exact ih (some target)
      | none => exact .pure ()

theorem settle_keepsMapper (pending : Option Location) : KeepsMapper (settle pending) :=
  settleWithin_keepsMapper maxCardChain pending

/-- By induction on the cues. -/
theorem runCues_keepsMapper (cues : List Cue) : KeepsMapper (runCues cues) := by
  induction cues with
  | nil => exact .pure none
  | cons cue rest ih =>
    refine .bind (.modify fun _ => rfl) fun _ => .bind (.runs (runScript_runs _ _)) fun target => ?_
    cases target with
    | some target => exact .pure _
    | none => exact ih

theorem fireCues_keepsMapper : KeepsMapper fireCues :=
  .bind .get fun _ => .bind (.modify fun _ => rfl) fun _ => runCues_keepsMapper _

/-! ### Events -/

theorem goto_keepsMapper (location : Location) : KeepsMapper (goto location) := by
  refine .bind (.attempt (changeCard_keepsMapper location)) fun result => ?_
  cases result with
  | ok pending => exact settle_keepsMapper pending
  | error error => exact .bind (.modify fun _ => rfl) fun _ => .fail error

/-- A saved state has no window in it. -/
theorem restore_keepsMapper (state : GameState) : KeepsMapper (restore state) := by
  refine .bind .get fun session => .bind (.modify fun _ => rfl) fun _ => ?_
  cases state.location with
  | none => exact .bind (.pure ()) fun _ => record_keepsMapper _
  | some location =>
    refine .bind (.attempt (goto_keepsMapper location)) fun result => ?_
    cases result with
    | ok _ => exact .bind (.pure ()) fun _ => record_keepsMapper _
    | error error =>
      exact .bind (.modify fun _ => rfl) fun _ => .bind (.fail error) fun _ => record_keepsMapper _

theorem pointerMoved_keepsMapper (point : Point Float32) : KeepsMapper (pointerMoved point) :=
  .bind (.modify fun _ => rfl) fun _ => settle_keepsMapper none

theorem pointerDown_keepsMapper : KeepsMapper pointerDown :=
  .bind (.modify fun _ => rfl) fun _ => .bind (.runs (runActiveHotspot_runs .mouseDown)) settle_keepsMapper

theorem pointerUp_keepsMapper : KeepsMapper pointerUp :=
  .bind (.modify fun _ => rfl) fun _ => .bind (.runs (runActiveHotspot_runs .mouseUp)) settle_keepsMapper

/-- The end of a movie is about its slot and the display. -/
theorem movieFinished_keepsMapper (code : UInt16) : KeepsMapper (movieFinished code) := by
  refine .bind .get fun session => ?_
  split
  · refine .bind (.modify fun _ => rfl) fun _ => .bind (record_keepsMapper _) fun _ => ?_
    exact .modify fun session => session.publishIfNeeded_chain.continues.mapper
  · exact .pure ()

/-- A tick runs cues and scripts, and settles. -/
theorem animationTick_keepsMapper : KeepsMapper animationTick := by
  have onward (held : Option Location) : KeepsMapper
      (if held.isNone then fireCues >>= settle else Pure.pure held >>= settle : Script Unit) := by
    split
    · exact .bind fireCues_keepsMapper settle_keepsMapper
    · exact .bind (.pure held) settle_keepsMapper
  refine .bind .get fun session => ?_
  split
  · refine .bind (.runs (runActiveHotspot_runs .mouseInside)) fun inside => .bind .get fun _ => ?_
    dsimp only
    split
    · exact .bind (.runs (runActiveHotspot_runs .mouseStillDown)) onward
    · exact .bind (.pure inside) onward
  · exact .pure ()

/-- The one event that changes the mapper changes it before it does anything else. -/
theorem viewportChanged_sat_mapper (viewport : Size Float32) (session : Session) :
    (viewportChanged viewport session).Sat (·.mapper = session.mapper.resize viewport)
      fun later _ => later.mapper = session.mapper.resize viewport := by
  unfold viewportChanged
  rw [modify_bind, modify_bind]
  have settles (resized : Session) (now : resized.mapper = session.mapper.resize viewport) :
      (settle none resized.publishIfNeeded).Sat (·.mapper = session.mapper.resize viewport)
        fun later _ => later.mapper = session.mapper.resize viewport := by
    have published : resized.publishIfNeeded.mapper = resized.mapper :=
      resized.publishIfNeeded_chain.continues.mapper
    rw [← now]
    exact (settle_keepsMapper none).onward sameMapper_lasting published
  exact settles _ rfl

end Script

/-- The size of the window that an event tells, if it does. -/
def Event.viewport? : Event → Option (Size Float32)
  | .message (.viewport size) => some size
  | _ => none

open Script in
/-- Wherever an event has come to, the mapper has been resized if the event tells a size, and is as it was if
it does not. -/
theorem Event.window_sat (event : Event) (session : Session) :
    (event.script session).Sat (·.mapper = event.viewport?.elim session.mapper session.mapper.resize)
      fun later _ => later.mapper = event.viewport?.elim session.mapper session.mapper.resize := by
  cases event with
  | message sent =>
    cases sent with
    | goto location ticket => exact goto_keepsMapper location session
    | restore state ticket => exact restore_keepsMapper state session
    | pointerMoved point => exact pointerMoved_keepsMapper point session
    | pointerDown => exact pointerDown_keepsMapper session
    | pointerUp => exact pointerUp_keepsMapper session
    | viewport size => exact viewportChanged_sat_mapper size session
    | movieFinished code => exact movieFinished_keepsMapper code session
    | tick => exact animationTick_keepsMapper session
  | shutdown => exact session.closeCard_mapper

/-! ## Runs and their events -/

/-- What a session can come to by these events, the oldest first. The last of them may still wait. -/
inductive Ran (config : EngineConfig) (provider : Provider) (player : MediaPlayer) :
    List Event → Progress (Except ScriptError Unit) → Prop where
  | start : Ran config provider player [] (.done (.ofStage (.ofConfig config provider player)) (.ok ()))
  | outside {events : List Event} {session : Session} {result : Except ScriptError Unit}
      (before : Ran config provider player events (.done session result)) (act : Outside) :
      Ran config provider player events (.done (session.suffer act) result)
  | event {events : List Event} {session : Session} {result : Except ScriptError Unit}
      {progress : Progress (Except ScriptError Unit)}
      (before : Ran config provider player events (.done session result)) (event : Event)
      (leads : (event.script session).Leads progress) :
      Ran config provider player (events ++ [event]) progress

/-- The last size of the window that was told; before any is, the configured one. -/
def EngineConfig.lastViewport (config : EngineConfig) (events : List Event) : Size Float32 :=
  (events.filterMap Event.viewport?).getLast?.getD config.viewport

/-- The last viewport told is that of the last event, if that event tells one. -/
theorem EngineConfig.lastViewport_append (config : EngineConfig) (events : List Event) (event : Event) :
    config.lastViewport (events ++ [event]) = event.viewport?.getD (config.lastViewport events) := by
  rw [lastViewport, List.filterMap_append]
  cases told : event.viewport? with
  | none =>
    rw [List.filterMap_cons_none told, List.filterMap_nil, List.append_nil]
    rfl
  | some size =>
    rw [List.filterMap_cons_some told, List.filterMap_nil, List.getLast?_concat]
    rfl

/-- A run is a run, whether or not its events are written down. -/
theorem reachable_iff_ran {progress : Progress (Except ScriptError Unit)} :
    Reachable progress ↔ ∃ config provider player events, Ran config provider player events progress := by
  constructor
  · intro reachable
    induction reachable with
    | start config provider player => exact ⟨config, provider, player, [], .start⟩
    | outside _ act ih =>
      obtain ⟨config, provider, player, events, ran⟩ := ih
      exact ⟨config, provider, player, events, ran.outside act⟩
    | event _ event leads ih =>
      obtain ⟨config, provider, player, events, ran⟩ := ih
      exact ⟨config, provider, player, events ++ [event], ran.event event leads⟩
  · rintro ⟨config, provider, player, events, ran⟩
    induction ran with
    | start => exact .start config provider player
    | outside _ act ih => exact ih.outside act
    | event _ event leads ih => exact ih.event event leads

namespace Ran

variable {config : EngineConfig} {provider : Provider} {player : MediaPlayer} {events : List Event}
  {progress : Progress (Except ScriptError Unit)}

/-- A run with its events beside it is a run. -/
theorem reachable (ran : Ran config provider player events progress) : Reachable progress :=
  reachable_iff_ran.mpr ⟨config, provider, player, events, ran⟩

/-- Whatever a session comes to is a chain of acts from its beginning. -/
theorem chain (ran : Ran config provider player events progress) :
    EngineChain (.ofStage (.ofConfig config provider player)) progress.session := by
  induction ran with
  | start => exact .refl
  | outside _ act ih => exact ih.tail (.script (.suffered act))
  | event before event leads ih =>
    exact ih.trans (Event.chain before.reachable.sound leads)

/-- The mapper is that of the last size told. -/
theorem mapper_eq (ran : Ran config provider player events progress) : progress.session.mapper =
    .ofViewport config.cardSize config.margin (config.lastViewport events) := by
  induction ran with
  | start => rfl
  | outside _ act ih => exact ih
  | @event events session result progress before event leads ih =>
    have now := ((event.window_sat session).leads leads).now
    rw [now, show session.mapper = _ from ih, config.lastViewport_append]
    cases event.viewport? <;> rfl

/-- Whatever has happened, and wherever an event waits, the frame is that of the last size told, and every
hotspot of the open card has the number of its place in the table and lies where that frame puts the
rectangle that its record gives. -/
theorem up_to_date (ran : Ran config provider player events progress) :
    progress.session.mapper =
        { card := config.cardSize, margin := config.margin, viewport := config.lastViewport events,
          frame := effectiveFrame (config.lastViewport events) config.cardSize config.margin } ∧
      ∀ card, progress.session.card = some card →
        card.hotspots.hotspots.length = card.record.hotspots.length ∧
        ∀ place (hotspot : Hotspot Float32), card.hotspots.hotspots[place]? = some hotspot →
          hotspot.index.toNat = place ∧ hotspot.frame = progress.session.mapper.toWindow hotspot.rect ∧
            ∃ record, card.record.hotspots[place]? = some record
              ∧ hotspot.rect = .ofPixels record.rect := by
  refine ⟨ran.mapper_eq, fun card isOpen => ?_⟩
  have laidOut : card.LaidOut progress.session.mapper := ran.reachable.laidOut card isOpen
  refine ⟨laidOut.length_eq, fun place hotspot found => ?_⟩
  obtain ⟨record, there, rect, frame⟩ := laidOut.at found
  exact ⟨ran.reachable.numbered card isOpen place hotspot found, frame, record, there, rect⟩

/-- Events that are over at once can be added to a run that stands between two events. -/
theorem of_after? {session later : Session} {more : List Event}
    (before : Ran config provider player events (.done session (.ok ())))
    (ended : session.after? more = some later) :
    Ran config provider player (events ++ more) (.done later (.ok ())) := by
  induction more generalizing session events with
  | nil =>
    cases ended
    rwa [List.append_nil]
  | cons event rest ih =>
    obtain ⟨between, carriedOut, onward⟩ := Option.bind_eq_some_iff.mp ended
    have ran := ih (before.event event (Progress.leads_of_ended? carriedOut)) onward
    rwa [List.append_assoc] at ran

/-- A card is opened after the window has changed, and its script disables updates; then the window changes
again. The display is shown none of it, and yet the second hotspot lies where the last frame puts it. -/
theorem up_to_date_unseen : ∃ provider events session card hotspot,
    Ran {} provider .finishing events (.done session (.ok ())) ∧ session.card = some card ∧
      session.updatesEnabled = false ∧ session.mapper.frame = effectiveFrame ⟨912, 708⟩ ⟨608, 392⟩ 80 ∧
      card.hotspots.hotspots[1]? = some hotspot ∧ hotspot.index.toNat = 1 ∧
      hotspot.frame = session.mapper.toWindow (.ofPixels ⟨8, 16, 80, 96⟩) := by
  let hidden : HotspotRecord :=
    { id := 7, rect := ⟨0, 0, 608, 392⟩, cursor := 0, name := "", enabled := true, scripts := [] }
  let door : HotspotRecord :=
    { id := 7, rect := ⟨8, 16, 80, 96⟩, cursor := 0, name := "", enabled := true, scripts := [] }
  let dark : CardRecord := { hotspots := [hidden, door], scripts := [⟨9, [.op 20 []]⟩] }
  let events : List Event := [.message (.viewport ⟨304, 472⟩), .message (.goto ⟨"a", 1⟩ none),
    .message (.viewport ⟨912, 708⟩)]
  let here (session : Session) : Bool :=
    !session.updatesEnabled && session.card.any fun card => card.record == dark
  have ran : ((Session.beginning "a" [(1, dark)]).after? events).any here = true := by decide +kernel
  obtain ⟨session, ended, found⟩ := (Option.any_eq_true ..).mp ran
  obtain ⟨off, onCard⟩ : session.updatesEnabled = false
      ∧ (session.card.any fun card => card.record == dark) = true := by
    simpa only [here, Bool.and_eq_true, Bool.not_eq_true'] using found
  obtain ⟨card, isOpen, same⟩ := (Option.any_eq_true ..).mp onCard
  have record : card.record = dark := eq_of_beq same
  have ran : Ran {} _ .finishing events (.done session (.ok ())) := of_after? .start ended
  have told : ({} : EngineConfig).lastViewport events = ⟨912, 708⟩ := rfl
  obtain ⟨mapper, cards⟩ := up_to_date ran
  have frame := congrArg Mapper.frame mapper
  rw [told] at frame
  obtain ⟨length, each⟩ := cards card isOpen
  rw [record] at length each
  have second : 1 < card.hotspots.hotspots.length := length ▸ Nat.one_lt_two
  have there := List.getElem?_eq_getElem second
  obtain ⟨index, lies, _, same, rect⟩ := each 1 _ there
  cases same
  rw [rect] at lies
  exact ⟨_, events, session, card, _, ran, isOpen, off, frame, there, index, lies⟩

end Ran

end Diorama
