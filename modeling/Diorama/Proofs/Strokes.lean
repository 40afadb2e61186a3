import Diorama.Proofs.Atomicity
import Diorama.Proofs.Upkeep

/-!
# What commands do to what the display is shown

The acts of scripts say that the card may come to show anything, and that updates may be enabled and disabled.
A command does much less. Most leave alone all that the display is shown (`Session.Untouched`); what is left are
six strokes, and each says which command it is of. The picture and the cursor are set by the command that is
there for it, begun last and in the state as it is, so what it sets can be read off the moment at which it began
(`Moment.picture?`, `Moment.cursor?`). No other change of the permission to show is among the strokes than that
it is taken, for the command that gives it is not a plain one: the screen-update script runs inside of it.

`Script.carryOut_strokes` is the law of plain commands. `DisplayUpkeep` is the rule for whole runs: it asks what
a stroke keeps, what the few things keep that are done around strokes, and that the permission with which the
screen-update script was begun may be given back after it.
-/

namespace Diorama

/-! ## What is left alone -/

/-- What the display knows of a card, and what a failure takes back to it: the last snapshot, the picture and the
cursor. -/
def OpenCard.face (card : OpenCard) : Option CardFrame × Option Picture × Option UInt16 :=
  (card.published, card.visual.picture, card.visual.cursor)

/-- It is not about the display: nothing is handed to it, no permission to show changes, no card is opened or
closed, and no failure is reported. -/
def Happening.Still : Happening → Prop
  | .published _ | .requested _ | .updates _ => False
  | .recorded (.cardOpened _) | .recorded (.cardClosed _) | .recorded (.scriptFailed _ _) => False
  | _ => True

/-- What scripts write to the log is not about the display. -/
theorem Notice.OfScript.still {notice : Notice} (ofScript : notice.OfScript) : (Happening.recorded notice).Still := by
  cases notice <;> trivial

/-- What the engine writes to the log by itself is not about the display. -/
theorem Notice.OfEngine.still {notice : Notice} (ofEngine : notice.OfEngine) : (Happening.recorded notice).Still := by
  cases notice <;> trivial

namespace Happening

/-- A card is opened. -/
def Opens : Happening → Prop
  | .recorded (.cardOpened _) => True
  | _ => False

variable {happening : Happening}

/-- What is not about the display opens no card. -/
theorem Still.not_opens (still : happening.Still) : ¬ happening.Opens := by
  cases happening with
  | recorded notice => cases notice <;> first | exact id | exact still.elim
  | _ => exact id

/-- Scripts open no cards. -/
theorem OfScript.not_opens (ofScript : happening.OfScript) : ¬ happening.Opens := by
  cases happening with
  | recorded notice => cases notice <;> first | exact id | exact ofScript.elim
  | _ => exact id

/-- The snapshot that was handed to the display just now, and what had happened before. -/
def published? : List Happening → Option (CardFrame × List Happening)
  | .published frame :: earlier => some (frame, earlier)
  | _ => none

/-- A transcript whose latest entry is a snapshot begins with it. -/
theorem eq_of_published? {transcript : List Happening} {now : CardFrame × List Happening}
    (h : published? transcript = some now) : transcript = .published now.1 :: now.2 := by
  unfold published? at h
  split at h
  · cases h
    rfl
  · cases h

/-- The change of updates that was made just now, and what had happened before. -/
def changed? : List Happening → Option (UpdatesChange × List Happening)
  | .updates change :: earlier => some (change, earlier)
  | _ => none

/-- A transcript whose latest entry is a change of updates begins with it. -/
theorem eq_of_changed? {transcript : List Happening} {now : UpdatesChange × List Happening}
    (h : changed? transcript = some now) : transcript = .updates now.1 :: now.2 := by
  unfold changed? at h
  split at h
  · cases h
    rfl
  · cases h

end Happening

/-- Nothing is touched that the display is shown, or that decides about it. -/
structure Session.Untouched (session later : Session) : Prop where
  face : later.card.map OpenCard.face = session.card.map OpenCard.face
  updatesEnabled : later.updatesEnabled = session.updatesEnabled
  inScreenUpdate : later.inScreenUpdate = session.inScreenUpdate
  begun : later.begun = session.begun
  transcript : ∃ during, later.transcript = during ++ session.transcript ∧ ∀ happening ∈ during, happening.Still

namespace Session.Untouched

variable {session later : Session}

/-- The card that is open now was open before, with the same face. -/
theorem exists_face (same : session.Untouched later) {shown : OpenCard} (isOpen : later.card = some shown) :
    ∃ before, session.card = some before ∧ shown.face = before.face := by
  have face := same.face
  rw [isOpen, Option.map_some, eq_comm] at face
  exact (Option.map_eq_some_iff.mp face).imp fun _ found => ⟨found.1, found.2.symm⟩

/-- What does not concern the card, and notes one thing at most. -/
theorem ofCard (card : later.card = session.card) (updatesEnabled : later.updatesEnabled = session.updatesEnabled)
    (inScreenUpdate : later.inScreenUpdate = session.inScreenUpdate) (begun : later.begun = session.begun)
    (happening : Option Happening) (transcript : later.transcript = happening.toList ++ session.transcript)
    (still : ∀ one ∈ happening, one.Still) : session.Untouched later :=
  ⟨congrArg _ card, updatesEnabled, inScreenUpdate, begun, happening.toList, transcript,
    fun one among => still one (Option.mem_toList.mp among)⟩

/-- What does not concern the card, and notes nothing. -/
theorem ofSame (card : later.card = session.card) (updatesEnabled : later.updatesEnabled = session.updatesEnabled)
    (inScreenUpdate : later.inScreenUpdate = session.inScreenUpdate) (begun : later.begun = session.begun)
    (transcript : later.transcript = session.transcript) : session.Untouched later :=
  .ofCard card updatesEnabled inScreenUpdate begun none transcript (by simp)

/-- A change of the card that keeps its face, and notes nothing. -/
theorem onCard {change : OpenCard → OpenCard} (face : ∀ card, (change card).face = card.face) :
    session.Untouched (session.onCard change) := by
  refine ⟨?_, rfl, rfl, rfl, [], rfl, List.forall_mem_nil _⟩
  cases isOpen : session.card with
  | none => simp only [Session.onCard, isOpen, Option.map_none]
  | some card => simp only [Session.onCard, isOpen, Option.map_some, face]

/-- A change of what the card shows, other than its picture and its cursor. -/
theorem onVisual {change : CardVisual → CardVisual} (picture : ∀ visual, (change visual).picture = visual.picture)
    (cursor : ∀ visual, (change visual).cursor = visual.cursor) : session.Untouched (session.onVisual change) :=
  onCard fun card => by simp only [OpenCard.face, picture, cursor]

/-- The slots of the movies are not on the face of the card. -/
theorem onMovie (code : UInt16) (change : MovieSlot → MovieSlot) :
    session.Untouched (session.onMovie code change) := by
  refine onVisual (fun visual => ?_) fun visual => ?_
  · split <;> rfl
  · split <;> rfl

/-- An entry of the log that is not about the display. -/
theorem recorded {notice : Notice} (still : (Happening.recorded notice).Still) :
    session.Untouched (session.record notice) :=
  .ofCard rfl rfl rfl rfl (some _) rfl (by simpa using still)

/-- A happening that is not about the display. -/
theorem noted {happening : Happening} (still : happening.Still) :
    session.Untouched (session.onStage (·.note happening)) :=
  .ofCard rfl rfl rfl rfl (some happening) rfl (by simpa using still)

/-- Whatever others do while a program waits, they do not touch what the display is shown. -/
theorem suffered (act : Outside) : session.Untouched (session.suffer act) := by
  cases act with
  | drain => exact .ofCard rfl rfl rfl rfl (some .drained) rfl (by simp [Happening.Still])
  | preload key =>
    refine .ofCard rfl rfl rfl rfl (some (.recorded _)) rfl ?_
    simp only [Option.mem_def, Option.some.injEq, forall_eq']
    split <;> trivial
  | _ => exact .ofSame rfl rfl rfl rfl rfl

/-- The display is shown nothing of media; those are the player's. -/
theorem started (media : MediaRef) (blocking : Bool) : session.Untouched (session.startMedia media blocking) :=
  .ofCard rfl rfl rfl rfl (some (.started media blocking)) rfl (by simp [Happening.Still])

/-- A medium is stopped at the player, and the display knows nothing of it. -/
theorem stopped (media : MediaRef) : session.Untouched (session.onStage (·.stopMedia media)) :=
  .ofCard rfl rfl rfl rfl (some (.stopped media)) rfl (by simp [Happening.Still])

end Session.Untouched

/-! ## Strokes -/

/-- What a plain command stands for. -/
def Command.instruction? : Command → Option Instruction
  | .op opcode args => (Instruction.decode opcode args).toOption
  | .branch _ _ => none

/-- The cursor that a command sets. -/
def Moment.cursor? (moment : Moment Command) : Option UInt16 :=
  match moment.what.instruction? with
  | some (.setCursor cursor) => some cursor
  | _ => none

/-- The picture that a command puts on, as the card lists it that is open when the command begins. -/
def Moment.picture? (moment : Moment Command) : Option Picture :=
  match moment.what.instruction? with
  | some (.activatePicture index) => moment.card.bind fun card => (card.picture index).toOption
  | _ => none

/-- What plain commands do to what the display is shown. -/
inductive Stroke (session : Session) : Session → Prop where
  | untouched {later : Session} (same : session.Untouched later) : Stroke session later
  | setsCursor {moment : Moment Command} {cursor : UInt16} (last : session.begun.head? = some moment)
      (now : moment.stage = session.toStage) (set : moment.cursor? = some cursor) :
      Stroke session (session.onVisual fun visual => { visual with cursor := some cursor })
  | setsPicture {moment : Moment Command} {picture : Picture} (last : session.begun.head? = some moment)
      (now : moment.stage = session.toStage) (set : moment.picture? = some picture) :
      Stroke session (session.onVisual fun visual => { visual with picture := some picture })
  | disables : Stroke session (session.changeUpdates .disabled)
  | shows (enabled : session.updatesEnabled = true) : Stroke session session.showCard
  | hands {state : RenderState} {rest : List RenderState} (first : session.held = state :: rest)
      (enabled : session.updatesEnabled = true) : Stroke session { session.request state with held := rest }

/-- Anything that plain commands can do to what the display is shown. -/
def StrokeChain : Session → Session → Prop :=
  Relation.ReflTransGen Stroke

/-- To leave everything alone is a stroke. -/
theorem Session.Untouched.strokes {session later : Session} (same : session.Untouched later) :
    StrokeChain session later :=
  .single (.untouched same)

namespace StrokeChain

/-- While a program waits, others leave alone what the display is shown; so chains of strokes last across waits. -/
theorem lasting : Script.Lasting StrokeChain where
  refl _ := .refl
  trans := .trans
  suffer _ act := (Session.Untouched.suffered act).strokes
  answered _ := Session.Untouched.strokes (.ofSame rfl rfl rfl rfl rfl)

/-- What every stroke keeps, a chain of them keeps. -/
theorem keeps {holds : Session → Prop} (step : ∀ {session later}, Stroke session later → holds session → holds later)
    {session later : Session} (chain : StrokeChain session later) (h : holds session) : holds later := by
  induction chain with
  | refl => exact h
  | tail _ stroke before => exact step stroke before

end StrokeChain

/-- To publish is to show the card and then to hand over the requests one by one, each a stroke. -/
theorem Session.publish_strokes {session : Session} (enabled : session.updatesEnabled = true) :
    StrokeChain session session.publish :=
  publish_steps .shows .hands enabled

/-- Publishing happens only while updates are enabled, which the strokes ask for. -/
theorem Session.publishIfNeeded_strokes (session : Session) : StrokeChain session session.publishIfNeeded :=
  publishIfNeeded_steps .shows .hands session

/-- No stroke enters or leaves the screen-update script. -/
theorem Stroke.inScreenUpdate {session later : Session} (stroke : Stroke session later) :
    later.inScreenUpdate = session.inScreenUpdate := by
  cases stroke with
  | untouched same => exact same.inScreenUpdate
  | shows enabled => exact session.aside_showCard.inScreenUpdate
  | _ => rfl

/-! ## Plain commands -/

/-- The command that was begun last is this one, and the stage and the card are as they were when it began. -/
def Session.CarriesOut (session : Session) (instruction : Instruction) : Prop :=
  ∃ moment, session.begun.head? = some moment ∧ moment.what.instruction? = some instruction ∧
    moment.stage = session.toStage ∧ moment.card = session.card

namespace Script

private abbrev striking : Lasting StrokeChain := StrokeChain.lasting

/-- A change that leaves alone all that the display is shown. -/
private theorem untouched_strokes {change : Session → Session}
    (same : ∀ session : Session, session.Untouched (change session)) : Does StrokeChain (modify change) :=
  .modify fun session => (same session).strokes

/-- A command that goes on with the next one does what it does and no more. -/
private theorem goesOn_strokes {script : Script Unit} (h : Does StrokeChain script) :
    Does StrokeChain (do script; return Flow.next) :=
  .bind striking h fun _ => .pure striking _

private theorem record_strokes {notice : Notice} (ofScript : notice.OfScript) : Does StrokeChain (record notice) :=
  untouched_strokes fun _ => .recorded ofScript.still

private theorem startMedia_strokes (media : MediaRef) : Does StrokeChain (startMedia media) :=
  untouched_strokes fun _ => .started media false

private theorem stopMedia_strokes (media : MediaRef) : Does StrokeChain (stopMedia media) :=
  untouched_strokes fun _ => .stopped media

private theorem onMovie_strokes (code : UInt16) (change : MovieSlot → MovieSlot) :
    Does StrokeChain (modify (·.onMovie code change)) :=
  untouched_strokes fun _ => .onMovie code change

private theorem flag_strokes (path : String) : Does StrokeChain (flag path) :=
  .bind striking (.get striking) fun _ => .pure striking _

private theorem movieSlot_strokes (code : UInt16) : Does StrokeChain (movieSlot code) := by
  refine .bind striking (openCard_does striking) fun card => ?_
  cases card.visual.movies.get? code with
  | none => exact .fail striking _
  | some slot => exact .pure striking slot

private theorem gotoCard_strokes (id : UInt16) : Does StrokeChain (gotoCard id) := by
  refine .bind striking (.get striking) fun session => ?_
  split
  · exact .pure striking _
  · exact .bind striking (openCard_does striking) fun _ => .pure striking _

private theorem setHotspot_strokes (id : UInt16) (enabled : Bool) : Does StrokeChain (setHotspot id enabled) := by
  refine .bind striking (openCard_does striking) fun card => ?_
  split
  · exact untouched_strokes fun _ => .onCard fun _ => rfl
  · exact .fail striking _

private theorem clearSoundGroup_strokes : Does StrokeChain clearSoundGroup := by
  refine .bind striking (openCard_does striking) fun card => ?_
  split
  · exact .pure striking _
  · refine .bind striking (untouched_strokes fun _ => .onVisual (fun _ => rfl) fun _ => rfl) fun _ => ?_
    exact .bind striking (.lift striking _) fun _ => stopMedia_strokes _

private theorem activateSoundGroup_strokes (index : UInt16) : Does StrokeChain (activateSoundGroup index) := by
  have starts (group : SoundGroup) : Does StrokeChain (do
      if ← flag EngineVariables.ambientSoundsEnabled then startMedia group.media : Script Unit) := by
    refine .bind striking (flag_strokes _) fun on => ?_
    split
    · exact startMedia_strokes _
    · exact .pure striking _
  refine .bind striking (openCard_does striking) fun card => .bind striking (.lift striking _) fun group => ?_
  refine .bind striking (untouched_strokes fun _ => .onVisual (fun _ => rfl) fun _ => rfl) fun _ => ?_
  split
  · exact .bind striking (stopMedia_strokes _) fun _ => starts group
  · exact starts group

private theorem activateMovie_strokes (index : UInt16) : Does StrokeChain (activateMovie index) := by
  refine .bind striking (openCard_does striking) fun card => .bind striking (.lift striking _) fun movie => ?_
  refine .bind striking (untouched_strokes fun _ => .onVisual (fun _ => rfl) fun _ => rfl) fun _ => ?_
  split
  · split
    · exact .bind striking (stopMedia_strokes _) fun _ => .pure striking _
    · exact .pure striking _
  · exact .pure striking _

private theorem startMovie_strokes (code : UInt16) : Does StrokeChain (startMovie code) := by
  refine .bind striking (flag_strokes _) fun on => ?_
  split
  · refine .bind striking (movieSlot_strokes code) fun slot => ?_
    split
    · refine .bind striking (onMovie_strokes code _) fun _ => ?_
      exact .bind striking (startMedia_strokes _) fun _ => record_strokes trivial
    · exact .pure striking _
  · exact record_strokes trivial

/-- The slot is shown as playing before the wait; after it the display learns nothing until the next command. -/
private theorem startMovieBlocking_strokes (code : UInt16) : Does StrokeChain (startMovieBlocking code) := by
  refine .bind striking (flag_strokes _) fun on => ?_
  split
  · have shows : Does StrokeChain (modify fun session =>
        (session.onMovie code fun slot => { slot with playing := true }).publishIfNeeded) :=
      .modify fun session => .trans (Session.Untouched.onMovie code _).strokes (Session.publishIfNeeded_strokes _)
    have arms : Does StrokeChain (modify fun session =>
        { session with gate := session.gate.arm code, blockingMovie := true }) :=
      untouched_strokes fun _ => .ofSame rfl rfl rfl rfl rfl
    have told (outcome : GateOutcome) : Does StrokeChain (modify fun session =>
        { session.onStage (·.note (.answered code outcome)) with blockingMovie := false }) :=
      untouched_strokes fun _ =>
        .ofCard rfl rfl rfl rfl (some (.answered code outcome)) rfl (by simp [Happening.Still])
    refine .bind striking (movieSlot_strokes code) fun slot => .bind striking shows fun _ => ?_
    refine .bind striking arms fun _ => .bind striking (untouched_strokes fun _ => .recorded trivial) fun _ => ?_
    refine .bind striking (untouched_strokes fun _ => .started slot.media true) fun _ => ?_
    refine .bind striking (.awaitMovie striking) fun outcome => .bind striking (told outcome) fun _ => ?_
    refine .bind striking (onMovie_strokes code _) fun _ => ?_
    split
    · exact .pure striking _
    · exact .bind striking (stopMedia_strokes _) fun _ => goesOn_strokes (record_strokes trivial)
    · exact .pure striking _
  · exact goesOn_strokes (record_strokes trivial)

private theorem stopMovie_strokes (code : UInt16) : Does StrokeChain (stopMovie code) := by
  refine .bind striking (movieSlot_strokes code) fun slot => ?_
  split
  · exact .bind striking (onMovie_strokes code _) fun _ => stopMedia_strokes _
  · exact .pure striking _

/-- A command other than the one that enables updates does nothing but strokes to what the display is shown. -/
theorem carryOut_strokes (inner : List Command → Script Flow) {instruction : Instruction} {session : Session}
    (plain : instruction ≠ .enableScreenUpdates) (told : session.CarriesOut instruction) :
    (carryOut inner instruction session).Sat (StrokeChain session) fun later _ => StrokeChain session later := by
  have untouched {change : Session → Session} (same : ∀ session : Session, session.Untouched (change session)) :
      Does StrokeChain (do modify change; return Flow.next) :=
    goesOn_strokes (untouched_strokes same)
  -- What the command writes is drawn from the moment of it that was noted last, which is what makes it a stroke.
  obtain ⟨moment, last, asked, now, same⟩ := told
  cases instruction with
  | gotoCard id => exact gotoCard_strokes id session
  | playSound id volume =>
    have told : Does StrokeChain (record (.soundPlayed id)) := record_strokes trivial
    exact Does.bind striking (startMedia_strokes _) (fun _ => goesOn_strokes told) session
  | setVariable index value =>
    refine Does.bind striking (variableName_does striking index) (fun name => ?_) session
    exact untouched fun _ => .ofSame rfl rfl rfl rfl rfl
  | setHotspot id enabled => exact goesOn_strokes (setHotspot_strokes id enabled) session
  | clearSoundGroup => exact goesOn_strokes clearSoundGroup_strokes session
  | setCursor cursor =>
    refine sat_openCard_bind (fun _ => .refl) fun card _ => ?_
    exact .single (.setsCursor last now (by rw [Moment.cursor?, asked]))
  | callExternal id args =>
    have told : Does StrokeChain (record (.externalCalled id args)) := record_strokes trivial
    exact goesOn_strokes told session
  | scheduleTransition state =>
    have holds (session : Session) : session.Untouched (session.hold state) :=
      .ofCard rfl rfl rfl rfl (some (.asked state)) rfl (by simp [Happening.Still])
    exact untouched holds session
  | refresh =>
    refine goesOn_strokes (.modify fun session => ?_) session
    split
    next enabled => exact Session.publish_strokes enabled
    next => exact .refl
  | disableScreenUpdates => exact .single .disables
  | enableScreenUpdates => exact absurd rfl plain
  | setMovie code enabled =>
    exact goesOn_strokes (.bind striking (movieSlot_strokes code) fun _ => onMovie_strokes code _) session
  | disableAllMovies =>
    refine Does.bind striking (openCard_does striking) (fun _ => ?_) session
    exact untouched fun _ => .onVisual (fun _ => rfl) fun _ => rfl
  | startMovieBlocking code => exact startMovieBlocking_strokes code session
  | startMovie code => exact goesOn_strokes (startMovie_strokes code) session
  | stopMovie code => exact goesOn_strokes (stopMovie_strokes code) session
  | scheduleCommand code due opcode args =>
    refine untouched (fun _ => ?_) session
    exact .ofCard rfl rfl rfl rfl (some (.scheduled _)) rfl (by simp [Happening.Still])
  | activatePicture index =>
    refine sat_openCard_bind (fun _ => .refl) fun card isOpen => sat_lift_bind (fun _ => .refl) fun picture listed => ?_
    have set : moment.picture? = some picture := by
      rw [Moment.picture?, asked, same, isOpen]
      dsimp only [Option.bind_some]
      rw [listed]
      rfl
    exact .single (.setsPicture last now set)
  | activateSoundGroup index => exact goesOn_strokes (activateSoundGroup_strokes index) session
  | activateMovie index =>
    exact Does.bind striking (activateMovie_strokes index) (fun _ => .pure striking _) session
  | activateMovieAndStart index =>
    exact Does.bind striking (activateMovie_strokes index) (fun code => goesOn_strokes (startMovie_strokes code)) session
  | activateButton index =>
    refine Does.bind striking (openCard_does striking) (fun card => ?_) session
    exact .bind striking (.lift striking _) fun button => goesOn_strokes (setHotspot_strokes _ _)

end Script

/-! ## What whole runs keep -/

/-- To cover the screen-update script is among the acts of scripts. -/
theorem Session.cover_chain (session : Session) : ScriptChain session session.cover :=
  (ScriptAct.covers true).chain.tail (.changesUpdates .covered trivial)

/-- So is to give back the permission that was found before it. -/
theorem Session.uncover_chain (session : Session) (before : Bool) : ScriptChain session (session.uncover before) :=
  (ScriptAct.changesUpdates (.restored before) trivial).chain.tail (.covers false)

/-- Something that is to hold at every step of a command list, of what the display is shown. -/
structure ListUpkeep (keeps : Session → Prop) : Prop where
  stroke : ∀ {session later}, Stroke session later → keeps session → keeps later
  begins : ∀ {session} command, keeps session → keeps (session.begin command)
  enables : ∀ {session}, keeps session → keeps (session.changeUpdates .enabled)
  covers : ∀ {session}, keeps session → keeps session.cover
  /-- The screen-update script has ended, and the permission is given back that was found before it. -/
  uncovers : ∀ {session between}, keeps session → ScriptChain session.cover between → keeps between →
    keeps (between.uncover session.updatesEnabled)

/-- Something that is to hold at every step of a run, of what the display is shown. -/
structure DisplayUpkeep (keeps : Session → Prop) : Prop extends ListUpkeep keeps where
  fails : ∀ {session} label error, keeps session → keeps (session.scriptFailed label error)
  closes : ∀ {session}, keeps session → keeps session.closeCard
  opens : ∀ {session} {stack : Stack} {card : OpenCard} (location : Location), keeps session →
    session.card = none → stack.key = location.stack →
    OpenCard.load stack location.id session.mapper = .ok card → keeps (session.arrived location card)
  reveals : ∀ {session}, keeps session → keeps (session.changeUpdates .shown)

namespace ListUpkeep

variable {keeps : Session → Prop}

/-- A chain of what scripts do, along which it is kept. -/
def Along (keeps : Session → Prop) (session later : Session) : Prop :=
  ScriptChain session later ∧ (keeps session → keeps later)

variable (h : ListUpkeep keeps) {session later : Session}
include h

/-- What is to hold does not depend on what the display is not shown. -/
theorem untouched (kept : keeps session) (same : session.Untouched later) : keeps later :=
  h.stroke (.untouched same) kept

/-- What every stroke keeps is kept by a chain of them. -/
theorem strokes (chain : StrokeChain session later) (kept : keeps session) : keeps later :=
  chain.keeps h.stroke kept

open Script

/-- What is kept stays kept while others act. -/
private theorem lasting : Lasting (Along keeps) where
  refl _ := ⟨.refl, id⟩
  trans := fun first second => ⟨first.1.trans second.1, second.2 ∘ first.2⟩
  suffer _ act := ⟨(ScriptAct.suffered act).chain, fun kept => h.untouched kept (.suffered act)⟩
  answered answered :=
    ⟨(ScriptAct.answered answered).chain, fun kept => h.untouched kept (.ofSame rfl rfl rfl rfl rfl)⟩

/-! ### Command lists -/

/-- Updates are enabled and everything is published. -/
private theorem shows_keeps : Does (Along keeps) (do
    modify fun session => (session.changeUpdates .enabled).publish
    return Flow.next) := by
  refine .bind h.lasting (.modify fun session => ?_) fun _ => .pure h.lasting _
  have enabled : ScriptChain session (session.changeUpdates .enabled) :=
    (ScriptAct.changesUpdates .enabled trivial).chain
  exact ⟨enabled.trans (Session.publish_chain rfl), fun kept =>
    h.strokes (Session.publish_strokes rfl) (h.enables kept)⟩

section Inner

variable {inner : List Command → Script Flow} (runs : ∀ commands, Does (Along keeps) (inner commands))
  (does : ∀ commands, Does DeedChain (inner commands))
include runs

/-- The screen-update script keeps it by assumption, and the rule answers for the cover before and after it. -/
theorem enableScreenUpdates_keeps : Does (Along keeps) (enableScreenUpdates inner) := by
  intro session
  unfold enableScreenUpdates
  rw [get_bind]
  split
  · exact h.shows_keeps session
  · refine sat_openCard_bind (fun _ => h.lasting.refl session) fun card _ => ?_
    cases card.script? .screenUpdate with
    | none => exact h.shows_keeps session
    | some commands =>
      dsimp only
      rw [get_bind, modify_bind]
      have covered : Along keeps session session.cover := ⟨session.cover_chain, h.covers⟩
      have ran := (runs commands session.cover).mono (fun _ => h.lasting.trans covered) fun _ _ => id
      refine sat_attempt_bind_of ran fun between result along => ?_
      rw [modify_bind]
      have restored : ScriptChain between (between.uncover session.updatesEnabled) := between.uncover_chain _
      have uncovered : Along keeps session (between.uncover session.updatesEnabled) :=
        ⟨covered.1.trans (along.1.trans restored), fun kept =>
          h.uncovers kept along.1 (along.2 (covered.2 kept))⟩
      refine Does.onward (.bind h.lasting (.lift h.lasting result) fun flow => ?_) h.lasting uncovered
      cases flow with
      | next => exact h.shows_keeps
      | goto target => exact .pure h.lasting _
      | halt => exact .pure h.lasting _

/-- A branch keeps what its list keeps. -/
theorem branch_keeps (index : UInt16) (cases : List Case) : Does (Along keeps) (branch inner index cases) := by
  refine .bind h.lasting (variableName_does h.lasting index) fun name => .bind h.lasting (.get h.lasting) fun _ => ?_
  split
  · exact runs _
  · exact .pure h.lasting _

include does

/-- A command that has just begun. -/
theorem runCommand_keeps (command : Command) (session : Session) :
    (runCommand inner command (session.begin command)).Sat (Along keeps (session.begin command))
      fun later _ => Along keeps (session.begin command) later := by
  cases command with
  | branch index cases => exact h.branch_keeps runs index cases _
  | op opcode args =>
    unfold runCommand
    refine sat_lift_bind (fun _ => h.lasting.refl _) fun instruction decoded => ?_
    by_cases enables : instruction = .enableScreenUpdates
    · subst enables
      exact h.enableScreenUpdates_keeps runs _
    · have told : (session.begin (.op opcode args)).CarriesOut instruction :=
        ⟨_, rfl, by rw [Session.moment, Command.instruction?, decoded]; rfl, rfl, rfl⟩
      have strokes := carryOut_strokes inner enables told
      have deeds := carryOut_does does instruction (session.begin (.op opcode args))
      exact (deeds.and strokes).mono (fun _ both => ⟨both.1.script, h.strokes both.2⟩)
        fun _ _ both => ⟨both.1.script, h.strokes both.2⟩

/-- Each command finds the session as it was when the command began, so the law of plain commands applies. -/
theorem runEach_keeps (commands : List Command) : Does (Along keeps) (runEach (runCommand inner) commands) := by
  induction commands with
  | nil => exact .pure h.lasting _
  | cons command rest ih =>
    intro session
    unfold runEach
    rw [get_bind]
    split
    next => exact h.lasting.refl session
    next live =>
      rw [modify_bind]
      have begun : Along keeps session (session.begin command) :=
        ⟨(ScriptAct.begins command (Bool.eq_false_iff.mpr live)).chain, h.begins command⟩
      have ran := (h.runCommand_keeps runs does command session).mono (fun _ => h.lasting.trans begun)
        fun _ _ => h.lasting.trans begun
      refine sat_bind_of ran (fun between flow before => ?_) fun _ _ before => before
      cases flow with
      | next =>
        have shown : Along keeps between between.publishIfNeeded :=
          ⟨between.publishIfNeeded_chain, h.strokes between.publishIfNeeded_strokes⟩
        exact ih.onward h.lasting (h.lasting.trans before shown)
      | goto target => exact before
      | halt => exact before

end Inner

/-- By induction on the room, every list keeps it. -/
theorem runList_keeps (room : Nat) (commands : List Command) : Does (Along keeps) (runList room commands) := by
  induction room generalizing commands with
  | zero => exact .fail h.lasting _
  | succ room ih => exact h.runEach_keeps ih (runList_does room) commands

end ListUpkeep

namespace DisplayUpkeep

open ListUpkeep Script

variable {keeps : Session → Prop} (h : DisplayUpkeep keeps)
include h

/-- A script that fails takes the picture and the cursor back, for which the rule answers. -/
theorem runScript_keeps (label : String) (commands : List Command) : Does (Along keeps) (runScript label commands) := by
  refine .bind h.lasting (h.runList_keeps _ commands).attempt fun result => ?_
  split
  · exact .pure h.lasting _
  · exact .pure h.lasting _
  · refine .bind h.lasting (.modify fun session => ?_) fun _ => .pure h.lasting _
    exact ⟨(ScriptAct.fails label _).chain, h.fails label _⟩

/-! ### Runs -/

/-- What the rule asks is what the scripts of a run need. -/
theorem scriptUpkeep : ScriptUpkeep (·.resolver.Sound) keeps keeps keeps where
  act := EngineAct.sound
  owes _ kept := kept
  script label commands _ kept := by
    refine (h.runScript_keeps label commands _).mono (fun _ along => along.2 kept) fun _ _ along => ?_
    exact ⟨along.2 kept, fun _ _ => along.2 kept⟩

/-- What the rule asks is what a run needs: of what the engine does besides running scripts, only publishing,
refusals and the opening and closing of cards are about the display. -/
theorem upkeep : Upkeep (·.resolver.Sound) keeps keeps keeps where
  toScriptUpkeep := h.scriptUpkeep
  sound a := a
  hover a kept := by
    refine h.scriptUpkeep.refreshHover_sat ?_ ?_ a kept
    · exact fun _ ofPointer _ kept => h.untouched kept (.recorded ofPointer.ofEngine.still)
    · exact fun _ _ kept => h.untouched kept (.ofSame rfl rfl rfl rfl rfl)
  leaves _ _ kept := h.untouched kept (.ofSame rfl rfl rfl rfl rfl)
  closes _ kept _ := h.closes kept
  opens location _ kept closed key loaded := h.opens location kept closed key loaded
  reveals _ _ _ _ _ kept _ _ := h.strokes (Session.publish_strokes rfl) (h.reveals kept)
  resolves _ _ kept := h.untouched kept (.ofSame rfl rfl rfl rfl rfl)
  refuses location error _ kept := h.fails "goto" error (h.untouched kept (.noted trivial))
  cutsOff _ kept := h.untouched kept (.noted trivial)
  suffers act _ kept := h.untouched kept (.suffered act)
  points _ _ kept := h.untouched kept (.ofSame rfl rfl rfl rfl rfl)
  presses _ _ kept := h.untouched kept (.ofSame rfl rfl rfl rfl rfl)
  resizes {session} viewport _ kept := by
    have same : session.Untouched (session.onCard fun card =>
        { card with hotspots := card.hotspots.resize (session.mapper.resize viewport) }) := .onCard fun _ => rfl
    refine h.strokes (Session.publishIfNeeded_strokes _) (h.untouched kept ?_)
    exact ⟨same.face, same.updatesEnabled, same.inScreenUpdate, same.begun, same.transcript⟩
  takesCues _ kept := h.untouched kept
    (.ofCard rfl rfl rfl rfl (some (.cuesTaken _)) rfl (by simp [Happening.Still]))
  firesCue _ _ kept := h.untouched kept (.noted trivial)
  putsVariables _ _ kept := h.untouched kept (.ofSame rfl rfl rfl rfl rfl)
  restores _ kept := h.untouched kept (.recorded trivial)
  finishes code _ kept _ := by
    refine h.strokes (Session.publishIfNeeded_strokes _) (h.untouched ?_ (.recorded trivial))
    exact h.untouched kept (.onMovie code _)

/-- What holds in the beginning and is kept of what the display is shown holds of whatever a session comes to. -/
theorem reachable (start : ∀ config provider player, keeps (.ofStage (.ofConfig config provider player)))
    {progress : Progress (Except ScriptError Unit)} (reachable : Reachable progress) : keeps progress.session := by
  have upheld := reachable.upheld h.upkeep fun config provider player =>
    ⟨.empty provider 0, start config provider player⟩
  exact (upheld.imp fun _ _ kept => kept.2).now

end DisplayUpkeep

end Diorama
