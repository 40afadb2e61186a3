import Diorama.Proofs.CardLayout
import Diorama.Proofs.Strokes

/-!
# How deep command lists lie while they run

Reading a card refuses branches that lie deeper than sixteen, and running one refuses command lists that lie
deeper than thirty-two. A script cannot get that deep by its branches; but where updates are enabled the
screen-update script of the card runs one level below, and it has branches of its own. It does not run inside of
itself, so a run lies at most as deep as the deepest list of the script, one level more, and the deepest list of
the screen-update script.

`Script.runList_deepens` says exactly this of the room that a list is given: the refusal comes only of a list that
lies as deep as there is room for (`Command.ReachesDown`). For a card that can be read the sum is thirty-three at
most, which is one more than there is room for. It is reached by a script that enables updates in a list at the
very last level, on a card whose screen-update script has a list there as well (`Reachable.depth_limit`).
-/

namespace Diorama

/-! ## What plain commands fail of -/

namespace Script

variable {α β : Type}

/-- The program does not fail because lists lie too deep. -/
def Shallow (script : Script α) : Prop :=
  ∀ session, (script session).Sat (fun _ => True) fun _ result => result ≠ .error .tooDeep

namespace Shallow

/-- What never fails does not fail because of depth. -/
theorem of_unfailing {script : Script α} (h : Unfailing script) : Shallow script :=
  fun session => (h session).imp fun _ _ ⟨_, same⟩ never => nomatch same.symm.trans never

theorem pure (value : α) : Shallow (Pure.pure value : Script α) :=
  fun _ => nofun

theorem modify (change : Session → Session) : Shallow (Script.modify change) :=
  fun _ => nofun

/-- To look at the session cannot fail. -/
theorem get : Shallow Script.get :=
  fun _ => nofun

/-- Any other error is allowed. -/
theorem fail {error : ScriptError} (other : error ≠ .tooDeep) : Shallow (Script.fail error : Script α) :=
  fun _ same => other (Except.error.inj same)

/-- A result that is there already only has to be no such error. -/
theorem lift {value : Except ScriptError α} (other : value ≠ .error .tooDeep) : Shallow (Script.lift value) :=
  fun _ => sat_lift.mpr other

/-- An error of a program is that of its first part or of what follows. -/
theorem bind {script : Script α} {next : α → Script β} (h : Shallow script) (h' : ∀ value, Shallow (next value)) :
    Shallow (script >>= next) := by
  intro session
  refine sat_bind_of (h session) (fun later value _ => h' value later) ?_
  rintro later error other ⟨⟩
  exact other rfl

/-- To go on with the next command cannot fail. -/
theorem goesOn {script : Script Unit} (h : Shallow script) : Shallow (do script; return Flow.next) :=
  h.bind fun _ => .pure _

end Shallow

/-- The only error is that there is no card. -/
theorem openCard_shallow : Shallow openCard := by
  refine .bind .get fun session => ?_
  split
  · exact .pure _
  · exact .fail nofun

/-- The only error is that the list of the card has no such entry. -/
private theorem entry_shallow {list : ResourceList} {entries : List α} {indexOf : α → UInt16} {index : UInt16} :
    OpenCard.entry list entries indexOf index ≠ .error .tooDeep := by
  unfold OpenCard.entry
  split <;> exact nofun

/-- Looking up a name changes nothing, whether or not there is such a name. -/
theorem variableName_done (index : UInt16) (session : Session) :
    (∃ name, variableName index session = .done session (.ok name)) ∨
      ∃ error, error ≠ .tooDeep ∧ variableName index session = .done session (.error error) := by
  unfold variableName
  cases isOpen : session.card with
  | none => exact .inr ⟨.noActiveCard, nofun, bind_of_error (openCard_of_none isOpen) _⟩
  | some card =>
    rw [bind_of_ok (openCard_of_some isOpen)]
    cases card.stack.variableName? index with
    | none => exact .inr ⟨.unknownVariable index, nofun, rfl⟩
    | some name => exact .inl ⟨name, rfl⟩

/-- The only errors are that there is no card or no such name. -/
theorem variableName_shallow (index : UInt16) : Shallow (variableName index) := by
  intro session
  rcases variableName_done index session with ⟨name, named⟩ | ⟨error, other, unnamed⟩
  · rw [named]
    exact nofun
  · rw [unnamed]
    exact fun same => other (Except.error.inj same)

/-- The case that is taken is one of those of the branch. -/
theorem mem_of_selectCase? {cases : List Case} {value : UInt16} {taken : Case}
    (selected : selectCase? cases value = some taken) : taken ∈ cases := by
  rcases Option.or_eq_some_iff.mp selected with found | ⟨-, found⟩
  · exact List.mem_of_find?_eq_some found
  · exact List.mem_of_find?_eq_some found

private theorem movieSlot_shallow (code : UInt16) : Shallow (movieSlot code) := by
  refine .bind openCard_shallow fun card => ?_
  split
  · exact .pure _
  · exact .fail nofun

private theorem flag_shallow (path : String) : Shallow (flag path) :=
  .bind .get fun _ => .pure _

private theorem setHotspot_shallow (id : UInt16) (enabled : Bool) : Shallow (setHotspot id enabled) := by
  refine .bind openCard_shallow fun card => ?_
  split
  · exact .modify _
  · exact .fail nofun

private theorem gotoCard_shallow (id : UInt16) : Shallow (gotoCard id) := by
  refine .bind .get fun session => ?_
  split
  · exact .pure _
  · exact .bind openCard_shallow fun _ => .pure _

private theorem clearSoundGroup_shallow : Shallow clearSoundGroup := by
  refine .bind openCard_shallow fun card => ?_
  split
  · exact .pure _
  · exact .bind (.modify _) fun _ => .bind (.lift entry_shallow) fun _ => .modify _

private theorem activateSoundGroup_shallow (index : UInt16) : Shallow (activateSoundGroup index) := by
  have starts (group : SoundGroup) : Shallow (do
      if ← flag EngineVariables.ambientSoundsEnabled then startMedia group.media : Script Unit) := by
    refine .bind (flag_shallow _) fun on => ?_
    split
    · exact .modify _
    · exact .pure _
  refine .bind openCard_shallow fun card => .bind (.lift entry_shallow) fun group => .bind (.modify _) fun _ => ?_
  split
  · exact .bind (.modify _) fun _ => starts group
  · exact starts group

private theorem activateMovie_shallow (index : UInt16) : Shallow (activateMovie index) := by
  refine .bind openCard_shallow fun card => .bind (.lift entry_shallow) fun movie => .bind (.modify _) fun _ => ?_
  split
  · split
    · exact .bind (.modify _) fun _ => .pure _
    · exact .pure _
  · exact .pure _

private theorem startMovie_shallow (code : UInt16) : Shallow (startMovie code) := by
  refine .bind (flag_shallow _) fun on => ?_
  split
  · refine .bind (movieSlot_shallow code) fun slot => ?_
    split
    · exact .bind (.modify _) fun _ => .bind (.modify _) fun _ => .modify _
    · exact .pure _
  · exact .modify _

private theorem startMovieBlocking_shallow (code : UInt16) : Shallow (startMovieBlocking code) := by
  refine .bind (flag_shallow _) fun on => ?_
  split
  · refine .bind (movieSlot_shallow code) fun slot => .bind (.modify _) fun _ => .bind (.modify _) fun _ => ?_
    refine .bind (.modify _) fun _ => .bind (.modify _) fun _ => .bind (.of_unfailing .awaitMovie) fun outcome => ?_
    refine .bind (.modify _) fun _ => .bind (.modify _) fun _ => ?_
    split
    · exact .pure _
    · exact .bind (.modify _) fun _ => .goesOn (.modify _)
    · exact .pure _
  · exact .goesOn (.modify _)

private theorem stopMovie_shallow (code : UInt16) : Shallow (stopMovie code) := by
  refine .bind (movieSlot_shallow code) fun slot => ?_
  split
  · exact .bind (.modify _) fun _ => .modify _
  · exact .pure _

/-- No list lies in a plain command but the screen-update script. -/
theorem carryOut_shallow (inner : List Command → Script Flow) {instruction : Instruction}
    (plain : instruction ≠ .enableScreenUpdates) : Shallow (carryOut inner instruction) := by
  cases instruction with
  | gotoCard id => exact gotoCard_shallow id
  | playSound id volume => exact .bind (.modify _) fun _ => .goesOn (.modify _)
  | setVariable index value => exact .bind (variableName_shallow index) fun _ => .goesOn (.modify _)
  | setHotspot id enabled => exact .goesOn (setHotspot_shallow id enabled)
  | clearSoundGroup => exact .goesOn clearSoundGroup_shallow
  | setCursor cursor => exact .bind openCard_shallow fun _ => .goesOn (.modify _)
  | callExternal id args => exact .goesOn (.modify _)
  | scheduleTransition state => exact .goesOn (.modify _)
  | refresh => exact .goesOn (.modify _)
  | disableScreenUpdates => exact .goesOn (.modify _)
  | enableScreenUpdates => exact absurd rfl plain
  | setMovie code enabled => exact .goesOn (.bind (movieSlot_shallow code) fun _ => .modify _)
  | disableAllMovies => exact .bind openCard_shallow fun _ => .goesOn (.modify _)
  | startMovieBlocking code => exact startMovieBlocking_shallow code
  | startMovie code => exact .goesOn (startMovie_shallow code)
  | stopMovie code => exact .goesOn (stopMovie_shallow code)
  | scheduleCommand code due opcode args => exact .goesOn (.modify _)
  | activatePicture index =>
    exact .bind openCard_shallow fun _ => .bind (.lift entry_shallow) fun _ => .goesOn (.modify _)
  | activateSoundGroup index => exact .goesOn (activateSoundGroup_shallow index)
  | activateMovie index => exact .bind (activateMovie_shallow index) fun _ => .pure _
  | activateMovieAndStart index =>
    exact .bind (activateMovie_shallow index) fun code => .goesOn (startMovie_shallow code)
  | activateButton index =>
    exact .bind openCard_shallow fun _ => .bind (.lift entry_shallow) fun _ => .goesOn (setHotspot_shallow _ _)

end Script

/-! Decoding has no lists to lie in one another. -/

/-- The same of results that are computed one from the other. -/
private theorem bind_ne_tooDeep {α β : Type} {value : Except ScriptError α} {next : α → Except ScriptError β}
    (h : value ≠ .error .tooDeep) (h' : ∀ found, next found ≠ .error .tooDeep) :
    value >>= next ≠ .error .tooDeep := by
  cases value with
  | error error => exact fun same => h (congrArg _ (Except.error.inj same))
  | ok found => exact h' found

/-- The only error is that the opcode is unknown. -/
theorem Opcode.ofCode_ne_tooDeep (code : UInt16) : Opcode.ofCode code ≠ .error .tooDeep := by
  unfold Opcode.ofCode
  split <;> exact nofun

/-- The errors speak of the operands. -/
theorem Instruction.ofOpcode_ne_tooDeep (opcode : Opcode) (args : List UInt16) :
    Instruction.ofOpcode opcode args ≠ .error .tooDeep := by
  fun_cases Instruction.ofOpcode opcode args with
  | case23 code high low opcode rest =>
    refine bind_ne_tooDeep (Opcode.ofCode_ne_tooDeep opcode) fun opcode => bind_ne_tooDeep ?_ fun _ => nofun
    unfold Opcode.checkOperands
    split <;> exact nofun
  | _ => exact nofun

/-- So no command is too deep to be decoded. -/
theorem Instruction.decode_ne_tooDeep (opcode : UInt16) (args : List UInt16) :
    Instruction.decode opcode args ≠ .error .tooDeep :=
  bind_ne_tooDeep (Opcode.ofCode_ne_tooDeep opcode) fun known => Instruction.ofOpcode_ne_tooDeep known args

/-! ## Lists that lie too deep -/

/-- A list lies `depth` levels below the commands, by their own branches, or behind a command that enables updates
by those of the screen-update script. -/
def Command.ReachesDown (screenUpdate : Option (List Command)) (depth : Nat) (commands : List Command) : Prop :=
  (∃ list, ListAt commands depth list) ∨
    ∃ level list below deepest, ListAt commands level list ∧
      (∃ command ∈ list, command.instruction? = some .enableScreenUpdates) ∧
      (∃ script, screenUpdate = some script ∧ ListAt script below deepest) ∧ depth = level + 1 + below

namespace Command.ReachesDown

variable {screenUpdate : Option (List Command)} {depth : Nat} {commands : List Command}

/-- A list reaches one level further down than the list of any of its cases. -/
theorem inside {index : UInt16} {cases : List Case} {case : Case} (branch : .branch index cases ∈ commands)
    (chosen : case ∈ cases) (h : ReachesDown screenUpdate depth case.commands) :
    ReachesDown screenUpdate (depth + 1) commands := by
  rcases h with ⟨list, here⟩ | ⟨level, list, below, deepest, here, enables, there, rfl⟩
  · exact .inl ⟨list, .inside branch chosen here⟩
  · exact .inr ⟨level + 1, list, below, deepest, .inside branch chosen here, enables, there, by omega⟩

/-- What is below the screen-update script is below the command that runs it. -/
theorem ofScript {command : Command} {script : List Command} (among : command ∈ commands)
    (enables : command.instruction? = some .enableScreenUpdates) (has : screenUpdate = some script)
    (h : ReachesDown none depth script) : ReachesDown screenUpdate (depth + 1) commands := by
  rcases h with ⟨deepest, here⟩ | ⟨_, _, _, _, _, _, ⟨_, never, _⟩, _⟩
  · exact .inr ⟨0, commands, depth, deepest, .here commands, ⟨command, among, enables⟩, ⟨script, has, here⟩, by omega⟩
  · cases never

end Command.ReachesDown

/-- The screen-update script that runs when updates are enabled. It does not run inside of itself. -/
def Session.screenUpdate? (session : Session) : Option (List Command) :=
  if session.inScreenUpdate then none else session.card.bind (·.script? .screenUpdate)

/-- What decides which screen-update script runs is as it was. -/
structure Session.Updates (session later : Session) : Prop where
  inScreenUpdate : later.inScreenUpdate = session.inScreenUpdate
  continues : session.Continues later

namespace Session.Updates

variable {session between later : Session}

/-- The session itself. -/
theorem refl (session : Session) : session.Updates session :=
  ⟨rfl, .refl session⟩

/-- From a session to one between and on from there. -/
theorem trans (h : session.Updates between) (h' : between.Updates later) : session.Updates later :=
  ⟨h'.inScreenUpdate.trans h.inScreenUpdate, h.continues.trans h'.continues⟩

/-- The screen-update script that would run is the same one. -/
theorem screenUpdate?_eq (h : session.Updates later) : later.screenUpdate? = session.screenUpdate? := by
  have script : later.card.bind (·.script? .screenUpdate) = session.card.bind (·.script? .screenUpdate) := by
    have related := h.continues.card
    generalize session.card = before, later.card = after at related
    cases related with
    | none => rfl
    | some continues =>
      dsimp only [Option.bind_some]
      rw [OpenCard.script?, OpenCard.script?, continues.record]
  rw [screenUpdate?, screenUpdate?, h.inScreenUpdate, script]

/-- To begin a command changes no script of the card, and does not cover anything. -/
theorem begin (session : Session) (command : Command) : session.Updates (session.begin command) :=
  ⟨rfl, { Session.Continues.refl session with }⟩

/-- Nor does publishing what is needed. -/
theorem publishIfNeeded (session : Session) : session.Updates session.publishIfNeeded :=
  ⟨session.aside_publishIfNeeded.inScreenUpdate, session.publishIfNeeded_chain.continues⟩

/-- Nor does enabling updates and publishing. -/
theorem shows (session : Session) : session.Updates (session.changeUpdates .enabled).publish := by
  have shown : ScriptChain session (session.changeUpdates .enabled).publish :=
    (ScriptAct.changesUpdates .enabled trivial).chain.trans (Session.publish_chain rfl)
  exact ⟨(Session.aside_publish _).inScreenUpdate, shown.continues⟩

/-- Deeds keep the card, and strokes keep it covered or uncovered. -/
theorem ofStrokes (deeds : DeedChain session later) (strokes : StrokeChain session later) : session.Updates later :=
  ⟨strokes.keeps (fun stroke same => stroke.inScreenUpdate.trans same) rfl, deeds.script.continues⟩

end Session.Updates

namespace Script

/-- The program leaves alone what decides which screen-update script runs; and if it fails since lists lie too
deep, then `deep` of that script. -/
def Deepens (deep : Option (List Command) → Prop) (script : Script Flow) (session : Session) : Prop :=
  (script session).Sat (fun _ => True) fun later result =>
    session.Updates later ∧ (result = .error .tooDeep → deep session.screenUpdate?)

section Inner

variable {inner : List Command → Script Flow} {room : Nat} {session : Session}
  (does : ∀ commands, Does DeedChain (inner commands))
  (deepens : ∀ commands session, Deepens (Command.ReachesDown · room commands) (inner commands) session)
include deepens

/-- The screen-update script lies one level below the list in which updates are enabled, and while it runs there
is none to run inside of it. -/
theorem enableScreenUpdates_deepens {commands : List Command} {command : Command} (among : command ∈ commands)
    (enables : command.instruction? = some .enableScreenUpdates) (session : Session) :
    Deepens (Command.ReachesDown · (room + 1) commands) (enableScreenUpdates inner) session := by
  unfold Deepens enableScreenUpdates
  rw [get_bind]
  split
  next => exact ⟨.shows session, nofun⟩
  next idle =>
    cases isOpen : session.card with
    | none =>
      rw [bind_of_error (openCard_of_none isOpen)]
      exact ⟨.refl session, fun never => by cases never⟩
    | some card =>
      rw [bind_of_ok (openCard_of_some isOpen)]
      cases has : card.script? .screenUpdate with
      | none => exact ⟨.shows session, nofun⟩
      | some script =>
        have here : session.screenUpdate? = some script := by
          rw [Session.screenUpdate?, if_neg idle, isOpen, Option.bind_some, has]
        dsimp only
        rw [get_bind, modify_bind]
        -- Under its own flag the screen-update script finds none to run, so it is too deep by its own lists.
        refine sat_attempt_bind_of (deepens script session.cover) fun between result ⟨still, deep⟩ => ?_
        rw [modify_bind]
        have idle : session.inScreenUpdate = false := Bool.eq_false_iff.mpr idle
        have uncovered : session.Updates (between.uncover session.updatesEnabled) := by
          have restored := between.uncover_chain session.updatesEnabled
          exact ⟨idle.symm, (session.cover_chain.continues.trans still.continues).trans restored.continues⟩
        cases result with
        | error error => exact ⟨uncovered, fun same => .ofScript among enables here (deep same)⟩
        | ok flow =>
          cases flow with
          | next => exact ⟨uncovered.trans (.shows _), nofun⟩
          | goto target => exact ⟨uncovered, nofun⟩
          | halt => exact ⟨uncovered, nofun⟩

/-- The list of a case lies one level below its branch. -/
theorem branch_deepens {commands : List Command} {index : UInt16} {cases : List Case}
    (among : .branch index cases ∈ commands) (session : Session) :
    Deepens (Command.ReachesDown · (room + 1) commands) (branch inner index cases) session := by
  unfold Deepens branch
  rcases variableName_done index session with ⟨name, named⟩ | ⟨error, other, unnamed⟩
  · rw [bind_of_ok named, get_bind]
    cases selected : selectCase? cases (session.game.value name) with
    | none => exact ⟨.refl session, fun never => by cases never⟩
    | some taken =>
      refine (deepens taken.commands session).imp fun later result ⟨updates, deep⟩ => ⟨updates, fun same => ?_⟩
      exact .inside among (mem_of_selectCase? selected) (deep same)
  · rw [bind_of_error unnamed]
    exact ⟨.refl session, fun same => absurd (Except.error.inj same) other⟩

include does

/-- A command has a list one level below only if it branches or enables updates. -/
theorem runCommand_deepens {commands : List Command} {command : Command} (among : command ∈ commands)
    (session : Session) :
    Deepens (Command.ReachesDown · (room + 1) commands) (runCommand inner command) (session.begin command) := by
  cases command with
  | branch index cases => exact branch_deepens deepens among _
  | op opcode args =>
    rw [Deepens, runCommand]
    cases decoded : Instruction.decode opcode args with
    | error error =>
      rw [bind_of_error (lift_error error _)]
      refine ⟨.refl _, fun same => absurd (decoded.trans ?_) (Instruction.decode_ne_tooDeep opcode args)⟩
      exact congrArg _ (Except.error.inj same)
    | ok instruction =>
      rw [bind_of_ok (lift_ok instruction _)]
      have stands : (Command.op opcode args).instruction? = some instruction := by
        rw [Command.instruction?, decoded]
        rfl
      by_cases enables : instruction = .enableScreenUpdates
      · subst enables
        exact enableScreenUpdates_deepens deepens among stands _
      · have told : (session.begin (.op opcode args)).CarriesOut instruction := ⟨_, rfl, stands, rfl, rfl⟩
        have strokes := carryOut_strokes inner enables told
        have deeds := carryOut_does does instruction (session.begin (.op opcode args))
        have shallow := carryOut_shallow inner enables (session.begin (.op opcode args))
        refine ((deeds.and strokes).and shallow).mono (fun _ _ => trivial) fun later result all => ?_
        exact ⟨.ofStrokes all.1.1 all.1.2, fun same => absurd same all.2⟩

/-- The commands of a list are followed with what still lies ahead of it; each finds the screen-update script
that the first one found. -/
theorem runEach_deepens {commands rest : List Command} (among : ∀ command ∈ rest, command ∈ commands)
    (session : Session) :
    Deepens (Command.ReachesDown · (room + 1) commands) (runEach (runCommand inner) rest) session := by
  induction rest generalizing session with
  | nil => exact ⟨.refl session, fun never => by cases never⟩
  | cons command rest ih =>
    obtain ⟨here, later⟩ := List.forall_mem_cons.mp among
    unfold Deepens runEach
    rw [get_bind]
    split
    next => exact ⟨.refl session, fun never => by cases never⟩
    next =>
      rw [modify_bind]
      have begun : session.Updates (session.begin command) := .begin session command
      refine sat_bind_of (runCommand_deepens does deepens here session) (fun between flow ends => ?_) ?_
      · have before := begun.trans ends.1
        cases flow with
        | next =>
          have shown := before.trans (.publishIfNeeded between)
          refine (ih later between.publishIfNeeded).imp fun last result onward => ?_
          exact ⟨shown.trans onward.1, fun same => shown.screenUpdate?_eq ▸ onward.2 same⟩
        | goto target => exact ⟨before, fun never => by cases never⟩
        | halt => exact ⟨before, fun never => by cases never⟩
      · rintro between error ⟨ends, deep⟩
        exact ⟨begun.trans ends, fun same => begun.screenUpdate?_eq ▸ deep same⟩

end Inner

/-- A command list fails since lists lie too deep only if one lies as deep as there is room for. -/
theorem runList_deepens (room : Nat) (commands : List Command) (session : Session) :
    Deepens (Command.ReachesDown · room commands) (runList room commands) session := by
  induction room generalizing commands session with
  | zero => exact ⟨.refl session, fun _ => .inl ⟨commands, .here commands⟩⟩
  | succ room ih => exact runEach_deepens (runList_does room) ih (fun _ among => among) session

end Script

/-! ## Cards that can be read -/

/-- The card is what its record says, and the record was read from octets. -/
structure OpenCard.Readable (card : OpenCard) : Prop where
  decoded : ∃ bytes, CardRecord.decode bytes = .ok card.record
  hotspots : ∀ hotspot ∈ card.hotspots.hotspots, ∃ source ∈ card.record.hotspots, hotspot.scripts = source.scripts

namespace OpenCard.Readable

/-- A card that was loaded was read from octets. -/
theorem of_load {stack : Stack} {id : UInt16} {mapper : Mapper Float32} {card : OpenCard}
    (loaded : OpenCard.load stack id mapper = .ok card) : card.Readable := by
  obtain ⟨bytes, decoded, same⟩ := OpenCard.decoded_of_load loaded
  refine ⟨⟨bytes, decoded⟩, fun hotspot among => ?_⟩
  rw [same] at among
  obtain ⟨place, below, rfl⟩ := List.mem_mapIdx.mp among
  exact ⟨_, List.getElem_mem below, rfl⟩

/-- A card keeps its record for as long as it is open, and a record is all that this is about. -/
theorem continues {card later : OpenCard} (h : card.Readable) (continues : card.Continues later) : later.Readable := by
  refine ⟨by rw [continues.record]; exact h.decoded, fun hotspot among => ?_⟩
  have fixed : hotspot.fixed ∈ card.hotspots.hotspots.map Hotspot.fixed := by
    rw [← continues.hotspots]
    exact List.mem_map_of_mem among
  obtain ⟨original, there, same⟩ := List.mem_map.mp fixed
  obtain ⟨source, among, scripts⟩ := h.hotspots original there
  refine ⟨source, by rwa [continues.record], ?_⟩
  have kept : original.fixed.scripts = hotspot.fixed.scripts := congrArg Hotspot.scripts same
  exact kept.symm.trans scripts

/-- What could be read nests no deeper than reading allows. -/
theorem nestsWithin {card : OpenCard} (h : card.Readable) : card.record.NestsWithin maxNesting := by
  obtain ⟨bytes, decoded⟩ := h.decoded
  exact (CardRecord.exists_laidOut_of_decode decoded).2.1

end OpenCard.Readable

/-- The commands are a script of the card or of one of its hotspots, or a cue. -/
inductive OpenCard.Runs (card : OpenCard) : List Command → Prop where
  | script {commands : List Command} (trigger : Trigger) (has : card.script? trigger = some commands) :
      Runs card commands
  | hotspot {hotspot : Hotspot Float32} {commands : List Command} (event : UInt16)
      (among : hotspot ∈ card.hotspots.hotspots) (has : hotspot.script? event = some commands) : Runs card commands
  | cue (cue : Cue) : Runs card [cue.command]

/-- The commands that are found for an occasion are those of one of the handlers. -/
theorem Handler.mem_of_find? {handlers : List Handler} {event : UInt16} {commands : List Command}
    (found : Handler.find? handlers event = some commands) : ∃ handler ∈ handlers, handler.commands = commands := by
  obtain ⟨handler, first, same⟩ := Option.map_eq_some_iff.mp found
  exact ⟨handler, List.mem_of_find?_eq_some first, same⟩

/-- A plain command has no lists in it. -/
theorem Command.listAt_op {opcode : UInt16} {args : List UInt16} {level : Nat} {list : List Command}
    (h : ListAt [.op opcode args] level list) : level = 0 := by
  cases h with
  | here => rfl
  | inside branch chosen below => cases List.mem_singleton.mp branch

/-- Whatever a card that can be read has to run, its lists lie sixteen branches deep at most. -/
theorem OpenCard.Runs.level_le {card : OpenCard} {commands list : List Command} {level : Nat} (h : card.Runs commands)
    (readable : card.Readable) (here : Command.ListAt commands level list) : level ≤ 16 := by
  have shallow := readable.nestsWithin
  cases h with
  | script trigger has =>
    obtain ⟨handler, among, rfl⟩ := Handler.mem_of_find? has
    exact shallow handler (List.mem_append_left _ among) level list here
  | hotspot event among has =>
    obtain ⟨source, there, scripts⟩ := readable.hotspots _ among
    obtain ⟨handler, among, rfl⟩ := Handler.mem_of_find? has
    rw [scripts] at among
    exact shallow handler (List.mem_append_right _ (List.mem_flatMap.mpr ⟨source, there, among⟩)) level list here
  | cue cue =>
    rw [Command.listAt_op here]
    exact Nat.zero_le 16

/-! ## Every run -/

/-- The cards that are open now, and that were open when a command began, can be read. -/
def Session.ReadsCards (session : Session) : Prop :=
  (∀ card, session.card = some card → card.Readable) ∧
    ∀ moment ∈ session.begun, ∀ card, moment.card = some card → card.Readable

namespace Session.ReadsCards

variable {session later : Session}

/-- The cards at the moments that are noted can be read if the open card can, and nothing else was noted. -/
theorem of_begun (h : session.ReadsCards) (readable : ∀ card, later.card = some card → card.Readable)
    (begun : later.begun = session.begun ∨ ∃ command, later = session.begin command) : later.ReadsCards := by
  rcases begun with same | ⟨command, rfl⟩
  · exact ⟨readable, same ▸ h.2⟩
  · exact ⟨readable, List.forall_mem_cons.mpr ⟨h.1, h.2⟩⟩

/-- Only the opening of a card brings a new one, and that one has just been read. -/
theorem act (act : EngineAct session later) (h : session.ReadsCards) : later.ReadsCards := by
  refine h.of_begun (fun card isOpen => ?_) act.begun_cases
  cases act with
  | script act =>
    have related := act.continues.card
    rw [isOpen] at related
    generalize original : session.card = before at related
    cases related with
    | some continues => exact (h.1 _ original).continues continues
  | closes =>
    rw [session.closeCard_card] at isOpen
    cases isOpen
  | opens location closed key loaded =>
    cases isOpen
    exact .of_load loaded
  | resizes viewport =>
    obtain ⟨original, there, rfl⟩ := Option.map_eq_some_iff.mp isOpen
    have readable := h.1 original there
    refine ⟨readable.decoded, fun hotspot among => ?_⟩
    obtain ⟨before, listed, rfl⟩ := List.mem_map.mp among
    exact readable.hotspots before listed
  | _ => exact h.1 card isOpen

end Session.ReadsCards

/-- In every run all cards can be read that are open or were when a command began. -/
theorem Reachable.readsCards {progress : Progress (Except ScriptError Unit)} (reachable : Reachable progress) :
    progress.session.ReadsCards :=
  reachable.invariant (fun _ _ _ => ⟨nofun, List.forall_mem_nil _⟩) Session.ReadsCards.act

/-- In every run, between two events, while one waits, and at every moment at which a command began, the card that
is open can be read. And whatever such a card has to run, on whatever session: it fails since lists lie too deep
only if the screen-update script is not running, and a list at the deepest level that can be read enables updates,
and the screen-update script has a list at that level too. A cue never does. -/
theorem Reachable.depth_limit {progress : Progress (Except ScriptError Unit)} (reachable : Reachable progress) :
    (∀ card, progress.session.card = some card → card.Readable) ∧
    (∀ moment ∈ progress.session.begun, ∀ card, moment.card = some card → card.Readable) ∧
    ∀ (session : Session) card commands later, session.card = some card → card.Readable → card.Runs commands →
      (Script.runList (maxScriptDepth + 1) commands session).Leads (.done later (.error .tooDeep)) →
        session.inScreenUpdate = false ∧ (∀ cue : Cue, commands ≠ [cue.command]) ∧
          (∃ list, Command.ListAt commands 16 list ∧
            ∃ command ∈ list, command.instruction? = some .enableScreenUpdates) ∧
          ∃ script, card.script? .screenUpdate = some script ∧ ∃ deepest, Command.ListAt script 16 deepest := by
  refine ⟨reachable.readsCards.1, reachable.readsCards.2, ?_⟩
  intro session card commands later isOpen readable runs failed
  have deep := ((Script.runList_deepens _ commands session).of_leads_done failed).2 rfl
  rcases deep with ⟨list, here⟩ | ⟨level, list, below, deepest, here, enables, ⟨script, has, there⟩, depth⟩
  · exact absurd (runs.level_le readable here) (by decide)
  · have idle : session.inScreenUpdate = false := by
      cases running : session.inScreenUpdate with
      | false => rfl
      | true =>
        rw [Session.screenUpdate?, if_pos running] at has
        cases has
    rw [Session.screenUpdate?, if_neg (Bool.eq_false_iff.mp idle), isOpen, Option.bind_some] at has
    have above := runs.level_le readable here
    have beneath := (OpenCard.Runs.script .screenUpdate has).level_le readable there
    have depth : 33 = level + 1 + below := depth
    obtain rfl : level = 16 := by omega
    obtain rfl : below = 16 := by omega
    refine ⟨idle, fun cue same => ?_, ⟨list, here, enables⟩, script, has, deepest, there⟩
    rw [same] at here
    exact absurd (Command.listAt_op here) (by decide)

/-- A failure that is recorded: whose it is, and why. -/
def Happening.failure? : Happening → Option (String × ScriptError)
  | .recorded (.scriptFailed label error) => some (label, error)
  | _ => none

/-- A start script enables updates sixteen branches deep, on a card whose screen-update script has as many. It has
failed on arrival, and fails again. -/
theorem Reachable.depth_limit_start :
    ∃ (session : Session) (card : OpenCard) (commands : List Command) (later : Session),
    Reachable (.done session (.ok ())) ∧
    ("start", ScriptError.tooDeep) ∈ session.transcript.filterMap Happening.failure? ∧
    session.card = some card ∧ card.Readable ∧ card.script? .start = some commands ∧
    (Script.runList (maxScriptDepth + 1) commands session).Leads (.done later (.error .tooDeep)) ∧
    (∃ list, Command.ListAt commands 16 list ∧
      ∃ command ∈ list, command.instruction? = some .enableScreenUpdates) ∧
    ∃ script, card.script? .screenUpdate = some script ∧ ∃ deepest, Command.ListAt script 16 deepest := by
  let deep (innermost : List Command) : List Command :=
    Nat.repeat (fun list => [.branch 0 [{ value := 0, commands := list }]]) 16 innermost
  let record : CardRecord := { scripts := [⟨9, deep [.op 21 []]⟩, ⟨10, deep []⟩] }
  let refused (session : Session) : Bool :=
    (session.card.bind (·.script? .start)).any fun commands =>
      (Script.runList (maxScriptDepth + 1) commands session).failed?.any (·.2 == .tooDeep)
  let reports (session : Session) : Bool :=
    decide (("start", ScriptError.tooDeep) ∈ session.transcript.filterMap Happening.failure?)
  have ran : ((Session.beginningWith (some ["coin"]) "a" [(1, record)]).after?
      [.message (.goto ⟨"a", 1⟩ none)]).any (fun session => reports session && refused session) = true := by
    decide +kernel
  obtain ⟨session, reachable, here⟩ := Reachable.exists_after (.start ..) ran
  obtain ⟨reported, again⟩ := Bool.and_eq_true_iff.mp here
  obtain ⟨commands, has, fails⟩ := (Option.any_eq_true ..).mp again
  obtain ⟨card, isOpen, has⟩ := Option.bind_eq_some_iff.mp has
  obtain ⟨⟨later, error⟩, failed, same⟩ := (Option.any_eq_true ..).mp fails
  obtain rfl : error = .tooDeep := beq_iff_eq.mp same
  have leads := Progress.leads_of_failed? failed
  obtain ⟨readable, -, only⟩ := Reachable.depth_limit reachable
  have runs : card.Runs commands := .script .start has
  obtain ⟨-, -, enables, below⟩ := only session card commands later isOpen (readable card isOpen) runs leads
  exact ⟨session, card, commands, later, reachable, of_decide_eq_true reported, isOpen, readable card isOpen, has,
    leads, enables, below⟩

end Diorama
