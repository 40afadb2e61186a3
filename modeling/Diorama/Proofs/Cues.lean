import Diorama.Proofs.Upkeep

/-!
# Cues

A script may put a command on the schedule, to be carried out when a movie has come to a certain time. On
every tick of the animation clock the cues that are due are taken off the schedule, all at once, and then
carried out in the order in which they were put there. When a card is closed, what is left on its schedule
goes with it.

That is meant to be all. But a cue may ask for a card change, and then those taken with it are let go, since
the card is about to be closed. If the change is refused the card stays open, and they are neither on the
schedule nor carried out: they are lost. `Reachable.cue_schedule` says that this is the only way in which a
cue is lost.

A cue is told from another by the place at which it was put on the schedule (`Happening.placed`), and where
it is now is read off the transcript: it is waiting (`Happening.waiting`), it has been taken and is to be
carried out (`Happening.due`), it has been carried out (`Happening.carriedOut`), it has gone with its card
(`Happening.leftBehind`), or it is lost (`Happening.lost`). Whatever a transcript is like, it is in one of
these places (`Happening.accounted`). What is proved of sessions is that the transcript is true to the
schedule (`Session.Scheduled`), and that only the cue that is next is carried out (`Happening.OnCue`).
-/

namespace Diorama

namespace Happening

/-! ## Reading a transcript -/

/-- A cue is put on the schedule. -/
def scheduled? : Happening → Option Cue
  | .scheduled cue => some cue
  | _ => none

/-- The cues that are on the schedule after what has happened, the oldest first. -/
def waiting : List Happening → List (Placed Cue)
  | [] => []
  | .scheduled cue :: earlier => waiting earlier ++ [⟨earlier.length, cue⟩]
  | .cuesTaken positions :: earlier => (waiting earlier).filter (!·.what.isDue positions)
  | .recorded (.cardClosed _) :: _ => []
  | _ :: earlier => waiting earlier

/-- The cues that have been taken off the schedule and are to be carried out, in that order. -/
def due : List Happening → List (Placed Cue)
  | [] => []
  | .cuesTaken positions :: earlier => due earlier ++ (waiting earlier).filter (·.what.isDue positions)
  | .cueFired _ :: earlier => (due earlier).drop 1
  | .recorded (.cardClosed _) :: _ | .refused _ :: _ => []
  | _ :: earlier => due earlier

/-- The cues that have been carried out, in that order. -/
def carriedOut : List Happening → List (Placed Cue) :=
  gather fun earlier happening =>
    match happening with
    | .cueFired _ => (due earlier).take 1
    | _ => []

/-- The cues that were left when their card was closed. -/
def leftBehind : List Happening → List (Placed Cue) :=
  gather fun earlier happening =>
    match happening with
    | .recorded (.cardClosed _) => waiting earlier ++ due earlier
    | _ => []

/-- The cues that were still to be carried out when a card change was refused. -/
def lost : List Happening → List (Placed Cue) :=
  gather fun earlier happening =>
    match happening with
    | .refused _ => due earlier
    | _ => []

/-- The positions that the player told on the last tick, if there has been one. -/
def lastTick : List Happening → Option (SortedMap UInt16 Nat)
  | [] => none
  | .cuesTaken positions :: _ => some positions
  | _ :: earlier => lastTick earlier

/-- On the last tick a cue has been carried out. -/
def firing : List Happening → Bool
  | [] => false
  | .cueFired _ :: _ => true
  | .cuesTaken _ :: _ => false
  | _ :: earlier => firing earlier

/-! ## Every cue is accounted for -/

/-- Every cue that was put on the schedule is in one of the five places. -/
theorem accounted (transcript : List Happening) :
    (waiting transcript ++ due transcript ++ carriedOut transcript ++ leftBehind transcript
      ++ lost transcript).Perm (placed scheduled? transcript) := by
  rw [List.perm_iff_count]
  intro one
  induction transcript with
  | nil => rfl
  | cons happening earlier ih =>
    -- Each kind of happening moves cues from one place to another; so the count of any one cue stays the same.
    have same : List.count one (waiting earlier ++ due earlier ++ (carriedOut earlier ++ [])
        ++ (leftBehind earlier ++ []) ++ (lost earlier ++ []))
        = List.count one (placed scheduled? earlier ++ []) := by simpa only [List.append_nil] using ih
    simp only [List.count_append] at ih
    cases happening with
    | scheduled cue =>
      change List.count one (waiting earlier ++ [_] ++ due earlier ++ (carriedOut earlier ++ [])
        ++ (leftBehind earlier ++ []) ++ (lost earlier ++ []))
        = List.count one (placed scheduled? earlier ++ [_])
      simp only [List.count_append, List.count_nil]
      omega
    | cuesTaken positions =>
      have parted := (List.filter_append_perm (·.what.isDue positions) (waiting earlier)).count_eq one
      change List.count one ((waiting earlier).filter (!·.what.isDue positions)
        ++ (due earlier ++ (waiting earlier).filter (·.what.isDue positions)) ++ (carriedOut earlier ++ [])
        ++ (leftBehind earlier ++ []) ++ (lost earlier ++ []))
        = List.count one (placed scheduled? earlier ++ [])
      simp only [List.count_append, List.count_nil] at parted ⊢
      omega
    | cueFired cue =>
      have parted := congrArg (List.count one) (List.take_append_drop 1 (due earlier))
      change List.count one (waiting earlier ++ (due earlier).drop 1
        ++ (carriedOut earlier ++ (due earlier).take 1)
        ++ (leftBehind earlier ++ []) ++ (lost earlier ++ []))
        = List.count one (placed scheduled? earlier ++ [])
      simp only [List.count_append, List.count_nil] at parted ⊢
      omega
    | refused location =>
      change List.count one (waiting earlier ++ [] ++ (carriedOut earlier ++ []) ++ (leftBehind earlier ++ [])
        ++ (lost earlier ++ due earlier)) = List.count one (placed scheduled? earlier ++ [])
      simp only [List.count_append, List.count_nil]
      omega
    | recorded notice =>
      cases notice with
      | cardClosed location =>
        change List.count one ([] ++ [] ++ (carriedOut earlier ++ [])
          ++ (leftBehind earlier ++ (waiting earlier ++ due earlier)) ++ (lost earlier ++ []))
          = List.count one (placed scheduled? earlier ++ [])
        simp only [List.count_append, List.count_nil]
        omega
      | _ => exact same
    | _ => exact same

/-- What waits is in the order in which it was put on the schedule. -/
theorem waiting_sublist (transcript : List Happening) :
    (waiting transcript).Sublist (placed scheduled? transcript) := by
  induction transcript with
  | nil => exact .slnil
  | cons happening earlier ih =>
    have before : (waiting earlier).Sublist (placed scheduled? (happening :: earlier)) :=
      ih.trans (List.sublist_append_left _ _)
    cases happening with
    | scheduled cue => exact ih.append (.refl _)
    | cuesTaken positions => exact List.filter_sublist.trans before
    | recorded notice =>
      cases notice with
      | cardClosed location => exact List.nil_sublist _
      | _ => exact before
    | _ => exact before

/-- A cue is left behind when the card is closed under which it waits or is due. -/
theorem mem_leftBehind_iff {transcript : List Happening} {one : Placed Cue} :
    one ∈ leftBehind transcript ↔ ∃ later location earlier,
      transcript = later ++ .recorded (.cardClosed location) :: earlier ∧
        (one ∈ waiting earlier ∨ one ∈ due earlier) := by
  refine (mem_gather_iff _).trans ⟨?_, ?_⟩
  · rintro ⟨later, happening, earlier, same, here⟩
    split at here
    next location => exact ⟨later, location, earlier, same, List.mem_append.mp here⟩
    next => cases here
  · rintro ⟨later, location, earlier, same, here⟩
    exact ⟨later, _, earlier, same, List.mem_append.mpr here⟩

/-- A cue is lost when a card change is refused while it is due. -/
theorem mem_lost_iff {transcript : List Happening} {one : Placed Cue} :
    one ∈ lost transcript ↔ ∃ later location earlier,
      transcript = later ++ .refused location :: earlier ∧ one ∈ due earlier := by
  refine (mem_gather_iff _).trans ⟨?_, ?_⟩
  · rintro ⟨later, happening, earlier, same, here⟩
    split at here
    next location => exact ⟨later, location, earlier, same, here⟩
    next => cases here
  · rintro ⟨later, location, earlier, same, here⟩
    exact ⟨later, _, earlier, same, here⟩

/-! ## When cues are carried out -/

/-- What went before it allows it, as far as cues are concerned. The cue that is carried out is the next one;
cues are taken when no others are to be carried out; and if there are cues to be carried out when a card
change is refused, then one of those taken with them has asked for it. -/
def OnCue (earlier : List Happening) : Happening → Prop
  | .cueFired cue => ∃ next rest, due earlier = next :: rest ∧ next.what = cue
  | .cuesTaken _ => due earlier = []
  | .refused _ => due earlier ≠ [] → firing earlier = true
  | _ => True

/-- What is to be carried out is due at the positions that the player told last. -/
theorem isDue_of_mem_due {transcript : List Happening} (onCue : Each OnCue transcript) {one : Placed Cue}
    (among : one ∈ due transcript) :
    ∃ positions, lastTick transcript = some positions ∧ one.what.isDue positions = true := by
  induction transcript with
  | nil => cases among
  | cons happening earlier ih =>
    have before (among : one ∈ due earlier) := ih onCue.2 among
    cases happening with
    | cuesTaken positions =>
      have none : due earlier = [] := onCue.1
      have taken : one ∈ due earlier ++ (waiting earlier).filter (·.what.isDue positions) := among
      rw [none, List.nil_append] at taken
      exact ⟨positions, rfl, (List.mem_filter.mp taken).2⟩
    | cueFired cue => exact before (List.mem_of_mem_drop among)
    | refused location => cases among
    | recorded notice =>
      cases notice with
      | cardClosed location => cases among
      | _ => exact before among
    | _ => exact before among

/-- And so is what is to be carried out. -/
theorem due_sublist {transcript : List Happening} (onCue : Each OnCue transcript) :
    (due transcript).Sublist (placed scheduled? transcript) := by
  induction transcript with
  | nil => exact .slnil
  | cons happening earlier ih =>
    have onward {cues : List (Placed Cue)} (h : cues.Sublist (placed scheduled? earlier)) :
        cues.Sublist (placed scheduled? (happening :: earlier)) := h.trans (List.sublist_append_left _ _)
    have before := onward (ih onCue.2)
    cases happening with
    | cuesTaken positions =>
      have none : due earlier = [] := onCue.1
      change (due earlier ++ _).Sublist _
      rw [none, List.nil_append]
      exact List.filter_sublist.trans (onward (waiting_sublist earlier))
    | cueFired cue => exact (List.drop_sublist 1 _).trans before
    | refused location => exact List.nil_sublist _
    | recorded notice =>
      cases notice with
      | cardClosed location => exact List.nil_sublist _
      | _ => exact before
    | _ => exact before

/-! ### What scripts note -/

/-- Scripts take no cues and fire none. -/
theorem OfScript.reads {happening : Happening} (ofScript : happening.OfScript) (earlier : List Happening) :
    due (happening :: earlier) = due earlier ∧ firing (happening :: earlier) = firing earlier ∧
      happening.OnCue earlier := by
  cases happening with
  | recorded notice =>
    cases notice with
    | cardClosed location => exact ofScript.elim
    | _ => exact ⟨rfl, rfl, trivial⟩
  | cuesTaken positions => exact ofScript.elim
  | cueFired cue => exact ofScript.elim
  | refused location => exact ofScript.elim
  | _ => exact ⟨rfl, rfl, trivial⟩

/-- Scripts do not carry out cues. -/
theorem Noted.reads {earlier later : List Happening} (noted : Noted earlier later) :
    due later = due earlier ∧ firing later = firing earlier ∧ (Each OnCue earlier → Each OnCue later) := by
  obtain ⟨during, rfl, ofScript⟩ := noted
  induction during with
  | nil => exact ⟨rfl, rfl, id⟩
  | cons happening during ih =>
    obtain ⟨due, firing, onCue⟩ := ih fun other among => ofScript other (List.mem_cons_of_mem _ among)
    obtain ⟨due', firing', here⟩ := (ofScript happening List.mem_cons_self).reads (during ++ earlier)
    exact ⟨due'.trans due, firing'.trans firing, fun before => ⟨here, onCue before⟩⟩

/-! ### Between two events -/

/-- No cue is to be carried out. -/
structure Idle (transcript : List Happening) : Prop where
  due : due transcript = []
  onCue : Each OnCue transcript

/-- Neither are cues taken nor is one carried out. -/
def OffClock : Happening → Prop
  | .cuesTaken _ | .cueFired _ => False
  | _ => True

namespace Idle

variable {earlier later : List Happening}

/-- What is not about the clock leaves it idle. -/
theorem cons (idle : Idle earlier) (happening : Happening) (offClock : happening.OffClock) :
    Idle (happening :: earlier) := by
  cases happening with
  | recorded notice =>
    cases notice with
    | cardClosed location => exact ⟨rfl, trivial, idle.onCue⟩
    | _ => exact ⟨idle.due, trivial, idle.onCue⟩
  | cuesTaken positions => exact offClock.elim
  | cueFired cue => exact offClock.elim
  | refused location => exact ⟨rfl, fun some => absurd idle.due some, idle.onCue⟩
  | _ => exact ⟨idle.due, trivial, idle.onCue⟩

/-- Scripts leave the clock idle. -/
theorem noted (idle : Idle earlier) (noted : Noted earlier later) : Idle later := by
  obtain ⟨due, -, onCue⟩ := noted.reads
  exact ⟨due.trans idle.due, onCue idle.onCue⟩

end Idle

end Happening

/-! ## The schedule -/

/-- The transcript tells which cues are on the schedule. -/
def Session.Scheduled (session : Session) : Prop :=
  (Happening.waiting session.transcript).map (·.what) = session.cues

/-- A script adds cues to the schedule, and takes none off it. -/
theorem ScriptAct.scheduled {session later : Session} (act : ScriptAct session later)
    (h : session.Scheduled) : later.Scheduled := by
  cases act with
  | suffered act =>
    cases act with
    | preload key =>
      unfold Session.suffer Session.onStage Outside.apply Stage.preload
      dsimp only
      cases (session.toStage.resolve key).1 with
      | ok stack => exact h
      | error error => exact h
    | _ => exact h
  | recorded notice ofScript => cases notice <;> first | exact h | exact ofScript.elim
  | schedules cue =>
    change (Happening.waiting session.transcript ++ [_]).map _ = session.cues ++ [cue]
    rw [List.map_append, h]
    rfl
  | shows enabled =>
    unfold Session.showCard
    split
    · exact h
    · exact h
  | _ => exact h

namespace Session

/-- Closing a card leaves nothing on the schedule, and nothing to be carried out. -/
theorem closeCard_idle {session : Session} (onCue : Happening.Each Happening.OnCue session.transcript)
    (isOpen : session.card.isSome = true) : Happening.Idle session.closeCard.transcript := by
  obtain ⟨card, isOpen⟩ := Option.isSome_iff_exists.mp isOpen
  obtain ⟨player, same⟩ := closeCard_of_some isOpen
  have stopped : Happening.Noted session.transcript
      (((playing card).map Happening.stopped).reverse ++ session.transcript) := by
    refine ⟨_, rfl, fun happening among => ?_⟩
    obtain ⟨media, -, rfl⟩ := List.mem_map.mp (List.mem_reverse.mp among)
    trivial
  rw [same]
  exact ⟨rfl, trivial, trivial, stopped.reads.2.2 onCue⟩

/-- What is due is taken off the schedule, and the rest stays in its order. -/
theorem takeDue_scheduled {session : Session} (h : session.Scheduled) : session.takeDue.Scheduled := by
  change ((Happening.waiting session.transcript).filter (!·.what.isDue session.player.positions)).map (·.what)
    = session.cues.filter (!·.isDue session.player.positions)
  rw [← h, List.filter_map]
  rfl

end Session

/-- Besides the clock, only the closing of a card empties the schedule. -/
theorem EngineAct.scheduled {session later : Session} (act : EngineAct session later)
    (h : session.Scheduled) : later.Scheduled := by
  cases act with
  | script act => exact act.scheduled h
  | closes =>
    cases isOpen : session.card with
    | none =>
      rw [Session.closeCard_of_none isOpen]
      exact h
    | some card =>
      obtain ⟨player, same⟩ := Session.closeCard_of_some isOpen
      rw [same]
      rfl
  | recorded notice ofEngine => cases notice <;> first | exact h | exact ofEngine.elim
  | takesCues => exact Session.takeDue_scheduled h
  | _ => exact h

/-! ## Events but for ticks -/

namespace Session

/-- No cue is to be carried out, and whatever was carried out was the next one. -/
abbrev Idle (session : Session) : Prop :=
  Happening.Idle session.transcript

/-- Whatever was carried out was the next one. -/
abbrev OnCue (session : Session) : Prop :=
  Happening.Each Happening.OnCue session.transcript

/-- A script in between events finds the clock idle and leaves it so. -/
theorem Idle.script {session later : Session} (idle : session.Idle) (chain : ScriptChain session later) :
    later.Idle :=
  Happening.Idle.noted idle chain.notes

/-- No script is in the way of the clock. -/
theorem cues_scriptUpkeep : ScriptUpkeep (fun session => session.resolver.Sound ∧ session.Scheduled) OnCue
    Idle Idle where
  act act a := ⟨act.sound a.1, act.scheduled a.2⟩
  owes _ idle := idle
  script label commands _ idle := by
    refine ((Script.runScript_runs label commands).script _).mono (fun _ chain => ?_) fun _ _ chain => ?_
    · exact (Idle.script idle chain).onCue
    · exact ⟨Idle.script idle chain, fun _ _ => Idle.script idle chain⟩

/-- Nothing but a tick takes cues or carries them out. -/
theorem cues_upkeep : OffClockUpkeep (fun session => session.resolver.Sound ∧ session.Scheduled) OnCue
    Idle Idle where
  toScriptUpkeep := cues_scriptUpkeep
  sound a := a.1
  hover a idle := by
    refine cues_scriptUpkeep.refreshHover_sat ?_ ?_ a idle
    · exact fun notice _ _ idle => Happening.Idle.cons idle (.recorded notice) trivial
    · exact fun hit _ idle => idle
  leaves _ _ idle := idle
  closes _ idle isOpen := closeCard_idle idle.onCue isOpen
  -- What is told when a card is opened moves no cue.
  opens location _ idle _ _ _ :=
    (Happening.Idle.cons idle (.recorded (.cardOpened location)) trivial).cons (.updates .opened) trivial
  reveals {_ prepared} _ _ _ _ _ _ idle _ _ := by
    have shown : (prepared.changeUpdates .shown).Idle := Happening.Idle.cons idle (.updates .shown) trivial
    exact Idle.script shown (publish_chain rfl)
  resolves _ _ idle := idle
  refuses {session} location error _ idle := by
    have noted : (session.onStage (·.note (.refused location))).Idle :=
      Happening.Idle.cons idle (.refused location) trivial
    exact Idle.script noted (ScriptAct.fails "goto" error).chain
  cutsOff _ idle := Happening.Idle.cons idle .cutOff trivial
  suffers act _ idle := Idle.script idle (ScriptAct.suffered act).chain
  points _ _ idle := idle
  presses _ _ idle := idle
  resizes {session} viewport _ idle := by
    have resized : Idle { session with
      mapper := session.mapper.resize viewport
      card := session.card.map fun card =>
        { card with hotspots := card.hotspots.resize (session.mapper.resize viewport) } } := idle
    exact Idle.script resized (publishIfNeeded_chain _)
  putsVariables _ _ idle := idle
  restores _ idle := Happening.Idle.cons idle (.recorded .stateRestored) trivial
  finishes {session} code _ idle _ := by
    have ended : Idle ((session.onMovie code fun slot =>
        if slot.movie.looping then slot else { slot with playing := false }).record (.movieFinished code)) :=
      Happening.Idle.cons idle (.recorded (.movieFinished code)) trivial
    exact Idle.script ended (publishIfNeeded_chain _)

end Session

/-! ## Ticks -/

namespace Script

open Session

/-- Scripts never fail, and leave it to the engine to carry out cues. -/
theorem RunsScripts.onCue {α : Type} {script : Script α} (runs : RunsScripts script) {session : Session}
    (onCue : session.OnCue) : (script session).Sat OnCue fun later result =>
      ∃ value, result = .ok value ∧ ScriptChain session later := by
  refine ((runs.script session).and (runs.unfailing session)).mono ?_ ?_
  · exact fun later ran => ran.1.notes.reads.2.2 onCue
  · rintro later result ⟨chain, value, ended⟩
    exact ⟨value, ended, chain⟩

/-- A cue has asked for a card change. -/
structure Departs (session : Session) : Prop where
  onCue : session.OnCue
  firing : Happening.firing session.transcript = true

/-- The cues that were taken are carried out in turn, until one asks for a card change. -/
theorem runCues_onCue {session : Session} (cues : List Cue) (onCue : session.OnCue)
    (taken : (Happening.due session.transcript).map (·.what) = cues) :
    (runCues cues session).Sat OnCue fun later result => ∃ pending, result = .ok pending ∧
      EngineChain session later ∧ later.card.isSome = session.card.isSome ∧
        (pending = none → later.Idle) ∧ (pending.isSome → Departs later) := by
  induction cues generalizing session with
  | nil =>
    have idle : session.Idle := ⟨List.map_eq_nil_iff.mp taken, onCue⟩
    exact ⟨none, rfl, .refl, rfl, fun _ => idle, fun never => absurd never Bool.false_ne_true⟩
  | cons cue rest ih =>
    obtain ⟨next, others, due, same, left⟩ := List.map_eq_cons_iff.mp taken
    have fired : (session.fire cue).OnCue := ⟨⟨next, others, due, same⟩, onCue⟩
    have left : (Happening.due (session.fire cue).transcript).map (·.what) = rest := by
      change ((Happening.due session.transcript).drop 1).map _ = rest
      rw [due]
      exact left
    unfold runCues
    rw [modify_bind]
    have here : EngineChain session (session.fire cue) := (EngineAct.firesCue cue).chain
    have ran := (runScript_runs s!"movie {cue.code} cue" [cue.command]).onCue fired
    refine sat_bind_ok ran fun later target chain => ?_
    obtain ⟨due, firing, still⟩ := chain.notes.reads
    have before := here.trans chain.engine
    have isSome : later.card.isSome = session.card.isSome := chain.continues.card_isSome
    cases target with
    | some target =>
      have departs : Departs later := ⟨still fired, firing⟩
      exact ⟨_, rfl, before, isSome, fun never => absurd never (Option.some_ne_none target), fun _ => departs⟩
    | none =>
      refine (ih (still fired) (due ▸ left)).imp ?_
      rintro last result ⟨pending, rfl, onward, same, ends⟩
      exact ⟨pending, rfl, before.trans onward, same.trans isSome, ends⟩

/-- The card is left for another one that a cue has asked for. -/
theorem leaveCard_departs {session : Session} (departs : Departs session)
    (isOpen : session.card.isSome = true) :
    (leaveCard session).Sat OnCue fun later result => result = .ok () ∧ later.mapper = session.mapper ∧
      EngineChain session later ∧ later.Idle ∧ later.card = none := by
  unfold leaveCard
  rw [get_bind, if_pos isOpen, modify_bind]
  let leaving : Session := { session with inLeave := true }
  have left : EngineChain session leaving := (EngineAct.leaves true).chain
  have onCue : leaving.OnCue := departs.onCue
  refine sat_bind_ok ((runCardScript_runs .leave).onCue onCue) fun later _ chain => ?_
  let ended : Session := { later with inLeave := false }
  have onCue : ended.OnCue := chain.notes.reads.2.2 onCue
  have isOpen : ended.card.isSome = true := chain.continues.card_isSome.trans isOpen
  have before : EngineChain session ended := (left.trans chain.engine).tail (.leaves false)
  exact ⟨rfl, ended.closeCard_mapper.trans chain.continues.mapper, before.tail .closes,
    closeCard_idle onCue isOpen, ended.closeCard_card⟩

/-- When a cue has asked for a card, the card that is open is closed, or the change is refused. Either way
nothing more is to be carried out. -/
theorem followTo_departs {session : Session} (sound : session.resolver.Sound) (scheduled : session.Scheduled)
    (departs : Departs session) (isOpen : session.card.isSome = true) (location : Location) :
    (followTo (some location) session).Sat OnCue fun later result => ∃ next, result = .ok next ∧
      Due (fun session => session.resolver.Sound ∧ session.Scheduled) Idle Idle later next := by
  have resolved : EngineChain session (session.resolved location) :=
    (EngineAct.resolves location.stack).chain
  have always {later : Session} (chain : EngineChain session later) :
      later.resolver.Sound ∧ later.Scheduled :=
    ⟨chain.sound sound, chain.keeps EngineAct.scheduled scheduled⟩
  have changed : (changeCard location session).Sat OnCue fun later result =>
      (∃ next, result = .ok next ∧
        Due (fun session => session.resolver.Sound ∧ session.Scheduled) Idle Idle later next) ∨
      ∃ error, result = .error error ∧ EngineChain session later ∧ Departs later := by
    have departs : Departs (session.resolved location) := ⟨departs.onCue, departs.firing⟩
    refine changeCard_sat_of sound (fun error _ => .inr ⟨error, rfl, resolved, departs⟩)
      (leaveCard_departs departs isOpen) ?_
    rintro left stack card _ ⟨chain, idle, closed⟩ key loaded
    have arrives := cues_upkeep.arriveAt_sat (always (resolved.trans chain)) idle closed key loaded
    exact arrives.imp fun _ _ => .inl
  refine sat_attempt_bind_of changed ?_
  rintro later _ (⟨next, rfl, due⟩ | ⟨error, rfl, chain, departs⟩)
  · exact ⟨next, rfl, due⟩
  · have noted : (later.onStage (·.note (.refused location))).Idle :=
      ⟨rfl, fun _ => departs.firing, departs.onCue⟩
    have idle : (later.refuse location error).Idle := noted.script (ScriptAct.fails "goto" error).chain
    have always := always (chain.trans (later.refuse_chain location error))
    exact ⟨none, rfl, cues_upkeep.due always idle none⟩

/-- On a tick the cues that are due are taken off the schedule and carried out. -/
theorem fireCues_onCue {session : Session} (sound : session.resolver.Sound) (scheduled : session.Scheduled)
    (idle : session.Idle) (isOpen : session.card.isSome = true) :
    ((fireCues >>= settle) session).Sat OnCue fun later _ =>
      (later.resolver.Sound ∧ later.Scheduled) ∧ later.Idle := by
  have onCue : session.takeDue.OnCue := ⟨idle.due, idle.onCue⟩
  have taken : (Happening.due session.takeDue.transcript).map (·.what) = session.dueCues := by
    change (Happening.due session.transcript ++ (Happening.waiting session.transcript).filter
      (·.what.isDue session.player.positions)).map (·.what)
        = session.cues.filter (·.isDue session.player.positions)
    rw [idle.due, List.nil_append, ← scheduled, List.filter_map]
    rfl
  refine sat_bind_ok (runCues_onCue session.dueCues onCue taken) ?_
  rintro later pending ⟨chain, still, ended, departs⟩
  have chain : EngineChain session later := EngineAct.takesCues.chain.trans chain
  have always : later.resolver.Sound ∧ later.Scheduled :=
    ⟨chain.sound sound, chain.keeps EngineAct.scheduled scheduled⟩
  cases pending with
  | none => exact (cues_upkeep.settle_sat (cues_upkeep.due always (ended rfl) none)).imp fun _ _ h => h.2
  | some location =>
    have followed := followTo_departs always.1 always.2 (departs rfl) (still.trans isOpen) location
    exact (cues_upkeep.settleTurn_sat 31 (cues_upkeep.settleWithin_sat 31) followed).imp fun _ _ h => h.2

end Script

/-! ## Every run -/

namespace Reachable

variable {progress : Progress (Except ScriptError Unit)}

/-- The transcript tells which cues are on the schedule, and every cue that was put there is in one place: it
is waiting, or to be carried out, or has been carried out, or was left when its card was closed, or is lost.
Cues wait, and are carried out on a tick, in the order in which they were put on the schedule. The cue that is
carried out is the first of those that were taken on the last tick and are left, and was due then. A cue is
lost exactly if it is still to be carried out when a card change is refused, and then one that was taken with
it has been carried out. Between two events no cue is to be carried out. -/
theorem cue_schedule (reachable : Reachable progress) :
    let transcript := progress.session.transcript
    (Happening.waiting transcript).map (·.what) = progress.session.cues ∧
    (Happening.waiting transcript ++ Happening.due transcript ++ Happening.carriedOut transcript
        ++ Happening.leftBehind transcript ++ Happening.lost transcript).Perm
      (Happening.placed Happening.scheduled? transcript) ∧
    (Happening.placed Happening.scheduled? transcript).Pairwise (·.place < ·.place) ∧
    (Happening.waiting transcript).Sublist (Happening.placed Happening.scheduled? transcript) ∧
    (Happening.due transcript).Sublist (Happening.placed Happening.scheduled? transcript) ∧
    (∀ later cue earlier, transcript = later ++ .cueFired cue :: earlier →
      ∃ next rest positions, Happening.due earlier = next :: rest ∧ next.what = cue ∧
        Happening.lastTick earlier = some positions ∧ cue.isDue positions = true) ∧
    (∀ later positions earlier, transcript = later ++ .cuesTaken positions :: earlier →
      Happening.due (.cuesTaken positions :: earlier)
        = (Happening.waiting earlier).filter (·.what.isDue positions)) ∧
    (∀ one, one ∈ Happening.leftBehind transcript ↔ ∃ later location earlier,
      transcript = later ++ .recorded (.cardClosed location) :: earlier ∧
        (one ∈ Happening.waiting earlier ∨ one ∈ Happening.due earlier)) ∧
    (∀ one, one ∈ Happening.lost transcript ↔ ∃ later location earlier,
      transcript = later ++ .refused location :: earlier ∧ one ∈ Happening.due earlier ∧
        Happening.firing earlier = true) ∧
    ∀ session result, progress = .done session result → Happening.due session.transcript = [] := by
  -- Cues are taken and carried out in order on ticks, and nothing but a tick does either.
  have upheld := Session.cues_upkeep.upheld
    (fun a idle isOpen => Script.fireCues_onCue a.1 a.2 idle isOpen)
    (fun config provider player => ⟨⟨.empty provider 0, rfl⟩, ⟨rfl, trivial⟩⟩) reachable
  have scheduled : progress.session.Scheduled :=
    reachable.invariant (fun _ _ _ => rfl) EngineAct.scheduled
  have onCue : Happening.Each Happening.OnCue progress.session.transcript :=
    (upheld.imp fun _ _ h => h.2.onCue).now
  refine ⟨scheduled, Happening.accounted _, Happening.pairwise_placed _ _, Happening.waiting_sublist _,
    Happening.due_sublist onCue, ?_, ?_, fun _ => Happening.mem_leftBehind_iff, fun one => ?_, ?_⟩
  · intro later cue earlier split
    rw [split] at onCue
    obtain ⟨next, rest, due, rfl⟩ := onCue.at
    have among : next ∈ Happening.due earlier := due ▸ List.mem_cons_self
    obtain ⟨positions, told, isDue⟩ := Happening.isDue_of_mem_due onCue.of_append.2 among
    exact ⟨next, rest, positions, due, rfl, told, isDue⟩
  · intro later positions earlier split
    rw [split] at onCue
    have none : Happening.due earlier = [] := onCue.at
    change Happening.due earlier ++ _ = _
    rw [none]
    rfl
  · refine Happening.mem_lost_iff.trans ⟨?_, ?_⟩
    · rintro ⟨later, location, earlier, split, among⟩
      rw [split] at onCue
      exact ⟨later, location, earlier, split, among, onCue.at (List.ne_nil_of_mem among)⟩
    · rintro ⟨later, location, earlier, split, among, -⟩
      exact ⟨later, location, earlier, split, among⟩
  · rintro session result rfl
    exact upheld.2.due

/-- Two cues are due on the same tick. The first asks for a card that there is not, and the second is never
carried out, though the card is still open. -/
theorem cue_schedule_refused : ∃ session : Session, Reachable (.done session (.ok ())) ∧
    session.card.isSome = true ∧ session.cues = [] ∧
    (Happening.lost session.transcript).map (·.what.opcode) = [.callExternal] ∧
    (Happening.carriedOut session.transcript).map (·.what.opcode) = [.gotoCard] ∧
    (Happening.carriedOut session.transcript ++ Happening.lost session.transcript).Perm
      (Happening.placed Happening.scheduled? session.transcript) := by
  let start : Handler := ⟨9, [.op 38 [5, 0, 0, 2, 9], .op 38 [5, 0, 0, 17, 1, 0]]⟩
  let ticked (session : Session) : Option Session :=
    (session.suffer (.position 5 10)).after? [.message .tick]
  let here (session : Session) : Bool :=
    session.card.isSome && session.cues.isEmpty
      && (Happening.lost session.transcript).map (·.what.opcode) == [.callExternal]
      && (Happening.carriedOut session.transcript).map (·.what.opcode) == [.gotoCard]
      && (Happening.leftBehind session.transcript).isEmpty
  have ran : (((Session.beginning "a" [(1, { scripts := [start] })]).after?
      [.message (.goto ⟨"a", 1⟩ none)]).bind ticked).any here = true := by decide +kernel
  obtain ⟨session, ended, held⟩ := (Option.any_eq_true ..).mp ran
  obtain ⟨arrived, went, onward⟩ := Option.bind_eq_some_iff.mp ended
  have reachable : Reachable (.done session (.ok ())) :=
    .of_after? (.outside (.of_after? (.start ..) went) (.position 5 10)) onward
  simp only [here, Bool.and_eq_true, beq_iff_eq, List.isEmpty_iff] at held
  obtain ⟨⟨⟨⟨isOpen, cues⟩, lost⟩, fired⟩, left⟩ := held
  obtain ⟨waiting, accounted, _, _, _, _, _, _, _, none⟩ := cue_schedule reachable
  have waiting : Happening.waiting session.transcript = [] := List.map_eq_nil_iff.mp (waiting.trans cues)
  have due := none session (.ok ()) rfl
  refine ⟨session, reachable, isOpen, cues, lost, fired, ?_⟩
  change (Happening.waiting session.transcript ++ Happening.due session.transcript ++ _
    ++ Happening.leftBehind session.transcript ++ _).Perm _ at accounted
  rw [waiting, due, left, List.append_nil, List.append_nil, List.nil_append] at accounted
  exact accounted

end Reachable

end Diorama
