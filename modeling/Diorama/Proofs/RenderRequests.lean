import Diorama.Proofs.ScreenUpdates

/-!
# Requests for render states

A script may ask for a render state at any time, and the display is told when it may be: at once, or when
updates are enabled again, on another card if need be. If a script fails, what is still held is thrown away.

So a request has a life of its own, from one happening to another, and two requests for the same state are
two requests. What tells them apart is the place at which they were made (`Happening.placed`). From a
transcript one reads which requests are held (`Happening.pending`), which were handed over
(`Happening.passed`), and which were thrown away (`Happening.dropped`). Whatever a transcript is like, the
requests that were not thrown away are those handed over and then those held, in the order in which they
were made (`Happening.passed_append_pending`). What is proved of sessions is that the transcript is true to
them (`Session.Requested`): what is read to be held is what the session holds, act by act, and what the
display was handed is what was read to be handed over.
-/

namespace Diorama

namespace Happening

/-! ## Reading a transcript -/

/-- A script asks for a render state. -/
def asked? : Happening → Option RenderState
  | .asked state => some state
  | _ => none

/-- The requests that are held after what has happened, the oldest first: those asked for, less those handed
over since, unless a script has failed since. -/
def pending : List Happening → List (Placed RenderState)
  | [] => []
  | .asked state :: earlier => pending earlier ++ [⟨earlier.length, state⟩]
  | .requested _ :: earlier => (pending earlier).drop 1
  | .recorded (.scriptFailed _ _) :: _ => []
  | _ :: earlier => pending earlier

/-- The requests that were held when a script failed. -/
def dropped : List Happening → List (Placed RenderState) :=
  gather fun earlier happening =>
    match happening with
    | .recorded (.scriptFailed _ _) => pending earlier
    | _ => []

/-- The requests that were handed to the display, the oldest first: always the first of those held. -/
def passed : List Happening → List (Placed RenderState)
  | [] => []
  | .requested _ :: earlier => passed earlier ++ (pending earlier).take 1
  | _ :: earlier => passed earlier

/-- The render states for which the display was handed a request, the oldest first. -/
def handed : List Happening → List RenderState
  | [] => []
  | .requested state :: earlier => handed earlier ++ [state]
  | _ :: earlier => handed earlier

/-- The render states of which it was recorded that the display was handed a request. -/
def told : List Happening → List RenderState
  | [] => []
  | .recorded (.renderRequested state) :: earlier => told earlier ++ [state]
  | _ :: earlier => told earlier

/-! ## What was asked for is accounted for -/

/-- Only what was asked for is pending. -/
theorem mem_asked_of_mem_pending {transcript : List Happening} {request : Placed RenderState}
    (among : request ∈ pending transcript) : request ∈ placed asked? transcript := by
  induction transcript with
  | nil => cases among
  | cons happening earlier ih =>
    have before (among : request ∈ pending earlier) : request ∈ placed asked? (happening :: earlier) :=
      List.mem_append_left _ (ih among)
    cases happening with
    | asked state => exact List.mem_append.mpr ((List.mem_append.mp among).imp_left ih)
    | requested state => exact before (List.mem_of_mem_drop among)
    | recorded notice =>
      cases notice with
      | scriptFailed label error => cases among
      | _ => exact before among
    | _ => exact before among

/-- What is thrown away is what was held at some failure. -/
theorem mem_dropped_iff {transcript : List Happening} {request : Placed RenderState} :
    request ∈ dropped transcript ↔ ∃ later label error earlier,
      transcript = later ++ .recorded (.scriptFailed label error) :: earlier ∧ request ∈ pending earlier := by
  refine (mem_gather_iff _).trans ⟨?_, ?_⟩
  · rintro ⟨later, happening, earlier, same, here⟩
    split at here
    next label error => exact ⟨later, label, error, earlier, same, here⟩
    next => cases here
  · rintro ⟨later, label, error, earlier, same, here⟩
    exact ⟨later, _, earlier, same, here⟩

/-- Only what was asked for is dropped. -/
theorem mem_asked_of_mem_dropped {transcript : List Happening} {request : Placed RenderState}
    (among : request ∈ dropped transcript) : request ∈ placed asked? transcript := by
  obtain ⟨later, label, error, earlier, rfl, held⟩ := mem_dropped_iff.mp among
  obtain ⟨later', happening, first, rfl, here⟩ := (mem_gather_iff _).mp (mem_asked_of_mem_pending held)
  refine (mem_gather_iff _).mpr ⟨later ++ .recorded (.scriptFailed label error) :: later', happening, first, ?_, here⟩
  simp

/-- What was not thrown away has been handed over or is held, in the order in which it was asked for. -/
theorem passed_append_pending (transcript : List Happening) :
    (placed asked? transcript).filter (· ∉ dropped transcript) = passed transcript ++ pending transcript := by
  induction transcript with
  | nil => rfl
  | cons happening earlier ih =>
    have same : (placed asked? earlier ++ []).filter (· ∉ dropped earlier ++ [])
        = passed earlier ++ pending earlier := by simpa only [List.append_nil] using ih
    cases happening with
    | asked state =>
      -- What is asked for now cannot have been dropped before.
      have new : (⟨earlier.length, state⟩ : Placed RenderState) ∉ dropped earlier := fun among =>
        Nat.lt_irrefl _ (place_lt_of_mem (mem_asked_of_mem_dropped among))
      have kept : [(⟨earlier.length, state⟩ : Placed RenderState)].filter (· ∉ dropped earlier)
          = [⟨earlier.length, state⟩] := List.filter_cons_of_pos (decide_eq_true new)
      change (placed asked? earlier ++ [_]).filter (· ∉ dropped earlier ++ []) =
        passed earlier ++ (pending earlier ++ [_])
      rw [List.append_nil, List.filter_append, ← List.append_assoc, ← ih]
      exact congrArg _ kept
    | requested state =>
      change (placed asked? earlier ++ []).filter (· ∉ dropped earlier ++ []) =
        (passed earlier ++ (pending earlier).take 1) ++ (pending earlier).drop 1
      rw [List.append_nil, List.append_nil, List.append_assoc, List.take_append_drop]
      exact ih
    | recorded notice =>
      cases notice with
      | scriptFailed label error =>
        have nodup := (nodup_placed asked? earlier).filter (· ∉ dropped earlier)
        rw [ih] at nodup
        have apart := (List.nodup_append.mp nodup).2.2
        have both : (placed asked? earlier).filter (· ∉ dropped earlier ++ pending earlier)
            = (passed earlier ++ pending earlier).filter (· ∉ pending earlier) := by
          rw [← ih, List.filter_filter]
          simp [Bool.and_comm]
        change (placed asked? earlier ++ []).filter (· ∉ dropped earlier ++ pending earlier) =
          passed earlier ++ []
        rw [List.append_nil, both, List.filter_append, List.filter_eq_self.mpr, List.filter_eq_nil_iff.mpr]
        · simp
        · exact fun one among => decide_eq_true fun here => apart one among one here rfl
      | _ => exact same
    | _ => exact same

/-- What waits for the display has been handed to it last. -/
theorem awaiting_suffix_handed (transcript : List Happening) : awaiting transcript <:+ handed transcript := by
  induction transcript with
  | nil => exact List.suffix_rfl
  | cons happening earlier ih =>
    cases happening with
    | requested state =>
      obtain ⟨taken, same⟩ := ih
      exact ⟨taken, by rw [handed, ← same, awaiting, List.append_assoc]⟩
    | drained => exact List.nil_suffix
    | _ => exact ih

end Happening

/-! ## The invariant -/

/-- The transcript accounts for the requests that are held and for those that the display was handed. -/
structure Session.Requested (session : Session) : Prop where
  held : (Happening.pending session.transcript).map (·.what) = session.held
  handed : Happening.handed session.transcript = (Happening.passed session.transcript).map (·.what)
  told : Happening.told session.transcript = Happening.handed session.transcript

namespace Session.Requested

variable {session : Session}

/-- Media that are stopped are no requests. -/
theorem stops (h : session.Requested) (media : List MediaRef) :
    (session.onStage (media.foldl Stage.stopMedia)).Requested := by
  induction media generalizing session with
  | nil => exact h
  | cons head rest ih =>
    have stopped : (session.onStage (·.stopMedia head)).Requested := ⟨h.held, h.handed, h.told⟩
    exact ih stopped

/-- Requests outlive the card that has asked for them. -/
theorem closeCard (h : session.Requested) : session.closeCard.Requested := by
  unfold Session.closeCard
  split
  · exact h
  next card isOpen =>
    have stopped := h.stops (playing card)
    exact ⟨stopped.held, stopped.handed, stopped.told⟩

/-- What is asked for is held behind what is held already. -/
theorem holds (h : session.Requested) (state : RenderState) : (session.hold state).Requested := by
  refine ⟨?_, h.handed, h.told⟩
  change (Happening.pending session.transcript ++ [_]).map _ = session.held ++ [state]
  rw [List.map_append, h.held]
  rfl

/-- To load a stack ahead is no request to the display. -/
theorem preload (h : session.Requested) (key : String) : (session.suffer (.preload key)).Requested := by
  rw [Session.suffer, Session.onStage]
  unfold Outside.apply Stage.preload
  dsimp only
  cases (session.toStage.resolve key).1 with
  | ok stack => exact ⟨h.held, h.handed, h.told⟩
  | error error => exact ⟨h.held, h.handed, h.told⟩

/-- The first of the requests that are held is handed over, and it is recorded. -/
theorem hands (h : session.Requested) {state : RenderState} {rest : List RenderState}
    (first : session.held = state :: rest) : { session.request state with held := rest }.Requested := by
  have held := h.held
  rw [first] at held
  obtain ⟨request, others, pending, rfl, same⟩ := List.map_eq_cons_iff.mp held
  refine ⟨?_, ?_, ?_⟩
  · change ((Happening.pending session.transcript).drop 1).map _ = rest
    rw [pending]
    exact same
  · change Happening.handed session.transcript ++ [_]
      = (Happening.passed session.transcript ++ (Happening.pending session.transcript).take 1).map _
    rw [pending, List.map_append, h.handed]
    rfl
  · exact congrArg (· ++ [_]) h.told

end Session.Requested

/-- A script holds requests, hands them over in order, and drops them only where it fails. -/
theorem ScriptAct.requested {session later : Session} (act : ScriptAct session later)
    (h : session.Requested) : later.Requested := by
  cases act with
  | suffered act =>
    cases act with
    | preload key => exact h.preload key
    | _ => exact ⟨h.held, h.handed, h.told⟩
  | recorded notice ofScript =>
    cases notice <;> first | exact ⟨h.held, h.handed, h.told⟩ | exact ofScript.elim
  | holds state => exact h.holds state
  | shows enabled =>
    unfold Session.showCard
    split
    · exact h
    · exact ⟨h.held, h.handed, h.told⟩
  | hands first enabled => exact h.hands first
  | fails label error => exact ⟨rfl, h.handed, h.told⟩
  | _ => exact ⟨h.held, h.handed, h.told⟩

/-- The engine asks for nothing by itself. -/
theorem EngineAct.requested {session later : Session} (act : EngineAct session later)
    (h : session.Requested) : later.Requested := by
  cases act with
  | script act => exact act.requested h
  | closes => exact h.closeCard
  | recorded notice ofEngine =>
    cases notice <;> first | exact ⟨h.held, h.handed, h.told⟩ | exact ofEngine.elim
  | _ => exact ⟨h.held, h.handed, h.told⟩

/-! ## Every run -/

/-- In the beginning nothing was asked for. -/
theorem Session.requested_ofStage (config : EngineConfig) (provider : Provider) (player : MediaPlayer) :
    (Session.ofStage (.ofConfig config provider player)).Requested :=
  ⟨rfl, rfl, rfl⟩

/-- So in every run requests are accounted for, each by its place. -/
theorem Reachable.requested {progress : Progress (Except ScriptError Unit)} (reachable : Reachable progress) :
    progress.session.Requested :=
  reachable.invariant Session.requested_ofStage EngineAct.requested

/-- What the display was handed, and then what is held, is what scripts have asked for, in that order and
each once, without what was held when a script failed. What is recorded tells of each request that was
handed over, and the display has the last of them. -/
theorem Reachable.render_requests {progress : Progress (Except ScriptError Unit)}
    (reachable : Reachable progress) :
    let session := progress.session
    let asked := Happening.placed Happening.asked? session.transcript
    Happening.handed session.transcript ++ session.held
        = (asked.filter (· ∉ Happening.dropped session.transcript)).map (·.what) ∧
      asked.Pairwise (·.place < ·.place) ∧
      (Happening.pending session.transcript).map (·.what) = session.held ∧
      (∀ request, request ∈ Happening.dropped session.transcript ↔ ∃ later label error earlier,
        session.transcript = later ++ .recorded (.scriptFailed label error) :: earlier ∧
          request ∈ Happening.pending earlier) ∧
      Happening.told session.transcript = Happening.handed session.transcript ∧
      ∃ taken, Happening.handed session.transcript = taken ++ session.display := by
  have requested := reachable.requested
  refine ⟨?_, Happening.pairwise_placed _ _, requested.held, fun _ => Happening.mem_dropped_iff,
    requested.told, ?_⟩
  · rw [Happening.passed_append_pending, List.map_append, requested.handed, requested.held]
  · obtain ⟨taken, same⟩ := Happening.awaiting_suffix_handed progress.session.transcript
    rw [reachable.screened.awaiting] at same
    exact ⟨taken, same.symm⟩

/-- Of four requests the first is handed over at once, and the second is held until the script fails. The
third is handed over, and the fourth is held on another card. -/
theorem Reachable.render_requests_failed : ∃ session : Session, Reachable (.done session (.ok ())) ∧
    session.held = [.credits] ∧ session.display = [.transitionMovie, .card] ∧
      Happening.handed session.transcript ++ session.held
        = ((Happening.placed Happening.asked? session.transcript).filter
            (· ∉ Happening.dropped session.transcript)).map (·.what) ∧
      (Happening.dropped session.transcript).map (·.what) = [.credits] := by
  let failing : Handler := ⟨9, [.op 18 [1], .op 20 [], .op 18 [2], .op 39 [5]]⟩
  let start : Handler := ⟨9, [.op 18 [0], .op 20 [], .op 18 [2]]⟩
  let here (session : Session) : Bool :=
    session.held == [.credits] && session.display == [.transitionMovie, .card]
      && (Happening.dropped session.transcript).map (·.what) == [.credits]
  have ran : ((Session.beginning "a" [(1, { scripts := [failing] }), (2, { scripts := [start] })]).after?
      [.message (.goto ⟨"a", 1⟩ none), .message (.goto ⟨"a", 2⟩ none)]).any here = true := by
    decide +kernel
  obtain ⟨session, reachable, held⟩ := Session.exists_after "a" _ ran
  simp only [here, Bool.and_eq_true, beq_iff_eq] at held
  obtain ⟨⟨held, display⟩, dropped⟩ := held
  exact ⟨session, reachable, held, display, (Reachable.render_requests reachable).1, dropped⟩

end Diorama
