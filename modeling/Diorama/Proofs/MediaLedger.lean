import Diorama.Proofs.Upkeep

/-!
# What is playing

The transcript tells what the player was asked to start and to stop, and which movies have ended by
themselves; so it tells what is playing (`Happening.live`, `Happening.sounding`). The card tells it as well:
its slots say which movies are playing, and it knows its sound group. This module proves that the two agree,
as long as the gate has not been aborted. It follows that nothing is left playing when a card is closed.

`Ledger` is the agreement, of a transcript with a table of slots and a sound group. It has one law for each
way in which the two change together: a start, a stop, an end, a movie put into a slot. `Deed.ledgered` and
the fields of `Session.keepsLedger_upkeep` apply these to the session; everything that leaves alone what is
played is dealt with at once (`Session.Ledgered.playsSame`). An abort leaves a movie playing of which the
slot says that it is not, which is why nothing is claimed after one.
-/

namespace Diorama

def MediaRef.loops : MediaRef → Bool
  | .movie _ _ looping | .soundGroup _ _ _ looping => looping
  | .sound _ _ => false

def MediaRef.isGroup : MediaRef → Bool
  | .soundGroup _ _ _ _ => true
  | .movie _ _ _ | .sound _ _ => false

/-- What the player is asked to play of a movie. -/
def Movie.media (movie : Movie) : MediaRef :=
  .movie movie.code movie.movie movie.looping

/-- A movie is played under its own code. -/
@[simp]
theorem Movie.movieCode?_media (movie : Movie) : movie.media.movieCode? = some movie.code :=
  rfl

/-- A sound group is played under no code. -/
@[simp]
theorem SoundGroup.movieCode?_media (group : SoundGroup) : group.media.movieCode? = none :=
  rfl

/-! ## Reading a transcript -/

namespace Happening

/-- The request that the player has received. -/
def request? : Happening → Option MediaRequest
  | .started media blocking => some (.start media blocking)
  | .stopped media => some (.stop media)
  | _ => none

/-- The player is told to stop something exactly where the transcript says that it was stopped. -/
theorem request?_eq_stop_iff {happening : Happening} {media : MediaRef} :
    happening.request? = some (.stop media) ↔ happening = .stopped media := by
  refine ⟨fun same => ?_, ?_⟩
  · unfold request? at same
    split at same <;> cases same
    rfl
  · rintro rfl
    rfl

/-- A visit ends exactly where the log says that the card was closed. -/
theorem visit?_eq_closed_iff {happening : Happening} {location : Location} :
    happening.visit? = some (.closed location) ↔ happening = .recorded (.cardClosed location) := by
  refine ⟨fun same => ?_, ?_⟩
  · unfold visit? at same
    split at same <;> cases same
    rfl
  · rintro rfl
    rfl

/-- What is playing under the code of a movie: what was started last under it, unless it has been stopped
since, or has ended. A wait that is answered so, or else a report, says that it has ended; a movie that loops
begins again when such a report comes. -/
def live (code : UInt16) : List Happening → Option MediaRef
  | [] => none
  | .started media _ :: earlier => if media.movieCode? = some code then some media else live code earlier
  | .stopped media :: earlier => if media.movieCode? = some code then none else live code earlier
  | .answered ended .completed :: earlier => if ended = code then none else live code earlier
  | .recorded (.movieFinished ended) :: earlier =>
    if ended = code then (live code earlier).filter (·.loops) else live code earlier
  | _ :: earlier => live code earlier

/-- The sound groups that have been started, and not stopped since. -/
def sounding : List Happening → List MediaRef
  | [] => []
  | .started media _ :: earlier => if media.isGroup then media :: sounding earlier else sounding earlier
  | .stopped media :: earlier => (sounding earlier).filter (· != media)
  | _ :: earlier => sounding earlier

/-- What is stopped under a movie's code is what was playing there; and nothing is playing when a card is
closed or opened. -/
def Accounted (earlier : List Happening) : Happening → Prop
  | .stopped media => ∀ code, media.movieCode? = some code → live code earlier = some media
  | .recorded (.cardOpened _) | .recorded (.cardClosed _) =>
    (∀ code, live code earlier = none) ∧ sounding earlier = []
  | _ => True

/-- What is silent says nothing about what is playing, and needs nothing. -/
theorem Silent.unheard {happening : Happening} (silent : happening.Silent) (earlier : List Happening) :
    (∀ code, live code (happening :: earlier) = live code earlier) ∧
      sounding (happening :: earlier) = sounding earlier ∧ happening.Accounted earlier := by
  cases happening with
  | recorded notice => cases notice <;> first | exact silent.elim | exact ⟨fun _ => rfl, rfl, trivial⟩
  | started media blocking =>
    cases media with
    | sound id volume => exact ⟨fun _ => by simp [live, MediaRef.movieCode?], by simp [sounding, MediaRef.isGroup], trivial⟩
    | movie => exact silent.elim
    | soundGroup => exact silent.elim
  | stopped media => exact silent.elim
  | answered code outcome =>
    cases outcome with
    | completed => exact silent.elim
    | skipped => exact ⟨fun _ => rfl, rfl, trivial⟩
    | aborted => exact silent.elim
  | _ => exact ⟨fun _ => rfl, rfl, trivial⟩

variable {code : UInt16} {earlier : List Happening}

@[simp]
theorem live_started (media : MediaRef) (blocking : Bool) : live code (.started media blocking :: earlier) =
    if media.movieCode? = some code then some media else live code earlier :=
  rfl

@[simp]
theorem live_stopped (media : MediaRef) : live code (.stopped media :: earlier) =
    if media.movieCode? = some code then none else live code earlier :=
  rfl

@[simp]
theorem live_completed (ended : UInt16) : live code (.answered ended .completed :: earlier) =
    if ended = code then none else live code earlier :=
  rfl

@[simp]
theorem live_finished (ended : UInt16) : live code (.recorded (.movieFinished ended) :: earlier) =
    if ended = code then (live code earlier).filter (·.loops) else live code earlier :=
  rfl

@[simp]
theorem sounding_started (media : MediaRef) (blocking : Bool) :
    sounding (.started media blocking :: earlier) =
      if media.isGroup then media :: sounding earlier else sounding earlier :=
  rfl

@[simp]
theorem sounding_stopped (media : MediaRef) :
    sounding (.stopped media :: earlier) = (sounding earlier).filter (· != media) :=
  rfl

end Happening

/-! ## The ledger -/

/-- What is playing of a movie in a slot, and of one that is not playing nothing. -/
def nowPlaying : Movie × Bool → Option MediaRef
  | (movie, true) => some movie.media
  | (_, false) => none

/-- A transcript accounts for what the slots of a card and its sound group say that is playing. -/
structure Ledger (movies : UInt16 → Option (Movie × Bool)) (group : Option (Except ScriptError SoundGroup))
    (transcript : List Happening) : Prop where
  coded : ∀ code movie playing, movies code = some (movie, playing) → movie.code = code
  listed : ∀ error, group ≠ some (.error error)
  live : ∀ code, Happening.live code transcript = (movies code).bind nowPlaying
  sounding : ∀ media ∈ Happening.sounding transcript, ∃ on, group = some (.ok on) ∧ media = on.media
  accounted : Happening.Each Happening.Accounted transcript

namespace Ledger

variable {movies : UInt16 → Option (Movie × Bool)} {group : Option (Except ScriptError SoundGroup)}
  {transcript : List Happening} {code : UInt16} {movie : Movie}

/-- What is silent leaves the account as it is. -/
theorem silent {during : List Happening} (h : Ledger movies group transcript)
    (silent : ∀ happening ∈ during, happening.Silent) : Ledger movies group (during ++ transcript) := by
  induction during with
  | nil => exact h
  | cons happening during ih =>
    have before := ih fun other among => silent other (List.mem_cons_of_mem _ among)
    obtain ⟨live, sounding, accounted⟩ :=
      (silent happening List.mem_cons_self).unheard (during ++ transcript)
    refine ⟨h.coded, h.listed, fun code => ?_, fun media among => ?_, accounted, before.accounted⟩
    · exact (live code).trans (before.live code)
    · rw [List.cons_append, sounding] at among
      exact before.sounding media among

/-- Only one slot changes, and the movie in it may be playing or not. -/
private theorem coded_update {slot : Movie × Bool} (h : Ledger movies group transcript)
    (here : slot.1.code = code) (other : UInt16) (movie : Movie) (playing : Bool)
    (found : Function.update movies code (some slot) other = some (movie, playing)) :
    movie.code = other := by
  by_cases same : other = code
  · subst same
    rw [Function.update_self] at found
    cases found
    exact here
  · rw [Function.update_of_ne same] at found
    exact h.coded other movie playing found

/-- A movie is started that lies in a slot. -/
theorem starts {playing : Bool} (h : Ledger movies group transcript)
    (found : movies code = some (movie, playing)) (blocking : Bool) :
    Ledger (Function.update movies code (some (movie, true))) group
      (.started movie.media blocking :: transcript) := by
  have here : movie.code = code := h.coded code movie playing found
  refine ⟨h.coded_update here, h.listed, fun other => ?_, fun media among => ?_, trivial, h.accounted⟩
  · by_cases same : other = code
    · simp [same, here, nowPlaying]
    · have apart : code ≠ other := fun eq => same eq.symm
      simp [Function.update_of_ne same, here, apart, h.live]
  · exact h.sounding media (by simpa [Movie.media, MediaRef.isGroup] using among)

/-- A movie is stopped that is playing. -/
theorem stops (h : Ledger movies group transcript) (found : movies code = some (movie, true)) :
    Ledger (Function.update movies code (some (movie, false))) group
      (.stopped movie.media :: transcript) := by
  have here : movie.code = code := h.coded code movie true found
  refine ⟨h.coded_update here, h.listed, fun other => ?_, fun media among => ?_, fun other same => ?_,
    h.accounted⟩
  · by_cases same : other = code
    · simp [same, here, nowPlaying]
    · have apart : code ≠ other := fun eq => same eq.symm
      simp [Function.update_of_ne same, here, apart, h.live]
  · exact h.sounding media (List.mem_of_mem_filter among)
  · have same : other = code := by simpa [here, eq_comm] using same
    rw [same, h.live, found]
    rfl

/-- A movie has ended that was waited for. -/
theorem completes (h : Ledger movies group transcript) (found : movies code = some (movie, true)) :
    Ledger (Function.update movies code (some (movie, false))) group
      (.answered code .completed :: transcript) := by
  have here : movie.code = code := h.coded code movie true found
  refine ⟨h.coded_update here, h.listed, fun other => ?_, h.sounding, trivial, h.accounted⟩
  by_cases same : other = code
  · simp [same, nowPlaying]
  · have apart : code ≠ other := fun eq => same eq.symm
    simp [Function.update_of_ne same, apart, h.live]

/-- It is reported that a movie has ended. One that loops goes on. -/
theorem finishes (h : Ledger movies group transcript) : Ledger
    (Function.update movies code ((movies code).map fun slot => (slot.1, slot.2 && slot.1.looping))) group
      (.recorded (.movieFinished code) :: transcript) := by
  refine ⟨fun other movie playing found => ?_, h.listed, fun other => ?_, h.sounding, trivial, h.accounted⟩
  · by_cases same : other = code
    · subst same
      rw [Function.update_self] at found
      obtain ⟨slot, there, changed⟩ := Option.map_eq_some_iff.mp found
      cases changed
      exact h.coded other slot.1 slot.2 there
    · rw [Function.update_of_ne same] at found
      exact h.coded other movie playing found
  · by_cases same : other = code
    · subst same
      cases found : movies other with
      | none => simp [h.live, found]
      | some slot =>
        obtain ⟨movie, playing⟩ := slot
        cases playing <;> cases looping : movie.looping <;>
          simp [h.live, found, nowPlaying, looping, Movie.media, MediaRef.loops]
    · have apart : code ≠ other := fun eq => same eq.symm
      simp [Function.update_of_ne same, apart, h.live]

/-- A movie is put into a slot in which none is playing. -/
theorem puts (h : Ledger movies group transcript) (next : Movie) (here : next.code = code)
    (idle : (movies code).bind nowPlaying = none) :
    Ledger (Function.update movies code (some (next, false))) group transcript := by
  refine ⟨h.coded_update here, h.listed, fun other => ?_, h.sounding, h.accounted⟩
  by_cases same : other = code
  · simp [same, nowPlaying, h.live, idle]
  · simp [Function.update_of_ne same, h.live]

/-- Another sound group, or none, takes the place of one that is not sounding. -/
theorem regroups (h : Ledger movies group transcript) (next : Option (Except ScriptError SoundGroup))
    (listed : ∀ error, next ≠ some (.error error)) (quiet : Happening.sounding transcript = []) :
    Ledger movies next transcript :=
  { h with listed, sounding := by simp [quiet] }

/-- The sound group that is on is started. -/
theorem startsGroup {on : SoundGroup} (h : Ledger movies group transcript) (here : group = some (.ok on))
    (blocking : Bool) : Ledger movies group (.started on.media blocking :: transcript) := by
  refine ⟨h.coded, h.listed, fun code => ?_, fun media among => ?_, trivial, h.accounted⟩
  · simpa using h.live code
  · rcases List.mem_cons.mp among with rfl | among
    · exact ⟨on, here, rfl⟩
    · exact h.sounding media among

/-- A sound group is stopped. If it is the one that is on, nothing sounds any more. -/
theorem stopsGroup (h : Ledger movies group transcript) (on : SoundGroup) :
    Ledger movies group (.stopped on.media :: transcript) := by
  refine ⟨h.coded, h.listed, fun code => ?_, fun media among => ?_, fun code never => ?_, h.accounted⟩
  · simpa using h.live code
  · exact h.sounding media (List.mem_of_mem_filter among)
  · simp at never

/-- Once the group that is on has been stopped, nothing sounds any more. -/
theorem sounding_stopped {on : SoundGroup} (h : Ledger movies group transcript)
    (here : group = some (.ok on)) : Happening.sounding (.stopped on.media :: transcript) = [] := by
  rw [Happening.sounding_stopped, List.filter_eq_nil_iff]
  intro media among
  obtain ⟨other, same, rfl⟩ := h.sounding media among
  rw [here] at same
  cases same
  simp

/-- Where no group is on, none sounds. -/
theorem sounding_of_none (h : Ledger movies none transcript) : Happening.sounding transcript = [] := by
  rw [List.eq_nil_iff_forall_not_mem]
  intro media among
  obtain ⟨_, never, _⟩ := h.sounding media among
  cases never

end Ledger

/-! ## Sessions -/

namespace Session

/-- What the player is to know of the slots of the open card. -/
def heard (session : Session) (code : UInt16) : Option (Movie × Bool) :=
  (session.movie? code).map MovieSlot.heard

/-- The transcript accounts for what the open card says that is playing. -/
def Ledgered (session : Session) : Prop :=
  Ledger session.heard session.group? session.transcript

/-- The player is to know of a slot its movie and whether it plays. -/
theorem heard_of_movie? {session : Session} {code : UInt16} {slot : MovieSlot}
    (found : session.movie? code = some slot) : session.heard code = some (slot.movie, slot.playing) := by
  rw [heard, found]
  rfl

/-- To change one slot changes what the player is to know of that slot alone. -/
theorem heard_onMovie (session : Session) (code : UInt16) (change : MovieSlot → MovieSlot) :
    (session.onMovie code change).heard =
      Function.update session.heard code ((session.movie? code).map fun slot => (change slot).heard) := by
  funext other
  by_cases same : other = code
  · simp [heard, movie?_onMovie, same, Function.comp_def]
  · simp [heard, movie?_onMovie, same]

/-- A movie that is found is set to play, or not to play. -/
theorem heard_onMovie_playing {session : Session} {code : UInt16} {slot : MovieSlot}
    (found : session.movie? code = some slot) (playing : Bool) :
    (session.onMovie code fun slot => { slot with playing }).heard =
      Function.update session.heard code (some (slot.movie, playing)) := by
  rw [heard_onMovie, found]
  rfl

/-- When a wait begins, the player is asked to start the movie after whatever is published. -/
theorem beginWait_played {session : Session} {code : UInt16} {slot : MovieSlot}
    (found : session.movie? code = some slot) (media : MediaRef) : ∃ during : List Happening,
    (∀ happening ∈ during, happening.Silent) ∧
    (session.beginWait code media).heard = Function.update session.heard code (some (slot.movie, true)) ∧
    (session.beginWait code media).group? = session.group? ∧
    (session.beginWait code media).transcript = .started media true :: (during ++ session.transcript) := by
  let put := session.onMovie code fun slot => { slot with playing := true }
  have same := put.publishIfNeeded_quiet.playsSame
  obtain ⟨during, transcript, silent⟩ := same.transcript
  refine ⟨.recorded (.movieAwaited code) :: during, fun happening among => ?_, ?_, ?_, ?_⟩
  · rcases List.mem_cons.mp among with rfl | among
    · trivial
    · exact silent happening among
  · rw [← heard_onMovie_playing found]
    exact funext same.movies
  · rw [← group?_onMovie session code fun slot => { slot with playing := true }]
    exact same.group
  · exact congrArg (fun transcript => _ :: _ :: transcript) transcript

/-- It is reported that a movie has ended. One that loops is playing as before. -/
def finishMovie (session : Session) (code : UInt16) : Session :=
  (session.onMovie code fun slot =>
    if slot.movie.looping then slot else { slot with playing := false }).record (.movieFinished code)

/-- The slot is changed and the report noted, each an act of the engine. -/
theorem finishMovie_chain (session : Session) (code : UInt16) : EngineChain session (session.finishMovie code) :=
  (EngineAct.script (.setVisual _)).chain.tail (.recorded (.movieFinished code) trivial)

namespace Ledgered

variable {session later : Session}

/-- Whatever leaves alone what is played. -/
theorem playsSame (h : session.Ledgered) (same : session.PlaysSame later) : later.Ledgered := by
  obtain ⟨during, transcript, silent⟩ := same.transcript
  have heard : later.heard = session.heard := funext same.movies
  unfold Ledgered
  rw [heard, same.group, transcript]
  exact h.silent silent

/-- A movie starts in its slot, and the slot says so. -/
theorem startMovie {code : UInt16} {slot : MovieSlot} (h : session.Ledgered)
    (found : session.movie? code = some slot) : (session.startMovie code slot.media).Ledgered := by
  have started := h.starts (heard_of_movie? found) false
  rw [← heard_onMovie_playing found, ← group?_onMovie session code fun slot => { slot with playing := true }]
    at started
  exact started

/-- While a movie is waited for it is playing; that the card is published meanwhile does not matter. -/
theorem beginWait {code : UInt16} {slot : MovieSlot} (h : session.Ledgered)
    (found : session.movie? code = some slot) : (session.beginWait code slot.media).Ledgered := by
  obtain ⟨during, silent, heard, group, asked⟩ := beginWait_played found slot.media
  unfold Ledgered
  rw [heard, group, asked]
  exact (h.silent silent).starts (heard_of_movie? found) true

/-- A movie is stopped in its slot, and the slot says so. -/
theorem stopMovie {code : UInt16} {slot : MovieSlot} (h : session.Ledgered)
    (found : session.movie? code = some slot) (playing : slot.playing = true) :
    (session.stopMovie code slot.media).Ledgered := by
  have here := heard_of_movie? found
  rw [playing] at here
  have stopped := h.stops here
  rw [← heard_onMovie_playing found, ← group?_onMovie session code fun slot => { slot with playing := false }]
    at stopped
  exact stopped

/-- A wait ends: the movie has come to its end, or it is stopped. -/
theorem endWait {code : UInt16} {slot : MovieSlot} {outcome : GateOutcome} (h : session.Ledgered)
    (found : session.movie? code = some slot) (playing : slot.playing = true) (told : outcome ≠ .aborted) :
    (session.endWait code slot.media outcome).Ledgered := by
  have here := heard_of_movie? found
  rw [playing] at here
  have heard := heard_onMovie_playing found false
  have group := group?_onMovie session code fun slot => { slot with playing := false }
  cases outcome with
  | completed =>
    have ended := h.completes here
    rw [← heard, ← group] at ended
    exact ended
  | skipped =>
    have silent : ∀ happening ∈ [Happening.answered code .skipped], happening.Silent := by
      simp [Happening.Silent]
    have ended := (h.silent silent).stops here
    rw [← heard, ← group] at ended
    exact ended
  | aborted => exact absurd rfl told

/-- A movie that is put into a slot stops the one that played there, and does not play yet. -/
theorem putMovie {card : OpenCard} {movie : Movie} (h : session.Ledgered)
    (isOpen : session.card = some card) : (session.putMovie movie).Ledgered := by
  let put := session.onVisual fun visual =>
    { visual with movies := visual.movies.insert movie.code { movie } }
  have heard : put.heard = Function.update session.heard movie.code (some (movie, false)) := by
    funext other
    by_cases same : other = movie.code
    · simp [put, Session.heard, movie?, onVisual, onCard, isOpen, same, SortedMap.get?_insert, MovieSlot.heard]
    · simp [put, Session.heard, movie?, onVisual, onCard, isOpen, same, SortedMap.get?_insert]
  have group : put.group? = session.group? := session.group?_onMovies (·.insert movie.code { movie })
  have idle (quiet : (session.heard movie.code).bind nowPlaying = none) : put.Ledgered := by
    unfold Ledgered
    rw [heard, group]
    exact h.puts movie rfl quiet
  unfold Session.putMovie
  dsimp only
  split
  next slot found =>
    have here := heard_of_movie? found
    split
    next playing =>
      rw [playing] at here
      -- The movie that was there is stopped after the new one has been put in its place.
      have stopped := h.stops here
      have replaced := stopped.puts movie rfl (by simp [nowPlaying])
      rw [Function.update_idem, ← heard, ← group] at replaced
      exact replaced
    next silent =>
      rw [Bool.not_eq_true] at silent
      exact idle (by rw [here, silent]; rfl)
  next none => exact idle (by rw [Session.heard, none]; rfl)

/-- A sound group that is taken off has been stopped. -/
theorem clearGroup {card : OpenCard} {index : UInt16} (h : session.Ledgered)
    (isOpen : session.card = some card) (on : card.visual.soundGroup = some index) :
    (session.clearGroup card index).Ledgered := by
  have here : session.group? = some (card.soundGroup index) := by simp [group?, isOpen, on]
  let cleared := session.onVisual fun visual => { visual with soundGroup := none }
  have heard : cleared.heard = session.heard := by
    funext code
    simp [cleared, Session.heard, movie?, onVisual, onCard, isOpen]
  have group : cleared.group? = none := session.group?_takeOff
  cases listed : card.soundGroup index with
  | error error =>
    rw [listed] at here
    exact absurd here (h.listed error)
  | ok old =>
    rw [listed] at here
    have stopped := (h.stopsGroup old).regroups none (by simp) (h.sounding_stopped here)
    rw [← heard, ← group] at stopped
    unfold Session.clearGroup
    rw [listed]
    exact stopped

/-- A sound group is put on in silence: the group before has been stopped. -/
theorem putGroup {card : OpenCard} {index : UInt16} {group : SoundGroup} (h : session.Ledgered)
    (isOpen : session.card = some card) (listed : card.soundGroup index = .ok group) :
    (session.putGroup card group).Ledgered := by
  let put := session.onVisual fun visual => { visual with soundGroup := some group.index }
  have numbered : group.index = index := OpenCard.index_of_entry listed
  have heard : put.heard = session.heard := by
    funext code
    simp [put, Session.heard, movie?, onVisual, onCard, isOpen]
  have now : put.group? = some (.ok group) := by
    rw [← listed, ← numbered]
    simp only [put, group?, onVisual, onCard, isOpen, Option.map_some, Option.bind_some]
    rfl
  have fine (error : ScriptError) : some (Except.ok group) ≠ some (Except.error error) := by
    simp
  -- With nothing sounding, it does not matter which group was on.
  have unheard (quiet : Happening.sounding session.transcript = []) : put.Ledgered := by
    unfold Ledgered
    rw [heard, now]
    exact h.regroups _ fine quiet
  unfold Session.putGroup
  cases before : card.visual.soundGroup with
  | none =>
    have none : session.group? = none := by simp [group?, isOpen, before]
    have h' := h
    unfold Ledgered at h'
    rw [none] at h'
    exact unheard h'.sounding_of_none
  | some old =>
    have here : session.group? = some (card.soundGroup old) := by simp [group?, isOpen, before]
    by_cases same : old = group.index
    · -- The group is on already, and goes on.
      have kept : put.Ledgered := by
        unfold Ledgered
        rw [heard, now, ← listed, ← numbered, ← same, ← here]
        exact h
      have none : Option.filter (· != group.index) (some group.index) = none := by simp
      rw [same, none]
      exact kept
    · cases found : card.soundGroup old with
      | error error =>
        rw [found] at here
        exact absurd here (h.listed error)
      | ok previous =>
        rw [found] at here
        have stopped := (h.stopsGroup previous).regroups _ fine (h.sounding_stopped here)
        rw [← heard, ← now] at stopped
        have differs : (old != group.index) = true := by simpa using same
        simp only [Option.filter_some, differs, if_true, Option.bind_some, found]
        exact stopped

/-! ## Closing and opening -/

/-- Everything in a list is stopped, if it is what is playing, and each code once. -/
private theorem accounted_stopped {media : List MediaRef} {transcript : List Happening}
    (accounted : Happening.Each Happening.Accounted transcript)
    (playing : ∀ one ∈ media, ∀ code, one.movieCode? = some code →
      Happening.live code transcript = some one)
    (apart : media.Pairwise fun a b => ∀ code, a.movieCode? = some code → b.movieCode? ≠ some code) :
    let after := (media.map Happening.stopped).reverse ++ transcript
    Happening.Each Happening.Accounted after ∧
      (∀ code one, Happening.live code after = some one →
        Happening.live code transcript = some one ∧ ∀ stopped ∈ media, stopped.movieCode? ≠ some code) ∧
      ∀ sound ∈ Happening.sounding after, sound ∈ Happening.sounding transcript ∧ sound ∉ media := by
  induction media generalizing transcript with
  | nil => exact ⟨accounted, fun _ _ here => ⟨here, nofun⟩, fun _ among => ⟨among, List.not_mem_nil⟩⟩
  | cons head rest ih =>
    obtain ⟨first, apart⟩ := List.pairwise_cons.mp apart
    have stopped : Happening.Each Happening.Accounted (.stopped head :: transcript) :=
      ⟨playing head List.mem_cons_self, accounted⟩
    -- The codes differ, so stopping the first leaves the others playing, to be stopped in their turn.
    have still : ∀ one ∈ rest, ∀ code, one.movieCode? = some code →
        Happening.live code (.stopped head :: transcript) = some one := by
      intro one among code same
      have differs : head.movieCode? ≠ some code := fun here => first one among code here same
      rw [Happening.live_stopped, if_neg differs]
      exact playing one (List.mem_cons_of_mem _ among) code same
    have order : ((head :: rest).map Happening.stopped).reverse ++ transcript
        = (rest.map Happening.stopped).reverse ++ .stopped head :: transcript := by simp
    obtain ⟨accounted, live, sounding⟩ := ih stopped still apart
    rw [order]
    refine ⟨accounted, fun code one here => ?_, fun sound among => ?_⟩
    · obtain ⟨before, others⟩ := live code one here
      rw [Happening.live_stopped] at before
      split at before
      next => cases before
      next differs =>
        refine ⟨before, fun other among => ?_⟩
        rcases List.mem_cons.mp among with rfl | among
        · exact differs
        · exact others other among
    · obtain ⟨before, other⟩ := sounding sound among
      rw [Happening.sounding_stopped, List.mem_filter, bne_iff_ne] at before
      exact ⟨before.1, List.not_mem_cons_of_ne_of_not_mem before.2 other⟩

/-- What is stopped when a card is closed: its movies that are playing, and its sound group. -/
private theorem mem_playing {card : OpenCard} {one : MediaRef} : one ∈ playing card ↔
    (∃ code slot, card.visual.movies.get? code = some slot ∧ slot.playing = true ∧ slot.media = one) ∨
      ∃ index group, card.visual.soundGroup = some index ∧ card.soundGroup index = .ok group ∧
        group.media = one := by
  rw [playing, List.mem_append]
  refine or_congr ⟨fun among => ?_, ?_⟩ ⟨fun among => ?_, ?_⟩
  · obtain ⟨slot, mem, rfl⟩ := List.mem_map.mp among
    obtain ⟨inTable, isPlaying⟩ := List.mem_filter.mp mem
    obtain ⟨⟨code, slot⟩, listed, rfl⟩ := List.mem_map.mp inTable
    exact ⟨code, slot, SortedMap.get?_eq_some_iff.mpr listed, isPlaying, rfl⟩
  · rintro ⟨code, slot, found, isPlaying, rfl⟩
    have listed : slot ∈ card.visual.movies.values :=
      List.mem_map.mpr ⟨(code, slot), SortedMap.get?_eq_some_iff.mp found, rfl⟩
    exact List.mem_map_of_mem (List.mem_filter.mpr ⟨listed, isPlaying⟩)
  · simp only [Option.mem_toList, Option.map_eq_some_iff, Option.bind_eq_some_iff] at among
    obtain ⟨group, ⟨index, on, listed⟩, rfl⟩ := among
    refine ⟨index, group, on, ?_, rfl⟩
    cases found : card.soundGroup index with
    | error error =>
      rw [found] at listed
      cases listed
    | ok other =>
      rw [found] at listed
      cases listed
      rfl
  · rintro ⟨index, group, on, listed, rfl⟩
    simp [on, listed, Except.toOption]

/-- No two things that are stopped when a card is closed have the same code. -/
private theorem playing_apart {card : OpenCard}
    (coded : ∀ code slot, card.visual.movies.get? code = some slot → slot.movie.code = code) :
    (playing card).Pairwise fun a b => ∀ code, a.movieCode? = some code → b.movieCode? ≠ some code := by
  have slots : (card.visual.movies.entries.map Prod.snd).Pairwise fun a b =>
      a.movie.code ≠ b.movie.code := by
    rw [List.pairwise_map]
    refine card.visual.movies.ascending.imp_of_mem ?_
    intro a b here there less same
    rw [coded a.1 a.2 (SortedMap.get?_eq_some_iff.mpr here),
      coded b.1 b.2 (SortedMap.get?_eq_some_iff.mpr there)] at same
    simp [same] at less
  rw [playing, List.pairwise_append]
  refine ⟨?_, ?_, ?_⟩
  · rw [List.pairwise_map]
    refine (slots.filter _).imp ?_
    intro a b differ code first second
    exact differ (Option.some.inj (first.trans second.symm))
  · cases (card.visual.soundGroup.bind fun index => (card.soundGroup index).toOption) <;> simp
  · intro a _ b among code _ second
    simp only [Option.mem_toList, Option.map_eq_some_iff] at among
    obtain ⟨group, _, rfl⟩ := among
    cases second

/-- What the player is to know of the open card. -/
theorem heard_of_card {card : OpenCard} (isOpen : session.card = some card) (code : UInt16) :
    session.heard code = (card.visual.movies.get? code).map MovieSlot.heard := by
  simp [Session.heard, movie?, isOpen]

/-- A movie lies in the slot of its code. -/
theorem code_of_slot {card : OpenCard} {code : UInt16} {slot : MovieSlot} (h : session.Ledgered)
    (isOpen : session.card = some card) (found : card.visual.movies.get? code = some slot) :
    slot.movie.code = code :=
  h.coded code slot.movie slot.playing (by rw [heard_of_card isOpen, found]; rfl)

/-- Everything under a code that is stopped when the card is closed is playing under it. -/
theorem live_of_mem {card : OpenCard} {one : MediaRef} {code : UInt16} (h : session.Ledgered)
    (isOpen : session.card = some card) (among : one ∈ playing card) (same : one.movieCode? = some code) :
    Happening.live code session.transcript = some one := by
  rcases mem_playing.mp among with ⟨key, slot, found, isPlaying, rfl⟩ | ⟨_, _, _, _, rfl⟩
  · have here : key = code := (h.code_of_slot isOpen found).symm.trans (Option.some.inj same)
    rw [h.live, ← here, heard_of_card isOpen, found]
    simp [MovieSlot.heard, isPlaying, nowPlaying]
    rfl
  · cases same

/-- Under every code under which something is playing, something is stopped. -/
theorem mem_of_live {card : OpenCard} {one : MediaRef} {code : UInt16} (h : session.Ledgered)
    (isOpen : session.card = some card) (live : Happening.live code session.transcript = some one) :
    ∃ stopped ∈ playing card, stopped.movieCode? = some code := by
  rw [h.live, heard_of_card isOpen] at live
  obtain ⟨heard, found, now⟩ := Option.bind_eq_some_iff.mp live
  obtain ⟨slot, there, rfl⟩ := Option.map_eq_some_iff.mp found
  cases isPlaying : slot.playing with
  | false =>
    rw [MovieSlot.heard, isPlaying] at now
    cases now
  | true =>
    have among : slot.media ∈ playing card := mem_playing.mpr (.inl ⟨code, slot, there, isPlaying, rfl⟩)
    exact ⟨slot.media, among, congrArg some (h.code_of_slot isOpen there)⟩

/-- Every sound group that sounds is stopped. -/
theorem mem_of_sounding {card : OpenCard} {sound : MediaRef} (h : session.Ledgered)
    (isOpen : session.card = some card) (sounds : sound ∈ Happening.sounding session.transcript) :
    sound ∈ playing card := by
  obtain ⟨group, on, rfl⟩ := h.sounding sound sounds
  simp only [group?, isOpen, Option.bind_some, Option.map_eq_some_iff] at on
  obtain ⟨index, set, listed⟩ := on
  exact mem_playing.mpr (.inr ⟨index, group, set, listed, rfl⟩)

/-- It is reported that a movie has ended. -/
theorem finishMovie (h : session.Ledgered) (code : UInt16) : (session.finishMovie code).Ledgered := by
  let ended := session.onMovie code fun slot =>
    if slot.movie.looping then slot else { slot with playing := false }
  have heard : ended.heard = Function.update session.heard code
      ((session.heard code).map fun slot => (slot.1, slot.2 && slot.1.looping)) := by
    rw [heard_onMovie, Session.heard, Option.map_map]
    congr 2
    funext slot
    cases looping : slot.movie.looping <;> simp [MovieSlot.heard, looping]
  have group : ended.group? = session.group? := group?_onMovie ..
  have finished : Ledger _ _ (.recorded (.movieFinished code) :: session.transcript) := h.finishes
  rw [← heard, ← group] at finished
  exact finished

/-- A card that is closed leaves nothing playing. -/
theorem closeCard (h : session.Ledgered) : session.closeCard.Ledgered := by
  cases isOpen : session.card with
  | none => rwa [Session.closeCard_of_none isOpen]
  | some card =>
    have apart := playing_apart fun code slot found => h.code_of_slot isOpen found
    obtain ⟨accounted, onlyBefore, soundsBefore⟩ :=
      accounted_stopped h.accounted (fun _ among _ same => h.live_of_mem isOpen among same) apart
    let after := ((playing card).map Happening.stopped).reverse ++ session.transcript
    have noMovie (code : UInt16) : Happening.live code after = none := by
      rw [Option.eq_none_iff_forall_not_mem]
      intro one here
      obtain ⟨before, others⟩ := onlyBefore code one here
      obtain ⟨stopped, among, same⟩ := h.mem_of_live isOpen before
      exact others stopped among same
    have noSound : Happening.sounding after = [] := by
      rw [List.eq_nil_iff_forall_not_mem]
      intro sound here
      obtain ⟨before, others⟩ := soundsBefore sound here
      exact others (h.mem_of_sounding isOpen before)
    obtain ⟨player, same⟩ := Session.closeCard_of_some isOpen
    rw [same]
    have noneSounding : ∀ sound ∈ Happening.sounding after, ∃ on : SoundGroup,
        (none : Option (Except ScriptError SoundGroup)) = some (.ok on) ∧ sound = on.media := by
      simp [noSound]
    exact ⟨nofun, nofun, noMovie, noneSounding, ⟨noMovie, noSound⟩, trivial, accounted⟩

/-- A card that is opened has nothing playing, and finds nothing playing. -/
theorem opens {card : OpenCard} {location : Location} (h : session.Ledgered) (closed : session.card = none)
    (fresh : card.visual = {}) : (session.arrived location card).Ledgered := by
  have silent (code : UInt16) : Happening.live code session.transcript = none := by
    rw [h.live]
    simp [heard, movie?, closed]
  have unheard : Happening.sounding session.transcript = [] := by
    rw [List.eq_nil_iff_forall_not_mem]
    intro sound among
    obtain ⟨_, on, _⟩ := h.sounding sound among
    simp [group?, closed] at on
  have heard (code : UInt16) : (session.arrived location card).heard code = none := by
    simp [arrived, Session.heard, movie?, changeUpdates, onStage, fresh]
  have group : (session.arrived location card).group? = none := by
    simp [arrived, group?, changeUpdates, onStage, fresh]
  refine ⟨fun code movie playing found => ?_, fun error found => ?_, fun code => ?_, fun sound among => ?_,
    trivial, ⟨silent, unheard⟩, h.accounted⟩
  · rw [heard] at found
    cases found
  · rw [group] at found
    cases found
  · rw [heard]
    exact silent code
  · change sound ∈ Happening.sounding session.transcript at among
    rw [unheard] at among
    cases among

end Ledgered

end Session

/-! ## Every run -/

/-- A deed keeps the ledger, unless it ends a wait that has been aborted. -/
theorem Deed.ledgered {session later : Session} (deed : Deed session later)
    (h : session.Ledgered) (unaborted : later.gate.aborted = false) : later.Ledgered := by
  cases deed with
  | quiet act => exact h.playsSame act.same
  | startsMovie code found on enabled => exact h.startMovie found
  | awaitsMovie code found on => exact h.beginWait found
  | endsWait code outcome found playing told =>
    refine h.endWait found playing fun aborted => ?_
    subst aborted
    exact absurd (told rfl) (Bool.eq_false_iff.mp unaborted)
  | stopsMovie code found playing => exact h.stopMovie found playing
  | putsMovie isOpen listed => exact h.putMovie isOpen
  | clearsGroup isOpen on => exact h.clearGroup isOpen on
  | putsGroup isOpen listed => exact h.putGroup isOpen listed
  | startsGroup on => exact Ledger.startsGroup h on false

namespace Session

/-- As long as the gate has not been aborted, the transcript accounts for what is playing. -/
def KeepsLedger (session : Session) : Prop :=
  session.gate.aborted = false → session.Ledgered

namespace KeepsLedger

variable {session later : Session}

/-- What was not aborted later was not aborted before. -/
theorem step (h : session.KeepsLedger) (chain : EngineChain session later)
    (ledgered : later.gate.aborted = false → session.Ledgered → later.Ledgered) : later.KeepsLedger := by
  intro unaborted
  refine ledgered unaborted (h ?_)
  cases before : session.gate.aborted with
  | false => rfl
  | true => exact absurd (chain.aborted before) (Bool.eq_false_iff.mp unaborted)

/-- It is reported that a movie has ended. -/
theorem finishes (h : session.KeepsLedger) (code : UInt16) : (session.finishMovie code).KeepsLedger :=
  h.step (session.finishMovie_chain code) fun _ ledgered => ledgered.finishMovie code

end KeepsLedger

/-! ### What is kept of what is played -/

/-- Something that is to hold of what is played: whatever leaves that alone keeps it, and so does everything
that does not. -/
structure PlayUpkeep (keeps : Session → Prop) : Prop where
  quiet : ∀ {session later}, EngineAct session later → session.PlaysSame later → keeps session → keeps later
  deed : ∀ {session later}, Deed session later → keeps session → keeps later
  closes : ∀ {session}, keeps session → keeps session.closeCard
  opens : ∀ {session} {stack : Stack} {card : OpenCard} (location : Location), keeps session →
    session.card = none → stack.key = location.stack →
    OpenCard.load stack location.id session.mapper = .ok card → keeps (session.arrived location card)
  finishes : ∀ {session} code, keeps session → keeps (session.finishMovie code)

namespace PlayUpkeep

variable {keeps : Session → Prop} (h : PlayUpkeep keeps) {session later : Session}
include h

/-- An act that does not concern the card, and notes one thing at most. -/
theorem ofCard (act : EngineAct session later) (card : later.card = session.card) (happening : Option Happening)
    (transcript : later.transcript = happening.toList ++ session.transcript)
    (silent : ∀ one ∈ happening, one.Silent) (kept : keeps session) : keeps later :=
  h.quiet act (.ofCard card happening transcript silent) kept

/-- What every deed keeps is kept by a chain of them. -/
theorem deeds (chain : DeedChain session later) (kept : keeps session) : keeps later :=
  chain.keeps h.deed kept

/-- Scripts keep what their deeds keep. -/
theorem scriptUpkeep : ScriptUpkeep (·.resolver.Sound) keeps keeps keeps where
  act := EngineAct.sound
  owes _ kept := kept
  script label commands _ kept := by
    have deeds := (Script.runScript_runs label commands).does
    refine (deeds _).mono (fun _ chain => h.deeds chain kept) fun _ _ chain => ?_
    exact ⟨h.deeds chain kept, fun _ _ => h.deeds chain kept⟩

/-- Besides scripts, only the ends of movies and the opening and closing of cards bear on what is played. -/
theorem upkeep : Upkeep (·.resolver.Sound) keeps keeps keeps where
  toScriptUpkeep := h.scriptUpkeep
  sound a := a
  hover a kept := by
    refine h.scriptUpkeep.refreshHover_sat ?_ ?_ a kept
    · intro session notice ofPointer _ kept
      refine h.ofCard (.recorded notice ofPointer.ofEngine) rfl (some _) rfl ?_ kept
      cases notice <;> simp_all [Notice.OfPointer, Happening.Silent]
    · exact fun hit _ kept => h.ofCard (.tracks hit) rfl none rfl nofun kept
  leaves running _ kept := h.ofCard (.leaves running) rfl none rfl nofun kept
  closes _ kept _ := h.closes kept
  opens location _ kept closed key loaded := h.opens location kept closed key loaded
  reveals _ _ _ _ _ kept isOpen unseen := by
    have shown := h.ofCard (.reveals isOpen unseen) rfl (some (.updates .shown)) rfl
      (by simp [Happening.Silent]) kept
    exact h.deeds (publish_quiet rfl).deeds shown
  resolves key _ kept := h.ofCard (.resolves key) rfl none rfl nofun kept
  refuses location error _ kept := by
    have noted := h.ofCard (.refuses location) rfl (some (.refused location)) rfl (by simp [Happening.Silent]) kept
    exact h.deeds (QuietAct.fails "goto" error).deed noted
  cutsOff _ kept := h.ofCard .cutsOff rfl (some .cutOff) rfl (by simp [Happening.Silent]) kept
  suffers act _ kept := h.deeds (QuietAct.suffered act).deed kept
  points point _ kept := h.ofCard (.points point) rfl none rfl nofun kept
  presses down _ kept := h.ofCard (.presses down) rfl none rfl nofun kept
  -- A hotspot has another frame in a new window, but media have none.
  resizes {session} viewport _ kept := by
    have same : session.PlaysSame (session.onCard fun card =>
        { card with hotspots := card.hotspots.resize (session.mapper.resize viewport) }) :=
      .onCard (fun _ _ => rfl) fun _ => rfl
    have resized := h.quiet (.resizes viewport) ⟨same.movies, same.group, same.transcript⟩ kept
    exact h.deeds (publishIfNeeded_quiet _).deeds resized
  takesCues _ kept := h.ofCard .takesCues rfl (some (.cuesTaken _)) rfl (by simp [Happening.Silent]) kept
  firesCue cue _ kept :=
    h.ofCard (.firesCue cue) rfl (some (.cueFired cue)) rfl (by simp [Happening.Silent]) kept
  putsVariables game _ kept := h.ofCard (.putsVariables game) rfl none rfl nofun kept
  restores _ kept :=
    h.ofCard (.recorded .stateRestored trivial) rfl (some _) rfl (by simp [Happening.Silent]) kept
  finishes code _ kept _ := h.deeds (publishIfNeeded_quiet _).deeds (h.finishes code kept)

/-- What holds in the beginning and is kept of what is played holds of whatever a session comes to. -/
theorem reachable (start : ∀ config provider player, keeps (.ofStage (.ofConfig config provider player)))
    {progress : Progress (Except ScriptError Unit)} (reachable : Reachable progress) : keeps progress.session := by
  have upheld := reachable.upheld h.upkeep fun config provider player =>
    ⟨.empty provider 0, start config provider player⟩
  exact (upheld.imp fun _ _ kept => kept.2).now

end PlayUpkeep

/-- The ledger is kept by quiet acts, by deeds, and where movies end and cards are opened and closed. -/
theorem keepsLedger_upkeep : PlayUpkeep KeepsLedger where
  quiet act same h := h.step act.chain fun _ ledgered => ledgered.playsSame same
  deed deed h := h.step deed.script.engine fun unaborted ledgered => deed.ledgered ledgered unaborted
  closes h := h.step EngineAct.closes.chain fun _ ledgered => ledgered.closeCard
  opens location h closed key loaded :=
    h.step (EngineAct.opens location closed key loaded).chain fun _ ledgered =>
      ledgered.opens closed (OpenCard.loaded_of_load loaded).visual
  finishes code h := h.finishes code

end Session

/-! ## What the player has received -/

/-- Whatever it replies, the player has received the request to start. -/
theorem MediaPlayer.requests_start (player : MediaPlayer) (media : MediaRef) (blocking : Bool) :
    (player.start media blocking).2.requests = .start media blocking :: player.requests := by
  unfold start
  dsimp only
  split
  · split <;> rfl
  · rfl

/-- The transcript tells every request that the player has received since the beginning. -/
def Stage.Recorded (stage : Stage) : Prop :=
  stage.transcript.filterMap Happening.request? <+: stage.player.requests

namespace Stage.Recorded

variable {stage : Stage}

/-- What is started is noted, and the player told. -/
theorem startMedia (h : stage.Recorded) (media : MediaRef) (blocking : Bool) :
    (stage.startMedia media blocking).Recorded := by
  change _ :: stage.transcript.filterMap Happening.request? <+: (stage.player.start media blocking).2.requests
  rw [MediaPlayer.requests_start]
  exact List.cons_prefix_cons.mpr ⟨rfl, h⟩

/-- What is stopped is noted, and the player told. -/
theorem stopMedia (h : stage.Recorded) (media : MediaRef) : (stage.stopMedia media).Recorded :=
  List.cons_prefix_cons.mpr ⟨rfl, h⟩

/-- Of several media each is. -/
theorem foldl_stopMedia (h : stage.Recorded) (media : List MediaRef) :
    (media.foldl Stage.stopMedia stage).Recorded := by
  induction media generalizing stage with
  | nil => exact h
  | cons head rest ih => exact ih (h.stopMedia head)

end Stage.Recorded

/-- No act of a script tells the player what it does not note. -/
theorem ScriptAct.recorded_keeps {session later : Session} (act : ScriptAct session later)
    (h : session.toStage.Recorded) : later.toStage.Recorded := by
  cases act with
  | suffered act => cases act <;> exact h
  | started media blocking => exact h.startMedia media blocking
  | stopped media => exact h.stopMedia media
  | shows enabled =>
    unfold Session.showCard
    split <;> exact h
  | _ => exact h

/-- Nor does any act of the engine. -/
theorem EngineAct.recorded_keeps {session later : Session} (act : EngineAct session later)
    (h : session.toStage.Recorded) : later.toStage.Recorded := by
  cases act with
  | script act => exact act.recorded_keeps h
  | closes =>
    unfold Session.closeCard
    split
    · exact h
    · exact h.foldl_stopMedia _
  | _ => exact h

namespace Reachable

variable {progress : Progress (Except ScriptError Unit)}

/-- As long as the gate has not been aborted, the transcript accounts for what the open card says that is
playing. -/
theorem ledgered (reachable : Reachable progress) (unaborted : progress.session.gate.aborted = false) :
    progress.session.Ledgered :=
  Session.keepsLedger_upkeep.reachable (fun _ _ _ _ => ⟨nofun, nofun, fun _ => rfl, nofun, trivial⟩) reachable
    unaborted

/-- As long as the gate has not been aborted, at every moment: the movies that are playing are those of
which a slot of the open card says so; a movie is stopped as what it was started as; what sounds of sound
groups is the one that the open card has on; and when a card is closed, and when one is opened, nothing is
playing but one-shot sounds. -/
theorem media_ledger (reachable : Reachable progress) (unaborted : progress.session.gate.aborted = false) :
    progress.session.transcript.filterMap Happening.request? <+: progress.session.player.requests ∧
    (∀ code media, Happening.live code progress.session.transcript = some media ↔
      ∃ card slot, progress.session.card = some card ∧ card.visual.movies.get? code = some slot ∧
        slot.playing = true ∧ slot.media = media) ∧
    (∀ later media earlier code, progress.session.transcript = later ++ .stopped media :: earlier →
      media.movieCode? = some code → Happening.live code earlier = some media) ∧
    (∀ media ∈ Happening.sounding progress.session.transcript, ∃ card index group,
      progress.session.card = some card ∧ card.visual.soundGroup = some index ∧
        card.soundGroup index = .ok group ∧ group.media = media) ∧
    ∀ later visit earlier location, progress.session.transcript = later ++ .recorded visit :: earlier →
      visit = .cardOpened location ∨ visit = .cardClosed location →
        (∀ code, Happening.live code earlier = none) ∧ Happening.sounding earlier = [] := by
  -- One invariant of the session carries all but the first, and each is read off it.
  have ledgered := reachable.ledgered unaborted
  refine ⟨?_, fun code media => ?_, ?_, fun media among => ?_, ?_⟩
  · have start (config : EngineConfig) (provider : Provider) (player : MediaPlayer) :
        (Stage.ofConfig config provider player).Recorded := List.nil_prefix
    have recorded := reachable.invariant start EngineAct.recorded_keeps
    exact recorded
  · rw [ledgered.live]
    simp only [Session.heard, Session.movie?]
    cases progress.session.card with
    | none => simp
    | some card =>
      cases found : card.visual.movies.get? code with
      | none => simp [found]
      | some slot =>
        cases playing : slot.playing <;> simp [found, playing, MovieSlot.heard, nowPlaying]
        rfl
  · intro later media earlier code split same
    have accounted := ledgered.accounted
    rw [split] at accounted
    exact accounted.at code same
  · obtain ⟨group, on, rfl⟩ := ledgered.sounding media among
    obtain ⟨card, isOpen, set⟩ := Option.bind_eq_some_iff.mp on
    obtain ⟨index, here, listed⟩ := Option.map_eq_some_iff.mp set
    exact ⟨card, index, group, isOpen, here, listed, rfl⟩
  · intro later visit earlier location split isVisit
    have accounted := ledgered.accounted
    rw [split] at accounted
    rcases isVisit with rfl | rfl
    · exact accounted.at
    · exact accounted.at

/-- A start script disables updates, starts a movie and a sound group, and fails. Another card is gone to,
and starts the movie that it has. -/
theorem media_ledger_bracket : ∃ session : Session, Reachable (.done session (.ok ())) ∧
    session.gate.aborted = false ∧
    (∃ later media earlier code, session.transcript = later ++ .stopped media :: earlier ∧
      media.movieCode? = some code ∧ Happening.live code earlier = some media) ∧
    (∃ later location earlier, session.transcript = later ++ .recorded (.cardClosed location) :: earlier ∧
      Happening.sounding earlier = []) ∧
    ∃ card slot, session.card = some card ∧ card.visual.movies.get? 3 = some slot ∧ slot.playing = true ∧
      Happening.live 3 session.transcript = some slot.media := by
  let movie : Movie := { index := 1, movie := 9, code := 3, left := 0, top := 0, looping := true }
  let group : SoundGroup := { index := 1, sounds := [4], volume := 100, looping := true }
  let first : CardRecord :=
    { scripts := [⟨9, [.op 20 [], .op 41 [1], .op 40 [1], .op 39 [5]]⟩]
      movies := [movie], soundGroups := [group] }
  let second : CardRecord := { scripts := [⟨9, [.op 41 [1]]⟩], movies := [movie] }
  let media : MediaRef := .movie 3 9 true
  let played (session : Session) : Bool :=
    session.gate.aborted == false && Happening.live 3 session.transcript == some media
      && session.transcript.any (·.request? == some (.stop media))
      && session.transcript.any (·.visit? == some (.closed ⟨"a", 1⟩))
  have ran : ((Session.beginning "a" [(1, first), (2, second)]).after?
      [.message (.goto ⟨"a", 1⟩ none), .message (.goto ⟨"a", 2⟩ none)]).any played = true := by
    decide +kernel
  obtain ⟨session, reachable, here⟩ := Session.exists_after "a" _ ran
  simp only [played, Bool.and_eq_true, beq_iff_eq] at here
  obtain ⟨⟨⟨unaborted, live⟩, stopped⟩, closed⟩ := here
  obtain ⟨_, playing, stops, _, visits⟩ := media_ledger reachable unaborted
  refine ⟨session, reachable, unaborted, ?_, ?_, ?_⟩
  · obtain ⟨one, among, isStop⟩ := List.any_eq_true.mp stopped
    obtain rfl := Happening.request?_eq_stop_iff.mp (beq_iff_eq.mp isStop)
    obtain ⟨later, earlier, split⟩ := List.append_of_mem among
    exact ⟨later, media, earlier, 3, split, rfl, stops _ _ _ 3 split rfl⟩
  · obtain ⟨one, among, isClosing⟩ := List.any_eq_true.mp closed
    obtain rfl := Happening.visit?_eq_closed_iff.mp (beq_iff_eq.mp isClosing)
    obtain ⟨later, earlier, split⟩ := List.append_of_mem among
    exact ⟨later, _, earlier, split, (visits _ _ _ _ split (.inr rfl)).2⟩
  · obtain ⟨card, slot, isOpen, found, isPlaying, same⟩ := (playing 3 media).mp live
    exact ⟨card, slot, isOpen, found, isPlaying, by rw [live, same]⟩

end Reachable

end Diorama
