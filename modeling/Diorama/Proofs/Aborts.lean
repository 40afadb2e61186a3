import Diorama.Proofs.MediaLedger

/-!
# What an aborted wait leaves playing

A script that waits for a movie goes on when the gate is aborted, and the slot of the movie says that it is no
longer playing; but the movie has not come to its end, and nobody stops it. From then on the transcript and the
card disagree about this movie, and about nothing else.

To say so, an aborted wait is taken for one whose movie has come to its end (`Happening.excuse`). Of a
transcript that is read like this the ledger is kept in every run, aborted or not (`Reachable.excused`). And
what is playing though the ledger knows nothing of it has been abandoned: it was waited for, the wait has been
aborted, and nothing has been started in its place (`Happening.excused_or_abandoned`).
-/

namespace Diorama

namespace Happening

/-- An aborted wait, taken for one whose movie has come to its end. -/
def excuse : Happening → Happening
  | .answered code .aborted => .answered code .completed
  | happening => happening

/-- What is silent needs no excuse. -/
theorem Silent.excuse {happening : Happening} (silent : happening.Silent) : happening.excuse = happening := by
  cases happening with
  | answered code outcome => cases outcome <;> first | rfl | exact silent.elim
  | _ => rfl

/-- Nor do any number of silent happenings. -/
theorem map_excuse {during : List Happening} (silent : ∀ happening ∈ during, happening.Silent) :
    during.map excuse = during := by
  have same : ∀ happening ∈ during, happening.excuse = id happening :=
    fun happening among => (silent happening among).excuse
  rw [List.map_congr_left same, List.map_id]

/-- What sounds is not waited for. -/
theorem sounding_excuse (transcript : List Happening) :
    sounding (transcript.map excuse) = sounding transcript := by
  induction transcript with
  | nil => rfl
  | cons happening earlier ih =>
    cases happening with
    | started media blocking => simp [excuse, ih]
    | stopped media => simp [excuse, ih]
    | answered code outcome => cases outcome <;> exact ih
    | _ => exact ih

/-- The last wait for the movie under a code has been aborted, while this was playing, and nothing has been
started under that code since. -/
def Abandoned (code : UInt16) (media : MediaRef) (transcript : List Happening) : Prop :=
  ∃ later earlier, transcript = later ++ .answered code .aborted :: earlier ∧ live code earlier = some media ∧
    ∀ other blocking, .started other blocking ∈ later → other.movieCode? ≠ some code

/-- A movie stays abandoned until something is started under its code. -/
theorem Abandoned.cons {code : UInt16} {media : MediaRef} {transcript : List Happening} {happening : Happening}
    (h : Abandoned code media transcript)
    (unstarted : ∀ other blocking, happening = .started other blocking → other.movieCode? ≠ some code) :
    Abandoned code media (happening :: transcript) := by
  obtain ⟨later, earlier, split, playing, since⟩ := h
  refine ⟨happening :: later, earlier, by rw [split, List.cons_append], playing, ?_⟩
  rintro other blocking among
  rcases List.mem_cons.mp among with here | there
  · exact unstarted other blocking here.symm
  · exact since other blocking there

/-- What is playing under a code is playing when aborted waits are excused as well, or it has been
abandoned. -/
theorem excused_or_abandoned {code : UInt16} {media : MediaRef} {transcript : List Happening}
    (playing : live code transcript = some media) :
    live code (transcript.map excuse) = some media ∨ Abandoned code media transcript := by
  induction transcript generalizing media with
  | nil => cases playing
  | cons happening earlier ih =>
    -- Whatever does not concern the code leaves it as it was.
    have apart (same : live code (happening :: earlier) = live code earlier)
        (excused : live code (happening.excuse :: earlier.map excuse) = live code (earlier.map excuse))
        (unstarted : ∀ other blocking, happening = .started other blocking → other.movieCode? ≠ some code) :
        live code ((happening :: earlier).map excuse) = some media ∨
          Abandoned code media (happening :: earlier) :=
      (ih (same.symm.trans playing)).imp excused.trans fun abandoned => abandoned.cons unstarted
    cases happening with
    | started other blocking =>
      by_cases here : other.movieCode? = some code
      · exact .inl ((if_pos here).trans ((if_pos here).symm.trans playing))
      · refine apart (if_neg here) (if_neg here) ?_
        rintro _ _ same
        cases same
        exact here
    | stopped other =>
      by_cases here : other.movieCode? = some code
      · cases (if_pos here).symm.trans playing
      · exact apart (if_neg here) (if_neg here) nofun
    | answered ended outcome =>
      cases outcome with
      | completed =>
        by_cases here : ended = code
        · cases (if_pos here).symm.trans playing
        · exact apart (if_neg here) (if_neg here) nofun
      | skipped => exact apart rfl rfl nofun
      | aborted =>
        by_cases here : ended = code
        · subst here
          exact .inr ⟨[], earlier, rfl, playing, nofun⟩
        · exact apart rfl (if_neg here) nofun
    | recorded notice =>
      cases notice with
      | movieFinished ended =>
        by_cases here : ended = code
        · -- It loops, and so it goes on.
          obtain ⟨before, loops⟩ := Option.filter_eq_some_iff.mp ((if_pos here).symm.trans playing)
          refine (ih before).imp (fun excused => ?_) fun abandoned => abandoned.cons nofun
          exact (if_pos here).trans (Option.filter_eq_some_iff.mpr ⟨excused, loops⟩)
        · exact apart (if_neg here) (if_neg here) nofun
      | _ => exact apart rfl rfl nofun
    | _ => exact apart rfl rfl nofun

end Happening

namespace Session

/-- The session, with aborted waits excused. -/
def excuse (session : Session) : Session :=
  { session with transcript := session.transcript.map Happening.excuse }

/-- Aborted waits excused, the transcript accounts for what the open card says that is playing. -/
def Excused (session : Session) : Prop :=
  session.excuse.Ledgered

namespace Excused

variable {session later : Session}

/-- What leaves alone all that is played leaves it excused. -/
theorem playsSame (h : session.Excused) (same : session.PlaysSame later) : later.Excused := by
  obtain ⟨during, transcript, silent⟩ := same.transcript
  have excused : session.excuse.PlaysSame later.excuse := by
    refine ⟨same.movies, same.group, during, ?_, silent⟩
    change later.transcript.map _ = _
    rw [transcript, List.map_append, Happening.map_excuse silent]
    rfl
  exact Ledgered.playsSame h excused

/-- A wait begins with a movie that the slot says is playing. -/
theorem beginWait {code : UInt16} {slot : MovieSlot} (h : session.Excused)
    (found : session.movie? code = some slot) : (session.beginWait code slot.media).Excused := by
  obtain ⟨during, silent, heard, group, asked⟩ := beginWait_played found slot.media
  have onCard := heard_of_movie? found
  have started := (Ledger.silent h silent).starts onCard true
  change Ledger (session.beginWait code slot.media).heard (session.beginWait code slot.media).group?
    ((session.beginWait code slot.media).transcript.map _)
  rw [heard, group, asked, List.map_cons, List.map_append, Happening.map_excuse silent]
  exact started

/-- However a wait ends, the movie is not playing afterwards, or it is excused. -/
theorem endWait {code : UInt16} {slot : MovieSlot} (h : session.Excused) (outcome : GateOutcome)
    (found : session.movie? code = some slot) (playing : slot.playing = true) :
    (session.endWait code slot.media outcome).Excused := by
  have ended (told : GateOutcome) (truly : told ≠ .aborted) :
      (session.excuse.endWait code slot.media told).Ledgered := Ledgered.endWait h found playing truly
  cases outcome with
  | completed => exact ended .completed nofun
  | skipped => exact ended .skipped nofun
  | aborted => exact ended .completed nofun

/-- A movie that is put into a slot stops what plays there, abandoned or not. -/
theorem putMovie {card : OpenCard} {movie : Movie} (h : session.Excused) (isOpen : session.card = some card) :
    (session.putMovie movie).Excused := by
  have put : (session.excuse.putMovie movie).Ledgered := Ledgered.putMovie h isOpen
  have same : (session.putMovie movie).excuse = session.excuse.putMovie movie := by
    have found : session.excuse.movie? movie.code = session.movie? movie.code := rfl
    unfold Session.putMovie
    rw [found]
    cases session.movie? movie.code with
    | none => rfl
    | some slot => cases playing : slot.playing <;> simp only [playing] <;> rfl
  rw [Excused, same]
  exact put

/-- A sound group that is taken off has been stopped. -/
theorem clearGroup {card : OpenCard} {index : UInt16} (h : session.Excused) (isOpen : session.card = some card)
    (on : card.visual.soundGroup = some index) : (session.clearGroup card index).Excused := by
  have cleared := Ledgered.clearGroup h isOpen on
  have same : (session.clearGroup card index).excuse = session.excuse.clearGroup card index := by
    unfold Session.clearGroup
    cases card.soundGroup index <;> rfl
  rw [Excused, same]
  exact cleared

/-- A sound group is put on in silence. -/
theorem putGroup {card : OpenCard} {index : UInt16} {group : SoundGroup} (h : session.Excused)
    (isOpen : session.card = some card) (listed : card.soundGroup index = .ok group) :
    (session.putGroup card group).Excused := by
  have put := Ledgered.putGroup h isOpen listed
  have same : (session.putGroup card group).excuse = session.excuse.putGroup card group := by
    unfold Session.putGroup
    dsimp only
    split <;> rfl
  rw [Excused, same]
  exact put

/-- Every deed leaves the ledger right, if an aborted wait counts as an end of its movie. -/
theorem deed (h : session.Excused) (deed : Deed session later) : later.Excused := by
  cases deed with
  | quiet act => exact h.playsSame act.same
  | startsMovie code found on enabled => exact Ledgered.startMovie h found
  | awaitsMovie code found on => exact h.beginWait found
  | endsWait code outcome found playing told => exact h.endWait outcome found playing
  | stopsMovie code found playing => exact Ledgered.stopMovie h found playing
  | putsMovie isOpen listed => exact h.putMovie isOpen
  | clearsGroup isOpen on => exact h.clearGroup isOpen on
  | putsGroup isOpen listed => exact h.putGroup isOpen listed
  | startsGroup on => exact Ledger.startsGroup h on false

/-- A card that is closed stops what it knows to be playing, and abandons the rest. -/
theorem closeCard (h : session.Excused) : session.closeCard.Excused := by
  have closed := Ledgered.closeCard h
  cases isOpen : session.card with
  | none => rwa [Session.closeCard_of_none isOpen]
  | some card =>
    obtain ⟨_, same⟩ := Session.closeCard_of_some isOpen
    have isOpen' : session.excuse.card = some card := isOpen
    obtain ⟨_, excused⟩ := Session.closeCard_of_some isOpen'
    have silent : (((playing card).map Happening.stopped).reverse).map Happening.excuse
        = ((playing card).map Happening.stopped).reverse := by
      rw [List.map_reverse, List.map_map]
      rfl
    refine Ledgered.playsSame closed (.ofCard ?_ none ?_ nofun)
    · rw [same, excused]
      rfl
    · rw [same, excused]
      change (_ :: _ :: (_ ++ session.transcript)).map Happening.excuse = _
      rw [List.map_cons, List.map_cons, List.map_append, silent]
      rfl

end Excused

/-- With the excuse the ledger is kept by all that bears on what is played. -/
theorem excused_upkeep : PlayUpkeep Excused where
  quiet _ same h := h.playsSame same
  deed deed h := h.deed deed
  closes h := h.closeCard
  opens _ h closed _ loaded := Ledgered.opens h closed (OpenCard.loaded_of_load loaded).visual
  finishes code h := Ledgered.finishMovie h code

end Session

/-- In the beginning nothing is playing. -/
theorem Session.excused_start (config : EngineConfig) (provider : Provider) (player : MediaPlayer) :
    (Session.ofStage (.ofConfig config provider player)).Excused :=
  ⟨nofun, nofun, fun _ => rfl, nofun, trivial⟩

/-- In every run, whether or not the gate has been aborted. -/
theorem Reachable.excused {progress : Progress (Except ScriptError Unit)} (reachable : Reachable progress) :
    progress.session.Excused :=
  Session.excused_upkeep.reachable Session.excused_start reachable

end Diorama
