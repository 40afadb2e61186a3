import Diorama.Proofs.Aborts
import Diorama.Proofs.Programs
import Diorama.Proofs.Window

/-!
# Which movies are started

Three commands start movies, and two things stand in their way: an engine variable that leaves all movies out,
and a flag of the slot that holds the movie. The session keeps what the player was asked to start, each start
with the stage and the card of that moment (`Session.starts`); so what is claimed of a start is claimed of the
moment at which it was made.

`Moment.Permitted` is what holds of every start of a movie. The engine variable was true, and the movie lay in
the slot of the open card that has its code. A movie that nobody waits for lay in a slot that was enabled, too;
a movie that is waited for need not, as the command that waits does not look at the flag. That is the one place
where the two ways to start a movie differ.

The starts that the session keeps are those that the player has received (`Session.Tells`). What is left out is
left out without a trace: the list goes on with the next command, and nothing was started or is waited for
(`Script.LeavesOut`).
-/

namespace Diorama

/-! ## Publishing -/

namespace Session

/-- To show the card leaves the slots alone. -/
theorem movie?_showCard (session : Session) : session.showCard.movie? = session.movie? := by
  funext code
  cases isOpen : session.card with
  | none => rw [showCard, isOpen]
  | some card => simp only [showCard, movie?, isOpen, OpenCard.publish, Option.bind_some]

/-- To publish leaves the slots alone. -/
theorem movie?_publishIfNeeded (session : Session) : session.publishIfNeeded.movie? = session.movie? :=
  look_publishIfNeeded movie? (fun _ _ => rfl) (fun _ => rfl) movie?_showCard session

end Session

/-! ## Starts -/

/-- What a request asks to be started. -/
def MediaRequest.start? : MediaRequest → Option Start
  | .start media blocking => some { media, blocking }
  | .stop _ => none

/-- If it is a movie that was started, movies were not left out, and it lay in a slot of the open card; and the
slot was enabled, or else the movie is waited for. -/
def Moment.Permitted (start : Moment Start) : Prop :=
  ∀ code, start.what.media.movieCode? = some code →
    start.stage.settings.flag EngineVariables.moviesEnabled = true ∧
      ∃ card slot, start.card = some card ∧ card.visual.movies.get? code = some slot ∧
        slot.media = start.what.media ∧ (slot.enabled = true ∨ start.what.blocking = true)

/-- What is no movie may be started at any time. -/
theorem Moment.permitted_of_unmoving {start : Moment Start} (unmoving : start.what.media.movieCode? = none) :
    start.Permitted := by
  intro code same
  rw [unmoving] at same
  cases same

/-- Closing a card starts nothing. -/
theorem Session.starts_closeCard (session : Session) : session.closeCard.starts = session.starts := by
  unfold closeCard
  split <;> rfl

/-- The acts of the engine that start something are known by the list. -/
theorem EngineAct.starts_cases {session later : Session} (act : EngineAct session later) :
    later.starts = session.starts ∨ ∃ media blocking, later = session.startMedia media blocking := by
  cases act with
  | script act =>
    cases act with
    | started media blocking => exact .inr ⟨media, blocking, rfl⟩
    | shows enabled => exact .inl session.notes_showCard.starts
    | _ => exact .inl rfl
  | closes => exact .inl session.starts_closeCard
  | _ => exact .inl rfl

namespace Session

/-- Beside those before it, the player has received the starts that the session keeps. -/
def Tells (before : List Start) (session : Session) : Prop :=
  session.player.requests.filterMap MediaRequest.start? = session.starts.map (·.what) ++ before

namespace Tells

variable {before : List Start} {session later : Session}

/-- What is started is noted with the session as it is, and told to the player. -/
theorem startMedia (h : session.Tells before) (media : MediaRef) (blocking : Bool) :
    (session.startMedia media blocking).Tells before := by
  change (session.player.start media blocking).2.requests.filterMap _ = _
  rw [MediaPlayer.requests_start]
  exact congrArg (⟨media, blocking⟩ :: ·) h

/-- Stops are no starts. -/
theorem closeCard (h : session.Tells before) : session.closeCard.Tells before := by
  have stopped (media : List MediaRef) (stage : Stage) :
      (media.foldl Stage.stopMedia stage).player.requests.filterMap MediaRequest.start?
        = stage.player.requests.filterMap MediaRequest.start? := by
    induction media generalizing stage with
    | nil => rfl
    | cons head rest ih => exact ih (stage.stopMedia head)
  unfold Session.closeCard
  split
  · exact h
  · exact (stopped _ _).trans h

/-- No act starts anything without a note. -/
theorem act (act : EngineAct session later) (h : session.Tells before) : later.Tells before := by
  cases act with
  | script act =>
    cases act with
    | suffered act => cases act <;> exact h
    | started media blocking => exact h.startMedia media blocking
    | shows enabled =>
      unfold Session.showCard
      split <;> exact h
    | _ => exact h
  | closes => exact h.closeCard
  | _ => exact h

end Tells

/-! ## What permits a start -/

/-- Every movie that was started was permitted to be. -/
def StartsPermitted (session : Session) : Prop :=
  ∀ start ∈ session.starts, start.Permitted

namespace StartsPermitted

variable {session later : Session}

/-- A start that is permitted when it is made is permitted for good. -/
theorem startMedia {media : MediaRef} {blocking : Bool} (h : session.StartsPermitted)
    (now : (session.moment (Start.mk media blocking)).Permitted) :
    (session.startMedia media blocking).StartsPermitted :=
  List.forall_mem_cons.mpr ⟨now, h⟩

/-- What starts nothing needs no permission. -/
theorem of_starts (h : session.StartsPermitted) (same : later.starts = session.starts) :
    later.StartsPermitted := by
  rwa [StartsPermitted, same]

/-- What leaves alone what is played starts no movie. -/
theorem quiet (h : session.StartsPermitted) (act : EngineAct session later) (same : session.PlaysSame later) :
    later.StartsPermitted := by
  rcases act.starts_cases with kept | ⟨media, blocking, rfl⟩
  · exact h.of_starts kept
  · obtain ⟨during, transcript, silent⟩ := same.transcript
    have asked : [Happening.started media blocking] = during := List.append_cancel_right transcript
    have unheard : (Happening.started media blocking).Silent := silent _ (asked ▸ List.mem_singleton_self _)
    refine h.startMedia (Moment.permitted_of_unmoving ?_)
    cases media with
    | sound => rfl
    | movie | soundGroup => exact unheard.elim

end StartsPermitted

/-- A movie may be started from the slot that has its code. -/
theorem permitted_of_movie? {session : Session} {code : UInt16} {slot : MovieSlot} {media : MediaRef}
    {blocking : Bool} (on : session.settings.flag EngineVariables.moviesEnabled = true)
    (found : session.movie? code = some slot) (coded : slot.movie.code = code) (same : slot.media = media)
    (allowed : slot.enabled = true ∨ blocking = true) : (session.moment (Start.mk media blocking)).Permitted := by
  subst same
  intro other here
  have here : some slot.movie.code = some other := here
  obtain rfl : code = other := coded.symm.trans (Option.some.inj here)
  obtain ⟨card, isOpen, there⟩ := Option.bind_eq_some_iff.mp found
  exact ⟨on, card, slot, isOpen, there, rfl, allowed⟩

/-- The slot of a movie that is found has its code. -/
theorem Excused.coded {session : Session} (h : session.Excused) {code : UInt16} {slot : MovieSlot}
    (found : session.movie? code = some slot) : slot.movie.code = code := by
  have heard : session.excuse.heard code = some (slot.movie, slot.playing) := heard_of_movie? found
  exact Ledger.coded h code slot.movie slot.playing heard

namespace StartsPermitted

variable {session later : Session} {code : UInt16} {slot : MovieSlot}

/-- A movie starts in an enabled slot while movies are on. -/
theorem startMovie (h : session.StartsPermitted) (found : session.movie? code = some slot)
    (coded : slot.movie.code = code) (on : session.settings.flag EngineVariables.moviesEnabled = true)
    (enabled : slot.enabled = true) : (session.startMovie code slot.media).StartsPermitted := by
  let put := session.onMovie code fun slot => { slot with playing := true }
  have kept : put.StartsPermitted := h
  have here : put.movie? code = some { slot with playing := true } := by
    simp [put, movie?_onMovie, found]
  exact kept.startMedia (permitted_of_movie? on here coded rfl (.inl enabled))

/-- What is published when a wait begins has no part in whether the movie may be started. -/
theorem beginWait (h : session.StartsPermitted) (found : session.movie? code = some slot)
    (coded : slot.movie.code = code) (on : session.settings.flag EngineVariables.moviesEnabled = true) :
    (session.beginWait code slot.media).StartsPermitted := by
  let put := session.onMovie code fun slot => { slot with playing := true }
  have here : put.movie? code = some { slot with playing := true } := by
    simp [put, movie?_onMovie, found]
  let shown := put.publishIfNeeded
  let armed := { shown with gate := shown.gate.arm code, blockingMovie := true }.record (.movieAwaited code)
  have kept : armed.StartsPermitted := of_starts h put.notes_publishIfNeeded.starts
  have there : armed.movie? code = some { slot with playing := true } := by
    rw [← here, ← put.movie?_publishIfNeeded]
    rfl
  have still : armed.settings = session.settings := put.notes_publishIfNeeded.settings
  have permitted : (armed.moment (Start.mk slot.media true)).Permitted :=
    permitted_of_movie? (still ▸ on) there coded rfl (.inr rfl)
  exact kept.startMedia permitted

/-- Of what a command does in one go, two things start a movie. -/
theorem deed (h : session.StartsPermitted) (deed : Deed session later) (excused : session.Excused) :
    later.StartsPermitted := by
  cases deed with
  | quiet act => exact h.quiet (.script act.act) act.same
  | startsMovie code found on enabled => exact h.startMovie found (excused.coded found) on enabled
  | awaitsMovie code found on => exact h.beginWait found (excused.coded found) on
  | endsWait code outcome found playing told => exact h.of_starts (session.notes_endWait code _ outcome).starts
  | stopsMovie code found playing => exact h
  | putsMovie isOpen listed => exact h.of_starts (session.notes_putMovie _).starts
  | clearsGroup isOpen on => exact h.of_starts (session.notes_clearGroup _ _).starts
  | putsGroup isOpen listed => exact h.of_starts (session.notes_putGroup _ _).starts
  | startsGroup on => exact h.startMedia (Moment.permitted_of_unmoving rfl)

end StartsPermitted

/-- Every start of a run has its permission: a list is gone through deed by deed. -/
theorem startsPermitted_upkeep : PlayUpkeep fun session => session.Excused ∧ session.StartsPermitted where
  quiet act same h := ⟨excused_upkeep.quiet act same h.1, h.2.quiet act same⟩
  deed deed h := ⟨excused_upkeep.deed deed h.1, h.2.deed deed h.1⟩
  closes {session} h := ⟨excused_upkeep.closes h.1, h.2.of_starts session.starts_closeCard⟩
  opens location h closed key loaded := ⟨excused_upkeep.opens location h.1 closed key loaded, h.2.of_starts rfl⟩
  finishes code h := ⟨excused_upkeep.finishes code h.1, h.2.of_starts rfl⟩

end Session

/-- In every run nothing was started that was not permitted. -/
theorem Reachable.startsPermitted {progress : Progress (Except ScriptError Unit)}
    (reachable : Reachable progress) : progress.session.StartsPermitted :=
  (Session.startsPermitted_upkeep.reachable
    (fun config provider player => ⟨Session.excused_start config provider player, List.forall_mem_nil _⟩)
    reachable).2

/-! ## Movies that are left out -/

/-- The code of the movie that an instruction starts. One that is yet to be put into its slot is looked up in the
record of the open card. -/
def Instruction.movieCode? (card : Option OpenCard) : Instruction → Option UInt16
  | .startMovie code | .startMovieBlocking code => some code
  | .activateMovieAndStart index =>
    card.bind fun card =>
      match card.movie index with
      | .ok movie => some movie.code
      | .error _ => none
  | _ => none

namespace Script

/-- The list goes on behind the command, and nothing was started or is waited for. -/
def LeavesOut (inner : List Command → Script Flow) (command : Command) (session : Session) : Prop :=
  ∀ rest, ∃ later,
    runEach (runCommand inner) (command :: rest) session = runEach (runCommand inner) rest later ∧
      later.starts = session.starts ∧ later.gate = session.gate ∧ later.blockingMovie = session.blockingMovie

variable {inner : List Command → Script Flow} {session : Session}

/-- If all goes on behind the instruction, and nothing was started, the command is left out. -/
theorem leavesOut_of_carryOut {opcode : UInt16} {args : List UInt16} {instruction : Instruction}
    {between : Session} (live : session.tornDown = false)
    (decoded : Instruction.decode opcode args = .ok instruction)
    (ended : carryOut inner instruction (session.begin (.op opcode args)) = .done between (.ok .next))
    (starts : between.starts = session.starts) (gate : between.gate = session.gate)
    (blocking : between.blockingMovie = session.blockingMovie) :
    LeavesOut inner (.op opcode args) session := by
  intro rest
  have aside := between.aside_publishIfNeeded
  refine ⟨between.publishIfNeeded, ?_, between.notes_publishIfNeeded.starts.trans starts, aside.gate.trans gate,
    aside.blockingMovie.trans blocking⟩
  have ran : runCommand inner (.op opcode args) (session.begin (.op opcode args)) = .done between (.ok .next) := by
    rw [runCommand, decoded]
    exact ended
  rw [runEach, get_bind, if_neg (Bool.eq_false_iff.mp live), modify_bind, bind_of_ok ran]
  rfl

/-- All that comes of a movie that is left out is that this is recorded. -/
theorem startMovie_of_off (off : session.settings.flag EngineVariables.moviesEnabled = false) (code : UInt16) :
    startMovie code session = .done (session.record (.movieLeftOut code)) (.ok ()) := by
  change (if session.settings.flag _ = true then _ else _ : Script Unit) session = _
  rw [if_neg (Bool.eq_false_iff.mp off)]
  rfl

/-- While movies are off a blocking one is left out, and nobody waits for it. -/
theorem startMovieBlocking_of_off (off : session.settings.flag EngineVariables.moviesEnabled = false)
    (code : UInt16) :
    startMovieBlocking code session = .done (session.record (.movieLeftOut code)) (.ok .next) := by
  change (if session.settings.flag _ = true then _ else _ : Script Flow) session = _
  rw [if_neg (Bool.eq_false_iff.mp off)]
  rfl

/-- Nothing at all comes of a movie whose slot is disabled. -/
theorem startMovie_of_disabled {code : UInt16} {slot : MovieSlot}
    (on : session.settings.flag EngineVariables.moviesEnabled = true) (found : session.movie? code = some slot)
    (disabled : slot.enabled = false) : startMovie code session = .done session (.ok ()) := by
  change (if session.settings.flag _ = true then _ else _ : Script Unit) session = _
  rw [if_pos on, bind_of_ok (movieSlot_of_some found), if_neg (Bool.eq_false_iff.mp disabled)]
  rfl

/-- Each command that would start a movie records that it was left out, and does nothing else, while movies are
off. -/
theorem leavesOut_of_off {opcode : UInt16} {args : List UInt16} {instruction : Instruction} {code : UInt16}
    (live : session.tornDown = false) (decoded : Instruction.decode opcode args = .ok instruction)
    (starts : instruction.movieCode? session.card = some code)
    (off : session.settings.flag EngineVariables.moviesEnabled = false) :
    LeavesOut inner (.op opcode args) session := by
  let here := session.begin (.op opcode args)
  have off : here.settings.flag EngineVariables.moviesEnabled = false := off
  cases instruction with
  | startMovie other =>
    exact leavesOut_of_carryOut live decoded (bind_of_ok (startMovie_of_off off other) _) rfl rfl rfl
  | startMovieBlocking other =>
    exact leavesOut_of_carryOut live decoded (startMovieBlocking_of_off off other) rfl rfl rfl
  | activateMovieAndStart index =>
    obtain ⟨card, isOpen, there⟩ := Option.bind_eq_some_iff.mp starts
    cases listed : card.movie index with
    | error error =>
      rw [listed] at there
      cases there
    | ok movie =>
      have put : activateMovie index here = .done (here.putMovie movie) (.ok movie.code) :=
        activateMovie_of_listed isOpen listed
      have notes := here.notes_putMovie movie
      have aside := here.aside_putMovie movie
      have left := startMovie_of_off (notes.settings ▸ off) movie.code
      exact leavesOut_of_carryOut live decoded ((bind_of_ok put _).trans (bind_of_ok left _)) notes.starts
        aside.gate aside.blockingMovie
  | _ => cases starts

/-- A command that would start a movie in a disabled slot does nothing. -/
theorem leavesOut_of_disabled {opcode : UInt16} {args : List UInt16} {code : UInt16} {slot : MovieSlot}
    (live : session.tornDown = false) (decoded : Instruction.decode opcode args = .ok (.startMovie code))
    (found : session.movie? code = some slot) (disabled : slot.enabled = false) :
    LeavesOut inner (.op opcode args) session := by
  let here := session.begin (.op opcode args)
  cases on : session.settings.flag EngineVariables.moviesEnabled with
  | false => exact leavesOut_of_off live decoded rfl on
  | true =>
    have left : startMovie code here = _ := startMovie_of_disabled on found disabled
    exact leavesOut_of_carryOut live decoded (bind_of_ok left _) rfl rfl rfl

end Script

/-! ## Every run -/

namespace Ran

variable {config : EngineConfig} {provider : Provider} {player : MediaPlayer} {events : List Event}
  {progress : Progress (Except ScriptError Unit)}

/-- The player has been asked to start what the session keeps as started, and nothing else. Whenever it was a
movie, movies were not left out, and the movie lay in the slot of the open card that has its code; and the slot
was enabled, or the movie is waited for. Where movies are left out, a list goes on behind a command that starts
one, whether or not it waits for it, and nothing is started or waited for; and so it does behind one that does
not wait, where the slot of the movie is disabled. -/
theorem movie_starts (ran : Ran config provider player events progress) :
    progress.session.player.requests.filterMap MediaRequest.start? =
        progress.session.starts.map (·.what) ++ player.requests.filterMap MediaRequest.start? ∧
      (∀ start ∈ progress.session.starts, ∀ code, start.what.media.movieCode? = some code →
        start.stage.settings.flag EngineVariables.moviesEnabled = true ∧
          ∃ card slot, start.card = some card ∧ card.visual.movies.get? code = some slot ∧
            slot.media = start.what.media ∧ (slot.enabled = true ∨ start.what.blocking = true)) ∧
      ∀ (session : Session) inner opcode args instruction code, session.tornDown = false →
        Instruction.decode opcode args = .ok instruction → instruction.movieCode? session.card = some code →
          (session.settings.flag EngineVariables.moviesEnabled = false →
            Script.LeavesOut inner (.op opcode args) session) ∧
          ∀ slot, instruction = .startMovie code → session.movie? code = some slot → slot.enabled = false →
            Script.LeavesOut inner (.op opcode args) session := by
  refine ⟨?_, ran.reachable.startsPermitted, fun session inner opcode args instruction code live decoded starts =>
    ⟨Script.leavesOut_of_off live decoded starts, ?_⟩⟩
  · exact ran.chain.keeps Session.Tells.act rfl
  · rintro slot rfl found disabled
    exact Script.leavesOut_of_disabled live decoded found disabled

/-- A movie is put into its slot, the slot is disabled, and then the movie is started and waited for. -/
theorem movie_starts_awaited : ∃ provider events session start card slot,
    Ran {} provider .finishing events (.done session (.ok ())) ∧ start ∈ session.starts ∧
      start.what = ⟨.movie 5 9 false, true⟩ ∧
      start.stage.settings.flag EngineVariables.moviesEnabled = true ∧ start.card = some card ∧
      card.visual.movies.get? 5 = some slot ∧ slot.media = .movie 5 9 false ∧ slot.enabled = false := by
  let movie : Movie := { index := 1, movie := 9, code := 5, left := 0, top := 0, looping := false }
  let first : CardRecord := { scripts := [⟨9, [.op 46 [1], .op 28 [5], .op 32 [5]]⟩], movies := [movie] }
  let events : List Event := [.message (.goto ⟨"a", 1⟩ none)]
  let awaited (start : Moment Start) : Bool :=
    start.what == ⟨.movie 5 9 false, true⟩ &&
      start.card.any fun card => (card.visual.movies.get? 5).any (!·.enabled)
  have ran : ((Session.beginning "a" [(1, first)]).after? events).any (·.starts.any awaited) = true := by
    decide +kernel
  obtain ⟨session, ended, found⟩ := (Option.any_eq_true ..).mp ran
  obtain ⟨start, among, here⟩ := List.any_eq_true.mp found
  simp only [awaited, Bool.and_eq_true, beq_iff_eq, Option.any_eq_true] at here
  obtain ⟨what, card, isOpen, slot, there, disabled⟩ := here
  have ran : Ran {} _ .finishing events (.done session (.ok ())) := of_after? .start ended
  obtain ⟨-, permitted, -⟩ := movie_starts ran
  obtain ⟨on, other, same, isOpen', there', media, -⟩ := permitted start among 5 (by rw [what]; rfl)
  cases isOpen.symm.trans isOpen'
  cases there.symm.trans there'
  rw [what] at media
  exact ⟨_, events, session, start, card, slot, ran, among, what, on, isOpen, there, media,
    by simpa using disabled⟩

end Ran

end Diorama
