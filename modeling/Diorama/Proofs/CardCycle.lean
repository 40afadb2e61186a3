import Diorama.Proofs.Events

/-!
# The life of a card

Cards are opened and closed in turn, and everybody agrees on which one is open.

* In what is recorded, openings and closings alternate, beginning with an opening, and every closing names
  the location opened just before it (`Visit.Alternate`).
* Between two events, if a card is open, then the location that is kept for saved games, the card's own and
  the one on display are the same.
* Going to a card succeeds exactly if its stack is there and its record can be read, and then that card is
  the first one opened, whatever the leave script of the card before it asks for.

The first holds at every moment, and the invariant that carries it, `Session.Orderly`, goes through the acts
of the engine. The display may lag behind while an event is carried out, between the opening of a card and
its first snapshot; that it does not between events is what `Session.Shown` adds.
-/

namespace Diorama

/-! ## Visits -/

namespace Visit

/-- Openings and closings in turn, each closing of the location opened just before. -/
def Alternate : List Visit → Prop
  | [] => True
  | [.opened _] => True
  | .opened location :: .closed left :: rest => left = location ∧ Alternate rest
  | .opened _ :: .opened _ :: _ => False
  | .closed _ :: _ => False

/-- The location that is open after some visits. -/
def standing (visits : List Visit) : Option Location :=
  match visits.getLast? with
  | some (.opened location) => some location
  | _ => none

/-- After a card was opened one stands at it. -/
theorem standing_concat_opened (visits : List Visit) (location : Location) :
    standing (visits ++ [.opened location]) = some location := by
  rw [standing, List.getLast?_concat]

/-- After a card was closed one stands nowhere. -/
theorem standing_concat_closed (visits : List Visit) (location : Location) :
    standing (visits ++ [.closed location]) = none := by
  rw [standing, List.getLast?_concat]

/-- Only the last visit says where one stands. -/
private theorem standing_cons_cons (a b : Visit) (rest : List Visit) :
    standing (a :: b :: rest) = standing (b :: rest) := by
  rw [standing, List.getLast?_cons_cons]
  rfl

/-- That a card was closed long ago makes no difference. -/
private theorem standing_closed_cons (location : Location) (rest : List Visit) :
    standing (.closed location :: rest) = standing rest := by
  cases rest with
  | nil => rfl
  | cons visit rest => exact standing_cons_cons _ visit rest

/-- A card may be opened where one stands nowhere. -/
theorem Alternate.concat_opened {visits : List Visit} (h : Alternate visits)
    (nowhere : standing visits = none) (location : Location) :
    Alternate (visits ++ [.opened location]) := by
  fun_induction Alternate visits with
  | case1 => trivial
  | case2 before => cases nowhere
  | case3 before left rest ih =>
    rw [standing_cons_cons, standing_closed_cons] at nowhere
    exact ⟨h.1, ih h.2 nowhere⟩
  | case4 => exact h.elim
  | case5 => exact h.elim

/-- The card at which one stands may be closed. -/
theorem Alternate.concat_closed {visits : List Visit} {location : Location} (h : Alternate visits)
    (here : standing visits = some location) : Alternate (visits ++ [.closed location]) := by
  fun_induction Alternate visits with
  | case1 => cases here
  | case2 before =>
    cases here
    exact ⟨rfl, trivial⟩
  | case3 before left rest ih =>
    rw [standing_cons_cons, standing_closed_cons] at here
    exact ⟨h.1, ih h.2 here⟩
  | case4 => exact h.elim
  | case5 => exact h.elim

end Visit

/-! ## The invariant -/

/-- Everybody agrees on which card is open. -/
structure Session.Orderly (session : Session) : Prop where
  alternate : Visit.Alternate session.visits
  standing : Visit.standing session.visits = session.card.map (·.location)
  location : ∀ card, session.card = some card → session.location = some card.location
  latest : ∀ card frame, session.card = some card → card.published = some frame →
    session.frames.latest = some frame ∧ frame.location = card.location

namespace Session

/-- Scripts stay at their card. -/
theorem Continues.map_location {session later : Session} (h : session.Continues later) :
    later.card.map (·.location) = session.card.map (·.location) := by
  have related := h.card
  generalize session.card = before, later.card = after at related
  cases related with
  | none => rfl
  | some continues => exact congrArg some continues.location

end Session

/-- What a card has published last is on display, as long as the card is the same and so is the display. -/
private theorem latest_map {session : Session} (orderly : session.Orderly) (change : OpenCard → OpenCard)
    (published : ∀ card, (change card).published = card.published)
    (location : ∀ card, (change card).location = card.location) :
    ∀ card frame, session.card.map change = some card → card.published = some frame →
      session.frames.latest = some frame ∧ frame.location = card.location := by
  intro card frame isOpen shown
  obtain ⟨original, there, rfl⟩ := Option.map_eq_some_iff.mp isOpen
  rw [published] at shown
  rw [location]
  exact orderly.latest original frame there shown

/-- The latest frame of the display is the one that the card has published last. -/
private theorem ScriptAct.latest {session later : Session} (act : ScriptAct session later)
    (orderly : session.Orderly) : ∀ card frame, later.card = some card → card.published = some frame →
      later.frames.latest = some frame ∧ frame.location = card.location := by
  cases act with
  | suffered act =>
    cases act <;> exact orderly.latest
  | @setHotspot original hotspots id enabled isOpen found =>
    intro card frame same shown
    cases same
    exact orderly.latest original frame isOpen shown
  | setVisual change => exact latest_map orderly _ (fun _ => rfl) (fun _ => rfl)
  | shows enabled =>
    unfold Session.showCard
    split
    next => exact orderly.latest
    next card isOpen =>
      intro later frame same shown
      cases same
      cases shown
      exact ⟨rfl, rfl⟩
  | fails label error =>
    have kept := latest_map orderly OpenCard.discardUnpublished (fun _ => rfl) (fun _ => rfl)
    exact kept
  | _ => exact orderly.latest

/-- Scripts neither open nor close cards, so the visits stay in order. -/
theorem ScriptAct.orderly {session later : Session} (act : ScriptAct session later)
    (orderly : session.Orderly) : later.Orderly := by
  have continues := act.continues
  have same := continues.map_location
  refine ⟨?_, ?_, fun card isOpen => ?_, act.latest orderly⟩
  · rw [continues.visits]
    exact orderly.alternate
  · rw [continues.visits, same]
    exact orderly.standing
  · rw [isOpen] at same
    obtain ⟨original, there, location⟩ := Option.map_eq_some_iff.mp same.symm
    rw [continues.location, orderly.location original there, location]

/-- The engine opens a card only where none is open, and closes only the one that is. -/
theorem EngineAct.orderly {session later : Session} (act : EngineAct session later)
    (orderly : session.Orderly) : later.Orderly := by
  -- Most acts change nothing that the law is about.
  have kept {other : Session} (visits : other.visits = session.visits) (card : other.card = session.card)
      (location : other.location = session.location) (frames : other.frames = session.frames) :
      other.Orderly := by
    refine ⟨visits ▸ orderly.alternate, ?_, ?_, ?_⟩
    · rw [visits, card]
      exact orderly.standing
    · rw [card, location]
      exact orderly.location
    · rw [card, frames]
      exact orderly.latest
  cases act with
  | script act => exact act.orderly orderly
  | closes =>
    cases isOpen : session.card with
    | none =>
      rw [Session.closeCard_of_none isOpen]
      exact orderly
    | some card =>
      have visits := session.closeCard_visits
      have here := orderly.standing
      rw [isOpen] at visits here
      have none := session.closeCard_card
      refine ⟨?_, ?_, fun _ there => ?_, fun _ _ there => ?_⟩
      · rw [visits]
        exact orderly.alternate.concat_closed here
      · rw [visits, none]
        exact Visit.standing_concat_closed session.visits card.location
      · rw [none] at there
        cases there
      · rw [none] at there
        cases there
  | @opens stack card location closed key loaded =>
    have visits := session.visits_arrival card location
    have nowhere := orderly.standing
    rw [closed] at nowhere
    have fresh := OpenCard.loaded_of_load loaded
    have here : card.location = location := by
      rw [OpenCard.location, fresh.stack, fresh.id, Stack.location, key]
    refine ⟨?_, ?_, fun other there => ?_, fun other frame there published => ?_⟩
    · rw [visits]
      exact orderly.alternate.concat_opened nowhere location
    · rw [visits, Visit.standing_concat_opened]
      exact congrArg some here.symm
    · cases there
      exact congrArg some here.symm
    -- The display still has the card before this one, but of this one nothing has been published.
    · cases there
      rw [fresh.published] at published
      cases published
  | recorded notice ofEngine =>
    exact kept (Happening.visits_cons_of_none ofEngine.visit?_eq_none _) rfl rfl rfl
  | resizes viewport =>
    refine ⟨orderly.alternate, ?_, fun card isOpen => ?_, ?_⟩
    · rw [Option.map_map]
      exact orderly.standing
    · obtain ⟨original, there, rfl⟩ := Option.map_eq_some_iff.mp isOpen
      exact orderly.location original there
    · exact latest_map orderly _ (fun _ => rfl) (fun _ => rfl)
  | _ => exact kept rfl rfl rfl rfl

/-! ## Every run -/

/-- In the beginning nothing was visited and no card is open. -/
theorem Session.orderly_ofStage (config : EngineConfig) (provider : Provider) (player : MediaPlayer) :
    (Session.ofStage (.ofConfig config provider player)).Orderly :=
  ⟨trivial, rfl, fun _ isOpen => (nomatch isOpen), fun _ _ isOpen => (nomatch isOpen)⟩

/-- In every run openings and closings alternate, and the card that was opened last is the one that is open. -/
theorem Reachable.orderly {progress : Progress (Except ScriptError Unit)} (reachable : Reachable progress) :
    progress.session.Orderly :=
  reachable.invariant Session.orderly_ofStage EngineAct.orderly

/-- Openings and closings alternate at every moment; between two events the three copies of the location
agree; and going to a card succeeds exactly if it can be had, and opens it first. -/
theorem Reachable.card_cycle {progress : Progress (Except ScriptError Unit)}
    (reachable : Reachable progress) :
    Visit.Alternate progress.session.visits ∧
      ∀ session result, progress = .done session result →
        (∀ card, session.card = some card → session.location = some card.location
          ∧ session.frames.latest.map (·.location) = some card.location) ∧
        ∀ location, (∃ later outcome, (Script.goto location session).Leads (.done later outcome)) ∧
          ∀ later outcome, (Script.goto location session).Leads (.done later outcome) →
            (outcome = .ok () ↔ session.CanOpen location) ∧
              (outcome = .ok () →
                ∃ others, later.opened = session.opened ++ location :: others) := by
  refine ⟨reachable.orderly.alternate, fun session result ended => ⟨fun card isOpen => ?_, ?_⟩⟩
  · have orderly := reachable.orderly
    rw [ended] at orderly
    obtain ⟨frame, published⟩ := Option.isSome_iff_exists.mp (reachable.shown ended card isOpen)
    obtain ⟨latest, same⟩ := orderly.latest card frame isOpen published
    have kept : session.frames.latest = some frame := latest
    exact ⟨orderly.location card isOpen, by rw [kept, Option.map_some, same]⟩
  · intro location
    have sound := reachable.sound
    rw [ended] at sound
    refine ⟨Progress.exists_leads_done _, fun later outcome leads => ?_⟩
    obtain ⟨-, succeeds, opens⟩ := (Script.goto_sat sound location).of_leads_done leads
    exact ⟨succeeds, fun ok => (opens ok).2⟩

/-- The leave script of the first card asks for a third; the second is opened all the same. -/
theorem Reachable.card_cycle_leave : ∃ session later : Session, Reachable (.done session (.ok ())) ∧
    (Script.goto ⟨"a", 2⟩ session).Leads (.done later (.ok ())) ∧
      (∃ card, session.card = some card ∧ session.location = some card.location ∧
        session.frames.latest.map (·.location) = some card.location) ∧
      session.CanOpen ⟨"a", 2⟩ ∧ ∃ others, later.opened = session.opened ++ ⟨"a", 2⟩ :: others := by
  let leave : Handler := ⟨7, [.op 2 [3]]⟩
  let goesOn (session : Session) : Bool :=
    session.card.isSome && (Script.goto ⟨"a", 2⟩ session).ended?.isSome
  have ran : ((Session.beginning "a" [(1, { scripts := [leave] }), (2, {})]).after?
      [.message (.goto ⟨"a", 1⟩ none)]).any goesOn = true := by decide +kernel
  obtain ⟨session, reachable, here⟩ := Session.exists_after "a" _ ran
  obtain ⟨visiting, went⟩ := Bool.and_eq_true_iff.mp here
  obtain ⟨card, isOpen⟩ := Option.isSome_iff_exists.mp visiting
  obtain ⟨later, ended⟩ := Option.isSome_iff_exists.mp went
  have leads := Progress.leads_of_ended? ended
  obtain ⟨_, rest⟩ := Reachable.card_cycle reachable
  obtain ⟨agree, goes⟩ := rest session (.ok ()) rfl
  obtain ⟨succeeds, opens⟩ := (goes ⟨"a", 2⟩).2 later (.ok ()) leads
  exact ⟨session, later, reachable, leads, ⟨card, isOpen, agree card isOpen⟩, succeeds.mp rfl, opens rfl⟩

end Diorama
