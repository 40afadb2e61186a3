import Diorama.Proofs.Strokes

/-!
# Where a picture and a cursor come from

What a card shows as its picture was put on by a command, and so was its cursor. A failure takes both back to the
snapshot that the display has seen last, and a card that is opened has neither. So after a failure, or after an
opening, a snapshot shows what there was of the card at that time, as far as the display knew, or what a command
has put on that was begun later; what was put on out of sight before a failure never comes to be seen by itself.

Snapshots are compared with what the transcript tells (`Happening.lastShown`), and commands with the moments at
which they began: the transcript of a moment says what it came after. `Session.Sourced` is kept by every stroke,
since a stroke that puts something on is of the command that was begun last, on the stage as it is.
-/

namespace Diorama

/-! ## Reading a transcript -/

namespace Happening

/-- The snapshot that the display was handed last of the card that was opened last. -/
def lastShown : List Happening → Option CardFrame
  | [] => none
  | .published frame :: _ => some frame
  | .recorded (.cardOpened _) :: _ => none
  | _ :: earlier => lastShown earlier

/-- What a card shows may go back with it: a card is opened, or a script has failed. -/
def TakesBack : Happening → Prop
  | .recorded (.cardOpened _) | .updates .failed => True
  | _ => False

/-- It holds of the transcript at each failure since a card was opened last, and at the opening. -/
def Marked (holds : List Happening → Prop) : List Happening → Prop
  | [] => True
  | .recorded (.cardOpened location) :: earlier => holds (.recorded (.cardOpened location) :: earlier)
  | .updates .failed :: earlier => holds (.updates .failed :: earlier) ∧ Marked holds earlier
  | _ :: earlier => Marked holds earlier

variable {holds holds' : List Happening → Prop} {transcript : List Happening}

/-- What holds of all that was the transcript once holds at the marks. -/
theorem Marked.of_suffix (h : ∀ base, base <:+ transcript → holds base) : Marked holds transcript := by
  fun_induction Marked holds transcript with
  | case1 => trivial
  | case2 location earlier => exact h _ List.suffix_rfl
  | case3 earlier ih => exact ⟨h _ List.suffix_rfl, ih fun base suffix => h base (suffix.trans (List.suffix_cons ..))⟩
  | case4 happening earlier _ _ ih => exact ih fun base suffix => h base (suffix.trans (List.suffix_cons ..))

/-- Less may be asked at the marks. -/
theorem Marked.mono (h : Marked holds transcript) (weaker : ∀ base, holds base → holds' base) :
    Marked holds' transcript := by
  fun_induction Marked holds transcript with
  | case1 => trivial
  | case2 location earlier => exact weaker _ h
  | case3 earlier ih => exact ⟨weaker _ h.1, ih h.2⟩
  | case4 happening earlier unopened unfailed ih =>
    rw [Marked]
    · exact ih h
    · exact unopened
    · exact unfailed

/-- It holds of each of them. -/
theorem Marked.of_split {during earlier : List Happening} {mark : Happening} (takesBack : mark.TakesBack)
    (unopened : ∀ happening ∈ during, ¬ happening.Opens) (h : Marked holds (during ++ mark :: earlier)) :
    holds (mark :: earlier) := by
  induction during with
  | nil =>
    cases mark with
    | recorded notice => cases notice <;> first | exact h | exact takesBack.elim
    | updates change => cases change <;> first | exact h.1 | exact takesBack.elim
    | _ => exact takesBack.elim
  | cons happening during ih =>
    obtain ⟨here, unopened⟩ := List.forall_mem_cons.mp unopened
    refine ih unopened ?_
    cases happening with
    | recorded notice =>
      cases notice with
      | cardOpened location => exact absurd trivial here
      | _ => exact h
    | updates change => cases change <;> first | exact h.2 | exact h
    | _ => exact h

/-- Nothing is shown with it, and nothing taken back. -/
def Neutral : Happening → Prop
  | .published _ | .recorded (.cardOpened _) | .updates .failed => False
  | _ => True

/-- What is not about the display is neither a snapshot nor takes anything back. -/
theorem Still.neutral {happening : Happening} (still : happening.Still) : happening.Neutral := by
  cases happening with
  | recorded notice => cases notice <;> first | exact trivial | exact still.elim
  | published | requested | updates => exact still.elim
  | _ => exact trivial

/-- Neutral happenings do not change what was shown last. -/
theorem lastShown_neutral {during : List Happening} (neutral : ∀ happening ∈ during, happening.Neutral)
    (earlier : List Happening) : lastShown (during ++ earlier) = lastShown earlier := by
  induction during with
  | nil => rfl
  | cons happening during ih =>
    obtain ⟨here, neutral⟩ := List.forall_mem_cons.mp neutral
    rw [← ih neutral]
    cases happening with
    | recorded notice => cases notice <;> first | rfl | exact here.elim
    | published frame => exact here.elim
    | _ => rfl

/-- Neutral happenings set no mark. -/
theorem Marked.neutral {during earlier : List Happening} (neutral : ∀ happening ∈ during, happening.Neutral)
    (h : Marked holds earlier) : Marked holds (during ++ earlier) := by
  induction during with
  | nil => exact h
  | cons happening during ih =>
    obtain ⟨here, neutral⟩ := List.forall_mem_cons.mp neutral
    have onward := ih neutral
    cases happening with
    | recorded notice => cases notice <;> first | exact onward | exact here.elim
    | updates change => cases change <;> first | exact onward | exact here.elim
    | _ => exact onward

end Happening

/-! ## Traits -/

/-- Something that a card shows, that commands put on, and that failures take back. -/
structure Trait (α : Type) where
  of : CardVisual → Option α
  /-- What a command puts on. -/
  put? : Moment Command → Option α
  fresh : of {} = none
  face : ∀ {visual other : CardVisual}, other.picture = visual.picture → other.cursor = visual.cursor →
    of other = of visual
  putsPicture : ∀ (visual : CardVisual) {moment : Moment Command} {picture : Picture},
    moment.picture? = some picture → of { visual with picture := some picture } = of visual ∨
      ∃ one, of { visual with picture := some picture } = some one ∧ put? moment = some one
  putsCursor : ∀ (visual : CardVisual) {moment : Moment Command} {cursor : UInt16},
    moment.cursor? = some cursor → of { visual with cursor := some cursor } = of visual ∨
      ∃ one, of { visual with cursor := some cursor } = some one ∧ put? moment = some one
  takenBack : ∀ card : OpenCard, of card.discardUnpublished.visual = card.published.bind fun frame => of frame.visual

namespace Trait

def picture : Trait Picture where
  of := CardVisual.picture
  put? := Moment.picture?
  fresh := rfl
  face := fun same _ => same
  putsPicture _ _ picture put := .inr ⟨picture, rfl, put⟩
  putsCursor _ _ _ _ := .inl rfl
  takenBack card := by
    cases h : card.published <;> simp [OpenCard.discardUnpublished, h]

def cursor : Trait UInt16 where
  of := CardVisual.cursor
  put? := Moment.cursor?
  fresh := rfl
  face := fun _ same => same
  putsPicture _ _ _ _ := .inl rfl
  putsCursor _ _ cursor put := .inr ⟨cursor, rfl, put⟩
  takenBack card := by
    cases h : card.published <;> simp [OpenCard.discardUnpublished, h]

variable {α : Type} (trait : Trait α)

/-- What the display was shown last of a card. -/
def lastShown (transcript : List Happening) : Option α :=
  (Happening.lastShown transcript).bind fun frame => trait.of frame.visual

/-- It is what the display was shown last by then, or a command has put it on that was begun since. -/
def Sourced (begun : List (Moment Command)) (value : Option α) (base : List Happening) : Prop :=
  value = trait.lastShown base ∨
    ∃ one, value = some one ∧ ∃ moment ∈ begun, base <:+ moment.stage.transcript ∧ trait.put? moment = some one

end Trait

/-! ## Every run -/

/-- What the card has published last is what the transcript tells. -/
def Recalls (card : Option OpenCard) (transcript : List Happening) : Prop :=
  ∀ shown, card = some shown → shown.published = Happening.lastShown transcript

namespace Recalls

variable {session later : Session}

/-- Nothing is shown or taken back, and the card has published what it had. -/
theorem quiet (h : Recalls session.card session.transcript) (during : List Happening)
    (transcript : later.transcript = during ++ session.transcript)
    (neutral : ∀ happening ∈ during, happening.Neutral)
    (card : ∀ shown, later.card = some shown → ∃ before, session.card = some before ∧
      shown.published = before.published) : Recalls later.card later.transcript := by
  intro shown isOpen
  obtain ⟨before, wasOpen, published⟩ := card shown isOpen
  rw [published, h before wasOpen, transcript, Happening.lastShown_neutral neutral]

/-- A neutral happening is noted, and the card is left alone. -/
theorem noted (h : Recalls session.card session.transcript) (happening : Happening) (neutral : happening.Neutral)
    (transcript : later.transcript = happening :: session.transcript) (same : later.card = session.card) :
    Recalls later.card later.transcript :=
  h.quiet [happening] transcript (List.forall_mem_singleton.mpr neutral) fun shown isOpen =>
    ⟨shown, same ▸ isOpen, rfl⟩

/-- What the card shows may change before it is shown. -/
theorem onVisual (h : Recalls session.card session.transcript) (change : CardVisual → CardVisual) :
    Recalls (session.onVisual change).card session.transcript := by
  intro shown isOpen
  obtain ⟨card, wasOpen, rfl⟩ := Option.map_eq_some_iff.mp isOpen
  exact h card wasOpen

/-- The snapshot that is handed over is the one that the card remembers. -/
theorem showCard (h : Recalls session.card session.transcript) :
    Recalls session.showCard.card session.showCard.transcript := by
  unfold Session.showCard
  split
  next => exact h
  next =>
    rintro shown ⟨⟩
    rfl

/-- No stroke lets the card forget what was shown last. -/
theorem stroke (stroke : Stroke session later) (h : Recalls session.card session.transcript) :
    Recalls later.card later.transcript := by
  cases stroke with
  | untouched same =>
    obtain ⟨during, transcript, still⟩ := same.transcript
    refine h.quiet during transcript (fun one among => (still one among).neutral) fun shown isOpen => ?_
    obtain ⟨before, wasOpen, face⟩ := same.exists_face isOpen
    exact ⟨before, wasOpen, congrArg Prod.fst face⟩
  | setsCursor | setsPicture => exact h.onVisual _
  | disables => exact h.noted (.updates .disabled) trivial rfl rfl
  | shows enabled => exact h.showCard
  | hands first enabled => exact h

/-- That the card remembers what was shown last is kept at every step of a command list. -/
theorem upkeep : ListUpkeep fun session => Recalls session.card session.transcript where
  stroke := stroke
  begins _ h := h
  enables h := h.noted (.updates .enabled) trivial rfl rfl
  covers h := h.noted (.updates .covered) trivial rfl rfl
  uncovers {session _} _ _ h := h.noted (.updates (.restored session.updatesEnabled)) trivial rfl rfl

end Recalls

/-- Whatever is shown now, was shown last or was ever shown has come from where it may. -/
structure Session.Sourced {α : Type} (trait : Trait α) (session : Session) : Prop where
  recalls : Recalls session.card session.transcript
  recalled : ∀ moment ∈ session.begun, Recalls moment.card moment.stage.transcript
  now : ∀ card, session.card = some card →
    Happening.Marked (trait.Sourced session.begun (trait.of card.visual)) session.transcript
  last : Happening.Marked (trait.Sourced session.begun (trait.lastShown session.transcript)) session.transcript
  frames : Happening.Each (fun earlier happening => ∀ frame, happening = .published frame →
    Happening.Marked (trait.Sourced session.begun (trait.of frame.visual)) earlier) session.transcript

namespace Session.Sourced

variable {α : Type} {trait : Trait α} {session later : Session}

/-- Nothing is shown or taken back, and what the card shows is as it was. -/
theorem quiet (h : session.Sourced trait) (during : List Happening)
    (transcript : later.transcript = during ++ session.transcript)
    (neutral : ∀ happening ∈ during, happening.Neutral) (begun : later.begun = session.begun)
    (card : ∀ shown, later.card = some shown → ∃ before, session.card = some before ∧ shown.face = before.face) :
    later.Sourced trait := by
  have last : Happening.lastShown later.transcript = Happening.lastShown session.transcript :=
    transcript ▸ Happening.lastShown_neutral neutral _
  have published : ∀ shown, later.card = some shown → ∃ before, session.card = some before ∧
      shown.published = before.published := fun shown isOpen =>
    (card shown isOpen).imp fun _ found => ⟨found.1, congrArg Prod.fst found.2⟩
  refine ⟨h.recalls.quiet during transcript neutral published, begun ▸ h.recalled, fun shown isOpen => ?_, ?_, ?_⟩
  · obtain ⟨before, wasOpen, face⟩ := card shown isOpen
    obtain ⟨-, shows⟩ := Prod.mk.inj face
    obtain ⟨picture, cursor⟩ := Prod.mk.inj shows
    rw [begun, transcript, trait.face picture cursor]
    exact (h.now before wasOpen).neutral neutral
  · rw [begun, Trait.lastShown, last, transcript]
    exact h.last.neutral neutral
  · rw [begun, transcript]
    refine h.frames.append fun after happening before split frame same => ?_
    subst same
    exact (neutral (.published frame) (by simp [split])).elim

/-- A change of the permission to show, other than by a failure. -/
theorem changeUpdates (h : session.Sourced trait) (change : UpdatesChange)
    (other : (Happening.updates change).Neutral) (same : later.card = session.card)
    (begun : later.begun = session.begun) (transcript : later.transcript = .updates change :: session.transcript) :
    later.Sourced trait :=
  h.quiet [.updates change] transcript (List.forall_mem_singleton.mpr other) begun fun shown isOpen =>
    ⟨shown, same ▸ isOpen, rfl⟩

/-- Something is put on by the command that has just begun. -/
theorem puts (h : session.Sourced trait) {change : CardVisual → CardVisual} {moment : Moment Command}
    (last : session.begun.head? = some moment) (stage : moment.stage = session.toStage)
    (put : ∀ visual, trait.of (change visual) = trait.of visual ∨
      ∃ one, trait.of (change visual) = some one ∧ trait.put? moment = some one) :
    (session.onVisual change).Sourced trait := by
  refine ⟨h.recalls.onVisual change, h.recalled, fun shown isOpen => ?_, h.last, h.frames⟩
  obtain ⟨card, wasOpen, rfl⟩ := Option.map_eq_some_iff.mp isOpen
  rcases put card.visual with same | ⟨one, shows, puts⟩
  · exact same ▸ h.now card wasOpen
  · -- The command began on the stage as it is, so after everything that has happened.
    refine .of_suffix fun base suffix => .inr ⟨one, shows, moment, List.mem_of_mem_head? last, ?_, puts⟩
    rwa [stage]

/-- What is shown has the source that the card has. -/
theorem showCard (h : session.Sourced trait) : session.showCard.Sourced trait := by
  have recalls := h.recalls.showCard
  unfold Session.showCard at recalls ⊢
  split at recalls
  next => exact h
  next card isOpen =>
    have now := h.now card isOpen
    refine ⟨recalls, h.recalled, ?_, now, ?_, h.frames⟩
    · rintro shown ⟨⟩
      exact now
    · rintro frame ⟨⟩
      exact now

/-- What a stroke sets it sets for the command that was begun last. -/
theorem stroke (stroke : Stroke session later) (h : session.Sourced trait) : later.Sourced trait := by
  cases stroke with
  | untouched same =>
    obtain ⟨during, transcript, still⟩ := same.transcript
    exact h.quiet during transcript (fun one among => (still one among).neutral) same.begun fun _ => same.exists_face
  | setsCursor last stage put => exact h.puts last stage fun visual => trait.putsCursor visual put
  | setsPicture last stage put => exact h.puts last stage fun visual => trait.putsPicture visual put
  | disables => exact h.changeUpdates .disabled trivial rfl rfl rfl
  | shows enabled => exact h.showCard
  | @hands state rest first enabled =>
    refine h.quiet [.recorded (.renderRequested state), .requested state] rfl ?_ rfl fun shown isOpen =>
      ⟨shown, isOpen, rfl⟩
    simp [Happening.Neutral]

/-- A failure takes back what the card shows to what the display was shown last. -/
theorem scriptFailed (h : session.Sourced trait) (label : String) (error : ScriptError) :
    (session.scriptFailed label error).Sourced trait := by
  refine ⟨fun shown isOpen => ?_, h.recalled, fun shown isOpen => ?_, ⟨.inl rfl, h.last⟩, nofun, nofun, h.frames⟩
  · obtain ⟨card, wasOpen, rfl⟩ := Option.map_eq_some_iff.mp isOpen
    exact h.recalls card wasOpen
  · obtain ⟨card, wasOpen, rfl⟩ := Option.map_eq_some_iff.mp isOpen
    rw [trait.takenBack, h.recalls card wasOpen]
    exact ⟨.inl rfl, h.last⟩

/-- With the card all that it shows is gone. -/
theorem closeCard (h : session.Sourced trait) : session.closeCard.Sourced trait := by
  cases isOpen : session.card with
  | none => rwa [Session.closeCard_of_none isOpen]
  | some card =>
    obtain ⟨player, same⟩ := Session.closeCard_of_some isOpen
    rw [same]
    let stops := ((Session.playing card).map Happening.stopped).reverse
    refine h.quiet (.recorded (.cardClosed card.location) :: .updates .closed :: stops) rfl ?_ rfl nofun
    refine List.forall_mem_cons.mpr ⟨trivial, List.forall_mem_cons.mpr ⟨trivial, fun one among => ?_⟩⟩
    obtain ⟨media, -, rfl⟩ := List.mem_map.mp (List.mem_reverse.mp among)
    trivial

/-- A card that has just been opened shows nothing yet. -/
theorem arrived (h : session.Sourced trait) {stack : Stack} {card : OpenCard} {location : Location}
    {mapper : Mapper Float32} (loaded : OpenCard.load stack location.id mapper = .ok card) :
    (session.arrived location card).Sourced trait := by
  obtain ⟨bytes, -, same⟩ := OpenCard.decoded_of_load loaded
  refine ⟨?_, h.recalled, ?_, .inl rfl, nofun, nofun, h.frames⟩
  · rintro shown ⟨⟩
    rw [same]
    rfl
  · rintro shown ⟨⟩
    rw [same]
    exact .inl trait.fresh

/-- That everything has its source is kept at every step of a run. -/
theorem upkeep (trait : Trait α) : DisplayUpkeep (Sourced trait) where
  stroke := stroke
  begins {session} command h := by
    have more {value : Option α} (base : List Happening) (sourced : trait.Sourced session.begun value base) :
        trait.Sourced (session.begin command).begun value base := by
      refine sourced.imp_right fun ⟨one, same, moment, among, rest⟩ => ?_
      exact ⟨one, same, moment, List.mem_cons_of_mem _ among, rest⟩
    refine ⟨h.recalls, List.forall_mem_cons.mpr ⟨h.recalls, h.recalled⟩, ?_, h.last.mono more, ?_⟩
    · exact fun card isOpen => (h.now card isOpen).mono more
    · exact h.frames.mono fun _ _ allowed frame same => (allowed frame same).mono more
  enables h := h.changeUpdates .enabled trivial rfl rfl rfl
  covers h := h.changeUpdates .covered trivial rfl rfl rfl
  uncovers {session _} _ _ h := h.changeUpdates (.restored session.updatesEnabled) trivial rfl rfl rfl
  fails label error h := h.scriptFailed label error
  closes := closeCard
  opens _ h _ _ loaded := h.arrived loaded
  reveals h := h.changeUpdates .shown trivial rfl rfl rfl

end Session.Sourced

/-- In every run what a card shows, and what was shown of it, has its source. -/
theorem Reachable.sourced {α : Type} (trait : Trait α) {progress : Progress (Except ScriptError Unit)}
    (reachable : Reachable progress) : progress.session.Sourced trait :=
  (Session.Sourced.upkeep trait).reachable
    (fun _ _ _ => ⟨nofun, List.forall_mem_nil _, nofun, trivial, trivial⟩) reachable

end Diorama
