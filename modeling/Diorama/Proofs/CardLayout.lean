import Diorama.Proofs.CardCodec
import Diorama.Proofs.Pieces

/-!
# Which octets are a card

`CardRecord.fields` names the fields of a card in the order in which they are stored. Octets that are decoded
as a card are pieces that are read as these fields, one by one, with nothing between them and nothing after
(`CardRecord.LaidOut`). Everything that is said here of octets that nobody wrote comes of that.

* What is decoded is within every limit of writing but one: lossy reading may have made a name longer than
  255 octets. Where it can be written, writing lays plain pieces in place of those that were found, so it gives
  the octets back exactly if they were plain (`CardRecord.decode_normalises`).
* No card is the beginning of another one (`CardRecord.decode_delimits`).

The readers are gone through once, and so are the writers; what is recursive is the scripts, by induction on
the room on one side and on the script on the other, as in the laws of the codec.
-/

namespace Diorama

/-! ## Fields -/

def Field.signed (value : Int16) : Field :=
  .word value.toUInt16

mutual

def Command.fields : Command → List Field
  | .op opcode args => .word opcode :: Field.list (fun arg => [.word arg]) args
  | .branch index cases =>
    .word branchOpcode :: .word index :: .word cases.length.toUInt16 :: Case.fieldsEach cases

def Case.fields : Case → List Field
  | ⟨value, commands⟩ => .word value :: .word commands.length.toUInt16 :: Command.fieldsEach commands

/-- The fields of commands, one after the other. -/
def Command.fieldsEach : List Command → List Field
  | [] => []
  | command :: rest => command.fields ++ Command.fieldsEach rest

/-- The fields of cases, one after the other. -/
def Case.fieldsEach : List Case → List Field
  | [] => []
  | case :: rest => case.fields ++ Case.fieldsEach rest

end

def Handler.fields (handler : Handler) : List Field :=
  .word handler.event :: Field.list Command.fields handler.commands

def PixelRect.fields (rect : PixelRect) : List Field :=
  [.signed rect.left, .signed rect.top, .signed rect.right, .signed rect.bottom]

def HotspotRecord.fields (hotspot : HotspotRecord) : List Field :=
  [.word hotspot.id] ++ hotspot.rect.fields
    ++ [.word hotspot.cursor, .flag hotspot.enabled, .name hotspot.name]
    ++ Field.list Handler.fields hotspot.scripts

def Picture.fields (picture : Picture) : List Field :=
  [.word picture.index, .word picture.bitmap] ++ picture.rect.fields

def SoundGroup.fields (group : SoundGroup) : List Field :=
  [.word group.index] ++ Field.list (fun sound => [.word sound]) group.sounds
    ++ [.word group.volume, .flag group.looping]

def Movie.fields (movie : Movie) : List Field :=
  [.word movie.index, .word movie.movie, .word movie.code, .signed movie.left, .signed movie.top,
    .flag movie.looping]

def Button.fields (button : Button) : List Field :=
  [.word button.index, .flag button.enabled, .word button.hotspot]

/-- The fields of a card in the order in which they are stored. -/
def CardRecord.fields (card : CardRecord) : List Field :=
  [.name card.name] ++ Field.list Handler.fields card.scripts
    ++ Field.list HotspotRecord.fields card.hotspots ++ Field.list Picture.fields card.pictures
    ++ Field.list SoundGroup.fields card.soundGroups ++ Field.list Movie.fields card.movies
    ++ Field.list Button.fields card.buttons

/-- Every name in a card. -/
def CardRecord.names (card : CardRecord) : List String :=
  card.name :: card.hotspots.map (·.name)

/-! ## Scripts -/

namespace Command

/-- The fields of commands are those of each, end to end. -/
theorem fieldsEach_eq (commands : List Command) : fieldsEach commands = commands.flatMap fields := by
  induction commands with
  | nil => rw [fieldsEach, List.flatMap_nil]
  | cons command rest ih => rw [fieldsEach, ih, List.flatMap_cons]

/-- The fields of cases are those of each, end to end. -/
theorem case_fieldsEach_eq (cases : List Case) : Case.fieldsEach cases = cases.flatMap Case.fields := by
  induction cases with
  | nil => rw [Case.fieldsEach, List.flatMap_nil]
  | cons case rest ih => rw [Case.fieldsEach, ih, List.flatMap_cons]

/-- A branch is its opcode, its variable and the counted list of its cases. -/
theorem fields_branch (index : UInt16) (cases : List Case) :
    fields (.branch index cases) = [.word branchOpcode, .word index] ++ Field.list Case.fields cases := by
  rw [fields, case_fieldsEach_eq]
  rfl

/-- A case is its value and the counted list of its commands. -/
theorem fields_case (value : UInt16) (commands : List Command) :
    Case.fields ⟨value, commands⟩ = [.word value] ++ Field.list fields commands := by
  rw [Case.fields, fieldsEach_eq]
  rfl

/-! ### Reading -/

section Read

variable {inner : Reader (List Command)} {fits : List Command → Prop}

/-- What reading a command list tells, if `fits` is what is known of it beside its limits. -/
private def Told (fits : List Command → Prop) (commands : List Command) (told : List Field) : Prop :=
  told = Field.list fields commands ∧ ListStorable commands ∧ fits commands

/-- A counted list of words tells the words. -/
private theorem words_spell : (Reader.list Reader.word).Spells
    (Reader.TellsList (fun word => [.word word]) fun _ => True) :=
  Reader.list_spells <| Reader.word_spells.mono fun _ _ told => ⟨told, trivial⟩

/-- A case that is read is its fields, and its commands are as the lists that lie inside. -/
private theorem case_spells (h : inner.Spells (Told fits)) :
    Reader.Spells (do let value ← Reader.word; return ({ value, commands := ← inner } : Case))
      fun case told => told = case.fields ∧ ListStorable case.commands ∧ fits case.commands := by
  refine Reader.word_spells.bind ?_
  rintro value _ rfl
  refine h.bind ?_
  rintro commands _ ⟨rfl, storable, fit⟩
  refine .pure ⟨?_, storable, fit⟩
  rw [fields_case, List.append_nil]

/-- A branch is within its limits if its cases are; what is not the branch opcode begins a plain command. -/
private theorem command_spells (h : inner.Spells (Told fits)) : (read inner).Spells fun command told =>
    told = command.fields ∧ command.Storable ∧ EveryCase fits command := by
  refine Reader.word_spells.bind ?_
  rintro opcode _ rfl
  split
  next branches =>
    subst branches
    refine Reader.word_spells.bind ?_
    rintro index _ rfl
    refine (Reader.list_spells (case_spells h)).bind ?_
    rintro cases _ ⟨rfl, short, each⟩
    refine .pure ⟨?_, ⟨short, fun case among => (each case among).1⟩, ?_⟩
    · rw [fields_branch, List.append_nil]
      rfl
    · rintro _ _ ⟨⟩ case among
      exact (each case among).2
  next differs =>
    refine words_spell.bind ?_
    rintro args _ ⟨rfl, short, -⟩
    refine .pure ⟨?_, ⟨differs, short⟩, fun _ _ same => nomatch same⟩
    rw [fields, List.append_nil]
    rfl

end Read

/-- A script that is read is within its limits, and nests no deeper than there was room. -/
theorem readList_spells (room : Nat) : (readList room).Spells fun commands told =>
    told = Field.list fields commands ∧ ListStorable commands ∧
      ∀ level list, ListAt commands level list → level < room := by
  induction room with
  | zero =>
    intro _ _ _ read
    cases read
  | succ room ih =>
    refine (Reader.list_spells (command_spells ih)).mono ?_
    rintro commands _ ⟨rfl, short, each⟩
    refine ⟨rfl, listStorable_iff.mpr ⟨short, fun command among => (each command among).1⟩, ?_⟩
    rw [forall_listAt_iff]
    refine ⟨Nat.zero_lt_succ room, fun index cases among case chosen level list below => ?_⟩
    exact Nat.succ_lt_succ ((each _ among).2 index cases rfl case chosen level list below)

/-! ### Writing -/

mutual

/-- A command is written as its fields. -/
theorem encode_lays : (command : Command) → command.encode.Lays command.fields
  | .op opcode args => by
    intro octets written
    obtain ⟨_, tail, argsWritten, rfl⟩ := encode_op_eq_ok_iff.mp written
    have words : Written.Lays (Written.list (fun arg => .ok (Bytes.ofWord arg)) args) _ :=
      .list fun arg _ => .word arg
    rw [fields]
    exact Written.Lays.append (.word opcode) (fun _ same => words _ (argsWritten.trans same)) _ rfl
  | .branch index cases => by
    rw [encode_branch, fields_branch]
    exact .after (.append (.word branchOpcode) (.word index)) (.list (forall_case_encode_lays cases))

/-- A case is written as its fields. -/
theorem case_encode_lays : (case : Case) → case.encode.Lays case.fields
  | ⟨value, commands⟩ => by
    rw [encode_case, fields_case]
    exact .after (.word value) (.list (forall_encode_lays commands))

/-- So is each of several commands. -/
theorem forall_encode_lays : (commands : List Command) →
    ∀ command ∈ commands, command.encode.Lays command.fields
  | [] => nofun
  | command :: rest => List.forall_mem_cons.mpr ⟨encode_lays command, forall_encode_lays rest⟩

/-- So is each of several cases. -/
theorem forall_case_encode_lays : (cases : List Case) → ∀ case ∈ cases, case.encode.Lays case.fields
  | [] => nofun
  | case :: rest => List.forall_mem_cons.mpr ⟨case_encode_lays case, forall_case_encode_lays rest⟩

end

/-- A script is written as the counted list of its commands. -/
theorem encodeList_lays (commands : List Command) :
    (encodeList commands).Lays (Field.list fields commands) := by
  rw [encodeList_eq]
  exact .list (forall_encode_lays commands)

end Command

/-! ## Around the scripts -/

/-- A handler that is read is its fields, and its script can be written and read again. -/
theorem Handler.read_spells : read.Spells fun handler told =>
    told = handler.fields ∧ Command.ListStorable handler.commands ∧ handler.NestsWithin maxNesting := by
  refine Reader.word_spells.bind ?_
  rintro event _ rfl
  refine ((Command.readList_spells (maxNesting + 1)).within (.handler event)).bind ?_
  rintro commands _ ⟨rfl, storable, shallow⟩
  refine .pure ⟨?_, storable, fun level list at_ => Nat.lt_succ_iff.mp (shallow level list at_)⟩
  rw [List.append_nil]
  rfl

theorem Handler.encode_lays (handler : Handler) : handler.encode.Lays handler.fields :=
  .after (.word handler.event) (Command.encodeList_lays handler.commands)

/-- Four signed words are read as a rectangle. -/
theorem PixelRect.read_spells : read.Spells fun rect told => told = rect.fields := by
  refine Reader.signed_spells.bind ?_
  rintro left _ rfl
  refine Reader.signed_spells.bind ?_
  rintro top _ rfl
  refine Reader.signed_spells.bind ?_
  rintro right _ rfl
  refine Reader.signed_spells.bind ?_
  rintro bottom _ rfl
  exact .pure rfl

theorem PixelRect.encode_lays (rect : PixelRect) : Written.Lays (.ok rect.encode) rect.fields :=
  ((Written.Lays.word rect.left.toUInt16).append (.word rect.top.toUInt16)).append (.word rect.right.toUInt16)
    |>.append (.word rect.bottom.toUInt16)

/-- A picture that is read is its fields; there is no limit that it could break. -/
theorem Picture.read_spells : read.Spells fun picture told => told = picture.fields ∧ True := by
  refine Reader.word_spells.bind ?_
  rintro index _ rfl
  refine Reader.word_spells.bind ?_
  rintro bitmap _ rfl
  refine PixelRect.read_spells.bind ?_
  rintro rect _ rfl
  exact .pure ⟨rfl, trivial⟩

theorem Picture.encode_lays (picture : Picture) : picture.encode.Lays picture.fields :=
  ((Written.Lays.word picture.index).append (.word picture.bitmap)).append picture.rect.encode_lays

/-- A movie that is read is its fields; there is no limit that it could break. -/
theorem Movie.read_spells : read.Spells fun movie told => told = movie.fields ∧ True := by
  refine Reader.word_spells.bind ?_
  rintro index _ rfl
  refine Reader.word_spells.bind ?_
  rintro movie _ rfl
  refine Reader.word_spells.bind ?_
  rintro code _ rfl
  refine Reader.signed_spells.bind ?_
  rintro left _ rfl
  refine Reader.signed_spells.bind ?_
  rintro top _ rfl
  refine Reader.flag_spells.bind ?_
  rintro looping _ rfl
  exact .pure ⟨rfl, trivial⟩

theorem Movie.encode_lays (movie : Movie) : movie.encode.Lays movie.fields :=
  (((((Written.Lays.word movie.index).append (.word movie.movie)).append (.word movie.code)).append
    (.word movie.left.toUInt16)).append (.word movie.top.toUInt16)).append (.flag movie.looping)

/-- A button that is read is its fields; there is no limit that it could break. -/
theorem Button.read_spells : read.Spells fun button told => told = button.fields ∧ True := by
  refine Reader.word_spells.bind ?_
  rintro index _ rfl
  refine Reader.flag_spells.bind ?_
  rintro enabled _ rfl
  refine Reader.word_spells.bind ?_
  rintro hotspot _ rfl
  exact .pure ⟨rfl, trivial⟩

theorem Button.encode_lays (button : Button) : button.encode.Lays button.fields :=
  ((Written.Lays.word button.index).append (.flag button.enabled)).append (.word button.hotspot)

/-- A sound group that is read is its fields, and no more sounds than can be counted. -/
theorem SoundGroup.read_spells : read.Spells fun group told =>
    told = group.fields ∧ group.sounds.length ≤ 65535 := by
  refine Reader.word_spells.bind ?_
  rintro index _ rfl
  refine (Reader.list_spells <| Reader.word_spells.mono fun _ _ told => ⟨told, trivial⟩).bind ?_
  rintro sounds _ ⟨rfl, short, -⟩
  refine Reader.word_spells.bind ?_
  rintro volume _ rfl
  refine Reader.flag_spells.bind ?_
  rintro looping _ rfl
  exact .pure ⟨by simp [fields], short⟩

theorem SoundGroup.encode_lays (group : SoundGroup) : group.encode.Lays group.fields := by
  have whole : group.encode.Lays _ :=
    .cons (.word group.index) <| .cons (.list fun sound _ => .word sound) <| .cons (.word group.volume) <|
      .cons (.flag group.looping) .nil
  simpa [fields] using whole

/-- A hotspot that is read is its fields, and its scripts can be written and read again. Of its name nothing is
said, since it may have been read lossily. -/
theorem HotspotRecord.read_spells : read.Spells fun hotspot told => told = hotspot.fields ∧
    hotspot.scripts.length ≤ 65535 ∧ ∀ handler ∈ hotspot.scripts,
      Command.ListStorable handler.commands ∧ handler.NestsWithin maxNesting := by
  refine Reader.word_spells.bind ?_
  rintro id _ rfl
  refine PixelRect.read_spells.bind ?_
  rintro rect _ rfl
  refine Reader.word_spells.bind ?_
  rintro cursor _ rfl
  refine Reader.flag_spells.bind ?_
  rintro enabled _ rfl
  refine Reader.name_spells.bind ?_
  rintro name _ rfl
  refine (Reader.list_spells Handler.read_spells).bind ?_
  rintro scripts _ ⟨rfl, short, each⟩
  exact .pure ⟨by simp [fields], short, each⟩

theorem HotspotRecord.encode_lays (hotspot : HotspotRecord) : hotspot.encode.Lays hotspot.fields := by
  have whole : hotspot.encode.Lays _ :=
    .cons (.word hotspot.id) <| .cons hotspot.rect.encode_lays <| .cons (.word hotspot.cursor) <|
      .cons (.flag hotspot.enabled) <| .cons (.name hotspot.name) <|
      .cons (.list fun handler _ => handler.encode_lays) .nil
  simpa [fields] using whole

/-! ## Whole cards -/

namespace CardRecord

/-- The limits of a card, but for those of its names. -/
structure Counted (card : CardRecord) : Prop where
  scripts : card.scripts.length ≤ 65535
  hotspots : card.hotspots.length ≤ 65535
  pictures : card.pictures.length ≤ 65535
  soundGroups : card.soundGroups.length ≤ 65535
  movies : card.movies.length ≤ 65535
  buttons : card.buttons.length ≤ 65535
  hotspotScripts : ∀ hotspot ∈ card.hotspots, hotspot.scripts.length ≤ 65535
  sounds : ∀ group ∈ card.soundGroups, group.sounds.length ≤ 65535
  commands : ∀ handler ∈ card.handlers, Command.ListStorable handler.commands

/-- A card can be written if everything in it can be counted and no name in it is too long. -/
theorem storable_iff {card : CardRecord} :
    card.Storable ↔ card.Counted ∧ ∀ name ∈ card.names, name.utf8ByteSize ≤ 255 := by
  constructor
  · intro h
    exact ⟨{ h with }, List.forall_mem_cons.mpr ⟨h.name, List.forall_mem_map.mpr h.hotspotNames⟩⟩
  · rintro ⟨h, short⟩
    obtain ⟨name, hotspotNames⟩ := List.forall_mem_cons.mp short
    exact { h with name, hotspotNames := List.forall_mem_map.mp hotspotNames }

/-- What is read as a card is within the limits of writing, but for its names, and no deeper than reading
goes. -/
theorem read_spells : read.Spells fun card told =>
    told = card.fields ∧ card.Counted ∧ card.NestsWithin maxNesting := by
  refine (Reader.name_spells.within _).bind ?_
  rintro name _ rfl
  refine ((Reader.list_spells Handler.read_spells).within _).bind ?_
  rintro scripts _ ⟨rfl, fewScripts, own⟩
  refine (Reader.listWithin_spells _ fun index => HotspotRecord.read_spells.within _).bind ?_
  rintro hotspots _ ⟨rfl, fewHotspots, each⟩
  refine (Reader.listWithin_spells _ fun _ => Picture.read_spells).bind ?_
  rintro pictures _ ⟨rfl, fewPictures, -⟩
  refine (Reader.listWithin_spells _ fun _ => SoundGroup.read_spells).bind ?_
  rintro soundGroups _ ⟨rfl, fewGroups, sounds⟩
  refine (Reader.listWithin_spells _ fun _ => Movie.read_spells).bind ?_
  rintro movies _ ⟨rfl, fewMovies, -⟩
  refine (Reader.listWithin_spells _ fun _ => Button.read_spells).bind ?_
  rintro buttons _ ⟨rfl, fewButtons, -⟩
  refine .pure ⟨by simp [fields], ?_, ?_⟩
  · exact { scripts := fewScripts, hotspots := fewHotspots, pictures := fewPictures,
            soundGroups := fewGroups, movies := fewMovies, buttons := fewButtons, sounds,
            hotspotScripts := fun hotspot here => (each hotspot here).1
            commands := forall_handlers_iff.mpr ⟨fun handler among => (own handler among).1,
              fun hotspot here handler among => ((each hotspot here).2 handler among).1⟩ }
  · exact forall_handlers_iff.mpr ⟨fun handler among => (own handler among).2,
      fun hotspot here handler among => ((each hotspot here).2 handler among).2⟩

/-- A card is written as its fields. -/
theorem encode_lays (card : CardRecord) : card.encode.Lays card.fields := by
  have whole : card.encode.Lays _ :=
    .cons (.name card.name) <| .cons (.list fun handler _ => handler.encode_lays) <|
      .cons (.list fun hotspot _ => hotspot.encode_lays) <|
      .cons (.list fun picture _ => picture.encode_lays) <|
      .cons (.list fun group _ => group.encode_lays) <|
      .cons (.list fun movie _ => movie.encode_lays) <|
      .cons (.list fun button _ => button.encode_lays) .nil
  simpa [fields] using whole

/-- Octets are pieces that are read as the fields of a card, and nothing else. -/
def LaidOut (card : CardRecord) (pieces : List Piece) (bytes : Bytes) : Prop :=
  pieces.map Piece.field = card.fields ∧ bytes = Piece.lay pieces

/-- Octets that are decoded as a card are pieces laid out as its fields, and the card keeps every limit but that
of names. -/
theorem exists_laidOut_of_decode {bytes : Bytes} {card : CardRecord} (decoded : decode bytes = .ok card) :
    card.Counted ∧ card.NestsWithin maxNesting ∧ ∃ pieces, card.LaidOut pieces bytes := by
  obtain ⟨pieces, ⟨fields, counted, shallow⟩, whole, _⟩ :=
    read_spells bytes card [] (decode_eq_ok_iff.mp decoded)
  rw [List.append_nil] at whole
  exact ⟨counted, shallow, pieces, fields, whole⟩

/-- There is one way only to cut octets into the pieces of a card. -/
theorem LaidOut.eq {card : CardRecord} {pieces others : List Piece} {bytes : Bytes}
    (here : card.LaidOut pieces bytes) (there : card.LaidOut others bytes) : pieces = others :=
  Piece.eq_of_lay (here.2.symm.trans there.2) (here.1.trans there.1.symm)

/-- Writing a card that octets were decoded as gives them back exactly if every piece in them is plain. -/
theorem LaidOut.encode_eq_iff {card : CardRecord} {pieces : List Piece} {bytes written : Bytes}
    (laidOut : card.LaidOut pieces bytes) (encoded : card.encode = .ok written) :
    written = bytes ↔ ∀ piece ∈ pieces, piece.Plain := by
  obtain ⟨plain, allPlain, fields, laid⟩ := card.encode_lays written encoded
  constructor
  · rintro rfl
    rwa [laidOut.eq ⟨fields, laid⟩]
  · intro isPlain
    rw [laid, laidOut.2, Piece.eq_of_plain allPlain isPlain (fields.trans laidOut.1.symm)]

/-- What octets are decoded as cannot be written exactly if a name in it is longer than 255 octets. Written,
it is decoded again as the same card; and the octets are the same as before exactly if in the only way to
read them as that card every flag was 0 or 1 and every name was valid UTF-8. -/
theorem decode_normalises {bytes : Bytes} {card : CardRecord} (decoded : decode bytes = .ok card) :
    ((∃ cause, card.encode = .error cause) ↔ ∃ name ∈ card.names, 255 < name.utf8ByteSize) ∧
      (∃! pieces, card.LaidOut pieces bytes) ∧
      ∀ written, card.encode = .ok written → decode written = .ok card ∧
        ∀ pieces, card.LaidOut pieces bytes → (written = bytes ↔ ∀ piece ∈ pieces, piece.Plain) := by
  obtain ⟨counted, shallow, pieces, laidOut⟩ := exists_laidOut_of_decode decoded
  refine ⟨?_, ⟨pieces, laidOut, fun _ other => other.eq laidOut⟩, fun written encoded => ⟨?_, ?_⟩⟩
  · have succeeds : (∃ octets, card.encode = .ok octets) ↔ ∀ name ∈ card.names, name.utf8ByteSize ≤ 255 := by
      rw [codec.succeeds_iff, storable_iff, and_iff_right counted]
    have fails : (∃ cause, card.encode = .error cause) ↔ ¬ ∃ octets, card.encode = .ok octets := by
      cases card.encode <;> simp
    rw [fails, succeeds]
    simp only [not_forall, Nat.not_le, exists_prop]
  · have read := (codec.readBy card written encoded).takes shallow []
    rw [List.append_nil] at read
    exact decode_eq_ok_iff.mpr read
  · exact fun pieces laidOut => laidOut.encode_eq_iff encoded

/-- A card with one hotspot, enabled by a word that is neither 0 nor 1 and named by an octet that spells no
character. -/
def unkempt : Bytes :=
  [0, 0, 0, 0, 1, 0, 1, 0, 0, 0, 0, 0, 8, 0, 8, 0, 0, 0, 7, 1, 0xFF, 0, 0, 0, 0, 0, 0, 0, 0, 0, 0]

/-- What is read in `unkempt`. -/
def kempt : CardRecord :=
  { hotspots := [{ id := 1, rect := ⟨0, 0, 8, 8⟩, cursor := 0, name := "\uFFFD", enabled := true,
                   scripts := [] }] }

/-- A flag that is neither zero nor one, and a name that is no text: written again, the card is other octets
that read the same. -/
theorem decode_normalises_unkempt : decode unkempt = .ok kempt ∧
    ∃ written, kempt.encode = .ok written ∧ decode written = .ok kempt ∧ written ≠ unkempt := by
  have decoded : decode unkempt = .ok kempt := by decide +kernel
  obtain ⟨-, -, again⟩ := decode_normalises decoded
  exact ⟨decoded, _, rfl, (again _ rfl).1, by decide⟩

/-- Octets that are a card are none without their end, nor with more behind them. -/
theorem decode_delimits {bytes : Bytes} {card : CardRecord} (decoded : decode bytes = .ok card) :
    (∀ front back, bytes = front ++ back → back ≠ [] → ∃ cause, decode front = .error cause) ∧
      ∀ more, more ≠ [] → decode (bytes ++ more) = .error (.trailing more.length) := by
  have extended {front : Bytes} {card : CardRecord} (decoded : decode front = .ok card) {more : Bytes}
      (some : more ≠ []) : decode (front ++ more) = .error (.trailing more.length) := by
    have read := read_spells.append (decode_eq_ok_iff.mp decoded) more
    rw [List.nil_append] at read
    obtain ⟨octet, rest, rfl⟩ := List.exists_cons_of_ne_nil some
    rw [decode, read]
    rfl
  refine ⟨?_, fun more some => extended decoded some⟩
  rintro front back rfl some
  cases cut : decode front with
  | error cause => exact ⟨cause, rfl⟩
  | ok other =>
    have never := extended cut some
    rw [decoded] at never
    cases never

/-- A card with a name, a script with a branch in it, and a hotspot that is enabled. -/
def hall : CardRecord :=
  { name := "Hall"
    scripts := [{ event := 2, commands := [.branch 3 [{ value := 1, commands := [.op 9 [7]] }]] }]
    hotspots := [{ id := 7, rect := ⟨0, 0, 64, 48⟩, cursor := 2, name := "door", enabled := true,
                   scripts := [] }] }

/-- Its octets: the name, the script, the hotspot, and four lists of no entry. -/
def hallOctets : Bytes :=
  [4, 72, 97, 108, 108] ++
  [0, 1, 0, 2, 0, 1, 0, 8, 0, 3, 0, 1, 0, 1, 0, 1, 0, 9, 0, 1, 0, 7] ++
  [0, 1, 0, 7, 0, 0, 0, 0, 0, 64, 0, 48, 0, 2, 0, 1, 4, 100, 111, 111, 114, 0, 0] ++
  [0, 0, 0, 0, 0, 0, 0, 0]

/-- The card is cut inside its name, inside the operand of the command in the branch, inside the flag of the
hotspot and inside the name of the hotspot. None of what is left is a card, nor is the card with an octet more. -/
theorem decode_delimits_hall : decode hallOctets = .ok hall ∧
    (∀ cut ∈ [3, 26, 42, 46], ∃ cause, decode (hallOctets.take cut) = .error cause) ∧
      decode (hallOctets ++ [0]) = .error (.trailing 1) := by
  have decoded : decode hallOctets = .ok hall := by decide +kernel
  obtain ⟨shorter, longer⟩ := decode_delimits decoded
  have left : ∀ cut ∈ [3, 26, 42, 46], hallOctets.drop cut ≠ [] := by decide
  refine ⟨decoded, fun cut among => ?_, longer [0] (by decide)⟩
  exact shorter _ _ (List.take_append_drop cut hallOctets).symm (left cut among)

end CardRecord

end Diorama
