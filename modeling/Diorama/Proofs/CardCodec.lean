import Diorama.Card.Codec
import Diorama.Proofs.Format

/-!
# Card records are read back, up to the sixteenth branch

Which cards can be written, and which of the written ones can be read.

* A card is written exactly if it is `CardRecord.Storable`: its names and lists fit their counts, at
  every level of its scripts, and no plain command carries the branch opcode.
* What was written is read back as the same card if no command list lies deeper than sixteen branches
  (`CardRecord.NestsWithin`), and is refused otherwise.

Scripts are a tree, and both conditions speak of every command list of that tree. `Command.ListAt` names
those lists with their level, so the conditions need no recursion of their own. Writing recurses on the
script, reading on the room that is left; the two meet in `Command.readList_readBy`, by induction on the
room alone. Everything around the scripts is flat, and is one line of `Codec` a field.

Octets that no card was written as are not spoken of.
-/

namespace Diorama

/-! ## What is stored -/

/-- The command lists of a script: the script itself at level 0, and below a branch those of its cases,
one level deeper each. -/
inductive Command.ListAt : List Command → Nat → List Command → Prop where
  | here (commands : List Command) : ListAt commands 0 commands
  | inside {commands list : List Command} {index : UInt16} {cases : List Case} {case : Case}
      {level : Nat} (branch : .branch index cases ∈ commands) (chosen : case ∈ cases)
      (below : ListAt case.commands level list) : ListAt commands (level + 1) list

/-- The limits of one command, whatever lies below it. -/
def Command.WithinLimits : Command → Prop
  | .op opcode args => opcode ≠ branchOpcode ∧ args.length ≤ 65535
  | .branch _ cases => cases.length ≤ 65535

/-- The limits of a script, at every level. -/
def Command.ListStorable (commands : List Command) : Prop :=
  ∀ level list, ListAt commands level list →
    list.length ≤ 65535 ∧ ∀ command ∈ list, command.WithinLimits

/-- All handlers of a card, its own and those of its hotspots. -/
def CardRecord.handlers (card : CardRecord) : List Handler :=
  card.scripts ++ card.hotspots.flatMap (·.scripts)

/-- The limits of a card. -/
structure CardRecord.Storable (card : CardRecord) : Prop where
  name : card.name.utf8ByteSize ≤ 255
  scripts : card.scripts.length ≤ 65535
  hotspots : card.hotspots.length ≤ 65535
  pictures : card.pictures.length ≤ 65535
  soundGroups : card.soundGroups.length ≤ 65535
  movies : card.movies.length ≤ 65535
  buttons : card.buttons.length ≤ 65535
  hotspotNames : ∀ hotspot ∈ card.hotspots, hotspot.name.utf8ByteSize ≤ 255
  hotspotScripts : ∀ hotspot ∈ card.hotspots, hotspot.scripts.length ≤ 65535
  sounds : ∀ group ∈ card.soundGroups, group.sounds.length ≤ 65535
  commands : ∀ handler ∈ card.handlers, Command.ListStorable handler.commands

/-- No command list of the handler lies deeper than `limit` branches. -/
def Handler.NestsWithin (limit : Nat) (handler : Handler) : Prop :=
  ∀ level list, Command.ListAt handler.commands level list → level ≤ limit

/-- No handler of the card nests deeper than that. -/
def CardRecord.NestsWithin (limit : Nat) (card : CardRecord) : Prop :=
  ∀ handler ∈ card.handlers, handler.NestsWithin limit

/-! ## Scripts -/

namespace Command

/-- What holds of every command list of a script holds of the script and of every case's script. -/
theorem forall_listAt_iff {holds : Nat → List Command → Prop} {commands : List Command} :
    (∀ level list, ListAt commands level list → holds level list)
      ↔ holds 0 commands ∧ ∀ index cases, .branch index cases ∈ commands → ∀ case ∈ cases,
          ∀ level list, ListAt case.commands level list → holds (level + 1) list := by
  constructor
  · intro h
    exact ⟨h 0 commands (.here commands),
      fun _ _ branch _ chosen level list below => h (level + 1) list (.inside branch chosen below)⟩
  · rintro ⟨here, inside⟩ level list at_
    cases at_ with
    | here => exact here
    | inside branch chosen below => exact inside _ _ branch _ chosen _ _ below

/-- A command can be stored if it is within its limits and its cases can be. -/
def Storable : Command → Prop
  | .op opcode args => opcode ≠ branchOpcode ∧ args.length ≤ 65535
  | .branch _ cases => cases.length ≤ 65535 ∧ ∀ case ∈ cases, ListStorable case.commands

/-- A list is within its limits if it can be counted and each of its commands is within its own. -/
theorem listStorable_iff {commands : List Command} :
    ListStorable commands ↔ commands.length ≤ 65535 ∧ ∀ command ∈ commands, command.Storable := by
  refine forall_listAt_iff.trans ⟨?_, ?_⟩
  · rintro ⟨⟨short, each⟩, inside⟩
    refine ⟨short, fun command among => ?_⟩
    cases command with
    | op opcode args => exact each _ among
    | branch index cases => exact ⟨each _ among, inside index cases among⟩
  · rintro ⟨short, each⟩
    refine ⟨⟨short, fun command among => ?_⟩, fun _ _ branch => (each _ branch).2⟩
    cases command with
    | op opcode args => exact each _ among
    | branch index cases => exact (each _ among).1

/-! ### Writing -/

/-- Entries that are written one after the other behind their count are written as a counted list. -/
private theorem counted_eq_list {α : Type} {entry : α → Written} {each : List α → Written}
    (nil : each [] = .ok [])
    (cons : ∀ value rest, each (value :: rest) = do
      let head ← entry value
      let tail ← each rest
      return head ++ tail) (values : List α) :
    (do let count ← Written.count values.length
        return count ++ (← each values)) = Written.list entry values := by
  have flat : each values = List.flatten <$> values.mapM entry := by
    induction values with
    | nil => exact nil
    | cons value rest ih =>
      rw [cons, ih, List.mapM_cons]
      cases entry value with
      | error cause => rfl
      | ok head => cases rest.mapM entry <;> rfl
  rw [flat, Written.list]
  cases Written.count values.length with
  | error cause => rfl
  | ok count => cases values.mapM entry <;> rfl

/-- A command list is stored as any counted list is. -/
theorem encodeList_eq (commands : List Command) :
    encodeList commands = Written.list encode commands :=
  counted_eq_list (by rw [encodeEach]) (fun command rest => by rw [encodeEach]) commands

/-- A case is its value and a counted list. -/
theorem encode_case (value : UInt16) (commands : List Command) :
    Case.encode ⟨value, commands⟩ = (do
      return Bytes.ofWord value ++ (← Written.list encode commands)) := by
  rw [← encodeList_eq, encodeList, Case.encode]
  cases Written.count commands.length with
  | error cause => rfl
  | ok count =>
    cases encodeEach commands with
    | error cause => rfl
    | ok octets => exact congrArg Except.ok (List.append_assoc ..)

/-- A branch is the branch opcode, its variable and a counted list of cases. -/
theorem encode_branch (index : UInt16) (cases : List Case) :
    encode (.branch index cases) = (do
      return (Bytes.ofWord branchOpcode ++ Bytes.ofWord index)
        ++ (← Written.list Case.encode cases)) := by
  have none : Case.encodeEach [] = .ok [] := by rw [Case.encodeEach]
  rw [← counted_eq_list none (fun case rest => by rw [Case.encodeEach]) cases, encode]
  cases Written.count cases.length with
  | error cause => rfl
  | ok count =>
    cases Case.encodeEach cases with
    | error cause => rfl
    | ok octets => exact congrArg Except.ok (List.append_assoc ..)

/-- A plain command can be written unless it has the opcode of a branch or too many operands. -/
theorem encode_op_eq_ok_iff {opcode : UInt16} {args : List UInt16} {octets : Bytes} :
    encode (.op opcode args) = .ok octets ↔ opcode ≠ branchOpcode ∧ ∃ tail,
      Written.list (fun arg => .ok (Bytes.ofWord arg)) args = .ok tail
        ∧ octets = Bytes.ofWord opcode ++ tail := by
  rw [encode]
  split
  next same => exact ⟨(nomatch ·), fun h => absurd same h.1⟩
  next differs => rw [Written.after_eq_ok_iff, and_iff_right differs]

mutual

/-- A command is written exactly if it can be stored. -/
theorem encode_succeeds_iff : (command : Command) →
    ((∃ octets, command.encode = .ok octets) ↔ command.Storable)
  | .op opcode args => by
    rw [encode, Storable]
    split
    next same => exact iff_of_false (fun ⟨_, h⟩ => nomatch h) (fun h => h.1 same)
    next differs =>
      rw [Written.after_succeeds_iff, Codec.words.succeeds_iff, and_iff_right differs]
  | .branch index cases => by
    rw [encode_branch, Written.after_succeeds_iff, Written.list_succeeds_iff,
      forall_case_encode_succeeds cases, Storable]

/-- A case can be written if its commands are within their limits. -/
theorem case_encode_succeeds_iff : (case : Case) →
    ((∃ octets, case.encode = .ok octets) ↔ ListStorable case.commands)
  | ⟨value, commands⟩ => by
    rw [encode_case, Written.after_succeeds_iff, Written.list_succeeds_iff,
      forall_encode_succeeds commands, listStorable_iff]

/-- So it is of each command of a list. -/
theorem forall_encode_succeeds : (commands : List Command) →
    ((∀ command ∈ commands, ∃ octets, command.encode = .ok octets)
      ↔ ∀ command ∈ commands, command.Storable)
  | [] => iff_of_true (fun _ => (nomatch ·)) (fun _ => (nomatch ·))
  | command :: rest => by
    rw [List.forall_mem_cons, List.forall_mem_cons, encode_succeeds_iff command,
      forall_encode_succeeds rest]

/-- So it is of each case of a branch. -/
theorem forall_case_encode_succeeds : (cases : List Case) →
    ((∀ case ∈ cases, ∃ octets, case.encode = .ok octets)
      ↔ ∀ case ∈ cases, ListStorable case.commands)
  | [] => iff_of_true (fun _ => (nomatch ·)) (fun _ => (nomatch ·))
  | case :: rest => by
    rw [List.forall_mem_cons, List.forall_mem_cons, case_encode_succeeds_iff case,
      forall_case_encode_succeeds rest]

end

/-! ### Reading -/

/-- A condition on scripts, asked of every case of a branch. -/
def EveryCase (fits : List Command → Prop) (command : Command) : Prop :=
  ∀ index cases, command = .branch index cases → ∀ case ∈ cases, fits case.commands

section Read

variable {inner : Reader (List Command)} {fits : List Command → Prop}

/-- A case is read as its commands are. -/
private theorem case_codec (h : Codec encodeList inner ListStorable fits) :
    Codec Case.encode (do let value ← Reader.word; return { value, commands := ← inner })
      (fun case => ListStorable case.commands) (fun case => fits case.commands) where
  succeeds_iff := case_encode_succeeds_iff
  readBy := fun ⟨value, commands⟩ octets written => by
    rw [encode_case, ← encodeList_eq, Written.after_eq_ok_iff] at written
    obtain ⟨tail, commandsWritten, rfl⟩ := written
    exact (Reader.word_takes value).after ((h.readBy _ _ commandsWritten).last _)

/-- A plain command is always read, and a branch if the scripts of its cases are. -/
private theorem command_codec (h : Codec encodeList inner ListStorable fits) :
    Codec encode (Command.read inner) Storable (EveryCase fits) where
  succeeds_iff := encode_succeeds_iff
  readBy
  | .op opcode args, octets, written => by
    obtain ⟨differs, tail, argsWritten, rfl⟩ := encode_op_eq_ok_iff.mp written
    have read := (Codec.words.readBy _ _ argsWritten).last (op opcode)
    have whole : Reader.Takes (Command.read inner) (Bytes.ofWord opcode ++ tail) (op opcode args) :=
      (Reader.word_takes opcode).after (by rw [if_neg differs]; exact read)
    exact whole.congr (iff_of_true trivial fun _ _ same => nomatch same)
  | .branch index cases, octets, written => by
    rw [encode_branch, Written.after_eq_ok_iff] at written
    obtain ⟨tail, casesWritten, rfl⟩ := written
    have read := ((case_codec h).list.readBy _ _ casesWritten).last (branch index)
    rw [List.append_assoc]
    refine Reader.Answers.after (Reader.word_takes branchOpcode) ?_
    rw [if_pos rfl]
    refine Reader.Answers.congr (Reader.Answers.after (Reader.word_takes index) read) ?_
    refine ⟨fun each _ _ same => ?_, fun each => each index cases rfl⟩
    cases same
    exact each

end Read

/-- A script can be written if it is within its limits, however deep it nests. -/
theorem encodeList_succeeds_iff (commands : List Command) :
    (∃ octets, encodeList commands = .ok octets) ↔ ListStorable commands := by
  rw [encodeList_eq, Written.list_succeeds_iff, forall_encode_succeeds, listStorable_iff]

/-- A script is read if none of its command lists lies deeper than the room allows. -/
private theorem readList_readBy (room : Nat) (commands : List Command) :
    (encodeList commands).ReadBy (readList room) commands
      (∀ level list, ListAt commands level list → level < room) := by
  induction room generalizing commands with
  | zero =>
    intro octets _
    exact ⟨fun fits => absurd (fits 0 commands (.here commands)) (Nat.lt_irrefl 0),
      fun _ _ => ⟨_, rfl⟩⟩
  | succ room ih =>
    intro octets written
    rw [encodeList_eq] at written
    have below := command_codec ⟨encodeList_succeeds_iff, ih⟩
    refine (below.list.readBy commands octets written).congr ?_
    rw [forall_listAt_iff]
    simp only [Nat.zero_lt_succ, true_and, Nat.succ_lt_succ_iff]
    constructor
    · exact fun h index cases among => h _ among index cases rfl
    · rintro h _ among index cases rfl
      exact h index cases among

/-- Scripts are written without regard to depth, and read back if there is room for their depth. -/
theorem readList_codec (room : Nat) : Codec encodeList (readList room) ListStorable
    (fun commands => ∀ level list, ListAt commands level list → level < room) where
  succeeds_iff := encodeList_succeeds_iff
  readBy := readList_readBy room

/-! ### A script that is nothing but depth -/

/-- So many branches, each the only command of the one above it. -/
def nested : (depth : Nat) → List Command
  | 0 => []
  | depth + 1 => [.branch 0 [{ value := 0, commands := nested depth }]]

/-- In such a script one list lies at each level, and it is such a script itself. -/
theorem listAt_nested_iff {depth level : Nat} {list : List Command} :
    ListAt (nested depth) level list ↔ level ≤ depth ∧ list = nested (depth - level) := by
  constructor
  · intro found
    induction depth generalizing level with
    | zero =>
      cases found with
      | here => exact ⟨Nat.le_refl 0, rfl⟩
      | inside branch => cases branch
    | succ depth ih =>
      cases found with
      | here => exact ⟨Nat.zero_le _, rfl⟩
      | inside branch chosen below =>
        cases List.mem_singleton.mp branch
        cases List.mem_singleton.mp chosen
        obtain ⟨within, same⟩ := ih below
        exact ⟨Nat.succ_le_succ within, by rw [same, Nat.succ_sub_succ]⟩
  · rintro ⟨within, rfl⟩
    induction level generalizing depth with
    | zero => exact .here _
    | succ level ih =>
      cases depth with
      | zero => cases within
      | succ depth =>
        have below := ih (Nat.le_of_succ_le_succ within)
        rw [← Nat.succ_sub_succ depth level] at below
        exact .inside (List.mem_singleton_self _) (List.mem_singleton_self _) below

end Command

/-! ## Around the scripts -/

/-- A handler is read back if its script nests no deeper than reading allows. -/
theorem Handler.codec : Codec encode read (fun handler => Command.ListStorable handler.commands)
    (NestsWithin maxNesting) where
  succeeds_iff handler := by
    rw [encode, Written.after_succeeds_iff, Command.encodeList_succeeds_iff]
  readBy := fun ⟨event, commands⟩ octets written => by
    obtain ⟨tail, commandsWritten, rfl⟩ := Written.after_eq_ok_iff.mp written
    have script := (Command.readList_codec (maxNesting + 1)).readBy _ _ commandsWritten
    have whole : read.Answers (Bytes.ofWord event ++ tail) ⟨event, commands⟩ _ :=
      (Reader.word_takes event).after ((script.within (.handler event)).last (Handler.mk event))
    exact whole.congr (by simp only [NestsWithin, Nat.lt_succ_iff])

/-- A rectangle is read back as it was written. -/
theorem PixelRect.read_takes (rect : PixelRect) : read.Takes rect.encode rect := by
  rw [encode, List.append_assoc, List.append_assoc]
  exact (Reader.signed_takes rect.left).after <| (Reader.signed_takes rect.top).after <|
    (Reader.signed_takes rect.right).after <| (Reader.signed_takes rect.bottom).last _

/-- Every picture can be written, and is read back. -/
theorem Picture.codec : Codec encode read (fun _ => True) (fun _ => True) :=
  .ofTakes fun picture => by
    rw [List.append_assoc]
    exact (Reader.word_takes picture.index).after <| (Reader.word_takes picture.bitmap).after <|
      (PixelRect.read_takes picture.rect).last _

/-- Every movie can be written, and is read back. -/
theorem Movie.codec : Codec encode read (fun _ => True) (fun _ => True) :=
  .ofTakes fun movie => by
    simp only [List.append_assoc]
    exact (Reader.word_takes movie.index).after <| (Reader.word_takes movie.movie).after <|
      (Reader.word_takes movie.code).after <| (Reader.signed_takes movie.left).after <|
      (Reader.signed_takes movie.top).after <| (Reader.flag_takes movie.looping).last _

/-- Every button can be written, and is read back. -/
theorem Button.codec : Codec encode read (fun _ => True) (fun _ => True) :=
  .ofTakes fun button => by
    rw [List.append_assoc]
    exact (Reader.word_takes button.index).after <| (Reader.flag_takes button.enabled).after <|
      (Reader.word_takes button.hotspot).last _

/-- A sound group can be written if its sounds can be counted, and is read back. -/
theorem SoundGroup.codec : Codec encode read (fun group => group.sounds.length ≤ 65535)
    (fun _ => True) where
  succeeds_iff group := by
    rw [encode, Written.sequence_succeeds_iff, ← Codec.words.succeeds_iff]
    simp
  readBy group octets written := by
    have whole : group.encode.ReadBy read group _ :=
      .cons (.of_takes (Reader.word_takes _)) <| .cons (Codec.words.readBy _) <|
        .cons (.of_takes (Reader.word_takes _)) <| .cons (.of_takes (Reader.flag_takes _)) <| .nil _
    exact (whole octets written).congr (by simp only [and_true])

/-- A hotspot can be written within the limits of its name and its scripts, and is read back if these do not
nest too deep. -/
theorem HotspotRecord.codec : Codec encode read
    (fun hotspot => hotspot.name.utf8ByteSize ≤ 255 ∧ hotspot.scripts.length ≤ 65535
      ∧ ∀ handler ∈ hotspot.scripts, Command.ListStorable handler.commands)
    (fun hotspot => ∀ handler ∈ hotspot.scripts, handler.NestsWithin maxNesting) where
  succeeds_iff hotspot := by
    rw [encode, Written.sequence_succeeds_iff, ← Codec.name.succeeds_iff,
      ← Handler.codec.list.succeeds_iff]
    simp
  readBy hotspot octets written := by
    have whole : hotspot.encode.ReadBy read hotspot _ :=
      .cons (.of_takes (Reader.word_takes _)) <| .cons (.of_takes (PixelRect.read_takes _)) <|
        .cons (.of_takes (Reader.word_takes _)) <| .cons (.of_takes (Reader.flag_takes _)) <|
        .cons (Codec.name.readBy _) <| .cons (Handler.codec.list.readBy _) <| .nil _
    exact (whole octets written).congr (by simp only [true_and, and_true])

/-! ## Whole cards -/

namespace CardRecord

/-- The handlers of a card are those of the card and those of its hotspots. -/
theorem forall_handlers_iff {card : CardRecord} {holds : Handler → Prop} :
    (∀ handler ∈ card.handlers, holds handler) ↔ (∀ handler ∈ card.scripts, holds handler)
      ∧ ∀ hotspot ∈ card.hotspots, ∀ handler ∈ hotspot.scripts, holds handler := by
  simp only [handlers, List.forall_mem_append, List.forall_mem_flatMap]

/-- The octets of a card are read, whatever follows them, if its scripts nest no deeper than reading
goes. -/
theorem codec : Codec encode read Storable (NestsWithin maxNesting) where
  succeeds_iff card := by
    rw [encode, Written.sequence_succeeds_iff]
    simp only [List.forall_mem_cons, List.not_mem_nil, false_imp_iff, implies_true, and_true,
      Codec.name.succeeds_iff, Handler.codec.list.succeeds_iff, HotspotRecord.codec.list.succeeds_iff,
      Picture.codec.list.succeeds_iff, SoundGroup.codec.list.succeeds_iff,
      Movie.codec.list.succeeds_iff, Button.codec.list.succeeds_iff]
    constructor
    · rintro ⟨name, ⟨scripts, own⟩, ⟨hotspots, each⟩, pictures, ⟨soundGroups, sounds⟩, movies, buttons⟩
      exact { name, scripts, hotspots, pictures, soundGroups, sounds, movies, buttons,
              hotspotNames := fun hotspot among => (each hotspot among).1
              hotspotScripts := fun hotspot among => (each hotspot among).2.1
              commands := forall_handlers_iff.mpr
                ⟨own, fun hotspot among => (each hotspot among).2.2⟩ }
    · intro h
      obtain ⟨own, below⟩ := forall_handlers_iff.mp h.commands
      exact ⟨h.name, ⟨h.scripts, own⟩,
        ⟨h.hotspots, fun hotspot among =>
          ⟨h.hotspotNames hotspot among, h.hotspotScripts hotspot among, below hotspot among⟩⟩,
        h.pictures, ⟨h.soundGroups, h.sounds⟩, h.movies, h.buttons⟩
  readBy card octets written := by
    have whole : card.encode.ReadBy read card _ :=
      .cons (Codec.name.readBy _ |>.within _) <| .cons (Handler.codec.list.readBy _ |>.within _) <|
        .cons ((Codec.listWithin _ fun index => HotspotRecord.codec.within _).readBy _) <|
        .cons ((Codec.listWithin _ fun _ => Picture.codec).readBy _) <|
        .cons ((Codec.listWithin _ fun _ => SoundGroup.codec).readBy _) <|
        .cons ((Codec.listWithin _ fun _ => Movie.codec).readBy _) <|
        .cons ((Codec.listWithin _ fun _ => Button.codec).readBy _) <| .nil _
    refine (whole octets written).congr ?_
    simp only [NestsWithin, forall_handlers_iff, implies_true, true_and, and_true]

/-- What is decoded is read, and nothing is left of the octets. -/
theorem decode_eq_ok_iff {bytes : Bytes} {card : CardRecord} :
    decode bytes = .ok card ↔ read bytes = .ok (card, []) := by
  unfold decode
  cases read bytes with
  | error cause => exact ⟨(nomatch ·), (nomatch ·)⟩
  | ok taken =>
    obtain ⟨whole, rest⟩ := taken
    cases rest with
    | nil => exact ⟨fun same => by cases same; rfl, fun same => by cases same; rfl⟩
    | cons octet rest => exact ⟨(nomatch ·), fun same => nomatch same⟩

/-- The octets of a card, with nothing behind them, are decoded as that card or not at all. -/
theorem decode_of_encode (card : CardRecord) :
    ((∃ bytes, card.encode = .ok bytes) ↔ card.Storable) ∧
      ∀ bytes, card.encode = .ok bytes →
        (card.NestsWithin 16 → decode bytes = .ok card)
          ∧ (¬ card.NestsWithin 16 → ∃ cause, decode bytes = .error cause) := by
  refine ⟨codec.succeeds_iff card, fun bytes written => ⟨fun fits => ?_, fun deeper => ?_⟩⟩
  · have read := (codec.readBy card bytes written).takes fits []
    rw [List.append_nil] at read
    rw [decode, read]
    rfl
  · obtain ⟨cause, refused⟩ := (codec.readBy card bytes written).refuses deeper []
    rw [List.append_nil] at refused
    exact ⟨cause, by rw [decode, refused]; rfl⟩

/-- A card whose only script is so many branches, each the only command of the one above it. -/
def nested (depth : Nat) : CardRecord :=
  { scripts := [{ event := 0, commands := Command.nested depth }] }

/-- A card whose one script is nothing but depth nests as deep as that script. -/
theorem nested_nestsWithin_iff {limit depth : Nat} :
    (nested depth).NestsWithin limit ↔ depth ≤ limit := by
  have only : (nested depth).handlers = [{ event := 0, commands := Command.nested depth }] := rfl
  simp only [NestsWithin, Handler.NestsWithin, only, List.forall_mem_singleton,
    Command.listAt_nested_iff]
  exact ⟨fun h => h depth _ ⟨Nat.le_refl depth, rfl⟩,
    fun h level list found => Nat.le_trans found.1 h⟩

/-- The sixteenth branch is read back, and the seventeenth is written in vain. -/
theorem decode_of_encode_nested :
    (∃ bytes, (nested 16).encode = .ok bytes ∧ decode bytes = .ok (nested 16))
      ∧ ∃ bytes, (nested 17).encode = .ok bytes ∧ ∃ cause, decode bytes = .error cause :=
  ⟨⟨_, rfl, ((decode_of_encode (nested 16)).2 _ rfl).1 (nested_nestsWithin_iff.mpr (by decide))⟩,
    ⟨_, rfl, ((decode_of_encode (nested 17)).2 _ rfl).2
      (mt nested_nestsWithin_iff.mp (by decide))⟩⟩

end CardRecord

end Diorama
