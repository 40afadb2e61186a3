import Diorama.Stack.Document
import Mathlib.Data.List.Basic
import Mathlib.Data.List.Forall2
import Mathlib.Data.List.Nodup
import Mathlib.Data.List.Perm.Basic
import Mathlib.Data.String.Basic

/-!
# Which files make a stack

A data root lists its files in some order, and a key selects some of them. `ListedFile.Selects` says which, of
names alone and in the words of somebody who puts files there: the extension is `rxa`, and what stands before it
is the key, or the key and an underscore and anything. That `ListedFile.belongsTo` finds this out is
`ListedFile.belongsTo_iff`. Names are compared letter by letter, and only the letters of ASCII are the same in
both cases (`ListedFile.SameLetter`).

Of the files selected, those that are archives make the stack, in the order of their names. As no directory
has two files of one name, that order leaves nothing open, and so it does not matter in which order the files are
listed (`Provider.openStack_listing`).
-/

namespace Diorama

namespace ListedFile

/-! ## Names in either case -/

/-- The same character, or the same letter of ASCII in the other case. -/
def SameLetter (a b : Char) : Prop :=
  a = b ∨ (a.isUpper = true ∧ b.toNat = a.toNat + 32) ∨ (b.isUpper = true ∧ a.toNat = b.toNat + 32)

/-- The same text, whatever the case of its letters. -/
def SameLetters (a b : String) : Prop :=
  List.Forall₂ SameLetter a.toList b.toList

/-- The small letters of ASCII come thirty-two places after the capital ones. -/
theorem toNat_toLower (a : Char) : a.toLower.toNat = if a.isUpper then a.toNat + 32 else a.toNat := by
  unfold Char.toLower Char.isUpper
  simp only [decide_eq_true_eq]
  split
  next upper =>
    have low : a.val.toNat ≤ 90 := UInt32.le_iff_toNat_le.mp upper.2
    change (a.val + 32).toNat = a.val.toNat + 32
    rw [UInt32.toNat_add]
    exact Nat.mod_eq_of_lt (show a.val.toNat + 32 < 2 ^ 32 by omega)
  next => rfl

/-- The capital letters are those from A to Z. -/
theorem isUpper_iff (a : Char) : a.isUpper = true ↔ 65 ≤ a.toNat ∧ a.toNat ≤ 90 := by
  unfold Char.isUpper
  rw [decide_eq_true_eq]
  exact and_congr UInt32.le_iff_toNat_le UInt32.le_iff_toNat_le

/-- In lower case the same letters become the same, and no others do. -/
theorem toLower_eq_iff (a b : Char) : a.toLower = b.toLower ↔ SameLetter a b := by
  rw [SameLetter, ← Char.toNat_inj, ← Char.toNat_inj, toNat_toLower, toNat_toLower]
  simp only [isUpper_iff]
  split <;> split <;> omega

/-- Two texts become equal in small letters if they are equal letter by letter in either case. -/
theorem lower_eq_iff (a b : String) : lower a = lower b ↔ SameLetters a b := by
  rw [SameLetters, lower, lower, ← List.forall₂_eq_eq_eq, List.forall₂_map_left_iff,
    List.forall₂_map_right_iff]
  simp only [toLower_eq_iff]

/-- A character that is no letter is matched by itself alone. -/
theorem toLower_eq_self_iff {a b : Char} (caseless : ¬ b.isUpper = true ∧ ¬ (97 ≤ b.toNat ∧ b.toNat ≤ 122)) :
    a.toLower = b ↔ a = b := by
  rw [← Char.toNat_inj, ← Char.toNat_inj, toNat_toLower]
  simp only [isUpper_iff] at caseless ⊢
  split <;> omega

/-! ## What a key selects -/

/-- The file of this name belongs to a key: its extension is `rxa`, and what is before it is the key, or begins
with the key and an underscore. A name that only starts with a point has no extension. -/
def Selects (key name : String) : Prop :=
  ∃ stem extension, name = stem ++ "." ++ extension ∧ stem ≠ "" ∧ SameLetters extension "rxa" ∧
    (SameLetters stem key ∨ ∃ front rest, stem = front ++ "_" ++ rest ∧ SameLetters front key)

/-- A list is cut before the first place where something stands. -/
private theorem span_ne_iff {α : Type} [DecidableEq α] {a : α} {l front back : List α} :
    (l.takeWhile (· != a) = front ∧ l.dropWhile (· != a) = a :: back) ↔
      l = front ++ a :: back ∧ a ∉ front := by
  constructor
  · rintro ⟨rfl, cut⟩
    have whole := List.takeWhile_append_dropWhile (p := (· != a)) (l := l)
    rw [cut] at whole
    refine ⟨whole.symm, fun among => ?_⟩
    exact absurd (List.all_eq_true.mp List.all_takeWhile a among) (by simp)
  · rintro ⟨rfl, absent⟩
    have others : ∀ b ∈ front, (b != a) = true := by
      intro b among
      rw [bne_iff_ne]
      rintro rfl
      exact absent among
    rw [List.takeWhile_append_of_pos others, List.dropWhile_append_of_pos others]
    simp

/-- What a name consists of, letter by letter. -/
theorem eq_join_iff {name front back : String} {between : Char} :
    name = front ++ String.singleton between ++ back ↔ name.toList = front.toList ++ between :: back.toList := by
  rw [← String.toList_inj, String.toList_append, String.toList_append, String.toList_singleton,
    List.append_assoc, List.singleton_append]

/-- Characters that were collected last first are a text read backwards. -/
private theorem ofList_reverse_eq_iff {chars : List Char} {text : String} :
    String.ofList chars.reverse = text ↔ chars = text.toList.reverse := by
  rw [← String.toList_inj, String.toList_ofList, List.reverse_eq_iff]

/-- The extension stands behind the last point, and before that point is something. -/
theorem splitName_eq_some_iff {name stem extension : String} : splitName name = (stem, some extension) ↔
    name = stem ++ "." ++ extension ∧ stem ≠ "" ∧ '.' ∉ extension.toList := by
  have reversed : name = stem ++ "." ++ extension ↔
      name.toList.reverse = extension.toList.reverse ++ '.' :: stem.toList.reverse := by
    rw [show "." = String.singleton '.' from rfl, eq_join_iff, ← List.reverse_inj]
    simp
  have bare_iff : stem = "" ↔ stem.toList.reverse = [] := by
    rw [List.reverse_eq_nil_iff, String.toList_eq_nil_iff]
  -- The name is read from its end, where the last point is the first one.
  rw [reversed, ← List.mem_reverse, and_left_comm, ← span_ne_iff]
  unfold splitName
  dsimp only
  split
  next before found =>
    rw [found]
    by_cases bare : before = []
    · subst bare
      refine iff_of_false (fun same => ?_) ?_
      · cases (Prod.mk.inj same).2
      · rintro ⟨stemmed, -, same⟩
        exact stemmed (bare_iff.mpr (List.cons.inj same).2.symm)
    · have named : stem.toList.reverse = before → stem ≠ "" := by
        rintro rfl empty
        exact bare (bare_iff.mp empty)
      rw [if_neg (mt List.isEmpty_iff.mp bare), Prod.mk.injEq, Option.some.injEq, ofList_reverse_eq_iff,
        ofList_reverse_eq_iff, List.cons.injEq]
      constructor
      · rintro ⟨front, back⟩
        exact ⟨named front.symm, back, rfl, front⟩
      · rintro ⟨-, back, -, front⟩
        exact ⟨front, back⟩
  next other =>
    refine iff_of_false (fun same => ?_) ?_
    · cases (Prod.mk.inj same).2
    · rintro ⟨-, -, same⟩
      exact other _ same

/-- Behind the key an underscore has to come, if anything does. -/
theorem stemFits_iff {key stem : String} : stemFits key stem = true ↔
    SameLetters stem key ∨ ∃ front rest, stem = front ++ "_" ++ rest ∧ SameLetters front key := by
  have cut : (∃ front rest, stem = front ++ "_" ++ rest ∧ SameLetters front key) ↔
      ∃ rest, lower stem = lower key ++ '_' :: rest := by
    constructor
    · rintro ⟨front, rest, rfl, same⟩
      rw [← lower_eq_iff] at same
      refine ⟨lower rest, ?_⟩
      rw [← same, lower, lower, lower, String.toList_append, String.toList_append, List.map_append, List.map_append,
        List.append_assoc]
      rfl
    · rintro ⟨rest, same⟩
      obtain ⟨front, back, split, here, there⟩ := List.map_eq_append_iff.mp same
      obtain ⟨next, others, rfl, underscore, -⟩ := List.map_eq_cons_iff.mp there
      have next_eq : next = '_' := (toLower_eq_self_iff (by decide)).mp underscore
      refine ⟨String.ofList front, String.ofList others, ?_, ?_⟩
      · rw [show "_" = String.singleton '_' from rfl, eq_join_iff, String.toList_ofList, String.toList_ofList,
          split, next_eq]
      · rw [← lower_eq_iff, lower, String.toList_ofList, here]
  -- Both sides are compared in lower case, letter by letter.
  rw [cut, ← lower_eq_iff]
  unfold stemFits
  dsimp only
  rw [Bool.and_eq_true, List.isPrefixOf_iff_prefix]
  constructor
  · rintro ⟨⟨rest, whole⟩, behind⟩
    rw [← whole, List.drop_left] at behind
    rw [← whole]
    cases rest with
    | nil => exact .inl (List.append_nil _)
    | cons next rest => exact .inr ⟨rest, by rw [eq_of_beq behind]⟩
  · rintro (same | ⟨rest, whole⟩)
    · rw [same, List.drop_length]
      exact ⟨List.prefix_rfl, rfl⟩
    · rw [whole, List.drop_left]
      exact ⟨List.prefix_append _ _, rfl⟩

/-- A file is opened for a key exactly if the key selects its name. -/
theorem belongsTo_iff {key : String} {file : ListedFile} : file.belongsTo key = true ↔ Selects key file.name := by
  have pointless {extension : String} (same : SameLetters extension "rxa") : '.' ∉ extension.toList := by
    intro among
    have lowered : ('.' : Char).toLower ∈ lower extension := List.mem_map_of_mem among
    rw [(lower_eq_iff _ _).mpr same] at lowered
    revert lowered
    decide
  have rxa : lower "rxa" = ['r', 'x', 'a'] := rfl
  unfold belongsTo
  cases parts : splitName file.name with
  | mk stem extension =>
    dsimp only
    rw [Bool.and_eq_true, stemFits_iff]
    constructor
    · rintro ⟨fits, ending⟩
      cases extension with
      | none => cases ending
      | some extension =>
        obtain ⟨name, stemmed, -⟩ := splitName_eq_some_iff.mp parts
        have same : SameLetters extension "rxa" := (lower_eq_iff _ _).mp ((eq_of_beq ending).trans rxa.symm)
        exact ⟨stem, extension, name, stemmed, same, fits⟩
    · rintro ⟨stem', extension', name, stemmed, same, fits⟩
      have parts' := splitName_eq_some_iff.mpr ⟨name, stemmed, pointless same⟩
      rw [parts] at parts'
      cases parts'
      exact ⟨fits, beq_iff_eq.mpr (((lower_eq_iff _ _).mpr same).trans rxa)⟩

end ListedFile

/-! ## The archives of a stack -/

namespace Provider

/-- A file of a data root is an archive: it can be read, and what is read can be parsed. -/
def Opens (path : String) (file : ListedFile) (archive : StackArchive) : Prop :=
  ∃ octets parsed, file.content = .ok octets ∧ Archive.parse (join path file.name) octets = .ok parsed ∧
    archive = .file parsed

variable {path key : String} {listing other : List ListedFile} {archives : List StackArchive}

/-- A file is opened if it can be read and parsed. -/
theorem openFile?_eq_some_iff {file : ListedFile} {archive : StackArchive} :
    openFile? path file = some archive ↔ Opens path file archive := by
  unfold openFile? Opens
  cases file.content with
  | error error => simp
  | ok octets =>
    cases parsed : Archive.parse (join path file.name) octets <;> simp [parsed, Except.toOption, eq_comm]

/-- Files are selected by their names, and none is lost by sorting. -/
theorem mem_selected {file : ListedFile} :
    file ∈ selected key listing ↔ file ∈ listing ∧ ListedFile.Selects key file.name := by
  rw [selected, List.mem_mergeSort, List.mem_filter, ListedFile.belongsTo_iff]

/-- The files lie in the order of their names. -/
theorem selected_ascending (key : String) (listing : List ListedFile) :
    (selected key listing).Pairwise fun a b => a.name ≤ b.name := by
  refine (List.pairwise_mergeSort ?_ ?_ _).imp of_decide_eq_true
  · intro a b c below above
    rw [decide_eq_true_eq] at below above ⊢
    exact String.le_trans below above
  · intro a b
    rw [Bool.or_eq_true, decide_eq_true_eq, decide_eq_true_eq]
    exact String.le_total a.name b.name

/-- Of files with distinct names there is one order. -/
theorem eq_of_ascending {files files' : List ListedFile} (sorted : files.Pairwise fun a b => a.name ≤ b.name)
    (sorted' : files'.Pairwise fun a b => a.name ≤ b.name) (perm : files.Perm files')
    (distinct : (files.map (·.name)).Nodup) : files = files' := by
  refine perm.eq_of_pairwise (fun file file' among among' below above => ?_) sorted sorted'
  exact List.inj_on_of_nodup_map distinct among (perm.mem_iff.mpr among') (String.le_antisymm below above)

/-- Files whose names differ have names that differ after selection. -/
theorem distinct_selected (distinct : (listing.map (·.name)).Nodup) (key : String) :
    ((selected key listing).map (·.name)).Nodup := by
  have sorted := List.mergeSort_perm (listing.filter (·.belongsTo key)) fun a b => decide (a.name ≤ b.name)
  exact (sorted.map (·.name)).nodup_iff.mpr (distinct.sublist (List.Sublist.map _ List.filter_sublist))

/-- The order of the listing does not matter. -/
theorem selected_eq_of_perm (perm : other.Perm listing) (distinct : (listing.map (·.name)).Nodup) :
    selected key other = selected key listing := by
  have same : (selected key listing).Perm (selected key other) :=
    (List.mergeSort_perm _ _).trans ((perm.symm.filter _).trans (List.mergeSort_perm _ _).symm)
  exact (eq_of_ascending (selected_ascending key listing) (selected_ascending key other) same
    (distinct_selected distinct key)).symm

/-- The archives that the files of a listing give for a key: those of all files that the key selects and that
are archives, in the order of the names of the files. -/
def Supplies (path key : String) (listing : List ListedFile) (archives : List StackArchive) : Prop :=
  ∃ files : List ListedFile, files.Pairwise (fun a b => a.name < b.name) ∧
    (∀ file, file ∈ files ↔
      file ∈ listing ∧ ListedFile.Selects key file.name ∧ ∃ archive, Opens path file archive) ∧
    List.Forall₂ (Opens path) files archives

/-- What is left of a list when each element may be given up, beside the elements that are not. -/
private theorem forall₂_filterMap {α β : Type} (give : α → Option β) (l : List α) :
    List.Forall₂ (fun a b => give a = some b) (l.filter fun a => (give a).isSome) (l.filterMap give) := by
  induction l with
  | nil => exact .nil
  | cons a l ih =>
    cases given : give a with
    | none =>
      rw [List.filter_cons_of_neg (by simp [given]), List.filterMap_cons_none given]
      exact ih
    | some b =>
      rw [List.filter_cons_of_pos (by simp [given]), List.filterMap_cons_some given]
      exact .cons given ih

/-- Where each element gives something, all of it is given in order. -/
private theorem filterMap_of_forall₂ {α β : Type} {give : α → Option β} {l : List α} {given : List β}
    (each : List.Forall₂ (fun a b => give a = some b) l given) : l.filterMap give = given := by
  induction each with
  | nil => rfl
  | cons here _ ih => rw [List.filterMap_cons_some here, ih]

/-- The files that a key selects and that are archives. -/
def opened (path key : String) (listing : List ListedFile) : List ListedFile :=
  (selected key listing).filter fun file => (openFile? path file).isSome

/-- The files that are opened are those that are selected and that open. -/
theorem mem_opened {file : ListedFile} : file ∈ opened path key listing ↔
    file ∈ listing ∧ ListedFile.Selects key file.name ∧ ∃ archive, Opens path file archive := by
  rw [opened, List.mem_filter, mem_selected, Option.isSome_iff_exists, and_assoc]
  simp only [openFile?_eq_some_iff]

/-- The names of the files ascend, and so they are distinct. -/
theorem ascending_iff {files : List ListedFile} : files.Pairwise (fun a b => a.name < b.name) ↔
    files.Pairwise (fun a b => a.name ≤ b.name) ∧ (files.map (·.name)).Nodup := by
  rw [List.Nodup, List.pairwise_map, ← List.pairwise_and_iff]
  exact List.Pairwise.iff fun a b => lt_iff_le_and_ne

/-- The archives that a listing supplies are those of the selected files, in the order of their names. -/
theorem supplies_iff (distinct : (listing.map (·.name)).Nodup) :
    Supplies path key listing archives ↔ (selected key listing).filterMap (openFile? path) = archives := by
  have opens := forall₂_filterMap (openFile? path) (selected key listing)
  have sorted : (opened path key listing).Pairwise fun a b => a.name ≤ b.name :=
    (selected_ascending key listing).filter _
  have distinct : ((opened path key listing).map (·.name)).Nodup :=
    (distinct_selected distinct key).sublist (List.Sublist.map _ List.filter_sublist)
  constructor
  · rintro ⟨files, ascending, among, each⟩
    obtain ⟨sorted', distinct'⟩ := ascending_iff.mp ascending
    have perm : files.Perm (opened path key listing) :=
      (List.perm_ext_iff_of_nodup distinct'.of_map distinct.of_map).mpr fun file => (among file).trans mem_opened.symm
    have given := filterMap_of_forall₂ (each.imp fun file archive => openFile?_eq_some_iff.mpr)
    rw [eq_of_ascending sorted' sorted perm distinct', opened, filterMap_of_forall₂ opens] at given
    exact given
  · rintro rfl
    refine ⟨opened path key listing, ascending_iff.mpr ⟨sorted, distinct⟩, fun file => mem_opened, ?_⟩
    exact opens.imp fun file archive => openFile?_eq_some_iff.mp

/-- A directory opens a stack as its selected files say, and does not find one of which no file opens. -/
theorem openStack_eq (path key : String) (listing : List ListedFile) :
    (directory path (.ok listing)).openStack key =
      if (selected key listing).filterMap (openFile? path) = [] then .error (.stackNotFound key)
      else .ok ((selected key listing).filterMap (openFile? path)) := by
  unfold openStack
  dsimp only
  split
  next none => rw [if_pos none]
  next some => rw [if_neg some]

/-- There is nothing to be had if no file that the key selects is an archive. -/
theorem filterMap_eq_nil_iff : (selected key listing).filterMap (openFile? path) = [] ↔
    ∀ file ∈ listing, ListedFile.Selects key file.name → ¬ ∃ archive, Opens path file archive := by
  rw [List.filterMap_eq_nil_iff]
  simp only [mem_selected, and_imp, Option.eq_none_iff_forall_ne_some, ne_eq, openFile?_eq_some_iff, not_exists]

/-- Whatever a data root lists, a key opens the archives of just those files that it selects and that are archives,
each once and in the order of their names. If there is none, the stack is not found, and nothing else goes wrong. The
order in which the files are listed matters neither to that nor to the stack that is loaded. -/
theorem openStack_listing (path key : String) {listing : List ListedFile}
    (distinct : (listing.map (·.name)).Nodup) :
    (∀ archives, (directory path (.ok listing)).openStack key = .ok archives ↔
      archives ≠ [] ∧ Supplies path key listing archives) ∧
    (∀ error, (directory path (.ok listing)).openStack key = .error error ↔
      error = .stackNotFound key ∧
        ∀ file ∈ listing, ListedFile.Selects key file.name → ¬ ∃ archive, Opens path file archive) ∧
    ∀ other, other.Perm listing →
      (directory path (.ok other)).openStack key = (directory path (.ok listing)).openStack key ∧
      Stack.load (directory path (.ok other)) key = Stack.load (directory path (.ok listing)) key := by
  refine ⟨fun archives => ?_, fun error => ?_, fun other perm => ?_⟩
  · rw [openStack_eq, supplies_iff distinct]
    split
    next none =>
      rw [none]
      refine iff_of_false (by simp) ?_
      rintro ⟨some, rfl⟩
      exact some rfl
    next some =>
      rw [Except.ok.injEq]
      exact ⟨fun same => ⟨same ▸ some, same⟩, fun found => found.2⟩
  · rw [openStack_eq, ← @filterMap_eq_nil_iff path]
    split
    next none =>
      rw [Except.error.injEq]
      exact ⟨fun same => ⟨same.symm, none⟩, fun found => found.1.symm⟩
    next some => exact iff_of_false (by simp) fun found => some found.2
  · have same : (directory path (.ok other)).openStack key = (directory path (.ok listing)).openStack key := by
      rw [openStack_eq, openStack_eq, selected_eq_of_perm perm distinct]
    exact ⟨same, by rw [Stack.load, same, Stack.load]⟩

/-- A data root as it may be listed: two archives of the hall, one with capital letters, and between them a text, a
directory, a file that is no archive, and the archive of another stack. -/
def rooms : List ListedFile :=
  let blank : Bytes := [0x52, 0x58, 0x41, 0x52, 1, 0, 0, 0, 0, 0, 0, 0, 0, 0, 0, 0]
  [⟨"HALL.Rxa", .ok blank⟩, ⟨"hall.txt", .ok blank⟩, ⟨"hall_.rxa", .error .noDevice⟩,
    ⟨"hall_a.rxa", .ok []⟩, ⟨"hall_b.rxa", .ok blank⟩, ⟨"hallway.rxa", .ok blank⟩]

/-- The two archives of the hall are opened, also when the files are listed backwards; and the beginning of a key is
not a key. -/
theorem openStack_listing_rooms : (rooms.map (·.name)).Nodup ∧ rooms.reverse.Perm rooms ∧
    (∃ archives, archives.map StackArchive.label = ["data/HALL.Rxa", "data/hall_b.rxa"] ∧
      (directory "data" (.ok rooms)).openStack "hall" = .ok archives ∧
      (directory "data" (.ok rooms.reverse)).openStack "hall" = .ok archives) ∧
    Stack.load (directory "data" (.ok rooms.reverse)) "hall" = Stack.load (directory "data" (.ok rooms)) "hall" ∧
    (directory "data" (.ok rooms)).openStack "hal" = .error (.stackNotFound "hal") := by
  have distinct : (rooms.map (·.name)).Nodup := by decide
  have perm : rooms.reverse.Perm rooms := rooms.reverse_perm
  let archives := (rooms.filter (·.belongsTo "hall")).filterMap (openFile? "data")
  have labels : archives.map StackArchive.label = ["data/HALL.Rxa", "data/hall_b.rxa"] := by decide +kernel
  have found : archives ≠ [] := by
    intro none
    rw [none] at labels
    cases labels
  have ascending : rooms.Pairwise fun a b => decide (a.name ≤ b.name) = true := by decide
  have supplied : Supplies "data" "hall" rooms archives :=
    (supplies_iff distinct).mpr (by rw [selected, List.mergeSort_of_pairwise (ascending.filter _)])
  have others : ∀ file ∈ rooms, ¬ ListedFile.Selects "hal" file.name := by
    intro file among selects
    have none : rooms.all (!·.belongsTo "hal") = true := by decide +kernel
    have refused := List.all_eq_true.mp none file among
    rw [ListedFile.belongsTo_iff.mpr selects] at refused
    cases refused
  obtain ⟨opens, -, orders⟩ := openStack_listing "data" "hall" distinct
  obtain ⟨-, fails, -⟩ := openStack_listing "data" "hal" distinct
  have opened := (opens archives).mpr ⟨found, supplied⟩
  obtain ⟨same, loads⟩ := orders rooms.reverse perm
  exact ⟨distinct, perm, ⟨archives, labels, opened, same.trans opened⟩, loads,
    (fails _).mpr ⟨rfl, fun file among selects => absurd selects (others file among)⟩⟩

end Provider

end Diorama
