import Diorama.Manifest
import Diorama.Proofs.Archive
import Diorama.Proofs.CardCodec
import Diorama.Proofs.Directory
import Diorama.Proofs.NameTable

/-!
# What is packed is what is loaded

A manifest is packed into an archive, and the archive, put into a data root under the key of the stack, is
found again by that key, with the cards and the variable names of the manifest
(`StackManifest.resolve_packed`). Every stage has a law of its own, and here they are put together: the
resources of a manifest (`StackManifest.pack_ok`), the archive that holds them (`Archive.parse_layout`), the
file that the key selects (`Provider.openStack_single`), and the cards that are looked up in it
(`StackManifest.card?_packed`).

The stages do not have the same limits. Packing stores branches however deep they lie inside one another,
and reading stops at `maxNesting`; so a card whose branches lie deeper is packed, and is then refused when
it is asked for. And a key without any letters names no file that is taken for an archive, since a name
that only starts with a point has no extension.
-/

namespace Diorama

/-! ## The resources of a manifest -/

namespace ManifestCard

/-- The resource is the stored form of the card. -/
def StoredAs (card : ManifestCard) (resource : Resource) : Prop :=
  resource.kind = .card ∧ resource.id = card.id.toUInt32 ∧ card.record.encode = .ok resource.data

end ManifestCard

namespace StackManifest

/-- A card whose id is new and whose record can be stored is put before the others. -/
private theorem cardResources_cons {seen : List UInt16} {card : ManifestCard} {rest : List ManifestCard}
    (fresh : card.id ∉ seen) : cardResources seen (card :: rest) =
      match card.record.encode with
      | .error cause => .error (.card card.id cause)
      | .ok data => do
        let others ← cardResources (card.id :: seen) rest
        return { kind := .card, id := card.id.toUInt32, data : Resource } :: others := by
  rw [cardResources, if_neg fresh]
  rfl

/-- Cards become resources one by one, and no id comes twice. -/
theorem cardResources_ok {seen : List UInt16} {cards : List ManifestCard} {resources : List Resource}
    (h : cardResources seen cards = .ok resources) :
    (cards.map (·.id)).Nodup ∧ (∀ card ∈ cards, card.id ∉ seen)
      ∧ List.Forall₂ ManifestCard.StoredAs cards resources := by
  induction cards generalizing seen resources with
  | nil =>
    cases h
    exact ⟨.nil, fun _ => (nomatch ·), .nil⟩
  | cons card rest ih =>
    by_cases known : card.id ∈ seen
    · rw [cardResources, if_pos known] at h
      cases h
    · rw [cardResources_cons known] at h
      cases encoded : card.record.encode with
      | error cause =>
        rw [encoded] at h
        cases h
      | ok data =>
        rw [encoded] at h
        obtain ⟨others, made, same⟩ := Except.bind_eq_ok_iff.mp h
        cases same
        obtain ⟨distinct, unseen, stored⟩ := ih made
        have once : card.id ∉ rest.map (·.id) := by
          intro again
          obtain ⟨other, among, same⟩ := List.mem_map.mp again
          exact unseen other among (same ▸ List.mem_cons_self)
        refine ⟨List.nodup_cons.mpr ⟨once, distinct⟩, ?_, .cons ⟨rfl, rfl, encoded⟩ stored⟩
        intro other among
        rcases List.mem_cons.mp among with rfl | among
        · exact known
        · exact fun again => unseen other among (List.mem_cons_of_mem _ again)

/-- A manifest that can be packed becomes its name table and its cards. -/
theorem pack_ok {manifest : StackManifest} {resources : List Resource} (h : manifest.pack = .ok resources) :
    (manifest.cards.map (·.id)).Nodup ∧ ∃ table cards,
      NameTable.encode manifest.variableNames = .ok table
        ∧ resources = { kind := .names, id := 0, data := table } :: cards
        ∧ List.Forall₂ ManifestCard.StoredAs manifest.cards cards := by
  unfold pack at h
  split at h
  next => cases h
  next table encoded =>
    obtain ⟨cards, made, same⟩ := Except.bind_eq_ok_iff.mp h
    cases same
    obtain ⟨distinct, -, stored⟩ := cardResources_ok made
    exact ⟨distinct, table, cards, encoded, rfl, stored⟩

end StackManifest

/-! ## Names and cards in the archive -/

namespace ManifestCard

variable {cards : List ManifestCard} {resources : List Resource}

/-- A stored card is found by its own number only. -/
theorem StoredAs.matches_iff {card : ManifestCard} {resource : Resource} (stored : card.StoredAs resource)
    (id : UInt16) : (resource.kind == .card && resource.id == id.toUInt32) = true ↔ card.id = id := by
  obtain ⟨kind, same, -⟩ := stored
  rw [kind, same, Bool.and_eq_true_iff, beq_iff_eq, beq_iff_eq, UInt16.toUInt32_inj]
  exact and_iff_right rfl

/-- Of cards with distinct ids, each is the one that is found under its id. -/
theorem find?_storedAs (stored : List.Forall₂ StoredAs cards resources)
    (distinct : (cards.map (·.id)).Nodup) {card : ManifestCard} (among : card ∈ cards) :
    ∃ resource, card.StoredAs resource ∧
      (resources.find? fun resource => resource.kind == .card && resource.id == card.id.toUInt32)
        = some resource := by
  induction stored with
  | nil => cases among
  | @cons first resource rest resources same _ ih =>
    obtain ⟨once, distinct⟩ : first.id ∉ rest.map (·.id) ∧ (rest.map (·.id)).Nodup :=
      List.nodup_cons.mp distinct
    rcases List.mem_cons.mp among with rfl | among
    · exact ⟨resource, same, List.find?_cons_of_pos ((same.matches_iff card.id).mpr rfl)⟩
    · obtain ⟨found, stored, here⟩ := ih distinct among
      refine ⟨found, stored, ?_⟩
      rw [List.find?_cons]
      split
      next hit =>
        have twice : first.id = card.id := (same.matches_iff card.id).mp hit
        rw [twice] at once
        exact absurd (List.mem_map_of_mem among) once
      next => exact here

/-- The ids of the cards are the ids of the resources. -/
theorem ids_storedAs (stored : List.Forall₂ StoredAs cards resources) :
    (resources.filter (·.kind == .card)).map (·.id) = cards.map (·.id.toUInt32) := by
  induction stored with
  | nil => rfl
  | cons same _ ih =>
    obtain ⟨kind, id, -⟩ := same
    rw [List.filter_cons_of_pos (by rw [kind]; rfl), List.map_cons, List.map_cons, ih, id]

end ManifestCard

/-- The archive holds the name table and the cards of a manifest. -/
structure Archive.Packs (archive : Archive) (manifest : StackManifest) : Prop where
  distinct : (manifest.cards.map (·.id)).Nodup
  resources : ∃ table cards, NameTable.encode manifest.variableNames = .ok table
    ∧ archive.HoldsAll ({ kind := .names, id := 0, data := table } :: cards)
    ∧ List.Forall₂ ManifestCard.StoredAs manifest.cards cards

/-- An archive whose octets were made from a manifest packs it. -/
theorem Archive.parse_archiveBytes {manifest : StackManifest} {bytes : Bytes} (path : String)
    (packed : manifest.archiveBytes = .ok bytes) :
    ∃ archive, parse path bytes = .ok archive ∧ archive.Packs manifest := by
  obtain ⟨resources, made, written⟩ := Except.bind_eq_ok_iff.mp packed
  have laidOut : Resource.layout resources = .ok bytes := by
    split at written
    next same =>
      cases written
      exact same
    next => cases written
  obtain ⟨archive, parsed, holds⟩ := parse_layout path laidOut
  obtain ⟨distinct, table, cards, encoded, rfl, stored⟩ := StackManifest.pack_ok made
  exact ⟨archive, parsed, distinct, table, cards, encoded, holds, stored⟩

namespace Archive.Packs

variable {archive : Archive} {manifest : StackManifest}

/-- A packed stack gives the names of its manifest. -/
theorem variableNames (packs : archive.Packs manifest) :
    (StackArchive.file archive).variableNames = .ok (some manifest.variableNames) := by
  obtain ⟨table, cards, encoded, holds, -⟩ := packs.resources
  have found : archive.resource? .names 0 = some table := holds.resource?_eq .names 0
  rw [StackArchive.variableNames, found]
  dsimp only
  rw [NameTable.decode_encode encoded]
  rfl

/-- Each card of the manifest is found under its number, as the octets that it was written as. -/
theorem card? (packs : archive.Packs manifest) {card : ManifestCard} (among : card ∈ manifest.cards) :
    ∃ data, card.record.encode = .ok data ∧ (StackArchive.file archive).card? card.id = some data := by
  obtain ⟨table, cards, -, holds, stored⟩ := packs.resources
  obtain ⟨resource, ⟨-, -, encoded⟩, found⟩ := ManifestCard.find?_storedAs stored packs.distinct among
  refine ⟨resource.data, encoded, ?_⟩
  rw [StackArchive.card?, holds.resource?_eq]
  exact congrArg (Option.map _) found

/-- The cards of a packed stack are those of the manifest, in their order. -/
theorem cardIds (packs : archive.Packs manifest) :
    (StackArchive.file archive).cardIds = manifest.cards.map (·.id) := by
  obtain ⟨table, cards, -, holds, stored⟩ := packs.resources
  have ids : archive.ids .card = manifest.cards.map (·.id.toUInt32) := by
    rw [holds.ids_eq, List.filter_cons_of_neg Bool.false_ne_true]
    exact ManifestCard.ids_storedAs stored
  have word (card : ManifestCard) : (if card.id.toUInt32.toNat < 65536
      then some card.id.toUInt32.toUInt16 else none) = some card.id := by
    rw [UInt16.toNat_toUInt32, if_pos card.id.toNat_lt, UInt16.toUInt16_toUInt32]
  rw [StackArchive.cardIds, ids, List.filterMap_map]
  exact (List.filterMap_congr fun card _ => word card).trans (congrFun List.filterMap_eq_map' _)

end Archive.Packs

/-! ## The file that a key selects -/

namespace ListedFile

/-- A name behind which an extension is put has that extension, unless it was empty. -/
theorem splitName_append_rxa (key : String) : splitName (key ++ ".rxa")
    = if key = "" then (key ++ ".rxa", none) else (key, some "rxa") := by
  have chars : (key ++ ".rxa").toList.reverse = 'a' :: 'x' :: 'r' :: '.' :: key.toList.reverse := by
    rw [String.toList_append, List.reverse_append]
    rfl
  have empty_iff : key.toList.reverse.isEmpty = true ↔ key = "" := by
    rw [List.isEmpty_iff, List.reverse_eq_nil_iff, String.toList_eq_nil_iff]
  unfold splitName
  dsimp only
  rw [chars]
  change (if key.toList.reverse.isEmpty = true then (key ++ ".rxa", none)
    else (String.ofList key.toList.reverse.reverse, some (String.ofList ['r', 'x', 'a']))) = _
  rw [List.reverse_reverse, String.ofList_toList]
  simp only [empty_iff]

/-- The file that is named after a key belongs to it. -/
theorem stemFits_self (key : String) : stemFits key key = true := by
  unfold stemFits
  dsimp only
  rw [List.drop_length, Bool.and_true]
  exact List.isPrefixOf_iff_prefix.mpr List.prefix_rfl

/-- The file of a key is opened for that key, unless the key is empty. -/
theorem belongsTo_append_rxa (key : String) (content : Except FileError Bytes) :
    belongsTo key ⟨key ++ ".rxa", content⟩ = true ↔ key ≠ "" := by
  unfold belongsTo
  rw [splitName_append_rxa]
  by_cases empty : key = ""
  · rw [if_pos empty]
    dsimp only
    rw [Option.any_none, Bool.and_false]
    exact iff_of_false Bool.false_ne_true (not_not_intro empty)
  · rw [if_neg empty]
    dsimp only
    rw [stemFits_self]
    exact iff_of_true rfl empty

end ListedFile

/-- A data root with nothing in it but the file of a key gives that file for the key. -/
theorem Provider.openStack_single {key path : String} {bytes : Bytes} {archive : Archive}
    (parsed : Archive.parse (join path (key ++ ".rxa")) bytes = .ok archive) :
    (directory path (.ok [⟨key ++ ".rxa", .ok bytes⟩])).openStack key
      = if key = "" then .error (.stackNotFound key) else .ok [.file archive] := by
  have selects := ListedFile.belongsTo_append_rxa key (.ok bytes)
  unfold openStack selected
  dsimp only
  by_cases empty : key = ""
  · rw [List.filter_cons_of_neg (fun fits => selects.mp fits empty), List.filter_nil, List.mergeSort_nil,
      List.filterMap_nil, if_pos empty]
  · rw [List.filter_cons_of_pos (selects.mpr empty), List.filter_nil, List.mergeSort_singleton, if_neg empty]
    have opened : openFile? path ⟨key ++ ".rxa", .ok bytes⟩ = some (.file archive) := by
      unfold openFile?
      dsimp only
      rw [parsed]
      rfl
    rw [List.filterMap_cons_some opened]
    rfl

/-! ## Loading it -/

/-- Of distinct ids, none is left out of the directory. -/
theorem Stack.directory_of_nodup {ids : List UInt16} (distinct : ids.Nodup) :
    directory ids = ids.mergeSort := by
  have sorted : ids.mergeSort.Nodup := (List.mergeSort_perm ids _).nodup_iff.mpr distinct
  rw [directory, eraseReps_eq_destutter]
  exact List.destutter_of_isChain _ _ sorted.isChain

/-- The stack that is loaded from nothing but an archive that packs a manifest. -/
theorem Archive.Packs.ofArchives {archive : Archive} {manifest : StackManifest} (packs : archive.Packs manifest)
    (key : String) : Stack.ofArchives key [.file archive] = .ok
      { key, archives := [.file archive], cardIds := (manifest.cards.map (·.id)).mergeSort,
        variableNames := manifest.variableNames } := by
  unfold Stack.ofArchives Stack.firstNames
  rw [packs.variableNames, List.flatMap_singleton, packs.cardIds, Stack.directory_of_nodup packs.distinct]
  rfl

/-- A card whose bytes are there is read from them. -/
private theorem Stack.loadCard_of_bytes {stack : Stack} {id : UInt16} {data : Bytes}
    (bytes : stack.cardBytes id = .ok data) : stack.loadCard id =
      match CardRecord.decode data with
      | .ok record => .ok record
      | .error cause => .error (.corruptCard stack.key id cause.message) := by
  rw [Stack.loadCard, bytes]
  rfl

/-- A card of the manifest is loaded if its branches lie no deeper than reading goes, and is refused as
corrupt otherwise. -/
theorem Archive.Packs.loadCard {archive : Archive} {manifest : StackManifest} (packs : archive.Packs manifest)
    {stack : Stack} (only : stack.archives = [.file archive]) {card : ManifestCard}
    (among : card ∈ manifest.cards) :
    (card.record.NestsWithin maxNesting → stack.loadCard card.id = .ok card.record) ∧
      (¬ card.record.NestsWithin maxNesting →
        ∃ cause, stack.loadCard card.id = .error (.corruptCard stack.key card.id cause)) := by
  obtain ⟨data, encoded, found⟩ := packs.card? among
  have bytes : stack.cardBytes card.id = .ok data := by
    rw [Stack.cardBytes, only, List.findSome?_cons, found]
  have loads := Stack.loadCard_of_bytes bytes
  have answers := CardRecord.codec.readBy card.record data encoded
  refine ⟨fun fits => ?_, fun deeper => ?_⟩
  · have read := answers.takes fits []
    rw [List.append_nil] at read
    rw [loads, CardRecord.decode, read]
    rfl
  · obtain ⟨cause, refused⟩ := answers.refuses deeper []
    rw [List.append_nil] at refused
    rw [loads, CardRecord.decode, refused]
    exact ⟨cause.message, rfl⟩

/-- A resolver for a data root that holds one file. -/
def Resolver.overFile (path name : String) (octets : Bytes) : Resolver :=
  { provider := .directory path (.ok [⟨name, .ok octets⟩]) }

/-- A resolver that has loaded nothing yet loads what its provider gives. -/
theorem Resolver.resolve_of_empty (provider : Provider) (key : String) :
    (Resolver.resolve { provider } key).1.map (·.stack) = Stack.load provider key := by
  unfold resolve
  have unloaded : loaded? { provider } key = none := rfl
  rw [unloaded]
  dsimp only
  cases Stack.load provider key <;> rfl

/-- Whatever can be packed is found under its key, unless the key is empty, and every card of it is loaded
whose branches lie no deeper than sixteen. Of the others every one is refused as corrupt. -/
theorem StackManifest.resolve_packed (manifest : StackManifest) (bytes : Bytes) (key path : String)
    (packed : manifest.archiveBytes = .ok bytes) :
    let found := ((Resolver.overFile path (key ++ ".rxa") bytes).resolve key).1.map (·.stack)
    (key = "" → found = .error (.stackNotFound key)) ∧
    (key ≠ "" → ∃ stack, found = .ok stack ∧
      stack.cardIds = (manifest.cards.map (·.id)).mergeSort ∧ stack.variableNames = manifest.variableNames ∧
      ∀ card ∈ manifest.cards,
        (card.record.NestsWithin 16 → stack.loadCard card.id = .ok card.record) ∧
        (¬ card.record.NestsWithin 16 →
          ∃ cause, stack.loadCard card.id = .error (.corruptCard key card.id cause))) := by
  obtain ⟨archive, parsed, packs⟩ := Archive.parse_archiveBytes (Provider.join path (key ++ ".rxa")) packed
  have opened := Provider.openStack_single parsed
  dsimp only [Resolver.overFile]
  rw [Resolver.resolve_of_empty, Stack.load, opened]
  refine ⟨fun empty => by rw [if_pos empty]; rfl, fun named => ?_⟩
  rw [if_neg named]
  refine ⟨_, packs.ofArchives key, rfl, rfl, fun card among => ?_⟩
  exact packs.loadCard rfl among

/-- A manifest with a card whose branches lie as deep as reading goes, and one where they lie deeper. -/
def StackManifest.brink : StackManifest :=
  { variableNames := ["door"], cards := [⟨2, .nested 16⟩, ⟨1, .nested 17⟩] }

/-- The sixteenth branch is loaded, and the seventeenth is packed in vain. -/
theorem StackManifest.resolve_packed_brink : ∃ bytes stack, brink.archiveBytes = .ok bytes ∧ "deep" ≠ "" ∧
    ((Resolver.overFile "data" "deep.rxa" bytes).resolve "deep").1.map (·.stack) = .ok stack ∧
    stack.cardIds = [1, 2] ∧ stack.variableNames = ["door"] ∧ stack.loadCard 2 = .ok (.nested 16) ∧
      ∃ cause, stack.loadCard 1 = .error (.corruptCard "deep" 1 cause) := by
  have packs : brink.archiveBytes.toOption.isSome = true := by decide +kernel
  cases packed : brink.archiveBytes with
  | error cause =>
    rw [packed] at packs
    cases packs
  | ok bytes =>
    obtain ⟨-, loads⟩ := StackManifest.resolve_packed brink bytes "deep" "data" packed
    obtain ⟨stack, found, ids, names, cards⟩ := loads (by decide)
    have shallow := (cards _ List.mem_cons_self).1 (CardRecord.nested_nestsWithin_iff.mpr (by decide))
    have deep := (cards _ (List.mem_cons_of_mem _ List.mem_cons_self)).2
      (mt CardRecord.nested_nestsWithin_iff.mp (by decide))
    have sorted : ([2, 1] : List UInt16).mergeSort = [1, 2] := by simp [List.mergeSort]
    exact ⟨bytes, stack, rfl, by decide, found, ids.trans sorted, names, shallow, deep⟩

end Diorama
