/-
# The duplicates of a plan

A plan reports the paths that more than one record has, each of them once, and every path that it
reports stands for a type that the registry lists more than once.  As many paths are reported as
types are listed more than once, if no module is spelled in two ways: a raw name and the same name
without its marker are told apart by their paths, though they come to one module in the registry.
-/

import Mathlib.Data.Finset.Card
import RecordRegistry.Proofs.Generation.Registering
import RecordRegistry.Proofs.Reading.Telling

namespace RecordRegistry

open Rendering (namesOf)

section Repeated

variable {text other : String} {before texts others : List String}

/-- The texts that occur more than once. -/
def repeated (texts : List String) : Finset String :=
  texts.toFinset.filter fun text => 1 < texts.count text

theorem mem_repeated_iff : text ∈ repeated texts ↔ 1 < texts.count text := by
  rw [repeated, Finset.mem_filter, List.mem_toFinset, and_iff_right_iff_imp]
  intro more
  exact List.count_pos_iff.mp (Nat.zero_lt_of_lt more)

theorem repeated_nonempty_iff : (repeated texts).Nonempty ↔ ∃ text, 1 < texts.count text :=
  exists_congr fun _ => mem_repeated_iff

/-- A text that is found behind others has not been found yet, and is there for the second time. -/
theorem mem_duplicates_go_iff : text ∈ duplicates.go before texts ↔
    before.count text ≤ 1 ∧ 1 < before.count text + texts.count text := by
  induction texts generalizing before with
  | nil =>
      simp only [duplicates.go, List.not_mem_nil, List.count_nil, Nat.add_zero, false_iff]
      omega
  | cons first rest ih =>
      by_cases same : text = first
      · subst same
        by_cases once : before.count text = 1
        · simp [duplicates.go, once]
        · simp only [duplicates.go, once, if_false, ih, List.count_cons_self]
          omega
      · have others : (first :: before).count text = before.count text ∧
            (first :: rest).count text = rest.count text := by
          simp [Ne.symm same]
        by_cases once : before.count first = 1 <;>
          simp [duplicates.go, once, ih, same, others]

theorem nodup_duplicates_go (before texts : List String) : (duplicates.go before texts).Nodup := by
  induction texts generalizing before with
  | nil => exact List.nodup_nil
  | cons first rest ih =>
      by_cases once : before.count first = 1
      · have gone : first ∉ duplicates.go (first :: before) rest := by
          rw [mem_duplicates_go_iff, List.count_cons_self, once]
          omega
        simpa [duplicates.go, once] using ⟨gone, ih (first :: before)⟩
      · simpa [duplicates.go, once] using ih (first :: before)

/-- The duplicates are the texts that occur more than once. -/
theorem toFinset_duplicates (texts : List String) :
    (duplicates texts).toFinset = repeated texts := by
  ext text
  rw [List.mem_toFinset, mem_repeated_iff, duplicates, mem_duplicates_go_iff]
  simp

/-- Each of them is there once. -/
theorem length_duplicates (texts : List String) :
    (duplicates texts).length = (repeated texts).card := by
  rw [← toFinset_duplicates]
  exact (List.toFinset_card_of_nodup (nodup_duplicates_go [] texts)).symm

example : duplicates ["a", "b", "c", "b", "b", "a"] = ["b", "a"] := by decide +kernel

variable {relation : String → String → Prop}

/-- Where each text stands for one other text, that text occurs at least as often. -/
theorem count_le_count_of_forall₂ (unique : Relator.RightUnique relation)
    (related : List.Forall₂ relation texts others) (stands : relation text other) :
    texts.count text ≤ others.count other := by
  induction related with
  | nil => exact Nat.le_refl _
  | @cons first second texts others one _ ih =>
      by_cases same : first = text
      · subst same
        rw [unique one stands, List.count_cons_self, List.count_cons_self]
        exact Nat.succ_le_succ ih
      · rw [List.count_cons_of_ne same]
        exact Nat.le_trans ih List.count_le_count_cons

/-- The texts that stand for one text occur as often as that one at most. -/
theorem count_add_count_le_of_forall₂ (unique : Relator.RightUnique relation)
    (related : List.Forall₂ relation texts others) {second : String} (apart : text ≠ second)
    (stands : relation text other) (also : relation second other) :
    texts.count text + texts.count second ≤ others.count other := by
  induction related with
  | nil => exact Nat.le_refl _
  | @cons first image texts others one _ ih =>
      by_cases isFirst : first = text
      · subst isFirst
        rw [unique one stands, List.count_cons_self, List.count_cons_self,
          List.count_cons_of_ne apart]
        omega
      · by_cases isSecond : first = second
        · subst isSecond
          rw [unique one also, List.count_cons_self, List.count_cons_self,
            List.count_cons_of_ne isFirst]
          omega
        · rw [List.count_cons_of_ne isFirst, List.count_cons_of_ne isSecond]
          exact Nat.le_trans ih List.count_le_count_cons

theorem count_eq_count_of_forall₂ (unique : Relator.BiUnique relation)
    (related : List.Forall₂ relation texts others) (stands : relation text other) :
    texts.count text = others.count other :=
  Nat.le_antisymm (count_le_count_of_forall₂ unique.2 related stands)
    (count_le_count_of_forall₂ unique.1.flip related.flip stands)

/-- Texts that stand for each other are duplicates at the same places. -/
theorem forall₂_duplicates_go (unique : Relator.BiUnique relation) {after : List String}
    (related : List.Forall₂ relation texts others) (earlier : List.Forall₂ relation before after) :
    List.Forall₂ relation (duplicates.go before texts) (duplicates.go after others) := by
  induction related generalizing before after with
  | nil => exact .nil
  | cons one _ ih =>
      rw [duplicates.go, duplicates.go, count_eq_count_of_forall₂ unique earlier one]
      split
      · exact .cons one (ih (.cons one earlier))
      · exact ih (.cons one earlier)

end Repeated

variable {package : Path} {entries : List Entry} {types : List String} {text path type : String}
  {name : Name}

/-- A type is listed for an entry under its path. -/
inductive IsListed (package : Path) (entries : List Entry) : String → String → Prop
  | ofEntry (entry : Entry) (type : String) (met : entry ∈ entries)
      (typed : IsTypeText package entry type) : IsListed package entries entry.relativePath type

/-- Two entries with one name are not in one module under two spellings. -/
def SpelledOnce (entries : List Entry) : Prop :=
  ∀ first ∈ entries, ∀ second ∈ entries, first.name = second.name →
    ∀ text ∈ first.module, ∀ other ∈ second.module, SameModule text other → text = other

/-- The names of types are read from source files. -/
def AreNamed (entries : List Entry) : Prop :=
  ∀ entry ∈ entries, Lexer.IsName entry.name.toList

theorem forall₂_isListed (typed : List.Forall₂ (IsTypeText package) entries types) :
    List.Forall₂ (IsListed package entries) (entries.map Entry.relativePath) types := by
  rw [List.forall₂_map_left_iff, List.forall₂_iff_zip] at *
  refine ⟨typed.1, fun {entry type} met => ?_⟩
  exact .ofEntry entry type (List.of_mem_zip met).1 (typed.2 met)

/-- One type is listed for all entries under a path. -/
theorem rightUnique_isListed (named : AreNamed entries) :
    Relator.RightUnique (IsListed package entries) := by
  intro path type again listed alsoListed
  obtain ⟨first, _, met, typed⟩ := listed
  generalize same : first.relativePath = path at alsoListed
  obtain ⟨second, _, also, alsoTyped⟩ := alsoListed
  obtain ⟨module, name⟩ := Entry.eq_of_relativePath (named first met) (named second also) same
  exact typed.unique module name alsoTyped

/-- The entries that a type is listed for are under one path. -/
theorem leftUnique_isListed (packaged : ∀ name ∈ namesOf package, Lexer.IsName name.toList)
    (named : AreNamed entries) (once : SpelledOnce entries) :
    Relator.LeftUnique (IsListed package entries) := by
  rintro path other type ⟨first, _, met, typed⟩ ⟨second, _, also, alsoTyped⟩
  obtain ⟨modular, name, again, read, alsoRead, same⟩ := typed.inj packaged alsoTyped
  have name : first.name = second.name := by
    rw [← Name.spelling_eq_of_parse (named first met) read, same,
      Name.spelling_eq_of_parse (named second also) alsoRead]
  have module : first.module = second.module := by
    have agree := once first met second also name
    generalize first.module = one at modular agree
    generalize second.module = two at modular agree
    cases modular with
    | none => rfl
    | some same => exact congrArg some (agree _ rfl _ rfl same)
  simp only [Entry.relativePath, module, name]

theorem exists_isTypeText (typed : List.Forall₂ (IsTypeText package) entries types) :
    ∀ entry ∈ entries, ∃ type, IsTypeText package entry type :=
  forall_mem_of_forall₂ (fun type _ stands => ⟨type, stands⟩) typed.flip

/-- The type that a duplicate stands for is there more than once. -/
theorem exists_repeated_of_duplicate (named : AreNamed entries)
    (typed : List.Forall₂ (IsTypeText package) entries types) :
    ∀ path ∈ duplicates (entries.map Entry.relativePath),
      ∃ type, IsListed package entries path type ∧ 1 < types.count type := by
  intro path met
  rw [← List.mem_toFinset, toFinset_duplicates, mem_repeated_iff] at met
  obtain ⟨entry, inside, rfl⟩ := List.mem_map.mp (List.count_pos_iff.mp (Nat.zero_lt_of_lt met))
  obtain ⟨type, own⟩ := exists_isTypeText typed entry inside
  have stands : IsListed package entries entry.relativePath type := .ofEntry entry type inside own
  exact ⟨type, stands, Nat.lt_of_lt_of_le met
    (count_le_count_of_forall₂ (rightUnique_isListed named) (forall₂_isListed typed) stands)⟩

/-- Without a module under two spellings, there are as many duplicates as types that are there more
than once. -/
theorem length_duplicates_of_spelledOnce {text : String} (packaged : IsPackage text package)
    (named : AreNamed entries) (typed : List.Forall₂ (IsTypeText package) entries types)
    (once : SpelledOnce entries) :
    (duplicates (entries.map Entry.relativePath)).length = (repeated types).card := by
  have unique : Relator.BiUnique (IsListed package entries) :=
    ⟨leftUnique_isListed packaged.isName_of_mem named once, rightUnique_isListed named⟩
  rw [← length_duplicates]
  exact (forall₂_duplicates_go unique (forall₂_isListed typed) .nil).length_eq

/-- Entries in a module under two spellings have one type, which is there for both of them. -/
theorem exists_repeated_of_not_spelledOnce (named : AreNamed entries)
    (typed : List.Forall₂ (IsTypeText package) entries types) (twice : ¬ SpelledOnce entries) :
    ∃ type, 1 < types.count type := by
  simp only [SpelledOnce, not_forall] at twice
  obtain ⟨first, met, second, also, name, text, own, other, foreign, alike, apart⟩ := twice
  have paths : first.relativePath ≠ second.relativePath := by
    intro same
    obtain ⟨module, -⟩ := Entry.eq_of_relativePath (named first met) (named second also) same
    rw [Option.mem_def.mp own, Option.mem_def.mp foreign] at module
    exact apart (Option.some.inj module)
  have modular : Option.Rel SameModule first.module second.module := by
    rw [Option.mem_def.mp own, Option.mem_def.mp foreign]
    exact .some alike
  obtain ⟨type, stands⟩ := exists_isTypeText typed first met
  obtain ⟨again, alsoStands⟩ := exists_isTypeText typed second also
  obtain rfl : type = again := stands.eq_of_sameModule modular name alsoStands
  have often := count_add_count_le_of_forall₂ (rightUnique_isListed named) (forall₂_isListed typed)
    paths (.ofEntry first type met stands) (.ofEntry second type also alsoStands)
  have held := List.count_pos_iff.mpr (List.mem_map.mpr ⟨first, met, rfl⟩ :
    first.relativePath ∈ entries.map Entry.relativePath)
  have alsoHeld := List.count_pos_iff.mpr (List.mem_map.mpr ⟨second, also, rfl⟩ :
    second.relativePath ∈ entries.map Entry.relativePath)
  exact ⟨type, by omega⟩

namespace Package

variable {files : FileSystem} {here : Location} {directory : FilePath} {exclude : Option FilePath}
  {package : Package}

/-- The files of a scanned package have names that are text, and so is what they hold. -/
theorem exists_source_of_scan (scanned : scan files here directory exclude = .ok package)
    {unit : SourceUnit} (met : unit ∈ package.units) :
    ∃ stem text, unit.path.stem?.bind Utf8.decode? = some stem ∧ unit.module = moduleOf stem ∧
      SourceFile.parse text = .ok unit.source := by
  obtain ⟨location, mode, -, -, rfl⟩ := scan_eq_ok_iff.mp scanned
  obtain ⟨name, -, visited⟩ := List.mem_filterMap.mp met
  have source : visit files here directory location (exclude.bind (files.target? here)) name =
      .source unit := by
    unfold Visit.unit? at visited
    split at visited
    · next same => rw [same, Option.some.inj visited]
    · contradiction
  obtain ⟨stem, _, _, _, text, found, named, -, -, read, same⟩ :=
    readUnit_eq_ok_iff.mp (readUnit_of_visit source).2
  have held : unit.source = found := congrArg SourceUnit.source same
  exact ⟨stem, text, named, congrArg SourceUnit.module same, held ▸ read⟩

/-- The declarations of a scanned file have the names that are read in it, and these are not
reserved. -/
theorem isTypeName_of_mem_declarations (scanned : scan files here directory exclude = .ok package)
    {unit : SourceUnit} (listed : unit ∈ package.units) {declaration : Declaration}
    (met : declaration ∈ unit.declarations) :
    Lexer.IsName declaration.name.toList ∧ isReserved declaration.name = false := by
  obtain ⟨stem, text, -, -, read⟩ := exists_source_of_scan scanned listed
  obtain ⟨item, among, declares⟩ := List.mem_filterMap.mp met
  obtain ⟨⟨own, shape⟩, declared, rfl⟩ := Option.map_eq_some_iff.mp declares
  exact SourceFile.isTypeName_of_parse read among declared

end Package

namespace Generator

variable {generator : Generator} {files : FileSystem} {here : Location} {plan : Plan}

theorem duplicates_of_plan (planned : generator.plan files here = .ok plan) :
    plan.duplicates = duplicates (plan.entries.map Entry.relativePath) := by
  obtain ⟨found, -, rfl⟩ := plan_eq_ok_iff.mp planned
  rfl

theorem areNamed_of_plan (planned : generator.plan files here = .ok plan) :
    AreNamed plan.entries := by
  obtain ⟨found, scanned, rfl⟩ := plan_eq_ok_iff.mp planned
  intro entry met
  obtain ⟨declaration, inside, rfl⟩ := List.mem_map.mp (List.mem_of_mem_filter met)
  obtain ⟨unit, listed, declared⟩ := List.mem_flatMap.mp inside
  exact (Package.isTypeName_of_mem_declarations scanned listed declared).1

theorem selected_of_plan (planned : generator.plan files here = .ok plan) :
    plan.entries.filter Entry.selected = plan.entries := by
  obtain ⟨found, -, rfl⟩ := plan_eq_ok_iff.mp planned
  exact List.filter_eq_self.mpr fun entry met => (List.mem_filter.mp met).2

/-- The registry for a plan lists, entry by entry, the types that the duplicates are about. -/
theorem exists_listed_of_render (packaged : IsPackage generator.naming.package package)
    (planned : generator.plan files here = .ok plan)
    (rendered : generator.render files here = .ok text) :
    ∃ collection types, Name.parse generator.naming.collection = .ok collection ∧
      readRegistry text collection.spelling = some types ∧
      List.Forall₂ (IsTypeText package) plan.entries types := by
  obtain ⟨same, prepared⟩ := render_eq_ok_iff.mp rendered
  obtain ⟨again, written⟩ := prepare_eq_ok_iff.mp prepared
  obtain rfl : same = plan := Except.ok.inj (again.symm.trans planned)
  have listed := exists_typeTexts_of_renderRegistry packaged written
  rwa [selected_of_plan planned] at listed

/-- What a plan reports as a duplicate is listed more than once in the registry.  As many paths are
reported as types are listed more than once, unless a module is spelled in two ways; so a type is
listed more than once exactly if the plan reports something or a module is spelled in two ways. -/
theorem duplicates_of_render (packaged : IsPackage generator.naming.package package)
    (planned : generator.plan files here = .ok plan)
    (rendered : generator.render files here = .ok text) :
    ∃ collection types, Name.parse generator.naming.collection = .ok collection ∧
      readRegistry text collection.spelling = some types ∧
      (∀ path ∈ plan.duplicates, ∃ type, IsListed package plan.entries path type ∧
        1 < types.count type) ∧
      (SpelledOnce plan.entries → plan.duplicates.length = (repeated types).card) ∧
      ((∃ type, 1 < types.count type) ↔ plan.duplicates ≠ [] ∨ ¬ SpelledOnce plan.entries) := by
  obtain ⟨collection, types, read, listed, typed⟩ :=
    exists_listed_of_render packaged planned rendered
  have named := areNamed_of_plan planned
  have sound := exists_repeated_of_duplicate named typed
  have count := length_duplicates_of_spelledOnce packaged named typed
  rw [← duplicates_of_plan planned] at sound count
  refine ⟨collection, types, read, listed, sound, count, ?_⟩
  by_cases once : SpelledOnce plan.entries
  · rw [← repeated_nonempty_iff, ← Finset.card_pos, ← count once, List.length_pos_iff]
    simp [once]
  · simpa [once] using exists_repeated_of_not_spelledOnce named typed once

/-- A file system with one source file, which declares two records of one name. -/
def twiceFiles : FileSystem :=
  (FileSystem.empty.put [smallNames.1] (.directory directoryMode)).put [smallNames.2, smallNames.1]
    (.file plainMode (Utf8.encode "struct Book;\nstruct Book;\n"))

/-- The entry of a book. -/
def bookEntry (module : String) : Entry := ⟨"Book", some module, true⟩

theorem exists_prepare_twiceFiles :
    ∃ plan text, smallGenerator.prepare twiceFiles [] = .ok (plan, text) ∧
      plan.entries = [bookEntry "book", bookEntry "book"] := by
  have found : twiceFiles.find [] smallGenerator.source =
      .ok ([smallNames.1], .directory directoryMode) := by
    decide +kernel
  have listed : twiceFiles.names [smallNames.1] = [smallNames.2] := by decide +kernel
  obtain ⟨plan, text, prepared, entries⟩ := exists_prepare_of_sorted found listed
    (List.pairwise_singleton _ _) (by decide +kernel) (by decide +kernel)
  refine ⟨plan, text, prepared, entries.trans ?_⟩
  decide +kernel

/-- The record is reported, and no other type is listed more than once. -/
theorem duplicates_of_render_twiceFiles :
    ∃ package plan text, IsPackage smallGenerator.naming.package package ∧
      smallGenerator.plan twiceFiles [] = .ok plan ∧
      smallGenerator.render twiceFiles [] = .ok text ∧
      SpelledOnce plan.entries ∧ plan.duplicates = ["book::Book"] ∧
      ∃ collection types, Name.parse smallGenerator.naming.collection = .ok collection ∧
        readRegistry text collection.spelling = some types ∧
        (∃ type, IsListed package plan.entries "book::Book" type ∧ 1 < types.count type) ∧
        (repeated types).card = 1 := by
  obtain ⟨package, packaged⟩ := exists_isPackage_default
  obtain ⟨plan, text, prepared, entries⟩ := exists_prepare_twiceFiles
  have planned := (prepare_eq_ok_iff.mp prepared).1
  have rendered := render_eq_ok_iff.mpr ⟨plan, prepared⟩
  have once : SpelledOnce plan.entries := by simp [SpelledOnce, entries, bookEntry]
  have reported : plan.duplicates = ["book::Book"] := by
    rw [duplicates_of_plan planned, entries]
    decide +kernel
  obtain ⟨collection, types, read, listed, sound, count, -⟩ :=
    duplicates_of_render packaged planned rendered
  refine ⟨package, plan, text, packaged, planned, rendered, once, reported, collection, types, read,
    listed, sound _ (by simp [reported]), ?_⟩
  rw [← count once, reported, List.length_singleton]

/-- A module whose name is reserved has the types of the module with its raw name. -/
theorem isTypeText_raw (refused : ∀ name, Name.parse text ≠ .ok name)
    (typed : IsTypeText package (bookEntry text) type) :
    IsTypeText package (bookEntry ("r#" ++ text)) type := by
  obtain ⟨modules, name, moduled, read, same⟩ := typed
  obtain _ | ⟨named, ⟨⟩⟩ := moduled
  have raw : Name.parse ("r#" ++ text) = .ok _ :=
    (named.resolve_left fun read => refused _ read).2
  exact ⟨_, name, .cons (.inl raw) .nil, read, same⟩

/-- The names of two files, one of them with the marker of a raw name. -/
def spelledNames : Bytes × Bytes := (Utf8.encode "r#type.rs", Utf8.encode "type.rs")

/-- A file system with both files, each of which declares one record of the same name. -/
def spelledFiles : FileSystem :=
  ((FileSystem.empty.put [smallNames.1] (.directory directoryMode)).put
    [spelledNames.2, smallNames.1]
    (.file plainMode (Utf8.encode "struct Book;\n"))).put [spelledNames.1, smallNames.1]
      (.file plainMode (Utf8.encode "struct Book;\n"))

theorem exists_prepare_spelledFiles :
    ∃ plan text, smallGenerator.prepare spelledFiles [] = .ok (plan, text) ∧
      plan.entries = [bookEntry "r#type", bookEntry "type"] := by
  have found : spelledFiles.find [] smallGenerator.source =
      .ok ([smallNames.1], .directory directoryMode) := by
    decide +kernel
  have listed : spelledFiles.names [smallNames.1] = [spelledNames.1, spelledNames.2] := by
    decide +kernel
  obtain ⟨plan, text, prepared, entries⟩ := exists_prepare_of_sorted found listed
    (by decide +kernel) (by decide +kernel) (by decide +kernel)
  refine ⟨plan, text, prepared, entries.trans ?_⟩
  decide +kernel

/-- Nothing is reported for these files, though the registry lists one type twice. -/
theorem unreported_of_render_spelledFiles :
    ∃ package plan text, IsPackage smallGenerator.naming.package package ∧
      smallGenerator.plan spelledFiles [] = .ok plan ∧
      smallGenerator.render spelledFiles [] = .ok text ∧
      plan.duplicates = [] ∧
      ∃ collection types, Name.parse smallGenerator.naming.collection = .ok collection ∧
        readRegistry text collection.spelling = some types ∧
        ∃ type, 1 < types.count type := by
  obtain ⟨package, packaged⟩ := exists_isPackage_default
  obtain ⟨plan, text, prepared, entries⟩ := exists_prepare_spelledFiles
  have planned := (prepare_eq_ok_iff.mp prepared).1
  have rendered := render_eq_ok_iff.mpr ⟨plan, prepared⟩
  have reported : plan.duplicates = [] := by
    rw [duplicates_of_plan planned, entries]
    decide +kernel
  obtain ⟨collection, types, read, listed, typed⟩ :=
    exists_listed_of_render packaged planned rendered
  refine ⟨package, plan, text, packaged, planned, rendered, reported, collection, types, read,
    listed, ?_⟩
  rw [entries] at typed
  obtain _ | @⟨_, type, _, _, first, _ | ⟨second, ⟨⟩⟩⟩ := typed
  have refused : ∀ name, Name.parse "type" ≠ .ok name := by
    have failed : (Name.parse "type").isOk = false := by decide +kernel
    intro name success
    rw [success] at failed
    cases failed
  have same := (isTypeText_raw refused second).unique rfl rfl first
  exact ⟨type, by simp [same]⟩

end Generator

end RecordRegistry
