/-
# What a run registers

The registry that a run leaves behind lists the records of the scanned files and nothing else: file
by file in the order of the names, and within a file in the order of its text, under the package,
the module of the file and the name as it is written there.  Anyone who reads the output sees that
list, however the output is reached.
-/

import RecordRegistry.Proofs.File.Overwriting
import RecordRegistry.Proofs.Generation.Entries
import RecordRegistry.Proofs.Reading.Registry
import RecordRegistry.Proofs.Text.Utf8
import RecordRegistry.Proofs.Token.Cutting

namespace RecordRegistry

open Rendering (namesOf)

/-- A text that is a name as a whole is one token. -/
theorem Lexer.tokenTrees_of_isName {text : List Char} (named : IsName text) :
    ∃ position, tokenTrees text = .ok [.name (String.ofList text) position] := by
  have cuts := cuts_nil.name named ends_nil Position.start
  have plain : (text ++ []).head? ≠ some '\ufeff' := by
    obtain ⟨first, more, same, starts⟩ := named.eq_cons
    have mark : isIdentifierStart '\ufeff' = false := by decide +kernel
    rw [same]
    intro begins
    obtain rfl : first = '\ufeff' := Option.some.inj begins
    simp [mark] at starts
  obtain ⟨others, cut, alike⟩ := @tokenTrees_of_cuts _ []
    [.name (String.ofList text) Position.start] cuts plain
  simp only [List.nil_append, TokenTree.allLike_cons_iff, TokenTree.like_name_iff,
    TokenTree.allLike_nil_iff] at alike
  obtain ⟨-, -, rfl, ⟨position, rfl⟩, rfl⟩ := alike
  exact ⟨position, by simpa using cut⟩

/-- A text that is a name as a whole reads as that name. -/
theorem Name.spelling_eq_of_parse {text : String} {name : Name}
    (named : Lexer.IsName text.toList) (read : Name.parse text = .ok name) :
    name.spelling = text := by
  obtain ⟨position, cut⟩ := Lexer.tokenTrees_of_isName named
  obtain ⟨trees, found, again, yields⟩ := Name.parse_eq_ok_iff.mp read
  obtain rfl := Except.ok.inj (again.symm.trans cut)
  obtain ⟨stream, run, -⟩ := Parser.runWithin_eq_ok_iff.mp yields
  obtain ⟨-, rfl⟩ := Parser.eq_of_run_identifier run
  exact String.ofList_toList

/-- A text that is a name as a whole can be read, unless the name is reserved. -/
theorem Name.exists_parse_of_isName {text : String} (named : Lexer.IsName text.toList)
    (free : isReserved text = false) : ∃ name, Name.parse text = .ok name := by
  obtain ⟨position, cut⟩ := Lexer.tokenTrees_of_isName named
  rw [String.ofList_toList] at cut
  exact ⟨_, Name.parse_eq_ok_iff.mpr ⟨_, [], cut,
    Parser.runWithin_eq_ok_iff.mpr ⟨_, Parser.run_identifier free, rfl, rfl, rfl⟩⟩⟩

/-- The name of the record that an item declares, if it declares one: of a struct without
parameters whose fields have names, or that has no fields. -/
def Item.record? : Item → Option Name
  | .struct name 0 .named | .struct name 0 .unit => some name
  | _ => none

/-- The records of a source file, in the order of the text, each with the module of the file. -/
def SourceUnit.records (unit : SourceUnit) : List (Option String × Name) :=
  unit.source.items.filterMap fun item => item.record?.map (unit.module, ·)

/-- The type of a record as a registry lists it: the names of the package, of the module if there is
one, and of the record, with colons between them. -/
def IsRecordText (package : Path) (record : Option String × Name) (type : String) : Prop :=
  ∃ modules, List.Forall₂ IsModuleName record.1.toList modules ∧
    type = (if package.rooted then "::" else "") ++
      "::".intercalate (namesOf package ++ (modules.map Name.spelling ++ [record.2.spelling]))

/-- No type is declared inside the attributes of the file itself. -/
def SourceFile.IsBare (source : SourceFile) : Prop :=
  ∀ item ∈ source.inAttributes, item.declared? = none

/-- The entry of a record. -/
def recordEntry (record : Option String × Name) : Entry := ⟨record.2.spelling, record.1, true⟩

theorem Item.filter_entry_eq (item : Item) (file : String) (module : Option String) :
    ((item.declared?.map fun (name, shape) => Declaration.entry
      ⟨name.spelling, module, shape, ⟨file, name.position⟩⟩).filter Entry.selected) =
      item.record?.map fun name => recordEntry (module, name) := by
  cases item with
  | struct name parameters fields =>
      cases parameters <;> cases fields <;> rfl
  | _ => rfl

theorem Item.declared?_of_record? {item : Item} {name : Name} (record : item.record? = some name) :
    item.declared? = some (name, .record) := by
  cases item with
  | struct declared parameters fields =>
      cases parameters <;> cases fields <;> cases record <;> rfl
  | _ => cases record

/-- The selected entries of a file are those of its records. -/
theorem SourceUnit.selectedEntries_declarations {unit : SourceUnit} (bare : unit.source.IsBare) :
    selectedEntries unit.declarations = unit.records.map recordEntry := by
  have hidden : (unit.source.inAttributes.filterMap fun item => item.declared?.map
      fun (name, shape) => (⟨name.spelling, unit.module, shape, ⟨unit.fileName, name.position⟩⟩ :
        Declaration)) = [] := by
    rw [List.filterMap_eq_nil_iff]
    intro item met
    rw [bare item met]
    rfl
  rw [selectedEntries, entries, declarations, SourceFile.declarations, List.filterMap_append, hidden,
    List.nil_append, List.map_filterMap, List.filter_filterMap, records, List.map_filterMap]
  refine List.filterMap_congr fun item _ => ?_
  simpa [Option.map_map, Function.comp_def] using item.filter_entry_eq unit.fileName unit.module

theorem Package.selectedEntries_declarations {package : Package}
    (bare : ∀ unit ∈ package.units, unit.source.IsBare) :
    selectedEntries package.declarations =
      (package.units.flatMap SourceUnit.records).map recordEntry := by
  obtain ⟨directory, units⟩ := package
  simp only [declarations] at bare ⊢
  induction units with
  | nil => rfl
  | cons unit units ih =>
      rw [List.forall_mem_cons] at bare
      have first := SourceUnit.selectedEntries_declarations bare.1
      have onward := ih bare.2
      simp only [selectedEntries, entries, List.flatMap_cons, List.map_append, List.filter_append]
        at first onward ⊢
      rw [first, onward]

/-- Records are listed under the names that they are declared with. -/
theorem isRecordText_of_isTypeText {package : Path} {record : Option String × Name} {type : String}
    (named : Lexer.IsName record.2.spelling.toList)
    (typed : IsTypeText package (recordEntry record) type) : IsRecordText package record type := by
  obtain ⟨modules, name, moduled, read, rfl⟩ := typed
  have same : name.spelling = record.2.spelling := Name.spelling_eq_of_parse named read
  exact ⟨modules, moduled, by simp [same]⟩

/-- The records of a unit have names. -/
theorem isName_of_mem_records {files : FileSystem} {here location : Location} {directory : FilePath}
    {excluded : Option Location} {name : Bytes} {unit : SourceUnit}
    (isUnit : Package.IsUnit files here directory location excluded name unit)
    {record : Option String × Name} (met : record ∈ unit.records) :
    Lexer.IsName record.2.spelling.toList := by
  obtain ⟨stem, content, module, text, source, -, -, -, read, rfl⟩ := isUnit
  obtain ⟨item, inside, declares⟩ := List.mem_filterMap.mp met
  obtain ⟨declared, isRecord, rfl⟩ := Option.map_eq_some_iff.mp declares
  exact SourceFile.isName_of_parse read (List.mem_append_right _ inside)
    (Item.declared?_of_record? isRecord)

/-- What is rendered for the records of some units lists these records. -/
theorem exists_types_of_renderRegistry {naming : Naming} {records : List (Option String × Name)}
    {package : Path} {collection : Name} {text : String}
    (packaged : IsPackage naming.package package)
    (named : Name.parse naming.collection = .ok collection)
    (names : ∀ record ∈ records, Lexer.IsName record.2.spelling.toList)
    (rendered : renderRegistry naming (records.map recordEntry) = .ok text) :
    ∃ types, List.Forall₂ (IsRecordText package) records types ∧
      readRegistry text collection.spelling = some types := by
  obtain ⟨same, types, again, read, typed⟩ := exists_typeTexts_of_renderRegistry packaged rendered
  obtain rfl : same = collection := Except.ok.inj (again.symm.trans named)
  refine ⟨types, ?_, read⟩
  have all : (records.map recordEntry).filter Entry.selected = records.map recordEntry :=
    List.filter_eq_self.mpr (List.forall_mem_map.mpr fun _ _ => rfl)
  rw [all, List.forall₂_map_left_iff] at typed
  rw [List.forall₂_iff_zip] at *
  refine ⟨typed.1, fun {record type} met => ?_⟩
  exact isRecordText_of_isTypeText (names record (List.of_mem_zip met).1) (typed.2 met)

namespace Generator

open FileSystem

variable {generator : Generator} {files changed : FileSystem} {here : Location} {report : Report}
  {package : Path} {collection : Name}

/-- Whoever reads the output of a run that has succeeded sees a registry with exactly the records of
the sources, in the order of the files and of their text.  The output can be read if its directory
is still reached, and so it is unless the output has taken the place of a link. -/
theorem registry_of_run (tree : files.IsTree) (packaged : IsPackage generator.naming.package package)
    (named : Name.parse generator.naming.collection = .ok collection)
    (bare : ∀ location mode name unit,
      files.find here generator.source = .ok (location, .directory mode) →
      Package.IsUnit files here generator.source location (files.target? here generator.output) name
        unit → unit.source.IsBare)
    (success : generator.run files here = (changed, .ok report)) :
    ∃ location mode units types,
      files.find here generator.source = .ok (location, .directory mode) ∧
      Package.ListsUnits files here generator.source location
        (files.target? here generator.output) units ∧
      List.Forall₂ (IsRecordText package) (units.flatMap SourceUnit.records) types ∧
      (∀ bytes, changed.read here generator.output = .ok bytes →
        ∃ text, Utf8.decode? bytes = some text ∧
          readRegistry text collection.spelling = some types) ∧
      ((∃ place mode,
            changed.find here generator.output.directory = .ok (place, .directory mode)) ∨
          (∀ place target, files.node? place = some (.link target) →
            changed.node? place = some (.link target)) →
        ∃ bytes, changed.read here generator.output = .ok bytes) := by
  obtain ⟨plan, text, outcome, prepared, replaced, -⟩ := run_eq_ok_iff.mp success
  obtain ⟨planned, rendered⟩ := prepare_eq_ok_iff.mp prepared
  obtain ⟨⟨directory, units⟩, scanned, rfl⟩ := plan_eq_ok_iff.mp planned
  obtain ⟨location, mode, found, -⟩ := Package.scan_eq_ok_iff.mp scanned
  obtain ⟨rfl, listed⟩ := Package.listsUnits_of_scan tree found scanned
  have isUnit : ∀ unit ∈ units, ∃ name, Package.IsUnit files here generator.source location
      (files.target? here generator.output) name unit := by
    obtain ⟨names, -, -, related⟩ := listed
    exact forall_mem_of_forall₂ (fun name _ isUnit => ⟨name, isUnit⟩) related
  -- The plan has the entries of the records, and they are what has been rendered.
  have selected : selectedEntries (Package.mk generator.source units).declarations =
      (units.flatMap SourceUnit.records).map recordEntry := by
    refine Package.selectedEntries_declarations fun unit met => ?_
    obtain ⟨name, is⟩ := isUnit unit met
    exact bare location mode name unit found is
  have names : ∀ record ∈ units.flatMap SourceUnit.records,
      Lexer.IsName record.2.spelling.toList := by
    intro record met
    obtain ⟨unit, listed, inside⟩ := List.mem_flatMap.mp met
    obtain ⟨name, is⟩ := isUnit unit listed
    exact isName_of_mem_records is inside
  obtain ⟨types, typed, read⟩ := exists_types_of_renderRegistry packaged named names (by
    rw [← selected]
    exact rendered)
  have readable := Replacement.readable_of_run replaced
  refine ⟨location, mode, units, types, found, listed, typed, fun bytes held => ?_, ?_⟩
  · obtain rfl := readable.only bytes held
    exact ⟨text, Utf8.decode?_encode text, read⟩
  · rintro (⟨place, mode, reached⟩ | kept)
    · exact ⟨_, readable.inDirectory place mode reached⟩
    · exact ⟨_, readable.besideLinks kept⟩

/-- In a directory with one entry, what is said of the unit of this entry is said of all units. -/
theorem isBare_of_single {source : Location} {held : Nat} {name : Bytes} (tree : files.IsTree)
    (found : files.find here generator.source = .ok (source, .directory held))
    (listed : files.names source = [name])
    (bare : ∀ unit ∈ (Package.visit files here generator.source source
      (files.target? here generator.output) name).unit?, unit.source.inAttributes = [])
    (location : Location) (mode : Nat) (other : Bytes) (unit : SourceUnit)
    (again : files.find here generator.source = .ok (location, .directory mode))
    (isUnit : Package.IsUnit files here generator.source location
      (files.target? here generator.output) other unit) : unit.source.IsBare := by
  obtain rfl : source = location := by
    rw [found] at again
    exact (Prod.mk.inj (Except.ok.inj again)).1
  have isListed : other ∈ files.names source := by
    obtain ⟨_, _, _, _, _, isSource, -⟩ := isUnit
    exact isSource.listed
  have proper := tree.named other source (mem_names.mp isListed)
  have visited := (Package.unit?_visit_eq_some_iff found proper).mpr isUnit
  rw [listed, List.mem_singleton] at isListed
  subst isListed
  intro item met
  rw [bare unit visited] at met
  cases met

/-- The names that are used if none are given can be read. -/
theorem readable_default : (Path.parse Naming.default.package).toOption.any Path.isPackage = true ∧
    (Name.parse Naming.default.collection).isOk = true := by
  decide +kernel

theorem exists_isPackage_default :
    ∃ package, IsPackage Naming.default.package package :=
  exists_isPackage readable_default.1

theorem exists_collection_default :
    ∃ collection, Name.parse Naming.default.collection = .ok collection :=
  exists_eq_ok_of_isOk readable_default.2

theorem notLink_smallFiles (place : Location) (target : FilePath) :
    smallFiles.node? place ≠ some (.link target) := by
  intro isLink
  rw [smallFiles, node?_put (List.cons_ne_nil _ _), node?_put (List.cons_ne_nil _ _)] at isLink
  split at isLink
  · cases isLink
  · split at isLink
    · cases isLink
    · simp at isLink

/-- The registry of the small package, in its new directory. -/
theorem registry_of_run_smallGenerator :
    smallFiles.IsTree ∧ ∃ package collection changed report,
      IsPackage smallGenerator.naming.package package ∧
      Name.parse smallGenerator.naming.collection = .ok collection ∧
      (∀ location mode name unit,
        smallFiles.find [] smallGenerator.source = .ok (location, .directory mode) →
        Package.IsUnit smallFiles [] smallGenerator.source location
          (smallFiles.target? [] smallGenerator.output) name unit → unit.source.IsBare) ∧
      smallGenerator.run smallFiles [] = (changed, .ok report) ∧
      ∃ location mode units types,
        smallFiles.find [] smallGenerator.source = .ok (location, .directory mode) ∧
        Package.ListsUnits smallFiles [] smallGenerator.source location
          (smallFiles.target? [] smallGenerator.output) units ∧
        List.Forall₂ (IsRecordText package) (units.flatMap SourceUnit.records) types ∧
        ∃ bytes text, changed.read [] smallGenerator.output = .ok bytes ∧
          Utf8.decode? bytes = some text ∧ readRegistry text collection.spelling = some types := by
  obtain ⟨package, packaged⟩ := exists_isPackage_default
  obtain ⟨collection, named⟩ := exists_collection_default
  obtain ⟨plan, text, prepared⟩ := exists_prepare_smallGenerator
  have success := run_eq_ok_iff.mpr
    ⟨plan, text, .written, prepared, run_smallOutput (Utf8.encode text), rfl⟩
  have bare := isBare_of_single isTree_smallFiles find_smallFiles names_smallFiles
    (by decide +kernel)
  obtain ⟨location, mode, units, types, found, listed, typed, only, readable⟩ :=
    registry_of_run isTree_smallFiles packaged named bare success
  obtain ⟨bytes, held⟩ :=
    readable (.inr fun place target isLink => absurd isLink (notLink_smallFiles place target))
  obtain ⟨text, decoded, read⟩ := only bytes held
  exact ⟨isTree_smallFiles, package, collection, _, _, packaged, named, bare, success, location,
    mode, units, types, found, listed, typed, bytes, text, held, decoded, read⟩

/-- The small package beside a link to the directory that all is in. -/
def linkFiles : FileSystem := smallFiles.put [Utf8.encode "l"] (.link (.ofString "."))

/-- A generator whose output is that link, under a path that leads through the link. -/
def linkGenerator : Generator := { smallGenerator with output := .ofString "l/l" }

theorem run_linkOutput (content : Bytes) :
    (Replacement.mk [] linkGenerator.output content).run linkFiles =
      (linkFiles.put [Utf8.encode "l"] (.file directoryMode content), .ok .written) := by
  cbv

theorem read_linkOutput (content : Bytes) :
    (linkFiles.put [Utf8.encode "l"] (.file directoryMode content)).read [] linkGenerator.output =
      .error .notDirectory := by
  cbv

theorem isTree_linkFiles : linkFiles.IsTree := by
  have proper : IsFileName (Utf8.encode "l") := by decide
  exact isTree_smallFiles.put proper holdsDirectory_nil
    (.inr (isTree_smallFiles.nothing_below (by decide)))

/-- A run that succeeds may put the registry where it cannot be read, if its path leads through the
link that it takes the place of. -/
theorem unreadable_of_run_linkGenerator :
    linkFiles.IsTree ∧
      (∃ package, IsPackage linkGenerator.naming.package package) ∧
      (∃ collection, Name.parse linkGenerator.naming.collection = .ok collection) ∧
      (∀ location mode name unit,
        linkFiles.find [] linkGenerator.source = .ok (location, .directory mode) →
        Package.IsUnit linkFiles [] linkGenerator.source location
          (linkFiles.target? [] linkGenerator.output) name unit → unit.source.IsBare) ∧
      ∃ changed report, linkGenerator.run linkFiles [] = (changed, .ok report) ∧
        changed.read [] linkGenerator.output = .error .notDirectory := by
  have found : linkFiles.find [] linkGenerator.source =
      .ok ([smallNames.1], .directory directoryMode) := by
    decide +kernel
  have listed : linkFiles.names [smallNames.1] = [smallNames.2] := by decide +kernel
  obtain ⟨plan, text, prepared⟩ :=
    exists_prepare_of_single found listed (by decide +kernel) (by decide +kernel)
  have success := run_eq_ok_iff.mpr
    ⟨plan, text, .written, prepared, run_linkOutput (Utf8.encode text), rfl⟩
  exact ⟨isTree_linkFiles, exists_isPackage_default, exists_collection_default,
    isBare_of_single isTree_linkFiles found listed (by decide +kernel), _, _, success,
    read_linkOutput _⟩

end Generator

end RecordRegistry
