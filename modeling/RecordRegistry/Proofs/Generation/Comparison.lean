/-
# What a comparison tells

A comparison with a registry that is out of date tells two lists of types: those on disk and those
that a new registry would have.  Both are read from text, by the name of the function as it has been
given.  They are the types of the entries as long as that name is given the way it is spelled: what
is accepted as a name may have blanks around it, and under such a name no function is found.
-/

import RecordRegistry.Proofs.Generation.Duplicates

namespace RecordRegistry

open Rendering (namesOf)

variable {package : Path} {naming : Naming} {entries : List Entry} {types : List String}

/-- What is told of a registry for some entries: the types of these, if the name of the function is
given as it is spelled, and no types otherwise. -/
def IsTold (package : Path) (naming : Naming) (collection : Name) (entries : List Entry)
    (types : List String) : Prop :=
  if collection.spelling = naming.collection then List.Forall₂ (IsTypeText package) entries types
  else types = []

theorem IsTold.typed {collection : Name} (told : IsTold package naming collection entries types)
    (spelled : collection.spelling = naming.collection) :
    List.Forall₂ (IsTypeText package) entries types := by
  rwa [IsTold, if_pos spelled] at told

theorem IsTold.eq_nil {collection : Name} (told : IsTold package naming collection entries types)
    (other : collection.spelling ≠ naming.collection) : types = [] := by
  rwa [IsTold, if_neg other] at told

/-- A registry is found under no other name than that of its function. -/
theorem readRegistry_of_other {code name : String} {function : Name} {body : List Statement}
    (parsed : SourceFile.parse code = .ok ⟨[], [.function function body]⟩)
    (other : function.spelling ≠ name) : readRegistry code name = none := by
  simp [readRegistry, parsed, Except.toOption, SourceFile.functionBody?, other]

example : readRegistry "fn others() \x7b vec![] \x7d" "models" = none := by decide +kernel

namespace Generator

variable {generator earlier : Generator} {files before changed : FileSystem} {here there : Location}
  {plan : Plan} {report : Report} {text : String} {bytes : Bytes} {onDisk expected : List String}

theorem check_eq_stale_iff :
    generator.check files here = .ok (.stale onDisk expected) ↔
      ∃ text bytes, generator.render files here = .ok text ∧
        files.read here generator.output = .ok bytes ∧ bytes ≠ Utf8.encode text ∧
        onDisk = generator.listed (Utf8.decodeLossy bytes) ∧ expected = generator.listed text := by
  unfold check
  cases rendered : generator.render files here with
  | error error => simp
  | ok text =>
      cases held : files.read here generator.output with
      | error fault => cases fault <;> simp
      | ok bytes =>
          by_cases same : bytes = Utf8.encode text
          · simp [same]
          · simp [same, eq_comm]

/-- What is read from a registry under the name that was given for it. -/
theorem isTold_of_renderRegistry (packaged : IsPackage generator.naming.package package)
    (rendered : renderRegistry generator.naming entries = .ok text) :
    ∃ collection, Name.parse generator.naming.collection = .ok collection ∧
      IsTold package generator.naming collection (entries.filter Entry.selected)
        (generator.listed text) := by
  obtain ⟨collection, paths, named, written, typed⟩ :=
    exists_paths_of_renderRegistry packaged rendered
  have plain := forall_mem_of_forall₂ (fun _ _ typed => typed.1) typed
  have readable := forall_mem_of_forall₂ (fun _ _ typed => typed.2.1) typed
  obtain ⟨⟨position, body, parsed⟩, read⟩ := readRegistry_document named plain readable written
  refine ⟨collection, named, ?_⟩
  unfold IsTold listed
  split
  · next same =>
      rw [← same, read, Option.getD_some, List.forall₂_map_right_iff]
      exact typed.imp fun _ _ typed => typed.2.2
  · next other => rw [readRegistry_of_other parsed other, Option.getD_none]

theorem isTold_of_prepare (packaged : IsPackage generator.naming.package package)
    (prepared : generator.prepare files here = .ok (plan, text)) :
    ∃ collection, Name.parse generator.naming.collection = .ok collection ∧
      IsTold package generator.naming collection plan.entries (generator.listed text) := by
  obtain ⟨planned, rendered⟩ := prepare_eq_ok_iff.mp prepared
  have told := isTold_of_renderRegistry packaged rendered
  rwa [selected_of_plan planned] at told

/-- The bytes are the output of a run that has come to the report: those of the text that it has
rendered. -/
def HasWritten (generator : Generator) (files : FileSystem) (here : Location) (report : Report)
    (bytes : Bytes) : Prop :=
  ∃ changed text, generator.run files here = (changed, .ok report) ∧
    generator.render files here = .ok text ∧ bytes = Utf8.encode text

/-- What is read from the output of a run. -/
theorem HasWritten.isTold (written : earlier.HasWritten before there report bytes)
    (packaged : IsPackage generator.naming.package package)
    (same : earlier.naming = generator.naming) :
    ∃ collection, Name.parse generator.naming.collection = .ok collection ∧
      IsTold package generator.naming collection report.entries
        (generator.listed (Utf8.decodeLossy bytes)) := by
  obtain ⟨changed, text, success, rendered, rfl⟩ := written
  obtain ⟨plan, other, outcome, prepared, -, rfl⟩ := run_eq_ok_iff.mp success
  obtain rfl : other = text :=
    Except.ok.inj ((render_eq_ok_iff.mpr ⟨plan, prepared⟩).symm.trans rendered)
  obtain ⟨collection, named, told⟩ := isTold_of_prepare (same ▸ packaged) prepared
  refine ⟨collection, same ▸ named, ?_⟩
  rw [Utf8.decodeLossy_encode]
  unfold listed at told ⊢
  rwa [same] at told

/-- A comparison that finds the registry out of date tells the types of the plan, entry by entry,
and, if the file on disk is the output of an earlier run with the same names, the types that this
run has registered.  Both go for a name of the function that is given as it is spelled; under any
other spelling that is accepted, nothing is told. -/
theorem isTold_of_check (packaged : IsPackage generator.naming.package package)
    (checked : generator.check files here = .ok (.stale onDisk expected)) :
    ∃ plan collection, generator.plan files here = .ok plan ∧
      Name.parse generator.naming.collection = .ok collection ∧
      IsTold package generator.naming collection plan.entries expected ∧
      ∀ (earlier : Generator) (before : FileSystem) (there : Location) (report : Report)
        (bytes : Bytes), earlier.naming = generator.naming →
        earlier.HasWritten before there report bytes →
        files.read here generator.output = .ok bytes →
        IsTold package generator.naming collection report.entries onDisk := by
  obtain ⟨text, bytes, rendered, held, -, rfl, rfl⟩ := check_eq_stale_iff.mp checked
  obtain ⟨plan, prepared⟩ := render_eq_ok_iff.mp rendered
  obtain ⟨collection, named, told⟩ := isTold_of_prepare packaged prepared
  refine ⟨plan, collection, (prepare_eq_ok_iff.mp prepared).1, named, told, ?_⟩
  intro earlier before there report same naming written again
  obtain rfl := Except.ok.inj (again.symm.trans held)
  obtain ⟨other, read, toldOnDisk⟩ := written.isTold packaged naming
  obtain rfl := Except.ok.inj (read.symm.trans named)
  exact toldOnDisk

/-- A generator for the directory that the small package has its registry in, which has no other
file. -/
def emptyGenerator : Generator := { smallGenerator with source := .ofString "gen" }

/-- The name of the registry of the small package. -/
def outputName : Bytes := Utf8.encode "models.rs"

/-- The small package with a file in the place of its registry. -/
def writtenFiles (content : Bytes) : FileSystem :=
  (smallFiles.put [Utf8.encode "gen"] (.directory directoryMode)).put [outputName, Utf8.encode "gen"]
    (.file plainMode content)

theorem read_writtenFiles (content : Bytes) :
    (writtenFiles content).read [] smallGenerator.output = .ok content := by
  cbv

theorem exists_prepare_emptyGenerator (content : Bytes) :
    ∃ plan text, emptyGenerator.prepare (writtenFiles content) [] = .ok (plan, text) ∧
      plan.entries = [] := by
  have found : (writtenFiles content).find [] emptyGenerator.source =
      .ok ([Utf8.encode "gen"], .directory directoryMode) := by
    cbv
  have listed : (writtenFiles content).names [Utf8.encode "gen"] = [outputName] := by cbv
  have passed : (Package.visit (writtenFiles content) [] emptyGenerator.source [Utf8.encode "gen"]
      ((writtenFiles content).target? [] emptyGenerator.output) outputName) =
        .excluded (.ofString "gen/models.rs") := by
    cbv
  have none : ([outputName].filterMap fun name =>
      (Package.visit (writtenFiles content) [] emptyGenerator.source [Utf8.encode "gen"]
        ((writtenFiles content).target? [] emptyGenerator.output) name).unit?) = [] := by
    simp [passed, Visit.unit?]
  have succeeds : (renderRegistry emptyGenerator.naming
      (selectedEntries (([] : List SourceUnit).flatMap SourceUnit.declarations))).isOk = true := by
    decide +kernel
  obtain ⟨plan, text, prepared, entries⟩ := exists_prepare_of_sorted found listed
    (List.pairwise_singleton _ _) (by simp [passed, Visit.error?]) (none ▸ succeeds)
  rw [none] at entries
  exact ⟨plan, text, prepared, entries⟩

theorem exists_prepare_bookEntry :
    ∃ plan text, smallGenerator.prepare smallFiles [] = .ok (plan, text) ∧
      plan.entries = [bookEntry "book"] := by
  obtain ⟨plan, text, prepared, entries⟩ := exists_prepare_of_sorted find_smallFiles names_smallFiles
    (List.pairwise_singleton _ _) (by decide +kernel) (by decide +kernel)
  refine ⟨plan, text, prepared, entries.trans ?_⟩
  decide +kernel

theorem spelling_default {collection : Name}
    (read : Name.parse Naming.default.collection = .ok collection) :
    collection.spelling = Naming.default.collection :=
  Name.spelling_eq_of_parse (by decide) read

/-- The registry of the small package is out of date for no package at all. -/
theorem isTold_of_check_emptyGenerator :
    ∃ package files report bytes onDisk expected,
      IsPackage emptyGenerator.naming.package package ∧
      emptyGenerator.check files [] = .ok (.stale onDisk expected) ∧
      smallGenerator.naming = emptyGenerator.naming ∧
      smallGenerator.HasWritten smallFiles [] report bytes ∧
      files.read [] emptyGenerator.output = .ok bytes ∧
      report.entries = [bookEntry "book"] ∧
      List.Forall₂ (IsTypeText package) report.entries onDisk ∧ expected = [] := by
  obtain ⟨package, packaged⟩ := exists_isPackage_default
  obtain ⟨plan, text, prepared, entries⟩ := exists_prepare_bookEntry
  obtain ⟨other, otherText, otherPrepared, none⟩ := exists_prepare_emptyGenerator (Utf8.encode text)
  have rendered := render_eq_ok_iff.mpr ⟨plan, prepared⟩
  have success := run_eq_ok_iff.mpr
    ⟨plan, text, .written, prepared, run_smallOutput (Utf8.encode text), rfl⟩
  have held := read_writtenFiles (Utf8.encode text)
  -- One registry lists a type and the other one does not, so their texts are not the same.
  have apart : Utf8.encode text ≠ Utf8.encode otherText := by
    intro same
    obtain rfl : text = otherText := by
      have decoded := congrArg Utf8.decodeLossy same
      rwa [Utf8.decodeLossy_encode, Utf8.decodeLossy_encode] at decoded
    obtain ⟨collection, named, told⟩ := isTold_of_prepare packaged prepared
    obtain ⟨again, alsoNamed, alsoTold⟩ := isTold_of_prepare packaged otherPrepared
    have listed := (told.typed (spelling_default named)).length_eq
    have alsoListed := (alsoTold.typed (spelling_default alsoNamed)).length_eq
    rw [entries] at listed
    rw [none] at alsoListed
    exact absurd (listed.trans alsoListed.symm) (by simp)
  have checked := check_eq_stale_iff.mpr
    ⟨otherText, _, render_eq_ok_iff.mpr ⟨other, otherPrepared⟩, held, apart, rfl, rfl⟩
  obtain ⟨again, collection, planned, named, told, toldOnDisk⟩ := isTold_of_check packaged checked
  obtain rfl : again = other :=
    Except.ok.inj (planned.symm.trans (prepare_eq_ok_iff.mp otherPrepared).1)
  have written : smallGenerator.HasWritten smallFiles [] _ (Utf8.encode text) :=
    ⟨_, text, success, rendered, rfl⟩
  have onDisk := toldOnDisk smallGenerator smallFiles [] _ _ rfl written held
  have none : List.Forall₂ (IsTypeText package) [] (emptyGenerator.listed otherText) :=
    none ▸ told.typed (spelling_default named)
  exact ⟨package, _, _, _, _, _, packaged, checked, rfl, written, held, entries,
    onDisk.typed (spelling_default named), List.forall₂_nil_left_iff.mp none⟩

/-- A generator that is given the name of its function with blanks around it. -/
def blankGenerator : Generator := { smallGenerator with naming := ⟨"super", " models "⟩ }

/-- Nothing is told with such a name, though there is a record to be listed. -/
theorem check_blankGenerator :
    ∃ package plan, IsPackage blankGenerator.naming.package package ∧
      blankGenerator.plan (writtenFiles []) [] = .ok plan ∧ plan.entries = [bookEntry "book"] ∧
      blankGenerator.check (writtenFiles []) [] = .ok (.stale [] []) := by
  obtain ⟨package, packaged⟩ := exists_isPackage_default
  have found : (writtenFiles []).find [] blankGenerator.source =
      .ok ([smallNames.1], .directory directoryMode) := by
    decide +kernel
  have listed : (writtenFiles []).names [smallNames.1] = [smallNames.2] := by decide +kernel
  obtain ⟨plan, text, prepared, entries⟩ := exists_prepare_of_sorted found listed
    (List.pairwise_singleton _ _) (by decide +kernel) (by decide +kernel)
  have planned := (prepare_eq_ok_iff.mp prepared).1
  have entries : plan.entries = [bookEntry "book"] := entries.trans (by decide +kernel)
  have rendered := render_eq_ok_iff.mpr ⟨plan, prepared⟩
  have spelled : (Name.parse blankGenerator.naming.collection).toOption.all
      (fun name => name.spelling = "models") = true := by
    decide +kernel
  obtain ⟨collection, types, named, read, -⟩ := exists_listed_of_render packaged planned rendered
  have spelling : collection.spelling = "models" := by simpa [named, Except.toOption] using spelled
  have apart : [] ≠ Utf8.encode text := by
    intro same
    have empty : text = "" := by
      have decoded := congrArg Utf8.decodeLossy same
      rw [Utf8.decodeLossy_encode] at decoded
      rw [← decoded]
      decide +kernel
    have nothing : readRegistry "" "models" = none := by decide +kernel
    rw [empty, spelling, nothing] at read
    cases read
  have nothing : [] = blankGenerator.listed (Utf8.decodeLossy []) := by decide +kernel
  obtain ⟨again, alsoNamed, told⟩ := isTold_of_prepare packaged prepared
  obtain rfl := Except.ok.inj (alsoNamed.symm.trans named)
  have other : again.spelling ≠ blankGenerator.naming.collection := by
    rw [spelling]
    decide
  exact ⟨package, plan, packaged, planned, entries, check_eq_stale_iff.mpr
    ⟨text, [], rendered, read_writtenFiles [], apart, nothing, (told.eq_nil other).symm⟩⟩

end Generator

end RecordRegistry
