/-
# Runs that succeed

A run that succeeds has scanned the package, rendered the registry and replaced the output, each of
which has succeeded.  A small package, whose registry goes to a directory that is not there yet,
shows that such runs exist.
-/

import Mathlib
import RecordRegistry.Generator
import RecordRegistry.Proofs.Generation.Scanning
import RecordRegistry.Proofs.Results

namespace RecordRegistry

namespace Generator

variable {generator : Generator} {files changed : FileSystem} {here : Location} {report : Report}
  {plan : Plan} {text : String}

/-- A plan is made from a package that has been scanned. -/
theorem plan_eq_ok_iff :
    generator.plan files here = .ok plan ↔
      ∃ package, Package.scan files here generator.source (some generator.output) = .ok package ∧
        plan = Plan.ofPackage package := by
  unfold Generator.plan
  cases Package.scan files here generator.source (some generator.output) with
  | error error => simp
  | ok package => simp [eq_comm]

theorem prepare_eq_ok_iff :
    generator.prepare files here = .ok (plan, text) ↔
      generator.plan files here = .ok plan ∧
        renderRegistry generator.naming plan.entries = .ok text := by
  unfold prepare
  cases planned : generator.plan files here with
  | error error => simp
  | ok found =>
      cases rendered : renderRegistry generator.naming found.entries with
      | error error =>
          simp only [ok_bind, rendered, mapError_error, error_bind, reduceCtorEq, Except.ok.injEq,
            false_iff]
          rintro ⟨rfl, same⟩
          simp [rendered] at same
      | ok written =>
          simp only [ok_bind, rendered, mapError_ok, pure_eq_ok, Except.ok.injEq, Prod.mk.injEq]
          constructor
          · rintro ⟨rfl, rfl⟩
            exact ⟨rfl, rendered⟩
          · rintro ⟨rfl, same⟩
            exact ⟨rfl, by simpa [rendered] using same⟩

theorem render_eq_ok_iff :
    generator.render files here = .ok text ↔
      ∃ plan, generator.prepare files here = .ok (plan, text) := by
  unfold render
  cases generator.prepare files here with
  | error error => simp
  | ok entry =>
      obtain ⟨plan, written⟩ := entry
      simp

/-- A run that succeeds has prepared a text and replaced the output by it. -/
theorem run_eq_ok_iff :
    generator.run files here = (changed, .ok report) ↔
      ∃ plan text outcome, generator.prepare files here = .ok (plan, text) ∧
        (Replacement.mk here generator.output (Utf8.encode text)).run files =
          (changed, .ok outcome) ∧
        report = ⟨generator.output, plan.files.length, plan.declarations.length, plan.entries,
          outcome⟩ := by
  unfold run
  cases prepared : generator.prepare files here with
  | error error => simp
  | ok entry =>
      obtain ⟨plan, text⟩ := entry
      dsimp only
      cases ended : (Replacement.mk here generator.output (Utf8.encode text)).run files with
      | mk after result =>
          cases result with
          | error failure => simp [ended]
          | ok outcome =>
              simp only [Prod.mk.injEq, Except.ok.injEq]
              constructor
              · rintro ⟨rfl, rfl⟩
                exact ⟨plan, text, outcome, ⟨rfl, rfl⟩, ended, rfl⟩
              · rintro ⟨_, _, _, ⟨rfl, rfl⟩, again, rfl⟩
                rw [ended] at again
                obtain ⟨rfl, same⟩ := Prod.mk.inj again
                exact ⟨rfl, by rw [Except.ok.inj same]⟩

/-- The names of the directory and of the file in it. -/
def smallNames : Bytes × Bytes := (Utf8.encode "src", Utf8.encode "book.rs")

/-- A file system with one source file. -/
def smallFiles : FileSystem :=
  (FileSystem.empty.put [smallNames.1] (.directory directoryMode)).put [smallNames.2, smallNames.1]
    (.file plainMode (Utf8.encode "pub struct Book;\n"))

/-- A generator for that file, whose output is to be in a new directory. -/
def smallGenerator : Generator := ⟨.ofString "src", .ofString "gen/models.rs", .default⟩

theorem isTree_smallFiles : smallFiles.IsTree := by
  have proper : FileSystem.IsFileName smallNames.1 ∧ FileSystem.IsFileName smallNames.2 := by
    decide
  have outer : (FileSystem.empty.put [smallNames.1] (.directory directoryMode)).IsTree :=
    FileSystem.isTree_empty.put proper.1 FileSystem.holdsDirectory_nil (.inl rfl)
  refine outer.put proper.2 ⟨_, FileSystem.node?_put_self (List.cons_ne_nil _ _)⟩ (.inr ?_)
  exact outer.nothing_below (by decide)

/-- A directory that lists its entries in order, and none of them bad, is scanned. -/
theorem exists_scan_of_sorted {location : Location} {names : List Bytes} {mode : Nat}
    (found : files.find here generator.source = .ok (location, .directory mode))
    (listed : files.names location = names)
    (sorted : names.Pairwise fun first second => Package.nameLe first second = true)
    (sound : ∀ name ∈ names, (Package.visit files here generator.source location
      (files.target? here generator.output) name).error? = none) :
    ∃ package, Package.scan files here generator.source (some generator.output) = .ok package ∧
      package.units = names.filterMap fun name =>
        (Package.visit files here generator.source location
          (files.target? here generator.output) name).unit? := by
  subst listed
  refine ⟨_, Package.scan_eq_ok_iff.mpr ⟨_, _, found, sound, rfl⟩, ?_⟩
  rw [List.mergeSort_of_pairwise sorted, Option.bind_some]

/-- There is a plan for it. -/
theorem exists_plan_of_sorted {location : Location} {names : List Bytes} {mode : Nat}
    (found : files.find here generator.source = .ok (location, .directory mode))
    (listed : files.names location = names)
    (sorted : names.Pairwise fun first second => Package.nameLe first second = true)
    (sound : ∀ name ∈ names, (Package.visit files here generator.source location
      (files.target? here generator.output) name).error? = none) :
    ∃ plan, generator.plan files here = .ok plan ∧
      plan.entries = selectedEntries ((names.filterMap fun name =>
        (Package.visit files here generator.source location
          (files.target? here generator.output) name).unit?).flatMap SourceUnit.declarations) := by
  obtain ⟨package, scanned, units⟩ := exists_scan_of_sorted found listed sorted sound
  exact ⟨_, plan_eq_ok_iff.mpr ⟨package, scanned, rfl⟩, by rw [← units]; rfl⟩

/-- If the records in it can be rendered, there is a registry for it. -/
theorem exists_prepare_of_sorted {location : Location} {names : List Bytes} {mode : Nat}
    (found : files.find here generator.source = .ok (location, .directory mode))
    (listed : files.names location = names)
    (sorted : names.Pairwise fun first second => Package.nameLe first second = true)
    (sound : ∀ name ∈ names, (Package.visit files here generator.source location
      (files.target? here generator.output) name).error? = none)
    (rendered : (renderRegistry generator.naming (selectedEntries ((names.filterMap fun name =>
      (Package.visit files here generator.source location
        (files.target? here generator.output) name).unit?).flatMap
          SourceUnit.declarations))).isOk) :
    ∃ plan text, generator.prepare files here = .ok (plan, text) ∧
      plan.entries = selectedEntries ((names.filterMap fun name =>
        (Package.visit files here generator.source location
          (files.target? here generator.output) name).unit?).flatMap SourceUnit.declarations) := by
  obtain ⟨plan, planned, entries⟩ := exists_plan_of_sorted found listed sorted sound
  rw [← entries] at rendered
  obtain ⟨text, rendered⟩ := exists_eq_ok_of_isOk rendered
  exact ⟨plan, text, prepare_eq_ok_iff.mpr ⟨planned, rendered⟩, entries⟩

/-- A directory with one entry that is not bad is scanned. -/
theorem exists_scan_of_single {location : Location} {name : Bytes} {mode : Nat}
    (found : files.find here generator.source = .ok (location, .directory mode))
    (listed : files.names location = [name])
    (sound : (Package.visit files here generator.source location
      (files.target? here generator.output) name).error? = none) :
    ∃ package, Package.scan files here generator.source (some generator.output) = .ok package ∧
      package.units = [name].filterMap fun name =>
        (Package.visit files here generator.source location
          (files.target? here generator.output) name).unit? :=
  exists_scan_of_sorted found listed (List.pairwise_singleton _ _) (by simpa using sound)

/-- There is a plan for it. -/
theorem exists_plan_of_single {location : Location} {name : Bytes} {mode : Nat}
    (found : files.find here generator.source = .ok (location, .directory mode))
    (listed : files.names location = [name])
    (sound : (Package.visit files here generator.source location
      (files.target? here generator.output) name).error? = none) :
    ∃ plan, generator.plan files here = .ok plan ∧
      plan.entries = selectedEntries (([name].filterMap fun name =>
        (Package.visit files here generator.source location
          (files.target? here generator.output) name).unit?).flatMap SourceUnit.declarations) :=
  exists_plan_of_sorted found listed (List.pairwise_singleton _ _) (by simpa using sound)

/-- If the records in it can be rendered, there is a registry for it. -/
theorem exists_prepare_of_single {location : Location} {name : Bytes} {mode : Nat}
    (found : files.find here generator.source = .ok (location, .directory mode))
    (listed : files.names location = [name])
    (sound : (Package.visit files here generator.source location
      (files.target? here generator.output) name).error? = none)
    (rendered : (renderRegistry generator.naming (selectedEntries
      (([name].filterMap fun name => (Package.visit files here generator.source location
        (files.target? here generator.output) name).unit?).flatMap
          SourceUnit.declarations))).isOk) :
    ∃ plan text, generator.prepare files here = .ok (plan, text) := by
  obtain ⟨plan, text, prepared, -⟩ := exists_prepare_of_sorted found listed
    (List.pairwise_singleton _ _) (by simpa using sound) rendered
  exact ⟨plan, text, prepared⟩

theorem find_smallFiles :
    smallFiles.find [] smallGenerator.source =
      .ok ([smallNames.1], .directory directoryMode) := by
  cbv

theorem names_smallFiles : smallFiles.names [smallNames.1] = [smallNames.2] := by cbv

theorem exists_scan_smallFiles :
    ∃ package, Package.scan smallFiles [] smallGenerator.source (some smallGenerator.output) =
        .ok package ∧
      package.units = [smallNames.2].filterMap fun name =>
        (Package.visit smallFiles [] smallGenerator.source [smallNames.1]
          (smallFiles.target? [] smallGenerator.output) name).unit? :=
  exists_scan_of_single find_smallFiles names_smallFiles (by decide +kernel)

/-- The small package has a plan and a registry. -/
theorem exists_prepare_smallGenerator :
    ∃ plan text, smallGenerator.prepare smallFiles [] = .ok (plan, text) :=
  exists_prepare_of_single find_smallFiles names_smallFiles (by decide +kernel) (by decide +kernel)

/-- Whatever its content, the output of the small package can be written. -/
theorem run_smallOutput (content : Bytes) :
    (Replacement.mk [] smallGenerator.output content).run smallFiles =
      (((Replacement.mk [] smallGenerator.output content).run smallFiles).1, .ok .written) := by
  have succeeds : ((Replacement.mk [] smallGenerator.output content).run smallFiles).2 =
      .ok .written := by
    cbv
  rw [← succeeds]

/-- A generator whose output is named like the directory of its sources, behind a new directory. -/
def blockedGenerator : Generator := { smallGenerator with output := .ofString "gen/../src" }

theorem exists_prepare_blockedGenerator :
    ∃ plan text, blockedGenerator.prepare smallFiles [] = .ok (plan, text) := by
  have nowhere : smallFiles.target? [] blockedGenerator.output = none ∧
      smallFiles.target? [] smallGenerator.output = none := by
    constructor <;> cbv
  have same : blockedGenerator.prepare smallFiles [] = smallGenerator.prepare smallFiles [] := by
    unfold prepare Generator.plan Package.scan Package.visits
    simp only [Option.bind_some, nowhere]
    rfl
  rw [same]
  exact exists_prepare_smallGenerator

/-- The directory is in the way of its output, but only after another one has been made. -/
theorem run_blockedOutput (content : Bytes) :
    ∃ changed failure,
      (Replacement.mk [] blockedGenerator.output content).run smallFiles =
        (changed, .error failure) ∧
      changed.HoldsDirectory [Utf8.encode "gen"] := by
  have ends : (Replacement.mk [] blockedGenerator.output content).run smallFiles =
      (smallFiles.put [Utf8.encode "gen"] (.directory directoryMode),
        .error ⟨blockedGenerator.output, .isDirectory⟩) := by
    cbv
  exact ⟨_, _, ends, _, FileSystem.node?_put_self (List.cons_ne_nil _ _)⟩

end Generator

end RecordRegistry
