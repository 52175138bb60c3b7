/-
# Commands that fail

A command that fails leaves every file and every link as it was, and at most makes directories.
There is one exception: a generation writes the registry before it reports, and the report cannot
be given as JSON if the path of the registry is not text.  The registry is then new, though the
command fails.
-/

import RecordRegistry.Proofs.Command.Generating
import RecordRegistry.Proofs.Generation.Failure

namespace RecordRegistry

namespace FileSystem

variable {before after : FileSystem} {here : Location} {path : FilePath}

/-- Whatever was there is still there, and nothing but directories has come. -/
structure SameFiles (before after : FileSystem) : Prop where
  kept : ∀ location node, before.node? location = some node → after.node? location = some node
  made : ∀ location node, before.node? location = none → after.node? location = some node →
    node = .directory directoryMode

theorem Grows.sameFiles {paths : List FilePath} (grown : before.Grows here paths after) :
    before.SameFiles after where
  kept := grown.kept
  made location node absent present := (grown.made location node absent present).1

namespace SameFiles

theorem refl (files : FileSystem) : files.SameFiles files where
  kept _ _ present := present
  made location node absent present := by simp [absent] at present

/-- What can be read is still read. -/
theorem read {content : Bytes} (same : before.SameFiles after)
    (held : before.read here path = .ok content) : after.read here path = .ok content := by
  unfold FileSystem.read at held ⊢
  obtain ⟨entry, found, taken⟩ := bind_eq_ok_iff.mp held
  exact bind_eq_ok_iff.mpr ⟨entry, find_of_kept same.kept found, taken⟩

end SameFiles

end FileSystem

namespace Generator

variable {generator : Generator} {files : FileSystem} {here : Location}

/-- A run that does not write the registry changes no file. -/
theorem sameFiles_of_run
    (unwritten : ∀ report, (generator.run files here).2 = .ok report → report.outcome ≠ .written) :
    files.SameFiles (generator.run files here).1 := by
  revert unwritten
  rw [run]
  split
  · exact fun _ => .refl files
  · next plan text _ =>
      have reached := (Replacement.mk here generator.output (Utf8.encode text)).reached_run files
      split
      · next changed failure ended =>
          rw [ended] at reached
          intro _
          cases reached with
          | failed grown => exact grown.sameFiles
      · next changed outcome ended =>
          rw [ended] at reached
          intro unwritten
          cases reached with
          | unchanged => exact .refl _
          | written => exact absurd rfl (unwritten _ rfl)

end Generator

namespace InitCommand

variable {setting : Setting} {files : FileSystem} {project : Project} {force : Bool}

/-- A configuration that is not written leaves at most directories. -/
theorem sameFiles_of_configure {here : Location} {after : FileSystem} {message : String}
    (failed : configure files here project force = (after, .error message)) :
    files.SameFiles after := by
  have grown := FileSystem.grows_makeDirectories files here project.directory
  unfold configure at failed
  split at failed
  · obtain rfl := congrArg Prod.fst failed
    exact .refl _
  · split at failed
    · next made fault stopped =>
        obtain rfl := congrArg Prod.fst failed
        rw [stopped] at grown
        exact grown.sameFiles
    · next made finished =>
        rw [finished] at grown
        split at failed
        · obtain rfl := congrArg Prod.fst failed
          exact grown.sameFiles
        · cases failed

theorem sameFiles_of_run (fails : (run setting files force).2.code ≠ 0) :
    files.SameFiles (run setting files force).1 := by
  revert fails
  unfold run
  split
  · exact fun _ => .refl files
  · next project _ =>
      split
      · next after message failed => exact fun _ => sameFiles_of_configure failed
      · exact fun fails => absurd rfl fails

end InitCommand

/-- Data can be given in every form but JSON, and as JSON if all paths in it are text. -/
theorem Display.render_eq_error_iff {display : Display} {prose : Prose} :
    (∃ message, display.render prose = .error message) ↔
      prose.presentation.quiet = false ∧ prose.presentation.format = .json ∧
        display.json = none := by
  unfold Display.render
  cases quiet : prose.presentation.quiet with
  | true => simp
  | false =>
      cases format : prose.presentation.format with
      | table => simp
      | compact => simp
      | json => cases display.json <;> simp

namespace GenerateCommand

variable {setting : Setting} {files : FileSystem} {overrides : Overrides} {mode : GenerateMode}
  {generator : Generator} {source target : String}

/-- The registry has been written, but the report of it cannot be given in the form that is asked
for: JSON, while the path of the registry is not text. -/
structure Unreported (files : FileSystem) (here : Location) (environment : Environment)
    (overrides : Overrides) (presentation : Presentation) (generator : Generator) : Prop where
  found : Finds files here environment overrides generator
  written : ∃ report, (generator.run files here).2 = .ok report ∧ report.outcome = .written
  format : presentation.format = .json
  loud : presentation.quiet = false
  notText : generator.output.text? = none

/-- A report that cannot be given makes the command fail, and nothing else about it does. -/
theorem code_reportRun {errors : String} {report : Report} :
    (reportRun setting target errors report).code ≠ 0 ↔
      ∃ message, (display report).render setting.prose = .error message := by
  simp only [reportRun]
  cases (display report).render setting.prose <;> simp

/-- A run that writes is reported as one that fails only if the report cannot be given. -/
theorem code_write {report : Report}
    (ended : (generator.run files setting.here).2 = .ok report) :
    (runFor setting files generator source target .write).2.code ≠ 0 ↔
      setting.prose.presentation.quiet = false ∧ setting.prose.presentation.format = .json ∧
        generator.output.text? = none := by
  have output : report.output = generator.output := by
    obtain ⟨_, _, _, -, -, rfl⟩ := Generator.run_eq_ok_iff.mp (show _ = (_, _) from Prod.ext rfl ended)
    rfl
  obtain ⟨errors, account, same⟩ := runFor_write setting files generator source target
  rw [same, ended]
  rw [code_reportRun, Display.render_eq_error_iff, display, output, Option.map_eq_none_iff]

theorem sameFiles_or_unreported (fails : (run setting files overrides mode).2.code ≠ 0) :
    files.SameFiles (run setting files overrides mode).1 ∨
      mode = .write ∧ ∃ generator, Unreported files setting.here setting.environment overrides
        setting.prose.presentation generator := by
  by_cases found : ∃ generator, Finds files setting.here setting.environment overrides generator
  · obtain ⟨generator, found⟩ := found
    obtain ⟨source, target, same⟩ := run_of_finds found
    rw [same] at fails ⊢
    rw [fst_runFor]
    by_cases writes : mode = .write
    · subst writes
      rw [if_pos rfl]
      by_cases written : ∃ report, (generator.run files setting.here).2 = .ok report ∧
          report.outcome = .written
      · obtain ⟨report, ended, -⟩ := id written
        obtain ⟨loud, format, notText⟩ := (code_write ended).mp fails
        exact .inr ⟨rfl, generator, found, written, format, loud, notText⟩
      · refine .inl (Generator.sameFiles_of_run fun report ended wrote => ?_)
        exact written ⟨report, ended, wrote⟩
    · rw [if_neg writes]
      exact .inl (.refl files)
  · rw [not_exists] at found
    obtain ⟨message, same⟩ := run_of_not_finds found
    rw [same]
    exact .inl (.refl files)

end GenerateCommand

namespace CommandLine

open GenerateCommand

variable {files : FileSystem} {here : Location} {environment : Environment} {words : List SystemText}

/-- A command line that fails has changed no file, unless it asks for a generation whose report
cannot be given.  This holds of every command line, of those that are not understood, too. -/
theorem sameFiles_of_failure (fails : (run files here environment words).2.code ≠ 0) :
    files.SameFiles (run files here environment words).1 ∨
      ∃ presentation overrides generator,
        Invocation.parse environment words = .ok ⟨presentation, .generate overrides .write⟩ ∧
          Unreported files here environment overrides presentation generator := by
  cases asked : Invocation.parse environment words with
  | error halt =>
      rw [run, asked]
      exact .inl (.refl files)
  | ok invocation =>
      obtain ⟨presentation, action⟩ := invocation
      obtain ⟨errors, same⟩ := run_of_parse asked files here
      rw [same] at fails ⊢
      cases action with
      | init force => exact .inl (InitCommand.sameFiles_of_run fails)
      | scan source => exact .inl (.refl files)
      | generate overrides mode =>
          rcases GenerateCommand.sameFiles_or_unreported fails with unchanged | ⟨rfl, generator, late⟩
          · exact .inl unchanged
          · exact .inr ⟨presentation, overrides, generator, rfl, late⟩

/-- A generation that fails, since a directory is in the way of the registry, has changed no file,
but has made a directory. -/
theorem sameFiles_of_failure_smallProject :
    (run (projectOf Generator.smallFiles) [] []
      ["generate", "--source", "src", "--out", "gen/../src"]).2.code = 1 ∧
    (projectOf Generator.smallFiles).SameFiles (run (projectOf Generator.smallFiles) [] []
      ["generate", "--source", "src", "--out", "gen/../src"]).1 := by
  have asked : Invocation.parse [] ["generate", "--source", "src", "--out", "gen/../src"] =
      .ok ⟨⟨.table, false, false, false⟩, .generate
        ⟨some (.ofString "src"), some (.ofString "gen/../src"), none, none⟩ .write⟩ := by
    decide +kernel
  have code : (run (projectOf Generator.smallFiles) [] []
      ["generate", "--source", "src", "--out", "gen/../src"]).2.code = 1 := by
    decide +kernel
  refine ⟨code, ?_⟩
  rcases sameFiles_of_failure (by rw [code]; decide) with unchanged | ⟨_, _, _, same, late⟩
  · exact unchanged
  · rw [asked] at same
    cases same
    cases late.format

/-- A name that is not text. -/
def rawName : Bytes := [0xff]

/-- A generator that is to write a file of that name. -/
def rawGenerator : Generator := ⟨.ofString "src", ⟨rawName⟩, .default⟩

/-- A generation that is to report in JSON. -/
def rawWords (output : SystemText) : List SystemText :=
  ["--output", "json", "generate", "--source", "src", "--out", output]

/-- If the registry is to have such a name, the generation fails, but leaves a registry where there
was nothing.  The generator itself does not fail: it writes, but its report has no JSON. -/
theorem written_of_failure_rawOutput :
    (projectOf Generator.smallFiles).node? [rawName] = none ∧
      (run (projectOf Generator.smallFiles) [] [] (rawWords ⟨rawName⟩)).2.code = 1 ∧
      (run (projectOf Generator.smallFiles) [] [] (rawWords ⟨rawName⟩)).1.node? [rawName] ≠ none ∧
      (rawGenerator.run (projectOf Generator.smallFiles) []).1.node? [rawName] ≠ none ∧
      ∃ report, (rawGenerator.run (projectOf Generator.smallFiles) []).2 = .ok report ∧
        report.outcome = .written ∧ (GenerateCommand.display report).json = none := by
  have absent : (projectOf Generator.smallFiles).node? [rawName] = none := by decide +kernel
  have code : (run (projectOf Generator.smallFiles) [] [] (rawWords ⟨rawName⟩)).2.code = 1 := by
    decide +kernel
  have left : (run (projectOf Generator.smallFiles) [] [] (rawWords ⟨rawName⟩)).1.node? [rawName] ≠
      none := by
    decide +kernel
  have generated : (rawGenerator.run (projectOf Generator.smallFiles) []).1.node? [rawName] ≠
      none := by
    decide +kernel
  have written : (rawGenerator.run (projectOf Generator.smallFiles) []).2 =
      .ok ⟨⟨rawName⟩, 1, 1, [⟨"Book", "book", true⟩], .written⟩ := by
    decide +kernel
  exact ⟨absent, code, left, generated, _, written, rfl, rfl⟩

/-- A project in a directory of that name, without a registry and without declarations, and a link to
the directory. -/
def rawProject : FileSystem :=
  (((FileSystem.empty.put [rawName] (.directory directoryMode)).put
    [Project.manifestName.bytes, rawName] (.file plainMode [])).put [Utf8.encode "src", rawName]
      (.directory directoryMode)).put [Utf8.encode "p"] (.link ⟨rawName⟩)

/-- So it does in that project, which can be entered through the link, whatever the name of the
registry. -/
example :
    rawProject.find [] (.ofString "p") = .ok ([rawName], .directory directoryMode) ∧
      (run rawProject [rawName] [] (rawWords "models.rs")).2.code = 1 ∧
      rawProject.node? [Utf8.encode "models.rs", rawName] = none ∧
      (run rawProject [rawName] [] (rawWords "models.rs")).1.node?
        [Utf8.encode "models.rs", rawName] ≠ none := by
  decide +kernel

end CommandLine

end RecordRegistry
