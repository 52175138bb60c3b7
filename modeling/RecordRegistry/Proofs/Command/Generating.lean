/-
# A generation, its preview and its check

The command that generates a registry can print it, compare it with the one on disk, or write it.
All three find the same generator and render the same text, so that one of them tells what the
others would do: the preview prints what would be written, and the check succeeds exactly where
there is nothing to write.
-/

import RecordRegistry.Command.Line
import RecordRegistry.Proofs.Command.Gathering
import RecordRegistry.Proofs.Generation.Registering

namespace RecordRegistry

namespace Generator

variable {generator : Generator} {files changed : FileSystem} {here : Location} {text : String}

/-- A comparison finds a registry up to date if the output holds the text that is rendered. -/
theorem check_eq_upToDate_iff :
    generator.check files here = .ok .upToDate ↔
      ∃ text, generator.render files here = .ok text ∧
        files.read here generator.output = .ok (Utf8.encode text) := by
  unfold check
  cases generator.render files here with
  | error error => simp
  | ok text =>
      cases held : files.read here generator.output with
      | error fault =>
          cases fault <;> simp
      | ok content =>
          by_cases same : content = Utf8.encode text <;> simp [same]

/-- A run finds nothing to do if the output holds the text that is rendered, and only then. -/
theorem run_unchanged_iff :
    (∃ report, generator.run files here = (files, .ok report) ∧ report.outcome = .unchanged) ↔
      ∃ text, generator.render files here = .ok text ∧
        files.read here generator.output = .ok (Utf8.encode text) := by
  constructor
  · rintro ⟨report, ended, unchanged⟩
    obtain ⟨plan, text, outcome, prepared, replaced, rfl⟩ := run_eq_ok_iff.mp ended
    obtain rfl : outcome = .unchanged := unchanged
    refine ⟨text, render_eq_ok_iff.mpr ⟨plan, prepared⟩, ?_⟩
    rcases Replacement.unchanged_or_put_of_run replaced with ⟨-, -, held⟩ | ⟨written, -⟩
    · exact held
    · cases written
  · rintro ⟨text, rendered, held⟩
    obtain ⟨plan, prepared⟩ := render_eq_ok_iff.mp rendered
    exact ⟨_, run_eq_ok_iff.mpr
      ⟨plan, text, .unchanged, prepared, Replacement.run_of_read held, rfl⟩, rfl⟩

/-- What a run leaves can be read as the text that is rendered. -/
theorem readable_of_run {report : Report} (rendered : generator.render files here = .ok text)
    (ended : (generator.run files here).2 = .ok report) :
    (Replacement.mk here generator.output (Utf8.encode text)).Readable files
      (generator.run files here).1 := by
  obtain ⟨plan, other, outcome, prepared, replaced, -⟩ :=
    run_eq_ok_iff.mp (show _ = (_, _) from Prod.ext rfl ended)
  obtain rfl : other = text := by
    rw [render_eq_ok_iff.mpr ⟨plan, prepared⟩] at rendered
    exact Except.ok.inj rendered
  exact Replacement.readable_of_run replaced

theorem run_of_not_rendered (fails : ∀ text, generator.render files here ≠ .ok text) :
    (generator.run files here).1 = files ∧ ∃ error, (generator.run files here).2 = .error error := by
  unfold run
  cases prepared : generator.prepare files here with
  | error error => exact ⟨rfl, error, rfl⟩
  | ok entry => exact absurd (render_eq_ok_iff.mpr ⟨entry.1, prepared⟩) (fails entry.2)

end Generator

@[simp] theorem Outcome.code_success (output errors : String) : (success output errors).code = 0 :=
  rfl

@[simp] theorem Setting.code_failure (setting : Setting) (output errors message : String) :
    (setting.failure output errors message).code = Outcome.failureCode := rfl

@[simp] theorem Outcome.failureCode_ne_zero : failureCode ≠ 0 := Nat.one_ne_zero

namespace GenerateCommand

variable {setting : Setting} {files : FileSystem} {overrides : Overrides} {mode : GenerateMode}
  {generator other : Generator} {source target text : String}

/-- The project that a working directory belongs to yields the generator. -/
def Finds (files : FileSystem) (here : Location) (environment : Environment)
    (overrides : Overrides) (generator : Generator) : Prop :=
  ∃ project, Project.findFrom files here here.path = .ok project ∧
    project.generator environment overrides = .ok generator

/-- Planning and rendering succeed, with that text. -/
def Renders (files : FileSystem) (here : Location) (environment : Environment)
    (overrides : Overrides) (generator : Generator) (text : String) : Prop :=
  Finds files here environment overrides generator ∧ generator.render files here = .ok text

theorem Finds.unique {here : Location} {environment : Environment}
    (found : Finds files here environment overrides generator)
    (again : Finds files here environment overrides other) : generator = other := by
  obtain ⟨project, first, second⟩ := found
  obtain ⟨same, third, fourth⟩ := again
  obtain rfl := Except.ok.inj (first.symm.trans third)
  exact Except.ok.inj (second.symm.trans fourth)

/-- The command goes on with the generator that is found. -/
theorem run_of_finds (found : Finds files setting.here setting.environment overrides generator) :
    ∃ source target, ∀ mode, run setting files overrides mode =
      runFor setting files generator source target mode := by
  obtain ⟨project, first, second⟩ := found
  refine ⟨project.shown generator.source, project.shown generator.output, fun mode => ?_⟩
  have located : setting.project files = .ok project := first
  simp [run, located, second]

/-- Without a generator the command fails at once. -/
theorem run_of_not_finds
    (lost : ∀ generator, ¬ Finds files setting.here setting.environment overrides generator) :
    ∃ message, ∀ mode, run setting files overrides mode =
      (files, setting.failure "" "" message) := by
  cases located : setting.project files with
  | error error => exact ⟨error.message, fun mode => by simp [run, located]⟩
  | ok project =>
      cases made : project.generator setting.environment overrides with
      | error error => exact ⟨error.message, fun mode => by simp [run, located, made]⟩
      | ok generator => exact absurd ⟨project, located, made⟩ (lost generator)

/-- The preview asks for the text and prints it, whatever else is printed. -/
theorem runFor_preview (setting : Setting) (files : FileSystem) (generator : Generator)
    (source target : String) :
    ∃ errors, ∃ account : GenerationError → String,
      runFor setting files generator source target .preview =
        (files, match generator.render files setting.here with
          | .error error => setting.failure "" errors (account error)
          | .ok text => .success text errors) :=
  ⟨_, _, rfl⟩

theorem runFor_check (setting : Setting) (files : FileSystem) (generator : Generator)
    (source target : String) :
    ∃ errors, ∃ account : GenerationError → String,
      runFor setting files generator source target .check =
        (files, match generator.check files setting.here with
          | .error error => setting.failure "" errors (account error)
          | .ok freshness => reportCheck setting target errors freshness) :=
  ⟨_, _, rfl⟩

theorem runFor_write (setting : Setting) (files : FileSystem) (generator : Generator)
    (source target : String) :
    ∃ errors, ∃ account : GenerationError → String,
      runFor setting files generator source target .write =
        ((generator.run files setting.here).1, match (generator.run files setting.here).2 with
          | .error error => setting.failure "" errors (account error)
          | .ok report => reportRun setting target errors report) :=
  ⟨_, _, rfl⟩

/-- Only writing changes files. -/
theorem fst_runFor :
    (runFor setting files generator source target mode).1 =
      if mode = .write then (generator.run files setting.here).1 else files := by
  cases mode <;> rfl

theorem code_preview :
    (runFor setting files generator source target .preview).2.code = 0 ↔
      ∃ text, generator.render files setting.here = .ok text := by
  obtain ⟨errors, account, same⟩ := runFor_preview setting files generator source target
  rw [same]
  cases generator.render files setting.here <;> simp

theorem output_preview (rendered : generator.render files setting.here = .ok text) :
    (runFor setting files generator source target .preview).2.output = text := by
  obtain ⟨errors, account, same⟩ := runFor_preview setting files generator source target
  rw [same, rendered]
  rfl

theorem code_reportCheck {errors : String} {freshness : Freshness} :
    (reportCheck setting target errors freshness).code = 0 ↔ freshness = .upToDate := by
  cases freshness with
  | upToDate => exact iff_of_true rfl rfl
  | stale onDisk expected => exact iff_of_false Outcome.failureCode_ne_zero (by simp)
  | missing => exact iff_of_false Outcome.failureCode_ne_zero (by simp)

theorem code_check :
    (runFor setting files generator source target .check).2.code = 0 ↔
      ∃ text, generator.render files setting.here = .ok text ∧
        files.read setting.here generator.output = .ok (Utf8.encode text) := by
  rw [← Generator.check_eq_upToDate_iff]
  obtain ⟨errors, account, same⟩ := runFor_check setting files generator source target
  rw [same]
  cases generator.check files setting.here with
  | error error => simp
  | ok freshness => simp [code_reportCheck]

/-- If nothing can be rendered, every mode fails and changes nothing. -/
theorem runFor_of_not_rendered
    (fails : ∀ text, generator.render files setting.here ≠ .ok text) (mode : GenerateMode) :
    (runFor setting files generator source target mode).1 = files ∧
      (runFor setting files generator source target mode).2.code = Outcome.failureCode := by
  have failed : ∃ error, generator.render files setting.here = .error error := by
    cases rendered : generator.render files setting.here with
    | error error => exact ⟨error, rfl⟩
    | ok text => exact absurd rendered (fails text)
  obtain ⟨error, failed⟩ := failed
  cases mode with
  | preview =>
      obtain ⟨errors, account, same⟩ := runFor_preview setting files generator source target
      rw [same, failed]
      exact ⟨rfl, rfl⟩
  | check =>
      have unchecked : generator.check files setting.here = .error error := by
        simp [Generator.check, failed]
      obtain ⟨errors, account, same⟩ := runFor_check setting files generator source target
      rw [same, unchecked]
      exact ⟨rfl, rfl⟩
  | write =>
      obtain ⟨unchanged, error, ended⟩ := Generator.run_of_not_rendered fails
      obtain ⟨errors, account, same⟩ := runFor_write setting files generator source target
      rw [same, ended]
      exact ⟨unchanged, rfl⟩

theorem run_of_not_renders
    (fails : ∀ generator text,
      ¬ Renders files setting.here setting.environment overrides generator text)
    (mode : GenerateMode) :
    (run setting files overrides mode).1 = files ∧
      (run setting files overrides mode).2.code = Outcome.failureCode := by
  by_cases found : ∃ generator, Finds files setting.here setting.environment overrides generator
  · obtain ⟨generator, found⟩ := found
    obtain ⟨source, target, same⟩ := run_of_finds found
    rw [same]
    exact runFor_of_not_rendered (fun text rendered => fails generator text ⟨found, rendered⟩) mode
  · rw [not_exists] at found
    obtain ⟨message, same⟩ := run_of_not_finds found
    rw [same]
    exact ⟨rfl, rfl⟩

/-- Writing leaves what the run of the generator leaves. -/
theorem fst_run_write
    (found : Finds files setting.here setting.environment overrides generator) :
    (run setting files overrides .write).1 = (generator.run files setting.here).1 := by
  obtain ⟨source, target, same⟩ := run_of_finds found
  rw [same, fst_runFor, if_pos rfl]

theorem code_run_preview :
    (run setting files overrides .preview).2.code = 0 ↔
      ∃ generator text, Renders files setting.here setting.environment overrides generator text := by
  constructor
  · intro succeeds
    by_contra! fails
    rw [(run_of_not_renders fails .preview).2] at succeeds
    cases succeeds
  · rintro ⟨generator, text, found, rendered⟩
    obtain ⟨source, target, same⟩ := run_of_finds found
    rw [same]
    exact code_preview.mpr ⟨text, rendered⟩

theorem code_run_check :
    (run setting files overrides .check).2.code = 0 ↔
      ∃ generator text, Renders files setting.here setting.environment overrides generator text ∧
        files.read setting.here generator.output = .ok (Utf8.encode text) := by
  constructor
  · intro succeeds
    by_cases renders : ∃ generator text,
        Renders files setting.here setting.environment overrides generator text
    · obtain ⟨generator, text, found, rendered⟩ := renders
      obtain ⟨source, target, same⟩ := run_of_finds found
      rw [same] at succeeds
      obtain ⟨text, rendered, held⟩ := code_check.mp succeeds
      exact ⟨generator, text, ⟨found, rendered⟩, held⟩
    · simp only [not_exists] at renders
      rw [(run_of_not_renders renders .check).2] at succeeds
      cases succeeds
  · rintro ⟨generator, text, ⟨found, rendered⟩, held⟩
    obtain ⟨source, target, same⟩ := run_of_finds found
    rw [same]
    exact code_check.mpr ⟨text, rendered, held⟩

end GenerateCommand

namespace CommandLine

open GenerateCommand

variable {environment : Environment} {words : List SystemText} {presentation : Presentation}
  {overrides : Overrides}

/-- The setting that the program works in. -/
def settingOf (here : Location) (environment : Environment) (presentation : Presentation) :
    Setting :=
  ⟨here, environment, ⟨presentation, forcesColour environment⟩,
    (logStyle environment presentation.verbose).1⟩

/-- A command line does what it asks for, and may print more warnings. -/
theorem run_of_parse {action : Action}
    (asked : Invocation.parse environment words = .ok ⟨presentation, action⟩)
    (files : FileSystem) (here : Location) :
    ∃ errors, run files here environment words =
      ((perform files (settingOf here environment presentation) action).1,
        { (perform files (settingOf here environment presentation) action).2 with
          errors := errors }) := by
  unfold run
  rw [asked]
  exact ⟨_, rfl⟩

/-- A generation, its preview and its check agree, whatever else is asked for.  The preview succeeds
if there is a text to be rendered, and prints that text.  The check succeeds if the output holds the
text, and this is exactly where the generation finds nothing to do.  What a generation writes is
read as the text.  Without a text all three fail and change nothing. -/
theorem modes_agree
    (plain : Invocation.parse environment ("generate" :: words) =
      .ok ⟨presentation, .generate overrides .write⟩)
    (files : FileSystem) (here : Location) :
    let written := run files here environment ("generate" :: words)
    let shown := run files here environment ("generate" :: "--dry-run" :: words)
    let checked := run files here environment ("generate" :: "--check" :: words)
    (shown.2.code = 0 ↔ ∃ generator text, Renders files here environment overrides generator text) ∧
    (∀ generator text, Renders files here environment overrides generator text →
      shown.2.output = text) ∧
    (checked.2.code = 0 ↔ ∃ generator text, Renders files here environment overrides generator text ∧
      files.read here generator.output = .ok (Utf8.encode text)) ∧
    (∀ generator text report, Renders files here environment overrides generator text →
      (generator.run files here).2 = .ok report →
      (Replacement.mk here generator.output (Utf8.encode text)).Readable files written.1) ∧
    ((written.1 = files ∧ ∃ generator report, Finds files here environment overrides generator ∧
        generator.run files here = (files, .ok report) ∧ report.outcome = .unchanged) ↔
      checked.2.code = 0) ∧
    ((∀ generator text, ¬ Renders files here environment overrides generator text) →
      (written.1 = files ∧ shown.1 = files ∧ checked.1 = files) ∧
      written.2.code = 1 ∧ shown.2.code = 1 ∧ checked.2.code = 1) := by
  intro written shown checked
  obtain ⟨preview, check⟩ := Invocation.parse_generate_behind plain
  obtain ⟨_, isWritten⟩ := run_of_parse plain files here
  obtain ⟨_, isShown⟩ := run_of_parse preview files here
  obtain ⟨_, isChecked⟩ := run_of_parse check files here
  simp only [written, shown, checked, isWritten, isShown, isChecked, perform]
  have fst_written {generator : Generator}
      (found : Finds files here environment overrides generator) :
      (GenerateCommand.run (settingOf here environment presentation) files overrides .write).1 =
        (generator.run files here).1 :=
    @fst_run_write (settingOf here environment presentation) _ _ _ found
  refine ⟨code_run_preview, ?_, code_run_check, ?_, ?_, ?_⟩
  · rintro generator text ⟨found, rendered⟩
    obtain ⟨source, target, same⟩ :=
      @run_of_finds (settingOf here environment presentation) _ _ _ found
    rw [same]
    exact output_preview rendered
  · rintro generator text report ⟨found, rendered⟩ ended
    rw [fst_written found]
    exact Generator.readable_of_run rendered ended
  · constructor
    · rintro ⟨-, generator, report, found, ended, unchanged⟩
      obtain ⟨text, rendered, held⟩ := Generator.run_unchanged_iff.mp ⟨report, ended, unchanged⟩
      exact code_run_check.mpr ⟨generator, text, ⟨found, rendered⟩, held⟩
    · intro succeeds
      obtain ⟨generator, text, ⟨found, rendered⟩, held⟩ := code_run_check.mp succeeds
      obtain ⟨report, ended, unchanged⟩ := Generator.run_unchanged_iff.mpr ⟨text, rendered, held⟩
      refine ⟨?_, generator, report, found, ended, unchanged⟩
      rw [fst_written found]
      exact congrArg Prod.fst ended
  · intro fails
    have failed := @run_of_not_renders (settingOf here environment presentation) _ _ fails
    exact ⟨⟨(failed .write).1, (failed .preview).1, (failed .check).1⟩,
      (failed .write).2, (failed .preview).2, (failed .check).2⟩

/-- Files that belong to a project, of which their root is the directory. -/
def projectOf (files : FileSystem) : FileSystem :=
  files.put [Project.manifestName.bytes] (.file plainMode [])

/-- The generator for the small package as a project. -/
def projectGenerator (output : String) : Generator :=
  ⟨.ofString "/src", .ofString output, .default⟩

theorem renders_smallProject :
    ∃ text, Renders (projectOf Generator.smallFiles) [] []
      ⟨some (.ofString "src"), some (.ofString "gen/models.rs"), none, none⟩
      (projectGenerator "/gen/models.rs") text := by
  obtain ⟨plan, text, prepared⟩ :=
    @Generator.exists_prepare_of_single (projectGenerator "/gen/models.rs")
      (projectOf Generator.smallFiles) [] [Generator.smallNames.1] Generator.smallNames.2
      directoryMode (by decide +kernel) (by decide +kernel) (by decide +kernel) (by decide +kernel)
  refine ⟨text, ⟨⟨.ofString "/", none⟩, ?_, ?_⟩, Generator.render_eq_ok_iff.mpr ⟨plan, prepared⟩⟩
  · decide +kernel
  · decide +kernel

/-- In the small project the preview prints the registry. -/
theorem modes_agree_smallProject :
    ∃ presentation overrides generator text,
      Invocation.parse [] ["generate", "--source", "src", "--out", "gen/models.rs"] =
        .ok ⟨presentation, .generate overrides .write⟩ ∧
      Renders (projectOf Generator.smallFiles) [] [] overrides generator text ∧
      (run (projectOf Generator.smallFiles) [] []
        ["generate", "--dry-run", "--source", "src", "--out", "gen/models.rs"]).2.code = 0 ∧
      (run (projectOf Generator.smallFiles) [] []
        ["generate", "--dry-run", "--source", "src", "--out", "gen/models.rs"]).2.output = text := by
  have plain : Invocation.parse [] ["generate", "--source", "src", "--out", "gen/models.rs"] =
      .ok ⟨⟨.table, false, false, false⟩, .generate
        ⟨some (.ofString "src"), some (.ofString "gen/models.rs"), none, none⟩ .write⟩ := by
    decide +kernel
  obtain ⟨text, renders⟩ := renders_smallProject
  obtain ⟨succeeds, prints, -⟩ := modes_agree plain (projectOf Generator.smallFiles) []
  exact ⟨_, _, _, text, plain, renders, succeeds.mpr ⟨_, text, renders⟩, prints _ text renders⟩

theorem run_linkProject (content : Bytes) :
    (Replacement.mk [] (projectGenerator "/l/l").output content).run
        (projectOf Generator.linkFiles) =
      ((projectOf Generator.linkFiles).put [Utf8.encode "l"] (.file directoryMode content),
        .ok .written) := by
  cbv

theorem read_linkProject (content : Bytes) :
    ((projectOf Generator.linkFiles).put [Utf8.encode "l"] (.file directoryMode content)).read []
      (projectGenerator "/l/l").output = .error .notDirectory := by
  cbv

/-- The generation writes the registry in the place of the link, under a path that leads through
this link, and the registry cannot be read there. -/
theorem unreadable_of_run_linkProject :
    ∃ presentation overrides generator text report,
      Invocation.parse [] ["generate", "--source", "src", "--out", "l/l"] =
        .ok ⟨presentation, .generate overrides .write⟩ ∧
      Renders (projectOf Generator.linkFiles) [] [] overrides generator text ∧
      (generator.run (projectOf Generator.linkFiles) []).2 = .ok report ∧
      (run (projectOf Generator.linkFiles) [] []
        ["generate", "--source", "src", "--out", "l/l"]).1.read [] generator.output =
          .error .notDirectory := by
  have plain : Invocation.parse [] ["generate", "--source", "src", "--out", "l/l"] =
      .ok ⟨⟨.table, false, false, false⟩, .generate
        ⟨some (.ofString "src"), some (.ofString "l/l"), none, none⟩ .write⟩ := by
    decide +kernel
  obtain ⟨plan, text, prepared⟩ :=
    @Generator.exists_prepare_of_single (projectGenerator "/l/l")
      (projectOf Generator.linkFiles) [] [Generator.smallNames.1] Generator.smallNames.2
      directoryMode (by decide +kernel) (by decide +kernel) (by decide +kernel) (by decide +kernel)
  have found : Finds (projectOf Generator.linkFiles) [] []
      ⟨some (.ofString "src"), some (.ofString "l/l"), none, none⟩ (projectGenerator "/l/l") := by
    refine ⟨⟨.ofString "/", none⟩, ?_, ?_⟩ <;> decide +kernel
  have replaced := run_linkProject (Utf8.encode text)
  have success := Generator.run_eq_ok_iff.mpr ⟨plan, text, .written, prepared, replaced, rfl⟩
  obtain ⟨_, isWritten⟩ := run_of_parse plain (projectOf Generator.linkFiles) []
  have same := @fst_run_write (settingOf [] [] ⟨.table, false, false, false⟩) _ _ _ found
  refine ⟨_, _, _, text, _, plain, ⟨found, Generator.render_eq_ok_iff.mpr ⟨plan, prepared⟩⟩,
    congrArg Prod.snd success, ?_⟩
  rw [isWritten, perform, same, show (settingOf [] [] _).here = [] from rfl, success]
  exact read_linkProject (Utf8.encode text)

end CommandLine

end RecordRegistry
