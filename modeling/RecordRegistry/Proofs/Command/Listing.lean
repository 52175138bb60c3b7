/-
# What a listing says about a generation

The command that lists declarations shows what a generation would register, if both are asked for
the same source and neither for another output: then they find the same generator and make the same
plan.  It does not ask the environment for the output, as a generation does, so that with an output
from there it may list files that are not looked at, or fail where nothing is wrong.
-/

import RecordRegistry.Proofs.Command.Generating

namespace RecordRegistry

open GenerateCommand (Finds)

variable {setting : Setting} {files changed : FileSystem} {source : Option FilePath}
  {generator : Generator} {plan : Plan} {report : Report} {here : Location}

/-- The declarations that are shown as registered are those of the entries of the plan. -/
theorem Generator.registered_of_plan (planned : generator.plan files here = .ok plan) :
    (plan.declarations.filter ScanCommand.isRegistered).map Declaration.entry = plan.entries := by
  obtain ⟨package, -, rfl⟩ := Generator.plan_eq_ok_iff.mp planned
  rw [Plan.ofPackage, selectedEntries, entries, List.filter_map]
  rfl

/-- A run registers the entries of the plan, from as many files. -/
theorem Generator.report_of_plan (planned : generator.plan files here = .ok plan)
    (ended : generator.run files here = (changed, .ok report)) :
    report.entries = plan.entries ∧ report.files = plan.files.length := by
  obtain ⟨other, text, outcome, prepared, -, rfl⟩ := Generator.run_eq_ok_iff.mp ended
  obtain ⟨again, -⟩ := Generator.prepare_eq_ok_iff.mp prepared
  obtain rfl : plan = other := Except.ok.inj (planned.symm.trans again)
  exact ⟨rfl, rfl⟩

namespace ScanCommand

/-- A listing can always be rendered. -/
theorem exists_render (plan : Plan) (prose : Prose) :
    ∃ text, (display plan).render prose = .ok text := by
  unfold Display.render
  cases prose.presentation.quiet with
  | true => exact ⟨_, rfl⟩
  | false =>
      cases prose.presentation.format with
      | json => exact ⟨_, rfl⟩
      | table => exact ⟨_, rfl⟩
      | compact => exact ⟨_, rfl⟩

/-- With a generator that has a plan, the plan is listed under a heading. -/
theorem run_under_heading
    (found : Finds files setting.here setting.environment ⟨source, none, none, none⟩ generator)
    (planned : generator.plan files setting.here = .ok plan) :
    ∃ title text errors, (display plan).render setting.prose = .ok text ∧
      run setting files source =
        .success (setting.prose.heading title ++ text ++ remarks setting.prose plan) errors := by
  obtain ⟨project, first, second⟩ := found
  have located : setting.project files = .ok project := first
  have made : project.generator setting.environment { Overrides.none with source := source } =
      .ok generator := second
  obtain ⟨text, rendered⟩ := exists_render plan setting.prose
  refine ⟨"Declarations in " ++ project.shown generator.source, text,
    setting.logged (generator.planRecords files setting.here), rendered, ?_⟩
  simp [run, located, made, planned, rendered]

/-- With a generator that has a plan, the plan is listed. -/
theorem run_of_plan
    (found : Finds files setting.here setting.environment ⟨source, none, none, none⟩ generator)
    (planned : generator.plan files setting.here = .ok plan) :
    ∃ heading text errors, (display plan).render setting.prose = .ok text ∧
      run setting files source = .success (heading ++ text ++ remarks setting.prose plan) errors := by
  obtain ⟨title, text, errors, rendered, same⟩ := run_under_heading found planned
  exact ⟨_, text, errors, rendered, same⟩

/-- Without a generator, or without a plan, the listing fails and prints nothing. -/
theorem run_of_not_planned
    (fails : ∀ generator plan,
      Finds files setting.here setting.environment ⟨source, none, none, none⟩ generator →
        generator.plan files setting.here ≠ .ok plan) :
    ∃ errors message, run setting files source = setting.failure "" errors message := by
  cases located : setting.project files with
  | error error => exact ⟨_, _, by simp [run, located]; rfl⟩
  | ok project =>
      cases made : project.generator setting.environment ⟨source, none, none, none⟩ with
      | error error => exact ⟨_, _, by simp [run, located, made, Overrides.none]; rfl⟩
      | ok generator =>
          cases planned : generator.plan files setting.here with
          | error error =>
              exact ⟨_, _, by
                simp [run, located, made, Overrides.none, planned]
                rfl⟩
          | ok plan => exact absurd planned (fails generator plan ⟨project, located, made⟩)

theorem code_run :
    (run setting files source).code = 0 ↔
      ∃ generator plan, Finds files setting.here setting.environment ⟨source, none, none, none⟩
        generator ∧ generator.plan files setting.here = .ok plan := by
  constructor
  · intro succeeds
    by_contra! fails
    obtain ⟨errors, message, same⟩ := run_of_not_planned fails
    rw [same] at succeeds
    cases succeeds
  · rintro ⟨generator, plan, found, planned⟩
    obtain ⟨heading, text, errors, -, same⟩ := run_of_plan found planned
    rw [same]
    rfl

end ScanCommand

namespace CommandLine

open GenerateCommand Gathered Invocation

variable {environment : Environment} {words : List SystemText} {presentation : Presentation}

/-- If a listing and a generation are asked for the same source, and nothing else is asked for, the
listing succeeds where a generation finds a generator and a plan, and it lists that plan.  What it
shows as registered is what a generation registers. -/
theorem scan_previews_generate
    (lists : Invocation.parse environment ("scan" :: words) = .ok ⟨presentation, .scan source⟩)
    (generates : Invocation.parse environment ("generate" :: words) =
      .ok ⟨presentation, .generate ⟨source, none, none, none⟩ .write⟩)
    (files : FileSystem) (here : Location) :
    let listed := run files here environment ("scan" :: words)
    let generated := run files here environment ("generate" :: words)
    (listed.2.code = 0 ↔ ∃ generator plan,
      Finds files here environment ⟨source, none, none, none⟩ generator ∧
        generator.plan files here = .ok plan) ∧
    (listed.2.code ≠ 0 → generated = (files, generated.2) ∧ generated.2.code = 1) ∧
    ∀ generator plan, Finds files here environment ⟨source, none, none, none⟩ generator →
      generator.plan files here = .ok plan →
      (∃ heading text remarks,
        (ScanCommand.display plan).render ⟨presentation, forcesColour environment⟩ = .ok text ∧
          listed.2.output = heading ++ text ++ remarks) ∧
      (plan.declarations.filter ScanCommand.isRegistered).map Declaration.entry = plan.entries ∧
      generated.1 = (generator.run files here).1 ∧
      ∀ report, (generator.run files here).2 = .ok report →
        report.entries = plan.entries ∧ report.files = plan.files.length := by
  intro listed generated
  obtain ⟨_, isListed⟩ := run_of_parse lists files here
  obtain ⟨_, isGenerated⟩ := run_of_parse generates files here
  simp only [listed, generated, isListed, isGenerated, perform]
  refine ⟨ScanCommand.code_run, fun fails => ?_, fun generator plan found planned => ?_⟩
  · have unrendered : ∀ generator text, ¬ Renders files here environment ⟨source, none, none, none⟩
        generator text := by
      rintro generator text ⟨found, rendered⟩
      obtain ⟨plan, prepared⟩ := Generator.render_eq_ok_iff.mp rendered
      exact fails (ScanCommand.code_run.mpr
        ⟨generator, plan, found, (Generator.prepare_eq_ok_iff.mp prepared).1⟩)
    obtain ⟨same, code⟩ :=
      @run_of_not_renders (settingOf here environment presentation) _ _ unrendered .write
    exact ⟨Prod.ext same rfl, code⟩
  · obtain ⟨heading, text, errors, rendered, same⟩ :=
      @ScanCommand.run_of_plan (settingOf here environment presentation) _ _ _ _ found planned
    refine ⟨⟨heading, text, _, rendered, by rw [same]; rfl⟩, Generator.registered_of_plan planned,
      @fst_run_write (settingOf here environment presentation) _ _ _ found, fun report ended => ?_⟩
    exact Generator.report_of_plan planned (show _ = (_, _) from Prod.ext rfl ended)

/-- Without words, a command has the source that the environment names, if that is all it names. -/
theorem complete_of_unset {command : CommandName}
    (either : command = .scan ∨ command = .generate)
    (unset : environment.get? "MODELREG_OUTPUT_FILE" = none)
    (filled : environment.get? "MODELREG_SOURCE_DIR" ≠ some ⟨[]⟩) :
    Gathered.complete command environment [] = .ok ⟨command,
      ((environment.get? "MODELREG_SOURCE_DIR").map fun value => (.source, value)).toList, none⟩ := by
  refine complete_eq_ok_iff.mpr ⟨_, _, _, rfl, rfl, ?_, ?_⟩
  · cases assigned : environment.get? "MODELREG_SOURCE_DIR" with
    | none =>
        obtain rfl | rfl := either <;>
          simp [takeVariables, CommandName.ownOptions, CommandOption.fallback?, assigned, unset,
            start]
    | some value =>
        have some : checkValue command .source value = .ok () := by
          have text : value.bytes ≠ [] := fun empty =>
            filled (assigned.trans (congrArg Option.some (congrArg SystemText.mk empty)))
          simp [checkValue, text, CommandOption.choices, CommandOption.isPath]
        have accepted : (start command).accept .source value =
            .ok ⟨command, [(.source, value)], none⟩ :=
          accept_eq_ok_iff.mpr ⟨rfl, some, rfl⟩
        obtain rfl | rfl := either <;>
          simp [takeVariables, CommandName.ownOptions, CommandOption.fallback?, assigned, unset,
            accepted, show (start _).has .source = false from rfl]
  · cases environment.get? "MODELREG_SOURCE_DIR" <;> rfl

/-- With such an environment, a listing and a generation are asked for the same source and nothing
else. -/
theorem parse_of_unset (unset : environment.get? "MODELREG_OUTPUT_FILE" = none)
    (filled : environment.get? "MODELREG_SOURCE_DIR" ≠ some ⟨[]⟩) :
    Invocation.parse environment ["scan"] = .ok ⟨⟨.table, false, false, false⟩,
        .scan ((environment.get? "MODELREG_SOURCE_DIR").map .ofSystem)⟩ ∧
      Invocation.parse environment ["generate"] = .ok ⟨⟨.table, false, false, false⟩,
        .generate ⟨(environment.get? "MODELREG_SOURCE_DIR").map .ofSystem, none, none, none⟩
          .write⟩ := by
  have listed := complete_of_unset (.inl rfl) unset filled
  have generated := complete_of_unset (.inr rfl) unset filled
  generalize environment.get? "MODELREG_SOURCE_DIR" = assigned at listed generated
  constructor
  · have reached : (start .program).gather ["scan"] = .ok (start .program, some (.scan, [])) := rfl
    simp only [parse, reached, listed, ok_bind]
    cases assigned <;> rfl
  · refine parse_generate_eq_ok_iff.mpr ⟨_, _, generated, action?_of_generate rfl, ?_⟩
    cases assigned <;> rfl

example : Invocation.parse [("MODELREG_SOURCE_DIR", "src")] ["scan"] =
    .ok ⟨⟨.table, false, false, false⟩, .scan (some (.ofString "src"))⟩ := by
  decide +kernel

/-- An environment that asks for the source of the small package. -/
def sourceEnvironment : Environment := [("MODELREG_SOURCE_DIR", "src")]

/-- In the small project a listing shows what is registered. -/
theorem scan_previews_generate_smallProject :
    ∃ presentation source generator plan,
      Invocation.parse sourceEnvironment ["scan"] = .ok ⟨presentation, .scan source⟩ ∧
      Invocation.parse sourceEnvironment ["generate"] =
        .ok ⟨presentation, .generate ⟨source, none, none, none⟩ .write⟩ ∧
      Finds (projectOf Generator.smallFiles) [] sourceEnvironment ⟨source, none, none, none⟩
        generator ∧
      generator.plan (projectOf Generator.smallFiles) [] = .ok plan ∧
      (run (projectOf Generator.smallFiles) [] sourceEnvironment ["scan"]).2.code = 0 ∧
      (plan.declarations.filter ScanCommand.isRegistered).map Declaration.entry = plan.entries := by
  obtain ⟨lists, generates⟩ := @parse_of_unset sourceEnvironment (by decide +kernel)
    (by decide +kernel)
  have found : Finds (projectOf Generator.smallFiles) [] sourceEnvironment
      ⟨some (.ofString "src"), none, none, none⟩ (projectGenerator "/src/entity/models.rs") := by
    refine ⟨⟨.ofString "/", none⟩, ?_, ?_⟩ <;> decide +kernel
  obtain ⟨plan, planned, -⟩ :=
    @Generator.exists_plan_of_single (projectGenerator "/src/entity/models.rs")
      (projectOf Generator.smallFiles) [] [Generator.smallNames.1] Generator.smallNames.2
      directoryMode (by decide +kernel) (by decide +kernel) (by decide +kernel)
  obtain ⟨succeeds, -, all⟩ :=
    scan_previews_generate lists generates (projectOf Generator.smallFiles) []
  exact ⟨_, _, _, plan, lists, generates, found, planned, succeeds.mpr ⟨_, plan, found, planned⟩,
    (all _ plan found planned).2.1⟩

/-- An environment that asks for an output among the sources. -/
def outputEnvironment : Environment :=
  [("MODELREG_SOURCE_DIR", "src"), ("MODELREG_OUTPUT_FILE", "src/book.rs")]

/-- A listing does not heed the output that the environment asks for: it shows a record that a
generation would pass over. -/
theorem scan_ignores_outputEnvironment :
    ∃ presentation source overrides generator other plan otherPlan,
      Invocation.parse outputEnvironment ["scan"] = .ok ⟨presentation, .scan source⟩ ∧
      Invocation.parse outputEnvironment ["generate"] =
        .ok ⟨presentation, .generate overrides .write⟩ ∧
      Finds (projectOf Generator.smallFiles) [] outputEnvironment ⟨source, none, none, none⟩
        generator ∧
      generator.plan (projectOf Generator.smallFiles) [] = .ok plan ∧
      plan.entries.map Entry.relativePath = ["book::Book"] ∧
      Finds (projectOf Generator.smallFiles) [] outputEnvironment overrides other ∧
      other.plan (projectOf Generator.smallFiles) [] = .ok otherPlan ∧
      otherPlan.entries = [] := by
  have lists : Invocation.parse outputEnvironment ["scan"] =
      .ok ⟨⟨.table, false, false, false⟩, .scan (some (.ofString "src"))⟩ := by
    decide +kernel
  have generates : Invocation.parse outputEnvironment ["generate"] =
      .ok ⟨⟨.table, false, false, false⟩, .generate
        ⟨some (.ofString "src"), some (.ofString "src/book.rs"), none, none⟩ .write⟩ := by
    decide +kernel
  have finds {output : Option FilePath} {path : String}
      (same : (⟨.ofString "/", none⟩ : Project).generator outputEnvironment
        ⟨some (.ofString "src"), output, none, none⟩ = .ok (projectGenerator path)) :
      Finds (projectOf Generator.smallFiles) [] outputEnvironment
        ⟨some (.ofString "src"), output, none, none⟩ (projectGenerator path) :=
    ⟨⟨.ofString "/", none⟩, by decide +kernel, same⟩
  obtain ⟨plan, planned, entries⟩ :=
    @Generator.exists_plan_of_single (projectGenerator "/src/entity/models.rs")
      (projectOf Generator.smallFiles) [] [Generator.smallNames.1] Generator.smallNames.2
      directoryMode (by decide +kernel) (by decide +kernel) (by decide +kernel)
  obtain ⟨otherPlan, otherPlanned, otherEntries⟩ :=
    @Generator.exists_plan_of_single (projectGenerator "/src/book.rs")
      (projectOf Generator.smallFiles) [] [Generator.smallNames.1] Generator.smallNames.2
      directoryMode (by decide +kernel) (by decide +kernel) (by decide +kernel)
  refine ⟨_, _, _, _, _, plan, otherPlan, lists, generates, finds (by decide +kernel), planned, ?_,
    finds (by decide +kernel), otherPlanned, ?_⟩
  · rw [entries]
    decide +kernel
  · rw [otherEntries]
    decide +kernel

end CommandLine

end RecordRegistry
