/-
# What commands print

Messages for people are left out where the output is for machines, so that all that a command prints
as JSON is one document, from which what the command reports can be decoded again.  With quiet output
nothing is printed, apart from one thing: the comparison with the registry on disk does not ask
whether it is wanted, and is printed as JSON all the same.  What the preview prints is the registry,
about which nothing is said here.
-/

import RecordRegistry.Proofs.Command.Listing
import RecordRegistry.Proofs.Json.Reported
import RecordRegistry.Proofs.Json.Written

namespace RecordRegistry

open GenerateCommand (Finds)

variable {setting : Setting} {files : FileSystem} {here : Location} {environment : Environment}
  {presentation : Presentation} {action : Action} {reported : Reported} {prose : Prose}

/-- What an action reports, if it comes to that. -/
inductive Reports (files : FileSystem) (here : Location) (environment : Environment) :
    Action → Reported → Prop
  | scan {source : Option FilePath} {generator : Generator} {plan : Plan}
      (found : Finds files here environment ⟨source, none, none, none⟩ generator)
      (planned : generator.plan files here = .ok plan) :
      Reports files here environment (.scan source) (.ofPlan plan)
  | write {overrides : Overrides} {generator : Generator} {report : Report}
      (found : Finds files here environment overrides generator)
      (ended : (generator.run files here).2 = .ok report) :
      Reports files here environment (.generate overrides .write) (.run report)
  | check {overrides : Overrides} {generator : Generator} {freshness : Freshness}
      (found : Finds files here environment overrides generator)
      (compared : generator.check files here = .ok freshness) :
      Reports files here environment (.generate overrides .check) (.comparison freshness)

/-- An action reports one thing at most. -/
theorem Reports.unique {other : Reported} (first : Reports files here environment action reported)
    (second : Reports files here environment action other) : reported = other := by
  cases first with
  | scan found planned =>
      obtain ⟨again, replanned⟩ := second
      obtain rfl := found.unique again
      rw [Except.ok.inj (planned.symm.trans replanned)]
  | write found ended =>
      obtain - | ⟨again, restarted⟩ := second
      obtain rfl := found.unique again
      rw [Except.ok.inj (ended.symm.trans restarted)]
  | check found compared =>
      obtain - | - | ⟨again, recompared⟩ := second
      obtain rfl := found.unique again
      rw [Except.ok.inj (compared.symm.trans recompared)]

namespace Reported

/-- Whether what is reported is printed as JSON. A comparison does not ask for quiet output. -/
def isPrinted (presentation : Presentation) : Reported → Bool
  | listing _ _ _ | run _ => presentation.format = .json && !presentation.quiet
  | comparison _ => presentation.format = .json

/-- What is printed of a report if nothing is printed for people. -/
def printed (presentation : Presentation) (reported : Reported) : String :=
  match reported.json? with
  | some value => if reported.isPrinted presentation then value.render ++ "\n" else ""
  | none => ""

end Reported

namespace Prose

/-- Nothing is printed for people. -/
def IsSilent (prose : Prose) : Prop := prose.isShown = false

theorem isSilent_of_json (json : prose.presentation.format = .json) : prose.IsSilent := by
  simp [IsSilent, isShown, json]

theorem isSilent_of_quiet (quiet : prose.presentation.quiet = true) : prose.IsSilent := by
  simp [IsSilent, isShown, quiet]

variable (silent : prose.IsSilent)

include silent

theorem whenShown_eq (text : String) : prose.whenShown text = "" := by
  rw [whenShown, silent]
  rfl

theorem message_eq (tone : Tone) (text : String) : prose.message tone text = "" :=
  whenShown_eq silent _

theorem heading_eq (text : String) : prose.heading text = "" := whenShown_eq silent _

theorem keyValue_eq (key value : String) : prose.keyValue key value = "" := whenShown_eq silent _

theorem differences_eq (onDisk expected : List String) :
    GenerateCommand.differences prose onDisk expected = "" := by
  have none (mark : String) (paths : List String) :
      String.join (paths.map (prose.indented mark)) = "" := by
    induction paths with
    | nil => rfl
    | cons path paths ih =>
        rw [List.map_cons, String.join_cons, ih, indented, whenShown_eq silent]
        rfl
  rw [GenerateCommand.differences, none, none]
  rfl

theorem remarks_eq (plan : Plan) : ScanCommand.remarks prose plan = "" := by
  have none (paths : List String) : String.join (paths.map fun path =>
      prose.message .warning ("\x60" ++ path ++ "\x60 is declared more than once")) = "" := by
    induction paths with
    | nil => rfl
    | cons path paths ih =>
        rw [List.map_cons, String.join_cons, ih, message_eq silent]
        rfl
  rw [ScanCommand.remarks, message_eq silent]
  exact none plan.duplicates

/-- Data that does not ask more than whether output is wanted is printed as a report, or cannot be
printed at all. -/
theorem render_of_json? {display : Display} (same : reported.json? = display.json)
    (asks : reported.isPrinted prose.presentation =
      (decide (prose.presentation.format = .json) && !prose.presentation.quiet)) :
    display.render prose = .ok (reported.printed prose.presentation) ∨
      reported.printed prose.presentation = "" ∧
        ∃ message, display.render prose = .error message := by
  unfold Reported.printed Display.render
  rw [same, asks]
  cases quiet : prose.presentation.quiet with
  | true => cases display.json <;> simp
  | false =>
      have json : prose.presentation.format = .json := by simpa [IsSilent, isShown, quiet] using silent
      cases display.json <;> simp [json]

end Prose

section Printing

variable {overrides : Overrides} {generator : Generator} (silent : setting.prose.IsSilent)

include silent

theorem output_scan {source : Option FilePath} {plan : Plan}
    (found : Finds files setting.here setting.environment ⟨source, none, none, none⟩ generator)
    (planned : generator.plan files setting.here = .ok plan) :
    (ScanCommand.run setting files source).output =
      (Reported.ofPlan plan).printed setting.prose.presentation := by
  obtain ⟨title, text, errors, rendered, same⟩ := ScanCommand.run_under_heading found planned
  have printed : text = (Reported.ofPlan plan).printed setting.prose.presentation := by
    rcases Prose.render_of_json? silent (Reported.json?_ofPlan plan) rfl with done | ⟨-, _, failed⟩
    · exact Except.ok.inj (rendered.symm.trans done)
    · cases rendered.symm.trans failed
  rw [same, Prose.heading_eq silent, Prose.remarks_eq silent, Outcome.success, String.empty_append,
    String.append_empty, printed]

theorem output_reportRun {target errors : String} {report : Report} :
    (GenerateCommand.reportRun setting target errors report).output =
      (Reported.run report).printed setting.prose.presentation := by
  rcases @Prose.render_of_json? (.run report) _ silent (GenerateCommand.display report) rfl rfl with
    done | ⟨unprinted, message, failed⟩
  · cases outcome : report.outcome <;>
      simp [GenerateCommand.reportRun, done, outcome, Prose.heading_eq silent,
        Prose.message_eq silent, Outcome.success]
  · simp [GenerateCommand.reportRun, failed, unprinted, Prose.heading_eq silent, Setting.failure]

theorem output_reportCheck {target errors : String} {freshness : Freshness} :
    (GenerateCommand.reportCheck setting target errors freshness).output =
      (Reported.comparison freshness).printed setting.prose.presentation := by
  cases freshness with
  | upToDate =>
      simp [GenerateCommand.reportCheck, Outcome.success, Prose.message_eq silent, Reported.printed,
        Reported.json?, Reported.isPrinted]
  | missing =>
      simp [GenerateCommand.reportCheck, Setting.failure, Reported.printed, Reported.json?,
        Reported.isPrinted]
  | stale onDisk expected =>
      simp [GenerateCommand.reportCheck, Setting.failure, Prose.differences_eq silent,
        Reported.printed, Reported.json?, Reported.isPrinted]

/-- An action prints what it reports, and nothing else. -/
theorem output_of_reports
    (reports : Reports files setting.here setting.environment action reported) :
    (CommandLine.perform files setting action).2.output =
      reported.printed setting.prose.presentation := by
  cases reports with
  | scan found planned => exact output_scan silent found planned
  | write found ended =>
      obtain ⟨source, target, same⟩ := GenerateCommand.run_of_finds found
      obtain ⟨errors, account, written⟩ :=
        GenerateCommand.runFor_write setting files _ source target
      rw [CommandLine.perform, same, written, ended]
      exact output_reportRun silent
  | check found compared =>
      obtain ⟨source, target, same⟩ := GenerateCommand.run_of_finds found
      obtain ⟨errors, account, checked⟩ :=
        GenerateCommand.runFor_check setting files _ source target
      rw [CommandLine.perform, same, checked, compared]
      exact output_reportCheck silent

theorem output_init {force : Bool} : (InitCommand.run setting files force).2.output = "" := by
  unfold InitCommand.run
  split
  · rfl
  · split
    · rfl
    · simp [Outcome.success, Prose.message_eq silent, Prose.keyValue_eq silent]

/-- An action that comes to no report prints nothing, unless it is asked for the registry. -/
theorem output_of_not_reports
    (unasked : ∀ overrides, action ≠ .generate overrides .preview)
    (fails : ∀ reported, ¬ Reports files setting.here setting.environment action reported) :
    (CommandLine.perform files setting action).2.output = "" := by
  cases action with
  | init force => exact output_init silent
  | scan source =>
      obtain ⟨errors, message, same⟩ := ScanCommand.run_of_not_planned
        fun generator plan found planned => fails _ (.scan found planned)
      rw [CommandLine.perform, same]
      rfl
  | generate overrides mode =>
      by_cases found : ∃ generator,
        Finds files setting.here setting.environment overrides generator
      · obtain ⟨generator, found⟩ := found
        obtain ⟨source, target, same⟩ := GenerateCommand.run_of_finds found
        cases mode with
        | preview => exact absurd rfl (unasked overrides)
        | write =>
            obtain ⟨errors, account, written⟩ :=
              GenerateCommand.runFor_write setting files generator source target
            rw [CommandLine.perform, same, written]
            cases ended : (generator.run files setting.here).2 with
            | error error => rfl
            | ok report => exact absurd (.write found ended) (fails _)
        | check =>
            obtain ⟨errors, account, checked⟩ :=
              GenerateCommand.runFor_check setting files generator source target
            rw [CommandLine.perform, same, checked]
            cases compared : generator.check files setting.here with
            | error error => rfl
            | ok freshness => exact absurd (.check found compared) (fails _)
      · rw [not_exists] at found
        obtain ⟨message, same⟩ := GenerateCommand.run_of_not_finds found
        rw [CommandLine.perform, same]
        rfl

end Printing

namespace Reported

theorem json?_eq_none_iff :
    reported.json? = none ↔ ∃ report, reported = run report ∧ report.output.text? = none := by
  cases reported <;> simp [json?, GenerateCommand.display]

/-- What is written of a report ends with a brace. -/
theorem getLast?_render {value : JsonValue} (written : reported.json? = some value) :
    value.render.toList.getLast? = some '\x7d' := by
  have ends (name : String) (first : JsonValue) (members : List (String × JsonValue)) :
      (JsonValue.render (.object ((name, first) :: members))).toList.getLast? = some '\x7d' := by
    rw [JsonValue.render, String.toList_ofList, JsonValue.written, List.getLast?_append]
    rfl
  cases reported with
  | listing files declarations duplicates =>
      obtain rfl := Option.some.inj written
      exact ends _ _ _
  | run report =>
      obtain ⟨output, -, rfl⟩ := Option.map_eq_some_iff.mp written
      exact ends _ _ _
  | comparison freshness =>
      obtain rfl := Option.some.inj written
      exact ends _ _ _

end Reported

namespace CommandLine

variable {words : List SystemText}

/-- With output for machines, all that is printed is one document that ends its line, and decoding
this document yields what the action reports.  Nothing is printed only where there is no report, or
where it is not wanted, or where it has a path in it that is no text. -/
theorem output_of_json
    (asked : Invocation.parse environment words = .ok ⟨presentation, action⟩)
    (json : presentation.format = .json)
    (unasked : ∀ overrides, action ≠ .generate overrides .preview)
    (files : FileSystem) (here : Location) :
    let output := (run files here environment words).2.output
    (∃ document reported, output = document ++ "\n" ∧ document.toList.getLast? = some '\x7d' ∧
      Reports files here environment action reported ∧
      (JsonValue.decode? document).bind Reported.ofJson? = some reported) ∨
    output = "" ∧ ∀ reported, Reports files here environment action reported →
      reported.isPrinted presentation = false ∨
        ∃ report, reported = .run report ∧ report.output.text? = none := by
  intro output
  have silent : (settingOf here environment presentation).prose.IsSilent :=
    Prose.isSilent_of_json json
  obtain ⟨errors, same⟩ := run_of_parse asked files here
  have all : output = (perform files (settingOf here environment presentation) action).2.output := by
    simp only [output, same]
  by_cases reports : ∃ reported, Reports files here environment action reported
  · obtain ⟨reported, reports⟩ := reports
    have printed : output = reported.printed presentation :=
      all.trans (output_of_reports silent reports)
    cases written : reported.json? with
    | none =>
        refine .inr ⟨by rw [printed, Reported.printed, written], fun other again => ?_⟩
        obtain rfl := reports.unique again
        exact .inr (Reported.json?_eq_none_iff.mp written)
    | some value =>
        cases wanted : reported.isPrinted presentation with
        | false =>
            refine .inr ⟨by simp [printed, Reported.printed, written, wanted], fun other again => ?_⟩
            obtain rfl := reports.unique again
            exact .inl wanted
        | true =>
            refine .inl ⟨value.render, reported, ?_, Reported.getLast?_render written, reports, ?_⟩
            · simp [printed, Reported.printed, written, wanted]
            · rw [JsonValue.decode?_render]
              exact Reported.ofJson?_of_json? written
  · rw [not_exists] at reports
    exact .inr ⟨all.trans (output_of_not_reports silent unasked reports),
      fun reported report => absurd report (reports reported)⟩

/-- In the small project a listing for machines is one document, which holds the plan. -/
theorem output_of_json_smallProject :
    ∃ document generator plan,
      Finds (projectOf Generator.smallFiles) [] [] ⟨some (.ofString "src"), none, none, none⟩
        generator ∧
      generator.plan (projectOf Generator.smallFiles) [] = .ok plan ∧
      (run (projectOf Generator.smallFiles) [] []
        ["--output", "json", "scan", "--source", "src"]).2.output = document ++ "\n" ∧
      (JsonValue.decode? document).bind Reported.ofJson? = some (.ofPlan plan) := by
  have asked : Invocation.parse [] ["--output", "json", "scan", "--source", "src"] =
      .ok ⟨⟨.json, false, false, false⟩, .scan (some (.ofString "src"))⟩ := by
    decide +kernel
  have found : Finds (projectOf Generator.smallFiles) [] []
      ⟨some (.ofString "src"), none, none, none⟩ (projectGenerator "/src/entity/models.rs") := by
    refine ⟨⟨.ofString "/", none⟩, ?_, ?_⟩ <;> decide +kernel
  obtain ⟨plan, planned, -⟩ :=
    @Generator.exists_plan_of_single (projectGenerator "/src/entity/models.rs")
      (projectOf Generator.smallFiles) [] [Generator.smallNames.1] Generator.smallNames.2
      directoryMode (by decide +kernel) (by decide +kernel) (by decide +kernel)
  rcases output_of_json asked rfl (by simp) (projectOf Generator.smallFiles) [] with
    ⟨document, reported, printed, -, reports, decoded⟩ | ⟨-, unprinted⟩
  · obtain rfl := reports.unique (.scan found planned)
    exact ⟨document, _, plan, found, planned, printed, decoded⟩
  · rcases unprinted _ (.scan found planned) with unwanted | ⟨_, different, -⟩
    · cases unwanted
    · cases different

/-- With quiet output nothing is printed, in whatever form, unless a comparison comes to a result
and the output is for machines: then the comparison is printed all the same. -/
theorem output_of_quiet
    (asked : Invocation.parse environment words = .ok ⟨presentation, action⟩)
    (quiet : presentation.quiet = true)
    (unasked : ∀ overrides, action ≠ .generate overrides .preview)
    (files : FileSystem) (here : Location) :
    let output := (run files here environment words).2.output
    ((∀ freshness, presentation.format = .json →
        ¬ Reports files here environment action (.comparison freshness)) → output = "") ∧
      ∀ freshness, presentation.format = .json →
        Reports files here environment action (.comparison freshness) →
          output = (GenerateCommand.freshnessJson freshness).render ++ "\n" := by
  intro output
  have silent : (settingOf here environment presentation).prose.IsSilent :=
    Prose.isSilent_of_quiet quiet
  obtain ⟨errors, same⟩ := run_of_parse asked files here
  have all : output = (perform files (settingOf here environment presentation) action).2.output := by
    simp only [output, same]
  constructor
  · intro uncompared
    by_cases reports : ∃ reported, Reports files here environment action reported
    · obtain ⟨reported, reports⟩ := reports
      have unwanted : reported.isPrinted presentation = false := by
        cases reported with
        | listing files declarations duplicates => simp [Reported.isPrinted, quiet]
        | run report => simp [Reported.isPrinted, quiet]
        | comparison freshness =>
            simpa [Reported.isPrinted] using fun json => uncompared freshness json reports
      rw [all, output_of_reports silent reports, Reported.printed]
      cases reported.json? <;> simp [settingOf, unwanted]
    · rw [not_exists] at reports
      exact all.trans (output_of_not_reports silent unasked reports)
  · intro freshness json reports
    rw [all, output_of_reports silent reports]
    simp [Reported.printed, Reported.json?, Reported.isPrinted, settingOf, json]

/-- In the small project a generation that is to be quiet prints nothing. -/
theorem output_of_quiet_smallProject :
    (run (projectOf Generator.smallFiles) [] []
      ["-q", "generate", "--source", "src", "--out", "gen/models.rs"]).2.output = "" := by
  have asked : Invocation.parse [] ["-q", "generate", "--source", "src", "--out", "gen/models.rs"] =
      .ok ⟨⟨.table, true, false, false⟩, .generate
        ⟨some (.ofString "src"), some (.ofString "gen/models.rs"), none, none⟩ .write⟩ := by
    decide +kernel
  exact (output_of_quiet asked rfl (by simp) (projectOf Generator.smallFiles) []).1 (by simp)

/-- A comparison in the small project that is to be quiet, for machines. -/
def quietWords : List SystemText :=
  ["--quiet", "--output", "json", "generate", "--check", "--source", "src", "--out", "gen/models.rs"]

/-- The registry of the small project is missing. -/
theorem reports_smallProject :
    Reports (projectOf Generator.smallFiles) [] []
      (.generate ⟨some (.ofString "src"), some (.ofString "gen/models.rs"), none, none⟩ .check)
      (.comparison .missing) := by
  obtain ⟨text, found, rendered⟩ := renders_smallProject
  have absent : (projectOf Generator.smallFiles).read []
      (projectGenerator "/gen/models.rs").output = .error .missing := by
    decide +kernel
  exact .check found (by simp [Generator.check, rendered, absent])

/-- The comparison is printed although quiet output is asked for, and a registry is not. -/
theorem prints_quietWords :
    ∃ presentation overrides,
      Invocation.parse [] quietWords = .ok ⟨presentation, .generate overrides .check⟩ ∧
      presentation.quiet = true ∧
      (run (projectOf Generator.smallFiles) [] [] quietWords).2.output =
        "\x7b\n  \x22status\x22: \x22missing\x22\n\x7d\n" := by
  have asked : Invocation.parse [] quietWords = .ok ⟨⟨.json, true, false, false⟩, .generate
      ⟨some (.ofString "src"), some (.ofString "gen/models.rs"), none, none⟩ .check⟩ := by
    decide +kernel
  obtain ⟨errors, same⟩ := run_of_parse asked (projectOf Generator.smallFiles) []
  refine ⟨_, _, asked, rfl, ?_⟩
  rw [same]
  exact @output_of_reports (settingOf [] [] _) _ _ _ (Prose.isSilent_of_quiet rfl)
    reports_smallProject

end CommandLine

end RecordRegistry
