/-
# The command that generates a registry

It writes the registry, prints it, or compares it with the one on disk.  A registry that is missing
or stale makes the comparison fail.
-/

import RecordRegistry.Command.Outcome

namespace RecordRegistry

namespace GenerateCommand

/-- The rows of a table for entries that have been registered. -/
def rows (entries : List Entry) : List (List String) :=
  if entries = [] then [["-", "No record types found", ""]]
  else
    entries.mapIdx fun index entry =>
      [toString (index + 1), entry.name, entry.module.getD "(root)"]

/-- A report in each of the forms. -/
def display (report : Report) : Display :=
  { json := report.output.text?.map fun output =>
      .object
        [("output_file", .text output), ("files", .number report.files),
          ("declarations", .number report.declarations),
          ("entries", .array (report.entries.map Entry.json)),
          ("outcome", .text report.outcome.text)]
    table := ⟨["#", "Model", "Module"], rows report.entries⟩
    compact :=
      report.output.shown ++ " " ++ report.outcome.text ++ " models=" ++
        toString report.entries.length ++ " declarations=" ++ toString report.declarations ++
        " files=" ++ toString report.files }

/-- A comparison as JSON. -/
def freshnessJson (freshness : Freshness) : JsonValue :=
  .object <| ("status", .text freshness.text) ::
    match freshness with
    | .stale onDisk expected =>
      [("on_disk", .ofTexts onDisk), ("expected", .ofTexts expected)]
    | .upToDate | .missing => []

/-- The paths by which two lists differ: those that are to be added and those to be removed. -/
def differences (prose : Prose) (onDisk expected : List String) : String :=
  String.join ((expected.filter fun path => !onDisk.contains path).map (prose.indented "+")) ++
    String.join ((onDisk.filter fun path => !expected.contains path).map (prose.indented "-"))

/-- Reports a comparison with the registry that is shown as `target`. -/
def reportCheck (setting : Setting) (target errors : String) (freshness : Freshness) : Outcome :=
  let prose := setting.prose
  let output :=
    if prose.presentation.format = .json then (freshnessJson freshness).render ++ "\n" else ""
  match freshness with
  | .upToDate => .success (output ++ prose.message .success (target ++ " is up to date")) errors
  | .missing =>
    setting.failure output (errors ++ prose.error (target ++ " does not exist"))
      "Registry missing; run 'modelreg generate'"
  | .stale onDisk expected =>
    setting.failure (output ++ differences prose onDisk expected)
      (errors ++ prose.error (target ++ " is out of date"))
      "Registry is stale; run 'modelreg generate'"

/-- Reports a registry that has been written, and is shown as `target`. -/
def reportRun (setting : Setting) (target errors : String) (report : Report) : Outcome :=
  let prose := setting.prose
  let output := prose.heading "Model Registry"
  match (display report).render prose with
  | .error message => setting.failure output errors message
  | .ok text =>
    let remark := match report.outcome with
      | .written =>
        prose.message .success
          ("Generated " ++ target ++ " with " ++ toString report.entries.length ++ " model(s)")
      | .unchanged => prose.message .note (target ++ " is already up to date")
    .success (output ++ text ++ remark) errors

/-- Runs the command for a generator whose directory and file are shown as given. -/
def runFor (setting : Setting) (files : FileSystem) (generator : Generator)
    (source target : String) (mode : GenerateMode) : FileSystem × Outcome :=
  let errors := setting.prose.detail ("Scanning " ++ source) ++
    setting.logged (generator.planRecords files setting.here)
  let failure := fun (start errors : String) (error : GenerationError) =>
    setting.failure "" errors (start ++ source ++ ": " ++ error.account)
  match mode with
  | .preview =>
    (files, match generator.render files setting.here with
      | .error error => failure "Failed to render registry for " errors error
      | .ok text => .success text errors)
  | .check =>
    (files, match generator.check files setting.here with
      | .error error => failure "Failed to check registry for " errors error
      | .ok freshness => reportCheck setting target errors freshness)
  | .write =>
    let (after, result) := generator.run files setting.here
    let errors := errors ++ setting.logged (generator.runRecords result)
    (after, match result with
      | .error error => failure "Failed to generate registry from " errors error
      | .ok report => reportRun setting target errors report)

/-- Runs the command. -/
def run (setting : Setting) (files : FileSystem) (overrides : Overrides) (mode : GenerateMode) :
    FileSystem × Outcome :=
  let found := do
    let project ← setting.project files
    let generator ← project.generator setting.environment overrides
    return (project, generator)
  match found with
  | .error error => (files, setting.failure "" "" error.message)
  | .ok (project, generator) =>
    runFor setting files generator (project.shown generator.source) (project.shown generator.output)
      mode

end GenerateCommand

end RecordRegistry
