/-
# The command that lists declarations

It shows every declaration that a generation would look at, and which of them it would register,
without writing anything.
-/

import RecordRegistry.Command.Outcome

namespace RecordRegistry

namespace ScanCommand

/-- Whether a declaration would be registered. -/
def isRegistered (declaration : Declaration) : Bool := declaration.shape = .record

/-- A declaration as a row of a table. -/
def row (declaration : Declaration) : List String :=
  [declaration.name, declaration.shape.text, if isRegistered declaration then "yes" else "no",
    declaration.position.text]

/-- A plan in each of the forms. -/
def display (plan : Plan) : Display :=
  { json := some (.object
      [("files", .number plan.files.length),
        ("declarations", .array (plan.declarations.map Declaration.json)),
        ("duplicates", .ofTexts plan.duplicates)])
    table := ⟨["Name", "Shape", "Registered", "Location"], plan.declarations.map row⟩
    compact :=
      "models: " ++ ", ".intercalate ((plan.declarations.filter isRegistered).map Declaration.name) }

/-- What is said about a plan after it has been shown. -/
def remarks (prose : Prose) (plan : Plan) : String :=
  prose.message .note
      (toString (plan.declarations.filter isRegistered).length ++ " of " ++
        toString plan.declarations.length ++ " declaration(s) in " ++ toString plan.files.length ++
        " file(s) would be registered") ++
    String.join (plan.duplicates.map fun path =>
      prose.message .warning ("`" ++ path ++ "` is declared more than once"))

/-- Runs the command. -/
def run (setting : Setting) (files : FileSystem) (source : Option FilePath) : Outcome :=
  let prose := setting.prose
  let found := do
    let project ← setting.project files
    let generator ← project.generator setting.environment { Overrides.none with source := source }
    return (project, generator)
  match found with
  | .error error => setting.failure "" "" error.message
  | .ok (project, generator) =>
    let shown := project.shown generator.source
    let errors := setting.logged (generator.planRecords files setting.here)
    match generator.plan files setting.here with
    | .error error => setting.failure "" errors ("Failed to scan " ++ shown ++ ": " ++ error.account)
    | .ok plan =>
      let output := prose.heading ("Declarations in " ++ shown)
      match (display plan).render prose with
      | .error message => setting.failure output errors message
      | .ok text => .success (output ++ text ++ remarks prose plan) errors

end ScanCommand

end RecordRegistry
