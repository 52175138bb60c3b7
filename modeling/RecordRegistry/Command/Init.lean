/-
# The command that configures a project

It writes the default configuration, unless there is one already and overwriting it is not asked
for.
-/

import RecordRegistry.Command.Outcome

namespace RecordRegistry

namespace InitCommand

/-- Writes the default configuration. The text is why that fails. -/
def configure (files : FileSystem) (here : Location) (project : Project) (force : Bool) :
    FileSystem × Except String Unit :=
  if project.isInitialized files here && !force then
    (files, .error
      (project.shown project.configuration ++ " already exists (use --force to overwrite)"))
  else
    match files.makeDirectories here project.directory with
    | (made, .error fault) =>
      (made, .error ("Failed to create " ++ project.directory.shown ++ ": " ++ fault.message))
    | (made, .ok ()) =>
      match made.write here project.configuration (Utf8.encode Settings.default.text) with
      | .error fault =>
        (made, .error ("Failed to write " ++ project.configuration.shown ++ ": " ++ fault.message))
      | .ok written => (written, .ok ())

/-- The note about a configuration that was written. -/
def record (project : Project) : LogRecord :=
  ⟨.debug, "modelreg::commands::init", "initialized " ++ project.configuration.shown⟩

/-- Runs the command. -/
def run (setting : Setting) (files : FileSystem) (force : Bool) : FileSystem × Outcome :=
  let prose := setting.prose
  match setting.project files with
  | .error error => (files, setting.failure "" "" error.message)
  | .ok project =>
    match configure files setting.here project force with
    | (after, .error message) => (after, setting.failure "" "" message)
    | (after, .ok ()) =>
      (after, .success
        (prose.message .success ("Wrote " ++ project.shown project.configuration) ++
          prose.keyValue "source_dir" Settings.default.source ++
          prose.keyValue "output_file" Settings.default.output ++
          prose.message .note "Run 'modelreg generate' to build the registry.")
        (setting.logged [record project]))

end InitCommand

end RecordRegistry
