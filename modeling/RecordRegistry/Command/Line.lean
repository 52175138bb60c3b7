/-
# The command line

From the words of a command line to what the program prints.  The environment decides about
colours: they are shown only where they are forced, which messages, log records and help each judge
by a rule of their own.
-/

import RecordRegistry.Command.Generate
import RecordRegistry.Command.Help
import RecordRegistry.Command.Init
import RecordRegistry.Command.Scan

namespace RecordRegistry

namespace CommandLine

/-- Whether the environment forces colours in messages. -/
def forcesColour (environment : Environment) : Bool :=
  match environment.text? "CLICOLOR_FORCE" with
  | some value => value ≠ "0"
  | none => false

/-- Whether a variable is set and not empty. -/
def isFilled (environment : Environment) (name : String) : Bool :=
  (environment.get? name).any fun value => value.bytes ≠ []

/-- Whether log records are coloured. Unlike for messages, any text forces colours, but a wish for
none is heeded. -/
def coloursLog (environment : Environment) : Bool :=
  match environment.text? "RUST_LOG_STYLE" with
  | some "always" => true
  | some "never" => false
  | _ => isFilled environment "CLICOLOR_FORCE" && !isFilled environment "NO_COLOR"

/-- Whether help and usage errors are coloured: as far as both messages and log records would be. -/
def coloursHelp (environment : Environment) : Bool :=
  forcesColour environment && isFilled environment "CLICOLOR_FORCE" &&
    !isFilled environment "NO_COLOR"

/-- How log records are shown, and warnings about what is not understood in the filter. -/
def logStyle (environment : Environment) (verbose : Bool) : LogStyle × String :=
  let text := (environment.text? "RUST_LOG").getD (if verbose then "debug" else "warn")
  let (filter, problems) := LogFilter.parse text
  (⟨filter, coloursLog environment⟩,
    String.join (problems.map fun problem => "warning: " ++ problem ++ ", ignoring it\n"))

/-- What the program prints if nothing is to be done. -/
def halted (environment : Environment) (halt : Halt) : Outcome :=
  let coloured := coloursHelp environment
  match halt with
  | .help command long =>
    .success ((Help.styled environment coloured long command).render coloured) ""
  | .version => .success (CommandName.programWord ++ " " ++ CommandName.versionText ++ "\n") ""
  | .nothing =>
    ⟨Outcome.usageCode, "", (Help.styled environment coloured false .program).render coloured⟩
  | .mistake error => ⟨Outcome.usageCode, "", error.styled.render coloured⟩

/-- Does what an invocation asks for. -/
def perform (files : FileSystem) (setting : Setting) : Action → FileSystem × Outcome
  | .init force => InitCommand.run setting files force
  | .generate overrides mode => GenerateCommand.run setting files overrides mode
  | .scan source => (files, ScanCommand.run setting files source)

/-- Runs the program with the given words in a working directory. -/
def run (files : FileSystem) (here : Location) (environment : Environment)
    (words : List SystemText) : FileSystem × Outcome :=
  match Invocation.parse environment words with
  | .error halt => (files, halted environment halt)
  | .ok ⟨presentation, action⟩ =>
    let (log, warnings) := logStyle environment presentation.verbose
    let setting := ⟨here, environment, ⟨presentation, forcesColour environment⟩, log⟩
    let (after, outcome) := perform files setting action
    (after, { outcome with errors := warnings ++ outcome.errors })

end CommandLine

end RecordRegistry
