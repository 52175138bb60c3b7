/-
# Commands and their options

The words of the command line: the commands, and the options of each with what they take and what
they are for.  Four options are shared by all commands.
-/

import RecordRegistry.Terminal.Style
import RecordRegistry.Text.Utf8

namespace RecordRegistry

/-- The forms in which results are printed. -/
inductive OutputFormat
  | table
  | json
  | compact
  deriving DecidableEq, Repr

namespace OutputFormat

/-- All forms. -/
def all : List OutputFormat := [table, json, compact]

/-- The word for a form. -/
def word : OutputFormat → String
  | table => "table"
  | json => "json"
  | compact => "compact"

/-- What a form is. -/
def about : OutputFormat → String
  | table => "Formatted table output (default)"
  | json => "JSON output for scripting"
  | compact => "Compact single-line output"

/-- The form that a word stands for. -/
def ofWord? (word : String) : Option OutputFormat := all.find? fun format => format.word = word

end OutputFormat

/-- The options. -/
inductive CommandOption
  | output
  | quiet
  | verbose
  | noColor
  | force
  | source
  | outputFile
  | namespacePath
  | collection
  | dryRun
  | check
  | help
  | version
  deriving DecidableEq, Repr

namespace CommandOption

/-- The long name of an option. -/
def long : CommandOption → String
  | output => "output"
  | quiet => "quiet"
  | verbose => "verbose"
  | noColor => "no-color"
  | force => "force"
  | source => "source"
  | outputFile => "out"
  | namespacePath => "namespace"
  | collection => "collection"
  | dryRun => "dry-run"
  | check => "check"
  | help => "help"
  | version => "version"

/-- The letter for an option, if it has one. -/
def short? : CommandOption → Option Char
  | quiet => some 'q'
  | verbose => some 'v'
  | help => some 'h'
  | version => some 'V'
  | _ => none

/-- What the value of an option is called, if it takes one. -/
def placeholder? : CommandOption → Option String
  | output => some "OUTPUT"
  | source => some "SOURCE"
  | outputFile => some "OUTPUT_FILE"
  | namespacePath => some "NAMESPACE"
  | collection => some "COLLECTION"
  | _ => none

/-- Whether an option takes a value. -/
def takesValue (option : CommandOption) : Bool := option.placeholder?.isSome

/-- The variable that gives the value of an option if the command line does not. -/
def fallback? : CommandOption → Option String
  | source => some "MODELREG_SOURCE_DIR"
  | outputFile => some "MODELREG_OUTPUT_FILE"
  | _ => none

/-- Whether the value of an option is a path. -/
def isPath : CommandOption → Bool
  | source | outputFile => true
  | _ => false

/-- The values that an option can have, if only certain ones are possible. -/
def choices : CommandOption → List OutputFormat
  | output => OutputFormat.all
  | _ => []

/-- What an option is for. The text for help depends on whether help is asked for at length. -/
def about (long : Bool) : CommandOption → String
  | output => "Output format"
  | quiet => "Suppress output (only errors will be shown)"
  | verbose => "Enable verbose output and debug logging"
  | noColor => "Disable colored output"
  | force => "Overwrite an existing configuration file"
  | source => "Directory holding the model declarations"
  | outputFile => "File the registry is written to"
  | namespacePath => "Path from the generated module to the scanned package"
  | collection => "Name of the generated collection function"
  | dryRun => "Print the registry to stdout instead of writing it"
  | check => "Exit with an error if the registry on disk is missing or stale"
  | help => if long then "Print help (see a summary with '-h')"
    else "Print help (see more with '--help')"
  | version => "Print version"

/-- The place of an option among those that are declared with it. -/
def rank : CommandOption → Nat
  | output | force | source => 0
  | quiet | outputFile => 1
  | verbose | namespacePath => 2
  | noColor | collection => 3
  | dryRun => 4
  | check => 5
  | help => 6
  | version => 7

/-- The word by which options of one rank are ordered. -/
def orderWord (option : CommandOption) : String :=
  match option.short? with
  | some letter => String.ofList [letter.toLower]
  | none => option.long

/-- The order of options in help. -/
def helpLe (first second : CommandOption) : Bool :=
  first.rank < second.rank || first.rank = second.rank && first.orderWord ≤ second.orderWord

/-- An option as it is written, with what its value is called. -/
def shown (option : CommandOption) : String :=
  "--" ++ option.long ++
    match option.placeholder? with
    | some name => " <" ++ name ++ ">"
    | none => ""

/-- An option as it is written, in pieces. -/
def styled (option : CommandOption) : Styled :=
  .marked .literal ("--" ++ option.long) ++
    match option.placeholder? with
    | some name => .marked .placeholder " " ++ .marked .placeholder ("<" ++ name ++ ">")
    | none => []

end CommandOption

/-- The commands; the first one stands for the program itself. -/
inductive CommandName
  | program
  | init
  | generate
  | scan
  | help
  deriving DecidableEq, Repr

namespace CommandName

/-- The name of the program. -/
def programWord : String := "modelreg"

/-- The version of the program. -/
def versionText : String := "0.1.0"

/-- The commands that can follow the name of the program. -/
def all : List CommandName := [init, generate, scan, help]

/-- The word for a command. -/
def word : CommandName → String
  | program => programWord
  | init => "init"
  | generate => "generate"
  | scan => "scan"
  | help => "help"

/-- The words of a command. -/
def words : CommandName → String
  | program => programWord
  | command => programWord ++ " " ++ command.word

/-- What a command does. -/
def about : CommandName → String
  | program => "Generate a registry of every model struct in a module directory"
  | init => "Write a default .modelreg/config.toml"
  | generate => "Scan the model directory and write the registry"
  | scan => "List classified declarations without writing anything"
  | help => "Print this message or the help of the given subcommand(s)"

/-- The command that follows another one under the given word. -/
def follower? (command : CommandName) (word : SystemText) : Option CommandName :=
  if command = program then all.find? fun other => SystemText.ofString other.word = word else none

/-- The options that all commands have. -/
def sharedOptions : List CommandOption := [.output, .quiet, .verbose, .noColor]

/-- The options that belong to a command together. -/
def ownOptions : CommandName → List CommandOption
  | program => sharedOptions
  | init => [.force]
  | generate => [.source, .outputFile, .namespacePath, .collection, .dryRun, .check]
  | scan => [.source]
  | help => []

/-- The options of a command. -/
def options : CommandName → List CommandOption
  | program => sharedOptions ++ [.help, .version]
  | help => []
  | command => command.ownOptions ++ sharedOptions ++ [.help]

end CommandName

end RecordRegistry
