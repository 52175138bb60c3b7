/-
# Help

The help for a command: what it does, how it is used, the commands that can follow and its options.
Help at length gives each option some lines of its own and ends with examples.
-/

import RecordRegistry.Command.Usage
import RecordRegistry.Settings.Expansion
import RecordRegistry.Terminal.Table

namespace RecordRegistry

open Styled (plain marked separated)

/-- Examples under one heading. -/
structure ExampleGroup where
  heading : String
  lines : List String
  deriving DecidableEq, Repr

namespace Help

/-- What the program does, at length. -/
def longAbout : String :=
  "Scans a module directory for top-level record structs and writes a\n" ++
  "sibling module listing a zero-valued instance of each, ready to be handed\n" ++
  "to schema migration code.\n" ++
  "\n" ++
  "Commands:\n" ++
  "  init      Write a default .modelreg/config.toml\n" ++
  "  generate  Scan the model directory and write the registry\n" ++
  "  scan      List classified declarations without writing anything\n"

/-- The examples for a command. -/
def examples : CommandName → List ExampleGroup
  | .program | .help => []
  | .init =>
    [⟨"Setup",
      ["modelreg init             # Write .modelreg/config.toml with defaults",
        "modelreg init --force     # Overwrite an existing config"]⟩]
  | .generate =>
    [⟨"Generate",
      ["modelreg generate                                  # Use .modelreg/config.toml",
        "modelreg generate --source src/db --out src/db/models.rs",
        "modelreg generate --namespace crate::entity --collection all_models"]⟩,
    ⟨"Preview & CI",
      ["modelreg generate --dry-run      # Print the registry instead of writing it",
        "modelreg generate --check        # Fail if the registry on disk is stale"]⟩]
  | .scan =>
    [⟨"Inspect",
      ["modelreg scan                        # Classify declarations in the configured directory",
        "modelreg scan --source src/db        # Scan another directory",
        "modelreg --output json scan          # Machine-readable listing"]⟩]

/-- The variables of the environment that the program looks at, each with what it is for. -/
def knownVariables : List (String × String) :=
  [("MODELREG_SOURCE_DIR", "Directory holding the model declarations"),
    ("MODELREG_OUTPUT_FILE", "File the generated registry is written to"),
    ("RUST_LOG", "Log filter (e.g. modelreg_build=debug)")]

/-- Text that is painted as messages are. -/
def painted (coloured : Bool) (tone : Tone) (bold : Bool) (text : String) : Styled :=
  plain (Style.paintIf coloured tone bold text)

/-- A group of examples. -/
def exampleGroup (coloured : Bool) (group : ExampleGroup) : Styled :=
  plain "  " ++ painted coloured .title true group.heading ++
    group.lines.flatMap fun line =>
      plain "\n    " ++ painted coloured .accent false Tone.accent.icon ++ plain " " ++
        painted coloured .accent false line

/-- What stands at the end of help at length. -/
def ending (coloured : Bool) (command : CommandName) : Styled :=
  match command with
  | .program =>
    painted coloured .heading true "Environment Variables:" ++
      (knownVariables.flatMap fun (name, about) =>
        plain "\n  " ++ painted coloured .label true name ++ plain "  " ++
          painted coloured .value false about) ++
      plain "\n\n" ++ painted coloured .heading true "Tip:" ++ plain " " ++
      painted coloured .accent false
        "Use 'modelreg <command> --help' to view examples for each command."
  | command =>
    painted coloured .heading true "Examples:" ++ plain "\n" ++
      separated (plain "\n\n") ((examples command).map (exampleGroup coloured))

/-- Blanks. -/
def blanks (count : Nat) : Styled := plain (String.ofList (List.replicate count ' '))

/-- The letter and the name of an option, in pieces. -/
def optionStart (option : CommandOption) : Styled :=
  (match option.short? with
    | some letter =>
      plain "  " ++ marked .literal (String.ofList ['-', letter]) ++ plain ", "
    | none => blanks 6) ++
    option.styled

/-- What help says about the value of an option: the variable it may come from and the default. -/
def valueNotes (environment : Environment) (option : CommandOption) : List String :=
  (match option.fallback? with
    | some name => ["[env: " ++ name ++ "=" ++ ((environment.get? name).map SystemText.shown).getD "" ++ "]"]
    | none => []) ++
    if option.choices = [] then []
    else ["[default: " ++ String.join ((option.choices.take 1).map OutputFormat.word) ++ "]"]

/-- The possible values of an option on one line. -/
def choiceNote (option : CommandOption) : List String :=
  if option.choices = [] then []
  else
    ["[possible values: " ++ ", ".intercalate (option.choices.map OutputFormat.word) ++ "]"]

/-- An option on one line, whose text starts after the given number of columns. -/
def shortOption (environment : Environment) (column : Nat) (option : CommandOption) : Styled :=
  optionStart option ++ blanks (column - Width.text option.shown.toList + 2) ++
    plain (" ".intercalate
      (option.about false :: valueNotes environment option ++ choiceNote option))

/-- The possible values of an option, one on each line. -/
def longChoices (choices : List OutputFormat) : Styled :=
  let widest := (choices.map fun format => format.word.length).foldl max 0
  plain "\n\n          Possible values:" ++
    choices.flatMap fun format =>
      plain "\n          - " ++ marked .literal format.word ++ plain ":" ++
        blanks (widest - format.word.length + 1) ++ plain format.about

/-- An option with its text on lines of its own. -/
def longOption (environment : Environment) (option : CommandOption) : Styled :=
  optionStart option ++ plain "\n          " ++ plain (option.about true) ++
    (if option.choices = [] then [] else longChoices option.choices) ++
    (valueNotes environment option).flatMap fun note =>
      plain "\n          \n          " ++ plain note

/-- The commands that can follow, one on each line. -/
def followers : Styled :=
  let widest := (CommandName.all.map fun command => command.word.length).foldl max 0
  marked .header "Commands:" ++
    CommandName.all.flatMap fun command =>
      plain "\n  " ++ marked .literal command.word ++
        blanks (widest - command.word.length + 2) ++ plain command.about

/-- The options of a command. -/
def options (environment : Environment) (long : Bool) (command : CommandName) : Styled :=
  let ordered := command.options.mergeSort CommandOption.helpLe
  let column := (ordered.map fun option => Width.text option.shown.toList).foldl max 0
  let entries := ordered.map fun option =>
    if long then longOption environment option else shortOption environment column option
  marked .header "Options:" ++ plain "\n" ++
    separated (plain (if long then "\n\n" else "\n")) entries

/-- What the command for help takes. -/
def helpArguments : Styled :=
  marked .header "Arguments:" ++ plain "\n  " ++ marked .placeholder "[COMMAND]..." ++
    plain "  Print help for the subcommand(s)"

/-- The help for a command. The command for help has no help at length. -/
def styled (environment : Environment) (coloured long : Bool) (command : CommandName) : Styled :=
  let long := long && command ≠ .help
  let about := if long && command = .program then longAbout else command.about
  plain (about ++ "\n\n") ++ (Usage.general command).styled ++
    (if command = .program then plain "\n\n" ++ followers else []) ++
    (if command = .help then plain "\n\n" ++ helpArguments
      else plain "\n\n" ++ options environment long command) ++
    (if long then plain "\n\n" ++ ending coloured command else []) ++ plain "\n"

end Help

end RecordRegistry
