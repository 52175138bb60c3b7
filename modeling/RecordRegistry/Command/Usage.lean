/-
# Usage

The line that says how a command is used.  If options have been given already, the line shows them;
otherwise it shows what the command takes in general.
-/

import RecordRegistry.Command.Option

namespace RecordRegistry

/-- A usage line of a command. -/
structure Usage where
  command : CommandName
  /-- Options that have been given. -/
  given : List CommandOption
  /-- Whether the options that belong to the command are shown together. -/
  grouped : Bool
  deriving DecidableEq, Repr

namespace Usage

open Styled (plain marked)

/-- The usage of a command in general. -/
def general (command : CommandName) : Usage := ⟨command, [], false⟩

/-- What a command takes in general. -/
def takes : CommandName → List String
  | .program => ["[OPTIONS]", "<COMMAND>"]
  | .help => ["[COMMAND]..."]
  | .init | .generate | .scan => ["[OPTIONS]"]

/-- The options that belong to a command, as one piece. -/
def group (command : CommandName) : Styled :=
  marked .placeholder
    ("<" ++ "|".intercalate (command.ownOptions.map CommandOption.shown) ++ ">")

/-- What follows the words of the command. -/
def parts (usage : Usage) : List Styled :=
  if usage.given = [] && !usage.grouped then
    (takes usage.command).map (marked .placeholder)
  else
    let single := usage.given.eraseDups.filter fun option =>
      !(usage.grouped && usage.command.ownOptions.contains option)
    single.map CommandOption.styled ++
      (if usage.grouped then [group usage.command] else []) ++
      (if usage.command = .program then [marked .placeholder "<COMMAND>"] else [])

/-- A usage line. -/
def styled (usage : Usage) : Styled :=
  marked .usage "Usage:" ++ plain " " ++ marked .literal usage.command.words ++
    usage.parts.flatMap fun part => plain " " ++ part

end Usage

end RecordRegistry
