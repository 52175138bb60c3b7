/-
# Usage errors

What can be wrong with a command line, and how it is reported: the fault, tips that may help, the
usage of the command, and where to find more.
-/

import RecordRegistry.Command.Usage

namespace RecordRegistry

open Styled (plain marked separated)

/-- What is wrong with a command line. -/
inductive UsageFault
  | conflict (first second : CommandOption)
  | repeated (option : CommandOption)
  | noValue (option : CommandOption)
  | impossibleValue (option : CommandOption) (value : String)
  | needlessValue (option : CommandOption) (value : String)
  | unknownArgument (text : String)
  | unknownCommand (text : String)
  | noCommand
  /-- A value has to be a text, and is none. -/
  | notText
  deriving DecidableEq, Repr

/-- What may help. -/
inductive UsageTip
  /-- Something similar is there. -/
  | similar (kind : String) (candidates : List String)
  /-- The option belongs to another command. -/
  | belongs (text : String)
  /-- The command would be recognized without dashes before it. -/
  | withoutDashes (command : String)
  deriving DecidableEq, Repr

/-- An error in a command line. -/
structure UsageError where
  fault : UsageFault
  tip : Option UsageTip
  usage : Option Usage
  deriving DecidableEq, Repr

namespace UsageFault

/-- A list of words that would be possible. -/
def wordList (name : String) (words : List String) : Styled :=
  if words = [] then []
  else
    plain ("\n  [" ++ name ++ ": ") ++
      separated (plain ", ") (words.map (marked .valid)) ++ plain "]"

/-- The values that an option can have, if only certain ones are possible. -/
def possibleValues (option : CommandOption) : Styled :=
  wordList "possible values" (option.choices.map OutputFormat.word)

/-- The words for a fault. -/
def styled : UsageFault → Styled
  | conflict first second =>
    plain "the argument '" ++ marked .invalid first.shown ++ plain "' cannot be used with '" ++
      marked .invalid second.shown ++ plain "'"
  | repeated option =>
    plain "the argument '" ++ marked .invalid option.shown ++
      plain "' cannot be used multiple times"
  | noValue option =>
    plain "a value is required for '" ++ marked .invalid option.shown ++
      plain "' but none was supplied" ++ possibleValues option
  | impossibleValue option value =>
    plain "invalid value '" ++ marked .invalid value ++ plain "' for '" ++
      marked .literal option.shown ++ plain "'" ++ possibleValues option
  | needlessValue option value =>
    plain "unexpected value '" ++ marked .invalid value ++ plain "' for '" ++
      marked .literal option.shown ++ plain "' found; no more were expected"
  | unknownArgument text =>
    plain "unexpected argument '" ++ marked .invalid text ++ plain "' found"
  | unknownCommand text =>
    plain "unrecognized subcommand '" ++ marked .invalid text ++ plain "'"
  | noCommand =>
    plain "'" ++ marked .invalid CommandName.programWord ++
      plain "' requires a subcommand but one was not provided" ++
      wordList "subcommands" (CommandName.all.map CommandName.word)
  | notText => plain "invalid UTF-8 was detected in one or more arguments"

end UsageFault

namespace UsageTip

/-- The words for a tip. -/
def styled (tip : UsageTip) : Styled :=
  plain "  " ++ marked .valid "tip:" ++
    match tip with
    | similar kind candidates =>
      plain (if candidates.length = 1 then " a similar " ++ kind ++ " exists: "
        else " some similar " ++ kind ++ "s exist: ") ++
        separated (plain ", ") (candidates.map fun candidate =>
          plain "'" ++ marked .valid candidate ++ plain "'")
    | belongs text => plain " '" ++ marked .valid text ++ plain "' exists"
    | withoutDashes command =>
      plain " subcommand '" ++ marked .valid command ++
        plain "' exists; to use it, remove the '" ++ marked .invalid "--" ++ plain "' before it"

end UsageTip

namespace UsageError

/-- The report of an error. -/
def styled (error : UsageError) : Styled :=
  marked .error "error:" ++ plain " " ++ error.fault.styled ++
    (match error.tip with
      | some tip => plain "\n\n" ++ tip.styled
      | none => []) ++
    (match error.usage with
      | some usage => plain "\n\n" ++ usage.styled
      | none => []) ++
    plain "\n\nFor more information, try '" ++ marked .literal "--help" ++ plain "'.\n"

end UsageError

end RecordRegistry
