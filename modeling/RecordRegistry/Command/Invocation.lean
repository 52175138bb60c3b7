/-
# Invocations

What a command line asks for.  Options that all commands share can stand before or after the
command; what stands after it counts.
-/

import RecordRegistry.Command.Gathering
import RecordRegistry.Project

namespace RecordRegistry

/-- How results are presented. -/
structure Presentation where
  format : OutputFormat
  quiet : Bool
  verbose : Bool
  noColour : Bool
  deriving DecidableEq, Repr

/-- What is done with a registry. -/
inductive GenerateMode
  | write
  /-- The registry is printed. -/
  | preview
  /-- The registry on disk is compared with the one that would be written. -/
  | check
  deriving DecidableEq, Repr

/-- What a command does. -/
inductive Action
  | init (force : Bool)
  | generate (overrides : Overrides) (mode : GenerateMode)
  | scan (source : Option FilePath)
  deriving DecidableEq, Repr

/-- What a command line asks for. -/
structure Invocation where
  presentation : Presentation
  action : Action
  deriving DecidableEq, Repr

namespace Invocation

/-- How results are presented, from the options before and after a command. -/
def presentation? (before after : Gathered) : Presentation :=
  let has := fun (option : CommandOption) => before.has option || after.has option
  let format := (((after.value? .output).or (before.value? .output)).bind SystemText.text?).bind
    OutputFormat.ofWord?
  ⟨format.getD .table, has .quiet, has .verbose, has .noColor⟩

/-- What the options of a command ask for. -/
def action? (options : Gathered) : Option Action :=
  let path := fun (option : CommandOption) => (options.value? option).map FilePath.ofSystem
  let text := fun (option : CommandOption) => (options.value? option).bind SystemText.text?
  match options.command with
  | .init => some (.init (options.has .force))
  | .generate =>
    let mode := if options.has .dryRun then GenerateMode.preview
      else if options.has .check then .check
      else .write
    some (.generate
      ⟨path .source, path .outputFile, text .namespacePath, text .collection⟩
      mode)
  | .scan => some (.scan (path .source))
  | .program | .help => none

/-- What the words of a command line ask for. -/
def parse (environment : Environment) (words : List SystemText) : Except Halt Invocation := do
  let (before, follower) ← (Gathered.start .program).gather words
  match follower with
  | some (command, rest) =>
    let after ← Gathered.complete command environment rest
    let before ← before.settle
    match action? after with
    | some action => return ⟨presentation? before after, action⟩
    | none => throw (.help command true)
  | none =>
    let before ← before.settle
    if before.given = [] then throw .nothing
    else throw (before.mistaken .noCommand none)

end Invocation

end RecordRegistry
