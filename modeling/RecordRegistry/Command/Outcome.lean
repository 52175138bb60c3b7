/-
# Outcomes of commands

What a command prints to its two streams and whether it succeeds, together with the files that it
leaves behind.
-/

import RecordRegistry.Generator.Records
import RecordRegistry.Json
import RecordRegistry.Command.Prose

namespace RecordRegistry

/-- What a program prints, and the code that it ends with. -/
structure Outcome where
  code : Nat
  output : String
  errors : String
  deriving DecidableEq, Repr

namespace Outcome

/-- The code of a command that fails. -/
def failureCode : Nat := 1

/-- The code for a command line that is wrong. -/
def usageCode : Nat := 2

/-- A command that succeeds. -/
def success (output errors : String) : Outcome := ⟨0, output, errors⟩

end Outcome

/-- Where and how a command runs. -/
structure Setting where
  /-- The working directory. -/
  here : Location
  environment : Environment
  prose : Prose
  log : LogStyle
  deriving DecidableEq, Repr

namespace Setting

/-- A command that fails with a message, after what it has printed. -/
def failure (setting : Setting) (output errors message : String) : Outcome :=
  ⟨Outcome.failureCode, output, errors ++ setting.prose.error ("Error: " ++ message)⟩

/-- The lines for log records. -/
def logged (setting : Setting) (records : List LogRecord) : String := setting.log.lines records

/-- The project that the working directory belongs to. -/
def project (setting : Setting) (files : FileSystem) : Except ProjectError Project :=
  Project.findFrom files setting.here setting.here.path

end Setting

namespace Declaration

/-- A declaration as JSON. -/
def json (declaration : Declaration) : JsonValue :=
  .object
    [("name", .text declaration.name), ("module", .ofText? declaration.module),
      ("shape", .text declaration.shape.text),
      ("position", .object
        [("file", .text declaration.position.file),
          ("line", .number declaration.position.position.line),
          ("column", .number declaration.position.position.column)])]

end Declaration

namespace Entry

/-- An entry as JSON. -/
def json (entry : Entry) : JsonValue :=
  .object
    [("name", .text entry.name), ("module", .ofText? entry.module),
      ("selected", .boolean entry.selected)]

end Entry

/-- Data that can be printed in each of the forms. -/
structure Display where
  /-- The JSON form; none if a path in the data is no text. -/
  json : Option JsonValue
  table : Table
  compact : String

namespace Display

/-- The words for a path that is no text where only text can be written. -/
def pathMessage : String := "path contains invalid UTF-8 characters"

/-- The data in the form that is asked for. -/
def render (display : Display) (prose : Prose) : Except String String :=
  if prose.presentation.quiet then .ok ""
  else
    match prose.presentation.format with
    | .json =>
      match display.json with
      | some value => .ok (value.render ++ "\n")
      | none => .error pathMessage
    | .table => .ok (prose.table display.table ++ "\n")
    | .compact => .ok (display.compact ++ "\n")

end Display

end RecordRegistry
