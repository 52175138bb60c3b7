/-
# Messages

Messages for people.  They are left out where the output is for machines, and where quiet is asked
for; errors are always shown.  Every message ends its line.
-/

import RecordRegistry.Command.Invocation
import RecordRegistry.Terminal.Table

namespace RecordRegistry

/-- How messages are printed. -/
structure Prose where
  presentation : Presentation
  /-- Whether the environment wants colours. -/
  coloured : Bool
  deriving DecidableEq, Repr

namespace Prose

/-- Whether messages are printed that are no errors. -/
def isShown (prose : Prose) : Bool :=
  !prose.presentation.quiet && prose.presentation.format ≠ .json

/-- A text in the style of a role, if there are colours. -/
def paint (prose : Prose) (tone : Tone) (bold : Bool) (text : String) : String :=
  Style.paintIf (prose.coloured && !prose.presentation.noColour) tone bold text

/-- A text, if messages are printed. -/
def whenShown (prose : Prose) (text : String) : String := if prose.isShown then text else ""

/-- A message with an icon, both in the style of a role. -/
def decorated (prose : Prose) (icon : String) (tone : Tone) (message : String) : String :=
  prose.paint tone false icon ++ " " ++ prose.paint tone false message ++ "\n"

/-- An error. -/
def error (prose : Prose) (message : String) : String :=
  prose.decorated Tone.failure.icon .failure message

/-- A message in a role. -/
def message (prose : Prose) (tone : Tone) (message : String) : String :=
  prose.whenShown (prose.decorated tone.icon tone message)

/-- A message that is only shown on request. -/
def detail (prose : Prose) (message : String) : String :=
  if prose.presentation.verbose then prose.message .subtle message else ""

/-- A heading after an empty line. Without colours on request it is underlined. -/
def heading (prose : Prose) (text : String) : String :=
  prose.whenShown <|
    if prose.presentation.noColour then
      "\n" ++ text ++ "\n" ++ String.ofList (List.replicate text.length '=') ++ "\n"
    else "\n" ++ prose.paint .title true text ++ "\n"

/-- A name and its value. -/
def keyValue (prose : Prose) (key value : String) : String :=
  prose.whenShown (prose.paint .label true key ++ ": " ++ prose.paint .value false value ++ "\n")

/-- A text under another message, after a mark. -/
def indented (prose : Prose) (mark text : String) : String :=
  prose.whenShown ("  " ++ prose.paint .subtle false mark ++ " " ++ text ++ "\n")

/-- A table. -/
def table (prose : Prose) (table : Table) : String :=
  table.render (if prose.presentation.noColour then .plain else .boxes)

end Prose

end RecordRegistry
