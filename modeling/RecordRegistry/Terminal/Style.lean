/-
# Styled text

Text for a terminal plays roles, and each role has one colour.  Messages open with the icon of
their role.  Whether colours are shown is decided where the text is printed; without them a text
is the same but for the codes that switch styles.
-/

namespace RecordRegistry

/-- The role that a piece of text plays. -/
inductive Tone
  | success
  | failure
  | warning
  | note
  | heading
  | title
  | label
  | value
  | accent
  | subtle
  deriving DecidableEq, Repr

namespace Tone

/-- The number of the colour of a role. -/
def colour : Tone → String
  | success => "32"
  | failure => "31"
  | warning => "33"
  | note => "34"
  | heading => "36"
  | title => "94"
  | label => "96"
  | value => "37"
  | accent => "35"
  | subtle => "90"

/-- The icon of a message in a role. -/
def icon : Tone → String
  | success => "✓"
  | failure => "✗"
  | warning => "⚠"
  | note => "ℹ"
  | heading | title | label | value | accent | subtle => "→"

end Tone

namespace Style

/-- The code that switches a style on. -/
def code (numbers : String) : String := "\x1b[" ++ numbers ++ "m"

/-- The code that switches all styles off. -/
def reset : String := code "0"

/-- A text in which every code that switches styles off is followed by a code. -/
def reopened (code : List Char) : List Char → List Char
  | '\x1b' :: '[' :: '0' :: 'm' :: rest => reset.toList ++ code ++ reopened code rest
  | character :: rest => character :: reopened code rest
  | [] => []

/-- A text in the style of a role. -/
def paint (tone : Tone) (bold : Bool) (text : String) : String :=
  let start := code ((if bold then "1;" else "") ++ tone.colour)
  start ++ String.ofList (reopened start.toList text.toList) ++ reset

/-- A text in the style of a role if colours are shown. -/
def paintIf (coloured : Bool) (tone : Tone) (bold : Bool) (text : String) : String :=
  if coloured then paint tone bold text else text

end Style

/-- The part that a piece of text plays in help and in usage errors. -/
inductive Mark
  | usage
  | header
  | literal
  | placeholder
  | valid
  | invalid
  | error
  deriving DecidableEq, Repr

namespace Mark

/-- The role of a part. -/
def tone : Mark → Tone
  | usage => .title
  | header => .heading
  | literal => .accent
  | placeholder => .subtle
  | valid => .success
  | invalid => .warning
  | error => .failure

/-- Whether a part is shown bold. -/
def isBold : Mark → Bool
  | usage | header | error => true
  | literal | placeholder | valid | invalid => false

end Mark

/-- A piece of text, with the part that it plays if there is one. -/
structure StyledPiece where
  mark : Option Mark
  text : String
  deriving DecidableEq, Repr

/-- Text in pieces. -/
abbrev Styled := List StyledPiece

namespace Styled

/-- Text without a part to play. -/
def plain (text : String) : Styled := [⟨none, text⟩]

/-- Text with a part to play. -/
def marked (mark : Mark) (text : String) : Styled := [⟨some mark, text⟩]

/-- A piece of text with the codes for its style. -/
def coloured (piece : StyledPiece) : String :=
  match piece.mark with
  | some mark =>
    (if mark.isBold then Style.code "1" else "") ++ Style.code mark.tone.colour ++ piece.text ++
      Style.reset
  | none => piece.text

/-- The text with or without the codes for its style. -/
def render (withColour : Bool) (styled : Styled) : String :=
  String.join (styled.map fun piece => if withColour then coloured piece else piece.text)

/-- Texts with a separator between them. -/
def separated (separator : Styled) (texts : List Styled) : Styled :=
  separator.intercalate texts

end Styled

end RecordRegistry
