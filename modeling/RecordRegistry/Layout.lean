/-
# Line layout

A document is text with places where a line may end, grouped in boxes.  A box whose content fits
on the line is kept on it.  Otherwise a consistent box ends the line at every one of its breaks,
and an inconsistent box only where the text up to the next break would not fit.  Widths are
counted in bytes.
-/

namespace RecordRegistry

namespace Layout

/-- How a box that does not fit on its line is divided. -/
inductive Filling
  | consistent
  | inconsistent
  deriving DecidableEq, Repr

/-- A place where a line may end. -/
structure Break where
  /-- The blanks that stand here if the line goes on. -/
  blanks : Nat
  /-- How much further the next line is indented than its box. -/
  indent : Int
  /-- What ends the line, if it ends here. -/
  ending : String
  /-- Whether the line has to end here. -/
  forced : Bool
  deriving DecidableEq, Repr

namespace Break

/-- A break that is a blank if the line goes on. -/
def space : Break := ⟨1, 0, "", false⟩

/-- A break that is nothing if the line goes on. -/
def empty (indent : Int) : Break := ⟨0, indent, "", false⟩

/-- A break after a trailing comma, which is only written if the line ends. -/
def trailingComma (indent : Int) : Break := ⟨0, indent, ",", false⟩

/-- A place where the line has to end. -/
def line (indent : Int) : Break := ⟨0, indent, "", true⟩

end Break

/-- Text with places where a line may end. -/
inductive Document
  | text (text : String)
  | gap (kind : Break)
  /-- A box, whose lines are indented further than those around it by the given amount. -/
  | box (indent : Int) (filling : Filling) (content : List Document)
  deriving Repr

/-- The width of a line. -/
def lineWidth : Nat := 89

/-- The width that a line has at least, however far it is indented. -/
def leastWidth : Nat := 60

/-- More than any line can hold. -/
def unbounded : Nat := 65535

/-- The room that a break takes if the line goes on. A forced one takes more than there is. -/
def Break.width (kind : Break) : Nat := if kind.forced then unbounded else kind.blanks

mutual

/-- The width of a document on one line. -/
def width : Document → Nat
  | .text text => text.utf8ByteSize
  | .gap kind => kind.width
  | .box _ _ content => widthAll content

/-- The width of a sequence of documents on one line. -/
def widthAll : List Document → Nat
  | [] => 0
  | document :: rest => width document + widthAll rest

end

/-- The width of a sequence up to its first break. If it has none, `after` is the width of what
comes after it up to the next break. -/
def widthToBreak (after : Nat) : List Document → Nat
  | [] => after
  | .gap _ :: _ => 0
  | document :: rest => width document + widthToBreak after rest

/-- The lines written so far: the text, the room left on the line, and the blanks that are due
before the next text. -/
structure Page where
  written : List String
  room : Int
  due : Nat

namespace Page

/-- Nothing written yet. -/
def empty : Page := ⟨[], lineWidth, 0⟩

/-- Writes the blanks that are due. -/
def writeDue (page : Page) : Page :=
  if page.due = 0 then page
  else { page with written := String.ofList (List.replicate page.due ' ') :: page.written, due := 0 }

/-- Writes text on the line. -/
def write (page : Page) (text : String) : Page :=
  let page := page.writeDue
  { page with written := text :: page.written, room := page.room - text.utf8ByteSize }

/-- Goes on after a break on the same line. -/
def skip (page : Page) (kind : Break) : Page :=
  { page with due := page.due + kind.width, room := page.room - kind.width }

/-- Ends the line and indents the next one. -/
def endLine (page : Page) (indent : Int) (kind : Break) : Page :=
  let page := if kind.ending = "" then page
    else { page.writeDue with written := kind.ending :: page.writeDue.written }
  let indent := indent + kind.indent
  ⟨"\n" :: page.written, max (lineWidth - indent) leastWidth, indent.toNat⟩

/-- The text of a page. -/
def text (page : Page) : String := String.join page.written.reverse

end Page

/-- How the box around a document is written: on one line, or on several with the given indent. -/
inductive Frame
  | fits
  | broken (indent : Int) (filling : Filling)

namespace Frame

/-- How far the lines of a frame are indented, given the indent around it. -/
def isOnOneLine (frame : Frame) (size : Nat) (room : Int) : Bool :=
  match frame with
  | fits => true
  | broken _ .consistent => false
  | broken _ .inconsistent => size ≤ room

end Frame

mutual

/-- Writes one document. `after` is the width of what follows it up to the next break. -/
def place (frame : Frame) (indent : Int) (after : Nat) : Document → Page → Page
  | .text text, page => page.write text
  | .gap kind, page =>
    if frame.isOnOneLine (kind.width + after) page.room then page.skip kind
    else page.endLine indent kind
  | .box more filling content, page =>
    if (widthAll content + after : Nat) ≤ page.room then
      placeAll .fits indent after content page
    else placeAll (.broken (indent + more) filling) (indent + more) after content page

/-- Writes a sequence of documents. -/
def placeAll (frame : Frame) (indent : Int) (after : Nat) : List Document → Page → Page
  | [], page => page
  | document :: rest, page =>
    placeAll frame indent after rest
      (place frame indent (widthToBreak after rest) document page)

end

/-- The text of a document. -/
def Document.render (document : Document) : String :=
  (place (.broken 0 .inconsistent) 0 0 document .empty).text

end Layout

end RecordRegistry
