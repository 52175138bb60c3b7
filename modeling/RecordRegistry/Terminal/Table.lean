/-
# Tables

A table has a row of headings and further rows.  Every column is as wide as its widest cell; a cell
may have several lines.  What stands between the cells is a matter of the border.
-/

import RecordRegistry.Text.CodePoints

namespace RecordRegistry

namespace Width

/-- The number of columns of a character. -/
def character (character : Char) : Nat :=
  if character.toNat < 0x80 then 1
  else if CodePoints.holds CodePoints.noColumn character.toNat then 0
  else if CodePoints.holds CodePoints.twoColumns character.toNat then 2
  else 1

/-- The number of columns of a text. A carriage return and the line feed after it count once. -/
def text : List Char → Nat
  | '\r' :: '\n' :: rest => 1 + text rest
  | first :: rest => character first + text rest
  | [] => 0

end Width

/-- What stands at the ends and between the columns of a line across a table. -/
structure Rule where
  left : Char
  fill : Char
  crossing : Char
  right : Char
  deriving DecidableEq, Repr

/-- How a table is drawn. -/
structure Border where
  top : Rule
  /-- The line under the headings. -/
  underHeadings : Rule
  /-- The line between two rows, if there is one. -/
  betweenRows : Option Rule
  bottom : Rule
  /-- What stands at the ends of a row. -/
  side : Char
  /-- What stands between the cells of a row. -/
  divider : Char
  deriving DecidableEq, Repr

namespace Border

/-- Box drawing characters, without lines between rows. -/
def boxes : Border :=
  { top := ⟨'┌', '─', '┬', '┐'⟩
    underHeadings := ⟨'╞', '═', '╪', '╡'⟩
    betweenRows := none
    bottom := ⟨'└', '─', '┴', '┘'⟩
    side := '│'
    divider := '┆' }

/-- Characters of every keyboard, with lines between rows. -/
def plain : Border :=
  { top := ⟨'+', '-', '+', '+'⟩
    underHeadings := ⟨'+', '=', '=', '+'⟩
    betweenRows := some ⟨'|', '-', '+', '|'⟩
    bottom := ⟨'+', '-', '+', '+'⟩
    side := '|'
    divider := '|' }

end Border

/-- Headings and rows of cells. -/
structure Table where
  headings : List String
  rows : List (List String)
  deriving DecidableEq, Repr

namespace Table

/-- The lines of a cell. -/
def cellLines (cell : String) : List (List Char) := cell.toList.splitOn '\n'

/-- The number of columns that a cell takes. -/
def cellWidth (cell : String) : Nat := ((cellLines cell).map Width.text).foldl max 0

/-- The widths of the columns of a table. -/
def widths (table : Table) : List Nat :=
  table.headings.mapIdx fun index heading =>
    (table.rows.map fun row => cellWidth (row.getD index "")).foldl max (cellWidth heading)

/-- A line of a cell, filled up to a width, with a blank on either side. -/
def padded (width : Nat) (line : List Char) : List Char :=
  [' '] ++ line ++ List.replicate (width - Width.text line) ' ' ++ [' ']

/-- A line across the table. -/
def across (rule : Rule) (widths : List Nat) : List Char :=
  [rule.left] ++
    [rule.crossing].intercalate (widths.map fun width => List.replicate (width + 2) rule.fill) ++
    [rule.right]

/-- One line of a row. -/
def rowLine (border : Border) (widths : List Nat) (lines : List (List Char)) : List Char :=
  [border.side] ++
    [border.divider].intercalate ((widths.zip lines).map fun (width, line) => padded width line) ++
    [border.side]

/-- The lines of a row, as many as its highest cell has. -/
def rowLines (border : Border) (widths : List Nat) (row : List String) : List (List Char) :=
  let cells := row.map cellLines
  let height := (cells.map List.length).foldl max 0
  (List.range height).map fun index =>
    rowLine border widths (cells.map fun lines => lines.getD index [])

/-- The lines of a table. -/
def lines (table : Table) (border : Border) : List (List Char) :=
  let widths := table.widths
  let between := match border.betweenRows with
    | some rule => [across rule widths]
    | none => []
  [across border.top widths] ++ rowLines border widths table.headings ++
    [across border.underHeadings widths] ++
    between.intercalate (table.rows.map (rowLines border widths)) ++
    [across border.bottom widths]

/-- The text of a table, without an end to its last line. -/
def render (table : Table) (border : Border) : String :=
  String.ofList (['\n'].intercalate (table.lines border))

end Table

end RecordRegistry
