/-
# Excerpts

An error in a text is shown with the line on which it begins.  Below the line, carets mark the
place as far as it is on that line.  Columns count characters; the room for carets is counted in
bytes, and the place after the last line end belongs to the line before it.
-/

import RecordRegistry.Text.Utf8
import RecordRegistry.Toml.Error

namespace RecordRegistry.Toml

/-- Where a byte of a text is: the lines before it, and the column, both counted from zero. -/
structure Location where
  line : Nat
  column : Nat
  deriving DecidableEq, Repr

namespace Location

/-- The byte that ends a line. -/
def lineFeed : UInt8 := 0x0a

/-- The location of the byte with the given offset. The place after the last byte is in the column
after it. A byte that begins a longer character has its own distance from the start of the line as
its column. -/
def ofOffset (bytes : Bytes) (offset : Nat) : Location :=
  if bytes.isEmpty then ⟨0, offset⟩
  else
    let index := min offset (bytes.length - 1)
    let before := bytes.take index
    let start := (before.reverse.dropWhile (· != lineFeed)).length
    let column := match Utf8.decode? ((bytes.take (index + 1)).drop start) with
      | some text => text.length - 1
      | none => index - start
    ⟨before.count lineFeed, column + (offset - index)⟩

end Location

/-- An error message with an excerpt of the text in which the error is. -/
def excerpt (text : String) (span : Span) (message : String) : String :=
  let location := Location.ofOffset (Utf8.encode text) span.start
  let line := (text.splitOn "\n").getD location.line ""
  let number := toString (location.line + 1)
  let blanks := fun count => String.ofList (List.replicate count ' ')
  let gutter := blanks (number.length + 1) ++ "|"
  let carets := max 1 (min (span.stop - span.start) (line.utf8ByteSize - location.column))
  "TOML parse error at line " ++ number ++ ", column " ++ toString (location.column + 1) ++ "\n" ++
    gutter ++ "\n" ++
    number ++ " | " ++ line ++ "\n" ++
    gutter ++ blanks (location.column + 1) ++ String.ofList (List.replicate carets '^') ++ "\n" ++
    message ++ "\n"

end RecordRegistry.Toml
