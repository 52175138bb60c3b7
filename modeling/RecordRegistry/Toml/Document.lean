/-
# Configurations as a whole

A configuration is a sequence of lines: assignments, which go into the table that was opened last,
and headers, which open a table.  A header in double brackets opens one more of the tables that
share it.
-/

import RecordRegistry.Toml.Value
import RecordRegistry.Toml.Writing

namespace RecordRegistry.Toml

/-- A header: the path to a table, and whether several tables share it. -/
structure Header where
  path : List Key
  key : Key
  isShared : Bool
  span : Span

/-- What has been read of a configuration: all complete tables, and the table that was opened last
with its header, which the table of the document does not have. -/
structure Draft where
  complete : Members
  header : Option Header
  /-- From the header of the last table to its last value. -/
  span : Span
  members : Members

namespace Draft

/-- Nothing read yet. -/
def empty : Draft := ⟨[], none, ⟨0, 0⟩, []⟩

/-- Puts a finished table where its header says. -/
def place (header : Header) (table : Node) : Edit Unit :=
  let put : Edit Unit := do
    let members ← get
    match header.isShared, members.find? header.key.text with
    | true, some (.tables elements) =>
      set (members.replace header.key.text (.tables (elements ++ [table])))
    | true, _ => set (members.add header.key (.tables [table]))
    | false, _ => set (members.add header.key table)
  Edit.within .header (fun _ => put) [] header.path .opened

/-- All tables, including the one that was opened last. -/
def finish (draft : Draft) : Except Cause Members :=
  match draft.header with
  | none => .ok draft.members
  | some header =>
    Prod.snd <$> (place header (.table (some draft.span) .opened draft.members)).run draft.complete

/-- Makes room for the table of a header and yields the members that the table has already. -/
def claim (header : Header) : Edit Members :=
  let take : Edit Members := do
    let members ← get
    let repeated := Cause.duplicateKey (Written.name header.key.text)
      (.inTable (header.path.map Key.text))
    match header.isShared, members.find? header.key.text with
    | _, none => return []
    | true, some (.tables _) => return []
    | false, some (.table _ .implied content) =>
      set (members.remove header.key.text)
      return content
    | _, _ => throw repeated
  Edit.within .header (fun _ => take) [] header.path .opened

/-- Opens the table of a header. -/
def openTable (draft : Draft) (header : Header) : Except Cause Draft := do
  let (members, complete) ← (claim header).run (← draft.finish)
  return ⟨complete, some header, header.span, members⟩

/-- The path of the table that was opened last. -/
def path (draft : Draft) : List String :=
  match draft.header with
  | none => []
  | some header => (header.path ++ [header.key]).map Key.text

/-- Adds an assignment to the table that was opened last. -/
def assign (draft : Draft) (assignment : Assignment) : Except Cause Draft := do
  let edit := Edit.assign .dottedKey assignment.path assignment.key assignment.node
    (.inTable draft.path) .opened
  let ((), members) ← edit.run draft.members
  let stop := (assignment.node.span?.map Span.stop).getD draft.span.stop
  return { draft with members, span := ⟨draft.span.start, stop⟩ }

end Draft

namespace Reader

/-- A header in the given brackets. -/
def bracketed (opening closing : String) : Reader Header := do
  let ((path, key), span) ← spanned do
    require opening.toList
    let read ← committed key
    committed (wanting [.mark ".", .mark closing] (require closing.toList))
    return read
  committed (wanting [.newline, .mark "#"] trailing)
  return ⟨path, key, opening = "[[", span⟩

/-- A line that opens a table. -/
def header (draft : Draft) : Reader Draft := named .tableHeader do
  match (← get).rest with
  | ['['] => fail
  | '[' :: '[' :: _ => refined (bracketed "[[" "]]") draft.openTable
  | _ => refined (bracketed "[" "]") draft.openTable

/-- A line with an assignment. -/
def assignmentLine (draft : Draft) : Reader Draft :=
  refined
    (do
      let read ← assignment (value (nestingLimit - 1))
      committed (wanting [.newline, .mark "#"] trailing)
      return read)
    draft.assign

/-- One line, and the blanks before the next; none if there is nothing left. -/
def line? (draft : Draft) : Reader (Option Draft) := do
  let next ← match ← peek? with
    | none => return none
    | some '#' => do
      comment
      lineEnd
      pure draft
    | some '\n' | some '\r' => do
      failingAtStart newline
      pure draft
    | some '[' => header draft
    | some _ => assignmentLine draft
  blanks
  return some next

/-- Repeats a step on a value until it yields nothing, at most `count` times. -/
def iterateUpTo {α : Type} (step : α → Reader (Option α)) : Nat → α → Reader α
  | 0, value => return value
  | count + 1, value => do
    match ← step value with
    | some next => iterateUpTo step count next
    | none => return value

/-- A whole configuration. A byte-order mark at its start is skipped. -/
def document : Reader Members := do
  discard (accept ['\ufeff'])
  blanks
  let draft ← iterateUpTo line? ((← get).rest.length + 1) .empty
  match draft.finish with
  | .ok members => return members
  | .error cause => failAt (← get).offset (some cause)

end Reader

/-- An error in a configuration: what is wrong, and where. -/
structure ParseError where
  span : Span
  fault : Fault
  deriving DecidableEq, Repr

/-- The character that holds the byte with the given offset, or nothing at the end of the text. -/
def characterAt (offset : Nat) (before : Nat) : List Char → Span
  | [] => ⟨before, before⟩
  | character :: rest =>
    let after := before + character.utf8Size
    if offset < after then ⟨before, after⟩ else characterAt offset after rest

/-- Reads a configuration. -/
def parse (text : String) : Except ParseError Members :=
  match Reader.document.run (.ofText text) with
  | .ok (members, _) => .ok members
  | .error failure => .error ⟨characterAt failure.offset 0 text.toList, failure.fault⟩

end RecordRegistry.Toml
