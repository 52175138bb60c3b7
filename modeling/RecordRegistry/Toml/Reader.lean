/-
# Reading a configuration text

A reader takes characters from the front of a text and keeps count of the bytes before the rest.
A failure is either committed, and then final, or it says no more than that this reader does not
apply here; `optional?` tries a reader and gives the text back in the second case.
-/

import RecordRegistry.Toml.Error

namespace RecordRegistry.Toml

/-- What remains of a text, and how many bytes come before it. -/
structure Source where
  rest : List Char
  offset : Nat
  deriving DecidableEq, Repr

namespace Source

/-- The start of a text. -/
def ofText (text : String) : Source := ⟨text.toList, 0⟩

/-- The source after the given number of characters. -/
def drop (source : Source) (count : Nat) : Source :=
  ⟨source.rest.drop count,
    (source.rest.take count).foldl (fun offset character => offset + character.utf8Size)
      source.offset⟩

end Source

/-- Why a reader stopped and where. -/
structure Failure where
  /-- Whether no other reading has to be tried. -/
  committed : Bool
  offset : Nat
  fault : Fault
  deriving DecidableEq, Repr

/-- A reader turns a source into a value and the rest of the source, or fails. -/
abbrev Reader := StateT Source (Except Failure)

namespace Reader

variable {α β : Type}

/-- Fails at a place because of a cause, if there is one. -/
def failAt (offset : Nat) (cause : Option Cause) : Reader α :=
  throw ⟨false, offset, ⟨none, [], cause⟩⟩

/-- Fails here, saying nothing. -/
def fail : Reader α := do failAt (← get).offset none

/-- Makes a failure of the reader different. -/
def onFailure (change : Source → Failure → Failure) (reader : Reader α) : Reader α := fun source =>
  (reader source).mapError (change source)

/-- Makes every failure of the reader final. -/
def committed (reader : Reader α) : Reader α :=
  reader.onFailure fun _ failure => { failure with committed := true }

/-- Names the construct that the reader reads, unless it failed within another one. -/
def named (construct : Construct) (reader : Reader α) : Reader α :=
  reader.onFailure fun _ failure =>
    { failure with
      fault := { failure.fault with construct := failure.fault.construct <|> some construct } }

/-- Says what could have stood where the reader failed. -/
def wanting (wanted : List Wanted) (reader : Reader α) : Reader α :=
  reader.onFailure fun _ failure =>
    { failure with fault := { failure.fault with wanted := failure.fault.wanted ++ wanted } }

/-- Moves every failure of the reader to where it began. -/
def failingAtStart (reader : Reader α) : Reader α :=
  reader.onFailure fun source failure => { failure with offset := source.offset }

/-- Tries a reader. If it does not apply, nothing is read. -/
def optional? (reader : Reader α) : Reader (Option α) := fun source =>
  match reader source with
  | .ok (value, rest) => .ok (some value, rest)
  | .error failure => if failure.committed then .error failure else .ok (none, source)

/-- The first reader, or the second if the first does not apply. -/
def either (first second : Reader α) : Reader α := do
  match ← optional? first with
  | some value => return value
  | none => second

/-- Whether a reader applies here. Nothing is read, and its failures are put here. -/
def applies (reader : Reader α) : Reader Bool := fun source =>
  match (optional? (failingAtStart reader)) source with
  | .ok (value, _) => .ok (value.isSome, source)
  | .error failure => .error failure

/-- The next character. -/
def peek? : Reader (Option Char) := return (← get).rest.head?

/-- Takes the given number of characters. -/
def skip (count : Nat) : Reader Unit := modify fun source => source.drop count

/-- Takes the given text if it comes next, and tells whether it did. -/
def accept (text : List Char) : Reader Bool := do
  if text.isPrefixOf (← get).rest then
    skip text.length
    return true
  else return false

/-- Takes the given text, which has to come next. -/
def require (text : List Char) : Reader Unit := do
  unless ← accept text do fail

/-- Takes one character of a class, if one comes next. -/
def oneOf? (isMember : Char → Bool) : Reader (Option Char) := do
  match (← get).rest with
  | character :: _ =>
    if isMember character then
      skip 1
      return some character
    else return none
  | [] => return none

/-- Takes one character of a class, which has to come next. -/
def oneOf (isMember : Char → Bool) : Reader Char := do
  match ← oneOf? isMember with
  | some character => return character
  | none => fail

/-- Takes all characters of a class that come next. -/
def takeWhile (isMember : Char → Bool) : Reader (List Char) := do
  let taken := (← get).rest.takeWhile isMember
  skip taken.length
  return taken

/-- Takes as many characters of a class as come next, but no more than the given number. -/
def takeUpTo (count : Nat) (isMember : Char → Bool) : Reader (List Char) := do
  let taken := ((← get).rest.take count).takeWhile isMember
  skip taken.length
  return taken

/-- Repeats a step until it finds nothing, at most `count` times. -/
def repeatUpTo (step : Reader (Option α)) : Nat → Reader (List α)
  | 0 => return []
  | count + 1 => do
    match ← step with
    | some value => return value :: (← repeatUpTo step count)
    | none => return []

/-- Repeats a step that takes at least one character until it finds nothing. -/
def repeated (step : Reader (Option α)) : Reader (List α) := do
  repeatUpTo step ((← get).rest.length + 1)

/-- Runs a reader and tells which bytes it took. -/
def spanned (reader : Reader α) : Reader (α × Span) := do
  let start := (← get).offset
  let value ← reader
  return (value, ⟨start, (← get).offset⟩)

/-- Changes what was read. A refusal is put where the reader began. -/
def refined (reader : Reader α) (refine : α → Except Cause β) : Reader β := do
  let start := (← get).offset
  match refine (← reader) with
  | .ok value => return value
  | .error cause => failAt start (some cause)

/-- Reads elements with a separator between them. A separator after which no element follows is
not read. -/
def separated (separator : Reader Unit) (element : Reader α) : Reader (List α) := do
  match ← optional? element with
  | none => return []
  | some first =>
    let more ← repeated (optional? (do separator; element))
    return first :: more

end Reader

/-- Blanks within a line. -/
def isBlankInLine (character : Char) : Bool := character == ' ' || character == '\t'

/-- Whether a character is a control character other than a tab. -/
def isControl (character : Char) : Bool :=
  (character.toNat < 0x20 && character != '\t') || character.toNat == 0x7f

namespace Reader

/-- Blanks within a line. -/
def blanks : Reader Unit := discard (takeWhile isBlankInLine)

/-- The end of a line: a line feed, or a carriage return and a line feed. -/
def newline : Reader Unit := do
  match ← peek? with
  | some '\r' =>
    skip 1
    require ['\n']
  | _ => require ['\n']

/-- A comment, without the end of its line. -/
def comment : Reader Unit := do
  require ['#']
  discard (takeWhile fun character => !isControl character)

/-- The end of a line, or of the text. -/
def lineEnd : Reader Unit := do
  if (← peek?).isSome then failingAtStart newline

/-- What may follow on a line after a complete construct, and the end of the line. -/
def trailing : Reader Unit := do
  blanks
  discard (optional? comment)
  lineEnd

/-- Blanks, comments and line ends. -/
def padding : Reader Unit := do
  discard <| repeated do
    match ← peek? with
    | some '#' =>
      comment
      newline
      return some ()
    | some '\n' | some '\r' =>
      newline
      return some ()
    | some ' ' | some '\t' =>
      blanks
      return some ()
    | _ => return none

end Reader

end RecordRegistry.Toml
