/-
# Texts in a configuration

A text stands between double quotes, where a backslash starts an escape, or between single quotes,
where nothing is escaped.  Between three quotes it may have several lines; a line end directly
after the opening quotes does not belong to it.
-/

import RecordRegistry.Toml.Reader

namespace RecordRegistry.Toml

/-- The mark on either side of a text with escapes. -/
def doubleQuote : Char := '\x22'

/-- The mark on either side of a text without escapes. -/
def singleQuote : Char := '\x27'

/-- Characters that stand for themselves between double quotes. -/
def isPlain (character : Char) : Bool :=
  !isControl character && character != doubleQuote && character != '\\'

/-- Characters that may stand between single quotes. -/
def isVerbatim (character : Char) : Bool := !isControl character && character != singleQuote

/-- Digits in base sixteen. -/
def isHexDigit (character : Char) : Bool :=
  character.isDigit || ('a' ≤ character && character ≤ 'f') || ('A' ≤ character && character ≤ 'F')

/-- The value of a digit in base sixteen. -/
def hexDigitValue (character : Char) : Nat :=
  if character.isDigit then character.toNat - '0'.toNat
  else if character ≤ 'F' then character.toNat - 'A'.toNat + 10
  else character.toNat - 'a'.toNat + 10

/-- The number that digits in the given base write. -/
def numberOf (base : Nat) (digits : List Char) : Nat :=
  digits.foldl (fun value digit => base * value + hexDigitValue digit) 0

/-- Marks that may follow a backslash. -/
def escapeMarks : List Wanted :=
  ['b', 'f', 'n', 'r', 't', 'u', 'U', '\\', '\x22'].map fun character =>
    .mark (String.singleton character)

namespace Reader

/-- A character by exactly the given number of digits of its code point. -/
def codePoint (count : Nat) : Reader Char := do
  let start := (← get).offset
  let digits ← takeUpTo count isHexDigit
  if digits.length < count then failAt start none
  let code := numberOf 16 digits
  if code.isValidChar then return Char.ofNat code
  else failAt start (some .outOfRange)

/-- The character that an escape stands for, after its backslash. -/
def escaped : Reader Char := do
  match (← get).rest with
  | [] => fail
  | mark :: _ =>
    let start := (← get).offset
    skip 1
    match mark with
    | 'b' => return '\x08'
    | 'f' => return '\x0c'
    | 'n' => return '\n'
    | 'r' => return '\r'
    | 't' => return '\t'
    | '\\' => return '\\'
    | '\x22' => return '\x22'
    | 'u' => named .shortCodePoint (committed (codePoint 4))
    | 'U' => named .longCodePoint (committed (codePoint 8))
    | _ =>
      let offset := if mark.toNat < 0x80 then start + 1 else start
      wanting escapeMarks (named .escapeSequence (committed (failAt offset none)))

/-- An escape with its backslash. -/
def escape : Reader Char := do
  require ['\\']
  escaped

/-- A line end that a backslash hides, with all blanks and line ends that follow. -/
def hiddenLineEnd : Reader Unit := do
  require ['\\']
  blanks
  newline
  discard <| repeated <| optional? <| either newline (discard (oneOf isBlankInLine))

/-- A run of characters of a class. -/
def chunk (isMember : Char → Bool) : Reader (List Char) := do
  let taken ← takeWhile isMember
  if taken = [] then fail else return taken

/-- A piece of a text between double quotes. -/
def basicPiece : Reader (List Char) := either (chunk isPlain) (List.singleton <$> escape)

/-- A piece of a text of several lines between double quotes, which are no part of it. -/
def multilineBasicPiece : Reader (List Char) :=
  either (chunk isPlain) <|
  either (do hiddenLineEnd; return []) <|
  either (List.singleton <$> escape) (do newline; return ['\n'])

/-- A piece of a text of several lines between single quotes, which are no part of it. -/
def multilineLiteralPiece : Reader (List Char) :=
  either (chunk isVerbatim) (do newline; return ['\n'])

/-- A text between double quotes on one line. -/
def basicText : Reader String := do
  require [doubleQuote]
  let pieces ← repeated (optional? basicPiece)
  named .basicString (committed (require [doubleQuote]))
  return String.ofList pieces.flatten

/-- A text between single quotes on one line. -/
def literalText : Reader String := named .literalString do
  require [singleQuote]
  let text ← takeWhile isVerbatim
  committed (require [singleQuote])
  return String.ofList text

/-- One or two quotes before something that the reader reads. -/
def quotesBefore (quote : Char) (follows : Reader Unit) : Reader (List Char) :=
  let before := fun (quotes : List Char) => do
    require quotes
    if ← applies follows then return quotes else fail
  either (before [quote, quote]) (before [quote])

/-- A text of several lines, which consists of pieces; one or two quotes may come before a piece
or before the closing quotes. -/
def multilineText (quote : Char) (piece : Reader (List Char)) : Reader String := do
  let closing := List.replicate 3 quote
  require closing
  discard (optional? newline)
  committed do
    let pieces ← repeated (optional? (either piece (quotesBefore quote (discard piece))))
    let last ← optional? (quotesBefore quote (require closing))
    require closing
    return String.ofList (pieces.flatten ++ last.getD [])

/-- A text in any of its forms. -/
def text : Reader String := do
  let rest := (← get).rest
  if (List.replicate 3 doubleQuote).isPrefixOf rest then
    named .multilineBasicString (multilineText doubleQuote multilineBasicPiece)
  else if (List.replicate 3 singleQuote).isPrefixOf rest then
    named .multilineLiteralString (multilineText singleQuote multilineLiteralPiece)
  else if rest.head? = some singleQuote then literalText
  else basicText

end Reader

end RecordRegistry.Toml
