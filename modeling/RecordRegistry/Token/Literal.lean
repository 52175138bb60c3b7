/-
# Literals

How long the literal at the front of a text is, or none if no literal stands there.  Quoted
literals are read one character at a time by a small automaton, whose rules for bytes, text and
zero-terminated text are a record.  The functions that loop take the count of the characters
already read.
-/

import RecordRegistry.Text.Character

namespace RecordRegistry.Lexer

/-- A hexadecimal digit of either case. -/
def isHexDigit (character : Char) : Bool :=
  character.isDigit || ('a' ≤ character && character ≤ 'f') || ('A' ≤ character && character ≤ 'F')

/-- The value of a hexadecimal digit. -/
def hexValue (character : Char) : Nat :=
  if character.isDigit then character.toNat - '0'.toNat
  else if 'a' ≤ character then character.toNat - 'a'.toNat + 10
  else character.toNat - 'A'.toNat + 10

/-- What a quoted literal may hold. -/
structure QuoteRules where
  /-- Escapes of a code point, and characters above the ASCII range. -/
  unicode : Bool
  /-- Hexadecimal escapes may pass the ASCII range. -/
  highBytes : Bool
  /-- The zero byte may occur, escaped or not. -/
  zero : Bool
  /-- A line may be continued after a backslash. -/
  continuation : Bool

namespace QuoteRules

def string : QuoteRules := ⟨true, false, true, true⟩
def byteString : QuoteRules := ⟨false, true, true, true⟩
def terminatedString : QuoteRules := ⟨true, true, false, true⟩
def character : QuoteRules := ⟨true, false, true, false⟩
def byte : QuoteRules := ⟨false, true, true, false⟩

end QuoteRules

/-- How far a quoted literal has been read. -/
inductive QuoteState
  | plain
  /-- After a carriage return, which a line feed must follow. -/
  | carriageReturn
  /-- After a backslash. -/
  | escape
  | hexFirst
  | hexSecond (first : Char)
  | unicodeOpen
  | unicode (value digits : Nat)
  /-- In the blanks after a backslash at the end of a line. -/
  | continuation (afterReturn : Bool)

/-- What one more character means for a quoted literal. -/
inductive QuoteStep
  | fail
  | finished
  | go (state : QuoteState)

/-- One character of a string outside any escape. -/
def plainStep (rules : QuoteRules) (character : Char) : QuoteStep :=
  if character = '\x22' then .finished
  else if character = '\r' then .go .carriageReturn
  else if character = '\\' then .go .escape
  else if character.toNat = 0 && !rules.zero then .fail
  else if 128 ≤ character.toNat && !rules.unicode then .fail
  else .go .plain

/-- One character of a quoted literal. -/
def quoteStep (rules : QuoteRules) : QuoteState → Char → QuoteStep
  | .plain, character => plainStep rules character
  | .carriageReturn, character => if character = '\n' then .go .plain else .fail
  | .escape, character =>
    if character = 'x' then .go .hexFirst
    else if character = 'u' && rules.unicode then .go .unicodeOpen
    else if character = '0' && rules.zero then .go .plain
    else if ['n', 'r', 't', '\\', '\x27', '\x22'].contains character then .go .plain
    else if character = '\n' && rules.continuation then .go (.continuation false)
    else if character = '\r' && rules.continuation then .go (.continuation true)
    else .fail
  | .hexFirst, character =>
    if rules.highBytes then
      if isHexDigit character then .go (.hexSecond character) else .fail
    else if '0' ≤ character && character ≤ '7' then .go (.hexSecond character)
    else .fail
  | .hexSecond first, character =>
    if !isHexDigit character then .fail
    else if !rules.zero && first = '0' && character = '0' then .fail
    else .go .plain
  | .unicodeOpen, character => if character = '\x7b' then .go (.unicode 0 0) else .fail
  | .unicode value digits, character =>
    if isHexDigit character then
      if digits = 6 then .fail else .go (.unicode (16 * value + hexValue character) (digits + 1))
    else if digits = 0 then .fail
    else if character = '_' then .go (.unicode value digits)
    else if character = '\x7d' then
      if value.isValidChar && (rules.zero || value ≠ 0) then .go .plain else .fail
    else .fail
  | .continuation true, character => if character = '\n' then .go (.continuation false) else .fail
  | .continuation false, character =>
    if character = ' ' || character = '\t' || character = '\n' then .go (.continuation false)
    else if character = '\r' then .go (.continuation true)
    else plainStep rules character

/-- The length of a string whose opening quote has been read, with its suffix, which is a name
that follows without a gap. -/
def quotedLength? (rules : QuoteRules) : QuoteState → Nat → List Char → Option Nat
  | _, _, [] => none
  | state, count, character :: rest =>
    match quoteStep rules state character with
    | .fail => none
    | .finished => some (count + 1 + identifierLength rest)
    | .go state => quotedLength? rules state (count + 1) rest

/-- The length of an escape whose backslash has been read. -/
def escapeLength? (rules : QuoteRules) : QuoteState → Nat → List Char → Option Nat
  | .plain, count, _ => some count
  | _, _, [] => none
  | state, count, character :: rest =>
    match quoteStep rules state character with
    | .go state => escapeLength? rules state (count + 1) rest
    | _ => none

/-- The length of the body of a raw string, given the number of `#` that close it. -/
def rawBodyLength? (rules : QuoteRules) (hashes count : Nat) : List Char → Option Nat
  | [] => none
  | '\x22' :: rest =>
    if rest.take hashes = List.replicate hashes '#' then
      some (count + 1 + hashes + identifierLength (rest.drop hashes))
    else rawBodyLength? rules hashes (count + 1) rest
  | '\r' :: '\n' :: rest => rawBodyLength? rules hashes (count + 2) rest
  | '\r' :: _ => none
  | character :: rest =>
    if character.toNat = 0 && !rules.zero then none
    else if 128 ≤ character.toNat && !rules.unicode then none
    else rawBodyLength? rules hashes (count + 1) rest

/-- The length of a raw string after its letters: at most 255 `#`, a quote and the body. -/
def rawLength? (rules : QuoteRules) (text : List Char) : Option Nat :=
  let hashes := (text.takeWhile (· == '#')).length
  match text.drop hashes with
  | '\x22' :: body => if hashes ≤ 255 then rawBodyLength? rules hashes (hashes + 1) body else none
  | _ => none

/-- The length of a quoted character, whose opening quote has been read. Any single character may
stand between the quotes. -/
def characterLength? (rules : QuoteRules) (text : List Char) : Option Nat :=
  let inside : Option Nat :=
    match text with
    | '\\' :: rest => escapeLength? rules .escape 1 rest
    | character :: _ => if 128 ≤ character.toNat && !rules.unicode then none else some 1
    | [] => none
  match inside with
  | none => none
  | some length =>
    match text.drop length with
    | '\x27' :: rest => some (length + 1 + identifierLength rest)
    | _ => none

/-- A decimal digit or the underscore that may stand between digits. -/
def isDigitOrGap (character : Char) : Bool := character.isDigit || character == '_'

/-- The letters that introduce an exponent. -/
def isExponentLetter (character : Char) : Bool := character == 'e' || character == 'E'

/-- The length of an exponent after its letter. None if it has no digit, or two signs. -/
def exponentLength? (signed valued : Bool) (count : Nat) : List Char → Option Nat
  | [] => if valued then some count else none
  | character :: rest =>
    if character = '+' || character = '-' then
      if valued then some count
      else if signed then none
      else exponentLength? true false (count + 1) rest
    else if character.isDigit then exponentLength? signed true (count + 1) rest
    else if character = '_' then exponentLength? signed valued (count + 1) rest
    else if valued then some count
    else none

/-- The length of the digits of a number with a point or an exponent. A point that another point
or a name follows is not part of the number, and such a text is no number of this kind. A bad
exponent after a fraction is left for the suffix. -/
def floatDigitsLength? (text : List Char) : Option Nat :=
  match text with
  | [] => none
  | first :: rest =>
    if !first.isDigit then none
    else
      let whole := 1 + (rest.takeWhile isDigitOrGap).length
      match text.drop whole with
      | '.' :: fraction =>
        if fraction.head?.any fun character => character = '.' || isIdentifierStart character then
          none
        else
          let length := whole + 1 + (fraction.takeWhile isDigitOrGap).length
          match text.drop length with
          | letter :: exponent =>
            if isExponentLetter letter then
              some ((exponentLength? false false (length + 1) exponent).getD length)
            else some length
          | [] => some length
      | letter :: exponent =>
        if isExponentLetter letter then exponentLength? false false (whole + 1) exponent else none
      | [] => none

/-- The length of the digits of a whole number in the given base. A digit too large for the base
is an error, a letter too large begins the suffix. -/
def integerDigitsLength? (base : Nat) (empty : Bool) (count : Nat) : List Char → Option Nat
  | [] => if empty then none else some count
  | character :: rest =>
    if character.isDigit then
      if hexValue character ≥ base then none
      else integerDigitsLength? base false (count + 1) rest
    else if isHexDigit character && hexValue character < base then
      integerDigitsLength? base false (count + 1) rest
    else if character = '_' then
      if empty && base = 10 then none else integerDigitsLength? base empty (count + 1) rest
    else if empty then none
    else some count

/-- The length of the digits of a whole number with the marker of its base. -/
def integerLength? : List Char → Option Nat
  | '0' :: 'x' :: rest => integerDigitsLength? 16 true 2 rest
  | '0' :: 'o' :: rest => integerDigitsLength? 8 true 2 rest
  | '0' :: 'b' :: rest => integerDigitsLength? 2 true 2 rest
  | text => integerDigitsLength? 10 true 0 text

/-- The length of a number with its suffix, given the length of its digits. A character that may
continue a name cannot follow. -/
def withSuffix? (text : List Char) (digits : Nat) : Option Nat :=
  let length := digits + identifierLength (text.drop digits)
  if (text.drop length).head?.any isIdentifierContinue then none else some length

/-- The length of a quoted literal at the front of a text. -/
def quotedLiteralLength? : List Char → Option Nat
  | '\x22' :: rest => quotedLength? .string .plain 1 rest
  | 'r' :: rest => (rawLength? .string rest).map (· + 1)
  | 'b' :: '\x22' :: rest => quotedLength? .byteString .plain 2 rest
  | 'b' :: 'r' :: rest => (rawLength? .byteString rest).map (· + 2)
  | 'b' :: '\x27' :: rest => (characterLength? .byte rest).map (· + 2)
  | 'c' :: '\x22' :: rest => quotedLength? .terminatedString .plain 2 rest
  | 'c' :: 'r' :: rest => (rawLength? .terminatedString rest).map (· + 2)
  | '\x27' :: rest => (characterLength? .character rest).map (· + 1)
  | _ => none

/-- The length of the literal at the front of a text. -/
def literalLength? (text : List Char) : Option Nat :=
  quotedLiteralLength? text <|> (floatDigitsLength? text).bind (withSuffix? text) <|>
    (integerLength? text).bind (withSuffix? text)

end RecordRegistry.Lexer
