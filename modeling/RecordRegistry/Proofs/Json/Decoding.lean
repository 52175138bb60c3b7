/-
# Decoding JSON

A decoder for JSON documents whose numbers are whole.  It does not know how documents are laid out
here: blanks may stand between any two parts, texts may use every escape, and characters beyond the
first plane may be written as two halves.  Nothing but one value may stand in a document.
-/

import RecordRegistry.Json
import RecordRegistry.Token.Literal

namespace RecordRegistry

namespace JsonValue

/-- How far the inside of a text has been read. -/
inductive TextState
  | plain
  /-- After a backslash. -/
  | escape
  /-- Inside the four digits of a code unit, with how many are to come.  The unit may be the second
  half of a pair. -/
  | unit (value left : Nat) (first : Option Nat)
  /-- After the first half of a pair, and whether the backslash of the second has been read. -/
  | half (first : Nat) (marked : Bool)
  deriving DecidableEq

/-- The character that a letter after a backslash stands for. -/
def escapeOf? : Char → Option Char
  | '\x22' => some '\x22'
  | '\\' => some '\\'
  | '/' => some '/'
  | 'b' => some '\x08'
  | 'f' => some '\x0c'
  | 'n' => some '\n'
  | 'r' => some '\r'
  | 't' => some '\t'
  | _ => none

/-- What a code unit means: the first half of a pair, or a character, alone or as a second half. -/
def unitStep (value : Nat) : Option Nat → Option (TextState × List Char)
  | none =>
    if 0xd800 ≤ value ∧ value < 0xdc00 then some (.half value false, [])
    else if value.isValidChar then some (.plain, [Char.ofNat value])
    else none
  | some first =>
    if 0xdc00 ≤ value ∧ value < 0xe000 then
      some (.plain, [Char.ofNat (0x10000 + 0x400 * (first - 0xd800) + (value - 0xdc00))])
    else none

/-- What one more character means for a text, with the characters that it completes. -/
def textStep : TextState → Char → Option (TextState × List Char)
  | .plain, character =>
    if character = '\\' then some (.escape, [])
    else if character.toNat < 0x20 then none
    else some (.plain, [character])
  | .escape, character =>
    if character = 'u' then some (.unit 0 3 none, [])
    else (escapeOf? character).map fun meant => (.plain, [meant])
  | .unit value left first, character =>
    if Lexer.isHexDigit character then
      let value := 16 * value + Lexer.hexValue character
      match left with
      | 0 => unitStep value first
      | left + 1 => some (.unit value left first, [])
    else none
  | .half first false, character => if character = '\\' then some (.half first true, []) else none
  | .half first true, character => if character = 'u' then some (.unit 0 3 (some first), []) else none

/-- The content of a text whose opening quote has been read, and what follows the closing one. -/
def textFrom? : TextState → List Char → Option (List Char × List Char)
  | _, [] => none
  | state, character :: rest =>
    if state = .plain ∧ character = '\x22' then some ([], rest)
    else
      match textStep state character with
      | some (next, read) =>
        (textFrom? next rest).map fun (content, rest) => (read ++ content, rest)
      | none => none

/-- What cannot follow a whole number: it would make it a number with a fraction or an exponent. -/
def continuesNumber (character : Char) : Bool := ['.', 'e', 'E'].contains character

/-- A whole number at the front, and what follows it.  No zero stands before other digits. -/
def number? (text : List Char) : Option (Nat × List Char) :=
  let digits := text.takeWhile Char.isDigit
  let rest := text.dropWhile Char.isDigit
  if digits = [] ∨ (digits.head? = some '0' ∧ digits ≠ ['0']) ∨ rest.head?.any continuesNumber then
    none
  else some (Nat.ofDigitChars 10 digits 0, rest)

/-- Characters that may stand between the parts of a document. -/
def isGap (character : Char) : Bool := [' ', '\n', '\r', '\t'].contains character

def afterGaps (text : List Char) : List Char := text.dropWhile isGap

mutual

/-- The value at the front of a text, of which at most `count` parts are looked at, and what follows
it. -/
def value? : Nat → List Char → Option (JsonValue × List Char)
  | 0, _ => none
  | count + 1, document =>
    match afterGaps document with
    | '\x22' :: rest =>
      (textFrom? .plain rest).map fun (content, rest) => (text (String.ofList content), rest)
    | '[' :: rest =>
      match afterGaps rest with
      | ']' :: rest => some (array [], rest)
      | rest => do
        let (first, rest) ← value? count rest
        let (others, rest) ← moreElements? count rest
        return (array (first :: others), rest)
    | '\x7b' :: rest =>
      match afterGaps rest with
      | '\x7d' :: rest => some (object [], rest)
      | rest => do
        let (first, rest) ← member? count rest
        let (others, rest) ← moreMembers? count rest
        return (object (first :: others), rest)
    | 'n' :: 'u' :: 'l' :: 'l' :: rest => some (null, rest)
    | 't' :: 'r' :: 'u' :: 'e' :: rest => some (boolean true, rest)
    | 'f' :: 'a' :: 'l' :: 's' :: 'e' :: rest => some (boolean false, rest)
    | document => (number? document).map fun (value, rest) => (number value, rest)

/-- The further elements of an array up to its bracket, and what follows the bracket. -/
def moreElements? : Nat → List Char → Option (List JsonValue × List Char)
  | 0, _ => none
  | count + 1, document =>
    match afterGaps document with
    | ']' :: rest => some ([], rest)
    | ',' :: rest => do
      let (first, rest) ← value? count rest
      let (others, rest) ← moreElements? count rest
      return (first :: others, rest)
    | _ => none

/-- A member of an object, and what follows it. -/
def member? : Nat → List Char → Option ((String × JsonValue) × List Char)
  | 0, _ => none
  | count + 1, document =>
    match afterGaps document with
    | '\x22' :: rest => do
      let (name, rest) ← textFrom? .plain rest
      match afterGaps rest with
      | ':' :: rest =>
        let (value, rest) ← value? count rest
        return ((String.ofList name, value), rest)
      | _ => none
    | _ => none

/-- The further members of an object up to its brace, and what follows the brace. -/
def moreMembers? : Nat → List Char → Option (List (String × JsonValue) × List Char)
  | 0, _ => none
  | count + 1, document =>
    match afterGaps document with
    | '\x7d' :: rest => some ([], rest)
    | ',' :: rest => do
      let (first, rest) ← member? count rest
      let (others, rest) ← moreMembers? count rest
      return (first :: others, rest)
    | _ => none

end

/-- The value that a document holds, if it holds one and nothing else. -/
def decode? (document : String) : Option JsonValue :=
  match value? (document.length + 1) document.toList with
  | some (value, rest) => if afterGaps rest = [] then some value else none
  | none => none

end JsonValue

end RecordRegistry
