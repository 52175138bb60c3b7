/-
# Comments and blanks between tokens

What may stand between two tokens: blank characters and comments, except the documentation
comments, which are tokens of their own.  The functions measure what stands at the front of a
text, so that a caller can take that many characters and drop them.
-/

import RecordRegistry.Text.Character

namespace RecordRegistry.Lexer

/-- The length of the rest of a line. A carriage return right before the line feed belongs to the
line end. -/
def lineLength (count : Nat) : List Char → Nat
  | [] => count
  | '\n' :: _ => count
  | '\r' :: '\n' :: _ => count
  | _ :: rest => lineLength (count + 1) rest

/-- The length of a block comment, given how many comments are open; comments nest. -/
def blockLength? (count : Nat) : Nat → List Char → Option Nat
  | depth, '/' :: '*' :: rest => blockLength? (count + 2) (depth + 1) rest
  | 0, '*' :: '/' :: _ => none
  | 1, '*' :: '/' :: _ => some (count + 2)
  | depth + 2, '*' :: '/' :: rest => blockLength? (count + 2) (depth + 1) rest
  | depth, _ :: rest => blockLength? (count + 1) depth rest
  | _, [] => none

/-- The length of the blank character or comment at the front of a text; none if a token, or a
comment that does not end, stands there. -/
def blankLength? (text : List Char) : Option Nat :=
  match text with
  | '/' :: '/' :: '/' :: '/' :: rest => some (lineLength 4 rest)
  | '/' :: '/' :: '/' :: _ => none
  | '/' :: '/' :: '!' :: _ => none
  | '/' :: '/' :: rest => some (lineLength 2 rest)
  | '/' :: '*' :: '*' :: '/' :: _ => some 4
  | '/' :: '*' :: '*' :: '*' :: _ => blockLength? 0 0 text
  | '/' :: '*' :: '*' :: _ => none
  | '/' :: '*' :: '!' :: _ => none
  | '/' :: '*' :: _ => blockLength? 0 0 text
  | character :: _ => if isBlank character then some 1 else none
  | [] => none

/-- Drops at most `count` blanks and comments from the front of a text. -/
def skipBlanksUpTo : Nat → List Char → List Char
  | 0, text => text
  | count + 1, text =>
    match blankLength? text with
    | some length => skipBlanksUpTo count (text.drop length)
    | none => text

/-- Drops every blank and comment from the front of a text. Each of them takes at least one
character, so the length of the text bounds their number. -/
def skipBlanks (text : List Char) : List Char := skipBlanksUpTo text.length text

/-- A documentation comment at the front of a text: its length, its content, and whether it
describes what contains it. -/
def documentation? (text : List Char) : Option (Nat × List Char × Bool) :=
  match text with
  | '/' :: '/' :: '!' :: rest => some (line rest true)
  | '/' :: '*' :: '!' :: _ => block true
  | '/' :: '/' :: '/' :: '/' :: _ => none
  | '/' :: '/' :: '/' :: rest => some (line rest false)
  | '/' :: '*' :: '*' :: '*' :: _ => none
  | '/' :: '*' :: '*' :: _ => block false
  | _ => none
where
  line (rest : List Char) (inner : Bool) : Nat × List Char × Bool :=
    let length := lineLength 0 rest
    (3 + length, rest.take length, inner)
  block (inner : Bool) : Option (Nat × List Char × Bool) :=
    (blockLength? 0 0 text).map fun length => (length, (text.take (length - 2)).drop 3, inner)

/-- Whether a carriage return stands in the text without a line feed after it. -/
def hasBareReturn : List Char → Bool
  | '\r' :: '\n' :: rest => hasBareReturn rest
  | '\r' :: _ => true
  | _ :: rest => hasBareReturn rest
  | [] => false

end RecordRegistry.Lexer
