/-
# Whole numbers among literals

A number literal is whole or has a fraction or an exponent.  The digits of a whole number may name
a field of a tuple, and a number with a fraction may name a field of a field.
-/

import RecordRegistry.Token.Literal

namespace RecordRegistry.Literal

/-- Whether a literal is a number. -/
def isNumber (text : List Char) : Bool := text.head?.any Char.isDigit

/-- What follows the digits of a decimal number. -/
def afterDigits (text : List Char) : List Char := text.dropWhile Lexer.isDigitOrGap

/-- Whether a suffix turns out to be an exponent. -/
def isExponent : List Char → Bool
  | letter :: rest =>
    Lexer.isExponentLetter letter &&
      (rest.dropWhile (· == '_')).head?.any fun next => next.isDigit || next == '+' || next == '-'
  | [] => false

/-- Whether a literal is a whole number. -/
def isWhole (text : List Char) : Bool :=
  match text with
  | '0' :: 'x' :: _ => true
  | '0' :: 'o' :: _ => true
  | '0' :: 'b' :: _ => true
  | _ =>
    let suffix := afterDigits text
    isNumber text && suffix.head? ≠ some '.' && !isExponent suffix

/-- The value and the suffix of a whole number. -/
def wholeParts (text : List Char) : Nat × List Char :=
  match text with
  | '0' :: 'x' :: rest => digits 16 rest
  | '0' :: 'o' :: rest => digits 8 rest
  | '0' :: 'b' :: rest => digits 2 rest
  | _ => digits 10 text
where
  isDigitOf (base : Nat) (character : Char) : Bool :=
    Lexer.isHexDigit character && Lexer.hexValue character < base
  digits (base : Nat) (text : List Char) : Nat × List Char :=
    let isPart := fun character => isDigitOf base character || character == '_'
    let value := (text.takeWhile isPart).foldl (fun value character =>
      if character = '_' then value else base * value + Lexer.hexValue character) 0
    (value, text.dropWhile isPart)

/-- What keeps a number from naming a field of a tuple. The names are whole, run up to 32 bits and
have neither a sign nor a suffix. -/
def fieldFault? (negative : Bool) (text : List Char) : Option String :=
  let (value, suffix) := wholeParts text
  if !isWhole text then some "expected integer literal"
  else if suffix ≠ [] then some "expected unsuffixed integer"
  else if negative then some "invalid digit found in string"
  else if value < 4294967296 then none
  else some "number too large to fit in target type"

end RecordRegistry.Literal
