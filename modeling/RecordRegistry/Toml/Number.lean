/-
# Numbers in a configuration

Whole numbers are written in base ten with a sign or in base two, eight or sixteen without one,
and have to fit into 64 bits.  A number with a fraction or an exponent is a floating-point number.
Single underscores may stand between digits.
-/

import RecordRegistry.Decimal.Binary
import RecordRegistry.Toml.Text

namespace RecordRegistry.Toml

/-- Decimal digits. -/
def isDecimalDigit (character : Char) : Bool := character.isDigit

/-- Digits in base eight. -/
def isOctalDigit (character : Char) : Bool := '0' ≤ character && character ≤ '7'

/-- Digits in base two. -/
def isBinaryDigit (character : Char) : Bool := character == '0' || character == '1'

/-- Characters that stand before a number. -/
def isSign (character : Char) : Bool := character == '+' || character == '-'

/-- The whole number as one that fits into 64 bits with a sign, from `-2 ^ 63` to `2 ^ 63 - 1`. -/
def fitted (value : Int) : Except Cause Int :=
  if value > 9223372036854775807 then .error .tooLarge
  else if value < -9223372036854775808 then .error .tooSmall
  else .ok value

namespace Reader

/-- One digit, or an underscore and a digit after it. -/
def nextDigit? (isMember : Char → Bool) : Reader (Option Char) := do
  match ← oneOf? isMember with
  | some digit => return some digit
  | none =>
    if ← accept ['_'] then
      return some (← wanting [.digit] (committed (oneOf isMember)))
    else return none

/-- Digits with single underscores between them. -/
def digits (isMember : Char → Bool) : Reader (List Char) := do
  let first ← oneOf isMember
  return first :: (← repeated (nextDigit? isMember))

/-- Decimal digits after an optional sign. A zero stands alone. -/
def signedDigits : Reader (Bool × List Char) := named .integer do
  let sign ← oneOf? isSign
  let rest := (← get).rest
  let read ← if rest.head? = some '0' then List.singleton <$> oneOf isDecimalDigit
    else digits isDecimalDigit
  return (sign = some '-', read)

/-- A whole number in another base, after the two characters that name the base. -/
def basedInteger (construct : Construct) (base : Nat) (isMember : Char → Bool) : Reader Int :=
  committed <| refined (do
      skip 2
      named construct (digits isMember))
    fun read => fitted (numberOf base read)

/-- A whole number. -/
def integer : Reader Int := do
  match (← get).rest with
  | '0' :: 'x' :: _ => basedInteger .hexadecimalInteger 16 isHexDigit
  | '0' :: 'o' :: _ => basedInteger .octalInteger 8 isOctalDigit
  | '0' :: 'b' :: _ => basedInteger .binaryInteger 2 isBinaryDigit
  | _ =>
    let start := (← get).offset
    let (negative, read) ← signedDigits
    let value : Int := numberOf 10 read
    match fitted (if negative then -value else value) with
    | .ok value => return value
    | .error cause => committed (failAt start (some cause))

/-- The digits after a point. -/
def fraction : Reader (List Char) := do
  require ['.']
  wanting [.digit] (committed (digits isDecimalDigit))

/-- A power of ten. -/
def exponent : Reader Int := do
  discard (oneOf fun character => character == 'e' || character == 'E')
  let sign ← oneOf? isSign
  let value : Int := numberOf 10 (← committed (digits isDecimalDigit))
  return if sign = some '-' then -value else value

/-- A number with a fraction or an exponent or both. -/
def fractional : Reader Binary := do
  let start := (← get).offset
  let (negative, whole) ← signedDigits
  let (places, power) ← either (do return ([], ← exponent))
    (do return (← fraction, (← optional? exponent).getD 0))
  let value := Binary.nearest negative
    ⟨numberOf 10 (whole ++ places), power - places.length⟩
  if value = .infinite false then committed (failAt start none) else return value

/-- An infinite number, or what is no number. -/
def special : Reader Binary := do
  let sign ← oneOf? isSign
  if ← accept ['i', 'n', 'f'] then return .infinite (sign = some '-')
  else
    require ['n', 'a', 'n']
    return .undefined

/-- A floating-point number. -/
def float : Reader Binary := named .float (either fractional special)

end Reader

end RecordRegistry.Toml
