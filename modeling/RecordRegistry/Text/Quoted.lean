/-
# Quoted text

How a text is shown between quotes in a message: quotes, backslashes and line ends are escaped, and
so is every character that would not be seen or would change the one before it.
-/

import RecordRegistry.Text.CodePoints
import RecordRegistry.Text.Utf8

namespace RecordRegistry.Quoted

/-- The digits of a number in base sixteen, in small letters. -/
def hexDigits (value : Nat) : List Char := Nat.toDigits 16 value

/-- A character by its code point. -/
def byCodePoint (character : Char) : List Char :=
  ['\\', 'u', '\x7b'] ++ hexDigits character.toNat ++ ['\x7d']

/-- A character as it is shown between quotes. -/
def shown (character : Char) : List Char :=
  if character = '\x00' then ['\\', '0']
  else if character = '\t' then ['\\', 't']
  else if character = '\r' then ['\\', 'r']
  else if character = '\n' then ['\\', 'n']
  else if character = '\x22' || character = '\\' then ['\\', character]
  else if character.toNat < 0x20 || character.toNat = 0x7f then byCodePoint character
  else if 0x80 ≤ character.toNat && CodePoints.holds CodePoints.escaped character.toNat then
    byCodePoint character
  else [character]

/-- A text between quotes. -/
def text (text : String) : String :=
  String.ofList (['\x22'] ++ text.toList.flatMap shown ++ ['\x22'])

/-- A byte that is no text. -/
def byte (byte : UInt8) : List Char :=
  let digit := fun value => (Nat.digitChar value).toUpper
  ['\\', 'x', digit (byte.toNat / 16), digit (byte.toNat % 16)]

/-- A piece of the name of a file. Single quotes are escaped as well. -/
def piece : Utf8.Piece → List Char
  | .character '\x27' => ['\\', '\x27']
  | .character character => shown character
  | .invalid bytes => bytes.flatMap byte

/-- The name of a file between quotes. -/
def bytes (bytes : Bytes) : String :=
  String.ofList (['\x22'] ++ (Utf8.pieces bytes).flatMap piece ++ ['\x22'])

end RecordRegistry.Quoted
