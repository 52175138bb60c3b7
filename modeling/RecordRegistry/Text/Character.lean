/-
# Characters of a source text

The characters that separate tokens are those with the Unicode property `White_Space`, and the two
directional marks, which source text treats the same way.  An identifier begins with an underscore
or a character of `XID_Start` and goes on with characters of `XID_Continue`; text is compared as
written, without normalisation.
-/

import RecordRegistry.Text.CodePoints

namespace RecordRegistry

/-- Characters that have the Unicode property `White_Space`. -/
def isWhiteSpace (character : Char) : Bool :=
  let code := character.toNat
  (0x09 ≤ code && code ≤ 0x0d) || code == 0x20 || code == 0x85 || code == 0xa0 ||
    code == 0x1680 || (0x2000 ≤ code && code ≤ 0x200a) || code == 0x2028 || code == 0x2029 ||
    code == 0x202f || code == 0x205f || code == 0x3000

/-- Characters that may stand between two tokens: white space and the left-to-right and
right-to-left marks. -/
def isBlank (character : Char) : Bool :=
  isWhiteSpace character || character.toNat == 0x200e || character.toNat == 0x200f

/-- Characters that may begin an identifier. -/
def isIdentifierStart (character : Char) : Bool :=
  character.isAlpha || character == '_' ||
    (128 ≤ character.toNat && CodePoints.holds CodePoints.identifierStart character.toNat)

/-- Characters that may follow the first character of an identifier. -/
def isIdentifierContinue (character : Char) : Bool :=
  isIdentifierStart character || character.isDigit ||
    (128 ≤ character.toNat && CodePoints.holds CodePoints.identifierContinue character.toNat)

theorem isIdentifierContinue_of_isIdentifierStart {character : Char}
    (h : isIdentifierStart character = true) : isIdentifierContinue character = true := by
  simp [isIdentifierContinue, h]

/-- The length of the longest identifier at the front of a text, zero if there is none. -/
def identifierLength : List Char → Nat
  | [] => 0
  | character :: rest =>
    if isIdentifierStart character then 1 + (rest.takeWhile isIdentifierContinue).length else 0

theorem identifierLength_le (text : List Char) : identifierLength text ≤ text.length := by
  cases text with
  | nil => simp [identifierLength]
  | cons character rest =>
    have shorter := (List.takeWhile_sublist isIdentifierContinue (l := rest)).length_le
    simp only [identifierLength, List.length_cons]
    split <;> omega

end RecordRegistry
