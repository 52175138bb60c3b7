/-
# Writing a configuration

A text is written in the first of its forms that needs no escapes: between double quotes, between
single quotes, then between three double or three single quotes.  If there is none, it is written
with escapes.
-/

import RecordRegistry.Toml.Text

namespace RecordRegistry.Toml.Written

/-- The length of the longest run of a character. -/
def longestRun (wanted : Char) (characters : List Char) : Nat :=
  let step := fun (state : Nat × Nat) character =>
    let run := if character = wanted then state.1 + 1 else 0
    (run, max state.2 run)
  (characters.foldl step (0, 0)).2

/-- Whether a text has a control character other than a tab or the end of a line. -/
def hasControl (characters : List Char) : Bool :=
  characters.any fun character => isControl character && character != '\n'

/-- The digits of a number in base sixteen, in capital letters, with zeros in front up to the given
count. -/
def paddedHex (count value : Nat) : List Char :=
  let digits := (Nat.toDigits 16 value).map Char.toUpper
  List.replicate (count - digits.length) '0' ++ digits

/-- The escape that stands for a character, none if the character stands for itself. On several
lines the end of a line stands for itself. -/
def escape? (isMultiline : Bool) (character : Char) : Option (List Char) :=
  if character = '\x08' then some ['\\', 'b']
  else if character = '\t' then some ['\\', 't']
  else if character = '\n' then (if isMultiline then none else some ['\\', 'n'])
  else if character = '\x0c' then some ['\\', 'f']
  else if character = '\r' then some ['\\', 'r']
  else if character = '\\' then some ['\\', '\\']
  else if isControl character then some (['\\', 'u'] ++ paddedHex 4 character.toNat)
  else none

/-- A text with escapes. `room` is the number of double quotes that may still follow each other
without an escape, out of `most`. -/
def escaped (isMultiline : Bool) (most : Nat) : Nat → List Char → List Char
  | _, [] => []
  | room, character :: rest =>
    if character = doubleQuote then
      match room with
      | 0 => '\\' :: doubleQuote :: escaped isMultiline most most rest
      | room + 1 => doubleQuote :: escaped isMultiline most room rest
    else (escape? isMultiline character).getD [character] ++ escaped isMultiline most most rest

/-- A text with escapes between double quotes on one line. -/
def basic (characters : List Char) : List Char :=
  [doubleQuote] ++ escaped false 0 0 characters ++ [doubleQuote]

/-- A text between single quotes on one line. -/
def literal (characters : List Char) : List Char := [singleQuote] ++ characters ++ [singleQuote]

/-- A content between three quotes on either side. If the text has several lines, it starts on a
line of its own. -/
def multiline (quote : Char) (hasLines : Bool) (content : List Char) : List Char :=
  List.replicate 3 quote ++ (if hasLines then ['\n'] else []) ++ content ++ List.replicate 3 quote

/-- A text as a value. -/
def value (characters : List Char) : List Char :=
  let double := longestRun doubleQuote characters
  let single := longestRun singleQuote characters
  let control := hasControl characters
  let escape := characters.contains '\\'
  let hasLines := characters.contains '\n'
  let multilineBasic := multiline doubleQuote hasLines (escaped true 2 2 characters)
  if !control && !escape && double = 0 && !hasLines then basic characters
  else if !control && single = 0 && !hasLines then literal characters
  else if !control && !escape && double ≤ 2 then multilineBasic
  else if !control && single ≤ 2 then multiline singleQuote hasLines characters
  else if hasLines then multilineBasic
  else basic characters

/-- A name as a key: without quotes if it may, else like a text on one line. The end of a line is
always escaped. -/
def name (text : String) : String :=
  let characters := text.toList
  let control := characters.any isControl
  if !characters.isEmpty && characters.all fun character =>
      character.isAlphanum || character == '_' || character == '-' then text
  else if !control && !characters.contains '\\' && !characters.contains doubleQuote then
    String.ofList (basic characters)
  else if !control && !characters.contains singleQuote then String.ofList (literal characters)
  else String.ofList (basic characters)

end RecordRegistry.Toml.Written
