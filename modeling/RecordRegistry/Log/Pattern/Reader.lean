/-
# Reading what a search pattern is made of

The text of a pattern is read once, from its start to its end.  Flags hold from where they are set
to the end of their group.  What is written well but has no meaning is only reported if nothing is
written badly.

Classes that are named by a Unicode property are not part of this; every such name counts as
unknown.
-/

import RecordRegistry.Log.Pattern
import RecordRegistry.Log.Pattern.Problem

namespace RecordRegistry

/-- A flag of a pattern. How greedy repetitions are has no influence on whether there is a match. -/
inductive PatternFlag
  | anyCase
  | lines
  | dotAll
  | greed
  | wide
  | pairs
  | spaced
  deriving DecidableEq, Repr

namespace PatternFlag

/-- The flag for a letter. -/
def ofLetter? : Char → Option PatternFlag
  | 'i' => some anyCase
  | 'm' => some lines
  | 's' => some dotAll
  | 'U' => some greed
  | 'u' => some wide
  | 'R' => some pairs
  | 'x' => some spaced
  | _ => none

end PatternFlag

/-- The flags that are set. -/
abbrev PatternFlags := List PatternFlag

namespace PatternFlags

/-- Sets flags, or takes them back. -/
def apply (flags : PatternFlags) (changes : List (PatternFlag × Bool)) : PatternFlags :=
  changes.foldl (fun flags (flag, set) =>
    if set then flag :: flags.filter (· ≠ flag) else flags.filter (· ≠ flag)) flags

/-- A set of characters, with all cases of its members if case is to be ignored. -/
def widened (flags : PatternFlags) (set : CharacterSet) : CharacterSet :=
  if flags.contains .anyCase then .anyCase (flags.contains .wide) set else set

end PatternFlags

/-- What remains of the text of a pattern, and what holds for it. -/
structure PatternSource where
  rest : List Char
  /-- How many characters come before the rest. -/
  offset : Nat
  flags : PatternFlags
  /-- The names of groups so far. -/
  names : List (List Char × Stretch)
  /-- The first thing that is written well but has no meaning. -/
  refused : Option PatternProblem
  deriving DecidableEq, Repr

/-- A reader takes characters from the front of the text of a pattern. -/
abbrev PatternReader := StateT PatternSource (Except PatternProblem)

/-- A part of a pattern that a repetition or a range of characters may refer to. -/
inductive PatternPart
  /-- A character; one that is written by two digits may mean a byte. -/
  | literal (character : Char) (isByte : Bool)
  | set (set : CharacterSet)
  | boundary (boundary : Boundary)
  deriving DecidableEq, Repr

namespace PatternReader

variable {α : Type}

/-- How many characters have been read. -/
def here : PatternReader Nat := return (← get).offset

/-- Fails because of what stands from a place to another. -/
def fail (fault : PatternFault) (start stop : Nat) : PatternReader α :=
  throw ⟨fault, ⟨start, stop⟩, none⟩

/-- Fails because of what stands from a place to here. -/
def failFrom (fault : PatternFault) (start : Nat) : PatternReader α := do
  fail fault start (← here)

/-- Fails because of the next character. -/
def failNext (fault : PatternFault) : PatternReader α := do
  fail fault (← here) ((← here) + 1)

/-- Notes that what stands from a place to here has no meaning. -/
def refuseFrom (fault : PatternFault) (start : Nat) : PatternReader Unit := do
  let stop ← here
  modify fun source =>
    { source with refused := source.refused <|> some ⟨fault, ⟨start, stop⟩, none⟩ }

/-- Whether a flag is set. -/
def isSet (flag : PatternFlag) : PatternReader Bool := return (← get).flags.contains flag

/-- The next character. -/
def peek? : PatternReader (Option Char) := return (← get).rest.head?

/-- Takes the given number of characters. -/
def skip (count : Nat) : PatternReader Unit :=
  modify fun source =>
    { source with
      rest := source.rest.drop count
      offset := source.offset + (source.rest.take count).length }

/-- Takes the given text if it comes next, and tells whether it did. -/
def accept (text : String) : PatternReader Bool := do
  if text.toList.isPrefixOf (← get).rest then
    skip text.length
    return true
  else return false

/-- The number of characters of the blanks and comments at the front of a text, or of the rest of
a comment and what follows it. -/
def paddingLength (inComment : Bool) : List Char → Nat
  | [] => 0
  | character :: rest =>
    if inComment then 1 + paddingLength (character ≠ '\n') rest
    else if isWhiteSpace character then 1 + paddingLength false rest
    else if character = '#' then 1 + paddingLength true rest
    else 0

/-- Takes blanks and comments if they are to be passed over. -/
def padding : PatternReader Unit := do
  if ← isSet .spaced then skip (paddingLength false (← get).rest)

/-- Takes one character and tells what follows it. -/
def advance : PatternReader (Option Char) := do
  skip 1
  peek?

/-- Takes one character and what may be passed over, and tells what follows. -/
def advanceFar : PatternReader (Option Char) := do
  skip 1
  padding
  peek?

/-- The character after the next one and after blanks, which may be interrupted by one mark of
a comment. -/
def afterNext? : PatternReader (Option Char) := do
  let rest := (← get).rest.drop 1
  if ← isSet .spaced then
    match rest.dropWhile isWhiteSpace with
    | '#' :: comment => return (comment.dropWhile isWhiteSpace).head?
    | rest => return rest.head?
  else return rest.head?

/-- Repeats a step on a value until it yields nothing, at most `count` times. -/
def iterateUpTo (step : α → PatternReader (Option α)) : Nat → α → PatternReader α
  | 0, value => return value
  | count + 1, value => do
    match ← step value with
    | some next => iterateUpTo step count next
    | none => return value

/-- Repeats a step that takes at least one character until it yields nothing. -/
def iterate (step : α → PatternReader (Option α)) (value : α) : PatternReader α := do
  iterateUpTo step ((← get).rest.length + 1) value

/-- Whether a character is a digit in base sixteen. -/
def isHexDigit (character : Char) : Bool :=
  character.isDigit || ('a' ≤ character && character ≤ 'f') || ('A' ≤ character && character ≤ 'F')

/-- The character with the given code point in base sixteen. -/
def ofHexDigits? (digits : List Char) : Option Char :=
  let digit := fun (character : Char) =>
    if character.isDigit then character.toNat - '0'.toNat
    else character.toLower.toNat - 'a'.toNat + 10
  let code := digits.foldl (fun value character => 16 * value + digit character) 0
  if code.isValidChar then some (Char.ofNat code) else none

/-- Takes exactly the given number of digits in base sixteen. -/
def hexDigits : Nat → PatternReader (List Char)
  | 0 => return []
  | count + 1 => do
    match ← peek? with
    | none => failFrom .unendedEscape (← here)
    | some character =>
      unless isHexDigit character do failNext .hexDigit
      discard advanceFar
      return character :: (← hexDigits count)

/-- The code point after one of the letters `x`, `u` and `U`, which say how many digits there are
if they are not in braces. -/
def codePoint (letter : Char) : PatternReader PatternPart := do
  match ← advanceFar with
  | none => failFrom .unendedEscape (← here)
  | some '\x7b' => do
    let brace ← here
    let digits ← iterate (fun digits => do
      match ← advanceFar with
      | none | some '\x7d' => return none
      | some character =>
        unless isHexDigit character do failNext .hexDigit
        return some (digits ++ [character])) []
    if (← peek?).isNone then failFrom .unendedEscape brace
    let stop ← here
    discard advanceFar
    if digits = [] then failFrom .noHexDigits brace
    match ofHexDigits? digits with
    | some character => return .literal character false
    | none => fail .noCharacter (brace + 1) stop
  | some _ => do
    let start ← here
    let count := match letter with
      | 'x' => 2
      | 'u' => 4
      | _ => 8
    match ofHexDigits? (← hexDigits count) with
    | some character => return .literal character (letter = 'x')
    | none => failFrom .noCharacter start

/-- The name of a property after one of the letters `p` and `P`. -/
def property : PatternReader PatternPart := do
  match ← advanceFar with
  | none => failFrom .unendedEscape (← here)
  | some '\x7b' => do
    let start := (← here) + 1
    iterate (fun _ => do
      match ← advanceFar with
      | none | some '\x7d' => return none
      | some _ => return some ()) ()
    if (← peek?).isNone then failFrom .unendedEscape (← here)
    skip 1
    refuseFrom .unknownProperty start
  | some '\\' => failNext .property
  | some _ => do
    let start ← here
    discard advanceFar
    refuseFrom .unknownProperty start
  return .set .none

/-- The kind of characters that a letter stands for; a capital stands for all others. -/
def kindOf? : Char → Option (CharacterKind × Bool)
  | 'd' => some (.digit, false)
  | 's' => some (.space, false)
  | 'w' => some (.word, false)
  | 'D' => some (.digit, true)
  | 'S' => some (.space, true)
  | 'W' => some (.word, true)
  | _ => none

/-- What may stand in braces after the mark of a word boundary. If it cannot be meant, nothing is
read: then a number of repetitions may follow. -/
def boundaryName? (start : Nat) : PatternReader (Option Boundary) := do
  let saved ← get
  let isPart := fun (character : Char) => character.isAlpha || character = '-'
  match ← advanceFar with
  | none => failFrom .unendedBoundary start
  | some first =>
    if !isPart first then
      set saved
      return none
    let contents ← here
    let name ← iterate (fun name => do
      match ← peek? with
      | some character =>
        if isPart character then
          discard advanceFar
          return some (name ++ [character])
        else return none
      | none => return none) []
    if (← peek?) ≠ some '\x7d' then failFrom .unclosedBoundary saved.offset
    let stop ← here
    skip 1
    let wide ← isSet .wide
    match String.ofList name with
    | "start" => return some (.wordStart wide)
    | "end" => return some (.wordEnd wide)
    | "start-half" => return some (.wordStartHalf wide)
    | "end-half" => return some (.wordEndHalf wide)
    | _ => fail .unknownBoundary contents stop

/-- Whether a mark loses its meaning after a backslash, or need not be there at all. -/
def isEscapable (character : Char) : Bool :=
  character.toNat < 128 && !character.isAlphanum && character ≠ '<' && character ≠ '>'

/-- What a backslash and what follows it stand for. -/
def escape : PatternReader PatternPart := do
  let start ← here
  match ← advance with
  | none => failFrom .unendedEscape start
  | some character =>
    if character.isDigit then fail .backReference start ((← here) + 1)
    if character = 'x' || character = 'u' || character = 'U' then return ← codePoint character
    if character = 'p' || character = 'P' then return ← property
    skip 1
    let wide ← isSet .wide
    if let some (kind, negated) := kindOf? character then
      if negated && !wide then refuseFrom .notText start
      return .set (if negated then .complement (.ofKind wide kind) else .ofKind wide kind)
    if isEscapable character then return .literal character false
    match character with
    | 'a' => return .literal '\x07' false
    | 'f' => return .literal '\x0c' false
    | 't' => return .literal '\t' false
    | 'n' => return .literal '\n' false
    | 'r' => return .literal '\r' false
    | 'v' => return .literal '\x0b' false
    | 'A' => return .boundary .textStart
    | 'z' => return .boundary .textEnd
    | 'B' => return .boundary (.noWordEdge wide)
    | '<' => return .boundary (.wordStart wide)
    | '>' => return .boundary (.wordEnd wide)
    | 'b' => do
      if (← peek?) = some '\x7b' then
        if let some named ← boundaryName? start then return .boundary named
      return .boundary (.wordEdge wide)
    | _ => failFrom .unknownEscape start

end PatternReader

end RecordRegistry
