/-
# Search patterns

What the messages of log records can be searched for.  A pattern is a tree; what it fits from a
place in a text on is found as the list of all places where such a piece may end, since only
whether there is one matters.  Letters beyond the ASCII range have one case each here.
-/

import RecordRegistry.Text.Character

namespace RecordRegistry

/-- The classes of characters that have a name of their own in a pattern. -/
inductive CharacterKind
  | digit
  | space
  | word
  deriving DecidableEq, Repr

namespace CharacterKind

/-- Whether a character is of a kind, by the properties of all characters or, if `wide` is not set,
only in the ASCII range. -/
def includes (wide : Bool) (kind : CharacterKind) (character : Char) : Bool :=
  let code := character.toNat
  match kind with
  | digit => character.isDigit || (wide && CodePoints.holds CodePoints.digits code)
  | space => if wide then isWhiteSpace character else code == 0x20 || (9 ≤ code && code ≤ 13)
  | word =>
    if code < 128 || !wide then character.isAlphanum || character == '_'
    else
      CodePoints.holds CodePoints.wordsBesideIdentifiers code ||
        (isIdentifierContinue character &&
          !CodePoints.holds CodePoints.onlyInIdentifiers code)

end CharacterKind

/-- What two sets of characters are joined to. -/
inductive SetOperation
  | union
  | intersection
  | difference
  | symmetricDifference
  deriving DecidableEq, Repr

namespace SetOperation

/-- Whether a member of the joined set is told by where it is a member. -/
def joins : SetOperation → Bool → Bool → Bool
  | union, first, second => first || second
  | intersection, first, second => first && second
  | difference, first, second => first && !second
  | symmetricDifference, first, second => first != second

end SetOperation

/-- A set of characters. -/
inductive CharacterSet
  | none
  | range (first last : Char)
  | ofKind (wide : Bool) (kind : CharacterKind)
  | complement (set : CharacterSet)
  | joined (operation : SetOperation) (first second : CharacterSet)
  /-- A set, and what differs from a member in case only. -/
  | anyCase (wide : Bool) (set : CharacterSet)
  deriving DecidableEq, Repr

namespace CharacterSet

/-- The set of one character. -/
def one (character : Char) : CharacterSet := range character character

/-- The set of all characters but the given ones. -/
def allBut (characters : List Char) : CharacterSet :=
  complement (characters.foldr (fun character set => joined .union (one character) set) none)

/-- A letter in either case. If `wide` is set, two signs beyond the ASCII range count as cases of a
letter in it. -/
def cases (wide : Bool) (character : Char) : List Char :=
  let signs :=
    if !wide then []
    else if "kK\u212a".toList.contains character then ['k', 'K', '\u212a']
    else if "sS\u017f".toList.contains character then ['s', 'S', '\u017f']
    else []
  character :: character.toLower :: character.toUpper :: signs

/-- Whether a set has a member. -/
def contains : CharacterSet → Char → Bool
  | none, _ => false
  | range first last, character => first ≤ character && character ≤ last
  | ofKind wide kind, character => kind.includes wide character
  | complement set, character => !set.contains character
  | joined operation first second, character =>
    operation.joins (first.contains character) (second.contains character)
  | anyCase wide set, character => (cases wide character).any set.contains

end CharacterSet

/-- A place in a text that is searched. -/
structure SearchPlace where
  /-- The character before it, if there is one. -/
  before : Option Char
  rest : List Char
  deriving DecidableEq, Repr

namespace SearchPlace

/-- The start of a text. -/
def start (text : String) : SearchPlace := ⟨none, text.toList⟩

/-- The place after the next character of a text. -/
def next (character : Char) (rest : List Char) : SearchPlace := ⟨some character, rest⟩

/-- All places that follow, from here on. -/
def following (before : Option Char) : List Char → List SearchPlace
  | [] => [⟨before, []⟩]
  | character :: rest => ⟨before, character :: rest⟩ :: following (some character) rest

end SearchPlace

/-- What can be asked of a place. -/
inductive Boundary
  | textStart
  | textEnd
  /-- The start of a line. A carriage return ends lines too if `pairs` is set, but does not divide
  itself from the line feed after it. -/
  | lineStart (pairs : Bool)
  | lineEnd (pairs : Bool)
  | wordEdge (wide : Bool)
  | noWordEdge (wide : Bool)
  | wordStart (wide : Bool)
  | wordEnd (wide : Bool)
  /-- No word character comes before. -/
  | wordStartHalf (wide : Bool)
  /-- No word character comes next. -/
  | wordEndHalf (wide : Bool)
  deriving DecidableEq, Repr

namespace Boundary

/-- Whether a place is what is asked for. -/
def isAt (place : SearchPlace) (boundary : Boundary) : Bool :=
  let before := place.before
  let after := place.rest.head?
  let isWord := fun (wide : Bool) (character : Option Char) =>
    character.any (CharacterKind.includes wide .word)
  match boundary with
  | textStart => before.isNone
  | textEnd => after.isNone
  | lineStart pairs =>
    before.isNone || before = some '\n' || (pairs && before = some '\r' && after ≠ some '\n')
  | lineEnd pairs =>
    after.isNone ||
      if pairs then after = some '\r' || (after = some '\n' && before ≠ some '\r')
      else after = some '\n'
  | wordEdge wide => isWord wide before != isWord wide after
  | noWordEdge wide => isWord wide before == isWord wide after
  | wordStart wide => !isWord wide before && isWord wide after
  | wordEnd wide => isWord wide before && !isWord wide after
  | wordStartHalf wide => !isWord wide before
  | wordEndHalf wide => !isWord wide after

end Boundary

/-- What a text is searched for. -/
inductive SearchPattern
  | empty
  | one (set : CharacterSet)
  | atBoundary (boundary : Boundary)
  | append (first second : SearchPattern)
  | either (first second : SearchPattern)
  /-- A pattern so many times in a row, and up to `more` times more if there is a bound. -/
  | repeated (pattern : SearchPattern) (least : Nat) (more : Option Nat)
  deriving DecidableEq, Repr

namespace SearchPattern

/-- Where a step that is made exactly the given number of times can lead. -/
def afterSteps (step : SearchPlace → List SearchPlace) : Nat → List SearchPlace → List SearchPlace
  | 0, places => places
  | count + 1, places =>
    if places = [] then [] else afterSteps step count (places.flatMap step).eraseDups

/-- Where a step that is made at most the given number of times can lead. -/
def withinSteps (step : SearchPlace → List SearchPlace) : Nat → List SearchPlace → List SearchPlace
  | 0, places => places
  | count + 1, places =>
    if places = [] then []
    else places ++ withinSteps step count (places.flatMap step).eraseDups

/-- The places where what a pattern fits can end, if it begins at a place. Beyond the least number
no repetition need be made more often than there are characters left. -/
def ends : SearchPattern → SearchPlace → List SearchPlace
  | empty, place => [place]
  | one set, place =>
    match place.rest with
    | character :: rest => if set.contains character then [.next character rest] else []
    | [] => []
  | atBoundary boundary, place => if boundary.isAt place then [place] else []
  | append first second, place => ((first.ends place).flatMap second.ends).eraseDups
  | either first second, place => first.ends place ++ second.ends place
  | repeated pattern least more, place =>
    let length := place.rest.length
    withinSteps pattern.ends ((more.map (min length)).getD length)
      (afterSteps pattern.ends least [place])

/-- Whether a text has a piece that a pattern fits. -/
def isIn (pattern : SearchPattern) (text : String) : Bool :=
  (SearchPlace.following none text.toList).any fun place => pattern.ends place ≠ []

end SearchPattern

end RecordRegistry
