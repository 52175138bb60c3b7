/-
# Classes of characters in a search pattern

A class in brackets joins characters, ranges, kinds and other classes.  Those that are open are kept
in a list, innermost first.  Two marks in a row stand for an operation on what is before and after;
the operations bind alike, from the left.
-/

import RecordRegistry.Log.Pattern.Reader

namespace RecordRegistry

/-- A class of characters that is open. -/
structure OpenClass where
  opening : Stretch
  negated : Bool
  /-- What stands before the last operation. -/
  pending : Option (SetOperation × CharacterSet)
  items : CharacterSet
  deriving DecidableEq, Repr

namespace OpenClass

/-- The class with one more item. -/
def add (level : OpenClass) (item : CharacterSet) : OpenClass :=
  { level with items := .joined .union level.items item }

/-- What all that has been read so far stands for. -/
def operand (flags : PatternFlags) (level : OpenClass) : CharacterSet :=
  match level.pending with
  | some (operation, first) => .joined operation (flags.widened first) (flags.widened level.items)
  | none => level.items

/-- The class with an operation after what has been read. -/
def operate (flags : PatternFlags) (level : OpenClass) (operation : SetOperation) : OpenClass :=
  { level with pending := some (operation, level.operand flags), items := .none }

/-- The set that a class stands for at its end. -/
def whole (flags : PatternFlags) (level : OpenClass) : CharacterSet :=
  let set := flags.widened (level.operand flags)
  if level.negated then .complement set else set

end OpenClass

/-- Classes that are open, innermost first, and the one that was closed last. -/
structure ClassDraft where
  levels : List OpenClass
  closed : CharacterSet
  deriving DecidableEq, Repr

namespace PatternReader

/-- The names of classes within a class, and the ranges that each stands for. -/
def namedRanges : List (String × List (Char × Char)) :=
  [("alnum", [('0', '9'), ('A', 'Z'), ('a', 'z')]),
    ("alpha", [('A', 'Z'), ('a', 'z')]),
    ("ascii", [('\x00', '\x7f')]),
    ("blank", [('\t', '\t'), (' ', ' ')]),
    ("cntrl", [('\x00', '\x1f'), ('\x7f', '\x7f')]),
    ("digit", [('0', '9')]),
    ("graph", [('!', '~')]),
    ("lower", [('a', 'z')]),
    ("print", [(' ', '~')]),
    ("punct", [('!', '/'), (':', '@'), ('[', '\x60'), ('\x7b', '~')]),
    ("space", [('\t', '\r'), (' ', ' ')]),
    ("upper", [('A', 'Z')]),
    ("word", [('0', '9'), ('A', 'Z'), ('_', '_'), ('a', 'z')]),
    ("xdigit", [('0', '9'), ('A', 'F'), ('a', 'f')])]

/-- The class that is named at the front of a text, whether all others are meant, and how many
characters say so. -/
def namedClass? : List Char → Option (CharacterSet × Bool × Nat)
  | '[' :: ':' :: rest =>
    let negated := rest.head? = some '^'
    let rest := if negated then rest.drop 1 else rest
    let name := rest.takeWhile (· ≠ ':')
    if [':', ']'].isPrefixOf (rest.drop name.length) then
      (namedRanges.find? fun entry => entry.1 = String.ofList name).map fun (_, ranges) =>
        (ranges.foldr (fun (first, last) set => .joined .union (.range first last) set) .none,
          negated, name.length + if negated then 5 else 4)
    else none
  | _ => none

/-- A character of a class, or what an escape stands for there. -/
def classPart : PatternReader PatternPart := do
  match ← peek? with
  | some '\\' => escape
  | next =>
    skip 1
    return .literal (next.getD ' ') false

/-- Refuses a character of a class that no byte of its own stands for, where bytes are meant. -/
def refuseWide (character : Char) (isByte : Bool) (start : Nat) : PatternReader Unit := do
  unless (← isSet .wide) || isByte || character.toNat < 128 do refuseFrom .notNarrow start

/-- What a part stands for that is no end of a range. -/
def singleItem (part : PatternPart) (stretch : Stretch) : PatternReader CharacterSet := do
  match part with
  | .literal character isByte =>
    refuseWide character isByte stretch.start
    return .one character
  | .set set => return set
  | .boundary _ => fail .escapeInClass stretch.start stretch.stop

/-- The range from a part to another. -/
def rangeItem (first second : PatternPart) (start stop : Stretch) : PatternReader CharacterSet := do
  match first, second with
  | .literal low lowIsByte, .literal high highIsByte =>
    unless low ≤ high do fail .classRange start.start stop.stop
    refuseWide low lowIsByte start.start
    refuseWide high highIsByte stop.start
    return .range low high
  | .literal _ _, _ => fail .classRangeEnd stop.start stop.stop
  | _, _ => fail .classRangeEnd start.start start.stop

/-- A part of a class, and where it stands. -/
def placedPart : PatternReader (PatternPart × Stretch) := do
  let start ← here
  let part ← classPart
  return (part, ⟨start, ← here⟩)

/-- A character, a range of characters or an escape within a class that was opened at the given
place. -/
def classItem (opening : Stretch) : PatternReader CharacterSet := do
  let (first, stretch) ← placedPart
  padding
  match ← peek?, ← afterNext? with
  | none, _ => fail .unclosedClass opening.start opening.stop
  | some '-', some ']' | some '-', some '-' => singleItem first stretch
  | some '-', _ => do
    if (← advanceFar).isNone then fail .unclosedClass opening.start opening.stop
    let (second, further) ← placedPart
    rangeItem first second stretch further
  | some _, _ => singleItem first stretch

/-- The start of a class, with the marks that mean themselves there. -/
def openClass : PatternReader OpenClass := do
  let start ← here
  if (← advanceFar).isNone then failFrom .unclosedClass start
  let negated := (← peek?) = some '^'
  if negated then
    if (← advanceFar).isNone then failFrom .unclosedClass start
  let level ← iterate (fun (level : OpenClass) => do
    if (← peek?) = some '-' then
      if (← advanceFar).isNone then fail .unclosedClass start start
      return some (level.add (.one '-'))
    else return none) ⟨⟨start, start⟩, negated, none, .none⟩
  if level.items = .none && (← peek?) = some ']' then
    if (← advanceFar).isNone then failFrom .unclosedClass start
    return { level with opening := ⟨start, ← here⟩, items := .one ']' }
  else return { level with opening := ⟨start, ← here⟩ }

/-- The operation on classes that comes next. -/
def classOperation? : PatternReader (Option SetOperation) := do
  if ← accept "&&" then return some .intersection
  else if ← accept "--" then return some .difference
  else if ← accept "~~" then return some .symmetricDifference
  else return none

/-- The next piece of a class, none if it is closed. -/
def classStep (draft : ClassDraft) : PatternReader (Option ClassDraft) := do
  match draft.levels with
  | [] => return none
  | level :: outer =>
    padding
    let flags := (← get).flags
    let wide := flags.contains .wide
    let refuseBytes := fun (set : CharacterSet) (start : Nat) => do
      if !wide && (List.range 128).any fun code => set.contains (Char.ofNat (128 + code)) then
        refuseFrom .notText start
    match ← peek? with
    | none => fail .unclosedClass level.opening.start level.opening.stop
    | some '[' =>
      match namedClass? (← get).rest with
      | some (set, negated, length) => do
        let start ← here
        skip length
        let set := if negated then .complement (flags.widened set) else flags.widened set
        refuseBytes set start
        return some { draft with levels := level.add set :: outer }
      | none => return some { draft with levels := (← openClass) :: draft.levels }
    | some ']' => do
      skip 1
      let set := level.whole flags
      refuseBytes set level.opening.start
      match outer with
      | [] => return some ⟨[], set⟩
      | around :: further => return some ⟨around.add set :: further, set⟩
    | some _ => do
      match ← classOperation? with
      | some operation =>
        return some { draft with levels := level.operate flags operation :: outer }
      | none => return some { draft with levels := level.add (← classItem level.opening) :: outer }

/-- A class in brackets. -/
def bracketed : PatternReader CharacterSet := do
  let level ← openClass
  return (← iterate classStep ⟨[level], .none⟩).closed

end PatternReader

end RecordRegistry
