/-
# Reading search patterns

The pattern that a text writes.  Groups that are open are kept in a list, innermost first.  There is
no limit on the size of a pattern or on how deep its groups lie in each other.
-/

import RecordRegistry.Log.Pattern.Class

namespace RecordRegistry

/-- A group that is open, or the pattern as a whole. -/
structure OpenGroup where
  /-- What has been read since the last bar, last first. Nothing stands for a change of flags, which
  cannot be repeated. -/
  parts : List (Option SearchPattern)
  /-- What has been read before that bar. -/
  branches : Option SearchPattern
  deriving DecidableEq, Repr

namespace OpenGroup

/-- The group with one more part. -/
def add (group : OpenGroup) (part : SearchPattern) : OpenGroup :=
  { group with parts := some part :: group.parts }

/-- What a group stands for at its end. -/
def whole (group : OpenGroup) : SearchPattern :=
  let last := group.parts.foldl (fun after part => (part.getD .empty).append after) .empty
  (group.branches.map fun before => before.either last).getD last

/-- The group after a bar. -/
def bar (group : OpenGroup) : OpenGroup := ⟨[], some group.whole⟩

end OpenGroup

/-- A pattern that has been read in part. -/
structure PatternDraft where
  group : OpenGroup
  /-- The groups around it, innermost first; each with the place of the bracket that interrupts it
  and the flags that hold in it. -/
  outer : List (OpenGroup × Nat × PatternFlags)
  deriving DecidableEq, Repr

namespace PatternReader

/-- The name of a group, up to the bracket that ends it. -/
def groupName : PatternReader Unit := do
  let start ← here
  let name ← iterate (fun name => do
    match ← peek? with
    | none | some '>' => return none
    | some character =>
      let isPart := character = '_' || isIdentifierStart character ||
        (name ≠ [] && (isIdentifierContinue character || ".[]".toList.contains character))
      unless isPart do failNext .nameCharacter
      skip 1
      return some (name ++ [character])) []
  let stop ← here
  unless ← accept ">" do failFrom .unendedName stop
  if name = [] then fail .emptyName start start
  match (← get).names.find? fun earlier => earlier.1 = name with
  | some (_, earlier) => throw ⟨.repeatedName, ⟨start, stop⟩, some earlier⟩
  | none => modify fun source => { source with names := (name, ⟨start, stop⟩) :: source.names }

/-- Flags that are set or, after a minus, taken back, up to the mark after them. -/
def flagChanges : PatternReader (List (PatternFlag × Bool)) := do
  -- What has been read, with the place of each item; a minus is no flag.
  let items ← iterate (fun (items : List (Option PatternFlag × Nat)) => do
    match ← peek? with
    | none | some ':' | some ')' => return none
    | some letter =>
      let flag ← if letter = '-' then pure none
        else match PatternFlag.ofLetter? letter with
          | some flag => pure (some flag)
          | none => failNext .unknownFlag
      let place ← here
      if let some (_, earlier) := items.find? fun item => item.1 = flag then
        throw ⟨if flag.isNone then .repeatedNegation else .repeatedFlag, ⟨place, place + 1⟩,
          some ⟨earlier, earlier + 1⟩⟩
      if (← advance).isNone then failFrom .unendedFlags (← here)
      return some (items ++ [(flag, place)])) []
  if let some (none, place) := items.getLast? then fail .danglingNegation place (place + 1)
  let set := items.takeWhile fun item => item.1.isSome
  return (set.filterMap Prod.fst).map (·, true) ++
    ((items.drop set.length).filterMap Prod.fst).map (·, false)

/-- What an opening bracket begins: a group or a change of flags. -/
def openGroup (draft : PatternDraft) : PatternReader PatternDraft := do
  let start ← here
  skip 1
  padding
  let inner ← here
  let flags := (← get).flags
  let opened : PatternDraft := ⟨⟨[], none⟩, (draft.group, start, flags) :: draft.outer⟩
  for text in ["?=", "?!", "?<=", "?<!"] do
    if ← accept text then failFrom .lookAround start
  if (← accept "?P<") || (← accept "?<") then
    groupName
    return opened
  else if ← accept "?" then
    if (← peek?).isNone then fail .unclosedGroup start (start + 1)
    let changes ← flagChanges
    let ending ← peek?
    skip 1
    if ending = some ')' && changes = [] then fail .nothingRepeated inner inner
    modify fun source => { source with flags := flags.apply changes }
    return if ending = some ')' then { draft with group.parts := none :: draft.group.parts }
      else opened
  else return opened

/-- The end of a group. -/
def closeGroup (draft : PatternDraft) : PatternReader PatternDraft := do
  match draft.outer with
  | [] => failNext .unopenedGroup
  | (around, _, flags) :: outer =>
    skip 1
    modify fun source => { source with flags := flags }
    return ⟨around.add draft.group.whole, outer⟩

/-- The part that a repetition is about, and the draft without it. -/
def repeatedPart (draft : PatternDraft) : PatternReader (SearchPattern × PatternDraft) := do
  match draft.group.parts with
  | some part :: parts => return (part, { draft with group.parts := parts })
  | _ => failFrom .nothingRepeated (← here)

/-- The question mark that may follow a repetition says how greedy it is. -/
def greed (next : Option Char) : PatternReader Unit := do
  if next = some '?' then skip 1

/-- A repetition that is written as one mark. -/
def markedRepetition (draft : PatternDraft) (least : Nat) (more : Option Nat) :
    PatternReader PatternDraft := do
  let (part, draft) ← repeatedPart draft
  greed (← advance)
  return { draft with group := draft.group.add (.repeated part least more) }

/-- A number in base ten with blanks around it, or what is wrong with it. -/
def decimal : PatternReader (Except PatternProblem Nat) := do
  let blanks := do skip ((← get).rest.takeWhile isWhiteSpace).length
  blanks
  let start ← here
  let digits ← iterate (fun digits => do
    match ← peek? with
    | some character =>
      if character.isDigit then
        discard advanceFar
        return some (digits ++ [character])
      else return none
    | none => return none) []
  let stop ← here
  blanks
  let value := digits.foldl (fun value digit => 10 * value + (digit.toNat - '0'.toNat)) 0
  if digits = [] then return .error ⟨.noCount, ⟨start, stop⟩, none⟩
  else if value < UInt32.size then return .ok value
  else return .error ⟨.number, ⟨start, stop⟩, none⟩

/-- A repetition with the numbers of times in braces. -/
def countedRepetition (draft : PatternDraft) : PatternReader PatternDraft := do
  let start ← here
  let (part, draft) ← repeatedPart draft
  if (← advanceFar).isNone then failFrom .unclosedCount start
  let least ← decimal
  let (least, most) ← match ← peek? with
    | none => failFrom .unclosedCount start
    | some ',' => do
      match ← advanceFar with
      | none => failFrom .unclosedCount start
      | some '\x7d' => pure ((← liftM least), none)
      | some _ => do
        let least ← liftM least
        pure (least, some (← liftM (← decimal)))
    | some _ => do
      let least ← liftM least
      pure (least, some least)
  if (← peek?) ≠ some '\x7d' then failFrom .unclosedCount start
  greed (← advanceFar)
  if most.any (· < least) then failFrom .countRange start
  return { draft with group := draft.group.add (.repeated part least (most.map (· - least))) }

/-- A part that stands for itself: a character, an escape or the mark of a boundary. -/
def plainPart (next : Char) : PatternReader SearchPattern := do
  let start ← here
  let flags := (← get).flags
  let wide := flags.contains .wide
  let part ← match next with
    | '\\' => escape
    | '.' => do
      skip 1
      unless wide do refuseFrom .notText start
      pure <| .set <| .allBut <|
        if flags.contains .dotAll then []
        else if flags.contains .pairs then ['\r', '\n']
        else ['\n']
    | '^' => do
      skip 1
      pure <| .boundary <|
        if flags.contains .lines then .lineStart (flags.contains .pairs) else .textStart
    | '$' => do
      skip 1
      pure <| .boundary <|
        if flags.contains .lines then .lineEnd (flags.contains .pairs) else .textEnd
    | next => do
      skip 1
      pure (.literal next false)
  match part with
  | .literal character isByte =>
    if isByte && !wide && 128 ≤ character.toNat then refuseFrom .notText start
    return .one (flags.widened (.one character))
  | .set set => return .one set
  | .boundary boundary => return .atBoundary boundary

/-- The next piece of a pattern, none at its end. -/
def step (draft : PatternDraft) : PatternReader (Option PatternDraft) := do
  padding
  match ← peek? with
  | none => return none
  | some '(' => some <$> openGroup draft
  | some ')' => some <$> closeGroup draft
  | some '|' => do
    skip 1
    return some { draft with group := draft.group.bar }
  | some '[' => return some { draft with group := draft.group.add (.one (← bracketed)) }
  | some '?' => some <$> markedRepetition draft 0 (some 1)
  | some '*' => some <$> markedRepetition draft 0 none
  | some '+' => some <$> markedRepetition draft 1 none
  | some '\x7b' => some <$> countedRepetition draft
  | some next => return some { draft with group := draft.group.add (← plainPart next) }

/-- A whole pattern. -/
def pattern : PatternReader SearchPattern := do
  let draft ← iterate step ⟨⟨[], none⟩, []⟩
  match draft.outer with
  | (_, start, _) :: _ => fail .unclosedGroup start (start + 1)
  | [] =>
    match (← get).refused with
    | some problem => throw problem
    | none => return draft.group.whole

end PatternReader

namespace SearchPattern

/-- The pattern that a text writes, or what is wrong with the text. -/
def read (text : String) : Except PatternProblem SearchPattern :=
  (PatternReader.pattern.run ⟨text.toList, 0, [.wide], [], none⟩).map Prod.fst

end SearchPattern

end RecordRegistry
