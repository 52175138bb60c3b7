/-
# Patterns

Every form of pattern.  A pattern with alternatives may start with a bar, and a range pattern
needs its upper end if its dots include it.
-/

import RecordRegistry.Syntax.TypeExpression

namespace RecordRegistry.Parser

/-- A field by its name or its place. Tells whether it has a name. -/
def member : Parser Bool := do
  if ← accept .identifier then return true
  let (spelling, negative, position) ←
    match (← get).rest with
    | .literal spelling position :: _ => pure (spelling, false, position)
    | .mark '-' _ position :: .literal spelling _ :: _ => pure (spelling, true, position)
    | _ => failHere (.refused "expected identifier or integer")
  unless Literal.isWhole spelling.toList do
    failHere (.refused "expected identifier or integer")
  require .literal
  match Literal.fieldFault? negative spelling.toList with
  | some fault => failAt position fault
  | none => return false

/-- The dots of a range, which may include its upper end. Three dots are no range. -/
def rangeDots : Parser Bool := do
  if ← accept (.mark "..=") then return true
  if (← peek (.mark "..")) && !(← peek (.mark "...")) then
    require (.mark "..")
    return false
  expectedOneOf [.mark "..", .mark "..="]

/-- The dots of a range pattern. Three dots include the upper end. -/
def patternDots : Parser Bool := do
  if ← accept (.mark "..=") then return true
  if ← accept (.mark "...") then return true
  if ← accept (.mark "..") then return false
  expectedOneOf [.mark ".."]

/-- The alternatives for the end of a range pattern. -/
def patternEndStart : List Sought :=
  [.literal, .identifier, .mark "::", .mark "<", .word "self", .word "Self", .word "super",
    .word "crate", .word "const"]

/-- A block in a constant context. -/
def constantBlock (grammar : Grammar) : Parser Unit := do
  require (.word "const")
  let _ ← body grammar

/-- The end of a range pattern, if there is one. Tells whether there was. -/
def patternEnd (grammar : Grammar) : Parser Bool := do
  if ← atEnd then return false
  if ← peekAny [.mark "|", .mark "=", .mark ",", .mark ";", .word "if"] then return false
  if ← peekBut (.mark ":") (.mark "::") then return false
  if ← accept .literal then return true
  if (← peekAny [.identifier, .mark "::", .mark "<"]) || (← peekPathWord) then
    let _ ← qualifiedPath grammar true
    return true
  if ← peek (.word "const") then
    constantBlock grammar
    return true
  expectedOneOf patternEndStart

/-- The upper end of a range pattern after its dots. Tells whether there was one. -/
def upperEnd (grammar : Grammar) (inclusive : Bool) : Parser Bool := do
  let ended ← patternEnd grammar
  if inclusive && !ended then failHere (.refused "expected range upper bound")
  return ended

/-- A range pattern after its lower end. -/
def patternRange (grammar : Grammar) : Parser Pattern := do
  let dots ← here
  let inclusive ← patternDots
  let ended ← upperEnd grammar inclusive
  return if ended then .other else .openRange dots

/-- A pattern with alternatives. -/
def patternAlternatives (grammar : Grammar) : Parser Pattern := do
  let leading ← accept (.mark "|")
  let first ← grammar.pattern
  let another := do
    return (← peek (.mark "|")) && !(← peekAny [.mark "||", .mark "|="])
  let others ← whileHolds another do
    require (.mark "|")
    grammar.pattern
  return if leading || !others.isEmpty then .other else first

/-- A field of a struct pattern. -/
def fieldPattern (grammar : Grammar) : Parser Unit := do
  let boxed ← accept (.word "box")
  let byReference ← accept (.word "ref")
  let mutable ← accept (.word "mut")
  if boxed || byReference || mutable then
    let _ ← identifier
  else
    let named ← member
    if (← peek (.mark ":")) || !named then
      require (.mark ":")
      let _ ← patternAlternatives grammar

/-- The fields of a struct pattern, which may end with two dots. -/
def fieldPatterns (grammar : Grammar) : Parser Unit := do
  let _ ← many do
    if ← atEnd then return none
    outerAttributes grammar
    if ← accept (.mark "..") then return none
    fieldPattern grammar
    if ← atEnd then return none
    require (.mark ",")
    return some ()

/-- A pattern that starts with a path. -/
def pathPattern (grammar : Grammar) : Parser Pattern := do
  let (start, path) ← qualifiedPath grammar true
  if start.isNone && path.isPlain && (← peekBut (.mark "!") (.mark "!=")) then
    require (.mark "!")
    let _ ← anyGroup
    return .other
  if ← peek (.opened .brace) then
    within .brace (fieldPatterns grammar)
    return .other
  if ← peek (.opened .parenthesis) then
    let _ ← within .parenthesis (commaList (patternAlternatives grammar))
    return .other
  if ← peek (.mark "..") then patternRange grammar
  else return .other

/-- A pattern that starts with a literal or a constant block. -/
def literalPattern (grammar : Grammar) : Parser Pattern := do
  let _ ← patternEnd grammar
  if ← peek (.mark "..") then patternRange grammar else return .other

/-- A pattern that binds a name. -/
def namePattern (grammar : Grammar) : Parser Pattern := do
  let _ ← accept (.word "ref")
  let _ ← accept (.word "mut")
  let _ ← identifierOr ["self"]
  if ← accept (.mark "@") then
    let _ ← grammar.pattern
  return .other

/-- The patterns between the brackets of a slice pattern. -/
def slicePatterns (grammar : Grammar) : Parser Unit := do
  let _ ← commaList do
    match ← patternAlternatives grammar with
    | .openRange dots =>
      failAt dots "range pattern is not allowed unparenthesized inside slice pattern"
    | _ => return

/-- A pattern that starts with dots. -/
def dotsPattern (grammar : Grammar) : Parser Pattern := do
  let dots ← here
  let inclusive ← rangeDots
  let ended ← upperEnd grammar inclusive
  return if ended then .openRange dots else .rest

/-- What begins a pattern, in the order of the error that names it. -/
def patternStart : List Sought :=
  [.identifier, .mark "::", .mark "<", .word "_", .literal, .word "const", .word "ref",
    .word "mut", .mark "&", .opened .parenthesis, .opened .bracket, .mark "..", .word "const"]

/-- Whether a pattern starts with a path that is more than one name. -/
def peekPathPattern : Parser Bool := do
  if ← peek .identifier then
    let follows : List Sought :=
      [.mark "::", .mark "!", .opened .brace, .opened .parenthesis, .mark ".."]
    let rest := afterTree (← get).rest
    return follows.any (·.isAt rest)
  if (← peek (.word "self")) && (← peekSecond (.mark "::")) then return true
  peekAny [.mark "::", .mark "<", .word "Self", .word "super", .word "crate"]

/-- One pattern without alternatives. -/
def pattern (grammar : Grammar) : Parser Pattern := do
  if ← peekPathPattern then pathPattern grammar
  else if ← accept (.word "_") then return .other
  else if ← accept (.word "box") then withoutItems do
    let _ ← grammar.pattern
    return .other
  else if ← peekAny [.mark "-", .literal, .word "const"] then literalPattern grammar
  else if ← peekAny [.word "ref", .word "mut", .word "self", .identifier] then namePattern grammar
  else if ← accept (.mark "&") then
    let _ ← accept (.word "mut")
    let _ ← grammar.pattern
    return .other
  else if ← peek (.opened .parenthesis) then
    let _ ← within .parenthesis (commaList (patternAlternatives grammar))
    return .other
  else if ← peek (.opened .bracket) then
    within .bracket (slicePatterns grammar)
    return .other
  else if ← peekBut (.mark "..") (.mark "...") then dotsPattern grammar
  else expectedOneOf patternStart

end RecordRegistry.Parser
