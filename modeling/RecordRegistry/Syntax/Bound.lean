/-
# Bounds

What a type parameter or an associated type may be required to be: a trait, possibly called with
argument types, a lifetime, or the list of the parameters that a type captures.
-/

import RecordRegistry.Syntax.Generics

namespace RecordRegistry.Parser

/-- The type that a callable yields, if one is given. Yields that type. -/
def result (grammar : Grammar) (plus : Bool) : Parser (Option TypeExpression) := do
  if ← accept (.mark "->") then some <$> grammar.typeExpression plus else return none

/-- The argument types of a callable bound and its result. Tells whether the result is a type
between parentheses. -/
def callableArguments (grammar : Grammar) : Parser Bool := do
  let _ ← within .parenthesis (commaList (grammar.typeExpression true))
  return (← result grammar false) matches some .parenthesized

/-- Whether argument types of a callable come next. -/
def peekCallableArguments : Parser Bool := do
  if ← peek (.opened .parenthesis) then return true
  return (← peek (.mark "::")) && (← peekThird (.opened .parenthesis))

/-- The list of the parameters that a type captures. Yields where it ends. -/
def captures : Parser Position := do
  require (.word "use")
  require (.mark "<")
  let _ ← many do
    unless ← peekAny [.lifetime, .identifier, .word "Self"] do
      if ← peek (.mark ">") then return none
      else expectedOneOf [.lifetime, .identifier, .mark ">"]
    unless ← accept .lifetime do
      let _ ← anyName
    if ← accept (.mark ",") then return some ()
    else if ← peek (.mark ">") then return none
    else expectedOneOf [.mark ",", .mark ">"]
  let closing ← here
  require (.mark ">")
  return closing

/-- The context of a trait that only holds for constants. Tells whether there was one. -/
def constantContext (rules : BoundRules) : Parser Bool := do
  let position ← here
  if ← peek (.opened .bracket) then
    within .bracket (require (.word "const"))
    unless rules.constants do failAt position "`[const]` is not allowed here"
    return true
  else if ← accept (.word "const") then
    unless rules.constants do failAt position "`const` is not allowed here"
    return true
  else return false

/-- A trait as a bound. -/
def traitBound (grammar : Grammar) (rules : BoundRules) : Parser Bound := do
  let bound ← optionalBinder grammar
  let constant ← constantContext rules
  let relaxed ← accept (.mark "?")
  if relaxed && !bound then
    let _ ← optionalBinder grammar
  let path ← path grammar false
  if path.endsPlain && (← peekCallableArguments) then
    let _ ← accept (.mark "::")
    let _ ← callableArguments grammar
  return if constant then .unread else .trait

/-- One bound. -/
def bound (grammar : Grammar) (rules : BoundRules) : Parser Bound := do
  let position ← here
  if ← accept .lifetime then return .lifetime position
  if ← peek (.word "use") then
    let closing ← captures
    unless rules.captures do
      failAt position "`use<...>` precise capturing syntax is not allowed here"
    return .captures closing
  let before := (← get).found
  let kept ← if ← peek (.opened .parenthesis) then
      within .parenthesis (traitBound grammar rules)
    else traitBound grammar rules
  if kept = .unread then modify ({ · with found := before })
  return kept

/-- Whether another bound may follow a plus sign. -/
def peekBound (constants : Bool) : Parser Bool := do
  if ← peekAny [.anyName, .mark "::", .mark "?", .lifetime, .opened .parenthesis] then return true
  if constants then peekAny [.opened .bracket, .word "const"] else return false

/-- Bounds with plus signs between them, or a single one. -/
def bounds (grammar : Grammar) (rules : BoundRules) (plus : Bool) : Parser (List Bound) := do
  let first ← grammar.bound rules
  if plus then
    let others ← many do
      unless ← accept (.mark "+") do return none
      if ← peekBound rules.constants then some <$> grammar.bound rules else return none
    return first :: others
  else return [first]

end RecordRegistry.Parser
