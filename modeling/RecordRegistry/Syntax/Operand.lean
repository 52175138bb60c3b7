/-
# Operands

The expressions between binary operators: literals, paths, calls, blocks, closures, jumps and the
forms with an operator before them.
-/

import RecordRegistry.Syntax.Block

namespace RecordRegistry.Parser

/-- A pattern that is matched against a value, as part of a condition. -/
def letCondition (grammar : Grammar) (structs : Bool) : Parser Expression := do
  require (.word "let")
  let _ ← patternAlternatives grammar
  require (.mark "=")
  let first ← grammar.operand structs
  let _ ← grammar.operators first structs .compare
  return .other

/-- A jump out of a loop or a block, with a label and a value if they are given. -/
def breakJump (grammar : Grammar) (structs : Bool) : Parser Expression := do
  require (.word "break")
  let position ← here
  let before ← get
  if ← accept .lifetime then
    if ← peek (.mark ":") then
      set before
      let _ ← grammar.expression true
      failAt position "parentheses required"
  if (← peekExpression) && (structs || !(← peek (.opened .brace))) then
    let _ ← grammar.expression structs
  return .other

/-- A jump out of a function, with a value if one is given. -/
def valueJump (grammar : Grammar) (word : String) : Parser Expression := do
  require (.word word)
  if ← peekExpression then
    let _ ← grammar.expression true
  return .other

/-- A construct of the language that is written like the use of a definition. -/
def builtIn : Parser Expression := do
  require (.word "builtin")
  require (.mark "#")
  let _ ← identifier
  within .parenthesis everything
  return .unread

/-- Whether a closure comes next. -/
def peekClosure : Parser Bool := do
  if ← peekAny [.mark "|", .word "move", .word "static"] then return true
  if ← peekBinder then return true
  if (← peek (.word "const")) && !(← peekSecond (.opened .brace)) then return true
  return (← peek (.word "async")) && ((← peekSecond (.mark "|")) || (← peekSecond (.word "move")))

/-- Whether a block that runs later comes next. -/
def peekDeferred : Parser Bool := do
  unless ← peek (.word "async") do return false
  if ← peekSecond (.opened .brace) then return true
  return (← peekSecond (.word "move")) && (← peekThird (.opened .brace))

/-- Whether an expression that starts with a path comes next. -/
def peekPathExpression : Parser Bool := do
  if ← peekAny [.identifier, .mark "::", .mark "<"] then return true
  if ← peekPathWord then return true
  return (← peek (.word "try")) && ((← peekSecond (.mark "!")) || (← peekSecond (.mark "::")))

/-- An expression without operators, calls or selections. -/
def atom (grammar : Grammar) (structs : Bool) : Parser Expression := do
  if ← accept .literal then return .other
  if ← peekDeferred then
    require (.word "async")
    let _ ← accept (.word "move")
    let _ ← block grammar
    return .other
  if ← peekClosure then return ← closure grammar structs
  if (← peek (.word "builtin")) && (← peekSecond (.mark "#")) then return ← builtIn
  if ← peekPathExpression then return ← pathExpression grammar structs
  if let some first ← blockLike grammar then return first
  if ← peek (.opened .parenthesis) then return ← parenthesizedExpression grammar
  if ← peek (.word "break") then return ← breakJump grammar structs
  if ← accept (.word "continue") then
    let _ ← accept .lifetime
    return .other
  if ← peek (.word "return") then return ← valueJump grammar "return"
  if ← accept (.word "become") then
    let _ ← withoutItems (grammar.expression true)
    return .unread
  if ← peek (.opened .bracket) then
    within .bracket (arrayElements grammar)
    return .other
  if ← peek (.word "let") then return ← letCondition grammar structs
  if ← peek (.word "yield") then return ← valueJump grammar "yield"
  if ← peek (.mark "..") then return ← rangeFromDots grammar structs
  if ← accept (.word "_") then return .other
  failHere (.refused "expected an expression")

/-- An operand. Its attributes cannot belong to a range that starts with its dots. -/
def operand (grammar : Grammar) (structs : Bool) : Parser Expression := do
  let found := (← get).found
  let attributed ← peek (.mark "#")
  outerAttributes grammar
  if ← accept (.mark "&") then
    let raw := (← peek (.word "raw")) &&
      ((← peekSecond (.word "mut")) || (← peekSecond (.word "const")))
    if raw then require (.word "raw")
    let mutable ← accept (.word "mut")
    if raw && !mutable then require (.word "const")
    let _ ← grammar.operand structs
    return .other
  if ← acceptAny [.mark "*", .mark "!", .mark "-"] then
    let _ ← grammar.operand structs
    return .other
  let position ← here
  let value ← trailers grammar (← atom grammar structs)
  if value matches .unread then modify ({ · with found })
  if attributed && value matches .range then
    failAt position "attributes are not allowed on range expressions starting with `..`"
  return value

end RecordRegistry.Parser
