/-
# Expressions

Every form of expression.  Where a brace would begin the block of an enclosing construct, as in
the head of a loop, a path is not continued by it.
-/

import RecordRegistry.Syntax.Grammar
import RecordRegistry.Syntax.Pattern

namespace RecordRegistry.Parser

/-- Whether an expression may begin here. -/
def peekExpression : Parser Bool := do
  if ← peekBut .anyName (.word "as") then return true
  if ← peekAny
      [.opened .parenthesis, .opened .bracket, .opened .brace, .literal, .mark "..", .mark "::",
        .lifetime, .mark "#"] then
    return true
  if ← peekBut (.mark "!") (.mark "!=") then return true
  if (← peek (.mark "-")) && !(← peekAny [.mark "-=", .mark "->"]) then return true
  if ← peekBut (.mark "*") (.mark "*=") then return true
  if ← peekBut (.mark "|") (.mark "|=") then return true
  if ← peekBut (.mark "&") (.mark "&=") then return true
  return (← peek (.mark "<")) && !(← peekAny [.mark "<=", .mark "<<="])

/-- The operand after a binary operator, with the stronger operators that belong to it. -/
def rightOperand (grammar : Grammar) (structs : Bool) (precedence : Precedence) :
    Parser Expression := do
  let first ← grammar.operand structs
  go first ((← get).rest.length + 1)
where
  go (operand : Expression) : Nat → Parser Expression
    | 0 => return operand
    | count + 1 => do
      let before := (← get).rest
      let next := joiningPrecedence before
      if precedence.rank < next.rank || (next = precedence && precedence = .assign) then
        let longer ← grammar.operators operand structs next
        if (← get).rest.length = before.length then return longer else go longer count
      else return operand

/-- Whether a range may do without an upper end here. -/
def peekRangeEnd (structs : Bool) : Parser Bool := do
  if ← atEnd then return true
  if ← peekAny
      [.mark ",", .mark ";", .mark "?", .mark "=>", .mark "=", .mark "+", .mark "/", .mark "%",
        .mark "^", .mark ">", .mark "<=", .mark "!=", .mark "-=", .mark "*=", .mark "&=",
        .mark "|=", .mark "<<=", .word "as"] then
    return true
  if ← peekBut (.mark ".") (.mark "..") then return true
  return !structs && (← peek (.opened .brace))

/-- A range from its dots on. -/
def rangeFromDots (grammar : Grammar) (structs : Bool) : Parser Expression := do
  let inclusive ← rangeDots
  if !inclusive && (← peekRangeEnd structs) then return .range
  let _ ← rightOperand grammar structs .range
  return .range

/-- Fails if something follows a conversion that cannot. -/
def checkAfterConversion : Parser Unit := do
  if ← peekBut (.mark ".") (.mark "..") then
    if ← peekSecond (.word "await") then refuse "`.await`"
    else if (← peekSecond .identifier) &&
        ((← peekThird (.opened .parenthesis)) || (← peekThird (.mark "::"))) then
      refuse "a method call"
    else refuse "a field access"
  else if ← peek (.mark "?") then refuse "`?`"
  else if ← peek (.opened .bracket) then refuse "indexing"
  else if ← peek (.opened .parenthesis) then refuse "a function call"
where
  refuse (what : String) : Parser Unit :=
    failHere (.refused ("casts cannot be followed by " ++ what))

/-- Reads one binary operator with its second operand, if one binds at least as strongly as asked.
A range takes no further operators. -/
def operatorStep (grammar : Grammar) (first : Expression) (structs : Bool)
    (weakest : Precedence) : Parser (Option Expression) := do
  if first matches .range then return none
  let rest := (← get).rest
  match binaryOperator? rest with
  | some (marks, precedence) =>
    if precedence.rank < weakest.rank then return none
    if precedence = .compare && first matches .comparison then
      failHere (.refused "comparison operators cannot be chained")
    require (.mark marks)
    let _ ← rightOperand grammar structs precedence
    return some (if precedence = .compare then .comparison else .other)
  | none =>
    let next := joiningPrecedence rest
    if next = .lowest || next.rank < weakest.rank then return none
    if next = .assign then
      require (.mark "=")
      let _ ← rightOperand grammar structs .assign
      return some .other
    else if next = .range then some <$> rangeFromDots grammar structs
    else
      require (.word "as")
      let _ ← grammar.typeExpression false
      checkAfterConversion
      return some .other

/-- The binary operators after a first operand that bind at least as strongly as asked. -/
def operators (grammar : Grammar) (first : Expression) (structs : Bool) (weakest : Precedence) :
    Parser Expression := do
  go first ((← get).rest.length + 1)
where
  go (operand : Expression) : Nat → Parser Expression
    | 0 => return operand
    | count + 1 => do
      match ← operatorStep grammar operand structs weakest with
      | some longer => go longer count
      | none => return operand

/-- An expression. -/
def expression (grammar : Grammar) (structs : Bool) : Parser Expression := do
  let first ← grammar.operand structs
  operators grammar first structs .lowest

/-- A number with a fraction or an exponent. -/
structure Fraction where
  position : Position
  negative : Bool
  text : List Char

/-- The number with a fraction or an exponent that comes next. -/
def peekFraction : Parser (Option Fraction) := do
  let fraction? ← match (← get).rest with
    | .literal spelling position :: _ => pure (some (Fraction.mk position false spelling.toList))
    | .mark '-' _ position :: .literal spelling _ :: _ =>
      pure (some (Fraction.mk position true spelling.toList))
    | _ => pure none
  return fraction?.filter fun fraction =>
    Literal.isNumber fraction.text && !Literal.isWhole fraction.text

/-- The fields that a number with a fraction names, as in a field of a field. Tells whether the
number ends with a dot, so that another field has to follow. -/
def numberedFields (fraction : Fraction) : Parser Bool := do
  let trailing : Bool := fraction.text.getLast? = some '.'
  let text := if trailing then fraction.text.dropLast else fraction.text
  let faults := (text.splitOn '.').mapIdx fun index part =>
    Literal.fieldFault? (fraction.negative && index = 0) part
  match faults.findSome? id with
  | some fault => failAt fraction.position fault
  | none => return trailing

/-- The arguments of a call. -/
def arguments (grammar : Grammar) : Parser (List Expression) :=
  within .parenthesis (commaList (grammar.expression true))

/-- What follows the dot after an expression. -/
def selection (grammar : Grammar) : Parser Unit := do
  if let some fraction ← peekFraction then
    require .literal
    unless ← numberedFields fraction do return
  if ← accept (.word "await") then return
  let named ← member
  let specified := named && (← peek (.mark "::"))
  if specified then turbofish grammar
  if named && (specified || (← peek (.opened .parenthesis))) then
    let _ ← arguments grammar

/-- Reads one call, selection, index or question mark after an expression. -/
def trailerStep (grammar : Grammar) (first : Expression) : Parser (Option Expression) := do
  if ← peek (.opened .parenthesis) then return some (.call first (← arguments grammar))
  let range := first matches .range
  if !range && (← peekBut (.mark ".") (.mark "..")) then
    require (.mark ".")
    selection grammar
    return some .other
  if ← peek (.opened .bracket) then
    let _ ← within .bracket (grammar.expression true)
    return some .other
  if range then return none
  if ← accept (.mark "?") then return some .other
  return none

/-- What follows an expression without an operator between. -/
def trailers (grammar : Grammar) (first : Expression) : Parser Expression := do
  go first ((← get).rest.length + 1)
where
  go (operand : Expression) : Nat → Parser Expression
    | 0 => return operand
    | count + 1 => do
      match ← trailerStep grammar operand with
      | some longer => go longer count
      | none => return operand

/-- One argument of a closure. -/
def closureParameter (grammar : Grammar) : Parser Unit := do
  outerAttributes grammar
  let _ ← grammar.pattern
  if ← accept (.mark ":") then
    let _ ← grammar.typeExpression true

/-- A closure. -/
def closure (grammar : Grammar) (structs : Bool) : Parser Expression := do
  let _ ← optionalBinder grammar
  let _ ← accept (.word "const")
  let _ ← accept (.word "static")
  let _ ← accept (.word "async")
  let _ ← accept (.word "move")
  require (.mark "|")
  let _ ← separatedUntil (.mark ",") (peek (.mark "|")) (closureParameter grammar)
  require (.mark "|")
  if ← accept (.mark "->") then
    let _ ← grammar.typeExpression true
    let _ ← block grammar
  else
    let _ ← grammar.expression structs
  return .other

/-- A field with its value in a struct expression. -/
def fieldValue (grammar : Grammar) : Parser Unit := do
  outerAttributes grammar
  let named ← member
  if (← peek (.mark ":")) || !named then
    require (.mark ":")
    let _ ← grammar.expression true

/-- The fields of a struct expression, which may end with the value that the others come from. -/
def fieldValues (grammar : Grammar) : Parser Unit := do
  let _ ← many do
    if ← atEnd then return none
    if ← accept (.mark "..") then
      unless ← atEnd do
        let _ ← grammar.expression true
      return none
    fieldValue grammar
    if ← atEnd then return none
    require (.mark ",")
    return some ()

/-- An expression that starts with a path. -/
def pathExpression (grammar : Grammar) (structs : Bool) : Parser Expression := do
  let (start, path) ← qualifiedPath grammar true
  if start.isNone && path.isPlain && (← peekBut (.mark "!") (.mark "!=")) then
    require (.mark "!")
    let (delimiter, content) ← anyGroup
    return .invocation delimiter content
  if structs && (← peek (.opened .brace)) then
    within .brace (fieldValues grammar)
    return .other
  return .path start path

/-- An expression between parentheses, or a tuple. -/
def parenthesizedExpression (grammar : Grammar) : Parser Expression := do
  let _ ← within .parenthesis (commaList (grammar.expression true))
  return .other

/-- The elements of an array, or one element and how often it is repeated. -/
def arrayElements (grammar : Grammar) : Parser Unit := do
  if ← atEnd then return
  let _ ← grammar.expression true
  if ← accept (.mark ";") then
    let _ ← grammar.expression true
  else if (← atEnd) || (← peek (.mark ",")) then
    let _ ← many do
      if ← atEnd then return none
      require (.mark ",")
      if ← atEnd then return none
      some <$> grammar.expression true
  else failHere (.expected ["`,`", "`;`"])

end RecordRegistry.Parser
