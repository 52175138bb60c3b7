/-
# Expressions with blocks

Conditions, loops, matches and plain blocks.  In a statement or a match arm such a construct ends
the expression, unless a dot or a question mark follows it.
-/

import RecordRegistry.Syntax.Expression

namespace RecordRegistry.Parser

/-- A condition with its block and the alternatives to it. -/
def conditional (grammar : Grammar) : Parser Unit := do
  go ((← get).rest.length + 1)
where
  go : Nat → Parser Unit
    | 0 => return
    | count + 1 => do
      require (.word "if")
      let _ ← grammar.expression false
      let _ ← block grammar
      if ← accept (.word "else") then
        if ← peek (.word "if") then go count
        else if ← peek (.opened .brace) then
          let _ ← block grammar
        else expectedOneOf [.word "if", .opened .brace]

/-- A loop with a condition. -/
def whileLoop (grammar : Grammar) : Parser Unit := do
  require (.word "while")
  let _ ← headAndBody grammar (discard (grammar.expression false)) grammar.statements

/-- A loop over the values of an expression. -/
def forLoop (grammar : Grammar) : Parser Unit := do
  require (.word "for")
  let head := do
    let _ ← patternAlternatives grammar
    require (.word "in")
    let _ ← grammar.expression false
  let _ ← headAndBody grammar head grammar.statements

/-- A loop without a condition. -/
def endlessLoop (grammar : Grammar) : Parser Unit := do
  require (.word "loop")
  let _ ← body grammar

/-- A loop or block with a label before it. -/
def labelled (grammar : Grammar) : Parser Unit := do
  require .lifetime
  require (.mark ":")
  if ← peek (.word "while") then whileLoop grammar
  else if ← peek (.word "for") then forLoop grammar
  else if ← peek (.word "loop") then endlessLoop grammar
  else if ← peek (.opened .brace) then
    let _ ← body grammar
  else failHere (.refused "expected loop or block expression")

/-- One arm of a match. A comma has to follow unless the arm ends in a block. -/
def matchArm (grammar : Grammar) : Parser Unit := do
  outerAttributes grammar
  let _ ← patternAlternatives grammar
  if ← accept (.word "if") then
    let _ ← grammar.expression true
  require (.mark "=>")
  let value ← grammar.bounded
  if value matches .block then
    let _ ← accept (.mark ",")
  else unless ← atEnd do require (.mark ",")

/-- A match with its arms. -/
def matchArms (grammar : Grammar) : Parser Unit := do
  require (.word "match")
  let _ ← headAndBody grammar (discard (grammar.expression false)) (untilEnd (matchArm grammar))

/-- Whether a binder of lifetimes comes next, and not a loop. -/
def peekBinder : Parser Bool := do
  return (← peek (.word "for")) && (← peekSecond (.mark "<")) &&
    ((← peekThird .lifetime) || (← peekThird (.mark ">")))

/-- Reads a construct that ends in a block, if one comes next. -/
def blockLike (grammar : Grammar) : Parser (Option Expression) := do
  if ← peek (.word "if") then conditional grammar
  else if ← peek (.word "while") then whileLoop grammar
  else if (← peek (.word "for")) && !(← peekBinder) then forLoop grammar
  else if ← peek (.word "loop") then endlessLoop grammar
  else if ← peek (.word "match") then matchArms grammar
  else if (← peek (.word "try")) && (← peekSecond (.opened .brace)) then
    require (.word "try")
    let _ ← block grammar
  else if ← accept (.word "unsafe") then
    let _ ← body grammar
  else if (← peek (.word "const")) && (← peekSecond (.opened .brace)) then constantBlock grammar
  else if ← peek (.opened .brace) then
    let _ ← body grammar
  else if ← peek .lifetime then labelled grammar
  else return none
  return some .block

/-- An expression as a statement or in a match arm. -/
def bounded (grammar : Grammar) : Parser Expression := do
  outerAttributes grammar
  match ← blockLike grammar with
  | some first =>
    if (← peekBut (.mark ".") (.mark "..")) || (← peek (.mark "?")) then
      let longer ← trailers grammar first
      operators grammar longer true .lowest
    else return first
  | none =>
    let first ← grammar.operand true
    operators grammar first true .lowest

end RecordRegistry.Parser
