/-
# Attributes

An attribute is a path with optional further tokens between brackets.  Its tokens are free, except
that a value after an equals sign has to be an expression.
-/

import RecordRegistry.Syntax.Path

namespace RecordRegistry.Parser

/-- The value of an attribute: a single literal, or an expression without attributes of its own. -/
def attributeValue (grammar : Grammar) : Parser Unit := do
  let single ← ahead? (return (← accept .literal) && (← atEnd))
  match single with
  | some (true, stream) => set stream
  | _ =>
    if (← peek (.mark "#")) && (← peekSecond (.opened .bracket)) then
      failHere (.refused "unexpected attribute inside of attribute")
    else let _ ← grammar.expression true

/-- The content of an attribute. -/
def attributeContent (grammar : Grammar) : Parser Unit := do
  unless ← accept (.word "unsafe") do
    let _ ← modulePath
  if ← peekAny [.opened .parenthesis, .opened .bracket, .opened .brace] then
    let _ ← anyGroup
  else if ← accept (.mark "=") then
    attributeValue grammar

/-- The attributes of what follows. -/
def outerAttributes (grammar : Grammar) : Parser Unit := do
  let _ ← whileHolds (peek (.mark "#")) do
    require (.mark "#")
    within .bracket (attributeContent grammar)

/-- The attributes of what encloses them. -/
def innerAttributes (grammar : Grammar) : Parser Unit := do
  let _ ← whileHolds (return (← peek (.mark "#")) && (← peekSecond (.mark "!"))) do
    require (.mark "#")
    require (.mark "!")
    within .bracket (attributeContent grammar)

/-- A block with attributes of its own. -/
def body (grammar : Grammar) : Parser (List Statement) :=
  within .brace do
    innerAttributes grammar
    grammar.statements

/-- A block without attributes of its own. -/
def block (grammar : Grammar) : Parser (List Statement) := within .brace grammar.statements

/-- A head and a block. What stands in the attributes of the block comes before what stands in the
head. -/
def headAndBody {α : Type} (grammar : Grammar) (head : Parser Unit) (content : Parser α) :
    Parser α := do
  let before := (← get).found
  head
  let inHead := (← get).found.drop before.length
  modify ({ · with found := before })
  within .brace do
    innerAttributes grammar
    modify fun stream => { stream with found := stream.found ++ inHead }
    content

end RecordRegistry.Parser
