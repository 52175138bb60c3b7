/-
# Generic parameters

The parameters between angle brackets after the name of an item, the lifetimes that a binder
introduces, and the clause that constrains both.
-/

import RecordRegistry.Syntax.Argument

namespace RecordRegistry.Parser

/-- A lifetime parameter with the lifetimes that it outlives. -/
def lifetimeParameter (grammar : Grammar) : Parser Unit := do
  outerAttributes grammar
  require .lifetime
  if ← accept (.mark ":") then
    let _ ← joinedUntil (.mark "+") (peekAny [.mark ",", .mark ">"]) (require .lifetime)

/-- A type parameter with its bounds and the type that it stands for if none is given. -/
def typeParameter (grammar : Grammar) : Parser Unit := do
  let _ ← identifier
  if ← accept (.mark ":") then
    let _ ← joinedUntil (.mark "+") (peekAny [.mark ",", .mark ">", .mark "="])
      (grammar.bound ⟨false, true⟩)
  if ← accept (.mark "=") then
    let _ ← grammar.typeExpression true

/-- A constant parameter. -/
def constantParameter (grammar : Grammar) : Parser Unit := do
  require (.word "const")
  let _ ← identifier
  require (.mark ":")
  let _ ← grammar.typeExpression true
  if ← accept (.mark "=") then constantArgument grammar

/-- One parameter of an item. -/
def parameter (grammar : Grammar) : Parser Unit := do
  outerAttributes grammar
  if ← peek .lifetime then lifetimeParameter grammar
  else if ← peek .identifier then typeParameter grammar
  else if ← peek (.word "const") then constantParameter grammar
  else if ← accept (.word "_") then return
  else expectedOneOf [.lifetime, .identifier, .word "const"]

/-- The parameters of an item. Yields how many there are, none if there are no brackets. -/
def parameters (grammar : Grammar) : Parser (Option Nat) := do
  if ← accept (.mark "<") then
    let found ← separatedUntil (.mark ",") (peek (.mark ">")) (parameter grammar)
    require (.mark ">")
    return some found.length
  else return none

/-- One parameter of a binder. -/
def boundParameter (grammar : Grammar) : Parser Unit := do
  outerAttributes grammar
  if ← peek .identifier then typeParameter grammar
  else if ← peek .lifetime then lifetimeParameter grammar
  else if ← peek (.word "const") then constantParameter grammar
  else expectedOneOf [.identifier, .lifetime, .word "const"]

/-- A binder of lifetimes, whose first word has been seen. -/
def binder (grammar : Grammar) : Parser Unit := do
  require (.word "for")
  require (.mark "<")
  let _ ← separatedUntil (.mark ",") (peek (.mark ">")) (boundParameter grammar)
  require (.mark ">")

/-- A binder of lifetimes, if there is one. Tells whether there was. -/
def optionalBinder (grammar : Grammar) : Parser Bool := do
  if ← peek (.word "for") then
    binder grammar
    return true
  else return false

/-- Whether an angle bracket opens parameters, where a type could stand as well. -/
def peekParameters : Parser Bool := do
  unless ← peek (.mark "<") do return false
  if ← peekSecond (.mark ">") then return true
  if ← peekSecond (.mark "#") then return true
  if ← peekSecond (.word "const") then return true
  unless (← peekSecond .lifetime) || (← peekSecond .identifier) do return false
  if (← peekThird (.mark ":")) && !(← peekThird (.mark "::")) then return true
  return (← peekThird (.mark ">")) || (← peekThird (.mark ",")) || (← peekThird (.mark "="))

/-- Where the bounds of a constraint end, besides at the end of the scope. -/
def peekConstraintEnd : Parser Bool := do
  if ← atEnd then return true
  if ← peekAny [.opened .brace, .mark ",", .mark ";", .mark "="] then return true
  peekBut (.mark ":") (.mark "::")

/-- One constraint of a clause. -/
def constraint (grammar : Grammar) : Parser Unit := do
  if (← peek .lifetime) && (← peekSecond (.mark ":")) then
    require .lifetime
    require (.mark ":")
    let stop := do
      return (← atEnd) ||
        (← peekAny [.opened .brace, .mark ",", .mark ";", .mark ":", .mark "="])
    let _ ← joinedUntil (.mark "+") stop (require .lifetime)
  else
    let _ ← optionalBinder grammar
    let _ ← grammar.typeExpression true
    require (.mark ":")
    let _ ← joinedUntil (.mark "+") peekConstraintEnd (grammar.bound ⟨false, true⟩)

/-- A clause of constraints, if there is one. Tells whether there was. -/
def constraints (grammar : Grammar) : Parser Bool := do
  if ← accept (.word "where") then
    if ← peekParameters then
      failHere
        (.refused "generic parameters on `where` clauses are reserved for future use")
    let _ ← joinedUntil (.mark ",") peekConstraintEnd (constraint grammar)
    return true
  else return false

end RecordRegistry.Parser
