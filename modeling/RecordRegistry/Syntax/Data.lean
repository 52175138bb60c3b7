/-
# Data declarations

Structs, enums, unions and type aliases, from their keyword on.
-/

import RecordRegistry.Syntax.Signature

namespace RecordRegistry.Parser

/-- A field without a name. -/
def positionalField (grammar : Grammar) : Parser Unit := do
  outerAttributes grammar
  let _ ← visibility
  let _ ← grammar.typeExpression true

/-- Fields between parentheses. -/
def positionalFields (grammar : Grammar) : Parser Unit :=
  within .parenthesis (discard (commaList (positionalField grammar)))

/-- Fields between braces. A field without a name may hold fields of its own, which are nested at
most as deep as there are tokens. -/
def namedFields (grammar : Grammar) : Parser Unit := do
  fieldsUpTo ((← get).rest.length + 1)
where
  fieldsUpTo : Nat → Parser Unit
    | 0 => failHere (.expected [])
    | count + 1 => within .brace (discard (commaList (field (fieldsUpTo count))))
  field (inner : Parser Unit) : Parser Unit := do
    outerAttributes grammar
    let _ ← visibility
    let unnamed ← peek (.word "_")
    let _ ← if unnamed then anyName else identifier
    require (.mark ":")
    let nested := (← peek (.word "struct")) ||
      ((← peek (.word "union")) && (← peekSecond (.opened .brace)))
    if unnamed && nested then
      let _ ← anyName
      inner
    else
      let _ ← grammar.typeExpression true

/-- What may follow the parameters of a struct. -/
def structStart : List Sought :=
  [.word "where", .opened .parenthesis, .opened .brace, .mark ";"]

/-- The fields of a struct with the constraints on its parameters. -/
def structFields (grammar : Grammar) : Parser FieldStyle := do
  let constrained ← constraints grammar
  if !constrained && (← peek (.opened .parenthesis)) then
    positionalFields grammar
    let constrained ← constraints grammar
    unless ← accept (.mark ";") do
      expectedOneOf (if constrained then [.mark ";"] else [.word "where", .mark ";"])
    return .positional
  else if ← peek (.opened .brace) then
    namedFields grammar
    return .named
  else if ← accept (.mark ";") then return .unit
  else expectedOneOf (if constrained then [.opened .brace, .mark ";"] else structStart)

/-- A struct. -/
def structItem (grammar : Grammar) : Parser Item := do
  require (.word "struct")
  let name ← identifier
  let count ← parameters grammar
  let fields ← structFields grammar
  return .struct name (count.getD 0) fields

/-- A variant of an enum. -/
def variant (grammar : Grammar) : Parser Unit := do
  outerAttributes grammar
  let _ ← visibility
  let _ ← identifier
  if ← peek (.opened .brace) then namedFields grammar
  else if ← peek (.opened .parenthesis) then positionalFields grammar
  if ← accept (.mark "=") then
    let _ ← grammar.expression true

/-- An enum. -/
def enumItem (grammar : Grammar) : Parser Item := do
  require (.word "enum")
  let name ← identifier
  let _ ← parameters grammar
  let _ ← constraints grammar
  let _ ← within .brace (commaList (variant grammar))
  return .enum name

/-- A union. -/
def unionItem (grammar : Grammar) : Parser Item := do
  require (.word "union")
  let name ← identifier
  let _ ← parameters grammar
  let _ ← constraints grammar
  namedFields grammar
  return .union name

/-- Where the constraints of a type declaration may stand. -/
inductive ConstraintPlace
  | beforeValue
  | afterValue
  | anywhere
  deriving DecidableEq

/-- A declaration of a type by its keyword. It is an alias if it has a value and no bounds. -/
def typeDeclaration (grammar : Grammar) (place : ConstraintPlace) : Parser Item := do
  require (.word "type")
  let name ← identifier
  let _ ← parameters grammar
  let bounded ← accept (.mark ":")
  if bounded then
    let _ ← separatedUntil (.mark "+") (peekAny [.word "where", .mark "=", .mark ";"])
      (grammar.bound ⟨false, true⟩)
  let constrained ← if place = .afterValue then pure false else constraints grammar
  let valued ← accept (.mark "=")
  if valued then
    let _ ← grammar.typeExpression true
  unless place = .beforeValue || constrained do
    let _ ← constraints grammar
  require (.mark ";")
  return if valued && !bounded then .alias name else .other

end RecordRegistry.Parser
