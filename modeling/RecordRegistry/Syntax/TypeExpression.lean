/-
# Types

Every form of type.  Where a type stands in a place that a plus sign could continue, it may be a
sum of bounds.
-/

import RecordRegistry.Syntax.Bound

namespace RecordRegistry.Parser

/-- A path as a type, whose last name may be called with argument types. -/
def typePath (grammar : Grammar) : Parser (Bool × Path) := do
  let (start, first) ← qualifiedPath grammar false
  return (start.isSome, ← calls first (← get).rest.length)
where
  /-- Continues a path with argument types. A result between parentheses may be followed by more
  segments. -/
  calls (path : Path) : Nat → Parser Path
    | 0 => return path
    | count + 1 => do
      unless path.endsPlain && (← peekCallableArguments) do return path
      let _ ← accept (.mark "::")
      let continues ← callableArguments grammar
      let called := path.parenthesizeLast
      if continues then
        let more ← moreSegments grammar false
        calls { called with segments := called.segments ++ more } count
      else return called

/-- The bounds of an object type. At least one of them has to be a trait. -/
def objectBounds (grammar : Grammar) (position : Position) (plus : Bool) : Parser Unit := do
  let found ← bounds grammar ⟨false, false⟩ plus
  unless found.contains .trait do
    failAt position "at least one trait is required for an object type"

/-- A sum of bounds whose first one has been read. -/
def sum (grammar : Grammar) : Parser TypeExpression := do
  let others ← whileHolds (accept (.mark "+")) (grammar.bound ⟨false, false⟩)
  return .bounds others.isEmpty

/-- What stands between the parentheses of a type. -/
inductive ParenthesizedType
  /-- Nothing, or types with commas. -/
  | tuple
  /-- A relaxed trait, which more bounds may follow. -/
  | relaxed
  | single (type : TypeExpression)

/-- What stands between the parentheses of a type. -/
def parenthesizedContent (grammar : Grammar) : Parser ParenthesizedType := do
  if ← atEnd then return .tuple
  if ← peek .lifetime then
    objectBounds grammar (← here) true
    return .single .other
  if ← peek (.mark "?") then
    let _ ← traitBound grammar ⟨false, false⟩
    return .relaxed
  let first ← grammar.typeExpression true
  if ← accept (.mark ",") then
    let _ ← commaList (grammar.typeExpression true)
    return .tuple
  else return .single first

/-- A type that starts with a parenthesis. -/
def parenthesizedType (grammar : Grammar) (plus : Bool) : Parser TypeExpression := do
  match ← within .parenthesis (parenthesizedContent grammar) with
  | .tuple => return .other
  | .relaxed => sum grammar
  | .single type =>
    let summand := type matches .path false _ || type matches .bounds true
    if summand && plus && (← peek (.mark "+")) then sum grammar else return .parenthesized

/-- One argument of a function type. The first may be a receiver. -/
def callableParameter (grammar : Grammar) (first : Bool) : Parser Unit := do
  outerAttributes grammar
  let mutable := first && (← peek (.word "mut")) && (← peekSecond (.word "self"))
  if mutable then require (.word "mut")
  let nameable ← peekAny ([.identifier, .word "_"] ++ if first then [.word "self"] else [])
  if nameable && (← peekSecond (.mark ":")) && !(← peekSecond (.mark "::")) then
    let _ ← anyName
    require (.mark ":")
    let _ ← grammar.typeExpression true
  else if mutable then require (.word "self")
  else
    let _ ← grammar.typeExpression true

/-- Whether the arguments of a function type end with dots. -/
def peekVariadic : Parser Bool := do
  if ← peek (.mark "...") then return true
  return (← peekAny [.identifier, .word "_"]) && (← peekSecond (.mark ":")) &&
    (← peekThird (.mark "..."))

/-- The arguments of a function type. -/
def callableParameters (grammar : Grammar) : Parser Unit := do
  let _ ← go true ((← get).rest.length + 1)
where
  go (first : Bool) : Nat → Parser Unit
    | 0 => return
    | count + 1 => do
      if ← atEnd then return
      outerAttributes grammar
      if ← peekVariadic then
        if ← peekAny [.identifier, .word "_"] then
          let _ ← anyName
          require (.mark ":")
        require (.mark "...")
        let _ ← accept (.mark ",")
      else
        callableParameter grammar first
        unless ← atEnd do
          require (.mark ",")
          go false count

/-- The calling convention of a function, if one is given. Tells whether it was. -/
def convention : Parser Bool := do
  if ← accept (.word "extern") then
    let _ ← accept .string
    return true
  else return false

/-- A function type. -/
def functionType (grammar : Grammar) : Parser TypeExpression := do
  let _ ← optionalBinder grammar
  let _ ← accept (.word "unsafe")
  let _ ← convention
  require (.word "fn")
  within .parenthesis (callableParameters grammar)
  let _ ← result grammar false
  return .other

/-- A type that starts with a path. -/
def pathType (grammar : Grammar) (plus bound : Bool) : Parser TypeExpression := do
  let (qualified, path) ← typePath grammar
  if qualified then return .path true path
  if path.isPlain && (← peekBut (.mark "!") (.mark "!=")) then
    require (.mark "!")
    let _ ← anyGroup
    return .other
  unless bound || (plus && (← peek (.mark "+"))) do return .path false path
  unless plus do return .bounds true
  let single := !(← peek (.mark "+"))
  let _ ← many do
    unless ← accept (.mark "+") do return none
    if ← peekBound false then some <$> grammar.bound ⟨false, false⟩ else return none
  return .bounds single

/-- An object type, whose first word has not been read. -/
def objectType (grammar : Grammar) (plus : Bool) : Parser TypeExpression := do
  let position ← here
  require (.word "dyn")
  if ← accept (.mark "*") then withoutItems (objectBounds grammar position plus)
  else objectBounds grammar position plus
  return .other

/-- A type of which only the bounds are told. -/
def opaqueType (grammar : Grammar) (plus : Bool) : Parser TypeExpression := do
  let position ← here
  require (.word "impl")
  let found ← bounds grammar ⟨true, true⟩ plus
  unless found.contains .trait || found.contains .unread do
    failAt position "at least one trait must be specified"
  return .other

/-- A sequence type. -/
def sequenceType (grammar : Grammar) : Parser TypeExpression :=
  within .bracket do
    let _ ← grammar.typeExpression true
    if ← accept (.mark ";") then
      let _ ← grammar.expression true
    return .other

/-- A pointer type. -/
def pointerType (grammar : Grammar) : Parser TypeExpression := do
  require (.mark "*")
  unless ← acceptAny [.word "const", .word "mut"] do
    expectedOneOf [.word "const", .word "mut"]
  let _ ← grammar.typeExpression false
  return .other

/-- A reference type. -/
def referenceType (grammar : Grammar) : Parser TypeExpression := do
  require (.mark "&")
  let _ ← accept .lifetime
  let _ ← accept (.word "mut")
  let _ ← grammar.typeExpression false
  return .other

/-- What begins a type, in the order of the error that names it. -/
def typeStart : List Sought :=
  [.word "for", .opened .parenthesis, .word "fn", .word "unsafe", .word "extern", .identifier,
    .mark "::", .mark "<", .word "dyn", .opened .bracket, .mark "*", .mark "&", .mark "!",
    .word "impl", .word "_", .lifetime]

/-- What may follow a binder of lifetimes in a type. -/
def boundTypeStart : List Sought :=
  [.identifier, .word "fn", .word "unsafe", .word "extern", .word "super", .word "self",
    .word "Self", .word "crate", .word "dyn"]

/-- A type. -/
def typeExpression (grammar : Grammar) (plus : Bool) : Parser TypeExpression := do
  let bound ← optionalBinder grammar
  if bound then
    unless ← peekAny boundTypeStart do expectedOneOf boundTypeStart
  if ← peek (.opened .parenthesis) then parenthesizedType grammar plus
  else if ← peekAny [.word "fn", .word "unsafe", .word "extern"] then functionType grammar
  else if (← peekAny [.identifier, .mark "::", .mark "<"]) || (← peekPathWord) then
    pathType grammar plus bound
  else if ← peek (.word "dyn") then objectType grammar plus
  else if ← peek (.opened .bracket) then sequenceType grammar
  else if ← peek (.mark "*") then pointerType grammar
  else if ← peek (.mark "&") then referenceType grammar
  else if ← accept (.mark "!") then return .other
  else if ← peek (.word "impl") then opaqueType grammar plus
  else if ← accept (.word "_") then return .other
  else if ← peek .lifetime then
    objectBounds grammar (← here) true
    return .other
  else expectedOneOf typeStart

end RecordRegistry.Parser
