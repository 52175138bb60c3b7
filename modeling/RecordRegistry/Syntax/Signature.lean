/-
# Signatures

The visibility of an item, and the head of a function: its qualifiers, its arguments with an
optional receiver, and its result.
-/

import RecordRegistry.Syntax.Pattern

namespace RecordRegistry.Parser

/-- What stands between the parentheses of a restricted visibility: whether it restricts, and does
not belong to a field instead. -/
def restriction : Parser Bool := do
  if ← peekAny [.word "crate", .word "self", .word "super"] then
    let _ ← anyName
    atEnd
  else if ← accept (.word "in") then
    let _ ← modulePath
    return true
  else return false

/-- The visibility of an item or a field, if one is given. Tells whether it was. -/
def visibility : Parser Bool := do
  if ← accept (.word "pub") then
    if ← peek (.opened .parenthesis) then
      let before ← get
      unless ← within .parenthesis restriction do set before
    return true
  else return false

/-- Whether the head of a function comes next. A `safe` qualifier only stands among the functions
of another language. -/
def peekSignature (safe : Bool) : Parser Bool := do
  let head := do
    let _ ← accept (.word "const")
    let _ ← accept (.word "async")
    let qualified ← if safe then accept (.word "safe") else pure false
    unless qualified do
      let _ ← accept (.word "unsafe")
    let _ ← convention
    peek (.word "fn")
  match ← ahead? head with
  | some (isFunction, _) => return isFunction
  | none => return false

/-- A receiver. Yields where its name stands. -/
def receiver (grammar : Grammar) : Parser Position := do
  let reference ← accept (.mark "&")
  if reference then
    let _ ← accept .lifetime
  let _ ← accept (.word "mut")
  let position ← here
  require (.word "self")
  unless reference do
    if ← accept (.mark ":") then
      let _ ← grammar.typeExpression true
  return position

/-- What one argument of a function is. -/
inductive FunctionArgument
  | receiver (position : Position)
  | typed
  /-- The dots that stand for any further arguments. -/
  | variadic

/-- One argument of a function after its attributes. -/
def functionArgument (grammar : Grammar) : Parser FunctionArgument := do
  if ← accept (.mark "...") then return .variadic
  if let some (position, stream) ← ahead? (receiver grammar) then
    set stream
    return .receiver position
  if (← peek .identifier) && (← peekSecond (.mark "<")) then
    let _ ← grammar.typeExpression true
    return .typed
  let _ ← grammar.pattern
  require (.mark ":")
  if ← accept (.mark "...") then return .variadic
  let _ ← grammar.typeExpression true
  return .typed

/-- The arguments of a function. A receiver has to be the first of them. -/
def functionArguments (grammar : Grammar) : Parser Unit := do
  go true false ((← get).rest.length + 1)
where
  go (first received : Bool) : Nat → Parser Unit
    | 0 => return
    | count + 1 => do
      if ← atEnd then return
      outerAttributes grammar
      match ← functionArgument grammar with
      | .variadic =>
        unless ← atEnd do require (.mark ",")
      | .receiver position =>
        if received then failAt position "unexpected second method receiver"
        else if !first then failAt position "unexpected method receiver"
        else
          unless ← atEnd do
            require (.mark ",")
            go false true count
      | .typed =>
        unless ← atEnd do
          require (.mark ",")
          go false received count

/-- The head of a function, with the constraints on its parameters. Yields its name. -/
def signature (grammar : Grammar) (safe : Bool) : Parser Name := do
  let _ ← accept (.word "const")
  let _ ← accept (.word "async")
  let qualified ← accept (.word "unsafe")
  if safe && !qualified then
    let _ ← accept (.word "safe")
  let _ ← convention
  require (.word "fn")
  let name ← identifier
  let _ ← parameters grammar
  within .parenthesis (functionArguments grammar)
  let _ ← result grammar true
  let _ ← constraints grammar
  return name

end RecordRegistry.Parser
