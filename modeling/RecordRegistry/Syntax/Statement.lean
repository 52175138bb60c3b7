/-
# Statements

The statements of a block.  A statement is a binding, an item, the use of a textual definition, or
an expression; an expression that does not end in a block needs a semicolon, unless it is the
last.
-/

import RecordRegistry.Syntax.Operand
import RecordRegistry.Syntax.Signature

namespace RecordRegistry.Parser

/-- A binding of a pattern, with a value and an alternative to the value if they are given. -/
def binding (grammar : Grammar) : Parser Unit := do
  require (.word "let")
  let _ ← grammar.pattern
  if ← accept (.mark ":") then
    let _ ← grammar.typeExpression true
  if ← accept (.mark "=") then
    let (_, tokens) ← withTokens (grammar.expression true)
    let endsInBrace := tokens.getLast?.any fun tree => tree matches .group .brace _ _ _
    unless endsInBrace do
      if ← accept (.word "else") then
        let _ ← block grammar
  require (.mark ";")

/-- Whether a constant item comes next, and not a block or a closure. -/
def peekConstantItem : Parser Bool := do
  unless ← peek (.word "const") do return false
  let second := afterTree (← get).rest
  let third := afterTree second
  let opens : List Sought := [.opened .brace, .word "static", .word "move", .mark "|"]
  if opens.any (·.isAt second) then return false
  let heads : List Sought := [.word "unsafe", .word "extern", .word "fn"]
  return !((Sought.word "async").isAt second && !heads.any (·.isAt third))

/-- Whether an item comes next. -/
def peekItem : Parser Bool := do
  if ← peekAny
      [.word "pub", .word "extern", .word "use", .word "fn", .word "mod", .word "type",
        .word "struct", .word "enum", .word "trait", .word "impl", .word "macro"] then
    return true
  let second := afterTree (← get).rest
  let follows := fun (alternatives : List Sought) => alternatives.any (·.isAt second)
  if ← peek (.word "crate") then return !follows [.mark "::"]
  if ← peek (.word "static") then return follows [.word "mut", .identifier]
  if ← peek (.word "unsafe") then return !follows [.opened .brace]
  if ← peek (.word "async") then return follows [.word "unsafe", .word "extern", .word "fn"]
  if ← peek (.word "union") then return follows [.identifier]
  if ← peek (.word "auto") then return follows [.word "trait"]
  if ← peek (.word "default") then return follows [.word "unsafe", .word "impl"]
  peekConstantItem

/-- What a path with an exclamation mark begins in a statement. -/
inductive InvocationStart
  | none
  /-- An item that defines a name. -/
  | item
  /-- The use of a textual definition on tokens between braces. -/
  | braces (content : Stream)

/-- Looks for a path with an exclamation mark. A dot or question mark after the braces continues
an expression. -/
def invocationStart : Parser InvocationStart := do
  let some (_, stream) ← ahead? modulePath | return .none
  unless (Sought.mark "!").isAt stream.rest do return .none
  let second := afterTree stream.rest
  let third := afterTree second
  if Sought.identifier.isAt second || (Sought.word "try").isAt second then return .item
  unless (Sought.opened .brace).isAt second do return .none
  if (Sought.mark ".").isAt third && !(Sought.mark "..").isAt third then return .none
  if (Sought.mark "?").isAt third then return .none
  return .braces stream

/-- A statement that is an expression. Yields it with whether a separator has to follow. -/
def expressionStatement (grammar : Grammar) : Parser (Statement × Bool) := do
  let value ← grammar.bounded
  let closed ← accept (.mark ";")
  match value with
  | .invocation delimiter content =>
    return (.invocation content, !closed && delimiter ≠ .brace)
  | .block => return (.other, false)
  | _ => return (.other, !closed)

/-- One statement. Yields it with whether a separator has to follow. -/
def statement (grammar : Grammar) : Parser (Statement × Bool) := do
  let before := (← get).found
  outerAttributes grammar
  let start ← invocationStart
  match start with
  | .braces stream =>
    set stream
    require (.mark "!")
    let (_, content) ← anyGroup
    let _ ← accept (.mark ";")
    return (.invocation content, false)
  | _ =>
    if ← peek (.word "let") then
      binding grammar
      return (.other, false)
    else if (start matches .item) || (← peekItem) then
      let item ← grammar.item
      modify ({ · with found := before ++ [item] })
      return (.other, false)
    else expressionStatement grammar

/-- The statements of a block. -/
def statements (grammar : Grammar) : Parser (List Statement) := do
  go ((← get).rest.length + 1)
where
  go : Nat → Parser (List Statement)
    | 0 => return []
    | count + 1 => do
      if ← accept (.mark ";") then return .other :: (← go count)
      if ← atEnd then return []
      let (value, unfinished) ← statement grammar
      if unfinished && !(← atEnd) then
        failHere (.refused "unexpected token, expected `;`")
      return value :: (← go count)

end RecordRegistry.Parser
