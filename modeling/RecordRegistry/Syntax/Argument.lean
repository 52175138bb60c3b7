/-
# Paths with arguments

The arguments between angle brackets, and the paths that carry them.  Inside expressions the
brackets need two colons before them, inside types they do not.  A path may start from a type
between angle brackets instead of a name.
-/

import RecordRegistry.Syntax.Attribute

namespace RecordRegistry.Parser

/-- A constant among generic arguments. -/
def constantArgument (grammar : Grammar) : Parser Unit := do
  if ← peek .literal then require .literal
  else if ← peek .identifier then require .identifier
  else if ← peek (.opened .brace) then
    let _ ← body grammar
  else failHere (.expected [])

/-- What may follow a type among generic arguments when it is a single name: a value for it or
bounds on it. Tells whether it did. -/
def associatedArgument (grammar : Grammar) : Parser Bool := do
  if ← accept (.mark "=") then
    if ← peekAny [.literal, .opened .brace] then constantArgument grammar
    else
      let _ ← grammar.typeExpression true
    return true
  else if ← accept (.mark ":") then
    let _ ← joinedUntil (.mark "+") (peekAny [.mark ",", .mark ">"]) (grammar.bound ⟨false, true⟩)
    return true
  else return false

/-- Whether a path is one name that may be given a value among generic arguments. -/
def isAssociated (path : Path) : Bool :=
  match path.rooted, path.segments with
  | false, [segment] => !(segment.arguments matches .parenthesized)
  | _, _ => false

/-- One generic argument: whether it is a lifetime, and the tokens that write it. -/
def genericArgument (grammar : Grammar) : Parser (Bool × List TokenTree) := do
  if (← peek .lifetime) && !(← peekSecond (.mark "+")) then
    let (_, tokens) ← withTokens (require .lifetime)
    return (true, tokens)
  if ← peekAny [.literal, .opened .brace] then
    let (_, tokens) ← withTokens (constantArgument grammar)
    return (false, tokens)
  let (plain, tokens) ← withTokens do
    match ← grammar.typeExpression true with
    | .path false path =>
      let valued ← if isAssociated path then associatedArgument grammar else pure false
      return if valued then none else some path
    | _ => return none
  match plain with
  | some path => return (false, path.tokens)
  | none => return (false, tokens)

/-- The tokens of generic arguments: lifetimes stand before the others, and two arguments have a
comma between them. Each argument is given with whether a comma followed it. -/
def argumentTokens (arguments : List ((Bool × List TokenTree) × Bool)) : List TokenTree :=
  let (lifetimes, others) := arguments.partition fun argument => argument.1.1
  let add := fun (written : List TokenTree × Bool) (argument : (Bool × List TokenTree) × Bool) =>
    let gap := if written.2 || argument.1.1 then [] else [.mark ',' false Position.start]
    let comma := if argument.2 then [.mark ',' false Position.start] else []
    (written.1 ++ gap ++ argument.1.2 ++ comma, argument.2)
  ((lifetimes ++ others).foldl add ([], true)).1

/-- Generic arguments between angle brackets, as the tokens that write them. -/
def genericArguments (grammar : Grammar) : Parser (List TokenTree) := do
  let colons ← accept (.mark "::")
  require (.mark "<")
  let arguments ← separatedUntil (.mark ",") (peek (.mark ">")) do
    let argument ← genericArgument grammar
    return (argument, ← peek (.mark ","))
  require (.mark ">")
  return (if colons then Path.separator else []) ++ .mark '<' false Position.start ::
    argumentTokens arguments ++ [.mark '>' false Position.start]

/-- Generic arguments that have to start with two colons. -/
def turbofish (grammar : Grammar) : Parser Unit := do
  unless ← peek (.mark "::") do require (.mark "::")
  let _ ← genericArguments grammar

/-- One segment of a path. -/
def segment (grammar : Grammar) (inExpression : Bool) : Parser Segment := do
  if ← peekAny ([.word "super", .word "self", .word "crate", .word "try"]) then
    return ⟨← anyName, .none⟩
  let name ← identifierOr ["Self"]
  let opens :=
    (!inExpression && (← peekBut (.mark "<") (.mark "<="))) ||
      ((← peek (.mark "::")) && (← peekThird (.mark "<")))
  if opens then return ⟨name, .angled (← genericArguments grammar)⟩
  else return ⟨name, .none⟩

/-- The segments of a path after its first ones. -/
def moreSegments (grammar : Grammar) (inExpression : Bool) : Parser (List Segment) :=
  whileHolds (return (← peek (.mark "::")) && !(← peekThird (.opened .parenthesis))) do
    require (.mark "::")
    segment grammar inExpression

/-- A path that starts from a name. -/
def path (grammar : Grammar) (inExpression : Bool) : Parser Path := do
  let rooted ← accept (.mark "::")
  let first ← segment grammar inExpression
  return ⟨rooted, first :: (← moreSegments grammar inExpression)⟩

/-- A path that starts from a name or from a type between angle brackets. What is kept of the
latter is the type, and the path that follows all of it. -/
def qualifiedPath (grammar : Grammar) (inExpression : Bool) :
    Parser (Option TypeExpression × Path) := do
  if ← accept (.mark "<") then
    let start ← grammar.typeExpression true
    let trait ← if ← accept (.word "as") then some <$> path grammar false else pure none
    require (.mark ">")
    require (.mark "::")
    let first ← segment grammar inExpression
    let others ← whileHolds (accept (.mark "::")) (segment grammar inExpression)
    let before := (trait.map Path.segments).getD []
    return (some start, ⟨(trait.map Path.rooted).getD false, before ++ first :: others⟩)
  else return (none, ← path grammar inExpression)

end RecordRegistry.Parser
