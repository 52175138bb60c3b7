/-
# Items

The items of a file, a module, a trait, an implementation or a block of foreign declarations.
Only the names of types and functions are kept, and the bodies of functions.
-/

import RecordRegistry.Syntax.Data
import RecordRegistry.Syntax.Statement

namespace RecordRegistry.Parser

/-- A function after its visibility. One without a body is kept without its name. -/
def functionItem (grammar : Grammar) : Parser Item := do
  let name ← signature grammar false
  if ← accept (.mark ";") then return .other
  else return .function name (← body grammar)

/-- The use of a textual definition as an item. Only a definition has a name before its tokens. -/
def invocationItem (named : Bool) : Parser Unit := do
  let _ ← modulePath
  require (.mark "!")
  if named then
    if ← peekAny [.identifier, .word "try"] then
      let _ ← anyName
  let (delimiter, _) ← anyGroup
  unless delimiter = .brace do require (.mark ";")

/-- The name of a constant, which may be left out. -/
def constantName : Parser Unit := do
  if ← peekAny [.identifier, .word "_"] then
    let _ ← anyName
  else expectedOneOf [.identifier, .word "_"]

/-- A constant after its keyword. -/
def constant (grammar : Grammar) : Parser Unit := do
  constantName
  let _ ← parameters grammar
  require (.mark ":")
  let _ ← grammar.typeExpression true
  if ← accept (.mark "=") then
    let _ ← grammar.expression true
  let _ ← constraints grammar
  require (.mark ";")

/-- A static variable. -/
def staticItem (grammar : Grammar) : Parser Unit := do
  require (.word "static")
  let _ ← accept (.word "mut")
  let _ ← identifier
  if ← accept (.mark "=") then
    let _ ← grammar.expression true
    require (.mark ";")
  else
    require (.mark ":")
    let _ ← grammar.typeExpression true
    unless ← accept (.mark ";") do
      require (.mark "=")
      let _ ← grammar.expression true
      require (.mark ";")

/-- An import of a whole library. -/
def libraryImport : Parser Unit := do
  require (.word "crate")
  let _ ← identifierOr ["self"]
  if ← accept (.word "as") then
    unless ← accept (.word "_") do
      let _ ← identifier
  require (.mark ";")

/-- What begins a tree of imports. -/
def importStart : List Sought :=
  [.identifier, .word "self", .word "super", .word "crate", .word "try", .mark "*", .opened .brace]

/-- What a use declaration names. Inside braces a name may start at the root of all names, if
nothing before the braces has done so. -/
def importTree (grammar : Grammar) (rooted : Bool) : Parser Unit := do
  if ← peekAny [.identifier, .word "self", .word "super", .word "crate", .word "try"] then
    let _ ← anyName
    if ← accept (.mark "::") then grammar.importTree false
    else if ← accept (.word "as") then
      unless ← acceptAny [.identifier, .word "_"] do
        failHere (.refused "expected identifier or underscore")
  else if ← accept (.mark "*") then return
  else if ← peek (.opened .brace) then
    let tree := do
      let root ← if rooted then accept (.mark "::") else pure false
      grammar.importTree (rooted && !root)
    let _ ← within .brace (commaList tree)
  else expectedOneOf importStart

/-- A use declaration. -/
def useItem (grammar : Grammar) : Parser Unit := do
  require (.word "use")
  let rooted ← accept (.mark "::")
  importTree grammar !rooted
  require (.mark ";")

/-- A module, whose items may stand in another file. -/
def moduleItem (grammar : Grammar) : Parser Unit := do
  let _ ← accept (.word "unsafe")
  require (.word "mod")
  let _ ← identifierOr ["try"]
  unless ← accept (.mark ";") do
    if ← peek (.opened .brace) then
      within .brace do
        innerAttributes grammar
        let _ ← untilEnd do
          outerAttributes grammar
          grammar.item
    else expectedOneOf [.mark ";", .opened .brace]

/-- A textual definition by its keyword. -/
def definitionItem : Parser Unit := do
  require (.word "macro")
  let _ ← identifier
  let parameterized ← peek (.opened .parenthesis)
  if parameterized then within .parenthesis everything
  if ← peek (.opened .brace) then within .brace everything
  else expectedOneOf ((if parameterized then [] else [.opened .parenthesis]) ++ [.opened .brace])

/-- What begins an item of a kind of list: one of the given words, or the use of a textual
definition if nothing qualifies it. -/
def memberStart (words : List String) (plain : Bool) : List Sought :=
  words.map .word ++ if plain then pathStart else []

/-- A function of a trait after its qualifiers. Its body may be left out. -/
def traitFunction (grammar : Grammar) : Parser Unit := do
  let _ ← signature grammar false
  if ← peek (.opened .brace) then
    let _ ← body grammar
  else unless ← accept (.mark ";") do
    expectedOneOf [.opened .brace, .mark ";"]

/-- An item of a trait. -/
def traitItem (grammar : Grammar) : Parser Unit := do
  outerAttributes grammar
  let visible ← visibility
  let defaulted ← accept (.word "default")
  let plain := !visible && !defaulted
  if ← peekSignature false then traitFunction grammar
  else if ← accept (.word "const") then
    let names : List Sought := [.identifier, .word "_"]
    let heads : List Sought := [.word "async", .word "unsafe", .word "extern", .word "fn"]
    if ← peekAny names then constant grammar
    else if ← peekAny heads then traitFunction grammar
    else expectedOneOf (names ++ heads)
  else if ← peek (.word "type") then
    let _ ← typeDeclaration grammar .afterValue
  else if plain && (← peekAny pathStart) then invocationItem false
  else expectedOneOf (memberStart ["fn", "const", "type"] plain)

/-- The items of a trait with the constraints on its parameters and the traits that it extends. -/
def traitBody (grammar : Grammar) : Parser Unit := do
  if ← accept (.mark ":") then
    let _ ← separatedUntil (.mark "+") (peekAny [.word "where", .opened .brace])
      (grammar.bound ⟨false, true⟩)
  let _ ← constraints grammar
  within .brace do
    innerAttributes grammar
    let _ ← untilEnd (traitItem grammar)

/-- A trait with qualifiers. -/
def qualifiedTrait (grammar : Grammar) : Parser Item := do
  let _ ← accept (.word "unsafe")
  let _ ← accept (.word "auto")
  require (.word "trait")
  let name ← identifier
  let _ ← parameters grammar
  traitBody grammar
  return .trait name

/-- A trait or an alias for bounds. -/
def traitOrAlias (grammar : Grammar) : Parser Item := do
  require (.word "trait")
  let name ← identifier
  let _ ← parameters grammar
  let alternatives : List Sought := [.opened .brace, .mark ":", .word "where", .mark "="]
  if ← accept (.mark "=") then
    let _ ← separatedUntil (.mark "+") (peekAny [.word "where", .mark ";"])
      (grammar.bound ⟨false, false⟩)
    let _ ← constraints grammar
    require (.mark ";")
    return .traitAlias name
  else if ← peekAny alternatives then
    traitBody grammar
    return .trait name
  else expectedOneOf alternatives

/-- An item of an implementation. -/
def implementationItem (grammar : Grammar) : Parser Unit := do
  outerAttributes grammar
  let visible ← visibility
  let defaulted := (← peek (.word "default")) && !(← peekSecond (.mark "!"))
  if defaulted then require (.word "default")
  let plain := !visible && !defaulted
  if ← peekSignature false then
    let _ ← signature grammar false
    unless ← accept (.mark ";") do
      let _ ← body grammar
  else if ← accept (.word "const") then constant grammar
  else if ← peek (.word "type") then
    let _ ← typeDeclaration grammar .afterValue
  else if plain && (← peekAny pathStart) then invocationItem false
  else
    let words := ["fn", "const", "type"]
    expectedOneOf (memberStart (if defaulted then words else "default" :: words) plain)

/-- An implementation. -/
def implementation (grammar : Grammar) : Parser Unit := do
  let _ ← accept (.word "default")
  let _ ← accept (.word "unsafe")
  require (.word "impl")
  if ← peekParameters then
    let _ ← parameters grammar
  if (← peek (.mark "?")) && (← peekSecond (.word "const")) then require (.mark "?")
  let _ ← accept (.word "const")
  if (← peek (.mark "!")) && !(← peekSecond (.opened .brace)) then require (.mark "!")
  let _ ← grammar.typeExpression true
  if ← accept (.word "for") then
    let _ ← grammar.typeExpression true
  let _ ← constraints grammar
  within .brace do
    innerAttributes grammar
    let _ ← untilEnd (implementationItem grammar)

/-- A function of another language after its visibility. -/
def foreignFunction (grammar : Grammar) : Parser Unit := do
  let _ ← signature grammar true
  if ← peek (.opened .brace) then
    let _ ← body grammar
  else require (.mark ";")

/-- A static variable of another language after its visibility. -/
def foreignStatic (grammar : Grammar) : Parser Unit := do
  unless ← accept (.word "unsafe") do
    let _ ← accept (.word "safe")
  require (.word "static")
  let _ ← accept (.word "mut")
  let _ ← identifier
  require (.mark ":")
  let _ ← grammar.typeExpression true
  if ← accept (.mark "=") then
    let _ ← grammar.expression true
  require (.mark ";")

/-- An item among the declarations of another language. -/
def foreignItem (grammar : Grammar) : Parser Unit := do
  outerAttributes grammar
  let visible ← visibility
  let qualified := (← peekAny [.word "unsafe", .word "safe"]) && (← peekSecond (.word "static"))
  if ← peekSignature true then foreignFunction grammar
  else if qualified || (← peek (.word "static")) then foreignStatic grammar
  else if ← peek (.word "type") then
    let _ ← typeDeclaration grammar .anywhere
  else if !visible && (← peekAny pathStart) then invocationItem false
  else expectedOneOf (memberStart ["fn", "static", "type"] !visible)

/-- The declarations of another language. -/
def foreignItems (grammar : Grammar) : Parser Unit := do
  let _ ← accept (.word "unsafe")
  let _ ← convention
  within .brace do
    innerAttributes grammar
    let _ ← untilEnd (foreignItem grammar)

/-- An item that begins with `extern`: an import of a library or foreign declarations. -/
def externalItem (grammar : Grammar) : Parser Unit := do
  let before ← get
  let named ← convention
  if named && (← peek (.opened .brace)) then
    set before
    foreignItems grammar
  else
    set before
    require (.word "extern")
    if ← peek (.word "crate") then libraryImport
    else if ← accept .string then expectedOneOf [.opened .brace]
    else expectedOneOf [.word "crate", .opened .brace, .string]

/-- An item that begins with `unsafe` and is no function. -/
def unsafeItem (grammar : Grammar) : Parser Item := do
  let second := afterTree (← get).rest
  let third := afterTree second
  let follows := fun (word : String) => (Sought.word word).isAt second
  if follows "trait" || (follows "auto" && (Sought.word "trait").isAt third) then
    qualifiedTrait grammar
  else if follows "impl" then
    implementation grammar
    return .other
  else if follows "extern" then
    foreignItems grammar
    return .other
  else if follows "mod" then
    moduleItem grammar
    return .other
  else
    require (.word "unsafe")
    expectedOneOf [.word "trait", .word "auto", .word "impl", .word "extern", .word "mod"]

/-- The keywords that begin an item, in the order of the error that names them. -/
def itemWords : List String :=
  ["fn", "extern", "use", "static", "const", "unsafe", "mod", "type", "struct", "enum", "union",
    "trait", "auto", "impl", "default", "macro"]

/-- An item of a kind of which nothing is kept. -/
def unkeptItem (parser : Parser Unit) : Parser Item := do
  parser
  return .other

/-- An item after its attributes. -/
def item (grammar : Grammar) : Parser Item := do
  let visible ← visibility
  let second := afterTree (← get).rest
  let follows := fun (sought : Sought) => sought.isAt second
  if ← peekSignature false then functionItem grammar
  else if ← peek (.word "extern") then unkeptItem (externalItem grammar)
  else if ← peek (.word "use") then unkeptItem (useItem grammar)
  else if ← peek (.word "static") then unkeptItem (staticItem grammar)
  else if ← accept (.word "const") then unkeptItem (constant grammar)
  else if ← peek (.word "unsafe") then unsafeItem grammar
  else if ← peek (.word "mod") then unkeptItem (moduleItem grammar)
  else if ← peek (.word "type") then typeDeclaration grammar .beforeValue
  else if ← peek (.word "struct") then structItem grammar
  else if ← peek (.word "enum") then enumItem grammar
  else if (← peek (.word "union")) && follows .identifier then unionItem grammar
  else if ← peek (.word "trait") then traitOrAlias grammar
  else if (← peek (.word "auto")) && follows (.word "trait") then qualifiedTrait grammar
  else if (← peek (.word "impl")) || ((← peek (.word "default")) && !follows (.mark "!")) then
    unkeptItem (implementation grammar)
  else if ← peek (.word "macro") then unkeptItem definitionItem
  else if !visible && (← peekAny pathStart) then unkeptItem (invocationItem true)
  else expectedOneOf (memberStart itemWords !visible)

end RecordRegistry.Parser
