/-
# Streams of token trees

A parser reads the token trees of one scope, which is the whole text or the content of a group.
It either yields a value and what remains or fails with a `SyntaxError`; nothing that it read is
lost when it is tried and found wanting, because a stream is a value.  A group whose content is
not read to its end does not fail at once: the first such place is noted as stray and fails the
text only if nothing else does.
-/

import RecordRegistry.Syntax.Error
import RecordRegistry.Syntax.Number
import RecordRegistry.Syntax.Tree

namespace RecordRegistry

/-- The words that are not identifiers. -/
def reservedWords : List String :=
  ["_", "abstract", "as", "async", "await", "become", "box", "break", "const", "continue", "crate",
    "do", "dyn", "else", "enum", "extern", "false", "final", "fn", "for", "if", "impl", "in", "let",
    "loop", "macro", "match", "mod", "move", "mut", "override", "priv", "pub", "ref", "return",
    "Self", "self", "static", "struct", "super", "trait", "true", "try", "type", "typeof", "unsafe",
    "unsized", "use", "virtual", "where", "while", "yield"]

/-- Whether a word is reserved. -/
def isReserved (word : String) : Bool := reservedWords.contains word

/-- What encloses the tokens that are being read: where they end, and the delimiter that closes
them, if any. -/
structure Scope where
  closing : Position
  delimiter : Option Delimiter
  deriving Repr

/-- What remains to be read. -/
structure Stream where
  rest : List TokenTree
  scope : Scope
  /-- The first place where a group held more than was read. -/
  stray : Option SyntaxError
  /-- The items met inside expressions, in the order of the text. -/
  found : List Item

namespace Stream

/-- Where the next token stands, or where the scope ends. -/
def position (stream : Stream) : Position :=
  match stream.rest with
  | tree :: _ => tree.position
  | [] => stream.scope.closing

/-- The error for tokens that are left over when their scope has been read. -/
def leftover? (stream : Stream) : Option SyntaxError :=
  stream.rest.head?.map fun tree => ⟨tree.position, false, .leftover stream.scope.delimiter⟩

end Stream

/-- What a parser may look for. -/
inductive Sought
  /-- A name that is not reserved. -/
  | identifier
  /-- A name, reserved or not. -/
  | anyName
  | word (spelling : String)
  | mark (spelling : String)
  | lifetime
  /-- A literal, which may be a negative number. -/
  | literal
  | string
  | opened (delimiter : Delimiter)
  deriving DecidableEq, Repr

namespace Sought

/-- How an error names what was sought. -/
def text : Sought → String
  | identifier => "identifier"
  | anyName => "identifier"
  | word spelling => "`" ++ spelling ++ "`"
  | mark spelling => "`" ++ spelling ++ "`"
  | lifetime => "lifetime"
  | literal => "literal"
  | string => "string literal"
  | opened .parenthesis => "parentheses"
  | opened .bracket => "square brackets"
  | opened .brace => "curly braces"

/-- Whether the marks stand at the front, each joined to the next. -/
def startsWithMarks : List Char → List TokenTree → Bool
  | [], _ => true
  | [wanted], .mark character _ _ :: _ => character == wanted
  | wanted :: more, .mark character joint _ :: rest =>
    character == wanted && joint && startsWithMarks more rest
  | _, _ => false

/-- Whether a literal is spelled like a string. -/
def isString (spelling : String) : Bool :=
  match spelling.toList with
  | '\x22' :: _ => true
  | 'r' :: _ => true
  | _ => false

/-- The number of trees that match at the front of a sequence, none if nothing does. -/
def matched? : Sought → List TokenTree → Option Nat
  | identifier, .name spelling _ :: _ => if isReserved spelling then none else some 1
  | anyName, .name _ _ :: _ => some 1
  | word wanted, .name spelling _ :: _ => if spelling = wanted then some 1 else none
  | mark wanted, rest => if startsWithMarks wanted.toList rest then some wanted.length else none
  | lifetime, .mark '\x27' true _ :: .name _ _ :: _ => some 2
  | literal, .literal _ _ :: _ => some 1
  | literal, .name spelling _ :: _ =>
    if spelling = "true" || spelling = "false" then some 1 else none
  | literal, .mark '-' _ _ :: .literal spelling _ :: _ =>
    if Literal.isNumber spelling.toList then some 2 else none
  | string, .literal spelling _ :: _ => if isString spelling then some 1 else none
  | opened wanted, .group delimiter _ _ _ :: _ => if delimiter = wanted then some 1 else none
  | _, _ => none

/-- Whether what is sought stands at the front of a sequence. -/
def isAt (sought : Sought) (rest : List TokenTree) : Bool := (sought.matched? rest).isSome

end Sought

/-- The sequence without its first tree; a lifetime counts as one. -/
def afterTree : List TokenTree → List TokenTree
  | .mark '\x27' true _ :: .name _ _ :: rest => rest
  | _ :: rest => rest
  | [] => []

/-- A parser turns a stream into a value and what remains of the stream, or fails. -/
abbrev Parser := StateT Stream (Except SyntaxError)

namespace Parser

/-- Fails at the next token. An error where the input ends says so. -/
def failHere {α : Type} (fault : SyntaxFault) : Parser α := do
  let stream ← get
  throw ⟨stream.position, stream.rest.isEmpty, fault⟩

/-- Fails at a place. -/
def failAt {α : Type} (position : Position) (message : String) : Parser α :=
  throw ⟨position, false, .refused message⟩

/-- Fails because none of the alternatives stands here. Those that do are not named. -/
def expectedOneOf {α : Type} (alternatives : List Sought) : Parser α := do
  let stream ← get
  failHere (.expected ((alternatives.filter fun sought => !sought.isAt stream.rest).map Sought.text))

/-- Where the next token stands. -/
def here : Parser Position := return (← get).position

/-- Whether the scope has been read to its end. -/
def atEnd : Parser Bool := return (← get).rest.isEmpty

/-- Whether what is sought comes next. -/
def peek (sought : Sought) : Parser Bool := return sought.isAt (← get).rest

/-- Whether one of the alternatives comes next. -/
def peekAny (alternatives : List Sought) : Parser Bool := do
  let rest := (← get).rest
  return alternatives.any (·.isAt rest)

/-- Whether what is sought comes after the next tree. -/
def peekSecond (sought : Sought) : Parser Bool := return sought.isAt (afterTree (← get).rest)

/-- Whether what is sought comes after the next two trees. -/
def peekThird (sought : Sought) : Parser Bool :=
  return sought.isAt (afterTree (afterTree (← get).rest))

/-- Whether the first comes next, and not as the beginning of the second. -/
def peekBut (sought except : Sought) : Parser Bool :=
  return (← peek sought) && !(← peek except)

/-- Takes what is sought if it comes next, and tells whether it did. -/
def accept (sought : Sought) : Parser Bool := do
  let stream ← get
  match sought.matched? stream.rest with
  | some count =>
    set { stream with rest := stream.rest.drop count }
    return true
  | none => return false

/-- Takes the first of the alternatives that comes next, and tells whether one did. -/
def acceptAny : List Sought → Parser Bool
  | [] => return false
  | sought :: others => do
    if ← accept sought then return true
    acceptAny others

/-- Takes what has to come next. An error about a mark does not say that the input ended. -/
def require (sought : Sought) : Parser Unit := do
  unless ← accept sought do
    match sought with
    | .mark _ => throw ⟨← here, false, .expected [sought.text]⟩
    | _ => failHere (.expected [sought.text])

/-- Takes a name, reserved or not. -/
def anyName : Parser Name := do
  let stream ← get
  match stream.rest with
  | .name spelling position :: rest =>
    set { stream with rest }
    return ⟨spelling, position⟩
  | _ => failHere (.expected ["ident"])

/-- Takes a name that is not reserved. -/
def identifier : Parser Name := do
  match (← get).rest with
  | .name spelling _ :: _ =>
    if isReserved spelling then failHere (.reserved spelling) else anyName
  | _ => failHere (.expected ["identifier"])

/-- Takes a name that is not reserved, or one of the given words. -/
def identifierOr (words : List String) : Parser Name := do
  if ← peekAny (words.map .word) then anyName else identifier

/-- Takes a group of the given kind and reads its content. -/
def within {α : Type} (delimiter : Delimiter) (content : Parser α) : Parser α := do
  let stream ← get
  match stream.rest with
  | .group actual _ closing inside :: rest =>
    if actual = delimiter then
      set { stream with rest := inside, scope := ⟨closing, some delimiter⟩ }
      let value ← content
      modify fun inner =>
        { inner with
          rest
          scope := stream.scope
          stray := inner.stray <|> inner.leftover? }
      return value
    else failHere (.expected [(Sought.opened delimiter).text])
  | _ => failHere (.expected [(Sought.opened delimiter).text])

/-- Takes a group of any kind without reading its content. -/
def anyGroup : Parser (Delimiter × List TokenTree) := do
  let stream ← get
  match stream.rest with
  | .group delimiter _ _ inside :: rest =>
    set { stream with rest }
    return (delimiter, inside)
  | _ => failHere (.expected ["delimiter"])

/-- Takes everything up to the end of the scope. -/
def everything : Parser Unit := modify fun stream => { stream with rest := [] }

/-- What a parser would yield here, without taking anything; none if it would fail. -/
def ahead? {α : Type} (parser : Parser α) : Parser (Option (α × Stream)) := do
  match parser.run (← get) with
  | .ok result => return some result
  | .error _ => return none

/-- Forgets the items met while a parser ran. -/
def withoutItems {α : Type} (parser : Parser α) : Parser α := do
  let found := (← get).found
  let value ← parser
  modify ({ · with found })
  return value

/-- A parser's value together with the tokens that it took. -/
def withTokens {α : Type} (parser : Parser α) : Parser (α × List TokenTree) := do
  let before := (← get).rest
  let value ← parser
  return (value, before.take (before.length - (← get).rest.length))

/-- Repeats a step at most `count` times, until it yields nothing. -/
def repeatUpTo {α : Type} (step : Parser (Option α)) : Nat → Parser (List α)
  | 0 => return []
  | count + 1 => do
    match ← step with
    | some value => return value :: (← repeatUpTo step count)
    | none => return []

/-- Repeats a step until it yields nothing. A step that yields a value takes a token, so the number
of tokens bounds the steps. -/
def many {α : Type} (step : Parser (Option α)) : Parser (List α) := do
  repeatUpTo step ((← get).rest.length + 1)

/-- Repeats a parser while a test holds. -/
def whileHolds {α : Type} (test : Parser Bool) (parser : Parser α) : Parser (List α) :=
  many do if ← test then some <$> parser else return none

/-- Repeats a parser up to the end of the scope. -/
def untilEnd {α : Type} (parser : Parser α) : Parser (List α) :=
  whileHolds (return !(← atEnd)) parser

/-- Values with a separator between them and optionally after the last, up to where the test
holds. -/
def separatedUntil {α : Type} (separator : Sought) (stop : Parser Bool) (parser : Parser α) :
    Parser (List α) := do
  repeatFrom true ((← get).rest.length + 1)
where
  repeatFrom (first : Bool) : Nat → Parser (List α)
    | 0 => return []
    | count + 1 => do
      if ← stop then return []
      unless first do
        require separator
        if ← stop then return []
      return (← parser) :: (← repeatFrom false count)

/-- Values up to where the test holds or no separator follows; a separator may follow the last. -/
def joinedUntil {α : Type} (separator : Sought) (stop : Parser Bool) (parser : Parser α) :
    Parser (List α) := do
  joinUpTo ((← get).rest.length + 1)
where
  joinUpTo : Nat → Parser (List α)
    | 0 => return []
    | count + 1 => do
      if ← stop then return []
      let value ← parser
      if ← accept separator then return value :: (← joinUpTo count) else return [value]

/-- Values with commas between them up to the end of the scope; a comma may follow the last. -/
def commaList {α : Type} (parser : Parser α) : Parser (List α) :=
  separatedUntil (.mark ",") atEnd parser

/-- Runs a parser on the trees of a scope, which it has to read to its end. -/
def runWithin {α : Type} (parser : Parser α) (scope : Scope) (trees : List TokenTree) :
    Except SyntaxError (α × List Item) := do
  let (value, stream) ← parser.run ⟨trees, scope, none, []⟩
  match stream.stray <|> stream.leftover? with
  | some error => throw error
  | none => return (value, stream.found)

end Parser

end RecordRegistry
