/-
# Spacing of raw tokens

How a sequence of tokens that is not parsed any further is written: which tokens have a blank
between them.  Each such blank may end the line.  The rule looks at one token after the other and
keeps what it needs to know of the earlier ones in a small state.
-/

import RecordRegistry.Layout
import RecordRegistry.Token

namespace RecordRegistry

namespace Spacing

open Layout (Document Break)

/-- What the tokens before a place amount to. -/
inductive State
  | start
  | dollar
  | repetition
  | repetitionSeparator
  | pound
  | poundBang
  | dot
  | colon
  | colons
  /-- After a name or a literal. -/
  | name
  | nameBang
  /-- After a closing delimiter. -/
  | group
  | other
  deriving DecidableEq, Repr

/-- The words that are not spaced as names. -/
def spacedWords : List String :=
  ["as", "async", "await", "box", "break", "const", "continue", "crate", "dyn", "else", "enum",
    "extern", "fn", "for", "if", "impl", "in", "let", "loop", "macro", "match", "mod", "move", "mut",
    "pub", "ref", "return", "static", "struct", "trait", "type", "unsafe", "use", "where", "while",
    "yield"]

/-- Whether a blank belongs before a token, and the state after it. -/
def step (state : State) (token : TokenTree) : Bool × State :=
  match state, token with
  | .dollar, .name _ _ => (false, .other)
  | .dollar, .group .parenthesis _ _ _ => (false, .repetition)
  | .repetition, .mark character false _ =>
    if ['+', '*', '?'].contains character then (false, .other) else (false, .repetitionSeparator)
  | .repetition, .mark _ true _ => (false, .repetition)
  | .repetition, .name _ _ => (false, .repetitionSeparator)
  | .repetition, .literal _ _ => (false, .repetitionSeparator)
  | .repetitionSeparator, .mark '+' _ _ => (false, .other)
  | .repetitionSeparator, .mark '*' _ _ => (false, .other)
  | .pound, .mark '!' _ _ => (false, .poundBang)
  | .pound, .group .bracket _ _ _ => (false, .other)
  | .poundBang, .group .bracket _ _ _ => (false, .other)
  | .name, .group .parenthesis _ _ _ => (false, .group)
  | .name, .group .bracket _ _ _ => (false, .group)
  | .name, .mark '!' false _ => (false, .nameBang)
  | .nameBang, .group .parenthesis _ _ _ => (false, .other)
  | .nameBang, .group .bracket _ _ _ => (false, .other)
  | .colon, .mark ':' _ _ => (false, .colons)
  | _, .group .brace _ _ _ => (true, .other)
  | _, .group _ _ _ _ => (true, .group)
  | _, .name spelling _ =>
    if spacedWords.contains spelling then (true, .other)
    else (state ≠ .dot && state ≠ .colons, .name)
  | _, .literal spelling _ =>
    (state ≠ .dot, if spelling.toList.getLast? = some '.' then .other else .name)
  | _, .mark character joint _ =>
    if character = ',' || character = ';' then (false, .other)
    else if character = '.' then (state ≠ .name && state ≠ .group, .dot)
    else if character = ':' && joint then (state ≠ .name, .colon)
    else if character = '$' then (true, .dollar)
    else if character = '#' then (true, .pound)
    else (true, .other)

/-- Whether a token is written against the next one whatever that is. -/
def isJoined : TokenTree → Bool
  | .mark character joint _ => joint || character = '$'
  | _ => false

/-- What stands between a token and the one before it. -/
def gap (joined blank : Bool) (token : TokenTree) : List Document :=
  if joined then []
  else if blank then [.gap .space]
  else
    match token with
    | .mark '.' _ _ => [.gap (.empty 0)]
    | _ => []

mutual

/-- One token as it is written. -/
def written : TokenTree → List Document
  | .name spelling _ => [.text spelling]
  | .mark character _ _ => [.text (String.singleton character)]
  | .literal spelling _ => [.text spelling]
  | .group delimiter _ _ content =>
    let inside := if content.isEmpty then []
      else if delimiter = .brace then .gap .space :: sequence .start true content ++ [.gap .space]
      else sequence .start true content
    .text (String.singleton delimiter.opening) :: inside ++
      [.text (String.singleton delimiter.closing)]

/-- Tokens as they are written. `joined` tells whether the first one is written against what comes
before it. -/
def sequence (state : State) (joined : Bool) : List TokenTree → List Document
  | [] => []
  | token :: rest =>
    let (blank, next) := step state token
    gap joined blank token ++ written token ++ sequence next (isJoined token) rest

end

/-- Tokens as they are written. -/
def documents (tokens : List TokenTree) : List Document := sequence .start true tokens

end Spacing

end RecordRegistry
