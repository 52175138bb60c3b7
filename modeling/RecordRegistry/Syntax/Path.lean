/-
# Paths

A path is a sequence of names, some of which carry arguments between angle brackets.  This module
writes the tokens of a path and reads paths without arguments; `Syntax.Argument` reads the others.
-/

import RecordRegistry.Syntax.Grammar

namespace RecordRegistry

namespace Segment

/-- The tokens that write a segment. -/
def tokens (segment : Segment) : List TokenTree :=
  .name segment.name.spelling segment.name.position ::
    match segment.arguments with
    | .angled tokens => tokens
    | _ => []

end Segment

namespace Path

/-- Two colons. -/
def separator : List TokenTree :=
  [.mark ':' true Position.start, .mark ':' false Position.start]

/-- The tokens that write a path. -/
def tokens (path : Path) : List TokenTree :=
  (if path.rooted then separator else []) ++ separator.intercalate (path.segments.map Segment.tokens)

/-- Whether a path has no arguments. -/
def isPlain (path : Path) : Bool :=
  path.segments.all fun segment => segment.arguments matches .none

/-- Whether nothing follows the last name of a path. -/
def endsPlain (path : Path) : Bool :=
  path.segments.getLast?.any fun segment => segment.arguments matches .none

/-- The path whose last name is called with some arguments. -/
def parenthesizeLast (path : Path) : Path :=
  { path with
    segments := path.segments.dropLast ++
      path.segments.getLast?.toList.map ({ · with arguments := .parenthesized }) }

end Path

namespace Parser

/-- The words that may begin a path although they are reserved. -/
def pathWords : List String := ["super", "self", "Self", "crate"]

/-- Whether a path may begin here with one of the reserved words. -/
def peekPathWord : Parser Bool := peekAny (pathWords.map .word)

/-- The alternatives that begin a path. -/
def pathStart : List Sought :=
  [.identifier, .word "self", .word "super", .word "crate", .mark "::"]

/-- A path of names without arguments. -/
def modulePath : Parser Path := do
  let rooted ← accept (.mark "::")
  let first ← if ← peekName then anyName else identifier
  let others ← whileHolds (accept (.mark "::")) do
    if ← peekName then anyName else failHere (.refused "expected path segment after `::`")
  return ⟨rooted, (first :: others).map (⟨·, .none⟩)⟩
where
  peekName : Parser Bool := peekAny (.identifier :: pathWords.map .word)

end Parser

end RecordRegistry
