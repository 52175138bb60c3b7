/-
# What the parser keeps

The grammar is accepted in full, but little of it is kept: the items of a file with their names,
and of expressions and types what a reader of registries looks at.  Everything else is checked
and forgotten.
-/

import RecordRegistry.Token

namespace RecordRegistry

/-- A name as it is spelled, and where it stands. -/
structure Name where
  spelling : String
  position : Position
  deriving DecidableEq, Repr

/-- What follows the name of a path segment. -/
inductive Arguments
  | none
  /-- Arguments between angle brackets, with the tokens that write them. -/
  | angled (tokens : List TokenTree)
  /-- The arguments and result of a callable bound. -/
  | parenthesized
  deriving Repr

/-- One segment of a path. -/
structure Segment where
  name : Name
  arguments : Arguments
  deriving Repr

/-- A path, and whether it starts at the root of all names. -/
structure Path where
  rooted : Bool
  segments : List Segment
  deriving Repr

/-- What is kept of a type. -/
inductive TypeExpression
  /-- A plain path, and whether it starts from a bracketed type. -/
  | path (qualified : Bool) (path : Path)
  /-- A type between parentheses, with whether it may begin a sum of bounds. -/
  | parenthesized
  /-- Bounds without a leading word. The flag tells whether there is exactly one bound. -/
  | bounds (single : Bool)
  | other
  deriving Repr

/-- What is kept of an expression. -/
inductive Expression
  | call (callee : Expression) (arguments : List Expression)
  /-- A path, with the bracketed type that it starts from, if any. -/
  | path (start : Option TypeExpression) (path : Path)
  /-- The use of a textual definition on some tokens. -/
  | invocation (delimiter : Delimiter) (content : List TokenTree)
  /-- Two operands that are compared. -/
  | comparison
  | range
  /-- A block, or a construct that ends in one and needs no separator after it. -/
  | block
  /-- A construct whose tokens are kept without a meaning. -/
  | unread
  | other
  deriving Repr

/-- What is kept of a pattern. -/
inductive Pattern
  /-- Two dots alone. -/
  | rest
  /-- A range without one of its ends, with the place of its dots. -/
  | openRange (dots : Position)
  | other
  deriving DecidableEq, Repr

/-- What is kept of a statement. -/
inductive Statement
  /-- The use of a textual definition on some tokens. -/
  | invocation (content : List TokenTree)
  | other
  deriving Repr

/-- How the fields of a struct are declared. -/
inductive FieldStyle
  | named
  | positional
  | unit
  deriving DecidableEq, Repr

/-- An item of a file or a block. -/
inductive Item
  | struct (name : Name) (parameters : Nat) (fields : FieldStyle)
  | enum (name : Name)
  | union (name : Name)
  | alias (name : Name)
  | trait (name : Name)
  | traitAlias (name : Name)
  | function (name : Name) (body : List Statement)
  | other
  deriving Repr

/-- A file: its items, and the items that stand inside the attributes of the file itself. -/
structure SourceFile where
  inAttributes : List Item
  items : List Item
  deriving Repr

end RecordRegistry
