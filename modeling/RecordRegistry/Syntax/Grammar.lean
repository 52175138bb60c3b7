/-
# The knot of the grammar

Types, patterns, expressions, statements and items refer to each other.  A production that needs
one of the others takes it from a `Grammar`; the grammar that a production is given can nest a
little less deeply than the one it belongs to, so that the whole is a function on the depth.

A binary operator is read as the longest sequence of marks that stands here, with the assigning ones
first.
-/

import RecordRegistry.Syntax.Stream

namespace RecordRegistry

/-- How strongly an operator binds, weakest first. -/
inductive Precedence
  | lowest
  | assign
  | range
  | or
  | and
  | compare
  | bitOr
  | bitXor
  | bitAnd
  | shift
  | sum
  | product
  | cast
  deriving DecidableEq, Repr

namespace Precedence

/-- The place of a precedence in the order. -/
def rank : Precedence → Nat
  | lowest => 0
  | assign => 1
  | range => 2
  | or => 3
  | and => 4
  | compare => 5
  | bitOr => 6
  | bitXor => 7
  | bitAnd => 8
  | shift => 9
  | sum => 10
  | product => 11
  | cast => 12

end Precedence

/-- The binary operators with their precedence, in the order in which they are looked for. -/
def binaryOperators : List (String × Precedence) :=
  [("+=", .assign), ("-=", .assign), ("*=", .assign), ("/=", .assign), ("%=", .assign),
    ("^=", .assign), ("&=", .assign), ("|=", .assign), ("<<=", .assign), (">>=", .assign),
    ("&&", .and), ("||", .or), ("<<", .shift), (">>", .shift), ("==", .compare), ("<=", .compare),
    ("!=", .compare), (">=", .compare), ("+", .sum), ("-", .sum), ("*", .product),
    ("/", .product), ("%", .product), ("^", .bitXor), ("&", .bitAnd), ("|", .bitOr),
    ("<", .compare), (">", .compare)]

/-- The binary operator at the front of a sequence. -/
def binaryOperator? (rest : List TokenTree) : Option (String × Precedence) :=
  binaryOperators.find? fun operator => (Sought.mark operator.1).isAt rest

/-- The precedence of whatever joins two operands at the front of a sequence, or the lowest if
nothing does. -/
def joiningPrecedence (rest : List TokenTree) : Precedence :=
  match binaryOperator? rest with
  | some (_, precedence) => precedence
  | none =>
    if (Sought.mark "=").isAt rest && !(Sought.mark "=>").isAt rest then .assign
    else if (Sought.mark "..").isAt rest then .range
    else if (Sought.word "as").isAt rest then .cast
    else .lowest

/-- What a bound may be besides a trait and a lifetime. -/
structure BoundRules where
  /-- The list of the parameters that a type captures. -/
  captures : Bool
  /-- A trait in a constant context. -/
  constants : Bool

/-- What is kept of a bound. -/
inductive Bound
  | trait
  | lifetime (position : Position)
  | captures (position : Position)
  /-- A bound whose tokens are kept without a meaning. -/
  | unread
  deriving DecidableEq, Repr

/-- The productions that other productions refer to. -/
structure Grammar where
  /-- A type, which may be a sum of bounds if `plus` is set. -/
  typeExpression (plus : Bool) : Parser TypeExpression
  bound (rules : BoundRules) : Parser Bound
  /-- An expression. Without `structs` a brace does not continue a path. -/
  expression (structs : Bool) : Parser Expression
  /-- An expression without binary operators. -/
  operand (structs : Bool) : Parser Expression
  /-- The binary operators that follow a first operand and bind at least as strongly as asked. -/
  operators (first : Expression) (structs : Bool) (weakest : Precedence) : Parser Expression
  /-- An expression as a statement or in a match arm. -/
  bounded : Parser Expression
  /-- One pattern without alternatives. -/
  pattern : Parser Pattern
  /-- The statements of a block. -/
  statements : Parser (List Statement)
  /-- An item after its attributes. -/
  item : Parser Item
  /-- What a use declaration names. -/
  importTree (rooted : Bool) : Parser Unit

namespace Grammar

/-- The grammar that cannot nest any deeper. -/
def exhausted : Grammar where
  typeExpression _ := Parser.failHere (.expected [])
  bound _ := Parser.failHere (.expected [])
  expression _ := Parser.failHere (.expected [])
  operand _ := Parser.failHere (.expected [])
  operators _ _ _ := Parser.failHere (.expected [])
  bounded := Parser.failHere (.expected [])
  pattern := Parser.failHere (.expected [])
  statements := Parser.failHere (.expected [])
  item := Parser.failHere (.expected [])
  importTree _ := Parser.failHere (.expected [])

end Grammar

end RecordRegistry
