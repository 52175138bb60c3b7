/-
# Syntax errors

Why a text is not in the grammar and where.  A fault that is met where the input ends is reported
with a remark saying so, unless a single punctuation mark was wanted.
-/

import RecordRegistry.Token

namespace RecordRegistry

/-- What is wrong with a text. -/
inductive SyntaxFault
  /-- The text cannot be cut into tokens and matching delimiters. -/
  | unreadable
  /-- One of the alternatives was needed. -/
  | expected (alternatives : List String)
  /-- A name was needed, but the word is reserved. -/
  | reserved (word : String)
  /-- Tokens are left over before a group, or the text, ends. -/
  | leftover (within : Option Delimiter)
  /-- A construct that the grammar reads but does not allow here. -/
  | refused (message : String)
  deriving DecidableEq, Repr

/-- A fault, where it was met, and whether the input ended there. -/
structure SyntaxError where
  position : Position
  atEnd : Bool
  fault : SyntaxFault
  deriving DecidableEq, Repr

namespace SyntaxFault

/-- The words for a fault at a token. -/
def message : SyntaxFault → String
  | unreadable => "cannot parse string into token stream"
  | expected [] => "unexpected token"
  | expected [only] => "expected " ++ only
  | expected [first, second] => "expected " ++ first ++ " or " ++ second
  | expected alternatives => "expected one of: " ++ ", ".intercalate alternatives
  | reserved word => "expected identifier, found keyword `" ++ word ++ "`"
  | leftover none => "unexpected token"
  | leftover (some delimiter) =>
    "unexpected token, expected `" ++ String.singleton delimiter.closing ++ "`"
  | refused message => message

end SyntaxFault

namespace SyntaxError

/-- The words for an error. -/
def message (error : SyntaxError) : String :=
  match error.atEnd, error.fault with
  | false, fault => fault.message
  | true, .expected [] => "unexpected end of input"
  | true, fault => "unexpected end of input, " ++ fault.message

end SyntaxError

end RecordRegistry
