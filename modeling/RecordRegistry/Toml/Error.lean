/-
# Errors in a configuration text

An error names the innermost construct that was being read, what could have stood there, and the
cause if there is a particular one; each of the three may be missing.
-/

namespace RecordRegistry.Toml

/-- A range of bytes of a text. -/
structure Span where
  start : Nat
  stop : Nat
  deriving DecidableEq, Repr

/-- What is being read. -/
inductive Construct
  | key
  | tableHeader
  | array
  | inlineTable
  /-- A value that is none of the others. -/
  | string
  | basicString
  | literalString
  | multilineBasicString
  | multilineLiteralString
  | escapeSequence
  | shortCodePoint
  | longCodePoint
  | integer
  | hexadecimalInteger
  | octalInteger
  | binaryInteger
  | float
  | dateTime
  | time
  | timeOffset
  deriving DecidableEq, Repr

namespace Construct

/-- The name of a construct. -/
def text : Construct → String
  | key => "key"
  | tableHeader => "table header"
  | array => "array"
  | inlineTable => "inline table"
  | string => "string"
  | basicString => "basic string"
  | literalString => "literal string"
  | multilineBasicString => "multiline basic string"
  | multilineLiteralString => "multiline literal string"
  | escapeSequence => "escape sequence"
  | shortCodePoint => "unicode 4-digit hex code"
  | longCodePoint => "unicode 8-digit hex code"
  | integer => "integer"
  | hexadecimalInteger => "hexadecimal integer"
  | octalInteger => "octal integer"
  | binaryInteger => "binary integer"
  | float => "floating-point number"
  | dateTime => "date-time"
  | time => "time"
  | timeOffset => "time offset"

end Construct

/-- What could have stood at a place. -/
inductive Wanted
  | mark (spelling : String)
  | newline
  | digit
  | leadingDigit
  deriving DecidableEq, Repr

namespace Wanted

/-- How an error names what could have stood there. -/
def text : Wanted → String
  | mark spelling => "`" ++ spelling ++ "`"
  | newline => "newline"
  | digit => "digit"
  | leadingDigit => "leading digit"

end Wanted

/-- Where a key occurs twice. -/
inductive Occurrence
  /-- In the table with the given path. -/
  | inTable (path : List String)
  | unsaid
  deriving DecidableEq, Repr

/-- Why text that is well formed is refused. -/
inductive Cause
  | duplicateKey (key : String) (occurrence : Occurrence)
  /-- A path goes through something that is no table. -/
  | noTable (path : List String) (found : String)
  | outOfRange
  | tooDeep
  | tooLarge
  | tooSmall
  deriving DecidableEq, Repr

namespace Cause

/-- The words for a cause. -/
def text : Cause → String
  | duplicateKey key .unsaid => "duplicate key `" ++ key ++ "`"
  | duplicateKey key (.inTable []) => "duplicate key `" ++ key ++ "` in document root"
  | duplicateKey key (.inTable path) =>
    "duplicate key `" ++ key ++ "` in table `" ++ ".".intercalate path ++ "`"
  | noTable path found =>
    "dotted key `" ++ ".".intercalate path ++ "` attempted to extend non-table type (" ++ found ++ ")"
  | outOfRange => "value is out of range"
  | tooDeep => "recursion limit exceeded"
  | tooLarge => "number too large to fit in target type"
  | tooSmall => "number too small to fit in target type"

end Cause

/-- What is wrong at a place. -/
structure Fault where
  construct : Option Construct
  wanted : List Wanted
  cause : Option Cause
  deriving DecidableEq, Repr

namespace Fault

/-- A fault about which nothing is known. -/
def bare : Fault := ⟨none, [], none⟩

/-- The words for a fault: one line for each thing that is known. -/
def message (fault : Fault) : String :=
  let construct := fault.construct.toList.map fun construct => "invalid " ++ construct.text
  let wanted := if fault.wanted = [] then []
    else ["expected " ++ ", ".intercalate (fault.wanted.map Wanted.text)]
  "\n".intercalate (construct ++ wanted ++ fault.cause.toList.map Cause.text)

end Fault

end RecordRegistry.Toml
