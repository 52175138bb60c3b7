/-
# What is wrong with a search pattern

A problem is a fault and the stretch of the pattern's text that has it.  It is told with the text of
the pattern and marks below that stretch; a pattern of several lines is shown as one.
-/

namespace RecordRegistry

/-- A stretch of the text of a pattern: how many characters come before it, and before what follows
it. -/
structure Stretch where
  start : Nat
  stop : Nat
  deriving DecidableEq, Repr

/-- What can be wrong with the text of a pattern. -/
inductive PatternFault
  | escapeInClass
  | classRange
  | classRangeEnd
  | unclosedClass
  | number
  | noHexDigits
  | noCharacter
  | hexDigit
  | unendedEscape
  | unknownEscape
  | danglingNegation
  | repeatedFlag
  | repeatedNegation
  | unendedFlags
  | unknownFlag
  | repeatedName
  | emptyName
  | nameCharacter
  | unendedName
  | unclosedGroup
  | unopenedGroup
  | countRange
  | noCount
  | unclosedCount
  | nothingRepeated
  | unclosedBoundary
  | unknownBoundary
  | unendedBoundary
  | property
  | unknownProperty
  | backReference
  | lookAround
  | notNarrow
  | notText
  deriving DecidableEq, Repr

namespace PatternFault

/-- The words for a fault. -/
def text : PatternFault → String
  | escapeInClass => "invalid escape sequence found in character class"
  | classRange => "invalid character class range, the start must be <= the end"
  | classRangeEnd => "invalid range boundary, must be a literal"
  | unclosedClass => "unclosed character class"
  | number => "decimal literal invalid"
  | noHexDigits => "hexadecimal literal empty"
  | noCharacter => "hexadecimal literal is not a Unicode scalar value"
  | hexDigit => "invalid hexadecimal digit"
  | unendedEscape => "incomplete escape sequence, reached end of pattern prematurely"
  | unknownEscape => "unrecognized escape sequence"
  | danglingNegation => "dangling flag negation operator"
  | repeatedFlag => "duplicate flag"
  | repeatedNegation => "flag negation operator repeated"
  | unendedFlags => "expected flag but got end of regex"
  | unknownFlag => "unrecognized flag"
  | repeatedName => "duplicate capture group name"
  | emptyName => "empty capture group name"
  | nameCharacter => "invalid capture group character"
  | unendedName => "unclosed capture group name"
  | unclosedGroup => "unclosed group"
  | unopenedGroup => "unopened group"
  | countRange => "invalid repetition count range, the start must be <= the end"
  | noCount => "repetition quantifier expects a valid decimal"
  | unclosedCount => "unclosed counted repetition"
  | nothingRepeated => "repetition operator missing expression"
  | unclosedBoundary =>
    "special word boundary assertion is either unclosed or contains an invalid character"
  | unknownBoundary =>
    "unrecognized special word boundary assertion, valid choices are: start, end, start-half " ++
      "or end-half"
  | unendedBoundary =>
    "found either the beginning of a special word boundary or a bounded repetition on a \\b " ++
      "with an opening brace, but no closing brace"
  | property => "invalid Unicode character class"
  | unknownProperty => "Unicode property not found"
  | backReference => "backreferences are not supported"
  | lookAround => "look-around, including look-ahead and look-behind, is not supported"
  | notNarrow => "Unicode not allowed here"
  | notText => "pattern can match invalid UTF-8"

end PatternFault

/-- A fault and where it is, and what it clashes with, if there is such a thing. -/
structure PatternProblem where
  fault : PatternFault
  stretch : Stretch
  other : Option Stretch
  deriving DecidableEq, Repr

namespace PatternProblem

/-- Marks below a line, under the stretches of columns given from left to right. -/
def carets (column : Nat) : List (Nat × Nat) → List Char
  | [] => []
  | (start, stop) :: others =>
    let start := max column start
    let stop := max (start + 1) stop
    List.replicate (start - column) ' ' ++ List.replicate (stop - start) '^' ++
      carets stop others

/-- What is told about a problem: the text of the pattern with marks below what is wrong, and what
it is. -/
def text (problem : PatternProblem) (pattern : String) : String :=
  let stretches := (problem.stretch :: problem.other.toList).map fun stretch =>
    (stretch.start, stretch.stop)
  let ordered := stretches.mergeSort fun first second => first.1 ≤ second.1
  "regex parse error:\n    " ++ pattern ++ "\n    " ++ String.ofList (carets 0 ordered) ++
    "\nerror: " ++ problem.fault.text

end PatternProblem

end RecordRegistry
