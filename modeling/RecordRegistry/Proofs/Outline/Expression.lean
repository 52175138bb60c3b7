/-
# Patterns and expressions in outlines

A type that is declared in an expression stands in the braces of a block, so that no part of an
expression outside of groups declares one.
-/

import Mathlib
import RecordRegistry.Syntax.Operand
import RecordRegistry.Proofs.Outline.Type

namespace RecordRegistry

open Std.Do Outline

set_option mvcgen.warning false

namespace Parser

attribute [local simp] Allowed edgeAfter Scan.after Scan.Passes Scan.neutralMarks typeWords
  isReserved reservedWords

variable {target : Target} {edge : Edge} {grammar : Grammar}

@[spec 2000] theorem skips_member : Skips target .clear .ragged none member := by
  simp only [member, accept_eq]
  mvcgen with simp_all

@[spec 2000] theorem skips_rangeDots : Skips target .ragged .clear none rangeDots := by
  simp only [rangeDots, accept_eq]
  mvcgen with simp_all

@[spec 2000] theorem skips_patternDots : Skips target .ragged .clear none patternDots := by
  simp only [patternDots, accept_eq]
  mvcgen with simp_all

@[spec 2000] theorem skips_constantBlock :
    Skips target .ragged .clear none (constantBlock grammar) := by
  unfold constantBlock body
  mvcgen with simp_all

variable [grammar.Skips]

@[spec 2000] theorem skips_patternEnd : Skips target .clear .ragged none (patternEnd grammar) := by
  unfold patternEnd
  mvcgen with (first | exact .of_clear ‹_› | simp_all)

@[spec 2000] theorem skips_upperEnd (inclusive : Bool) :
    Skips target .clear .ragged none (upperEnd grammar inclusive) := by
  unfold upperEnd
  mvcgen

@[spec 2000] theorem skips_patternRange :
    Skips target .ragged .ragged none (patternRange grammar) := by
  unfold patternRange
  mvcgen

@[spec 2000] theorem skips_patternAlternatives :
    Skips target .clear .ragged none (patternAlternatives grammar) := by
  have others : Skips target .ragged .ragged none (whileHolds
      (do return (← peek (.mark "|")) && !(← peekAny [.mark "||", .mark "|="])) do
        require (.mark "|")
        grammar.pattern) := by
    refine skips_whileHolds ?_
    mvcgen with simp_all
  simp only [patternAlternatives, accept_eq]
  mvcgen [others, -stays_whileHolds] with simp_all

@[spec 2000] theorem skips_pathPattern :
    Skips target .clear .ragged none (pathPattern grammar) := by
  unfold pathPattern
  mvcgen with simp_all

@[spec 2000] theorem skips_literalPattern :
    Skips target .clear .ragged none (literalPattern grammar) := by
  unfold literalPattern
  mvcgen

@[spec 2000] theorem skips_namePattern :
    Skips target .clear .ragged none (namePattern grammar) := by
  simp only [namePattern, accept_eq (.mark _)]
  mvcgen with simp_all

@[spec 2000] theorem skips_dotsPattern :
    Skips target .ragged .ragged none (dotsPattern grammar) := by
  unfold dotsPattern
  mvcgen

@[spec 2000] theorem skips_peekPathPattern :
    Skips target edge edge none peekPathPattern := by
  unfold peekPathPattern
  mvcgen

@[spec 2000] theorem skips_pattern : Skips target .clear .ragged none (pattern grammar) := by
  unfold pattern withoutItems
  mvcgen with (first | exact .of_clear ‹_› | simp_all)

theorem binaryOperator?_plain {rest : List TokenTree} {marks : String} {precedence : Precedence}
    (found : binaryOperator? rest = some (marks, precedence)) :
    marks ≠ "" ∧ '\x27' ∉ marks.toList := by
  have plain : ∀ operator ∈ binaryOperators, operator.1 ≠ "" ∧ '\x27' ∉ operator.1.toList := by
    decide
  exact plain _ (List.mem_of_find?_eq_some found)

@[spec 2000] theorem skips_peekExpression : Skips target edge edge none peekExpression := by
  unfold peekExpression
  mvcgen

@[spec 2000] theorem skips_peekRangeEnd (structs : Bool) :
    Skips target edge edge none (peekRangeEnd structs) := by
  unfold peekRangeEnd
  mvcgen

@[spec 2000] theorem skips_checkAfterConversion :
    Skips target edge edge none checkAfterConversion := by
  unfold checkAfterConversion checkAfterConversion.refuse
  mvcgen with simp_all

theorem skips_rightOperandFrom (structs : Bool) (precedence : Precedence) (first : Expression)
    (count : Nat) :
    Skips target .ragged .ragged none
      (rightOperand.go grammar structs precedence first count) := by
  induction count generalizing first with
  | zero =>
      unfold rightOperand.go
      mvcgen
  | succ count ih =>
      unfold rightOperand.go
      mvcgen [ih]

@[spec 2000] theorem skips_rightOperand (structs : Bool) (precedence : Precedence) :
    Skips target .clear .ragged none (rightOperand grammar structs precedence) := by
  unfold rightOperand
  mvcgen [skips_rightOperandFrom]

@[spec 2000] theorem skips_rangeFromDots (structs : Bool) :
    Skips target .ragged .ragged none (rangeFromDots grammar structs) := by
  unfold rangeFromDots
  mvcgen with simp_all

@[spec 2000] theorem skips_operatorStep (first : Expression) (structs : Bool)
    (weakest : Precedence) :
    Skips target .ragged .ragged none (operatorStep grammar first structs weakest) := by
  unfold operatorStep
  mvcgen with simp_all
  all_goals exact binaryOperator?_plain ‹_›

theorem skips_operatorsFrom (structs : Bool) (weakest : Precedence) (first : Expression)
    (count : Nat) :
    Skips target .ragged .ragged none (operators.go grammar structs weakest first count) := by
  induction count generalizing first with
  | zero =>
      unfold operators.go
      mvcgen
  | succ count ih =>
      unfold operators.go
      mvcgen [ih]

@[spec 2000] theorem skips_operators (first : Expression) (structs : Bool)
    (weakest : Precedence) :
    Skips target .ragged .ragged none (operators grammar first structs weakest) := by
  unfold operators
  mvcgen [skips_operatorsFrom]

@[spec 2000] theorem skips_expression (structs : Bool) :
    Skips target .clear .ragged none (expression grammar structs) := by
  unfold expression
  mvcgen

@[spec 2000] theorem skips_peekFraction : Skips target edge edge none peekFraction := by
  unfold peekFraction
  mvcgen

@[spec 2000] theorem skips_numberedFields (fraction : Fraction) :
    Skips target edge edge none (numberedFields fraction) := by
  unfold numberedFields
  mvcgen with simp_all

omit [grammar.Skips] in
@[spec 2000] theorem skips_arguments :
    Skips target .ragged .clear none (arguments grammar) := by
  unfold arguments
  mvcgen

@[spec 2000] theorem skips_selection : Skips target .clear .ragged none (selection grammar) := by
  simp only [selection, accept_eq]
  mvcgen with (first | exact .of_clear ‹_› | simp_all)

@[spec 2000] theorem skips_trailerStep (first : Expression) :
    Skips target .ragged .ragged none (trailerStep grammar first) := by
  simp only [trailerStep, accept_eq]
  mvcgen with simp_all

theorem skips_trailersFrom (first : Expression) (count : Nat) :
    Skips target .ragged .ragged none (trailers.go grammar first count) := by
  induction count generalizing first with
  | zero =>
      unfold trailers.go
      mvcgen
  | succ count ih =>
      unfold trailers.go
      mvcgen [ih]

@[spec 2000] theorem skips_trailers (first : Expression) :
    Skips target .ragged .ragged none (trailers grammar first) := by
  unfold trailers
  mvcgen [skips_trailersFrom]

@[spec 2000] theorem skips_closureParameter :
    Skips target .clear .ragged none (closureParameter grammar) := by
  simp only [closureParameter, accept_eq]
  mvcgen with simp_all

@[spec 2000] theorem skips_closure (structs : Bool) :
    Skips target .clear .ragged none (closure grammar structs) := by
  have parameters := @skips_separatedUntil _ target none (.mark ",") (peek (.mark "|")) _
    (skips_separator (by simp) rfl rfl) (fun _ => by mvcgen)
    (@skips_closureParameter target grammar _)
  unfold closure block
  mvcgen [parameters, -stays_separatedUntil] with simp_all

@[spec 2000] theorem skips_pathExpression (structs : Bool) :
    Skips target .clear .ragged none (pathExpression grammar structs) := by
  unfold pathExpression
  mvcgen with simp_all

omit [grammar.Skips] in
@[spec 2000] theorem skips_parenthesizedExpression :
    Skips target .ragged .clear none (parenthesizedExpression grammar) := by
  unfold parenthesizedExpression
  mvcgen

theorem skips_conditionalUpTo (count : Nat) :
    Skips target .clear .clear none (conditional.go grammar count) := by
  induction count with
  | zero =>
      unfold conditional.go
      mvcgen
  | succ count ih =>
      unfold conditional.go
      simp only [accept_eq, block]
      mvcgen [ih]
      all_goals simp_all

@[spec 2000] theorem skips_conditional :
    Skips target .clear .clear none (conditional grammar) := by
  unfold conditional
  mvcgen [skips_conditionalUpTo]

omit [grammar.Skips] in
/-- Of a head and a block only the head can be seen. -/
@[spec 2000] theorem skips_headAndBody {α : Type} {head : Parser Unit} {content : Parser α}
    (skips : Skips target .clear .ragged none head) :
    Skips target .clear .clear none (headAndBody grammar head content) := by
  unfold headAndBody
  mvcgen [skips]

@[spec 2000] theorem skips_whileLoop : Skips target .clear .clear none (whileLoop grammar) := by
  unfold whileLoop
  mvcgen with simp_all

@[spec 2000] theorem skips_forLoop : Skips target .clear .clear none (forLoop grammar) := by
  unfold forLoop
  mvcgen with simp_all

omit [grammar.Skips] in
@[spec 2000] theorem skips_endlessLoop :
    Skips target .clear .clear none (endlessLoop grammar) := by
  unfold endlessLoop body
  mvcgen with simp_all

@[spec 2000] theorem skips_labelled : Skips target .clear .clear none (labelled grammar) := by
  unfold labelled body
  mvcgen with simp_all

@[spec 2000] theorem skips_matchArms : Skips target .clear .clear none (matchArms grammar) := by
  unfold matchArms
  mvcgen with simp_all

@[spec 2000] theorem skips_peekBinder : Skips target edge edge none peekBinder := by
  unfold peekBinder
  mvcgen

@[spec 2000] theorem skips_blockLike : Skips target .clear .clear none (blockLike grammar) := by
  simp only [blockLike, block, body, accept_eq]
  mvcgen with simp_all

@[spec 2000] theorem skips_letCondition (structs : Bool) :
    Skips target .clear .ragged none (letCondition grammar structs) := by
  unfold letCondition
  mvcgen with simp_all

@[spec 2000] theorem skips_breakJump (structs : Bool) :
    Skips target .clear .ragged none (breakJump grammar structs) := by
  simp only [breakJump, accept_eq]
  mvcgen with simp_all

@[spec 2000] theorem skips_valueJump (word : String) (allowed : Allowed .clear none (.word word)) :
    Skips target .clear .ragged none (valueJump grammar word) := by
  unfold valueJump
  mvcgen with simp_all

@[spec 2000] theorem skips_builtIn : Skips target .clear .clear none builtIn := by
  unfold builtIn
  mvcgen with simp_all

@[spec 2000] theorem skips_peekClosure : Skips target edge edge none peekClosure := by
  unfold peekClosure
  mvcgen

@[spec 2000] theorem skips_peekDeferred : Skips target edge edge none peekDeferred := by
  unfold peekDeferred
  mvcgen

@[spec 2000] theorem skips_peekPathExpression :
    Skips target edge edge none peekPathExpression := by
  unfold peekPathExpression
  mvcgen

@[spec 2000] theorem skips_atom (structs : Bool) :
    Skips target .clear .ragged none (atom grammar structs) := by
  unfold atom block withoutItems
  mvcgen with (first | exact .of_clear ‹_› | try simp_all)

@[spec 2000] theorem skips_operand (structs : Bool) :
    Skips target .clear .ragged none (operand grammar structs) := by
  unfold operand
  mvcgen with (first | exact .of_clear ‹_› | try simp_all)

end Parser

end RecordRegistry
