/-
# What the productions of expressions keep

Operators, calls, blocks and statements keep names and places, given that the productions that they
refer to do.
-/

import Mathlib
import RecordRegistry.Syntax.Statement
import RecordRegistry.Proofs.Provenance.Pattern

namespace RecordRegistry

open Std.Do

set_option mvcgen.warning false

namespace Parser

variable {ground : Ground} {grammar : Grammar}

@[spec] theorem stays_peekExpression : Stays ground peekExpression := by
  mvcgen [peekExpression] with simp_all

@[spec] theorem stays_peekRangeEnd (structs : Bool) : Stays ground (peekRangeEnd structs) := by
  mvcgen [peekRangeEnd] with simp_all

@[spec] theorem stays_refuse (what : String) : Stays ground (checkAfterConversion.refuse what) := by
  mvcgen [checkAfterConversion.refuse] with simp_all

@[spec] theorem stays_checkAfterConversion : Stays ground checkAfterConversion := by
  mvcgen [checkAfterConversion] with simp_all

variable [grammar.Keeps]

theorem stays_rightOperandFrom (structs : Bool) (precedence : Precedence) (first : Expression)
    (count : Nat) : Stays ground (rightOperand.go grammar structs precedence first count) := by
  induction count generalizing first with
  | zero => mvcgen [rightOperand.go]
  | succ count ih => mvcgen [rightOperand.go, ih] with simp_all

@[spec] theorem stays_rightOperand (structs : Bool) (precedence : Precedence) :
    Stays ground (rightOperand grammar structs precedence) := by
  mvcgen [rightOperand, stays_rightOperandFrom] with simp_all

@[spec] theorem stays_rangeFromDots (structs : Bool) :
    Stays ground (rangeFromDots grammar structs) := by
  mvcgen [rangeFromDots] with simp_all

@[spec] theorem stays_operatorStep (first : Expression) (structs : Bool)
    (weakest : Precedence) :
    Stays ground (operatorStep grammar first structs weakest) := by
  mvcgen [operatorStep] with simp_all

theorem stays_operatorsFrom (structs : Bool) (weakest : Precedence) (first : Expression)
    (count : Nat) : Stays ground (operators.go grammar structs weakest first count) := by
  induction count generalizing first with
  | zero => mvcgen [operators.go]
  | succ count ih => mvcgen [operators.go, ih] with simp_all

@[spec] theorem stays_operators (first : Expression) (structs : Bool)
    (weakest : Precedence) :
    Stays ground (operators grammar first structs weakest) := by
  mvcgen [operators, stays_operatorsFrom]

@[spec] theorem stays_expression (structs : Bool) : Stays ground (expression grammar structs) := by
  mvcgen [expression] with simp_all

@[spec] theorem keeps_peekFraction : Keeps ground peekFraction fun result =>
    ∀ fraction, result = some fraction → ground.place fraction.position := by
  mvcgen [peekFraction] with simp_all
  all_goals
    intro _ _
    exact (Ground.Held.cons ‹_› ‹_›).1

@[spec] theorem stays_numberedFields {fraction : Fraction} (placed : ground.place fraction.position) :
    Stays ground (numberedFields fraction) := by
  mvcgen [numberedFields] with simp_all

@[spec] theorem stays_arguments : Stays ground (arguments grammar) := by
  mvcgen [arguments]

@[spec] theorem stays_selection : Stays ground (selection grammar) := by
  mvcgen [selection] with simp_all

@[spec] theorem stays_trailerStep (first : Expression) :
    Stays ground (trailerStep grammar first) := by
  mvcgen [trailerStep] with simp_all

theorem stays_trailersFrom (first : Expression) (count : Nat) :
    Stays ground (trailers.go grammar first count) := by
  induction count generalizing first with
  | zero => mvcgen [trailers.go]
  | succ count ih => mvcgen [trailers.go, ih] with simp_all

@[spec] theorem stays_trailers (first : Expression) : Stays ground (trailers grammar first) := by
  mvcgen [trailers, stays_trailersFrom]

@[spec] theorem stays_closureParameter : Stays ground (closureParameter grammar) := by
  mvcgen [closureParameter] with simp_all

@[spec] theorem stays_closure (structs : Bool) : Stays ground (closure grammar structs) := by
  mvcgen [closure] with simp_all

@[spec] theorem stays_fieldValue : Stays ground (fieldValue grammar) := by
  mvcgen [fieldValue] with simp_all

@[spec] theorem stays_fieldValues : Stays ground (fieldValues grammar) := by
  mvcgen [fieldValues] with simp_all

@[spec] theorem stays_pathExpression (structs : Bool) :
    Stays ground (pathExpression grammar structs) := by
  mvcgen [pathExpression] with simp_all

@[spec] theorem stays_parenthesizedExpression : Stays ground (parenthesizedExpression grammar) := by
  mvcgen [parenthesizedExpression]

@[spec] theorem stays_arrayElements : Stays ground (arrayElements grammar) := by
  mvcgen [arrayElements] with simp_all

theorem stays_conditionalUpTo (count : Nat) : Stays ground (conditional.go grammar count) := by
  induction count with
  | zero => mvcgen [conditional.go]
  | succ count ih => mvcgen [conditional.go, ih] with simp_all

@[spec] theorem stays_conditional : Stays ground (conditional grammar) := by
  mvcgen [conditional, stays_conditionalUpTo]

@[spec] theorem stays_headAndBody {α : Type} {head : Parser Unit} {content : Parser α}
    (heads : Stays ground head)
    (contents : ∀ closing inside, Stays (ground.inside .brace closing inside) content) :
    Stays ground (headAndBody grammar head content) := by
  -- The items of the head are put aside while the body begins, and then added again.
  have putAside {before after : Stream} (first : ground.Held before) (held : ground.Held after) :
      ground.Held { after with found := before.found } :=
    held.withFound first.found
  have added {closing : Position} {inside : List TokenTree} {before after inner : Stream}
      (held : ground.Held after) (body : (ground.inside .brace closing inside).Held inner) :
      (ground.inside .brace closing inside).Held
        { inner with found := inner.found ++ after.found.drop before.found.length } :=
    body.withFound (body.found_append fun item met => held.found item (List.mem_of_mem_drop met))
  mvcgen [headAndBody, heads, contents] with first | exact added ‹_› ‹_› | exact putAside ‹_› ‹_›

@[spec] theorem stays_whileLoop : Stays ground (whileLoop grammar) := by
  mvcgen [whileLoop] with simp_all

@[spec] theorem stays_forLoop : Stays ground (forLoop grammar) := by
  mvcgen [forLoop] with simp_all

@[spec] theorem stays_endlessLoop : Stays ground (endlessLoop grammar) := by
  mvcgen [endlessLoop] with simp_all

@[spec] theorem stays_labelled : Stays ground (labelled grammar) := by
  mvcgen [labelled] with simp_all

@[spec] theorem stays_matchArm : Stays ground (matchArm grammar) := by
  mvcgen [matchArm] with simp_all

@[spec] theorem stays_matchArms : Stays ground (matchArms grammar) := by
  mvcgen [matchArms] with simp_all

@[spec] theorem stays_peekBinder : Stays ground peekBinder := by
  mvcgen [peekBinder]

@[spec] theorem stays_blockLike : Stays ground (blockLike grammar) := by
  mvcgen [blockLike] with simp_all

@[spec] theorem stays_bounded : Stays ground (bounded grammar) := by
  mvcgen [bounded] with simp_all

@[spec] theorem stays_letCondition (structs : Bool) :
    Stays ground (letCondition grammar structs) := by
  mvcgen [letCondition] with simp_all

@[spec] theorem stays_breakJump (structs : Bool) : Stays ground (breakJump grammar structs) := by
  mvcgen [breakJump] with simp_all

@[spec] theorem stays_valueJump (word : String) : Stays ground (valueJump grammar word) := by
  mvcgen [valueJump] with simp_all

@[spec] theorem stays_builtIn : Stays ground builtIn := by
  mvcgen [builtIn] with simp_all

@[spec] theorem stays_peekClosure : Stays ground peekClosure := by
  mvcgen [peekClosure] with simp_all

@[spec] theorem stays_peekDeferred : Stays ground peekDeferred := by
  mvcgen [peekDeferred] with simp_all

@[spec] theorem stays_peekPathExpression : Stays ground peekPathExpression := by
  mvcgen [peekPathExpression] with simp_all

@[spec] theorem stays_atom (structs : Bool) : Stays ground (atom grammar structs) := by
  mvcgen [atom] with simp_all

@[spec] theorem stays_operand (structs : Bool) : Stays ground (operand grammar structs) := by
  mvcgen [operand] with simp_all
  all_goals exact Ground.Held.withFound (by assumption) (Ground.Held.found (by assumption))

@[spec] theorem stays_binding : Stays ground (binding grammar) := by
  mvcgen [binding] with simp_all

@[spec] theorem stays_peekConstantItem : Stays ground peekConstantItem := by
  mvcgen [peekConstantItem]

@[spec] theorem stays_peekItem : Stays ground peekItem := by
  mvcgen [peekItem] with simp_all

@[spec] theorem keeps_invocationStart : Keeps ground invocationStart fun start =>
    ∀ stream, start = .braces stream → ground.Held stream := by
  have path : Keeps ground modulePath ground.Path := keeps_modulePath
  have ahead := keeps_ahead? path
  mvcgen [invocationStart, ahead] with simp_all

@[spec] theorem stays_expressionStatement : Stays ground (expressionStatement grammar) := by
  mvcgen [expressionStatement] with simp_all

@[spec] theorem stays_statement : Stays ground (statement grammar) := by
  mvcgen [statement] with
    first
    | exact Ground.Held.withFound_concat ‹_› ‹_›
    | simp_all

theorem stays_statementsUpTo (count : Nat) : Stays ground (statements.go grammar count) := by
  induction count with
  | zero => mvcgen [statements.go]
  | succ count ih => mvcgen [statements.go, ih] with simp_all

@[spec] theorem stays_statements : Stays ground (statements grammar) := by
  mvcgen [statements, stays_statementsUpTo]

end Parser

end RecordRegistry
