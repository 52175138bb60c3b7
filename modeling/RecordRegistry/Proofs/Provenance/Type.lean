/-
# What the productions of types keep

Paths, attributes, generic parameters, bounds and types keep names and places, given that the
productions that they refer to do.  Only of paths something is said of their value: all names in
them are names of the text.
-/

import Mathlib
import RecordRegistry.Syntax.TypeExpression
import RecordRegistry.Proofs.Provenance.Keeping

namespace RecordRegistry

open Std.Do

set_option mvcgen.warning false

/-- The productions of a grammar keep names and places. -/
class Grammar.Keeps (grammar : Grammar) : Prop where
  typeExpression ground plus : Parser.Stays ground (grammar.typeExpression plus)
  bound ground rules : Parser.Stays ground (grammar.bound rules)
  expression ground structs : Parser.Stays ground (grammar.expression structs)
  operand ground structs : Parser.Stays ground (grammar.operand structs)
  operators ground first structs weakest :
    Parser.Stays ground (grammar.operators first structs weakest)
  bounded ground : Parser.Stays ground grammar.bounded
  pattern ground : Parser.Keeps ground grammar.pattern ground.Pattern
  statements ground : Parser.Stays ground grammar.statements
  item ground : Parser.Keeps ground grammar.item ground.Item
  importTree ground rooted : Parser.Stays ground (grammar.importTree rooted)

attribute [spec] Grammar.Keeps.typeExpression Grammar.Keeps.bound Grammar.Keeps.expression
  Grammar.Keeps.operand Grammar.Keeps.operators Grammar.Keeps.bounded Grammar.Keeps.pattern
  Grammar.Keeps.statements Grammar.Keeps.item Grammar.Keeps.importTree

namespace Parser

variable {ground : Ground} {grammar : Grammar}

@[spec] theorem stays_peekPathWord : Stays ground peekPathWord := by
  mvcgen [peekPathWord]

@[spec] theorem stays_peekName : Stays ground modulePath.peekName := by
  mvcgen [modulePath.peekName]

@[spec] theorem keeps_modulePath : Keeps ground modulePath ground.Path := by
  have other : Keeps ground (do
      if ← modulePath.peekName then anyName
      else failHere (.refused "expected path segment after `::`")) ground.name := by
    mvcgen with simp_all
  have others := keeps_whileHolds (keeps_accept (.mark "::")) other
  mvcgen [modulePath, others, -stays_whileHolds] with simp_all [Ground.Path]

variable [grammar.Keeps]

@[spec] theorem stays_attributeValue : Stays ground (attributeValue grammar) := by
  have single : Stays ground (return (← accept .literal) && (← atEnd)) := by mvcgen
  have ahead := keeps_ahead? single
  mvcgen [attributeValue, ahead] with simp_all

@[spec] theorem stays_attributeContent : Stays ground (attributeContent grammar) := by
  mvcgen [attributeContent] with simp_all

@[spec] theorem stays_outerAttributes : Stays ground (outerAttributes grammar) := by
  mvcgen [outerAttributes] with simp_all

@[spec] theorem stays_innerAttributes : Stays ground (innerAttributes grammar) := by
  mvcgen [innerAttributes] with simp_all

@[spec] theorem stays_body : Stays ground (body grammar) := by
  mvcgen [body] with simp_all

@[spec] theorem stays_block : Stays ground (block grammar) := by
  mvcgen [block]

@[spec] theorem stays_constantArgument : Stays ground (constantArgument grammar) := by
  mvcgen [constantArgument] with simp_all

@[spec] theorem stays_associatedArgument : Stays ground (associatedArgument grammar) := by
  mvcgen [associatedArgument] with simp_all

@[spec] theorem stays_genericArgument : Stays ground (genericArgument grammar) := by
  mvcgen [genericArgument] with simp_all

@[spec] theorem stays_genericArguments : Stays ground (genericArguments grammar) := by
  mvcgen [genericArguments] with simp_all

@[spec] theorem stays_turbofish : Stays ground (turbofish grammar) := by
  mvcgen [turbofish] with simp_all

@[spec] theorem keeps_segment (inExpression : Bool) :
    Keeps ground (segment grammar inExpression) fun segment => ground.name segment.name := by
  mvcgen [segment] with simp_all

@[spec] theorem keeps_moreSegments (inExpression : Bool) :
    Keeps ground (moreSegments grammar inExpression)
      fun segments => ∀ segment ∈ segments, ground.name segment.name := by
  refine keeps_whileHolds ?_ ?_
  · mvcgen
  · mvcgen with simp_all

@[spec] theorem keeps_path (inExpression : Bool) :
    Keeps ground (path grammar inExpression) ground.Path := by
  mvcgen [path] with simp_all [Ground.Path]

@[spec] theorem stays_qualifiedPath (inExpression : Bool) :
    Stays ground (qualifiedPath grammar inExpression) := by
  mvcgen [qualifiedPath] with simp_all

@[spec] theorem stays_lifetimeParameter : Stays ground (lifetimeParameter grammar) := by
  mvcgen [lifetimeParameter] with simp_all

@[spec] theorem stays_typeParameter : Stays ground (typeParameter grammar) := by
  mvcgen [typeParameter] with simp_all

@[spec] theorem stays_constantParameter : Stays ground (constantParameter grammar) := by
  mvcgen [constantParameter] with simp_all

@[spec] theorem stays_parameter : Stays ground (parameter grammar) := by
  mvcgen [parameter] with simp_all

@[spec] theorem stays_parameters : Stays ground (parameters grammar) := by
  mvcgen [parameters] with simp_all

@[spec] theorem stays_boundParameter : Stays ground (boundParameter grammar) := by
  mvcgen [boundParameter] with simp_all

@[spec] theorem stays_binder : Stays ground (binder grammar) := by
  mvcgen [binder] with simp_all

@[spec] theorem stays_optionalBinder : Stays ground (optionalBinder grammar) := by
  mvcgen [optionalBinder] with simp_all

@[spec] theorem stays_peekParameters : Stays ground peekParameters := by
  mvcgen [peekParameters] with simp_all

@[spec] theorem stays_peekConstraintEnd : Stays ground peekConstraintEnd := by
  mvcgen [peekConstraintEnd] with simp_all

@[spec] theorem stays_constraint : Stays ground (constraint grammar) := by
  mvcgen [constraint] with simp_all

@[spec] theorem stays_constraints : Stays ground (constraints grammar) := by
  mvcgen [constraints] with simp_all

@[spec] theorem stays_result (plus : Bool) : Stays ground (result grammar plus) := by
  mvcgen [result] with simp_all

@[spec] theorem stays_callableArguments : Stays ground (callableArguments grammar) := by
  mvcgen [callableArguments] with simp_all

@[spec] theorem stays_peekCallableArguments : Stays ground peekCallableArguments := by
  mvcgen [peekCallableArguments] with simp_all

@[spec] theorem keeps_captures : Keeps ground captures ground.place := by
  mvcgen [captures] with simp_all

@[spec] theorem stays_constantContext (rules : BoundRules) :
    Stays ground (constantContext rules) := by
  mvcgen [constantContext] with simp_all

@[spec] theorem stays_traitBound (rules : BoundRules) : Stays ground (traitBound grammar rules) := by
  mvcgen [traitBound] with simp_all

@[spec] theorem stays_bound (rules : BoundRules) : Stays ground (bound grammar rules) := by
  mvcgen [bound] with simp_all
  all_goals exact Ground.Held.withFound (by assumption) (Ground.Held.found (by assumption))

@[spec] theorem stays_peekBound (constants : Bool) : Stays ground (peekBound constants) := by
  mvcgen [peekBound] with simp_all

@[spec] theorem stays_bounds (rules : BoundRules) (plus : Bool) :
    Stays ground (bounds grammar rules plus) := by
  mvcgen [bounds] with simp_all

@[spec] theorem stays_calls (path : Path) (count : Nat) :
    Stays ground (typePath.calls grammar path count) := by
  induction count generalizing path with
  | zero => mvcgen [typePath.calls]
  | succ count ih => mvcgen [typePath.calls, ih] with simp_all

@[spec] theorem stays_typePath : Stays ground (typePath grammar) := by
  mvcgen [typePath] with simp_all

@[spec] theorem stays_objectBounds {position : Position} (plus : Bool)
    (placed : ground.place position) : Stays ground (objectBounds grammar position plus) := by
  mvcgen [objectBounds] with simp_all

@[spec] theorem stays_sum : Stays ground (sum grammar) := by
  mvcgen [sum]

@[spec] theorem stays_parenthesizedContent : Stays ground (parenthesizedContent grammar) := by
  mvcgen [parenthesizedContent] with simp_all

@[spec] theorem stays_parenthesizedType (plus : Bool) :
    Stays ground (parenthesizedType grammar plus) := by
  mvcgen [parenthesizedType] with simp_all

@[spec] theorem stays_callableParameter (first : Bool) :
    Stays ground (callableParameter grammar first) := by
  mvcgen [callableParameter] with simp_all

@[spec] theorem stays_peekVariadic : Stays ground peekVariadic := by
  mvcgen [peekVariadic] with simp_all

theorem stays_callableParametersFrom (first : Bool) (count : Nat) :
    Stays ground (callableParameters.go grammar first count) := by
  induction count generalizing first with
  | zero => mvcgen [callableParameters.go]
  | succ count ih => mvcgen [callableParameters.go, ih] with simp_all

@[spec] theorem stays_callableParameters : Stays ground (callableParameters grammar) := by
  mvcgen [callableParameters, stays_callableParametersFrom]

@[spec] theorem stays_convention : Stays ground convention := by
  mvcgen [convention] with simp_all

@[spec] theorem stays_functionType : Stays ground (functionType grammar) := by
  mvcgen [functionType] with simp_all

@[spec] theorem stays_pathType (plus bound : Bool) : Stays ground (pathType grammar plus bound) := by
  mvcgen [pathType] with simp_all

@[spec] theorem stays_objectType (plus : Bool) : Stays ground (objectType grammar plus) := by
  mvcgen [objectType] with simp_all

@[spec] theorem stays_opaqueType (plus : Bool) : Stays ground (opaqueType grammar plus) := by
  mvcgen [opaqueType] with simp_all

@[spec] theorem stays_sequenceType : Stays ground (sequenceType grammar) := by
  mvcgen [sequenceType] with simp_all

@[spec] theorem stays_pointerType : Stays ground (pointerType grammar) := by
  mvcgen [pointerType] with simp_all

@[spec] theorem stays_referenceType : Stays ground (referenceType grammar) := by
  mvcgen [referenceType] with simp_all

@[spec] theorem stays_typeExpression (plus : Bool) : Stays ground (typeExpression grammar plus) := by
  mvcgen [typeExpression] with simp_all

end Parser

end RecordRegistry
