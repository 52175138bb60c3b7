/-
# Types in outlines

No part of a type declares a type.
-/

import Mathlib
import RecordRegistry.Syntax.TypeExpression
import RecordRegistry.Proofs.Outline.Skipping

namespace RecordRegistry

open Std.Do Outline

set_option mvcgen.warning false

/-- The productions of a grammar that are no items declare nothing. -/
class Grammar.Skips (grammar : Grammar) : Prop where
  typeExpression target scan plus (settled : scan.Settled) :
    Parser.Skips target .clear .ragged scan (grammar.typeExpression plus)
  bound target scan rules (settled : scan.Settled) :
    Parser.Skips target .clear .ragged scan (grammar.bound rules)
  expression target structs : Parser.Skips target .clear .ragged none (grammar.expression structs)
  operand target structs : Parser.Skips target .clear .ragged none (grammar.operand structs)
  operators target first structs weakest :
    Parser.Skips target .ragged .ragged none (grammar.operators first structs weakest)
  pattern target : Parser.Skips target .clear .ragged none grammar.pattern
  importTree target rooted : Parser.Skips target .clear .ragged none (grammar.importTree rooted)

attribute [spec 2000] Grammar.Skips.typeExpression Grammar.Skips.bound Grammar.Skips.expression
  Grammar.Skips.operand Grammar.Skips.operators Grammar.Skips.pattern Grammar.Skips.importTree

namespace Parser

attribute [local simp] Allowed edgeAfter Scan.after Scan.Passes Scan.neutralMarks typeWords
  isReserved reservedWords

variable {target : Target} {edge : Edge} {scan : Scan} {grammar : Grammar}

@[spec 2000] theorem skips_peekPathWord : Skips target edge edge scan peekPathWord := by
  unfold peekPathWord
  mvcgen

@[spec 2000] theorem skips_modulePath : Skips target .clear .ragged none modulePath := by
  have names := skips_anyName target none (.identifier :: pathWords.map .word) (by decide)
  have others : Skips target .ragged .ragged none (whileHolds (accept (.mark "::")) do
      if ← modulePath.peekName then anyName
      else failHere (.refused "expected path segment after `::`")) := by
    refine skips_whileHolds ?_
    simp only [accept_eq, modulePath.peekName]
    mvcgen [names, -keeps_anyName] with simp_all
  simp only [modulePath, accept_eq] at others ⊢
  simp only [modulePath.peekName] at others ⊢
  mvcgen [names, others, -keeps_anyName, -stays_whileHolds] with simp_all

@[spec 2000] theorem skips_outerAttributes :
    Skips target edge edge scan (outerAttributes grammar) := by
  have attributes : Skips target edge edge scan (whileHolds (peek (.mark "#")) do
      require (.mark "#")
      within .bracket (attributeContent grammar)) := by
    refine skips_whileHolds ?_
    mvcgen with simp_all
  unfold outerAttributes
  mvcgen [attributes, -stays_whileHolds]

@[spec 2000] theorem skips_constantArgument :
    Skips target .clear .ragged scan (constantArgument grammar) := by
  unfold constantArgument body
  mvcgen with simp_all

variable [grammar.Skips]

@[spec 2000] theorem skips_associatedArgument (nested : scan.Nested) :
    Skips target .ragged .ragged scan (associatedArgument grammar) := by
  have settled := nested.settled
  have bounds := @skips_joinedUntil _ _ _ (.mark "+") _ _
    (skips_separator (by simp) rfl rfl)
    (by mvcgen : Skips target .clear .clear scan (peekAny [.mark ",", .mark ">"]))
    (@Grammar.Skips.bound grammar _ target scan ⟨false, true⟩ settled)
  simp only [associatedArgument, accept_eq]
  mvcgen [bounds, -stays_joinedUntil] with simp_all

@[spec 2000] theorem skips_genericArgument (nested : scan.Nested) :
    Skips target .clear .ragged scan (genericArgument grammar) := by
  have settled := nested.settled
  simp only [genericArgument, withTokens]
  mvcgen with (try simp_all)

@[spec 2000] theorem skips_genericArguments (settled : scan.Settled) :
    Skips target .ragged .clear scan (genericArguments grammar) := by
  have argument : Skips target .clear .ragged scan.opened (do
      let argument ← genericArgument grammar
      return (argument, ← peek (.mark ","))) := by
    mvcgen with simp_all
  have arguments := @skips_separatedUntil _ target scan.opened (.mark ",") (peek (.mark ">")) _
    (skips_separator (by simp) rfl rfl) (fun _ => by mvcgen) argument
  clear argument
  simp only [genericArguments, accept_eq]
  mvcgen [arguments, -stays_separatedUntil] with simp_all

@[spec 2000] theorem skips_turbofish (settled : scan.Settled) :
    Skips target .ragged .clear scan (turbofish grammar) := by
  unfold turbofish
  mvcgen with simp_all

@[spec 2000] theorem skips_segment (inExpression : Bool) (settled : scan.Settled) :
    Skips target .clear .ragged scan (segment grammar inExpression) := by
  have names := skips_anyName target scan
    [.word "super", .word "self", .word "crate", .word "try"] (by decide)
  unfold segment
  mvcgen [names, -keeps_anyName] with simp_all

@[spec 2000] theorem skips_moreSegments (inExpression : Bool) (settled : scan.Settled) :
    Skips target .ragged .ragged scan (moreSegments grammar inExpression) := by
  unfold moreSegments
  refine skips_whileHolds ?_
  mvcgen with simp_all

@[spec 2000] theorem skips_path (inExpression : Bool) (settled : scan.Settled) :
    Skips target .clear .ragged scan (path grammar inExpression) := by
  simp only [path, accept_eq]
  mvcgen with simp_all

@[spec 2000] theorem skips_qualifiedPath (inExpression : Bool) (settled : scan.Settled) :
    Skips target .clear .ragged scan (qualifiedPath grammar inExpression) := by
  have others : Skips target .ragged .ragged scan
      (whileHolds (accept (.mark "::")) (segment grammar inExpression)) := by
    refine skips_whileHolds ?_
    simp only [accept_eq]
    mvcgen with simp_all
  have start := @Grammar.Skips.typeExpression grammar _ target scan.opened true (by simp)
  have converts : Skips target .ragged .clear scan.opened (require (.word "as")) :=
    skips_require _ (by simp)
  have trait := @skips_path target scan.opened grammar _ false (by simp)
  have separates : Skips target .clear .clear scan (require (.mark "::")) :=
    skips_require _ (by simp [settled])
  have plain := @skips_path target scan grammar _ inExpression settled
  simp only [qualifiedPath, accept_eq] at others ⊢
  mvcgen [others, start, converts, trait, separates, plain, -stays_whileHolds,
    -Grammar.Skips.typeExpression, -skips_path, -skips_require, -Grammar.Keeps.typeExpression,
    -keeps_path, -keeps_require]

omit [grammar.Skips] in
@[spec 2000] theorem skips_lifetimeParameter (nested : scan.Nested) :
    Skips target .ragged .ragged scan (lifetimeParameter grammar) := by
  have settled := nested.settled
  have outlived : Skips target .clear .ragged scan (joinedUntil (.mark "+")
      (peekAny [.mark ",", .mark ">"]) (require .lifetime)) :=
    skips_joinedUntil (skips_separator (by simp) rfl rfl) (by mvcgen) (by mvcgen with simp_all)
  simp only [lifetimeParameter, accept_eq]
  mvcgen [outlived, -stays_joinedUntil] with simp_all

@[spec 2000] theorem skips_typeParameter (nested : scan.Nested) :
    Skips target .clear .ragged scan (typeParameter grammar) := by
  have settled := nested.settled
  have bounds : Skips target .clear .ragged scan (joinedUntil (.mark "+")
      (peekAny [.mark ",", .mark ">", .mark "="]) (grammar.bound ⟨false, true⟩)) :=
    skips_joinedUntil (skips_separator (by simp) rfl rfl) (by mvcgen) (by mvcgen with simp_all)
  simp only [typeParameter, accept_eq]
  mvcgen [bounds, -stays_joinedUntil] with (first | exact .of_clear ‹_› | simp_all)

@[spec 2000] theorem skips_constantParameter (nested : scan.Nested) :
    Skips target .ragged .ragged scan (constantParameter grammar) := by
  have settled := nested.settled
  simp only [constantParameter, accept_eq]
  mvcgen with simp_all

@[spec 2000] theorem skips_parameter (nested : scan.Nested) :
    Skips target .clear .ragged scan (parameter grammar) := by
  simp only [parameter, accept_eq]
  mvcgen with simp_all

@[spec 2000] theorem skips_parameters : Skips target edge edge scan (parameters grammar) := by
  have parameters := @skips_separatedUntil _ target scan.opened (.mark ",") (peek (.mark ">")) _
    (skips_separator (by simp) rfl rfl) (fun _ => by mvcgen)
    (@skips_parameter target scan.opened grammar _ (by simp))
  simp only [Parser.parameters, accept_eq]
  cases edge
  all_goals mvcgen [parameters, -stays_separatedUntil] with simp_all

@[spec 2000] theorem skips_boundParameter (nested : scan.Nested) :
    Skips target .clear .ragged scan (boundParameter grammar) := by
  unfold boundParameter
  mvcgen with simp_all

@[spec 2000] theorem skips_binder : Skips target .ragged .clear scan (binder grammar) := by
  have parameters := @skips_separatedUntil _ target scan.opened (.mark ",") (peek (.mark ">")) _
    (skips_separator (by simp) rfl rfl) (fun _ => by mvcgen)
    (@skips_boundParameter target scan.opened grammar _ (by simp))
  unfold binder
  mvcgen [parameters, -stays_separatedUntil] with simp_all

@[spec 2000] theorem skips_optionalBinder :
    Skips target edge edge scan (optionalBinder grammar) := by
  unfold optionalBinder
  cases edge
  all_goals mvcgen with simp_all

@[spec 2000] theorem skips_peekParameters : Skips target edge edge scan peekParameters := by
  unfold peekParameters
  mvcgen

@[spec 2000] theorem skips_peekConstraintEnd :
    Skips target edge edge scan peekConstraintEnd := by
  unfold peekConstraintEnd
  mvcgen

@[spec 2000] theorem skips_constraint (settled : scan.Settled) :
    Skips target .clear .ragged scan (constraint grammar) := by
  have outlived : Skips target .clear .ragged scan (joinedUntil (.mark "+")
      (do return (← atEnd) ||
        (← peekAny [.opened .brace, .mark ",", .mark ";", .mark ":", .mark "="]))
      (require .lifetime)) :=
    skips_joinedUntil (skips_separator (by simp) rfl rfl) (by mvcgen) (by mvcgen with simp_all)
  have bounds : Skips target .clear .ragged scan
      (joinedUntil (.mark "+") peekConstraintEnd (grammar.bound ⟨false, true⟩)) :=
    skips_joinedUntil (skips_separator (by simp) rfl rfl) (by mvcgen) (by mvcgen with simp_all)
  unfold constraint
  mvcgen [outlived, bounds, -stays_joinedUntil] with simp_all

/-- A clause of constraints is followed as such. -/
theorem follows_constraints :
    ⦃fun stream => ⌜Remains target .ragged scan stream.rest⌝⦄ constraints grammar
    ⦃post⟨fun found stream =>
        ⌜Remains target .ragged (if found then scan.bound else scan) stream.rest⌝,
      fun _ => ⌜True⌝⟩⦄ := by
  have listed : Skips target .clear .ragged scan.bound
      (joinedUntil (.mark ",") peekConstraintEnd (constraint grammar)) :=
    skips_joinedUntil (skips_separator (by simp) rfl rfl) (by mvcgen) (by mvcgen with simp_all)
  have ahead := @skips_peekParameters target .clear scan.bound
  simp only [constraints, accept_eq]
  mvcgen [listed, ahead, -stays_joinedUntil, -skips_peekParameters, -stays_peekParameters]
    with (try simp_all)

@[spec 2000] theorem skips_constraints :
    Skips target .ragged .ragged none (constraints grammar) := by
  simpa using @follows_constraints target none grammar _

@[spec 2000] theorem skips_result (plus : Bool) (settled : scan.Settled) :
    Skips target edge .ragged scan (result grammar plus) := by
  simp only [result, accept_eq]
  cases edge
  all_goals mvcgen with simp_all

@[spec 2000] theorem skips_callableArguments (settled : scan.Settled) :
    Skips target .ragged .ragged scan (callableArguments grammar) := by
  unfold callableArguments
  mvcgen

@[spec 2000] theorem skips_peekCallableArguments :
    Skips target edge edge scan peekCallableArguments := by
  unfold peekCallableArguments
  mvcgen

omit [grammar.Skips] in
@[spec 2000] theorem skips_captures : Skips target .ragged .clear scan captures := by
  have names := skips_anyName target scan.opened [.identifier, .word "Self"] (by decide)
  have listed : Skips target .clear .ragged scan.opened (many do
      unless ← peekAny [.lifetime, .identifier, .word "Self"] do
        if ← peek (.mark ">") then return none
        else expectedOneOf [.lifetime, .identifier, .mark ">"]
      unless ← accept .lifetime do
        let _ ← anyName
      if ← accept (.mark ",") then return some ()
      else if ← peek (.mark ">") then return none
      else expectedOneOf [.mark ",", .mark ">"]) := by
    refine skips_manyToLast ?_
    generalize scan.opened = scan at names ⊢
    simp only [accept_eq]
    mvcgen [names, -keeps_anyName] with simp_all
  unfold captures
  mvcgen [listed, -stays_many] with simp_all

@[spec 2000] theorem skips_constantContext (rules : BoundRules) :
    Skips target edge edge scan (constantContext rules) := by
  simp only [constantContext, accept_eq]
  cases edge
  all_goals mvcgen with simp_all

@[spec 2000] theorem skips_traitBound (rules : BoundRules) (settled : scan.Settled) :
    Skips target .clear .ragged scan (traitBound grammar rules) := by
  simp only [traitBound, accept_eq]
  mvcgen with (first | exact .of_clear ‹_› | simp_all)

@[spec 2000] theorem skips_bound (rules : BoundRules) (settled : scan.Settled) :
    Skips target .clear .ragged scan (bound grammar rules) := by
  simp only [bound, accept_eq]
  mvcgen with simp_all
  exact Remains.of_clear ‹_›

@[spec 2000] theorem skips_peekBound (constants : Bool) :
    Skips target edge edge scan (peekBound constants) := by
  unfold peekBound
  mvcgen

@[spec 2000] theorem skips_bounds (rules : BoundRules) (plus : Bool) (settled : scan.Settled) :
    Skips target .clear .ragged scan (bounds grammar rules plus) := by
  have others : Skips target .ragged .ragged scan (many do
      unless ← accept (.mark "+") do return none
      if ← peekBound rules.constants then some <$> grammar.bound rules else return none) := by
    refine skips_many ?_
    simp only [accept_eq]
    mvcgen with simp_all
  unfold bounds
  mvcgen [others, -stays_many]

@[spec 2000] theorem skips_calls (path : Path) (count : Nat) (settled : scan.Settled) :
    Skips target .ragged .ragged scan (typePath.calls grammar path count) := by
  induction count generalizing path with
  | zero =>
      unfold typePath.calls
      mvcgen
  | succ count ih =>
      unfold typePath.calls
      simp only [accept_eq]
      mvcgen [ih, -stays_calls]
      all_goals simp_all

@[spec 2000] theorem skips_typePath (settled : scan.Settled) :
    Skips target .clear .ragged scan (typePath grammar) := by
  unfold typePath
  mvcgen

@[spec 2000] theorem skips_objectBounds (position : Position) (plus : Bool)
    (settled : scan.Settled) :
    Skips target .clear .ragged scan (objectBounds grammar position plus) := by
  unfold objectBounds
  mvcgen with simp_all

@[spec 2000] theorem skips_sum (settled : scan.Settled) :
    Skips target .ragged .ragged scan (sum grammar) := by
  have others : Skips target .ragged .ragged scan
      (whileHolds (accept (.mark "+")) (grammar.bound ⟨false, false⟩)) := by
    refine skips_whileHolds ?_
    simp only [accept_eq]
    mvcgen with simp_all
  unfold sum
  mvcgen [others, -stays_whileHolds]

@[spec 2000] theorem skips_parenthesizedType (plus : Bool) (settled : scan.Settled) :
    Skips target .ragged .ragged scan (parenthesizedType grammar plus) := by
  unfold parenthesizedType
  mvcgen with simp_all

@[spec 2000] theorem skips_convention : Skips target edge edge scan convention := by
  simp only [convention, accept_eq]
  cases edge
  all_goals mvcgen with simp_all

@[spec 2000] theorem skips_functionType (settled : scan.Settled) :
    Skips target .clear .ragged scan (functionType grammar) := by
  simp only [functionType, accept_eq]
  mvcgen with simp_all

@[spec 2000] theorem skips_pathType (plus bound : Bool) (settled : scan.Settled) :
    Skips target .clear .ragged scan (pathType grammar plus bound) := by
  have others : Skips target .ragged .ragged scan (many do
      unless ← accept (.mark "+") do return none
      if ← peekBound false then some <$> grammar.bound ⟨false, false⟩ else return none) := by
    refine skips_many ?_
    simp only [accept_eq]
    mvcgen with simp_all
  unfold pathType
  mvcgen [others, -stays_many] with simp_all

@[spec 2000] theorem skips_objectType (plus : Bool) (settled : scan.Settled) :
    Skips target .clear .ragged scan (objectType grammar plus) := by
  simp only [objectType, accept_eq, withoutItems]
  mvcgen with simp_all

@[spec 2000] theorem skips_opaqueType (plus : Bool) (settled : scan.Settled) :
    Skips target .ragged .ragged scan (opaqueType grammar plus) := by
  unfold opaqueType
  mvcgen with simp_all

omit [grammar.Skips] in
@[spec 2000] theorem skips_sequenceType :
    Skips target .ragged .clear scan (sequenceType grammar) := by
  unfold sequenceType
  mvcgen

@[spec 2000] theorem skips_pointerType (settled : scan.Settled) :
    Skips target .ragged .ragged scan (pointerType grammar) := by
  unfold pointerType
  mvcgen with simp_all

@[spec 2000] theorem skips_referenceType (settled : scan.Settled) :
    Skips target .ragged .ragged scan (referenceType grammar) := by
  simp only [referenceType, accept_eq]
  mvcgen with simp_all

@[spec 2000] theorem skips_typeExpression (plus : Bool) (settled : scan.Settled) :
    Skips target .clear .ragged scan (typeExpression grammar plus) := by
  unfold typeExpression
  mvcgen with (first | exact .of_clear ‹_› | simp_all)

end Parser

end RecordRegistry
