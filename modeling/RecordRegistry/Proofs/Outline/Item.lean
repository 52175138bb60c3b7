/-
# Items in outlines

Of the items of a file those that declare types are listed by its outline, and no others: what an
item holds besides the name that it declares stands in groups, or declares nothing.
-/

import Mathlib
import RecordRegistry.Proofs.Outline.Expression

namespace RecordRegistry

open Std.Do Outline

set_option mvcgen.warning false

namespace Parser

attribute [local simp] Allowed edgeAfter Scan.after Scan.Passes Scan.neutralMarks typeWords
  isReserved reservedWords

variable {target : Target} {edge : Edge} {scan : Scan} {grammar : Grammar}

@[spec 2000] theorem skips_visibility : Skips target .clear .clear none visibility := by
  simp only [visibility, accept_eq]
  mvcgen with simp_all

@[spec 2000] theorem skips_peekSignature (safe : Bool) :
    Skips target edge edge none (peekSignature safe) := by
  unfold peekSignature
  mvcgen

@[spec 2000] theorem skips_innerAttributes :
    Skips target .clear .clear none (innerAttributes grammar) := by
  have attributes : Skips target .clear .clear none (whileHolds
      (do return (← peek (.mark "#")) && (← peekSecond (.mark "!"))) do
        require (.mark "#")
        require (.mark "!")
        within .bracket (attributeContent grammar)) := by
    refine skips_whileHolds ?_
    mvcgen with simp_all
  unfold innerAttributes
  mvcgen [attributes, -stays_whileHolds]

@[spec 2000] theorem skips_positionalFields :
    Skips target .ragged .clear none (positionalFields grammar) := by
  unfold positionalFields
  mvcgen

@[spec 2000] theorem skips_namedFields :
    Skips target .ragged .clear none (namedFields grammar) := by
  have fields (count : Nat) :
      Skips target .ragged .clear none (namedFields.fieldsUpTo grammar count) := by
    cases count with
    | zero =>
        unfold namedFields.fieldsUpTo
        mvcgen
        exact False.elim
    | succ count =>
        unfold namedFields.fieldsUpTo
        mvcgen
  unfold namedFields
  mvcgen [fields]

variable [grammar.Skips]

@[spec 2000] theorem skips_structFields :
    Skips target .ragged .clear none (structFields grammar) := by
  simp only [structFields, accept_eq]
  mvcgen with simp_all

@[spec 2000] theorem skips_signature :
    Skips target .clear .ragged none (signature grammar false) := by
  unfold signature
  mvcgen with simp_all

@[spec 2000] theorem skips_traitBody : Skips target .ragged .clear none (traitBody grammar) := by
  have bounds := @skips_separatedUntil _ target none (.mark "+")
    (peekAny [.word "where", .opened .brace]) _ (skips_separator (by simp) rfl rfl)
    (fun _ => by mvcgen) (@Grammar.Skips.bound grammar _ target none ⟨false, true⟩ (by simp))
  simp only [traitBody, accept_eq]
  mvcgen [bounds, -stays_separatedUntil] with simp_all

omit [grammar.Skips] in
@[spec 2000] theorem skips_invocationItem (named : Bool) :
    Skips target .clear .clear none (invocationItem named) := by
  have names := skips_anyName target none [.identifier, .word "try"] (by decide)
  unfold invocationItem
  mvcgen [names, -keeps_anyName] with simp_all

omit [grammar.Skips] in
@[spec 2000] theorem skips_constantName : Skips target .clear .ragged none constantName := by
  have names := skips_anyName target none [.identifier, .word "_"] (by decide)
  unfold constantName
  mvcgen [names, -keeps_anyName] with simp_all

@[spec 2000] theorem skips_constant : Skips target .clear .clear none (constant grammar) := by
  simp only [constant, accept_eq]
  mvcgen with simp_all

@[spec 2000] theorem skips_staticItem : Skips target .clear .clear none (staticItem grammar) := by
  simp only [staticItem, accept_eq (.mark _)]
  mvcgen with simp_all

omit [grammar.Skips] in
@[spec 2000] theorem skips_libraryImport : Skips target .clear .clear none libraryImport := by
  simp only [libraryImport, accept_eq]
  mvcgen with simp_all

@[spec 2000] theorem skips_importTree (rooted : Bool) :
    Skips target .clear .ragged none (importTree grammar rooted) := by
  have names := skips_anyName target none
    [.identifier, .word "self", .word "super", .word "crate", .word "try"] (by decide)
  simp only [importTree, acceptAny, accept_eq]
  mvcgen [names, -keeps_anyName] with (first | exact .of_clear ‹_› | simp_all)

@[spec 2000] theorem skips_useItem : Skips target .clear .clear none (useItem grammar) := by
  simp only [useItem, accept_eq]
  mvcgen with simp_all

omit [grammar.Skips] in
@[spec 2000] theorem skips_moduleItem : Skips target .clear .clear none (moduleItem grammar) := by
  simp only [moduleItem, accept_eq]
  mvcgen with simp_all

omit [grammar.Skips] in
@[spec 2000] theorem skips_definitionItem : Skips target .clear .clear none definitionItem := by
  unfold definitionItem
  mvcgen with simp_all

@[spec 2000] theorem skips_implementation :
    Skips target .clear .clear none (implementation grammar) := by
  unfold implementation
  refine .bind (skips_accept (by simp) rfl rfl) fun _ =>
    .bind (skips_accept (by simp) rfl rfl) fun _ =>
    .bind (skips_require _ (by simp)) fun _ => .bind skips_peekParameters fun opened => ?_
  -- Each optional part is followed by the same rest, which is read once only.
  extract_lets body type trait relaxed
  have skipsBody : Skips target .ragged .clear none (body ()) := by
    unfold body
    mvcgen
  clear_value body
  have skipsType : Skips target .clear .clear none (type ()) := by
    simp only [type, accept_eq]
    mvcgen [skipsBody] with simp_all
  clear_value type
  have skipsTrait : Skips target .clear .clear none (trait ()) := by
    unfold trait
    mvcgen [skipsType] with simp_all
  clear_value trait
  have skipsRelaxed : Skips target .clear .clear none (relaxed ()) := by
    unfold relaxed
    mvcgen [skipsTrait] with simp_all
  clear_value relaxed
  mvcgen [skipsRelaxed]

omit [grammar.Skips] in
@[spec 2000] theorem skips_foreignItems :
    Skips target .clear .clear none (foreignItems grammar) := by
  simp only [foreignItems, accept_eq]
  mvcgen with simp_all

omit [grammar.Skips] in
@[spec 2000] theorem skips_externalItem :
    Skips target .clear .clear none (externalItem grammar) := by
  simp only [externalItem, accept_eq]
  mvcgen with simp_all

end Parser

end RecordRegistry
