/-
# What the productions of items keep

Items keep names and places, given that the productions that they refer to do, and the name of the
type that an item declares is a name of the text.  As this carries over from one depth of the
grammar to the next, it holds of the whole grammar.
-/

import Mathlib
import RecordRegistry.Proofs.Provenance.Expression
import RecordRegistry.Proofs.Syntax.Whole

namespace RecordRegistry

open Std.Do

set_option mvcgen.warning false

namespace Ground

variable {ground : Ground} {name : Name}

@[simp] theorem item_struct {parameters : Nat} {fields : FieldStyle} (typed : ground.type name) :
    ground.Item (.struct name parameters fields) := by
  simp_all [Item, RecordRegistry.Item.declared?]

@[simp] theorem item_enum (typed : ground.type name) : ground.Item (.enum name) := by
  simp_all [Item, RecordRegistry.Item.declared?]

@[simp] theorem item_union (typed : ground.type name) : ground.Item (.union name) := by
  simp_all [Item, RecordRegistry.Item.declared?]

@[simp] theorem item_alias (typed : ground.type name) : ground.Item (.alias name) := by
  simp_all [Item, RecordRegistry.Item.declared?]

@[simp] theorem item_trait (typed : ground.type name) : ground.Item (.trait name) := by
  simp_all [Item, RecordRegistry.Item.declared?]

@[simp] theorem item_traitAlias (typed : ground.type name) : ground.Item (.traitAlias name) := by
  simp_all [Item, RecordRegistry.Item.declared?]

@[simp] theorem item_function {body : List Statement} : ground.Item (.function name body) := by
  simp [Item, RecordRegistry.Item.declared?]

@[simp] theorem item_other : ground.Item .other := by
  simp [Item, RecordRegistry.Item.declared?]

end Ground

namespace Parser

variable {ground : Ground} {grammar : Grammar} [grammar.Keeps]

@[spec] theorem stays_positionalField : Stays ground (positionalField grammar) := by
  mvcgen [positionalField] with simp_all

@[spec] theorem stays_positionalFields : Stays ground (positionalFields grammar) := by
  mvcgen [positionalFields]

@[spec] theorem stays_field {inner : Parser Unit} (stays : Stays ground inner) :
    Stays ground (namedFields.field grammar inner) := by
  mvcgen [namedFields.field, stays] with simp_all

theorem stays_fieldsUpTo (count : Nat) : Stays ground (namedFields.fieldsUpTo grammar count) := by
  induction count generalizing ground with
  | zero =>
      mvcgen [namedFields.fieldsUpTo]
      simp_all
  | succ count ih => mvcgen [namedFields.fieldsUpTo, ih]

@[spec] theorem stays_namedFields : Stays ground (namedFields grammar) := by
  mvcgen [namedFields, stays_fieldsUpTo]

@[spec] theorem stays_structFields : Stays ground (structFields grammar) := by
  mvcgen [structFields] with simp_all

@[spec] theorem keeps_structItem : Keeps ground (structItem grammar) ground.Item := by
  mvcgen [structItem, keeps_word, keeps_typeName, -keeps_require, -keeps_identifier] with simp_all

@[spec] theorem stays_variant : Stays ground (variant grammar) := by
  mvcgen [variant] with simp_all

@[spec] theorem keeps_enumItem : Keeps ground (enumItem grammar) ground.Item := by
  mvcgen [enumItem, keeps_word, keeps_typeName, -keeps_require, -keeps_identifier] with simp_all

@[spec] theorem keeps_unionItem : Keeps ground (unionItem grammar) ground.Item := by
  mvcgen [unionItem, keeps_word, keeps_typeName, -keeps_require, -keeps_identifier] with simp_all

@[spec] theorem keeps_typeDeclaration (place : ConstraintPlace) :
    Keeps ground (typeDeclaration grammar place) ground.Item := by
  have ends := @keeps_require ground (.mark ";")
  mvcgen [typeDeclaration, keeps_word, keeps_typeName, ends, -keeps_require, -keeps_identifier]
    with simp_all

@[spec] theorem stays_invocationItem (named : Bool) : Stays ground (invocationItem named) := by
  mvcgen [invocationItem] with simp_all

@[spec] theorem stays_constantName : Stays ground constantName := by
  mvcgen [constantName] with simp_all

@[spec] theorem stays_constant : Stays ground (constant grammar) := by
  mvcgen [constant] with simp_all

@[spec] theorem stays_staticItem : Stays ground (staticItem grammar) := by
  mvcgen [staticItem] with simp_all

@[spec] theorem stays_libraryImport : Stays ground libraryImport := by
  mvcgen [libraryImport] with simp_all

@[spec] theorem stays_importTree (rooted : Bool) : Stays ground (importTree grammar rooted) := by
  mvcgen [importTree] with simp_all

@[spec] theorem stays_useItem : Stays ground (useItem grammar) := by
  mvcgen [useItem] with simp_all

@[spec] theorem stays_moduleItem : Stays ground (moduleItem grammar) := by
  mvcgen [moduleItem] with simp_all

@[spec] theorem stays_definitionItem : Stays ground definitionItem := by
  mvcgen [definitionItem] with simp_all

@[spec] theorem stays_traitFunction : Stays ground (traitFunction grammar) := by
  mvcgen [traitFunction] with simp_all

@[spec] theorem stays_traitItem : Stays ground (traitItem grammar) := by
  mvcgen [traitItem] with simp_all

@[spec] theorem stays_traitBody : Stays ground (traitBody grammar) := by
  mvcgen [traitBody] with simp_all

@[spec] theorem stays_implementationItem : Stays ground (implementationItem grammar) := by
  mvcgen [implementationItem] with simp_all

@[spec] theorem stays_implementation : Stays ground (implementation grammar) := by
  mvcgen [implementation] with simp_all

@[spec] theorem stays_foreignFunction : Stays ground (foreignFunction grammar) := by
  mvcgen [foreignFunction] with simp_all

@[spec] theorem stays_foreignStatic : Stays ground (foreignStatic grammar) := by
  mvcgen [foreignStatic] with simp_all

@[spec] theorem stays_foreignItem : Stays ground (foreignItem grammar) := by
  mvcgen [foreignItem] with simp_all

@[spec] theorem stays_foreignItems : Stays ground (foreignItems grammar) := by
  mvcgen [foreignItems] with simp_all

@[spec] theorem stays_externalItem : Stays ground (externalItem grammar) := by
  mvcgen [externalItem] with simp_all

@[spec] theorem keeps_functionItem : Keeps ground (functionItem grammar) ground.Item := by
  mvcgen [functionItem] with simp_all

@[spec] theorem keeps_qualifiedTrait : Keeps ground (qualifiedTrait grammar) ground.Item := by
  mvcgen [qualifiedTrait, keeps_word, keeps_typeName, -keeps_require, -keeps_identifier] with simp_all

@[spec] theorem keeps_traitOrAlias : Keeps ground (traitOrAlias grammar) ground.Item := by
  have ends := @keeps_require ground (.mark ";")
  mvcgen [traitOrAlias, keeps_word, keeps_typeName, ends, -keeps_require, -keeps_identifier]
    with simp_all

@[spec] theorem keeps_unsafeItem : Keeps ground (unsafeItem grammar) ground.Item := by
  mvcgen [unsafeItem] with simp_all

@[spec] theorem keeps_unkeptItem {parser : Parser Unit} (stays : Stays ground parser) :
    Keeps ground (unkeptItem parser) ground.Item := by
  mvcgen [unkeptItem, stays] with simp_all

@[spec] theorem keeps_item : Keeps ground (item grammar) ground.Item := by
  mvcgen [item] with simp_all

/-- Each depth of the grammar keeps names and places if the depth below does. -/
instance keeps_grammar (depth : Nat) : (Parser.grammar depth).Keeps := by
  induction depth with
  | zero =>
      have fails : ∀ {α : Type} (ground : Ground) (good : α → Prop),
          Keeps ground (failHere (.expected []) : Parser α) good := fun ground good =>
        (keeps_failHere _).mono fun _ absurd => absurd.elim
      exact
        { typeExpression := fun ground _ => fails ground _
          bound := fun ground _ => fails ground _
          expression := fun ground _ => fails ground _
          operand := fun ground _ => fails ground _
          operators := fun ground _ _ _ => fails ground _
          bounded := fun ground => fails ground _
          pattern := fun ground => fails ground _
          statements := fun ground => fails ground _
          item := fun ground => fails ground _
          importTree := fun ground _ => fails ground _ }
  | succ depth ih =>
      exact
        { typeExpression := fun _ plus => stays_typeExpression plus
          bound := fun _ rules => stays_bound rules
          expression := fun _ structs => stays_expression structs
          operand := fun _ structs => stays_operand structs
          operators := fun _ first structs weakest => stays_operators first structs weakest
          bounded := fun _ => stays_bounded
          pattern := fun _ => keeps_pattern
          statements := fun _ => stays_statements
          item := fun _ => keeps_item
          importTree := fun _ rooted => stays_importTree rooted }

instance keeps_grammarFor (trees : List TokenTree) : (grammarFor trees).Keeps := keeps_grammar _

@[spec] theorem keeps_file : Keeps ground (file grammar)
    fun source => ∀ item ∈ source.inAttributes ++ source.items, ground.Item item := by
  have items : Keeps ground (untilEnd do
      outerAttributes grammar
      grammar.item) fun items => ∀ item ∈ items, ground.Item item := by
    refine keeps_untilEnd ?_
    mvcgen with simp_all
  mvcgen [file, items, -stays_untilEnd] with
    first
    | assumption
    | exact Ground.Held.and_found_append ‹_› ‹_›

/-- A scope that is read to its end yields a value and items of the ground. -/
theorem Keeps.ok_of_runWithin {α : Type} {parser : Parser α} {good : α → Prop} {value : α}
    {found : List Item} (keeps : Keeps ground parser good) (trees : ground.Trees ground.whole)
    (typed : ground.Typed ground.whole) (closing : ground.place ground.scope.closing)
    (silent : ¬ ground.noted)
    (yields : parser.runWithin ground.scope ground.whole = .ok (value, found)) :
    good value ∧ ∀ item ∈ found, ground.Item item := by
  have step := keeps_iff.mp keeps ⟨ground.whole, ground.scope, none, []⟩
    ⟨trees, typed, closing, List.suffix_rfl, rfl, by simp, fun noted => absurd noted silent, by simp⟩
  obtain ⟨stream, run, -, -, rfl⟩ := runWithin_eq_ok_iff.mp yields
  rw [run] at step
  exact ⟨step.2, step.1.found⟩

end Parser

end RecordRegistry
