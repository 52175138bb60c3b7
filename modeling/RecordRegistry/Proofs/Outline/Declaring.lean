/-
# Declarations in outlines

The items that declare types begin with one of the words for types and the name of the type, and
what comes next tells the shape.  So the types that a file declares are those in its outline, each
in its place.
-/

import Mathlib
import RecordRegistry.Proofs.Outline.Item
import RecordRegistry.Proofs.Results

namespace RecordRegistry

open Std.Do Outline

set_option mvcgen.warning false

namespace Parser

variable {α β : Type} {target : Target} {grammar : Grammar} {stream other : Stream}

/-- An item is listed first by the outline of what it is read from, if it declares a type. -/
abbrev Lists (target : Target) (parser : Parser Item) : Prop :=
  ⦃fun stream => ⌜Remains target .clear none stream.rest⌝⦄ parser
  ⦃post⟨fun item stream => ⌜target.types = item.declared?.toList ++ outline stream.rest⌝,
    fun _ => ⌜True⌝⟩⦄

theorem lists_iff {parser : Parser Item} :
    Lists target parser ↔ ∀ stream item other, Remains target .clear none stream.rest →
      parser.run stream = .ok (item, other) →
        target.types = item.declared?.toList ++ outline other.rest := by
  unfold Lists Triple
  simp only [SPred.entails, wp_apply]
  refine forall_congr' fun stream => ?_
  cases parser.run stream with
  | error error => simp
  | ok result => aesop

/-- What an item declares that begins with a word for types and a name. -/
theorem lists_heading {word : String} (tail : Name → Parser Item)
    (declares : ∀ name stream item other, (tail name).run stream = .ok (item, other) →
      item.declared? = (shape? word stream.rest).map fun shape => (name, shape))
    (skips : ∀ target name, Skips target .ragged .clear none (tail name)) :
    Lists target (do
      require (.word word)
      tail (← identifier)) := by
  refine lists_iff.mpr fun stream item other remains run => ?_
  obtain ⟨_, worded, required, run⟩ := run_bind_eq_ok_iff.mp run
  obtain ⟨name, named, identified, run⟩ := run_bind_eq_ok_iff.mp run
  obtain ⟨count, there, dropped⟩ := rest_of_run_require required
  obtain ⟨position, more, before, rfl⟩ := Sought.exists_of_word there
  obtain ⟨after, free⟩ := rest_of_run_identifier identified
  obtain rfl : worded.rest = more := by simpa [before] using dropped
  have clear : Remains ⟨outline worded.rest, none⟩ .clear none worded.rest := ⟨.inl rfl, rfl⟩
  rw [after] at clear
  have onward := skips_iff.mp (skips _ name) named item other (clear.take_name free) run
  have listed : outline worded.rest = outline other.rest := by
    simpa [← after] using onward.types
  have types : target.types = outline stream.rest := by simpa using remains.types
  rw [types, before, outline_cons rfl, listed, declares name named item other run, after]
  simp [declared?, free]

/-- A list is empty if its end comes at once. -/
theorem of_run_separatedUntil {separator sought : Sought} {parser : Parser α} {values : List α}
    (run : (separatedUntil separator (peek sought) parser).run stream = .ok (values, other)) :
    if sought.isAt stream.rest then values = [] ∧ other = stream else values ≠ [] := by
  simp only [separatedUntil, separatedUntil.repeatFrom, StateT.run_bind, run_get, ok_bind,
    run_peek, run_ite] at run
  split at run
  · next ends =>
      cases run
      simp [ends]
  · next goesOn =>
      obtain ⟨⟨value, between⟩, -, run⟩ := bind_eq_ok_iff.mp run
      obtain ⟨⟨others, last⟩, -, run⟩ := bind_eq_ok_iff.mp run
      cases run
      simp [goesOn]

theorem structShape_of_plain {rest : List TokenTree} (plain : (Sought.mark "<").isAt rest = false) :
    structShape rest =
      if (Sought.opened .parenthesis).isAt rest = false then .record else .other := by
  cases rest with
  | nil => rfl
  | cons tree rest =>
      cases tree with
      | mark character joint position =>
          have other : character ≠ '<' := by
            rintro rfl
            simp [Sought.isAt, Sought.matched?, Sought.startsWithMarks] at plain
          simp [structShape, other, Sought.isAt, Sought.matched?]
      | group delimiter opening closing content => cases delimiter <;> rfl
      | name | literal => rfl

theorem structShape_of_closed {first second : Bool} {opening closing : Position}
    {rest : List TokenTree} :
    structShape (.mark '<' first opening :: .mark '>' second closing :: rest) =
      if (Sought.opened .parenthesis).isAt rest = false then .record else .other := by
  cases rest with
  | nil => rfl
  | cons tree rest =>
      cases tree with
      | group delimiter opening closing content => cases delimiter <;> rfl
      | name | literal | mark => rfl

theorem structShape_of_open {first : Bool} {opening : Position} {rest : List TokenTree}
    (filled : (Sought.mark ">").isAt rest = false) :
    structShape (.mark '<' first opening :: rest) = .other := by
  cases rest with
  | nil => rfl
  | cons tree rest =>
      cases tree with
      | mark character joint position =>
          have other : character ≠ '>' := by
            rintro rfl
            simp [Sought.isAt, Sought.matched?, Sought.startsWithMarks] at filled
          simp [structShape, other]
      | name | literal | group => rfl

/-- The parameters of a struct and what follows them tell its shape. -/
theorem structShape_of_run_parameters {count : Option Nat}
    (run : (parameters grammar).run stream = .ok (count, other)) :
    structShape stream.rest =
      if count.getD 0 = 0 ∧ (Sought.opened .parenthesis).isAt other.rest = false then .record
      else .other := by
  rw [parameters, run_bind_eq_ok_iff] at run
  obtain ⟨opened, between, accepted, run⟩ := run
  rcases of_run_accept accepted with ⟨rfl, rfl, absent⟩ | ⟨count, rfl, there, dropped⟩
  · cases run
    simpa using structShape_of_plain (by rw [Sought.isAt, absent]; rfl)
  · obtain ⟨joint, opening, more, before, rfl⟩ := Sought.exists_of_character '<' (by simp) there
    obtain ⟨values, listed, list, run⟩ := run_bind_eq_ok_iff.mp run
    obtain ⟨_, closed, required, run⟩ := run_bind_eq_ok_iff.mp run
    cases run
    have told := of_run_separatedUntil list
    rw [dropped, before, List.drop_one, List.tail_cons] at told
    split at told
    · obtain ⟨rfl, rfl⟩ := told
      obtain ⟨count, closes, last⟩ := rest_of_run_require required
      obtain ⟨joint, closing, after, filled, rfl⟩ := Sought.exists_of_character '>' (by simp) closes
      rw [dropped, before, List.drop_one, List.tail_cons] at filled
      simp [before, filled, last, dropped, structShape_of_closed]
    · next filled =>
      simp [before, structShape_of_open (Bool.eq_false_iff.mpr filled), told]

/-- Constraints begin with their word. -/
theorem of_run_constraints {found : Bool}
    (run : (constraints grammar).run stream = .ok (found, other)) :
    if found then (Sought.word "where").isAt stream.rest = true else other = stream := by
  rw [constraints, run_bind_eq_ok_iff] at run
  obtain ⟨worded, between, accepted, run⟩ := run
  rcases of_run_accept accepted with ⟨rfl, rfl, -⟩ | ⟨count, rfl, there, -⟩
  · cases run
    rfl
  · have yields : Yields (do
        if ← peekParameters then
          failHere
            (.refused "generic parameters on `where` clauses are reserved for future use")
        let _ ← joinedUntil (.mark ",") peekConstraintEnd (constraint grammar)
        return true) (· = true) :=
      .bind fun _ => .ite (.bind fun _ => .bind fun _ => .pure rfl) (.bind fun _ => .pure rfl)
    obtain rfl : found = true := yields between found other run
    simp [Sought.isAt, there]

theorem of_run_structFields {fields : FieldStyle}
    (run : (structFields grammar).run stream = .ok (fields, other)) :
    fields = .positional ↔ (Sought.opened .parenthesis).isAt stream.rest = true := by
  rw [structFields, run_bind_eq_ok_iff] at run
  obtain ⟨constrained, between, clause, run⟩ := run
  have told := of_run_constraints clause
  rw [StateT.run_bind, run_peek, ok_bind] at run
  split at run
  · next listed =>
    obtain ⟨rfl, opens⟩ : constrained = false ∧ _ := by simpa using listed
    obtain rfl : between = stream := told
    have yields : Yields (do
        positionalFields grammar
        let constrained ← constraints grammar
        unless ← accept (.mark ";") do
          expectedOneOf (if constrained then [.mark ";"] else [.word "where", .mark ";"])
        return .positional) (· = FieldStyle.positional) :=
      .bind fun _ => .bind fun _ => .bind fun _ =>
        .ite (.pure rfl) (.bind fun _ => .pure rfl)
    exact iff_of_true (yields between fields other run) opens
  · next unlisted =>
    have yields : Yields (do
        if ← peek (.opened .brace) then
          namedFields grammar
          return .named
        else if ← accept (.mark ";") then return .unit
        else expectedOneOf (if constrained then [.opened .brace, .mark ";"] else structStart))
        (· ≠ FieldStyle.positional) :=
      .bind fun _ => .ite (.bind fun _ => .pure (by simp))
        (.bind fun _ => .ite (.pure (by simp)) (.expectedOneOf _))
    refine iff_of_false (yields between fields other run) fun opens => ?_
    cases constrained with
    | true =>
        obtain ⟨count, there⟩ := Option.isSome_iff_exists.mp told
        obtain ⟨position, more, before, -⟩ := Sought.exists_of_word there
        simp [before, Sought.isAt, Sought.matched?] at opens
    | false =>
        obtain rfl : between = stream := told
        simp [opens] at unlisted

theorem declared?_struct {name : Name} {count : Nat} {fields : FieldStyle} :
    (Item.struct name count fields).declared? =
      some (name, if count = 0 ∧ fields ≠ .positional then .record else .other) := by
  cases count <;> cases fields <;> rfl

variable [grammar.Skips]

@[spec 2000] theorem lists_structItem : Lists target (structItem grammar) := by
  refine lists_heading (fun name => do
    let count ← parameters grammar
    let fields ← structFields grammar
    return .struct name (count.getD 0) fields) ?_ fun target name => by mvcgen
  intro name stream item other run
  obtain ⟨count, between, counted, run⟩ := run_bind_eq_ok_iff.mp run
  obtain ⟨fields, last, read, run⟩ := run_bind_eq_ok_iff.mp run
  cases run
  have shape := structShape_of_run_parameters counted
  simp only [← Bool.not_eq_true, ← of_run_structFields read] at shape
  rw [declared?_struct, ← shape]
  rfl

/-- The word alone tells the shape of a type that is no struct and no alias. -/
theorem lists_plain {word : String} (shape : Shape) (tail : Name → Parser Item)
    (told : ∀ rest, shape? word rest = some shape)
    (yields : ∀ name, Yields (tail name) fun item => item.declared? = some (name, shape))
    (skips : ∀ target name, Skips target .ragged .clear none (tail name)) :
    Lists target (do
      require (.word word)
      tail (← identifier)) :=
  lists_heading tail (fun name stream item other run => by
    rw [yields name stream item other run, told, Option.map_some]) skips

@[spec 2000] theorem lists_enumItem : Lists target (enumItem grammar) :=
  lists_plain .other (fun name => do
      let _ ← parameters grammar
      let _ ← constraints grammar
      let _ ← within .brace (commaList (variant grammar))
      return .enum name) (fun _ => rfl)
    (fun _ => .bind fun _ => .bind fun _ => .bind fun _ => .pure rfl)
    fun _ _ => by mvcgen

@[spec 2000] theorem lists_unionItem : Lists target (unionItem grammar) :=
  lists_plain .other (fun name => do
      let _ ← parameters grammar
      let _ ← constraints grammar
      namedFields grammar
      return .union name) (fun _ => rfl)
    (fun _ => .bind fun _ => .bind fun _ => .bind fun _ => .pure rfl)
    fun _ _ => by mvcgen

@[spec 2000] theorem lists_traitOrAlias : Lists target (traitOrAlias grammar) := by
  have bounds target := @skips_separatedUntil _ target none (.mark "+")
    (peekAny [.word "where", .mark ";"]) _
    (skips_separator (by simp [Allowed, Scan.Passes]) rfl rfl) (fun _ => by mvcgen)
    (@Grammar.Skips.bound grammar _ target none ⟨false, false⟩ (by simp))
  refine lists_plain .interface (fun name => do
    let _ ← parameters grammar
    let alternatives : List Sought := [.opened .brace, .mark ":", .word "where", .mark "="]
    if ← accept (.mark "=") then
      let _ ← separatedUntil (.mark "+") (peekAny [.word "where", .mark ";"])
        (grammar.bound ⟨false, false⟩)
      let _ ← constraints grammar
      require (.mark ";")
      return .traitAlias name
    else if ← peekAny alternatives then
      traitBody grammar
      return .trait name
    else expectedOneOf alternatives) (fun _ => rfl) (fun _ => ?_) fun target _ => ?_
  · exact .bind fun _ => .bind fun _ =>
      .ite (.bind fun _ => .bind fun _ => .bind fun _ => .pure rfl)
        (.bind fun _ => .ite (.bind fun _ => .pure rfl) (.expectedOneOf _))
  · simp only [accept_eq]
    mvcgen [bounds, -stays_separatedUntil] with simp_all [Allowed, Scan.Passes]

/-- Qualifiers may stand before the word. -/
theorem Lists.after {first : Parser α} {next : α → Parser Item}
    (skips : Skips target .clear .clear none first) (onward : ∀ value, Lists target (next value)) :
    Lists target (first >>= next) := by
  mvcgen [skips, onward]

@[spec 2000] theorem lists_qualifiedTrait : Lists target (qualifiedTrait grammar) := by
  refine .after (skips_accept ⟨by decide, .inl (by decide)⟩ rfl rfl) fun _ =>
    .after (skips_accept ⟨by decide, .inr ⟨rfl, by decide⟩⟩ rfl rfl) fun _ =>
      lists_plain .interface (fun name => do
        let _ ← parameters grammar
        traitBody grammar
        return .trait name) (fun _ => rfl) (fun _ => ?_) fun _ _ => ?_
  · exact .bind fun _ => .bind fun _ => .pure rfl
  · mvcgen

/-- What follows the name of a type tells whether the type is an alias. -/
theorem isAlias_of_run_parameters {count : Option Nat}
    (run : (parameters grammar).run stream = .ok (count, other)) :
    isAlias false 0 stream.rest = isAlias false 0 other.rest := by
  have start : Remains ⟨outline stream.rest, some (isAlias false 0 stream.rest)⟩ .clear
      (some (false, 0)) stream.rest := ⟨.inl rfl, rfl⟩
  simpa using (skips_iff.mp skips_parameters stream count other start run).alias?

theorem isAlias_of_run_constraints {found : Bool}
    (run : (constraints grammar).run stream = .ok (found, other)) :
    isAlias false 0 stream.rest = isAlias found 0 other.rest := by
  have start : Remains ⟨outline stream.rest, some (isAlias false 0 stream.rest)⟩ .ragged
      (some (false, 0)) stream.rest := ⟨.inl rfl, rfl⟩
  have followed := @follows_constraints
    ⟨outline stream.rest, some (isAlias false 0 stream.rest)⟩ (some (false, 0)) grammar _
  unfold Triple at followed
  simp only [SPred.entails, wp_apply] at followed
  have after := followed stream start
  rw [run] at after
  cases found <;> simpa [Scan.bound] using after.alias?

/-- A type that has bounds is no alias. -/
theorem isAlias_of_bounded {rest : List TokenTree} {count : Nat}
    (there : (Sought.mark ":").matched? rest = some count) : isAlias false 0 rest = false := by
  obtain ⟨joint, position, more, rfl, -⟩ := Sought.exists_of_character ':' (by simp) there
  simp [isAlias]

theorem isAlias_of_valued {constrained : Bool} {rest : List TokenTree} {count : Nat}
    (there : (Sought.mark "=").matched? rest = some count) :
    isAlias constrained 0 rest = true := by
  obtain ⟨joint, position, more, rfl, -⟩ := Sought.exists_of_character '=' (by simp) there
  simp [isAlias]

theorem isAlias_of_ended {constrained : Bool} {rest : List TokenTree} {count : Nat}
    (there : (Sought.mark ";").matched? rest = some count) :
    isAlias constrained 0 rest = false := by
  obtain ⟨joint, position, more, rfl, -⟩ := Sought.exists_of_character ';' (by simp) there
  simp [isAlias]

/-- What a declaration of a type reads from its value on. -/
def typeValue (grammar : Grammar) (name : Name) (bounded constrained : Bool) : Parser Item := do
  let valued ← accept (.mark "=")
  if valued then
    let _ ← grammar.typeExpression true
  unless ConstraintPlace.beforeValue = .beforeValue || constrained do
    let _ ← constraints grammar
  require (.mark ";")
  return if valued && !bounded then .alias name else .other

/-- What a declaration of a type reads behind its name. -/
def typeTail (grammar : Grammar) (name : Name) : Parser Item := do
  let _ ← parameters grammar
  let bounded ← accept (.mark ":")
  if bounded then
    let _ ← separatedUntil (.mark "+") (peekAny [.word "where", .mark "=", .mark ";"])
      (grammar.bound ⟨false, true⟩)
  let constrained ← if ConstraintPlace.beforeValue = .afterValue then pure false
    else constraints grammar
  typeValue grammar name bounded constrained

omit [grammar.Skips] in
/-- A type without bounds is an alias if it has a value. -/
theorem declared?_of_run_typeValue {name : Name} {constrained : Bool} {item : Item}
    (run : (typeValue grammar name false constrained).run stream = .ok (item, other)) :
    item.declared? = if isAlias constrained 0 stream.rest then some (name, .alias) else none := by
  rw [typeValue, run_bind_eq_ok_iff] at run
  obtain ⟨valued, valuing, accepted, run⟩ := run
  rcases of_run_accept accepted with ⟨rfl, rfl, -⟩ | ⟨count, rfl, there, -⟩
  · simp only [Bool.false_eq_true, if_false, decide_true, Bool.true_or, if_true] at run
    rw [run_bind_eq_ok_iff] at run
    obtain ⟨_, last, required, run⟩ := run
    obtain ⟨count, ended, -⟩ := rest_of_run_require required
    cases run
    rw [isAlias_of_ended ended]
    rfl
  · rw [isAlias_of_valued there]
    simp only [Bool.not_false, Bool.and_true, if_true] at run
    have ends : Yields (do
        require (.mark ";")
        return Item.alias name) fun item => item.declared? = some (name, .alias) :=
      .bind fun _ => .pure rfl
    exact Yields.bind (fun _ => .ite ends (.bind fun _ => ends)) valuing item other run

omit [grammar.Skips] in
theorem yields_typeValue (name : Name) (constrained : Bool) :
    Yields (typeValue grammar name true constrained) fun item => item.declared? = none := by
  have ends (valued : Bool) : Yields (do
      require (.mark ";")
      return if valued && !true then Item.alias name else .other) fun item =>
        item.declared? = none :=
    .bind fun _ => .pure (by simp [Item.declared?])
  exact .bind fun valued => .ite (.bind fun _ => .ite (ends valued) (.bind fun _ => ends valued))
    (.ite (ends valued) (.bind fun _ => ends valued))

theorem declared?_of_run_typeTail {name : Name} {item : Item}
    (run : (typeTail grammar name).run stream = .ok (item, other)) :
    item.declared? = (shape? "type" stream.rest).map fun shape => (name, shape) := by
  rw [typeTail, run_bind_eq_ok_iff] at run
  obtain ⟨count, opened, counted, run⟩ := run
  rw [run_bind_eq_ok_iff] at run
  obtain ⟨bounded, bounding, accepted, run⟩ := run
  have told : shape? "type" stream.rest =
      if isAlias false 0 opened.rest then some .alias else none := by
    simp [shape?, isAlias_of_run_parameters counted]
  rw [told]
  rcases of_run_accept accepted with ⟨rfl, rfl, -⟩ | ⟨count, rfl, there, -⟩
  · simp only [Bool.false_eq_true, if_false, reduceCtorEq] at run
    rw [run_bind_eq_ok_iff] at run
    obtain ⟨found, constrained, clause, run⟩ := run
    rw [isAlias_of_run_constraints clause, declared?_of_run_typeValue run]
    split <;> rfl
  · rw [isAlias_of_bounded there]
    simp only [if_true] at run
    have onward : Yields (do
        let _ ← separatedUntil (.mark "+") (peekAny [.word "where", .mark "=", .mark ";"])
          (grammar.bound ⟨false, true⟩)
        let constrained ← if ConstraintPlace.beforeValue = .afterValue then pure false
          else constraints grammar
        typeValue grammar name true constrained) fun item => item.declared? = none :=
      .bind fun _ => .bind fun _ => yields_typeValue name _
    exact onward bounding item other run

theorem skips_typeTail (target : Target) (name : Name) :
    Skips target .ragged .clear none (typeTail grammar name) := by
  have bounds := @skips_separatedUntil _ target none (.mark "+")
    (peekAny [.word "where", .mark "=", .mark ";"]) _
    (skips_separator (by simp [Allowed, Scan.Passes]) rfl rfl) (fun _ => by mvcgen)
    (@Grammar.Skips.bound grammar _ target none ⟨false, true⟩ (by simp))
  simp only [typeTail, typeValue, accept_eq, reduceCtorEq, if_false, decide_true, Bool.true_or,
    if_true]
  mvcgen [bounds, -stays_separatedUntil] with
    first | exact .of_clear ‹_› | simp_all [Allowed, Scan.Passes]

@[spec 2000] theorem lists_typeDeclaration :
    Lists target (typeDeclaration grammar .beforeValue) :=
  lists_heading (typeTail grammar) (fun _ _ _ _ run => declared?_of_run_typeTail run)
    skips_typeTail

@[simp] theorem declared?_other : Item.other.declared? = none := rfl

@[simp] theorem declared?_function {name : Name} {statements : List Statement} :
    (Item.function name statements).declared? = none := rfl

theorem types_of_clear {rest : List TokenTree} (remains : Remains target .clear none rest) :
    target.types = outline rest := by
  simpa using remains.types

@[spec 2000] theorem lists_functionItem : Lists target (functionItem grammar) := by
  simp only [functionItem, body, accept_eq]
  mvcgen with simp_all [Allowed, Scan.Passes, edgeAfter]
  all_goals exact types_of_clear ‹_›

@[spec 2000] theorem lists_unkeptItem {parser : Parser Unit}
    (skips : Skips target .clear .clear none parser) : Lists target (unkeptItem parser) := by
  unfold unkeptItem
  mvcgen [skips] with simp_all
  exact types_of_clear ‹_›

@[spec 2000] theorem lists_unsafeItem : Lists target (unsafeItem grammar) := by
  have allowed : Allowed .clear none (.word "unsafe") := ⟨by decide, .inl (by decide)⟩
  unfold unsafeItem
  mvcgen with simp_all
  all_goals exact types_of_clear ‹_›

@[spec 2000] theorem lists_item : Lists target (item grammar) := by
  have allowed : Allowed .clear none (.word "const") := ⟨by decide, .inl (by decide)⟩
  simp only [item, accept_eq]
  mvcgen with (try simp_all)

/-- Each depth of the grammar declares nothing besides its items if the depth below does not. -/
instance skips_grammar (depth : Nat) : (Parser.grammar depth).Skips := by
  induction depth with
  | zero =>
      have fails : ∀ {α : Type} (target : Target) (edge after : Edge) (scan : Scan),
          Skips target edge after scan (failHere (.expected []) : Parser α) :=
        fun target edge after scan => by mvcgen; exact False.elim
      exact
        { typeExpression := fun target scan _ _ => fails target _ _ scan
          bound := fun target scan _ _ => fails target _ _ scan
          expression := fun target _ => fails target _ _ none
          operand := fun target _ => fails target _ _ none
          operators := fun target _ _ _ => fails target _ _ none
          pattern := fun target => fails target _ _ none
          importTree := fun target _ => fails target _ _ none }
  | succ depth ih =>
      exact
        { typeExpression := fun _ _ plus settled => skips_typeExpression plus settled
          bound := fun _ _ rules settled => skips_bound rules settled
          expression := fun _ structs => skips_expression structs
          operand := fun _ structs => skips_operand structs
          operators := fun _ first structs weakest => skips_operators first structs weakest
          pattern := fun _ => skips_pattern
          importTree := fun _ rooted => skips_importTree rooted }

/-- One item after the other is listed. -/
theorem outline_of_run_many {step : Parser (Option Item)}
    (lists : ∀ target, ⦃fun stream => ⌜Remains target .clear none stream.rest⌝⦄ step
      ⦃post⟨fun item? stream => ⌜target.types =
        (item?.bind Item.declared?).toList ++ outline stream.rest⌝, fun _ => ⌜True⌝⟩⦄)
    {items : List Item} (run : (many step).run stream = .ok (items, other)) :
    outline stream.rest = items.filterMap Item.declared? ++ outline other.rest := by
  have listed {stream other : Stream} {item? : Option Item}
      (run : step.run stream = .ok (item?, other)) :
      outline stream.rest = (item?.bind Item.declared?).toList ++ outline other.rest := by
    have triple := lists ⟨outline stream.rest, none⟩
    unfold Triple at triple
    simp only [SPred.entails, wp_apply] at triple
    simpa [run] using triple stream ⟨.inl rfl, rfl⟩
  have steps (count : Nat) {stream other : Stream} {items : List Item}
      (run : (repeatUpTo step count).run stream = .ok (items, other)) :
      outline stream.rest = items.filterMap Item.declared? ++ outline other.rest := by
    induction count generalizing stream items with
    | zero =>
        cases run
        rfl
    | succ count ih =>
        rw [repeatUpTo, run_bind_eq_ok_iff] at run
        obtain ⟨item?, between, stepped, run⟩ := run
        rw [listed stepped]
        cases item? with
        | none =>
            cases run
            rfl
        | some item =>
            rw [run_bind_eq_ok_iff] at run
            obtain ⟨others, last, repeated, run⟩ := run
            cases run
            rw [ih repeated, ← List.append_assoc]
            cases declared : item.declared? <;> simp [declared]
  rw [many, run_bind_eq_ok_iff] at run
  obtain ⟨before, same, got, run⟩ := run
  cases got
  exact steps _ run

/-- The items of a file in turn. -/
theorem outline_of_run_untilEnd {depth : Nat} {items : List Item}
    (run : (untilEnd do
      outerAttributes (Parser.grammar (depth + 1))
      (Parser.grammar (depth + 1)).item).run stream = .ok (items, other)) :
    outline stream.rest = items.filterMap Item.declared? ++ outline other.rest := by
  refine outline_of_run_many (fun target => ?_) run
  have item : Lists target (Parser.grammar (depth + 1)).item := lists_item
  mvcgen [item, -Grammar.Keeps.item]
  simpa using types_of_clear ‹_›

end Parser

/-- The items of a file declare the types in the outline of its tokens. -/
theorem SourceFile.outline_of_parse {text : String} {source : SourceFile}
    (parsed : SourceFile.parse text = .ok source) :
    ∃ trees, Lexer.tokenTrees (withoutInterpreter text.toList) = .ok trees ∧
      source.items.filterMap Item.declared? = outline trees := by
  obtain ⟨trees, found, cut, read⟩ := SourceFile.parse_eq_ok_iff.mp parsed
  obtain ⟨last, run, -, ended, -⟩ := Parser.runWithin_eq_ok_iff.mp read
  refine ⟨trees, cut, ?_⟩
  obtain ⟨after, attributes, -, listed⟩ := Parser.of_run_file run
  have start : Remains ⟨outline trees, none⟩ .clear none trees := ⟨.inl rfl, rfl⟩
  have skipped := Parser.types_of_clear
    (Parser.skips_iff.mp Parser.skips_innerAttributes _ _ _ start attributes)
  have all := Parser.outline_of_run_untilEnd listed
  rw [ended] at all
  rw [show outline [] = [] from rfl, List.append_nil] at all
  exact all.symm.trans skipped.symm

end RecordRegistry
