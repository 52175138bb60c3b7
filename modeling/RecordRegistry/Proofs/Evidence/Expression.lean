/-
# The tokens of expressions

Of an expression it is kept whether it is a path, a call or the use of a textual definition.  Each
of these spans the tokens of its parts, with attributes perhaps before them.  Behind everything else
no particular tokens stand.
-/

import RecordRegistry.Proofs.Evidence.Type
import RecordRegistry.Proofs.Reading.List

namespace RecordRegistry

open Std.Do

set_option mvcgen.warning false

/-- Nothing is kept of the parts of an expression. -/
def Expression.IsUnkept : Expression → Prop
  | .call _ _ | .path _ _ | .invocation _ _ => False
  | _ => True

/-- The tokens of an expression, as far as it is kept.  A call spans its callee and a group for the
arguments, which begins with the tokens of the first one. -/
inductive Expression.Spans : Expression → List TokenTree → Prop
  | path {start : Option TypeExpression} {path : Path} {taken : List TokenTree}
      (starts : Path.Starts TypeExpression.Spans (start, path) taken) :
      Spans (.path start path) taken
  | call {callee argument : Expression} {others : List Expression}
      {before front more : List TokenTree} {opening closing : Position}
      (calls : callee.Spans before) (begins : argument.Spans front) (ends : Parser.Ends more) :
      Spans (.call callee (argument :: others))
        (before ++ [.group .parenthesis opening closing (front ++ more)])
  | bare {callee : Expression} {before content : List TokenTree} {opening closing : Position}
      (calls : callee.Spans before) :
      Spans (.call callee []) (before ++ [.group .parenthesis opening closing content])
  | invocation {path : Path} {own mark content : List TokenTree} {delimiter : Delimiter}
      {opening closing : Position} (plain : path.isPlain = true) (names : path.Spans own)
      (marked : (Sought.mark "!").Is mark) :
      Spans (.invocation delimiter content)
        (own ++ (mark ++ [.group delimiter opening closing content]))
  | unkept {value : Expression} {taken : List TokenTree} (unkept : value.IsUnkept) :
      Spans value taken
  | attributed {value : Expression} {front taken : List TokenTree} (attributes : IsAttributes front)
      (spans : value.Spans taken) : Spans value (front ++ taken)

theorem Parser.Separated.ends {α : Type} {stands : α → List TokenTree → Prop} {first : α}
    {others : List α} {content : List TokenTree}
    (separated : Separated stands (first :: others) content) :
    ∃ front more, content = front ++ more ∧ stands first front ∧ Ends more := by
  cases separated with
  | last stood => exact ⟨content, [], by simp, stood, .nil⟩
  | cons stood onward => exact ⟨_, _, rfl, stood, .comma⟩

/-- The productions that take part in an expression attest what they keep. -/
class Grammar.Attests (grammar : Grammar) : Prop where
  keeps : grammar.Keeps
  typeExpression plus : Parser.Attests (grammar.typeExpression plus) TypeExpression.Spans
  expression structs : Parser.Attests (grammar.expression structs) Expression.Spans
  operand structs : Parser.Attests (grammar.operand structs) Expression.Spans

attribute [instance] Grammar.Attests.keeps

namespace Parser

variable {grammar : Grammar}

/-- What the tokens behind an expression make of it. -/
def Extends (first value : Expression) (more : List TokenTree) : Prop :=
  ∀ own, first.Spans own → value.Spans (own ++ more)

theorem extends_refl (value : Expression) : Extends value value [] := fun own spans => by
  simpa using spans

theorem extends_unkept {first value : Expression} {more : List TokenTree}
    (unkept : value.IsUnkept) : Extends first value more := fun _ _ => .unkept unkept

theorem Extends.trans {first second third : Expression} {more after : List TokenTree}
    (one : Extends first second more) (other : Extends second third after) :
    Extends first third (more ++ after) := fun own spans => by
  simpa using other _ (one own spans)

variable [grammar.Attests]

theorem attests_operatorStep (first : Expression) (structs : Bool) (weakest : Precedence) :
    Attests (operatorStep grammar first structs weakest) fun value? taken =>
      match value? with
      | some value => value.IsUnkept
      | none => taken = [] := by
  have longer {parser : Parser (Option Expression)} (stays : ∀ ground, Stays ground parser)
      (yields : Yields parser fun value? => ∃ value, value? = some value ∧ value.IsUnkept) :
      Attests parser fun value? taken =>
        match value? with
        | some value => value.IsUnkept
        | none => taken = [] := by
    refine (Attests.of_yields stays yields).mono ?_
    rintro _ taken ⟨value, rfl, unkept⟩
    exact unkept
  unfold operatorStep
  split
  · exact .pure rfl
  · refine .look attests_get fun stream => ?_
    dsimp only
    split
    · next marks precedence joined =>
      exact .ite (.pure rfl) (longer (fun ground => by mvcgen with simp_all)
        (.optional (.bind fun _ => .bind fun _ => .pure ⟨_, rfl, by split <;> trivial⟩)))
    · have other : ∃ value, some Expression.other = some value ∧ value.IsUnkept :=
        ⟨_, rfl, trivial⟩
      have ranges : Yields (rangeFromDots grammar structs) Expression.IsUnkept :=
        .bind fun _ => .bind fun _ => .ite (.pure trivial) (.bind fun _ => .pure trivial)
      exact .ite (.pure rfl) (longer (fun ground => by mvcgen with simp_all)
        (.ite (.bind fun _ => .bind fun _ => .pure other)
          (.ite (ranges.map fun value unkept => ⟨value, rfl, unkept⟩)
            (.bind fun _ => .bind fun _ => .bind fun _ => .pure other))))

theorem attests_operatorsFrom (structs : Bool) (weakest : Precedence) (first : Expression)
    (count : Nat) :
    Attests (operators.go grammar structs weakest first count) (Extends first) := by
  induction count generalizing first with
  | zero => exact .pure (extends_refl first)
  | succ count ih =>
      refine (attests_operatorStep first structs weakest).bind fun value? => ?_
      cases value? with
      | none =>
          refine .pure fun taken none => ?_
          obtain rfl : taken = [] := none
          exact extends_refl first
      | some longer =>
          exact (ih longer).mono fun value more onward taken unkept =>
            (extends_unkept unkept).trans onward

theorem attests_operators (first : Expression) (structs : Bool) (weakest : Precedence) :
    Attests (operators grammar first structs weakest) (Extends first) :=
  .look attests_get fun _ => attests_operatorsFrom structs weakest first _

theorem attests_expression (structs : Bool) :
    Attests (expression grammar structs) Expression.Spans :=
  (Grammar.Attests.operand structs).bind fun first =>
    (attests_operators first structs .lowest).mono fun _ _ onward own spans => onward own spans

theorem attests_arguments : Attests (arguments grammar) fun arguments taken =>
    ∃ opening closing content, taken = [.group .parenthesis opening closing content] ∧
      Separated Expression.Spans arguments content :=
  attests_within (attests_commaList (Grammar.Attests.expression true))

theorem attests_trailerStep (first : Expression) :
    Attests (trailerStep grammar first) fun value? taken =>
      match value? with
      | some value => Extends first value taken
      | none => taken = [] := by
  unfold trailerStep
  refine .look (attests_peek _) fun _ => .ite ?_ ?_
  · refine attests_arguments.bind fun values => .pure ?_
    rintro _ ⟨opening, closing, content, rfl, separated⟩ own spans
    cases values with
    | nil => simpa using .bare spans
    | cons argument others =>
        obtain ⟨front, more, rfl, begins, ends⟩ := separated.ends
        simpa using .call spans begins ends
  · have other {parser : Parser (Option Expression)} (stays : ∀ ground, Stays ground parser)
        (yields : Yields parser (· = some .other)) : Attests parser fun value? taken =>
          match value? with
          | some value => Extends first value taken
          | none => taken = [] := by
      refine (Attests.of_yields stays yields).mono ?_
      rintro _ taken rfl
      exact extends_unkept trivial
    refine .look (attests_peekBut _ _) fun _ => .ite ?_ (.look (attests_peek _) fun _ => .ite ?_
      (.ite (.pure rfl) (.accepting ?_ (.pure rfl))))
    · exact other (fun ground => by mvcgen with simp_all) (.bind fun _ => .bind fun _ => .pure rfl)
    · exact other (fun ground => by mvcgen) (.bind fun _ => .pure rfl)
    · exact .pure fun taken _ => extends_unkept trivial

theorem attests_trailersFrom (first : Expression) (count : Nat) :
    Attests (trailers.go grammar first count) (Extends first) := by
  induction count generalizing first with
  | zero => exact .pure (extends_refl first)
  | succ count ih =>
      refine (attests_trailerStep first).bind fun value? => ?_
      cases value? with
      | none =>
          refine .pure fun taken none => ?_
          obtain rfl : taken = [] := none
          exact extends_refl first
      | some longer =>
          exact (ih longer).mono fun value more onward taken extended => extended.trans onward

theorem attests_trailers (first : Expression) :
    Attests (trailers grammar first) (Extends first) :=
  .look attests_get fun _ => attests_trailersFrom first _

theorem attests_pathExpression (structs : Bool) :
    Attests (pathExpression grammar structs) Expression.Spans := by
  refine (attests_qualifiedPath (Grammar.Attests.typeExpression true) true).bind
    fun (start, path) => .look (attests_peekBut _ _) fun _ => ?_
  dsimp only
  split
  · next plain =>
    simp only [Bool.and_eq_true, Option.isNone_iff_eq_none] at plain
    obtain ⟨⟨rfl, plain⟩, -⟩ := plain
    refine (attests_require _).bind fun _ => attests_anyGroup.bind fun (delimiter, content) =>
      .pure ?_
    rintro _ ⟨opening, closing, rfl⟩ mark marked own starts
    cases starts with
    | name spans => exact .invocation plain spans marked
  · have fields : Attests (within .brace (fieldValues grammar)) fun _ _ => True :=
      .of_stays fun ground => by mvcgen
    refine .look (attests_peek _) fun _ => .ite ?_ ?_
    · exact fields.bind fun _ => .pure fun _ _ _ _ => .unkept trivial
    · exact .pure fun taken starts => by simpa using .path starts

theorem attests_peekBinder : Looks peekBinder :=
  .look (attests_peek _) fun _ => .look (attests_peekSecond _) fun _ => .look (attests_peekThird _)
    fun _ => .look (attests_peekThird _) fun _ => .pure rfl

/-- A construct that ends in a block, if there is one; otherwise nothing is taken. -/
theorem attests_blockLike : Attests (blockLike grammar) fun first? taken =>
    match first? with
    | some first => first.IsUnkept
    | none => taken = [] := by
  have block {parser : Parser (Option Expression)} (stays : ∀ ground, Stays ground parser)
      (yields : Yields parser (· = some .block)) : Attests parser fun first? taken =>
        match first? with
        | some first => first.IsUnkept
        | none => taken = [] := by
    refine (Attests.of_yields stays yields).mono ?_
    rintro _ taken rfl
    trivial
  have one {α : Type} {parser : Parser α} : Yields (do
      let _ ← parser
      return some Expression.block) (· = some .block) := .bind fun _ => .pure rfl
  refine .look (attests_peek _) fun _ => .ite (block (fun ground => by mvcgen) one) ?_
  refine .look (attests_peek _) fun _ => .ite (block (fun ground => by mvcgen) one) ?_
  refine .look (attests_peek _) fun _ => .look attests_peekBinder fun _ =>
    .ite (block (fun ground => by mvcgen) one) ?_
  refine .look (attests_peek _) fun _ => .ite (block (fun ground => by mvcgen) one) ?_
  refine .look (attests_peek _) fun _ => .ite (block (fun ground => by mvcgen) one) ?_
  refine .look (attests_peek _) fun _ => .look (attests_peekSecond _) fun _ =>
    .ite (block (fun ground => by mvcgen with simp_all) (.bind fun _ => one)) ?_
  refine .accepting ?_ ?_
  · have qualified : Attests (do
        let _ ← body grammar
        return some Expression.block) fun first? _ => first? = some .block :=
      .of_yields (fun ground => by mvcgen) one
    refine qualified.mono ?_
    rintro _ more rfl taken is
    trivial
  refine .look (attests_peek _) fun _ => .look (attests_peekSecond _) fun _ =>
    .ite (block (fun ground => by mvcgen) one) ?_
  refine .look (attests_peek _) fun _ => .ite (block (fun ground => by mvcgen) one) ?_
  exact .look (attests_peek _) fun _ => .ite (block (fun ground => by mvcgen) one) (.pure rfl)

theorem attests_peekPathWord : Looks peekPathWord := attests_peekAny _

theorem attests_peekPathExpression : Looks peekPathExpression :=
  .look (attests_peekAny _) fun _ => .ite (.pure rfl) (.look attests_peekPathWord fun _ =>
    .ite (.pure rfl) (.look (attests_peek _) fun _ => .look (attests_peekSecond _) fun _ =>
      .look (attests_peekSecond _) fun _ => .pure rfl))

theorem attests_peekDeferred : Looks peekDeferred := by
  refine .look (attests_peek _) fun _ => .ite ?_ (.pure rfl)
  exact .look (attests_peekSecond _) fun _ => .ite (.pure rfl)
    (.look (attests_peekSecond _) fun _ => .look (attests_peekThird _) fun _ => .pure rfl)

theorem attests_peekClosure : Looks peekClosure :=
  .look (attests_peekAny _) fun _ => .ite (.pure rfl) (.look attests_peekBinder fun _ =>
    .ite (.pure rfl) (.look (attests_peek _) fun _ => .look (attests_peekSecond _) fun _ =>
      .ite (.pure rfl) (.look (attests_peek _) fun _ => .look (attests_peekSecond _) fun _ =>
        .look (attests_peekSecond _) fun _ => .pure rfl)))

/-- Of the forms of an operand only the paths are kept. -/
theorem attests_atom (structs : Bool) : Attests (atom grammar structs) Expression.Spans := by
  have unkept {parser : Parser Expression} (stays : ∀ ground, Stays ground parser)
      (yields : Yields parser Expression.IsUnkept) : Attests parser Expression.Spans :=
    (Attests.of_yields stays yields).mono fun _ _ unkept => .unkept unkept
  have closures : Yields (closure grammar structs) Expression.IsUnkept :=
    .bind fun _ => .bind fun _ => .bind fun _ => .bind fun _ => .bind fun _ => .bind fun _ =>
      .bind fun _ => .bind fun _ => .bind fun _ =>
        .ite (.bind fun _ => .bind fun _ => .pure trivial) (.bind fun _ => .pure trivial)
  have parentheses : Yields (parenthesizedExpression grammar) Expression.IsUnkept :=
    .bind fun _ => .pure trivial
  have breaks : Yields (breakJump grammar structs) Expression.IsUnkept := by
    have valued : Yields (do
        if (← peekExpression) && (structs || !(← peek (.opened .brace))) then
          let _ ← grammar.expression structs
        return Expression.other) Expression.IsUnkept :=
      .bind fun _ => .bind fun _ => .optional (.pure trivial)
    exact .bind fun _ => .bind fun _ => .bind fun _ => .bind fun _ =>
      .ite (.bind fun _ => .ite (.bind fun _ => .bind fun _ => .bind fun _ => valued) valued) valued
  have jumps (word : String) : Yields (valueJump grammar word) Expression.IsUnkept :=
    .bind fun _ => .bind fun _ => .optional (.pure trivial)
  have conditions : Yields (letCondition grammar structs) Expression.IsUnkept :=
    .bind fun _ => .bind fun _ => .bind fun _ => .bind fun _ => .bind fun _ => .pure trivial
  have ranges : Yields (rangeFromDots grammar structs) Expression.IsUnkept :=
    .bind fun _ => .bind fun _ => .ite (.pure trivial) (.bind fun _ => .pure trivial)
  have builtIns : Yields builtIn Expression.IsUnkept :=
    .bind fun _ => .bind fun _ => .bind fun _ => .bind fun _ => .pure trivial
  refine .accepting (.pure fun _ _ => .unkept trivial) ?_
  refine .look attests_peekDeferred fun _ => .ite (unkept (fun ground => by mvcgen with simp_all)
    (.bind fun _ => .bind fun _ => .bind fun _ => .pure trivial)) ?_
  refine .look attests_peekClosure fun _ =>
    .ite (unkept (fun ground => stays_closure structs) closures) ?_
  refine .look (attests_peek _) fun _ => .look (attests_peekSecond _) fun _ =>
    .ite (unkept (fun ground => stays_builtIn) builtIns) ?_
  refine .look attests_peekPathExpression fun _ => .ite (attests_pathExpression structs) ?_
  refine attests_blockLike.bind fun first? => ?_
  cases first? with
  | some first => exact .pure fun taken unkept => .unkept unkept
  | none =>
      refine (unkept (fun ground => by mvcgen with simp_all) ?_).mono
        fun value more spans taken none => ?_
      · refine .bind fun _ => .ite parentheses (.bind fun _ => .ite breaks (.bind fun _ => .ite
          (.bind fun _ => .pure trivial) (.bind fun _ => .ite (jumps _) (.bind fun _ => .ite
            (.bind fun _ => .pure trivial) ?_))))
        refine .bind fun _ => .ite (.bind fun _ => .pure trivial) (.bind fun _ => .ite conditions
          (.bind fun _ => .ite (jumps _) (.bind fun _ => .ite ranges (.bind fun _ => .ite
            (.pure trivial) ?_))))
        rintro stream value other ⟨⟩
      · obtain rfl : taken = [] := none
        exact spans

/-- Attributes may stand before an operand, and calls and selections behind it. -/
theorem attests_operand (structs : Bool) : Attests (operand grammar structs) Expression.Spans := by
  have unkept {parser : Parser Expression} (stays : ∀ ground, Stays ground parser)
      (yields : Yields parser Expression.IsUnkept) : Attests parser fun value _ => value.IsUnkept :=
    .of_yields stays yields
  have negated : Attests (do
      let _ ← grammar.operand structs
      return Expression.other) fun value _ => value.IsUnkept :=
    unkept (fun ground => by mvcgen) (.bind fun _ => .pure trivial)
  have checked (stream : Stream) (position : Position) (value : Expression)
      (unread limited : Bool) : Attests (do
        if unread then modify ({ · with found := stream.found })
        if limited then
          failAt position "attributes are not allowed on range expressions starting with `..`"
        return value) fun result taken => result = value ∧ taken = [] := by
    have ends : Attests (do
        if limited then
          failAt position "attributes are not allowed on range expressions starting with `..`"
        return value) fun result taken => result = value ∧ taken = [] := by
      refine .ite ?_ (.pure ⟨rfl, rfl⟩)
      rintro stream value other ⟨⟩
    exact .ite (.look (attests_note _) fun _ => ends) ends
  refine .look attests_get fun stream => .look (attests_peek _) fun attributed =>
    attests_outerAttributes.bind fun _ => .accepting ?_ ?_
  · refine (unkept (fun ground => by mvcgen with simp_all) ?_).mono
      fun value more unkept _ _ _ _ => .unkept unkept
    exact .bind fun _ => .bind fun _ => .bind fun _ => .optional (.bind fun _ => .optional
      (.bind fun _ => .pure trivial))
  refine (attests_acceptAny _).bind fun found => ?_
  cases found with
  | true => exact negated.mono fun value more unkept _ _ _ _ => .unkept unkept
  | false =>
    refine .look attests_here fun position => (attests_atom structs).bind fun first =>
      (attests_trailers first).bind fun value => (checked stream position value _ _).mono ?_
    rintro _ _ ⟨rfl, rfl⟩ more behind own spans taken none front attributes
    obtain rfl := none rfl
    simpa using .attributed attributes (behind own spans)

/-- An expression as a statement begins with a block or is an operand with what joins it. -/
theorem attests_bounded : Attests (bounded grammar) Expression.Spans := by
  refine attests_outerAttributes.bind fun _ => attests_blockLike.bind fun first? => ?_
  cases first? with
  | some first =>
      refine .look (attests_peekBut _ _) fun _ => .look (attests_peek _) fun _ => .ite ?_ (.pure ?_)
      · refine (attests_trailers first).bind fun longer =>
          (attests_operators longer true .lowest).mono ?_
        intro value more onward behind extended own unkept front attributes
        exact .attributed attributes ((extended.trans onward) own (.unkept unkept))
      · exact fun own unkept front _ => .unkept unkept
  | none =>
      refine (Grammar.Attests.operand true).bind fun first =>
        (attests_operators first true .lowest).mono ?_
      rintro value more onward own spans taken none front attributes
      obtain rfl : taken = [] := none
      exact .attributed attributes (onward own spans)

/-- Each depth of the grammar attests what it keeps if the depth below does. -/
instance attests_grammar (depth : Nat) : (Parser.grammar depth).Attests := by
  induction depth with
  | zero =>
      exact
        { keeps := keeps_grammar 0
          typeExpression := fun _ => attests_failHere _
          expression := fun _ => attests_failHere _
          operand := fun _ => attests_failHere _ }
  | succ depth ih =>
      exact
        { keeps := keeps_grammar (depth + 1)
          typeExpression := fun plus => attests_typeExpression plus
          expression := fun structs => attests_expression structs
          operand := fun structs => attests_operand structs }

end Parser

end RecordRegistry
