/-
# The tokens of paths and types

A path spans its names with two colons between them; what follows a name may be arguments, and
nothing if the path is kept without.  A type that is kept as a path spans this path, or begins with
a bracketed type.
-/

import RecordRegistry.Proofs.Evidence.Attesting
import RecordRegistry.Proofs.Provenance.Item

namespace RecordRegistry

open Std.Do

set_option mvcgen.warning false

/-- Attributes: each is a number sign with a group between brackets behind it. -/
inductive IsAttributes : List TokenTree → Prop
  | nil : IsAttributes []
  | cons {joint : Bool} {position opening closing : Position} {content rest : List TokenTree}
      (onward : IsAttributes rest) :
      IsAttributes (.mark '#' joint position :: .group .bracket opening closing content :: rest)

/-- The tokens of a segment: its name, with nothing behind it if it is kept without arguments. -/
inductive Segment.Spans : Segment → List TokenTree → Prop
  | intro {name : Name} {kind : Arguments} {written : List TokenTree}
      (bare : kind = .none → written = []) :
      Spans ⟨name, kind⟩ (.name name.spelling name.position :: written)

/-- The tokens of a segment with two colons before it. -/
def Segment.Follows (segment : Segment) (taken : List TokenTree) : Prop :=
  ∃ colons own, taken = colons ++ own ∧ (Sought.mark "::").Is colons ∧ segment.Spans own

/-- The two colons that a path may start with. -/
def Path.Roots (rooted : Bool) (root : List TokenTree) : Prop :=
  if rooted then (Sought.mark "::").Is root else root = []

/-- The tokens of a path: its segments, with two colons between them, and before the first one if it
starts at the root of all names. -/
inductive Path.Spans : Path → List TokenTree → Prop
  | intro {rooted : Bool} {first : Segment} {others : List Segment}
      {root own more : List TokenTree}
      (rooting : Roots rooted root)
      (begins : first.Spans own) (onward : Parser.Repeated Segment.Follows others more) :
      Spans ⟨rooted, first :: others⟩ (root ++ own ++ more)

/-- Nothing is kept of the names of a type. -/
def TypeExpression.IsUnnamed (type : TypeExpression) : Prop :=
  ∀ qualified path, type ≠ .path qualified path

namespace TypeExpression

@[simp] theorem isUnnamed_other : other.IsUnnamed := by simp [IsUnnamed]

@[simp] theorem isUnnamed_parenthesized : parenthesized.IsUnnamed := by simp [IsUnnamed]

@[simp] theorem isUnnamed_bounds {single : Bool} : (bounds single).IsUnnamed := by simp [IsUnnamed]

end TypeExpression

/-- The tokens of a type, as far as it is kept: those of its path, or a bracketed type with further
tokens. -/
inductive TypeExpression.Spans : TypeExpression → List TokenTree → Prop
  | path {path : Path} {taken : List TokenTree} (spans : path.Spans taken) :
      Spans (.path false path) taken
  | qualified {path : Path} {taken : List TokenTree} {joint : Bool} {position : Position}
      (begins : .mark '<' joint position ∈ taken) : Spans (.path true path) taken
  | unnamed {type : TypeExpression} {taken : List TokenTree} (unnamed : type.IsUnnamed) :
      Spans type taken

/-- The tokens of a path that may start from a bracketed type: the latter stands in front, perhaps
with a trait, and what is named of it comes behind the brackets. -/
inductive Path.Starts (typed : TypeExpression → List TokenTree → Prop) :
    Option TypeExpression × Path → List TokenTree → Prop
  | name {path : Path} {taken : List TokenTree} (spans : path.Spans taken) :
      Starts typed (none, path) taken
  | bracketed {type : TypeExpression} {path : Path} {first last : Bool} {opening closing : Position}
      {own trait colons function : List TokenTree} (stood : typed type own)
      (named : (Sought.mark "::").Is colons) :
      Starts typed (some type, path) (.mark '<' first opening ::
        (own ++ (trait ++ .mark '>' last closing :: (colons ++ function))))

/-- What stands behind a segment may belong to it, unless it is kept without arguments. -/
theorem Segment.Spans.extend {segment : Segment} {taken : List TokenTree} (kind : Arguments)
    (spans : segment.Spans taken) (kept : kind ≠ .none) (behind : List TokenTree) :
    Segment.Spans { segment with arguments := kind } (taken ++ behind) := by
  cases spans with
  | intro bare => exact .intro fun none => absurd none kept

namespace Path

variable {path : Path} {more : List Segment} {taken behind : List TokenTree}

theorem Spans.append (spans : path.Spans taken)
    (onward : Parser.Repeated Segment.Follows more behind) :
    Spans { path with segments := path.segments ++ more } (taken ++ behind) := by
  cases spans with
  | intro rooting begins earlier =>
      rw [List.append_assoc]
      exact .intro rooting begins (earlier.append onward)

/-- The arguments and the result of a callable belong to the last segment. -/
theorem Spans.parenthesizeLast (spans : path.Spans taken) (behind : List TokenTree) :
    path.parenthesizeLast.Spans (taken ++ behind) := by
  cases spans with
  | @intro rooted first others root own more rooting begins earlier =>
      rcases List.eq_nil_or_concat others with rfl | ⟨init, last, rfl⟩
      · cases earlier
        have extended := Segment.Spans.extend .parenthesized begins (by simp) behind
        simpa [Path.parenthesizeLast] using Spans.intro rooting extended .nil
      · rw [List.concat_eq_append] at earlier
        obtain ⟨before, ending, rfl, initial, colons, own, rfl, separated, ended⟩ :=
          earlier.exists_of_concat
        have extended := Segment.Spans.extend .parenthesized ended (by simp) behind
        have follows : Segment.Follows { last with arguments := .parenthesized }
            (colons ++ (own ++ behind)) := ⟨colons, _, rfl, separated, extended⟩
        have spans := Spans.intro rooting begins (initial.append (.cons follows .nil))
        simp only [Path.parenthesizeLast, List.concat_eq_append, ← List.cons_append,
          List.dropLast_concat, List.getLast?_concat]
        simpa using spans

end Path

namespace Parser

variable {grammar : Grammar} {plus : Bool}

theorem attests_rooted {α : Type} {stands : α → List TokenTree → Prop} {next : Bool → Parser α}
    (onward : ∀ rooted, Attests (next rooted) fun value taken =>
      ∀ root, Path.Roots rooted root → stands value (root ++ taken)) :
    Attests (accept (.mark "::") >>= next) stands :=
  .accepting ((onward true).mono fun _ _ told root is => told root is)
    ((onward false).mono fun _ _ told => told [] rfl)

theorem attests_peekName : Looks modulePath.peekName := attests_peekAny _

theorem attests_modulePath : Attests modulePath fun path taken =>
    path.isPlain = true ∧ path.Spans taken := by
  have named {message : String} : Attests (do
      if ← modulePath.peekName then anyName else failHere (.refused message)) fun name taken =>
        taken = [.name name.spelling name.position] :=
    .look attests_peekName fun _ => .ite attests_anyName (attests_failHere _)
  have follows {names : List Name} {more : List TokenTree}
      (repeated : Repeated (fun name taken => ∃ colons own, taken = colons ++ own ∧
        (Sought.mark "::").Is colons ∧ own = [.name name.spelling name.position]) names more) :
      Repeated Segment.Follows (names.map (⟨·, .none⟩)) more := by
    induction repeated with
    | nil => exact .nil
    | cons stood onward ih =>
        obtain ⟨colons, own, rfl, is, rfl⟩ := stood
        exact .cons ⟨colons, _, rfl, is, .intro fun _ => rfl⟩ ih
  have others (rooted : Bool) (first : Name) : Attests (do
      let others ← whileHolds (accept (.mark "::")) do
        if ← modulePath.peekName then anyName
        else failHere (.refused "expected path segment after `::`")
      return (⟨rooted, (first :: others).map (⟨·, .none⟩)⟩ : Path)) fun path more =>
        ∀ own, own = [.name first.spelling first.position] → ∀ root, Path.Roots rooted root →
          path.isPlain = true ∧ path.Spans (root ++ (own ++ more)) := by
    refine (attests_whileAccepted named).bind fun others => .pure ?_
    rintro more repeated own rfl root rooting
    have begins : Segment.Spans ⟨first, .none⟩ [.name first.spelling first.position] :=
      .intro fun _ => rfl
    have spans := Path.Spans.intro rooting begins (follows repeated)
    exact ⟨by simp [Path.isPlain], by simpa using spans⟩
  exact attests_rooted fun rooted => .look attests_peekName fun _ =>
    .ite (attests_anyName.bind fun first => others rooted first)
      (attests_identifier.bind fun first => others rooted first)

theorem unnamed_sum : Yields (sum grammar) TypeExpression.IsUnnamed :=
  .bind fun _ => .pure (by simp)

theorem unnamed_parenthesizedType :
    Yields (parenthesizedType grammar plus) TypeExpression.IsUnnamed := by
  refine .bind fun content => ?_
  cases content with
  | tuple => exact .pure (by simp)
  | relaxed => exact unnamed_sum
  | single type => exact .bind fun _ => .ite unnamed_sum (.pure (by simp))

theorem unnamed_functionType : Yields (functionType grammar) TypeExpression.IsUnnamed :=
  .bind fun _ => .bind fun _ => .bind fun _ => .bind fun _ => .bind fun _ => .bind fun _ =>
    .pure (by simp)

theorem unnamed_objectType : Yields (objectType grammar plus) TypeExpression.IsUnnamed :=
  .bind fun _ => .bind fun _ => .bind fun _ =>
    .ite (.bind fun _ => .pure (by simp)) (.bind fun _ => .pure (by simp))

theorem unnamed_sequenceType : Yields (sequenceType grammar) TypeExpression.IsUnnamed :=
  .within (.bind fun _ => .bind fun _ => .ite (.bind fun _ => .pure (by simp)) (.pure (by simp)))

theorem unnamed_pointerType : Yields (pointerType grammar) TypeExpression.IsUnnamed :=
  .bind fun _ => .bind fun _ => .ite (.bind fun _ => .pure (by simp))
    (.bind fun _ => .bind fun _ => .pure (by simp))

theorem unnamed_referenceType : Yields (referenceType grammar) TypeExpression.IsUnnamed :=
  .bind fun _ => .bind fun _ => .bind fun _ => .bind fun _ => .pure (by simp)

theorem unnamed_opaqueType : Yields (opaqueType grammar plus) TypeExpression.IsUnnamed :=
  .bind fun _ => .bind fun _ => .bind fun found => .ite (.pure (by simp))
    (.bind fun _ => .pure (by simp))

variable [grammar.Keeps]

theorem attests_outerAttributes : Attests (outerAttributes grammar) fun _ taken =>
    IsAttributes taken := by
  have one : Attests (do
      require (.mark "#")
      within .bracket (attributeContent grammar)) fun _ taken =>
        ∃ joint position opening closing content,
          taken = [.mark '#' joint position, .group .bracket opening closing content] := by
    refine (attests_require _).bind fun _ =>
      (attests_within (.of_stays fun ground => stays_attributeContent)).mono ?_
    rintro _ _ ⟨opening, closing, content, rfl, -⟩ _ is
    obtain ⟨joint, position, rfl⟩ := is.exists_of_character '#' (by simp)
    exact ⟨joint, position, opening, closing, content, rfl⟩
  refine (attests_whileHolds (attests_peek _) one).bind fun _ => .pure fun taken repeated => ?_
  rw [List.append_nil]
  induction repeated with
  | nil => exact .nil
  | cons stood onward ih =>
      obtain ⟨joint, position, opening, closing, content, rfl⟩ := stood
      exact .cons ih

theorem attests_segment (inExpression : Bool) :
    Attests (segment grammar inExpression) Segment.Spans := by
  refine .look (attests_peekAny _) fun _ => .ite ?_ ?_
  · refine attests_anyName.bind fun name => .pure ?_
    rintro _ rfl
    exact .intro fun _ => rfl
  · refine (attests_identifierOr _).bind fun name => .look (attests_peekBut _ _) fun _ =>
      .look (attests_peek _) fun _ => .look (attests_peekThird _) fun _ => .ite ?_ (.pure ?_)
    · refine (Attests.of_stays fun ground => stays_genericArguments).bind fun tokens => .pure ?_
      rintro taken - _ rfl
      exact .intro (by simp)
    · rintro _ rfl
      exact .intro fun _ => rfl

theorem attests_moreSegments (inExpression : Bool) :
    Attests (moreSegments grammar inExpression) (Repeated Segment.Follows) := by
  refine attests_whileHolds ?_ ?_
  · exact .look (attests_peek _) fun _ => .look (attests_peekThird _) fun _ => .pure rfl
  · exact (attests_require _).bind fun _ =>
      (attests_segment _).mono fun segment own spans colons is => ⟨colons, own, rfl, is, spans⟩

theorem attests_path (inExpression : Bool) : Attests (path grammar inExpression) Path.Spans := by
  refine attests_rooted fun rooted => (attests_segment _).bind fun first =>
    (attests_moreSegments _).bind fun others => .pure ?_
  intro more onward own begins root rooting
  simpa using Path.Spans.intro rooting begins onward

theorem attests_qualifiedPath {typed : TypeExpression → List TokenTree → Prop}
    (attests : Attests (grammar.typeExpression true) typed) (inExpression : Bool) :
    Attests (qualifiedPath grammar inExpression) (Path.Starts typed) := by
  have function (type : TypeExpression) (trait : Option Path) : Attests (do
      let first ← segment grammar inExpression
      let others ← whileHolds (accept (.mark "::")) (segment grammar inExpression)
      let before := (trait.map Path.segments).getD []
      return (some type, (⟨(trait.map Path.rooted).getD false, before ++ first :: others⟩ : Path)))
      fun result _ => result.1 = some type :=
    .of_yields (fun ground => by mvcgen with simp_all) (.bind fun _ => .bind fun _ => .pure rfl)
  have behind (type : TypeExpression) (trait : Option Path) : Attests (do
      require (.mark ">")
      require (.mark "::")
      let first ← segment grammar inExpression
      let others ← whileHolds (accept (.mark "::")) (segment grammar inExpression)
      let before := (trait.map Path.segments).getD []
      return (some type, (⟨(trait.map Path.rooted).getD false, before ++ first :: others⟩ : Path)))
      fun result more => ∀ first opening own trait, typed type own →
        Path.Starts typed result (.mark '<' first opening :: (own ++ (trait ++ more))) := by
    refine (attests_require _).bind fun _ => (attests_require _).bind fun _ =>
      (function type trait).mono ?_
    rintro ⟨_, path⟩ function rfl colons named bracket is first opening own trait stood
    obtain ⟨last, closing, rfl⟩ := is.exists_of_character '>' (by simp)
    have starts : Path.Starts typed (some type, path) (.mark '<' first opening ::
        (own ++ (trait ++ .mark '>' last closing :: (colons ++ function)))) :=
      .bracketed stood named
    simpa using starts
  refine .accepting ?_ ?_
  · refine attests.bind fun type => .accepting ?_ ?_
    · have traited : Attests (some <$> path grammar false) fun _ _ => True :=
        .of_stays fun ground => by mvcgen with simp_all
      refine traited.bind fun trait => (behind type trait).mono ?_
      rintro result more starts written - word worded own stood bracket is
      obtain ⟨first, opening, rfl⟩ := is.exists_of_character '<' (by simp)
      simpa using starts first opening own (word ++ written) stood
    · refine Attests.mono (behind type none) fun result more starts own stood bracket is => ?_
      obtain ⟨first, opening, rfl⟩ := is.exists_of_character '<' (by simp)
      exact starts first opening own [] stood
  · rw [if_neg Bool.false_ne_true]
    exact (attests_path _).bind fun path => .pure fun taken spans => by simpa using .name spans

theorem attests_peekCallableArguments : Looks peekCallableArguments :=
  .look (attests_peek _) fun _ => .ite (.pure rfl)
    (.look (attests_peek _) fun _ => .look (attests_peekThird _) fun _ => .pure rfl)

theorem attests_calls (path : Path) (count : Nat) :
    Attests (typePath.calls grammar path count) fun result more =>
      ∀ taken, path.Spans taken → result.Spans (taken ++ more) := by
  induction count generalizing path with
  | zero => exact .pure fun taken spans => by simpa using spans
  | succ count ih =>
      have opens : Attests (accept (.mark "::")) fun _ _ => True :=
        .of_stays fun ground => by mvcgen
      have arguments : Attests (callableArguments grammar) fun _ _ => True :=
        .of_stays fun ground => stays_callableArguments
      refine .look attests_peekCallableArguments fun _ => .ite ?_ ?_
      · refine opens.bind fun _ => arguments.bind fun _ => .ite ?_ ?_
        · refine (attests_moreSegments false).bind fun more => (ih _).mono ?_
          intro result last spans others onward called _ colons _ taken begins
          have all := spans _ ((begins.parenthesizeLast (colons ++ called)).append onward)
          simpa using all
        · refine .pure fun called _ colons _ taken begins => ?_
          simpa using begins.parenthesizeLast (colons ++ called)
      · exact .pure fun taken spans => by simpa using spans

theorem attests_typePath : Attests (typePath grammar) fun (qualified, path) taken =>
    TypeExpression.Spans (.path qualified path) taken := by
  have typed : Attests (grammar.typeExpression true) fun _ _ => True :=
    .of_stays fun ground => Grammar.Keeps.typeExpression ground true
  refine (attests_qualifiedPath typed false).bind fun (start, first) =>
    .look attests_get fun stream => (attests_calls first _).bind fun path => .pure ?_
  intro more spans taken starts
  rw [List.append_nil]
  cases starts with
  | name begins => exact .path (spans _ begins)
  | bracketed => exact .qualified (List.mem_append_left _ List.mem_cons_self)

theorem attests_pathType (plus bound : Bool) :
    Attests (pathType grammar plus bound) fun type taken =>
      type.Spans taken ∧ (bound = true → ∀ path, type ≠ .path false path) := by
  have unnamed {type : TypeExpression} {taken : List TokenTree} (unnamed : type.IsUnnamed) :
      type.Spans taken ∧ (bound = true → ∀ path, type ≠ .path false path) :=
    ⟨.unnamed unnamed, fun _ => unnamed false⟩
  have invocation : Attests (do
      require (.mark "!")
      let _ ← anyGroup
      return TypeExpression.other) fun type _ => type.IsUnnamed :=
    .of_yields (fun ground => by mvcgen with simp_all)
      (.bind fun _ => .bind fun _ => .pure (by simp))
  have bounds (single : Bool) : Attests (do
      let _ ← many do
        unless ← accept (.mark "+") do return none
        if ← peekBound false then some <$> grammar.bound ⟨false, false⟩ else return none
      return TypeExpression.bounds single) fun type _ => type.IsUnnamed :=
    .of_yields (fun ground => by mvcgen with simp_all) (.bind fun _ => .pure (by simp))
  refine attests_typePath.bind fun (qualified, path) => ?_
  cases qualified with
  | true => exact .pure fun taken spans => by simpa using spans
  | false =>
    refine .look (attests_peekBut _ _) fun _ => .ite ?_ ?_
    · exact invocation.mono fun type more other taken spans => unnamed other
    · refine .look (attests_peek _) fun adds => ?_
      split
      · refine .ite (.look (attests_peek _) fun adds => ?_)
          (.pure fun taken spans => unnamed (by simp))
        exact (bounds _).mono fun type more other taken spans => unnamed other
      · next alone =>
        refine .pure fun taken spans => ⟨by simpa using spans, fun bound => ?_⟩
        simp [bound] at alone

/-- Where none of the alternatives is found, nothing is read. -/
theorem Attests.guarded {α : Type} {stands : α → List TokenTree → Prop} {bound : Bool}
    {alternatives : List Sought} {next : PUnit → Parser α} (onward : Attests (next ⟨⟩) stands) :
    Attests (if bound = true then do
      if ← peekAny alternatives then next ⟨⟩ else do next (← expectedOneOf alternatives)
      else next ⟨⟩) stands := by
  have fails : Attests (expectedOneOf alternatives : Parser PUnit) fun _ _ => False :=
    attests_expectedOneOf alternatives
  refine .ite (.look (attests_peekAny _) fun _ => .ite onward (fails.bind fun _ => ?_)) onward
  exact onward.mono fun _ _ _ _ absurd => absurd.elim

/-- What is read before a type only matters if the type is a path. -/
theorem attests_unnamed {parser : Parser TypeExpression} {before : List TokenTree → Prop}
    (stays : ∀ ground, Stays ground parser) (unnamed : Yields parser TypeExpression.IsUnnamed) :
    Attests parser fun type more => ∀ taken, before taken → type.Spans (taken ++ more) :=
  (Attests.of_yields stays unnamed).mono fun _ _ unnamed _ _ => .unnamed unnamed

theorem attests_optionalBinder : Attests (optionalBinder grammar) fun bound taken =>
    bound = false → taken = [] := by
  refine .look (attests_peek _) fun _ => .ite ?_ (.pure fun _ => rfl)
  exact (Attests.of_yields (fun ground => by mvcgen) (.bind fun _ => .pure rfl)).mono
    fun bound taken same none => absurd none (by simp [← same])

theorem attests_typeExpression (plus : Bool) :
    Attests (typeExpression grammar plus) TypeExpression.Spans := by
  refine attests_optionalBinder.bind fun bound => .guarded ?_
  have path : Attests (pathType grammar plus bound) fun type more =>
      ∀ taken, (bound = false → taken = []) → type.Spans (taken ++ more) := by
    refine (attests_pathType plus bound).mono ?_
    rintro type more ⟨spans, named⟩ taken none
    cases bound with
    | false =>
        obtain rfl := none rfl
        exact spans
    | true =>
        cases spans with
        | path => exact absurd rfl (named rfl _)
        | qualified begins => exact .qualified (List.mem_append_right _ begins)
        | unnamed unnamed => exact .unnamed unnamed
  have other : Yields (pure .other) TypeExpression.IsUnnamed := .pure (by simp)
  refine .look (attests_peek _) fun _ => .ite
    (attests_unnamed (fun _ => stays_parenthesizedType _) unnamed_parenthesizedType) ?_
  refine .look (attests_peekAny _) fun _ => .ite
    (attests_unnamed (fun _ => stays_functionType) unnamed_functionType) ?_
  refine .look (attests_peekAny _) fun _ => .look (attests_peekAny _) fun _ => .ite path ?_
  refine .look (attests_peek _) fun _ => .ite
    (attests_unnamed (fun _ => stays_objectType _) unnamed_objectType) ?_
  refine .look (attests_peek _) fun _ => .ite
    (attests_unnamed (fun _ => stays_sequenceType) unnamed_sequenceType) ?_
  refine .look (attests_peek _) fun _ => .ite
    (attests_unnamed (fun _ => stays_pointerType) unnamed_pointerType) ?_
  refine .look (attests_peek _) fun _ => .ite
    (attests_unnamed (fun _ => stays_referenceType) unnamed_referenceType) ?_
  exact attests_unnamed (fun ground => by mvcgen with simp_all)
    (.bind fun _ => .ite other (.bind fun _ => .ite (unnamed_opaqueType) (.bind fun _ => .ite other
      (.bind fun _ => .ite (.bind fun _ => .bind fun _ => other) (.expectedOneOf _)))))

end Parser

end RecordRegistry
