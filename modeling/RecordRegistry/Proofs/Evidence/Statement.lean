/-
# The tokens of statements and items

A statement that uses a textual definition spans the path of the definition and the group of tokens
behind it.  A function spans its word, its name and, as its last group, its statements; of what
stands between no more is said.
-/

import RecordRegistry.Proofs.Evidence.Expression

namespace RecordRegistry

open Std.Do

set_option mvcgen.warning false

/-- The tokens of a statement, as far as it is kept. -/
inductive Statement.Spans : Statement → List TokenTree → Prop
  | invocation {path : Path} {front own mark content ending : List TokenTree}
      {delimiter : Delimiter} {opening closing : Position} (attributes : IsAttributes front)
      (plain : path.isPlain = true) (names : path.Spans own) (marked : (Sought.mark "!").Is mark)
      (ends : ending = [] ∨ (Sought.mark ";").Is ending) :
      Spans (.invocation content)
        (front ++ (own ++ (mark ++ .group delimiter opening closing content :: ending)))
  | other {taken : List TokenTree} : Spans .other taken

/-- An item is not kept as a function. -/
def Item.IsNoFunction (item : Item) : Prop := ∀ name body, item ≠ .function name body

/-- The tokens of an item, as far as it is kept. -/
inductive Item.Spans : Item → List TokenTree → Prop
  | function {name : Name} {body : List Statement} {position opening closing : Position}
      {before head front content : List TokenTree}
      (stated : Parser.Repeated Statement.Spans body content) :
      Spans (.function name body)
        (before ++ .name "fn" position :: .name name.spelling name.position ::
          (head ++ [.group .brace opening closing (front ++ content)]))
  | other {item : Item} {taken : List TokenTree}
      (different : item.IsNoFunction) : Spans item taken

theorem IsAttributes.append {front behind : List TokenTree} (one : IsAttributes front)
    (other : IsAttributes behind) : IsAttributes (front ++ behind) := by
  induction one with
  | nil => exact other
  | cons onward ih => exact .cons ih

/-- What stands before an item may be counted to it. -/
theorem Item.Spans.after {item : Item} {taken : List TokenTree} (spans : item.Spans taken)
    (front : List TokenTree) : item.Spans (front ++ taken) := by
  cases spans with
  | function stated =>
      rw [← List.append_assoc]
      exact .function stated
  | other different => exact .other different

/-- The use of a textual definition as an expression, behind its attributes. -/
theorem Expression.Spans.exists_of_invocation {delimiter : Delimiter}
    {content taken : List TokenTree}
    (spans : Expression.Spans (.invocation delimiter content) taken) :
    ∃ (path : Path) (front own mark : List TokenTree) (opening closing : Position),
      IsAttributes front ∧ path.isPlain = true ∧ path.Spans own ∧ (Sought.mark "!").Is mark ∧
        taken = front ++ (own ++ (mark ++ [.group delimiter opening closing content])) := by
  generalize same : Expression.invocation delimiter content = value at spans
  induction spans with
  | path | call | bare => contradiction
  | invocation plain names marked =>
      cases same
      exact ⟨_, [], _, _, _, _, .nil, plain, names, marked, rfl⟩
  | unkept unkept =>
      subst same
      exact absurd unkept id
  | attributed attributes spans ih =>
      obtain ⟨path, front, own, mark, opening, closing, more, plain, names, marked, rfl⟩ := ih same
      exact ⟨path, _, own, mark, opening, closing, attributes.append more, plain, names, marked,
        (List.append_assoc _ _ _).symm⟩

namespace Parser

variable {α : Type} {stands : α → List TokenTree → Prop} {grammar : Grammar}

theorem other_unkeptItem {parser : Parser Unit} : Yields (unkeptItem parser) Item.IsNoFunction :=
  .bind fun _ => .pure nofun

theorem other_structItem : Yields (structItem grammar) Item.IsNoFunction :=
  .bind fun _ => .bind fun _ => .bind fun _ => .bind fun _ => .pure nofun

theorem other_enumItem : Yields (enumItem grammar) Item.IsNoFunction :=
  .bind fun _ => .bind fun _ => .bind fun _ => .bind fun _ => .bind fun _ => .pure nofun

theorem other_unionItem : Yields (unionItem grammar) Item.IsNoFunction :=
  .bind fun _ => .bind fun _ => .bind fun _ => .bind fun _ => .bind fun _ => .pure nofun

theorem other_qualifiedTrait : Yields (qualifiedTrait grammar) Item.IsNoFunction :=
  .bind fun _ => .bind fun _ => .bind fun _ => .bind fun _ => .bind fun _ => .bind fun _ =>
    .pure nofun

theorem other_traitOrAlias : Yields (traitOrAlias grammar) Item.IsNoFunction :=
  .bind fun _ => .bind fun _ => .bind fun _ => .bind fun _ =>
    .ite (.bind fun _ => .bind fun _ => .bind fun _ => .pure nofun)
      (.bind fun _ => .ite (.bind fun _ => .pure nofun) (.expectedOneOf _))

theorem other_unsafeItem : Yields (unsafeItem grammar) Item.IsNoFunction :=
  .bind fun _ => .ite other_qualifiedTrait (.ite other_unkeptItem (.ite other_unkeptItem
    (.ite other_unkeptItem (.bind fun _ => .expectedOneOf _))))

theorem other_typeDeclaration (place : ConstraintPlace) :
    Yields (typeDeclaration grammar place) Item.IsNoFunction := by
  have ends (name : Name) (valued : Bool) : Yields (do
      require (.mark ";")
      return if valued then Item.alias name else .other) Item.IsNoFunction :=
    .bind fun _ => .pure (by split <;> nofun)
  refine .bind fun _ => .bind fun name => .bind fun _ => .bind fun bounded => .optional ?_
  exact .ite (.bind fun _ => .bind fun _ => .optional (.optional_not (ends name _)))
    (.bind fun _ => .bind fun _ => .optional (.optional_not (ends name _)))

/-- Where a textual definition begins a statement, its path has been read. -/
theorem of_run_invocationStart {stream other : Stream} {start : InvocationStart}
    (run : invocationStart.run stream = .ok (start, other)) : other = stream ∧
      ∀ between, start = .braces between → ∃ path, modulePath.run stream = .ok (path, between) := by
  rw [invocationStart, run_bind_eq_ok_iff] at run
  obtain ⟨ahead?, same, looked, run⟩ := run
  rw [run_ahead?] at looked
  cases looked
  cases named : modulePath.run stream with
  | error error =>
      rw [named] at run
      cases run
      exact ⟨rfl, by simp⟩
  | ok result =>
      obtain ⟨path, between⟩ := result
      rw [named] at run
      simp only [Except.toOption, run_ite] at run
      split_ifs at run <;> cases run <;> simp

theorem Attests.invoking {next : InvocationStart → Parser α} {rest : Parser α}
    (braces : ∀ between, next (.braces between) = do set between; rest)
    (invokes : Attests (do let _ ← modulePath; rest) stands)
    (others : ∀ start, (∀ between, start ≠ .braces between) → Attests (next start) stands) :
    Attests (invocationStart >>= next) stands := by
  intro stream value other run clean
  obtain ⟨start, same, started, run⟩ := run_bind_eq_ok_iff.mp run
  obtain ⟨rfl, named⟩ := of_run_invocationStart started
  cases start with
  | braces between =>
      obtain ⟨path, ran⟩ := named between rfl
      rw [braces] at run
      exact invokes same value other (run_bind_eq_ok_iff.mpr ⟨path, between, ran, run⟩) clean
  | none => exact others .none (by simp) same value other run clean
  | item => exact others .item (by simp) same value other run clean

theorem attests_peekConstantItem : Looks peekConstantItem := by
  refine .look (attests_peek _) fun _ => .ite ?_ (.pure rfl)
  exact .look attests_get fun _ => .ite (.pure rfl) (.pure rfl)

theorem attests_peekItem : Looks peekItem := by
  refine .look (attests_peekAny _) fun _ => .ite (.pure rfl) (.look attests_get fun stream => ?_)
  refine .look (attests_peek _) fun _ => .ite (.pure rfl) ?_
  refine .look (attests_peek _) fun _ => .ite (.pure rfl) ?_
  refine .look (attests_peek _) fun _ => .ite (.pure rfl) ?_
  refine .look (attests_peek _) fun _ => .ite (.pure rfl) ?_
  refine .look (attests_peek _) fun _ => .ite (.pure rfl) ?_
  refine .look (attests_peek _) fun _ => .ite (.pure rfl) ?_
  exact .look (attests_peek _) fun _ => .ite (.pure rfl) attests_peekConstantItem

theorem attests_expressionStatement (bounded : Attests grammar.bounded Expression.Spans) :
    Attests (expressionStatement grammar) fun result more =>
      ∀ front, IsAttributes front → result.1.Spans (front ++ more) := by
  -- Only an invocation is kept, and its span ends with the separator if there is one.
  have invoked {delimiter : Delimiter} {content ending taken front : List TokenTree}
      (ends : ending = [] ∨ (Sought.mark ";").Is ending)
      (spans : Expression.Spans (.invocation delimiter content) taken)
      (attributes : IsAttributes front) :
      Statement.Spans (.invocation content) (front ++ (taken ++ ending)) := by
    obtain ⟨path, more, own, mark, opening, closing, others, plain, names, marked, rfl⟩ :=
      spans.exists_of_invocation
    have stands : Statement.Spans (.invocation content) (front ++ more ++
        (own ++ (mark ++ .group delimiter opening closing content :: ending))) :=
      .invocation (attributes.append others) plain names marked ends
    simpa using stands
  refine bounded.bind fun value => .accepting ?_ ?_
  · cases value
    case invocation =>
      exact .pure fun ending is taken spans front attributes => by
        simpa using invoked (.inr is) spans attributes
    all_goals exact .pure fun _ _ _ _ _ _ => .other
  · cases value
    case invocation =>
      exact .pure fun taken spans front attributes => by
        simpa using invoked (.inl rfl) spans attributes
    all_goals exact .pure fun _ _ _ _ => .other

variable [grammar.Keeps]

/-- What is read of a block, given what is read of an expression. -/
theorem attests_statement (bounded : Attests grammar.bounded Expression.Spans) :
    Attests (statement grammar) fun result taken => result.1.Spans taken := by
  have plain (stream : Stream) (named : Bool) : Attests (do
      if ← peek (.word "let") then
        binding grammar
        return (.other, false)
      else if named || (← peekItem) then
        let item ← grammar.item
        modify ({ · with found := stream.found ++ [item] })
        return (.other, false)
      else expressionStatement grammar) fun result more =>
        ∀ front, IsAttributes front → Statement.Spans result.1 (front ++ more) := by
    have bound : Attests (binding grammar) fun _ _ => True :=
      .of_stays fun ground => stays_binding
    have items : Attests grammar.item fun _ _ => True :=
      .of_stays fun ground => (Grammar.Keeps.item ground).stays
    refine .look (attests_peek _) fun _ => .ite ?_ (.look attests_peekItem fun _ => .ite ?_ ?_)
    · exact bound.bind fun _ => .pure fun _ _ _ _ => .other
    · exact items.bind fun item => .look (attests_note _) fun _ => .pure fun _ _ _ _ => .other
    · exact attests_expressionStatement bounded
  refine .look attests_get fun stream => attests_outerAttributes.bind fun _ =>
    .invoking (fun between => rfl) ?_ ?_
  · refine attests_modulePath.bind fun path => (attests_require _).bind fun _ =>
      attests_anyGroup.bind fun (delimiter, content) => .accepting ?_ ?_
    · refine .pure ?_
      rintro ending is _ ⟨opening, closing, rfl⟩ mark marked own ⟨plain, names⟩ front attributes
      rw [List.append_nil]
      exact .invocation attributes plain names marked (.inr is)
    · refine .pure ?_
      rintro _ ⟨opening, closing, rfl⟩ mark marked own ⟨plain, names⟩ front attributes
      exact .invocation attributes plain names marked (.inl rfl)
  · intro start different
    cases start with
    | none => exact plain stream false
    | item => exact plain stream true
    | braces between => exact absurd rfl (different between)

theorem attests_statements (bounded : Attests grammar.bounded Expression.Spans) :
    Attests (statements grammar) (Repeated Statement.Spans) := by
  refine .look attests_get fun stream => ?_
  generalize stream.rest.length + 1 = count
  induction count with
  | zero => exact .pure .nil
  | succ count ih =>
      refine .accepting ?_ (.look attests_atEnd fun _ => .ite (.pure .nil) ?_)
      · exact ih.bind fun statements => .pure fun more stated ending _ => by
          simpa using stated.cons .other
      · have onward (value : Statement) : Attests (do
            let others ← statements.go grammar count
            return value :: others) fun statements more =>
              ∀ own, value.Spans own → Repeated Statement.Spans statements (own ++ more) :=
          ih.bind fun others => .pure fun more stated own spans => by simpa using stated.cons spans
        refine (attests_statement bounded).bind fun (value, unfinished) =>
          .look attests_atEnd fun _ => .ite ?_ (onward value)
        rintro stream statements other ⟨⟩

/-- The statements of a block, behind what belongs to the block itself. -/
theorem attests_body (stated : Attests grammar.statements (Repeated Statement.Spans)) :
    Attests (body grammar) fun statements taken => ∃ opening closing front content,
      taken = [.group .brace opening closing (front ++ content)] ∧
        Repeated Statement.Spans statements content := by
  have attributes : Attests (innerAttributes grammar) fun _ _ => True :=
    .of_stays fun ground => stays_innerAttributes
  have content : Attests (do innerAttributes grammar; grammar.statements) fun statements taken =>
      ∃ front content, taken = front ++ content ∧ Repeated Statement.Spans statements content :=
    attributes.bind fun _ => stated.mono fun statements content stated front _ =>
      ⟨front, content, rfl, stated⟩
  refine (attests_within content).mono ?_
  rintro statements _ ⟨opening, closing, _, rfl, front, content, rfl, stated⟩
  exact ⟨opening, closing, front, content, rfl, stated⟩

theorem attests_signature : Attests (signature grammar false) fun name taken =>
    ∃ before position after,
      taken = before ++ .name "fn" position :: .name name.spelling name.position :: after := by
  have skips {α : Type} {parser : Parser α} (stays : ∀ ground, Stays ground parser) :
      Attests parser fun _ _ => True := .of_stays stays
  have behind (name : Name) : Attests (do
      let _ ← parameters grammar
      within .parenthesis (functionArguments grammar)
      let _ ← result grammar true
      let _ ← constraints grammar
      return name) fun found _ => found = name :=
    .of_yields (fun ground => by mvcgen with simp_all)
      (.bind fun _ => .bind fun _ => .bind fun _ => .bind fun _ => .pure rfl)
  refine (skips fun _ => (keeps_accept _).stays).bind fun _ =>
    (skips fun _ => (keeps_accept _).stays).bind fun _ =>
    (skips fun _ => (keeps_accept _).stays).bind fun _ => ?_
  refine (skips fun _ => stays_convention).bind fun _ => (attests_require _).bind fun _ =>
    attests_identifier.bind fun name => (behind name).mono ?_
  rintro _ after rfl _ rfl word worded first - second - third - fourth -
  obtain ⟨position, rfl⟩ := worded.exists_of_word
  exact ⟨fourth ++ (third ++ (second ++ first)), position, after, by simp⟩

theorem attests_functionItem (stated : Attests grammar.statements (Repeated Statement.Spans)) :
    Attests (functionItem grammar) Item.Spans := by
  refine attests_signature.bind fun name => .accepting ?_ ?_
  · exact .pure fun _ _ _ _ => .other nofun
  · refine (attests_body stated).bind fun body => .pure ?_
    rintro _ ⟨opening, closing, front, content, rfl, stated⟩ _ ⟨before, position, head, rfl⟩
    simpa using .function stated

theorem attests_item (stated : Attests grammar.statements (Repeated Statement.Spans)) :
    Attests (item grammar) Item.Spans := by
  have visible : Attests visibility fun _ _ => True := .of_stays fun ground => stays_visibility
  have signed : Looks (peekSignature false) := by
    refine .look (attests_ahead? _) fun _ => ?_
    split
    · exact .pure rfl
    · exact .pure rfl
  refine visible.bind fun visible => .look attests_get fun stream =>
    .look signed fun _ => .ite ?_ ?_
  · exact (attests_functionItem stated).mono fun item more spans front _ => spans.after front
  · have others {parser : Parser Item} (stays : ∀ ground, Stays ground parser)
        (yields : Yields parser Item.IsNoFunction) : Attests parser fun item more =>
          ∀ front : List TokenTree, True → item.Spans (front ++ more) :=
      (Attests.of_yields stays yields).mono fun _ _ different _ _ => .other different
    refine others (fun ground => by mvcgen with simp_all) ?_
    refine .bind fun _ => .ite other_unkeptItem (.bind fun _ => .ite other_unkeptItem ?_)
    refine .bind fun _ => .ite other_unkeptItem (.bind fun _ => .ite other_unkeptItem ?_)
    refine .bind fun _ => .ite other_unsafeItem (.bind fun _ => .ite other_unkeptItem ?_)
    refine .bind fun _ => .ite (other_typeDeclaration _) (.bind fun _ => .ite other_structItem ?_)
    refine .bind fun _ => .ite other_enumItem (.bind fun _ => .ite other_unionItem ?_)
    refine .bind fun _ => .ite other_traitOrAlias (.bind fun _ => .ite other_qualifiedTrait ?_)
    refine .bind fun _ => .bind fun _ => .ite other_unkeptItem
      (.bind fun _ => .ite other_unkeptItem ?_)
    exact .bind fun _ => .ite other_unkeptItem (.expectedOneOf _)

end Parser

end RecordRegistry
