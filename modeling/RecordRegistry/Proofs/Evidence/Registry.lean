/-
# What stands in a text that is read as a registry

A text is read as a registry for the shape of its tokens alone: a function with the given name,
whose last statement uses some textual definition on elements that call some function on a call that
starts from a bracketed type.  The types that are read are the paths between these brackets, in
their order.  Which definition is used, which functions are called, and what else the elements, the
statements before and the head of the function hold is not looked at, so that not only registries
are read.
-/

import RecordRegistry.Proofs.Evidence.Statement
import RecordRegistry.Proofs.Results
import RecordRegistry.Reading

namespace RecordRegistry

namespace Parser

theorem attests_grammar_bounded (depth : Nat) :
    Attests (Parser.grammar depth).bounded Expression.Spans := by
  cases depth with
  | zero => exact attests_failHere _
  | succ depth => exact attests_bounded

theorem attests_grammar_statements (depth : Nat) :
    Attests (Parser.grammar depth).statements (Repeated Statement.Spans) := by
  cases depth with
  | zero => exact attests_failHere _
  | succ depth => exact attests_statements (attests_grammar_bounded depth)

theorem attests_grammar_item (depth : Nat) : Attests (Parser.grammar depth).item Item.Spans := by
  cases depth with
  | zero => exact attests_failHere _
  | succ depth => exact attests_item (attests_grammar_statements depth)

/-- The items of a file, each with its attributes, stand behind what belongs to the file. -/
theorem attests_file (depth : Nat) : Attests (file (Parser.grammar depth)) fun source taken =>
    ∃ front own, taken = front ++ own ∧ Repeated Item.Spans source.items own := by
  have inner : Attests (innerAttributes (Parser.grammar depth)) fun _ _ => True :=
    .of_stays fun ground => stays_innerAttributes
  have outer : Attests (outerAttributes (Parser.grammar depth)) fun _ _ => True :=
    .of_stays fun ground => stays_outerAttributes
  have item : Attests (do
      outerAttributes (Parser.grammar depth)
      (Parser.grammar depth).item) Item.Spans :=
    outer.bind fun _ => (attests_grammar_item depth).mono fun item own spans front _ =>
      spans.after front
  refine inner.bind fun _ => .look attests_get fun stream =>
    (attests_whileHolds (.look attests_atEnd fun _ => .pure rfl) item).bind fun items => .pure ?_
  intro own repeated front _
  exact ⟨front, own, by simp, repeated⟩

/-- What a scope that is read to its end yields is borne out by all of its tokens. -/
theorem Attests.of_runWithin {α : Type} {parser : Parser α} {stands : α → List TokenTree → Prop}
    {scope : Scope} {trees : List TokenTree} {value : α} {found : List Item}
    (attests : Attests parser stands) (yields : parser.runWithin scope trees = .ok (value, found)) :
    stands value trees := by
  obtain ⟨stream, run, clean, ended, -⟩ := runWithin_eq_ok_iff.mp yields
  obtain ⟨-, taken, next, stood⟩ := attests _ value stream run clean
  obtain rfl : trees = taken := by simpa [ended] using next
  exact stood

end Parser

/-- The tokens of a call of what is named of a type between angle brackets. -/
inductive IsAssociatedCall (path : Path) : List TokenTree → Prop
  | intro {qualified first last : Bool} {opens closes opening closing : Position}
      {front type trait colons function inside : List TokenTree} (attributes : IsAttributes front)
      (names : TypeExpression.Spans (.path qualified path) type)
      (named : (Sought.mark "::").Is colons) :
      IsAssociatedCall path (front ++ (.mark '<' first opens ::
        (type ++ (trait ++ .mark '>' last closes :: (colons ++ function))) ++
          [.group .parenthesis opening closing inside]))

/-- The tokens of an element that is read as an instance of the type with the given text: a call
whose first argument is a call of what is named of the type. -/
inductive IsInstance : String → List TokenTree → Prop
  | intro {path : Path} {callee own more : List TokenTree} {opening closing : Position}
      (called : IsAssociatedCall path own)
      (bare : ∀ segment ∈ path.segments, segment.arguments ≠ .parenthesized)
      (ends : Parser.Ends more) :
      IsInstance path.plainText (callee ++ [.group .parenthesis opening closing (own ++ more)])

namespace Expression

variable {callee : Expression} {arguments : List Expression} {type : TypeExpression} {named : Path}
  {taken : List TokenTree}

theorem Spans.exists_of_path (spans : Spans (.path (some type) named) taken) :
    ∃ front own, taken = front ++ own ∧ IsAttributes front ∧
      Path.Starts TypeExpression.Spans (some type, named) own := by
  generalize same : Expression.path (some type) named = value at spans
  induction spans with
  | path starts =>
      cases same
      exact ⟨[], _, rfl, .nil, starts⟩
  | call | bare | invocation => contradiction
  | unkept unkept =>
      subst same
      exact absurd unkept id
  | attributed attributes spans ih =>
      obtain ⟨front, own, rfl, more, starts⟩ := ih same
      exact ⟨_, own, (List.append_assoc _ _ _).symm, attributes.append more, starts⟩

theorem Spans.exists_of_call (spans : Spans (.call callee arguments) taken) :
    ∃ front before opening closing content,
      taken = front ++ (before ++ [.group .parenthesis opening closing content]) ∧
        IsAttributes front ∧ callee.Spans before ∧
          ∀ argument others, arguments = argument :: others →
            ∃ own more, content = own ++ more ∧ argument.Spans own ∧ Parser.Ends more := by
  generalize same : Expression.call callee arguments = value at spans
  induction spans with
  | path | invocation => contradiction
  | call calls begins ends =>
      cases same
      refine ⟨[], _, _, _, _, rfl, .nil, calls, ?_⟩
      rintro _ _ ⟨⟩
      exact ⟨_, _, rfl, begins, ends⟩
  | bare calls =>
      cases same
      exact ⟨[], _, _, _, _, rfl, .nil, calls, nofun⟩
  | unkept unkept =>
      subst same
      exact absurd unkept id
  | attributed attributes spans ih =>
      obtain ⟨front, before, opening, closing, content, rfl, more, calls, begins⟩ := ih same
      exact ⟨_, before, opening, closing, content, (List.append_assoc _ _ _).symm,
        attributes.append more, calls, begins⟩

/-- A call of a path that starts from a type with a name calls what is named of this type. -/
theorem Spans.isAssociatedCall {qualified : Bool} {path : Path}
    (spans : Spans (.call (.path (some (.path qualified path)) named) arguments) taken) :
    IsAssociatedCall path taken := by
  obtain ⟨front, callee, opening, closing, inside, rfl, attributes, calls, -⟩ :=
    spans.exists_of_call
  obtain ⟨others, own, rfl, more, starts⟩ := calls.exists_of_path
  cases starts with
  | bracketed names separated =>
      rw [List.append_assoc others, ← List.append_assoc front]
      exact .intro (attributes.append more) names separated

/-- An expression that is read as an instance has the tokens of one. -/
theorem isInstance_of_instancePath? {value : Expression} {text : String} (spans : value.Spans taken)
    (read : value.instancePath? = some text) : IsInstance text taken := by
  unfold instancePath? at read
  split at read
  · split at read
    · contradiction
    · next bare =>
      cases read
      obtain ⟨front, before, opening, closing, content, rfl, -, -, begins⟩ := spans.exists_of_call
      obtain ⟨own, more, rfl, called, ends⟩ := begins _ _ rfl
      rw [← List.append_assoc]
      refine .intro called.isAssociatedCall (fun segment met listed => bare ?_) ends
      exact List.any_eq_true.mpr ⟨segment, met, by rw [listed]⟩
  · contradiction

end Expression

theorem isInstance_of_mapM {elements : List Expression} {types : List String}
    {content : List TokenTree} (separated : Parser.Separated Expression.Spans elements content)
    (read : elements.mapM Expression.instancePath? = some types) :
    Parser.Separated IsInstance types content := by
  induction separated generalizing types with
  | nil =>
      cases read
      exact .nil
  | last spans =>
      obtain ⟨type, one, rfl⟩ : ∃ type, _ = some type ∧ [type] = types := by
        simpa [Option.bind_eq_some_iff] using read
      exact .last (Expression.isInstance_of_instancePath? spans one)
  | cons spans onward ih =>
      rw [List.mapM_cons] at read
      simp only [Option.bind_eq_bind, Option.bind_eq_some_iff] at read
      obtain ⟨type, one, others, rest, same⟩ := read
      cases same
      exact .cons (Expression.isInstance_of_instancePath? spans one) (ih rest)

/-- The tokens of a block whose last statement is the use of a textual definition on instances of
the types, in their order. -/
def EndsInListing (types : List String) (block : List TokenTree) : Prop :=
  ∃ (path : Path) (earlier own mark content ending : List TokenTree) (delimiter : Delimiter)
    (opening closing : Position),
    block = earlier ++ (own ++ (mark ++ .group delimiter opening closing content :: ending)) ∧
      path.isPlain = true ∧ path.Spans own ∧ (Sought.mark "!").Is mark ∧
      (ending = [] ∨ (Sought.mark ";").Is ending) ∧ Parser.Separated IsInstance types content

/-- Among the tokens is a function with the given name, and its block ends in a listing of the
types. -/
def HoldsListing (collection : String) (types : List String) (trees : List TokenTree) : Prop :=
  ∃ (before head block after : List TokenTree) (word name opening closing : Position),
    trees = before ++ .name "fn" word :: .name collection name ::
      (head ++ .group .brace opening closing block :: after) ∧ EndsInListing types block

variable {source collection : String} {types : List String}

theorem endsInListing_of_repeated {earlier : List Statement} {content front block : List TokenTree}
    (stated : Parser.Repeated Statement.Spans (earlier ++ [.invocation content]) block)
    (listed : Parser.Separated IsInstance types content) :
    EndsInListing types (front ++ block) := by
  obtain ⟨others, own, rfl, -, spans⟩ := stated.exists_of_concat
  cases spans with
  | @invocation path attributes own mark _ ending delimiter opening closing _ plain names marked
      ends =>
      exact ⟨path, front ++ (others ++ attributes), own, mark, content, ending, delimiter, opening,
        closing, by simp, plain, names, marked, ends, listed⟩

theorem holdsListing_of_spans {name : Name} {earlier : List Statement}
    {content before taken after : List TokenTree}
    (spans : Item.Spans (.function name (earlier ++ [.invocation content])) taken)
    (listed : Parser.Separated IsInstance types content) :
    HoldsListing name.spelling types (before ++ taken ++ after) := by
  cases spans with
  | @function _ _ word opening closing front head inner block stated =>
      exact ⟨before ++ front, head, inner ++ block, after, word, name.position, opening, closing,
        by simp, endsInListing_of_repeated stated listed⟩
  | other different => exact absurd rfl (different _ _)

/-- A function that lists something else: another definition is used, and other functions are
called. -/
def foreignText : String := "fn models() \x7b vec![f(<A>::g())] \x7d"

end RecordRegistry
