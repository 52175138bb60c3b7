/-
# Reading plain paths

A path of names without arguments is read to its end wherever a path may stand, as long as nothing
that follows continues it.
-/

import RecordRegistry.Proofs.Syntax.Running
import RecordRegistry.Syntax.File

namespace RecordRegistry

namespace Parser

/-- Trees that write names, each with two colons before it. -/
inductive Colons : List String → List TokenTree → Prop
  | nil : Colons [] []
  | cons {name : String} {names : List String} {trees : List TokenTree} {joint : Bool}
      {first second third : Position} (onward : Colons names trees) :
      Colons (name :: names)
        (.mark ':' true first :: .mark ':' joint second :: .name name third :: trees)

/-- Trees that write a path of names, which may start at the root of all names. -/
inductive Writes : Bool → List String → List TokenTree → Prop
  | rooted {name : String} {names : List String} {trees : List TokenTree}
      (colons : Colons (name :: names) trees) : Writes true (name :: names) trees
  | bare {name : String} {names : List String} {trees : List TokenTree} {position : Position}
      (colons : Colons names trees) : Writes false (name :: names) (.name name position :: trees)

variable {scope : Scope} {stray : Option SyntaxError} {found : List Item} {grammar : Grammar}
  {inExpression rooted : Bool} {name word : String} {names : List String} {position : Position}
  {rest trees after : List TokenTree}

theorem isAt_word_of_isReserved (free : isReserved name = false)
    (reserved : isReserved word = true) :
    (Sought.word word).isAt (.name name position :: rest) = false := by
  have other : name ≠ word := by
    rintro rfl
    rw [free] at reserved
    contradiction
  simp [Sought.isAt, Sought.matched?, other]

/-- A name that may stand in a path. -/
def Usable (name : String) : Prop := isReserved name = false ∨ name ∈ pathWords

theorem run_identifier (free : isReserved name = false) :
    identifier.run ⟨.name name position :: rest, scope, stray, found⟩ =
      .ok (⟨name, position⟩, ⟨rest, scope, stray, found⟩) := by
  simp [identifier, free]

/-- Only a name that is not reserved is read as an identifier. -/
theorem eq_of_run_identifier {stream : Stream} {value : Name}
    (run : identifier.run ⟨.name name position :: rest, scope, stray, found⟩ =
      .ok (value, stream)) : isReserved name = false ∧ value = ⟨name, position⟩ := by
  by_cases free : isReserved name = true
  · simp [identifier, free, run_failHere] at run
  · rw [Bool.not_eq_true] at free
    rw [run_identifier free] at run
    cases run
    exact ⟨free, rfl⟩

/-- Nothing that stands here continues a path. -/
def Stops (rest : List TokenTree) : Prop :=
  (Sought.mark "<").isAt rest = false ∧ (Sought.mark "::").isAt rest = false

/-- A name is a segment of its own if no arguments follow. -/
theorem run_segment (usable : Usable name) (bare : (Sought.mark "<").isAt rest = false)
    (onward : ((Sought.mark "::").isAt rest &&
      (Sought.mark "<").isAt (afterTree (afterTree rest))) = false) :
    (segment grammar inExpression).run ⟨.name name position :: rest, scope, stray, found⟩ =
      .ok (⟨⟨name, position⟩, .none⟩, ⟨rest, scope, stray, found⟩) := by
  have later (words : ∀ word ∈ ["super", "self", "crate", "try"],
        (Sought.word word).isAt (.name name position :: rest) = false)
      (kept : (identifierOr ["Self"]).run ⟨.name name position :: rest, scope, stray, found⟩ =
        .ok (⟨name, position⟩, ⟨rest, scope, stray, found⟩)) :
      (segment grammar inExpression).run ⟨.name name position :: rest, scope, stray, found⟩ =
        .ok (⟨⟨name, position⟩, .none⟩, ⟨rest, scope, stray, found⟩) := by
    simp only [List.forall_mem_cons] at words
    simp only [segment, StateT.run_bind, run_peekAny, List.any_cons, words.1, words.2.1,
      words.2.2.1, words.2.2.2.1, List.any_nil, Bool.or_false, ok_bind, Bool.false_eq_true,
      if_false, kept, run_peekBut, bare, Bool.false_and, run_peek, run_peekThird]
    cases inExpression <;> cases colons : (Sought.mark "::").isAt rest <;>
      simp_all
  rcases usable with free | special
  · have words : ∀ word, isReserved word = true →
        (Sought.word word).isAt (.name name position :: rest) = false :=
      fun word => isAt_word_of_isReserved free
    apply later
    · intro word met
      have reserved : ∀ word ∈ ["super", "self", "crate", "try"], isReserved word = true := by
        decide
      exact words word (reserved word met)
    · simp [identifierOr, words "Self" (by decide), run_identifier free]
  · simp only [pathWords, List.mem_cons, List.not_mem_nil, or_false] at special
    rcases special with rfl | rfl | rfl | rfl
    · rfl
    · rfl
    · refine later ?_ rfl
      simp [Sought.isAt, Sought.matched?]
    · rfl

/-- The segment is the name without arguments. -/
def Spells (name : String) (segment : Segment) : Prop :=
  segment.name.spelling = name ∧ segment.arguments = .none

theorem Colons.front (colons : Colons names trees) (stops : Stops after) :
    (Sought.mark "<").isAt (trees ++ after) = false ∧
      ((Sought.mark "::").isAt (trees ++ after) &&
        (Sought.mark "<").isAt (afterTree (afterTree (trees ++ after)))) = false := by
  cases colons with
  | nil => simp [stops.1, stops.2]
  | cons onward => exact ⟨rfl, rfl⟩

/-- A name with what follows it is one segment and what follows. -/
theorem Colons.run_segment (colons : Colons names trees) (usable : Usable name)
    (stops : Stops after) :
    (segment grammar inExpression).run
        ⟨.name name position :: (trees ++ after), scope, stray, found⟩ =
      .ok (⟨⟨name, position⟩, .none⟩, ⟨trees ++ after, scope, stray, found⟩) := by
  obtain ⟨bare, onward⟩ := colons.front stops
  exact Parser.run_segment usable bare onward

/-- What is repeated for the names of a path after its first one. -/
def moreStep (grammar : Grammar) (inExpression : Bool) : Parser (Option Segment) := do
  if (← peek (.mark "::")) && !(← peekThird (.opened .parenthesis)) then
    some <$> do
      require (.mark "::")
      segment grammar inExpression
  else return none

theorem run_moreStep {segment : Segment} {joint : Bool} {one two : Position} {last : Stream}
    (position : Position)
    (taken : (Parser.segment grammar inExpression).run
      ⟨.name name position :: rest, scope, stray, found⟩ = .ok (segment, last)) :
    (moreStep grammar inExpression).run
        ⟨.mark ':' true one :: .mark ':' joint two :: .name name position :: rest,
          scope, stray, found⟩ =
      .ok (some segment, last) := by
  change (some <$> Parser.segment grammar inExpression).run
    ⟨.name name position :: rest, scope, stray, found⟩ = _
  rw [StateT.run_map, taken]
  rfl

/-- Further names are read one after the other. -/
theorem Colons.run_moreSegments (colons : Colons names trees)
    (usable : ∀ name ∈ names, Usable name) :
    ∃ segments, List.Forall₂ Spells names segments ∧ ∀ {after}, Stops after →
      ∀ grammar inExpression scope stray found,
        (moreSegments grammar inExpression).run ⟨trees ++ after, scope, stray, found⟩ =
          .ok (segments, ⟨after, scope, stray, found⟩) := by
  have steps : ∃ segments, List.Forall₂ Spells names segments ∧ ∀ {after}, Stops after →
      ∀ grammar inExpression scope stray found,
        Steps (moreStep grammar inExpression) ⟨trees ++ after, scope, stray, found⟩ segments
          ⟨after, scope, stray, found⟩ := by
    induction colons with
    | nil =>
        refine ⟨[], .nil, ?_⟩
        intro after stops grammar inExpression scope stray found
        exact .done (by simp [moreStep, stops.2])
    | @cons name names trees _ _ _ third onward ih =>
        rw [List.forall_mem_cons] at usable
        obtain ⟨segments, spelled, steps⟩ := ih usable.2
        refine ⟨⟨⟨name, third⟩, .none⟩ :: segments, .cons ⟨rfl, rfl⟩ spelled, ?_⟩
        intro after stops grammar inExpression scope stray found
        refine .more (run_moreStep third (onward.run_segment usable.1 stops)) ?_
          (steps stops grammar inExpression scope stray found)
        simp only [List.cons_append, List.length_cons]
        omega
  obtain ⟨segments, spelled, steps⟩ := steps
  refine ⟨segments, spelled, ?_⟩
  intro after stops grammar inExpression scope stray found
  exact (steps stops grammar inExpression scope stray found).run_many

/-- A path whose colons at the front have been read, or are not there. -/
def pathFrom (rooted : Bool) (grammar : Grammar) (inExpression : Bool) : Parser Path := do
  let first ← segment grammar inExpression
  return ⟨rooted, first :: (← moreSegments grammar inExpression)⟩

theorem run_pathFrom {first : Segment} {others : List Segment} {start next last : Stream}
    (head : (segment grammar inExpression).run start = .ok (first, next))
    (onward : (moreSegments grammar inExpression).run next = .ok (others, last)) :
    (pathFrom rooted grammar inExpression).run start = .ok (⟨rooted, first :: others⟩, last) := by
  rw [pathFrom, StateT.run_bind, head, ok_bind, StateT.run_bind, onward]
  rfl

theorem Colons.run_pathFrom (colons : Colons names trees) (rooted : Bool) (position : Position)
    (usable : ∀ other ∈ name :: names, Usable other) :
    ∃ segments, List.Forall₂ Spells (name :: names) segments ∧ ∀ {after}, Stops after →
      ∀ grammar inExpression scope stray found,
        (pathFrom rooted grammar inExpression).run
            ⟨.name name position :: (trees ++ after), scope, stray, found⟩ =
          .ok (⟨rooted, segments⟩, ⟨after, scope, stray, found⟩) := by
  rw [List.forall_mem_cons] at usable
  obtain ⟨others, spelled, run⟩ := colons.run_moreSegments usable.2
  refine ⟨⟨⟨name, position⟩, .none⟩ :: others, .cons ⟨rfl, rfl⟩ spelled, ?_⟩
  intro after stops grammar inExpression scope stray found
  exact Parser.run_pathFrom (colons.run_segment usable.1 stops)
    (run stops grammar inExpression scope stray found)

/-- A path of names is read as these names. -/
theorem Writes.run_path (writes : Writes rooted names trees)
    (usable : ∀ name ∈ names, Usable name) :
    ∃ segments, List.Forall₂ Spells names segments ∧ ∀ {after}, Stops after →
      ∀ grammar inExpression scope stray found,
        (path grammar inExpression).run ⟨trees ++ after, scope, stray, found⟩ =
          .ok (⟨rooted, segments⟩, ⟨after, scope, stray, found⟩) := by
  cases writes with
  | @rooted name names _ colons =>
      cases colons with
      | @cons _ _ _ _ _ _ position onward =>
          obtain ⟨segments, spelled, run⟩ := onward.run_pathFrom true position usable
          exact ⟨segments, spelled, run⟩
  | @bare name _ _ position onward =>
      obtain ⟨segments, spelled, run⟩ := onward.run_pathFrom false position usable
      exact ⟨segments, spelled, run⟩

theorem Writes.matched?_eq_none (writes : Writes rooted names trees) :
    (Sought.mark "<").matched? (trees ++ after) = none := by
  cases writes with
  | rooted colons =>
      cases colons with
      | cons onward => rfl
  | bare onward => rfl

theorem Writes.run_qualifiedPath (writes : Writes rooted names trees)
    (usable : ∀ name ∈ names, Usable name) :
    ∃ segments, List.Forall₂ Spells names segments ∧ ∀ {after}, Stops after →
      ∀ grammar inExpression scope stray found,
        (qualifiedPath grammar inExpression).run ⟨trees ++ after, scope, stray, found⟩ =
          .ok ((none, ⟨rooted, segments⟩), ⟨after, scope, stray, found⟩) := by
  obtain ⟨segments, spelled, run⟩ := writes.run_path usable
  refine ⟨segments, spelled, ?_⟩
  intro after stops grammar inExpression scope stray found
  simp [qualifiedPath, writes.matched?_eq_none, run stops]

end Parser

end RecordRegistry
