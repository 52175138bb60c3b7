/-
# Reading instances

An element of a registry calls a function on a call, and the callee of the inner call starts from
a type between angle brackets.  The type is a plain path, and the element is read as this path
whatever names it has.
-/

import RecordRegistry.Proofs.Reading.List
import RecordRegistry.Proofs.Reading.Type
import RecordRegistry.Reading

namespace RecordRegistry

namespace Parser

variable {rooted : Bool} {names : List String} {position : Position}
  {rest trees after : List TokenTree}

/-- Trees that name a function of a trait that a type has. -/
inductive WritesFunction (rooted : Bool) (names : List String) : List TokenTree → Prop
  | intro {type trait : List TokenTree} {firstJoint secondJoint thirdJoint : Bool}
      {first second third fourth fifth sixth : Position} (typed : Writes rooted names type)
      (traited : Colons ["core", "default", "Default"] trait) :
      WritesFunction rooted names
        (.mark '<' firstJoint first :: type ++ .name "as" second :: trait ++
          [.mark '>' secondJoint third, .mark ':' true fourth, .mark ':' thirdJoint fifth,
            .name "default" sixth])

theorem WritesFunction.run_qualifiedPath (writes : WritesFunction rooted names trees)
    (usable : ∀ name ∈ names, Usable name) :
    ∃ segments function, List.Forall₂ Spells names segments ∧ ∀ first last inside rest,
      ∀ depth scope stray found,
        (qualifiedPath (grammar (depth + 1)) true).run
            ⟨trees ++ .group .parenthesis first last inside :: rest, scope, stray, found⟩ =
          .ok ((some (.path false ⟨rooted, segments⟩), function),
            ⟨.group .parenthesis first last inside :: rest, scope, stray, found⟩) := by
  cases writes with
  | @intro _ _ _ _ _ _ _ _ _ _ position typed traited =>
  obtain ⟨segments, spelled, run⟩ := typed.run_typeExpression usable
  have free : ∀ name ∈ ["core", "default", "Default"], isReserved name = false := by decide
  obtain ⟨others, -, onward⟩ := (Writes.rooted traited).run_path fun name met => .inl (free name met)
  refine ⟨segments, ⟨true, others ++ [⟨⟨"default", position⟩, .none⟩]⟩, spelled, ?_⟩
  intro first last inside rest depth scope stray found
  have opened (joint : Bool) (position : Position) (rest : List TokenTree) :
      (accept (.mark "<")).run ⟨.mark '<' joint position :: rest, scope, stray, found⟩ =
        .ok (true, ⟨rest, scope, stray, found⟩) := rfl
  have typed (stream : Stream) : ((grammar (depth + 1)).typeExpression true).run stream =
      (typeExpression (grammar depth) true).run stream := rfl
  have traited (position : Position) (rest : List TokenTree) :
      (accept (.word "as")).run ⟨.name "as" position :: rest, scope, stray, found⟩ =
        .ok (true, ⟨rest, scope, stray, found⟩) := rfl
  have settles (position : Position) (rest : List TokenTree) :
      Settles (.name "as" position :: rest) := ⟨⟨rfl, rfl⟩, rfl, rfl, rfl⟩
  have stops (joint : Bool) (position : Position) (rest : List TokenTree) :
      Stops (.mark '>' joint position :: rest) := ⟨rfl, rfl⟩
  simp only [qualifiedPath, List.cons_append, List.append_assoc, StateT.run_bind, opened, ok_bind,
    if_true, typed, run (settles _ _), traited, StateT.run_map, onward (stops _ _ _)]
  rfl

/-- A path that starts from a type is an expression by itself. -/
theorem WritesFunction.run_atom (writes : WritesFunction rooted names trees)
    (usable : ∀ name ∈ names, Usable name) :
    ∃ segments function, List.Forall₂ Spells names segments ∧ ∀ first last inside rest,
      ∀ depth scope stray found,
        (atom (grammar (depth + 1)) true).run
            ⟨trees ++ .group .parenthesis first last inside :: rest, scope, stray, found⟩ =
          .ok (.path (some (.path false ⟨rooted, segments⟩)) function,
            ⟨.group .parenthesis first last inside :: rest, scope, stray, found⟩) := by
  obtain ⟨segments, function, spelled, run⟩ := writes.run_qualifiedPath usable
  refine ⟨segments, function, spelled, ?_⟩
  intro first last inside rest depth scope stray found
  have same : (atom (grammar (depth + 1)) true).run
        ⟨trees ++ .group .parenthesis first last inside :: rest, scope, stray, found⟩ =
      (pathExpression (grammar (depth + 1)) true).run
        ⟨trees ++ .group .parenthesis first last inside :: rest, scope, stray, found⟩ := by
    clear run spelled
    cases writes with
    | intro typed traited =>
        cases typed with
        | rooted colons =>
            cases colons with
            | cons onward => rfl
        | bare onward => rfl
  rw [same, pathExpression, StateT.run_bind, run]
  rfl

/-- An operand without an operator before it is an atom with what follows it. -/
theorem run_operand {grammar : Grammar} {stream next last : Stream} {first value : Expression}
    (bare : ∀ mark ∈ ["#", "&", "*", "!", "-"], (Sought.mark mark).matched? stream.rest = none)
    (start : (atom grammar true).run stream = .ok (first, next))
    (onward : (trailers grammar first).run next = .ok (value, last))
    (called : ∃ callee arguments, value = .call callee arguments) :
    (operand grammar true).run stream = .ok (value, last) := by
  obtain ⟨callee, arguments, rfl⟩ := called
  simp only [List.forall_mem_cons] at bare
  have unattributed : (outerAttributes grammar).run stream = .ok (⟨⟩, stream) := by
    simp [outerAttributes, whileHolds, many, repeatUpTo, Sought.isAt, bare.1]
  simp [operand, Sought.isAt, bare.1, bare.2.1, bare.2.2.1, bare.2.2.2.1, bare.2.2.2.2.1, acceptAny,
    unattributed, start, onward]

/-- After the last operand of a value of a list no operator is read. -/
theorem run_operators_of_ends {grammar : Grammar} {callee : Expression} {args : List Expression}
    (ends : Ends after) (scope : Scope) (stray : Option SyntaxError) (found : List Item) :
    (operators grammar (.call callee args) true .lowest).run ⟨after, scope, stray, found⟩ =
      .ok (.call callee args, ⟨after, scope, stray, found⟩) := by
  cases ends with
  | nil => rfl
  | comma => rfl

/-- The arguments after an expression make a call of it. -/
theorem run_trailers_of_listed {grammar : Grammar} {args : List Expression}
    {inside : List TokenTree} (listed : Listed (grammar.expression true) args inside)
    (ends : Ends after) (callee : Option TypeExpression) (path : Path) (first last : Position)
    (scope : Scope)
    (stray : Option SyntaxError) (found : List Item) :
    (trailers grammar (.path callee path)).run
        ⟨.group .parenthesis first last inside :: after, scope, stray, found⟩ =
      .ok (.call (.path callee path) args, ⟨after, scope, stray, found⟩) := by
  have called : (arguments grammar).run
      ⟨.group .parenthesis first last inside :: after, scope, stray, found⟩ =
        .ok (args, ⟨after, scope, stray, found⟩) :=
    run_within_of_ok listed.run_commaList
  have stepped : (trailerStep grammar (.path callee path)).run
      ⟨.group .parenthesis first last inside :: after, scope, stray, found⟩ =
        .ok (some (.call (.path callee path) args), ⟨after, scope, stray, found⟩) := by
    have opened : (Sought.opened .parenthesis).isAt
        (.group .parenthesis first last inside :: after) = true := rfl
    simp [trailerStep, opened, called]
  have ended : (trailerStep grammar (.call (.path callee path) args)).run
      ⟨after, scope, stray, found⟩ = .ok (none, ⟨after, scope, stray, found⟩) := by
    cases ends with
    | nil => rfl
    | comma => rfl
  simp [trailers, trailers.go, stepped, ended]

theorem matched?_eq_none_of_mark {character : Char} (joint : Bool) (position : Position)
    (other : character ∉ ['#', '&', '*', '!', '-']) :
    ∀ mark ∈ ["#", "&", "*", "!", "-"],
      (Sought.mark mark).matched? (.mark character joint position :: rest) = none := by
  intro mark met
  simp only [List.mem_cons, List.not_mem_nil, or_false, not_or] at met other
  rcases met with rfl | rfl | rfl | rfl | rfl <;>
    simp [Sought.matched?, Sought.startsWithMarks, other]

/-- A path with its arguments is a value of a list. -/
theorem run_expression_of_listed {depth : Nat} {args : List Expression} {inside : List TokenTree}
    {callee : Option TypeExpression} {path : Path} {first last : Position}
    (bare : ∀ {rest}, ∀ mark ∈ ["#", "&", "*", "!", "-"],
      (Sought.mark mark).matched? (trees ++ rest) = none)
    (start : ∀ rest scope stray found,
      (atom (grammar depth) true).run
          ⟨trees ++ .group .parenthesis first last inside :: rest, scope, stray, found⟩ =
        .ok (.path callee path,
          ⟨.group .parenthesis first last inside :: rest, scope, stray, found⟩))
    (listed : Listed ((grammar depth).expression true) args inside) :
    Takes (expression (grammar (depth + 1)) true)
      (trees ++ [.group .parenthesis first last inside]) (.call (.path callee path) args) := by
  refine ⟨by simp, ?_⟩
  intro after ends scope stray found
  have operand : ((grammar (depth + 1)).operand true).run
      ⟨trees ++ .group .parenthesis first last inside :: after, scope, stray, found⟩ =
        .ok (.call (.path callee path) args, ⟨after, scope, stray, found⟩) :=
    @run_operand (grammar depth) _ _ _ _ _ bare (start after scope stray found)
      (run_trailers_of_listed listed ends callee path first last scope stray found) ⟨_, _, rfl⟩
  simp [expression, operand, run_operators_of_ends ends]

/-- A path from the root of all names is an expression by itself. -/
theorem Colons.run_atom {name : String} (colons : Colons (name :: names) trees)
    (usable : ∀ other ∈ name :: names, Usable other) :
    ∃ path, ∀ first last inside rest depth scope stray found,
      (atom (grammar depth) true).run
          ⟨trees ++ .group .parenthesis first last inside :: rest, scope, stray, found⟩ =
        .ok (.path none path,
          ⟨.group .parenthesis first last inside :: rest, scope, stray, found⟩) := by
  obtain ⟨segments, -, run⟩ := (Writes.rooted colons).run_qualifiedPath usable
  refine ⟨⟨true, segments⟩, ?_⟩
  intro first last inside rest depth scope stray found
  have stops : Stops (.group .parenthesis first last inside :: rest) := ⟨rfl, rfl⟩
  have same : (atom (grammar depth) true).run
        ⟨trees ++ .group .parenthesis first last inside :: rest, scope, stray, found⟩ =
      (pathExpression (grammar depth) true).run
        ⟨trees ++ .group .parenthesis first last inside :: rest, scope, stray, found⟩ := by
    clear run
    cases colons with
    | cons onward => rfl
  have exclaimed : (Sought.mark "!").isAt (.group .parenthesis first last inside :: rest) = false :=
    rfl
  have braced : (Sought.opened .brace).isAt (.group .parenthesis first last inside :: rest) =
      false := rfl
  rw [same]
  simp [pathExpression, run stops, exclaimed, braced]

/-- Trees that write an element of a registry, for a type that is a path of the names. -/
inductive WritesInstance (rooted : Bool) (names : List String) : List TokenTree → Prop
  | intro {boxed function : List TokenTree} {first second third fourth : Position}
      (boxes : Colons ["std", "boxed", "Box", "new"] boxed)
      (functions : WritesFunction rooted names function) :
      WritesInstance rooted names
        (boxed ++ [.group .parenthesis first second
          (function ++ [.group .parenthesis third fourth []])])

/-- The element stands for the type that is a path of the names. -/
def StandsFor (rooted : Bool) (names : List String) (element : Expression) : Prop :=
  ∃ callee path segments function, List.Forall₂ Spells names segments ∧
    element = .call (.path callee path)
      [.call (.path (some (.path false ⟨rooted, segments⟩)) function) []]

/-- An element of a registry is read as the instance of its type. -/
theorem WritesInstance.takes (writes : WritesInstance rooted names trees)
    (usable : ∀ name ∈ names, Usable name) :
    ∃ element, StandsFor rooted names element ∧
      ∀ depth, Takes (expression (grammar (depth + 4)) true) trees element := by
  cases writes with
  | @intro box default _ _ third fourth boxes functions =>
  have free : ∀ name ∈ ["std", "boxed", "Box", "new"], isReserved name = false := by decide
  obtain ⟨boxed, boxing⟩ := boxes.run_atom fun name met => .inl (free name met)
  obtain ⟨segments, function, spelled, run⟩ := functions.run_atom usable
  refine ⟨_, ⟨none, boxed, segments, function, spelled, rfl⟩, ?_⟩
  intro depth
  have inner : Takes (expression (grammar (depth + 2)) true)
      (default ++ [.group .parenthesis third fourth []])
      (.call (.path (some (.path false ⟨rooted, segments⟩)) function) []) := by
    refine run_expression_of_listed ?_ (fun rest => run _ _ _ rest depth) .nil
    intro rest
    cases functions with
    | intro typed traited => exact matched?_eq_none_of_mark _ _ (by decide)
  refine run_expression_of_listed ?_ (fun rest => boxing _ _ _ rest (depth + 3)) (.single inner)
  intro rest
  cases boxes with
  | cons onward => exact matched?_eq_none_of_mark _ _ (by decide)

/-- The text of the type that a path of names stands for. -/
def typeText (rooted : Bool) (names : List String) : String :=
  (if rooted then "::" else "") ++ "::".intercalate names

theorem StandsFor.instancePath?_eq {element : Expression} (stands : StandsFor rooted names element) :
    element.instancePath? = some (typeText rooted names) := by
  obtain ⟨callee, path, segments, function, spelled, rfl⟩ := stands
  have plain : ∀ segment ∈ segments, segment.arguments = .none := by
    induction spelled with
    | nil => exact List.forall_mem_nil _
    | cons spells onward ih => exact List.forall_mem_cons.mpr ⟨spells.2, ih⟩
  have spellings : (segments.map fun segment => segment.name.spelling) = names := by
    clear plain
    induction spelled with
    | nil => rfl
    | cons spells onward ih => rw [List.map_cons, spells.1, ih]
  have text : (Path.mk rooted segments).plainText = typeText rooted names := by
    rw [Path.plainText, spellings, typeText]
  rw [Expression.instancePath?, if_neg, text]
  simp only [List.any_eq_true, not_exists, not_and]
  intro segment met
  rw [plain segment met]
  exact Bool.false_ne_true

end Parser

end RecordRegistry
