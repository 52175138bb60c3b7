/-
# Reading types

A type that is a plain path is read as this path.  The type of a registry is a path with one
argument, and so is its argument; a comma may stand after each of the two, because the layout
writes one where it breaks a line.
-/

import RecordRegistry.Proofs.Reading.Path

namespace RecordRegistry

namespace Parser

open separatedUntil (repeatFrom)

variable {depth : Nat} {grammar : Grammar} {rooted : Bool} {names : List String}
  {name first second third : String} {trees after rest tokens : List TokenTree} {scope : Scope}
  {stray : Option SyntaxError} {found : List Item}

/-- Nothing that stands here continues a type. -/
structure Settles (rest : List TokenTree) : Prop where
  stops : Stops rest
  calls : (Sought.opened .parenthesis).isAt rest = false
  exclaims : (Sought.mark "!").isAt rest = false
  adds : (Sought.mark "+").isAt rest = false

/-- A path is a type if nothing continues it. -/
theorem run_pathType {path : Path} (bare : (Sought.mark "<").matched? trees = none)
    (taken : (Parser.path grammar false).run ⟨trees, scope, stray, found⟩ =
      .ok (path, ⟨rest, scope, stray, found⟩)) (settles : Settles rest) :
    (pathType grammar true false).run ⟨trees, scope, stray, found⟩ =
      .ok (.path false path, ⟨rest, scope, stray, found⟩) := by
  have called (count : Nat) : (typePath.calls grammar path count).run ⟨rest, scope, stray, found⟩ =
      .ok (path, ⟨rest, scope, stray, found⟩) := by
    cases count with
    | zero => rfl
    | succ count =>
        simp [typePath.calls, peekCallableArguments, settles.calls, settles.stops.2]
  simp [pathType, typePath, qualifiedPath, bare, taken, called, settles.exclaims, settles.adds]

theorem Writes.run_typeExpression_eq (writes : Writes rooted names trees)
    (usable : ∀ name ∈ names, Usable name) (grammar : Grammar) (scope : Scope)
    (stray : Option SyntaxError) (found : List Item) :
    (typeExpression grammar true).run ⟨trees ++ after, scope, stray, found⟩ =
      (pathType grammar true false).run ⟨trees ++ after, scope, stray, found⟩ := by
  cases writes with
  | rooted colons =>
      cases colons with
      | cons onward => rfl
  | @bare name _ _ position onward =>
      rw [List.forall_mem_cons] at usable
      rcases usable.1 with free | special
      · have words : ∀ word, isReserved word = true →
            ∀ {rest}, (Sought.word word).isAt (.name name position :: rest) = false :=
          fun word reserved => isAt_word_of_isReserved free reserved
        have named : ∀ {rest}, Sought.identifier.isAt (.name name position :: rest) = true := by
          intro rest
          simp [Sought.isAt, Sought.matched?, free]
        have opened : ∀ {rest},
            (Sought.opened .parenthesis).isAt (.name name position :: rest) = false :=
          rfl
        simp [typeExpression, optionalBinder, words "for" (by decide), words "fn" (by decide),
          words "unsafe" (by decide), words "extern" (by decide), peekPathWord, named, opened]
      · simp only [pathWords, List.mem_cons, List.not_mem_nil, or_false] at special
        rcases special with rfl | rfl | rfl | rfl <;> rfl

/-- A plain path is read as a type. -/
theorem Writes.run_typeExpression (writes : Writes rooted names trees)
    (usable : ∀ name ∈ names, Usable name) :
    ∃ segments, List.Forall₂ Spells names segments ∧ ∀ {rest}, Settles rest →
      ∀ grammar scope stray found,
        (typeExpression grammar true).run ⟨trees ++ rest, scope, stray, found⟩ =
          .ok (.path false ⟨rooted, segments⟩, ⟨rest, scope, stray, found⟩) := by
  obtain ⟨segments, spelled, run⟩ := writes.run_path usable
  refine ⟨segments, spelled, ?_⟩
  intro rest settles grammar scope stray found
  rw [writes.run_typeExpression_eq usable]
  exact run_pathType writes.matched?_eq_none (run settles.stops grammar false scope stray found)
    settles

/-- A name with arguments is one segment. -/
theorem run_segment_of_arguments (free : isReserved name = false) (position : Position)
    (opens : (Sought.mark "<").isAt after = true) (single : (Sought.mark "<=").isAt after = false)
    (args : (genericArguments grammar).run ⟨after, scope, stray, found⟩ =
      .ok (tokens, ⟨rest, scope, stray, found⟩)) :
    (segment grammar false).run ⟨.name name position :: after, scope, stray, found⟩ =
      .ok (⟨⟨name, position⟩, .angled tokens⟩, ⟨rest, scope, stray, found⟩) := by
  have words : ∀ word, isReserved word = true →
      (Sought.word word).isAt (.name name position :: after) = false :=
    fun word => isAt_word_of_isReserved free
  have kept : (identifierOr ["Self"]).run ⟨.name name position :: after, scope, stray, found⟩ =
      .ok (⟨name, position⟩, ⟨after, scope, stray, found⟩) := by
    simp [identifierOr, words "Self" (by decide), run_identifier free]
  simp [segment, words "super" (by decide), words "self" (by decide), words "crate" (by decide),
    words "try" (by decide), kept, opens, single, args]

/-- A path of three names of which the last one has arguments. -/
theorem Colons.run_path_of_arguments (colons : Colons [first, second, third] trees)
    (free : ∀ name ∈ [first, second, third], isReserved name = false)
    (opens : (Sought.mark "<").isAt after = true) (single : (Sought.mark "<=").isAt after = false)
    (args : (genericArguments grammar).run ⟨after, scope, stray, found⟩ =
      .ok (tokens, ⟨rest, scope, stray, found⟩)) (shorter : rest.length ≤ after.length)
    (stops : Stops rest) :
    ∃ segments, (path grammar false).run ⟨trees ++ after, scope, stray, found⟩ =
      .ok (⟨true, segments⟩, ⟨rest, scope, stray, found⟩) := by
  simp only [List.forall_mem_cons, List.not_mem_nil, IsEmpty.forall_iff, implies_true,
    and_true] at free
  cases colons with | @cons _ _ _ _ _ _ one colons =>
  cases colons with | @cons _ _ _ _ _ _ two colons =>
  cases colons with | @cons _ _ _ _ _ _ three colons =>
  cases colons
  have last : Steps (moreStep grammar false) ⟨rest, scope, stray, found⟩ []
      ⟨rest, scope, stray, found⟩ := .done (by simp [moreStep, stops.2])
  refine ⟨[⟨⟨first, one⟩, .none⟩, ⟨⟨second, two⟩, .none⟩, ⟨⟨third, three⟩, .angled tokens⟩], ?_⟩
  change (pathFrom true grammar false).run ⟨.name first one :: _, scope, stray, found⟩ = _
  refine Parser.run_pathFrom (Parser.run_segment (.inl free.1) rfl rfl) (Steps.run_many ?_)
  refine .more (run_moreStep two (Parser.run_segment (.inl free.2.1) rfl rfl)) ?_
    (.more (run_moreStep three (run_segment_of_arguments free.2.2 three opens single args)) ?_
      last)
  · simp only [List.append_eq, List.length_append, List.length_cons]
    omega
  · simp only [List.append_eq, List.length_append, List.length_cons]
    omega

/-- A type that starts here starts with none of these. -/
def StartsType (trees : List TokenTree) : Prop :=
  ∀ sought ∈ [Sought.mark ">", .mark "=", .lifetime, .literal, .opened .brace],
    sought.isAt trees = false

/-- The type is not a single name, which could be given a value. -/
def IsWhole (type : TypeExpression) : Prop :=
  ∀ path, type = .path false path → isAssociated path = false

theorem run_genericArgument {type : TypeExpression} (starts : StartsType trees)
    (whole : IsWhole type)
    (taken : (grammar.typeExpression true).run ⟨trees, scope, stray, found⟩ =
      .ok (type, ⟨rest, scope, stray, found⟩)) :
    ∃ tokens, (genericArgument grammar).run ⟨trees, scope, stray, found⟩ =
      .ok ((false, tokens), ⟨rest, scope, stray, found⟩) := by
  simp only [StartsType, List.forall_mem_cons] at starts
  simp [genericArgument, starts.2.2.1, starts.2.2.2.1, starts.2.2.2.2.1, withTokens, taken]
  split
  · next path =>
      rw [whole path rfl]
      exact ⟨_, rfl⟩
  · exact ⟨_, rfl⟩

/-- Nothing, or a comma. -/
inductive Trailing : List TokenTree → Prop
  | none : Trailing []
  | comma {joint : Bool} {position : Position} : Trailing [.mark ',' joint position]

/-- One type between angle brackets, with or without a comma after it. -/
theorem run_genericArguments {type : TypeExpression} {trailing : List TokenTree}
    (first : Position) {last : Position} (opening : Bool) {closing : Bool}
    (starts : StartsType (trees ++ (trailing ++ .mark '>' closing last :: rest)))
    (whole : IsWhole type) (trails : Trailing trailing)
    (taken : (grammar.typeExpression true).run
        ⟨trees ++ (trailing ++ .mark '>' closing last :: rest), scope, stray, found⟩ =
      .ok (type, ⟨trailing ++ .mark '>' closing last :: rest, scope, stray, found⟩)) :
    ∃ tokens, (genericArguments grammar).run
        ⟨.mark '<' opening first :: (trees ++ (trailing ++ .mark '>' closing last :: rest)),
          scope, stray, found⟩ =
      .ok (tokens, ⟨rest, scope, stray, found⟩) := by
  obtain ⟨tokens, argument⟩ := run_genericArgument starts whole taken
  have unclosed := starts (Sought.mark ">") List.mem_cons_self
  have bare (more : List TokenTree) :
      (Sought.mark "::").matched? (.mark '<' opening first :: more) = none := rfl
  have opened (more : List TokenTree) :
      (Sought.mark "<").matched? (.mark '<' opening first :: more) = some 1 := rfl
  have closed : (Sought.mark ">").matched? (.mark '>' closing last :: rest) = some 1 := rfl
  have ended : (Sought.mark ">").isAt (.mark '>' closing last :: rest) = true := rfl
  cases trails with
  | none =>
      simp only [List.nil_append] at argument unclosed ⊢
      simp [genericArguments, bare, opened, separatedUntil, repeatFrom, unclosed, argument, closed,
        ended]
  | @comma joint position =>
      have comma : (Sought.mark ",").matched?
          (.mark ',' joint position :: .mark '>' closing last :: rest) = some 1 := rfl
      have further : (Sought.mark ">").isAt
          (.mark ',' joint position :: .mark '>' closing last :: rest) = false := rfl
      simp only [List.singleton_append] at argument unclosed ⊢
      simp [genericArguments, bare, opened, separatedUntil, repeatFrom, unclosed, argument, closed,
        ended, comma, further]

theorem isAt_mark_le (joint : Bool) (position : Position)
    (unequal : (Sought.mark "=").isAt rest = false) :
    (Sought.mark "<=").isAt (.mark '<' joint position :: rest) = false := by
  have other : Sought.startsWithMarks ['='] rest = false := by
    by_contra found
    rw [Bool.not_eq_false] at found
    simp [Sought.isAt, Sought.matched?, found] at unequal
  simp [Sought.isAt, Sought.matched?, Sought.startsWithMarks, other]

/-- A path of three names with one argument is read as a type. -/
theorem Colons.run_typeExpression (colons : Colons [first, second, third] after)
    (free : ∀ name ∈ [first, second, third], isReserved name = false) {type : TypeExpression}
    {trailing : List TokenTree} {one two : Position} {opening closing : Bool}
    (starts : StartsType (trees ++ (trailing ++ .mark '>' closing two :: rest)))
    (whole : IsWhole type) (trails : Trailing trailing)
    (taken : (grammar.typeExpression true).run
        ⟨trees ++ (trailing ++ .mark '>' closing two :: rest), scope, stray, found⟩ =
      .ok (type, ⟨trailing ++ .mark '>' closing two :: rest, scope, stray, found⟩))
    (settles : Settles rest) :
    ∃ result, IsWhole result ∧ (typeExpression grammar true).run
        ⟨after ++ .mark '<' opening one :: (trees ++ (trailing ++ .mark '>' closing two :: rest)),
          scope, stray, found⟩ =
      .ok (result, ⟨rest, scope, stray, found⟩) := by
  obtain ⟨tokens, args⟩ := run_genericArguments one opening starts whole trails taken
  have single : (Sought.mark "<=").isAt (.mark '<' opening one ::
      (trees ++ (trailing ++ .mark '>' closing two :: rest))) = false :=
    isAt_mark_le opening one (starts (Sought.mark "=") (by decide))
  have shorter : rest.length ≤ (TokenTree.mark '<' opening one ::
      (trees ++ (trailing ++ .mark '>' closing two :: rest))).length := by
    simp only [List.length_cons, List.length_append]
    omega
  obtain ⟨segments, run⟩ :=
    colons.run_path_of_arguments free rfl single args shorter settles.stops
  refine ⟨.path false ⟨true, segments⟩, ?_, ?_⟩
  · rintro path ⟨⟩
    rfl
  · rw [(Writes.rooted colons).run_typeExpression_eq fun name met => .inl (free name met)]
    exact run_pathType (Writes.rooted colons).matched?_eq_none run settles

theorem matched?_of_isAt_eq_false {sought : Sought} (absent : sought.isAt rest = false) :
    sought.matched? rest = none := by
  simpa [Sought.isAt] using absent

theorem Colons.isAt_eq_false (colons : Colons (name :: names) trees) (rest : List TokenTree) :
    ∀ sought ∈ [Sought.lifetime, .word "use", .word "for", .word "const", .mark "?",
      .opened .parenthesis, .opened .bracket], sought.isAt (trees ++ rest) = false := by
  cases colons with
  | cons onward =>
      simp only [List.forall_mem_cons]
      exact ⟨rfl, rfl, rfl, rfl, rfl, rfl, rfl, List.forall_mem_nil _⟩

/-- A path is read as a bound. -/
theorem Colons.run_bound (colons : Colons (name :: names) trees)
    (usable : ∀ other ∈ name :: names, Usable other) (settles : Settles rest) (grammar : Grammar) :
    (bound grammar ⟨false, false⟩).run ⟨trees ++ rest, scope, stray, found⟩ =
      .ok (.trait, ⟨rest, scope, stray, found⟩) := by
  obtain ⟨segments, -, run⟩ := (Writes.rooted colons).run_path usable
  have front := colons.isAt_eq_false rest
  simp only [List.forall_mem_cons] at front
  obtain ⟨lived, used, bound, constant, relaxed, grouped, bracketed, -⟩ := front
  have trait : (traitBound grammar ⟨false, false⟩).run ⟨trees ++ rest, scope, stray, found⟩ =
      .ok (.trait, ⟨rest, scope, stray, found⟩) := by
    simp [traitBound, optionalBinder, constantContext, bound, matched?_of_isAt_eq_false constant,
      matched?_of_isAt_eq_false relaxed, bracketed, run settles.stops, peekCallableArguments,
      settles.calls, settles.stops.2]
  simp [Parser.bound, matched?_of_isAt_eq_false lived, used, grouped, trait]

/-- A trait after the word for its objects is read as a type. -/
theorem Colons.run_objectType (colons : Colons (name :: names) trees)
    (usable : ∀ other ∈ name :: names, Usable other) (settles : Settles rest) (depth : Nat)
    (position : Position) :
    (typeExpression (Parser.grammar (depth + 1)) true).run
        ⟨.name "dyn" position :: (trees ++ rest), scope, stray, found⟩ =
      .ok (.other, ⟨rest, scope, stray, found⟩) := by
  have bound : ((Parser.grammar (depth + 1)).bound ⟨false, false⟩).run
      ⟨trees ++ rest, scope, stray, found⟩ = .ok (.trait, ⟨rest, scope, stray, found⟩) :=
    colons.run_bound usable settles (Parser.grammar depth)
  have added : (Sought.mark "+").matched? rest = none := matched?_of_isAt_eq_false settles.adds
  have objects : (objectBounds (Parser.grammar (depth + 1)) position true).run
      ⟨trees ++ rest, scope, stray, found⟩ = .ok (⟨⟩, ⟨rest, scope, stray, found⟩) := by
    simp [objectBounds, bounds, bound, many, repeatUpTo, added]
  have start : (typeExpression (Parser.grammar (depth + 1)) true).run
        ⟨.name "dyn" position :: (trees ++ rest), scope, stray, found⟩ =
      ((fun _ => .other) <$> objectBounds (Parser.grammar (depth + 1)) position true).run
        ⟨trees ++ rest, scope, stray, found⟩ := by
    clear bound objects
    cases colons with
    | cons onward => rfl
  rw [start, StateT.run_map, objects]
  rfl

/-- Trees that write the type of a boxed value of any type. -/
inductive WritesBox : List TokenTree → Prop
  | intro {box any trailing : List TokenTree} {opening closing : Bool}
      {first second third : Position} (boxes : Colons ["std", "boxed", "Box"] box)
      (anything : Colons ["std", "any", "Any"] any) (trails : Trailing trailing) :
      WritesBox (box ++ .mark '<' opening first ::
        (.name "dyn" second :: any ++ (trailing ++ [.mark '>' closing third])))

/-- Trees that write the type of a registry. -/
inductive WritesResult : List TokenTree → Prop
  | intro {vector box trailing : List TokenTree} {opening closing : Bool}
      {first second : Position} (vectors : Colons ["std", "vec", "Vec"] vector)
      (boxes : WritesBox box) (trails : Trailing trailing) :
      WritesResult (vector ++ .mark '<' opening first ::
        (box ++ (trailing ++ [.mark '>' closing second])))

theorem Trailing.settles {trailing : List TokenTree} (trails : Trailing trailing) (joint : Bool)
    (position : Position) (rest : List TokenTree) :
    Settles (trailing ++ .mark '>' joint position :: rest) := by
  cases trails with
  | none => exact ⟨⟨rfl, rfl⟩, rfl, rfl, rfl⟩
  | comma => exact ⟨⟨rfl, rfl⟩, rfl, rfl, rfl⟩

theorem WritesBox.startsType (writes : WritesBox trees) : StartsType (trees ++ rest) := by
  cases writes with
  | intro boxes anything trails =>
      cases boxes with
      | cons onward =>
          simp only [StartsType, List.forall_mem_cons]
          exact ⟨rfl, rfl, rfl, rfl, rfl, List.forall_mem_nil _⟩

theorem WritesBox.run_typeExpression (writes : WritesBox trees) (settles : Settles rest)
    (depth : Nat) :
    ∃ type, IsWhole type ∧
      (typeExpression (Parser.grammar (depth + 2)) true).run ⟨trees ++ rest, scope, stray, found⟩ =
        .ok (type, ⟨rest, scope, stray, found⟩) := by
  cases writes with
  | @intro box any trailing _ closing _ second third boxes anything trails =>
  have free : ∀ name ∈ ["std", "boxed", "Box"], isReserved name = false := by decide
  have usable : ∀ name ∈ ["std", "any", "Any"], isReserved name = false := by decide
  have object : ((Parser.grammar (depth + 2)).typeExpression true).run
      ⟨.name "dyn" second :: any ++ (trailing ++ .mark '>' closing third :: rest),
        scope, stray, found⟩ =
      .ok (.other, ⟨trailing ++ .mark '>' closing third :: rest, scope, stray, found⟩) :=
    anything.run_objectType (fun name met => .inl (usable name met))
      (trails.settles closing third rest) depth second
  have starts : ∀ {more}, StartsType (.name "dyn" second :: more) := by
    intro more
    simp only [StartsType, List.forall_mem_cons]
    exact ⟨rfl, rfl, rfl, rfl, rfl, List.forall_mem_nil _⟩
  have whole : IsWhole .other := by rintro path ⟨⟩
  simpa only [List.append_assoc, List.cons_append, List.nil_append] using
    boxes.run_typeExpression free starts whole trails object settles

/-- The type of a registry is read, whichever of its arguments have commas after them. -/
theorem WritesResult.run_typeExpression (writes : WritesResult trees) (settles : Settles rest)
    (depth : Nat) :
    ∃ type, (typeExpression (Parser.grammar (depth + 3)) true).run
        ⟨trees ++ rest, scope, stray, found⟩ = .ok (type, ⟨rest, scope, stray, found⟩) := by
  cases writes with
  | @intro vector box trailing _ closing _ second vectors boxes trails =>
  have free : ∀ name ∈ ["std", "vec", "Vec"], isReserved name = false := by decide
  obtain ⟨type, whole, boxed⟩ :=
    boxes.run_typeExpression (trails.settles closing second rest) depth
  have argument : ((Parser.grammar (depth + 3)).typeExpression true).run
      ⟨box ++ (trailing ++ .mark '>' closing second :: rest), scope, stray, found⟩ =
      .ok (type, ⟨trailing ++ .mark '>' closing second :: rest, scope, stray, found⟩) := boxed
  obtain ⟨result, -, run⟩ :=
    vectors.run_typeExpression free boxes.startsType whole trails argument settles
  refine ⟨result, ?_⟩
  simpa only [List.append_assoc, List.cons_append, List.nil_append] using run

end Parser

end RecordRegistry
