/-
# Reading the file of a registry

The documentation at the front of a registry is read as attributes, and what follows is one
function whose body is one use of a textual definition.
-/

import RecordRegistry.Proofs.Reading.Type
import RecordRegistry.Proofs.Syntax.Whole

namespace RecordRegistry

namespace Parser

variable {trees rest content : List TokenTree} {scope : Scope} {stray : Option SyntaxError}
  {found : List Item}

/-- Trees that use a textual definition on the content. -/
inductive WritesBody (content : List TokenTree) : List TokenTree → Prop
  | intro {path : List TokenTree} {joint : Bool} {first second third : Position}
      (vectors : Colons ["std", "vec"] path) :
      WritesBody content (path ++ [.mark '!' joint first, .group .bracket second third content])

theorem WritesBody.run_statements (writes : WritesBody content trees) (depth : Nat) :
    (statements (grammar (depth + 2))).run ⟨trees, scope, stray, found⟩ =
      .ok ([.invocation content], ⟨[], scope, stray, found⟩) := by
  cases writes with
  | @intro _ joint _ _ _ vectors =>
  cases vectors with | cons vectors =>
  cases vectors with | cons vectors =>
  cases vectors
  cases joint <;> rfl

theorem WritesBody.run_body (writes : WritesBody content trees) (depth : Nat)
    (first last : Position) :
    (body (grammar (depth + 3))).run
        ⟨.group .brace first last trees :: rest, scope, stray, found⟩ =
      .ok ([.invocation content], ⟨rest, scope, stray, found⟩) := by
  have statements : ((grammar (depth + 3)).statements).run
      ⟨trees, ⟨last, some .brace⟩, stray, found⟩ =
        .ok ([.invocation content], ⟨[], ⟨last, some .brace⟩, stray, found⟩) :=
    writes.run_statements depth
  have unattributed : (innerAttributes (grammar (depth + 3))).run
      ⟨trees, ⟨last, some .brace⟩, stray, found⟩ =
        .ok (⟨⟩, ⟨trees, ⟨last, some .brace⟩, stray, found⟩) := by
    cases writes with
    | intro vectors =>
        cases vectors with
        | cons onward => rfl
  apply run_within_of_ok
  rw [StateT.run_bind, unattributed, ok_bind, statements]

/-- Trees that write the function of a registry. -/
inductive WritesFunctionItem (name : String) (content : List TokenTree) : List TokenTree → Prop
  | intro {type body : List TokenTree} {joint : Bool}
      {first second third fourth fifth sixth seventh eighth ninth : Position}
      (types : WritesResult type) (bodies : WritesBody content body) :
      WritesFunctionItem name content
        (.name "pub" first :: .name "fn" second :: .name name third ::
          .group .parenthesis fourth fifth [] :: .mark '-' true sixth :: .mark '>' joint seventh ::
            (type ++ [.group .brace eighth ninth body]))

/-- The head of a function is read up to its braces. -/
theorem WritesResult.run_signature (types : WritesResult trees) {name : String}
    (free : isReserved name = false) (settles : Settles rest)
    (unconstrained : (Sought.word "where").isAt rest = false) (depth : Nat)
    (first second third fourth fifth sixth : Position) (joint : Bool) :
    (signature (grammar (depth + 4)) false).run
        ⟨.name "fn" first :: .name name second :: .group .parenthesis third fourth [] ::
          .mark '-' true fifth :: .mark '>' joint sixth :: (trees ++ rest),
          scope, stray, found⟩ =
      .ok (⟨name, second⟩, ⟨rest, scope, stray, found⟩) := by
  obtain ⟨type, typed⟩ : ∃ type, ((grammar (depth + 4)).typeExpression true).run
      ⟨trees ++ rest, scope, stray, found⟩ = .ok (type, ⟨rest, scope, stray, found⟩) :=
    types.run_typeExpression settles depth
  change (do
    let name ← identifier
    let _ ← parameters (grammar (depth + 4))
    within .parenthesis (functionArguments (grammar (depth + 4)))
    let _ ← result (grammar (depth + 4)) true
    let _ ← constraints (grammar (depth + 4))
    return name : Parser Name).run ⟨.name name second :: _, scope, stray, found⟩ = _
  have plain (more : List TokenTree) :
      (Sought.mark "<").matched? (.group .parenthesis third fourth [] :: more) = none := rfl
  have arrow (more : List TokenTree) :
      (Sought.mark "->").matched? (.mark '-' true fifth :: .mark '>' joint sixth :: more) =
        some 2 := rfl
  have nothing (more : List TokenTree) :
      (within .parenthesis (functionArguments (grammar (depth + 4)))).run
          ⟨.group .parenthesis third fourth [] :: more, scope, stray, found⟩ =
        .ok (⟨⟩, ⟨more, scope, stray, found⟩) := run_within_of_ok rfl
  simp [run_identifier free, parameters, plain, nothing, result, arrow, typed, constraints,
    matched?_of_isAt_eq_false unconstrained]

theorem WritesFunctionItem.run_item {name : String} (free : isReserved name = false)
    (writes : WritesFunctionItem name content trees) (depth : Nat) :
    ∃ position, (item (grammar (depth + 4))).run ⟨trees, scope, stray, found⟩ =
      .ok (.function ⟨name, position⟩ [.invocation content], ⟨[], scope, stray, found⟩) := by
  cases writes with
  | @intro type body joint _ second third fourth fifth sixth seventh eighth ninth types bodies =>
  have settles : Settles [.group .brace eighth ninth body] := ⟨⟨rfl, rfl⟩, rfl, rfl, rfl⟩
  have signed : (signature (grammar (depth + 4)) false).run
        ⟨.name "fn" second :: .name name third :: .group .parenthesis fourth fifth [] ::
          .mark '-' true sixth :: .mark '>' joint seventh ::
            (type ++ [.group .brace eighth ninth body]), scope, stray, found⟩ =
      .ok (⟨name, third⟩, ⟨[.group .brace eighth ninth body], scope, stray, found⟩) :=
    types.run_signature free settles rfl depth second third fourth fifth sixth seventh joint
  have bodied : (Parser.body (grammar (depth + 4))).run
      ⟨[.group .brace eighth ninth body], scope, stray, found⟩ = _ :=
    bodies.run_body (depth + 1) eighth ninth
  refine ⟨third, ?_⟩
  change (functionItem (grammar (depth + 4))).run
        ⟨.name "fn" second :: .name name third :: .group .parenthesis fourth fifth [] ::
          .mark '-' true sixth :: .mark '>' joint seventh ::
            (type ++ [.group .brace eighth ninth body]), scope, stray, found⟩ = _
  have unended : (Sought.mark ";").matched? [.group .brace eighth ninth body] = none := rfl
  simp [functionItem, signed, unended, bodied]

/-- Trees that write lines of documentation, for what follows or for what encloses them. -/
inductive Documents (inner : Bool) : List TokenTree → Prop
  | nil : Documents inner []
  | cons {text : String} {firstJoint secondJoint thirdJoint : Bool}
      {first second third fourth fifth sixth seventh : Position} {trees : List TokenTree}
      (onward : Documents inner trees) :
      Documents inner (.mark '#' firstJoint first ::
        ((if inner then [.mark '!' secondJoint second] else []) ++
          .group .bracket third fourth
            [.name "doc" fifth, .mark '=' thirdJoint sixth, .literal text seventh] :: trees))

/-- Whether an attribute of what follows, or of what encloses it, comes next. -/
def attributeAhead (inner : Bool) (trees : List TokenTree) : Bool :=
  if inner then (Sought.mark "#").isAt trees && (Sought.mark "!").isAt (afterTree trees)
  else (Sought.mark "#").isAt trees

/-- What is repeated for the attributes. -/
def attributeStep (inner : Bool) (grammar : Grammar) : Parser (Option Unit) := do
  if attributeAhead inner (← get).rest then
    some <$> do
      require (.mark "#")
      if inner then require (.mark "!")
      within .bracket (attributeContent grammar)
  else return none

/-- One line of documentation is taken as an attribute. -/
theorem run_attributeStep {text : String} {firstJoint secondJoint thirdJoint : Bool}
    {first second third fourth fifth sixth seventh : Position} (inner : Bool) (grammar : Grammar) :
    (attributeStep inner grammar).run
        ⟨.mark '#' firstJoint first ::
          ((if inner then [.mark '!' secondJoint second] else []) ++
            .group .bracket third fourth
              [.name "doc" fifth, .mark '=' thirdJoint sixth, .literal text seventh] :: rest),
          scope, stray, found⟩ =
      .ok (some ⟨⟩, ⟨rest, scope, stray, found⟩) := by
  have content : (within .bracket (attributeContent grammar)).run
      ⟨.group .bracket third fourth
        [.name "doc" fifth, .mark '=' thirdJoint sixth, .literal text seventh] :: rest,
        scope, stray, found⟩ = .ok (⟨⟩, ⟨rest, scope, stray, found⟩) := run_within_of_ok rfl
  have start : (attributeStep inner grammar).run
        ⟨.mark '#' firstJoint first ::
          ((if inner then [.mark '!' secondJoint second] else []) ++
            .group .bracket third fourth
              [.name "doc" fifth, .mark '=' thirdJoint sixth, .literal text seventh] :: rest),
          scope, stray, found⟩ =
      (some <$> within .bracket (attributeContent grammar)).run
        ⟨.group .bracket third fourth
          [.name "doc" fifth, .mark '=' thirdJoint sixth, .literal text seventh] :: rest,
          scope, stray, found⟩ := by
    cases inner with
    | false => rfl
    | true => rfl
  rw [start, StateT.run_map, content]
  rfl

theorem Documents.steps {inner : Bool} (documents : Documents inner trees)
    (ended : attributeAhead inner rest = false) (grammar : Grammar) :
    ∃ units, Steps (attributeStep inner grammar) ⟨trees ++ rest, scope, stray, found⟩ units
      ⟨rest, scope, stray, found⟩ := by
  induction documents with
  | nil => exact ⟨[], .done (by simp [attributeStep, ended])⟩
  | cons onward ih =>
      obtain ⟨units, steps⟩ := ih
      rw [List.cons_append, List.append_assoc, List.cons_append]
      refine ⟨⟨⟩ :: units, .more (run_attributeStep inner grammar) ?_ steps⟩
      simp only [List.length_append, List.length_cons]
      omega

/-- Lines about what encloses them are read as attributes. -/
theorem Documents.run_innerAttributes (documents : Documents true trees)
    (ended : attributeAhead true rest = false) (grammar : Grammar) :
    (innerAttributes grammar).run ⟨trees ++ rest, scope, stray, found⟩ =
      .ok (⟨⟩, ⟨rest, scope, stray, found⟩) := by
  obtain ⟨units, steps⟩ := documents.steps ended grammar
  have same : (innerAttributes grammar).run ⟨trees ++ rest, scope, stray, found⟩ =
      (many (attributeStep true grammar) >>= fun _ => pure ⟨⟩).run
        ⟨trees ++ rest, scope, stray, found⟩ := rfl
  rw [same, StateT.run_bind, steps.run_many]
  rfl

/-- Lines about what follows are read as its attributes. -/
theorem Documents.run_outerAttributes (documents : Documents false trees)
    (ended : attributeAhead false rest = false) (grammar : Grammar) :
    (outerAttributes grammar).run ⟨trees ++ rest, scope, stray, found⟩ =
      .ok (⟨⟩, ⟨rest, scope, stray, found⟩) := by
  obtain ⟨units, steps⟩ := documents.steps ended grammar
  have same : (outerAttributes grammar).run ⟨trees ++ rest, scope, stray, found⟩ =
      (many (attributeStep false grammar) >>= fun _ => pure ⟨⟩).run
        ⟨trees ++ rest, scope, stray, found⟩ := rfl
  rw [same, StateT.run_bind, steps.run_many]
  rfl

/-- Trees that write a registry with the content between the brackets. -/
inductive WritesFile (name : String) (content : List TokenTree) : List TokenTree → Prop
  | intro {inner outer function : List TokenTree} (enclosing : Documents true inner)
      (following : Documents false outer) (functions : WritesFunctionItem name content function) :
      WritesFile name content (inner ++ (outer ++ function))

/-- What is repeated for the items of a file. -/
def itemStep (grammar : Grammar) : Parser (Option Item) := do
  if !(← get).rest.isEmpty then
    some <$> do
      outerAttributes grammar
      grammar.item
  else return none

/-- A registry is read as a file whose only item is its function. -/
theorem WritesFile.run_file {name : String} (free : isReserved name = false)
    (writes : WritesFile name content trees) (depth : Nat) :
    ∃ position, (file (grammar (depth + 5))).run ⟨trees, scope, stray, []⟩ =
      .ok (⟨[], [.function ⟨name, position⟩ [.invocation content]]⟩, ⟨[], scope, stray, []⟩) := by
  cases writes with
  | @intro inner outer function enclosing following functions =>
  obtain ⟨position, run⟩ : ∃ position, ((grammar (depth + 5)).item).run ⟨function, scope, stray, []⟩ =
      .ok (.function ⟨name, position⟩ [.invocation content], ⟨[], scope, stray, []⟩) :=
    functions.run_item free depth
  have filled : function ≠ [] := by
    cases functions with
    | intro types bodies => exact List.cons_ne_nil _ _
  have visible : attributeAhead false function = false := by
    cases functions with
    | intro types bodies => rfl
  have unattributed : attributeAhead true (outer ++ function) = false := by
    cases functions with
    | intro types bodies =>
        cases following with
        | nil => rfl
        | cons onward => rfl
  have item : (itemStep (grammar (depth + 5))).run ⟨outer ++ function, scope, stray, []⟩ =
      .ok (some (.function ⟨name, position⟩ [.invocation content]), ⟨[], scope, stray, []⟩) := by
    simp [itemStep, filled, following.run_outerAttributes visible, run]
  have ended : (itemStep (grammar (depth + 5))).run ⟨[], scope, stray, []⟩ =
      .ok (none, ⟨[], scope, stray, []⟩) := rfl
  have items : (untilEnd (do
        outerAttributes (grammar (depth + 5))
        (grammar (depth + 5)).item)).run ⟨outer ++ function, scope, stray, []⟩ =
      .ok ([.function ⟨name, position⟩ [.invocation content]], ⟨[], scope, stray, []⟩) := by
    refine Steps.run_many (.more item ?_ (.done ended))
    exact List.length_pos_iff.mpr (List.append_ne_nil_of_right_ne_nil _ filled)
  refine ⟨position, ?_⟩
  simp [file, enclosing.run_innerAttributes unattributed, items]

end Parser

end RecordRegistry
