/-
# Reading lists

A list whose values have commas between them is read as these values if each of them is read from
its own trees, wherever a value of a list may stand.
-/

import RecordRegistry.Proofs.Syntax.Running

namespace RecordRegistry

namespace Parser

open separatedUntil (repeatFrom)

/-- Nothing follows, or a comma does. -/
inductive Ends : List TokenTree → Prop
  | nil : Ends []
  | comma {joint : Bool} {position : Position} {rest : List TokenTree} :
      Ends (.mark ',' joint position :: rest)

/-- The parser takes the trees for the value, wherever a value of a list may stand. -/
def Takes {α : Type} (parser : Parser α) (trees : List TokenTree) (value : α) : Prop :=
  trees ≠ [] ∧ ∀ {after}, Ends after → ∀ scope stray found,
    parser.run ⟨trees ++ after, scope, stray, found⟩ = .ok (value, ⟨after, scope, stray, found⟩)

/-- Trees with commas between them, each taken for a value. -/
inductive Listed {α : Type} (parser : Parser α) : List α → List TokenTree → Prop
  | nil : Listed parser [] []
  | single {value : α} {trees : List TokenTree} (takes : Takes parser trees value) :
      Listed parser [value] trees
  | cons {value next : α} {values : List α} {trees rest : List TokenTree} {joint : Bool}
      {position : Position} (takes : Takes parser trees value)
      (onward : Listed parser (next :: values) rest) :
      Listed parser (value :: next :: values) (trees ++ .mark ',' joint position :: rest)

variable {α : Type} {parser : Parser α} {values : List α} {value : α} {joint : Bool}
  {position : Position} {trees after : List TokenTree} {scope : Scope}
  {stray : Option SyntaxError} {found : List Item}

/-- What is left of a list: only the first value has no comma before it. -/
def front (first joint : Bool) (position : Position) (trees : List TokenTree) : List TokenTree :=
  if first then trees else .mark ',' joint position :: trees

/-- One value is taken, with the comma before it. -/
theorem run_repeatFrom_succ {first : Bool} {count : Nat} {last : Stream}
    (takes : Takes parser trees value) (ends : Ends after)
    (onward : (repeatFrom (.mark ",") atEnd parser false count).run ⟨after, scope, stray, found⟩ =
      .ok (values, last)) :
    (repeatFrom (.mark ",") atEnd parser first (count + 1)).run
        ⟨front first joint position (trees ++ after), scope, stray, found⟩ =
      .ok (value :: values, last) := by
  obtain ⟨filled, taken⟩ := takes
  have comma : (Sought.mark ",").matched? (.mark ',' joint position :: (trees ++ after)) =
      some 1 := rfl
  cases first <;>
    simp [repeatFrom, front, filled, comma, taken ends, onward]

theorem Listed.run_repeatFrom (listed : Listed parser values trees) (first joint : Bool)
    (position : Position) {count : Nat} (long : values.length < count) :
    (repeatFrom (.mark ",") atEnd parser first count).run
        ⟨front first joint position trees, scope, stray, found⟩ =
      .ok (values, ⟨[], scope, stray, found⟩) := by
  induction listed generalizing first count joint position with
  | nil =>
      obtain ⟨count, rfl⟩ := Nat.exists_eq_add_of_lt long
      have comma : (Sought.mark ",").matched? [.mark ',' joint position] = some 1 := rfl
      cases first <;> simp [repeatFrom, front, comma]
  | @single value trees takes =>
      obtain ⟨count, rfl⟩ : ∃ fewer, count = fewer + 2 := Nat.exists_eq_add_of_le' long
      have onward : (repeatFrom (.mark ",") atEnd parser false (count + 1)).run
          ⟨[], scope, stray, found⟩ = .ok ([], ⟨[], scope, stray, found⟩) := rfl
      simpa using run_repeatFrom_succ takes .nil onward
  | cons takes onward ih =>
      obtain ⟨count, rfl⟩ : ∃ fewer, count = fewer + 1 :=
        Nat.exists_eq_add_one_of_ne_zero (Nat.ne_zero_of_lt long)
      exact run_repeatFrom_succ takes .comma (ih false _ _ (Nat.lt_of_succ_lt_succ long))

theorem Listed.length_le (listed : Listed parser values trees) : values.length ≤ trees.length := by
  induction listed with
  | nil => exact Nat.le_refl _
  | single takes => exact List.length_pos_iff.mpr takes.1
  | cons takes onward ih =>
      have := List.length_pos_iff.mpr takes.1
      simp only [List.length_append, List.length_cons] at ih ⊢
      omega

/-- A list is read as its values. -/
theorem Listed.run_commaList (listed : Listed parser values trees) :
    (commaList parser).run ⟨trees, scope, stray, found⟩ =
      .ok (values, ⟨[], scope, stray, found⟩) :=
  listed.run_repeatFrom true true Position.start (Nat.lt_succ_of_le listed.length_le)

end Parser

end RecordRegistry
