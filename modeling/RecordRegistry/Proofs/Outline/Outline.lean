/-
# Outlines

Which types a file declares at its top level can be told from its outermost tokens alone: from the
names, marks and literals that stand in no group, and from where groups stand, but not from what is
in a group.  The outline of a sequence of trees lists these types.  It knows nothing of the grammar
but the words that begin the declaration of a type, and what tells the shapes of types apart.
-/

import RecordRegistry.Declaration
import RecordRegistry.Syntax.Stream

namespace RecordRegistry

namespace Outline

/-- The words before the name of a type. The last of them is an ordinary name elsewhere. -/
def typeWords : List String := ["struct", "enum", "trait", "type", "union"]

/-- The shape of a struct, told from what follows its name: it has parameters if something stands
between the angle brackets, and fields without names if a parenthesis follows. -/
def structShape : List TokenTree → Shape
  | .mark '<' _ _ :: .mark '>' _ _ :: .group .parenthesis _ _ _ :: _ => .other
  | .mark '<' _ _ :: .mark '>' _ _ :: _ => .record
  | .mark '<' _ _ :: _ => .other
  | .group .parenthesis _ _ _ :: _ => .other
  | _ => .record

/-- Whether a declaration by the word for types is an alias, told from what follows its name: it has
a value, and no bounds before it.  What stands between angle brackets does not count, an arrow opens
or closes none, and the colons of constraints are no bounds of the type. -/
def isAlias (constrained : Bool) (depth : Nat) : List TokenTree → Bool
  | [] => false
  | .mark '\x27' true _ :: .name _ _ :: rest => isAlias constrained depth rest
  | .mark '-' true _ :: .mark '>' _ _ :: rest => isAlias constrained depth rest
  | .mark '<' _ _ :: rest => isAlias constrained (depth + 1) rest
  | .mark '>' _ _ :: rest => isAlias constrained (depth - 1) rest
  | .mark '=' _ _ :: rest => depth = 0 || isAlias constrained depth rest
  | .mark ';' _ _ :: rest => depth ≠ 0 && isAlias constrained depth rest
  | .mark ':' _ _ :: rest => (constrained || depth ≠ 0) && isAlias constrained depth rest
  | .name word _ :: rest => isAlias (constrained || word = "where") depth rest
  | _ :: rest => isAlias constrained depth rest

/-- The shape of the type that a word declares, told from what follows the name of the type. -/
def shape? (word : String) (rest : List TokenTree) : Option Shape :=
  if word = "struct" then some (structShape rest)
  else if word = "enum" || word = "union" then some .other
  else if word = "trait" then some .interface
  else if word = "type" && isAlias false 0 rest then some .alias
  else none

/-- The type that is declared by a tree and what follows it, if one is. -/
def declared? : TokenTree → List TokenTree → Option (Name × Shape)
  | .name word _, .name spelling position :: rest =>
    if isReserved spelling then none
    else (shape? word rest).map fun shape => (⟨spelling, position⟩, shape)
  | _, _ => none

/-- Whether the name of a lifetime follows. -/
def opensLifetime : TokenTree → Bool
  | .mark '\x27' joint _ => joint
  | _ => false

/-- The types that are declared, in order. The first tree may be the name of a lifetime, which is no
word. -/
def outlineFrom (quoted : Bool) : List TokenTree → List (Name × Shape)
  | [] => []
  | tree :: rest =>
    (if quoted then none else declared? tree rest).toList ++ outlineFrom (opensLifetime tree) rest

end Outline

/-- The types that are declared by the outermost tokens of a sequence of trees, in order. -/
def outline (trees : List TokenTree) : List (Name × Shape) := Outline.outlineFrom false trees

namespace Outline

variable {character : Char} {joint : Bool} {position : Position} {spelling word : String}
  {rest : List TokenTree} {constrained : Bool} {depth : Nat} {tree : TokenTree}

theorem outline_cons (plain : opensLifetime tree = false) :
    outline (tree :: rest) =
      (declared? tree rest).toList ++ outline rest := by
  rw [outline, outlineFrom, plain]
  rfl

theorem outline_mark (plain : character ≠ '\x27') :
    outline (.mark character joint position :: rest) =
      outline rest := by
  rw [outline_cons (by unfold opensLifetime; grind)]
  rfl

@[simp] theorem outline_literal :
    outline (.literal spelling position :: rest) = outline rest := rfl

@[simp] theorem outline_group {delimiter : Delimiter} {opening closing : Position}
    {content : List TokenTree} :
    outline (.group delimiter opening closing content :: rest) =
      outline rest := rfl

@[simp] theorem outline_lifetime {mark name : Position} :
    outline (.mark '\x27' true mark :: .name spelling name :: rest) =
      outline rest := rfl

theorem shape?_eq_none (other : word ∉ typeWords) : shape? word rest = none := by
  simp only [typeWords, List.mem_cons, List.not_mem_nil, or_false, not_or] at other
  simp [shape?, other]

theorem outline_word (other : word ∉ typeWords) :
    outline (.name word position :: rest) = outline rest := by
  have none : declared? (.name word position) rest = none := by
    cases rest with
    | nil => rfl
    | cons next rest => cases next <;> simp [declared?, shape?_eq_none other]
  rw [outline_cons rfl, none]
  rfl

/-- A name declares nothing unless another one follows it. -/
theorem outline_alone (alone : Sought.identifier.isAt rest = false) :
    outline (.name word position :: rest) = outline rest := by
  have none : declared? (.name word position) rest = none := by
    cases rest with
    | nil => rfl
    | cons next rest =>
        cases next <;> simp_all [declared?, Sought.isAt, Sought.matched?]
  rw [outline_cons rfl, none]
  rfl

end Outline

end RecordRegistry
