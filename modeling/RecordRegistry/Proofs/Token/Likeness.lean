/-
# Tokens up to their places

Two token trees are alike if they differ only in where they stand and in marks that are joined
besides those that have to be.  Matching the delimiters of a text that spells some trees yields
trees like them.
-/

import Mathlib.Data.List.Forall2
import Mathlib.Tactic.Common
import RecordRegistry.Token.Lexer

namespace RecordRegistry

namespace TokenTree

mutual

/-- The second tree is like the first one. -/
def Like : TokenTree → TokenTree → Prop
  | .name spelling _, .name other _ => spelling = other
  | .mark character joint _, .mark other joined _ => character = other ∧ (joint → joined)
  | .literal spelling _, .literal other _ => spelling = other
  | .group delimiter _ _ content, .group other _ _ inside =>
    delimiter = other ∧ AllLike content inside
  | _, _ => False

/-- The second trees are like the first ones. -/
def AllLike : List TokenTree → List TokenTree → Prop
  | [], [] => True
  | tree :: rest, other :: more => Like tree other ∧ AllLike rest more
  | _, _ => False

end

@[simp] theorem like_name_iff {spelling : String} {position : Position} {tree : TokenTree} :
    Like (.name spelling position) tree ↔ ∃ place, tree = .name spelling place := by
  cases tree <;> simp [Like, eq_comm]

@[simp] theorem like_mark_iff {character : Char} {joint : Bool} {position : Position}
    {tree : TokenTree} :
    Like (.mark character joint position) tree ↔
      ∃ joined place, tree = .mark character joined place ∧ (joint → joined) := by
  cases tree with
  | mark other joined place =>
      constructor
      · rintro ⟨rfl, also⟩
        exact ⟨joined, place, rfl, also⟩
      · rintro ⟨joined, place, same, also⟩
        cases same
        exact ⟨rfl, also⟩
  | _ => simp [Like]

@[simp] theorem like_literal_iff {spelling : String} {position : Position} {tree : TokenTree} :
    Like (.literal spelling position) tree ↔ ∃ place, tree = .literal spelling place := by
  cases tree <;> simp [Like, eq_comm]

@[simp] theorem like_group_iff {delimiter : Delimiter} {opening closing : Position}
    {content : List TokenTree} {tree : TokenTree} :
    Like (.group delimiter opening closing content) tree ↔
      ∃ first last inside, tree = .group delimiter first last inside ∧ AllLike content inside := by
  cases tree <;> simp [Like, eq_comm]

@[simp] theorem allLike_nil_iff {trees : List TokenTree} : AllLike [] trees ↔ trees = [] := by
  cases trees <;> simp [AllLike]

@[simp] theorem allLike_cons_iff {tree : TokenTree} {rest trees : List TokenTree} :
    AllLike (tree :: rest) trees ↔
      ∃ other more, trees = other :: more ∧ Like tree other ∧ AllLike rest more := by
  cases trees <;> simp [AllLike]

mutual

theorem like_refl : ∀ tree : TokenTree, tree.Like tree
  | .name _ _ => rfl
  | .mark _ _ _ => ⟨rfl, id⟩
  | .literal _ _ => rfl
  | .group _ _ _ content => ⟨rfl, allLike_refl content⟩

theorem allLike_refl : ∀ trees : List TokenTree, AllLike trees trees
  | [] => trivial
  | tree :: rest => ⟨like_refl tree, allLike_refl rest⟩

end

theorem allLike_append_iff {first second trees : List TokenTree} :
    AllLike (first ++ second) trees ↔
      ∃ one other, trees = one ++ other ∧ AllLike first one ∧ AllLike second other := by
  induction first generalizing trees with
  | nil => simp
  | cons tree rest ih =>
      simp only [List.cons_append, allLike_cons_iff, ih]
      constructor
      · rintro ⟨tree, more, rfl, like, one, other, rfl, likes, also⟩
        exact ⟨tree :: one, other, rfl, ⟨tree, one, rfl, like, likes⟩, also⟩
      · rintro ⟨-, other, rfl, ⟨tree, one, rfl, like, likes⟩, also⟩
        exact ⟨tree, one ++ other, rfl, like, one, other, rfl, likes, also⟩

end TokenTree

namespace Lexer

namespace Lexeme

/-- The second lexeme is like the first one. -/
inductive Like : Lexeme → Lexeme → Prop
  | leaf {tree other : TokenTree} (like : tree.Like other) : Like (.leaf tree) (.leaf other)
  | opening {delimiter : Delimiter} {position place : Position} :
      Like (.opening delimiter position) (.opening delimiter place)
  | closing {delimiter : Delimiter} {position place : Position} :
      Like (.closing delimiter position) (.closing delimiter place)

@[simp] theorem like_leaf_iff {tree : TokenTree} {lexeme : Lexeme} :
    Like (.leaf tree) lexeme ↔ ∃ other, lexeme = .leaf other ∧ tree.Like other := by
  constructor
  · rintro ⟨like⟩
    exact ⟨_, rfl, like⟩
  · rintro ⟨other, rfl, like⟩
    exact .leaf like

end Lexeme

mutual

/-- The lexemes of a tree. -/
def flat : TokenTree → List Lexeme
  | .group delimiter opening closing content =>
    .opening delimiter opening :: flatAll content ++ [.closing delimiter closing]
  | tree => [.leaf tree]

/-- The lexemes of a sequence of trees. -/
def flatAll : List TokenTree → List Lexeme
  | [] => []
  | tree :: rest => flat tree ++ flatAll rest

end

/-- What is like two sequences of lexemes comes in two parts. -/
theorem alike_append {first second found : List Lexeme}
    (alike : List.Forall₂ Lexeme.Like (first ++ second) found) :
    ∃ one other, found = one ++ other ∧ List.Forall₂ Lexeme.Like first one ∧
      List.Forall₂ Lexeme.Like second other := by
  induction first generalizing found with
  | nil => exact ⟨[], found, rfl, .nil, alike⟩
  | cons lexeme rest ih =>
      cases alike with
      | cons like likes =>
          obtain ⟨one, other, rfl, before, after⟩ := ih likes
          exact ⟨_ :: one, other, rfl, .cons like before, after⟩

/-- The lexemes of a tree that is no group are matched as they are. -/
theorem nest_leaf {tree : TokenTree} {found : List Lexeme}
    (alike : List.Forall₂ Lexeme.Like [.leaf tree] found) :
    ∃ other, tree.Like other ∧
      ∀ (failure : Option Position) (stack : List OpenGroup) (before : List TokenTree)
        (rest : List Lexeme),
        nest failure stack before (found ++ rest) = nest failure stack (other :: before) rest := by
  obtain _ | ⟨like, none⟩ := alike
  cases none
  cases like with
  | leaf like => exact ⟨_, like, fun failure stack before rest => rfl⟩

/-- Tokens that are given as such are kept as they are. -/
theorem nest_leaves {trees : List TokenTree} {found : List Lexeme}
    (alike : List.Forall₂ Lexeme.Like (trees.map .leaf) found) :
    ∃ others, TokenTree.AllLike trees others ∧
      ∀ (failure : Option Position) (stack : List OpenGroup) (before : List TokenTree)
        (rest : List Lexeme),
        nest failure stack before (found ++ rest) =
          nest failure stack (others.reverse ++ before) rest := by
  induction trees generalizing found with
  | nil =>
      cases alike
      exact ⟨[], trivial, fun failure stack before rest => rfl⟩
  | cons tree trees ih =>
      obtain _ | ⟨like, likes⟩ := alike
      obtain ⟨others, also, onward⟩ := ih likes
      cases like with
      | leaf like =>
          refine ⟨_ :: others, ⟨like, also⟩, ?_⟩
          intro failure stack before rest
          simp [nest, onward]

mutual

/-- The lexemes of a tree are matched to a tree like it. -/
theorem nest_flat (tree : TokenTree) {found : List Lexeme}
    (alike : List.Forall₂ Lexeme.Like (flat tree) found) :
    ∃ other, tree.Like other ∧
      ∀ (failure : Option Position) (stack : List OpenGroup) (before : List TokenTree)
        (rest : List Lexeme),
        nest failure stack before (found ++ rest) = nest failure stack (other :: before) rest := by
  cases tree with
  | group delimiter opening closing content =>
      obtain _ | ⟨open_, likes⟩ := alike
      obtain ⟨inside, last, rfl, within, close⟩ := alike_append likes
      obtain _ | ⟨close, none⟩ := close
      cases none
      cases open_ with
      | opening =>
          cases close with
          | closing =>
              rename_i place other
              obtain ⟨trees, content, matched⟩ := nest_flatAll content within
              refine ⟨.group delimiter place other trees, ⟨rfl, content⟩, ?_⟩
              intro failure stack before rest
              simp only [List.cons_append, List.append_assoc, nest, matched, List.nil_append]
              simp
  | name spelling position => exact nest_leaf alike
  | mark character joint position => exact nest_leaf alike
  | literal spelling position => exact nest_leaf alike

/-- The lexemes of some trees are matched to trees like them. -/
theorem nest_flatAll (trees : List TokenTree) {found : List Lexeme}
    (alike : List.Forall₂ Lexeme.Like (flatAll trees) found) :
    ∃ others, TokenTree.AllLike trees others ∧
      ∀ (failure : Option Position) (stack : List OpenGroup) (before : List TokenTree)
        (rest : List Lexeme),
        nest failure stack before (found ++ rest) =
          nest failure stack (others.reverse ++ before) rest := by
  cases trees with
  | nil =>
      cases alike
      exact ⟨[], trivial, fun failure stack before rest => rfl⟩
  | cons tree trees =>
      obtain ⟨one, other, rfl, first, second⟩ := alike_append alike
      obtain ⟨like, likes, matched⟩ := nest_flat tree first
      obtain ⟨others, also, onward⟩ := nest_flatAll trees second
      refine ⟨like :: others, ⟨likes, also⟩, ?_⟩
      intro failure stack before rest
      rw [List.append_assoc, matched, onward]
      simp

end

end Lexer

end RecordRegistry
