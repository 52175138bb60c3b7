/-
# The names of a text in order

The token trees of a text have the names of the text in the order in which they stand there, in
groups and outside of them: each name is at a later place than the one before it.  The cutting goes
forward in the text, so this holds of the lexemes; matching the delimiters moves no name past
another one.
-/

import Mathlib
import RecordRegistry.Syntax.Tree
import RecordRegistry.Proofs.Text.Place
import RecordRegistry.Proofs.Token.Naming

namespace RecordRegistry

namespace TokenTree

mutual

/-- The names in a tree, from left to right. -/
def names : TokenTree → List Name
  | .name spelling position => [⟨spelling, position⟩]
  | .group _ _ _ content => namesAll content
  | _ => []

/-- The names in a sequence of trees, from left to right. -/
def namesAll : List TokenTree → List Name
  | [] => []
  | tree :: rest => tree.names ++ namesAll rest

end

@[simp] theorem namesAll_nil : namesAll [] = [] := rfl

@[simp] theorem namesAll_cons (tree : TokenTree) (rest : List TokenTree) :
    namesAll (tree :: rest) = tree.names ++ namesAll rest := rfl

@[simp] theorem names_group (delimiter : Delimiter) (opening closing : Position)
    (content : List TokenTree) : (group delimiter opening closing content).names = namesAll content :=
  rfl

@[simp] theorem namesAll_append (first second : List TokenTree) :
    namesAll (first ++ second) = namesAll first ++ namesAll second := by
  induction first with
  | nil => rfl
  | cons tree rest ih => simp [ih]

end TokenTree

open TokenTree

/-- One name is at an earlier place than another one. -/
def Name.Precedes (first second : Name) : Prop := first.position.Precedes second.position

/-- Names are at later and later places, none of them before the given place. -/
structure Position.Ascends (place : Position) (names : List Name) : Prop where
  ordered : names.Pairwise Name.Precedes
  after : ∀ name ∈ names, ¬ name.position.Precedes place

namespace Position.Ascends

variable {place further : Position} {names : List Name}

theorem nil : place.Ascends [] := ⟨.nil, by simp⟩

theorem weaken (ascends : further.Ascends names) (onward : ¬ further.Precedes place) :
    place.Ascends names := by
  refine ⟨ascends.ordered, fun name met early => ascends.after name met ?_⟩
  unfold Precedes at *
  omega

/-- What is cut off goes before what follows it. -/
theorem cons (ascends : further.Ascends names) (onward : place.Precedes further)
    (spelling : String) : place.Ascends (⟨spelling, place⟩ :: names) := by
  have later : ∀ name ∈ names, place.Precedes name.position := by
    intro name met
    have bound := ascends.after name met
    unfold Precedes at *
    omega
  refine ⟨List.pairwise_cons.mpr ⟨later, ascends.ordered⟩, ?_⟩
  rw [List.forall_mem_cons]
  exact ⟨not_precedes_self place, fun name met => (later name met).asymm⟩

end Position.Ascends

namespace Lexer

variable {cursor : Cursor}

theorem Cursor.not_precedes_advance (cursor : Cursor) (length : Nat) :
    ¬ (cursor.advance length).position.Precedes cursor.position := by
  by_cases there : cursor.rest.take length = []
  · simpa [Cursor.advance, there] using Position.not_precedes_self _
  · exact (Position.precedes_advance cursor.position there).asymm

theorem lt_of_blockLength? {count depth length : Nat} {text : List Char}
    (ends : blockLength? count depth text = some length) : count < length := by
  fun_induction blockLength? count depth text <;> simp_all <;> omega

/-- A documentation comment has characters. -/
theorem take_ne_nil_of_documentation? {text content : List Char} {length : Nat} {inner : Bool}
    (described : documentation? text = some (length, content, inner)) : text.take length ≠ [] := by
  have block {described : Bool}
      (there : documentation?.block text described = some (length, content, inner)) :
      0 < length := by
    obtain ⟨count, ends, same⟩ := Option.map_eq_some_iff.mp there
    obtain rfl : count = length := congrArg Prod.fst same
    exact lt_of_blockLength? ends
  have line {rest : List Char} {described : Bool}
      (there : some (documentation?.line rest described) = some (length, content, inner)) :
      0 < length := by
    obtain rfl : 3 + lineLength 0 rest = length := congrArg Prod.fst (Option.some.inj there)
    omega
  suffices 0 < length ∧ text ≠ [] by
    rw [Ne, List.take_eq_nil_iff, not_or]
    exact ⟨this.1.ne', this.2⟩
  unfold documentation? at described
  split at described
  · exact ⟨line described, List.cons_ne_nil _ _⟩
  · exact ⟨block described, List.cons_ne_nil _ _⟩
  · contradiction
  · exact ⟨line described, List.cons_ne_nil _ _⟩
  · contradiction
  · exact ⟨block described, List.cons_ne_nil _ _⟩
  · contradiction

/-- What a lexeme contributes to the names of a text. -/
def Lexeme.names : Lexeme → List Name
  | .leaf tree => tree.names
  | .opening _ _ | .closing _ _ => []

/-- The names that are cut from a text ascend, from wherever the cutting begins. -/
theorem ascends_lexemesUpTo (count : Nat) (cursor : Cursor) :
    cursor.position.Ascends ((lexemesUpTo count cursor).1.flatMap Lexeme.names) := by
  induction count generalizing cursor with
  | zero => exact .nil
  | succ count ih =>
      have further (length : Nat) := (ih (cursor.advance length)).weaken
        (cursor.not_precedes_advance length)
      unfold lexemesUpTo
      split
      · exact further _
      · split
        · next length content inner described =>
            split
            · exact .nil
            · -- The tokens of the comment have one name, at the place where the comment begins.
              have doc : ((documentationTokens content inner cursor.position
                  (cursor.advance (length - 1)).position).map Lexeme.leaf).flatMap Lexeme.names =
                    [⟨"doc", cursor.position⟩] := by
                cases inner <;> rfl
              rw [List.flatMap_append, doc]
              exact (ih (cursor.advance length)).cons (Position.precedes_advance _
                (take_ne_nil_of_documentation? described)) _
        · split
          · exact .nil
          · split
            · rw [List.flatMap_cons]
              split <;> exact further 1
            · split
              · next tree length cut =>
                  rw [List.flatMap_cons]
                  rcases leaf?_cases cut with ⟨character, joint, rfl⟩ | ⟨spelling, rfl⟩ | ⟨rfl, named⟩
                  · exact further length
                  · exact further length
                  · exact (ih (cursor.advance length)).cons
                      (Position.precedes_advance _ named.1) _
              · exact .nil

/-- The names in the groups that are still open, from left to right. -/
def openNames (stack : List OpenGroup) : List Name :=
  stack.reverse.flatMap fun group => namesAll group.before.reverse

/-- No name moves when delimiters are matched. -/
theorem namesAll_of_nest {failure : Option Position} {stack : List OpenGroup}
    {before trees : List TokenTree} {lexemes : List Lexeme}
    (nested : nest failure stack before lexemes = .ok trees) :
    namesAll trees = openNames stack ++ namesAll before.reverse ++ lexemes.flatMap Lexeme.names := by
  fun_induction nest failure stack before lexemes with
  | case1 => contradiction
  | case2 => contradiction
  | case3 before =>
      obtain rfl := Except.ok.inj nested
      simp [openNames]
  | case4 stack before tree rest ih =>
      rw [ih nested]
      simp [Lexeme.names]
  | case5 stack before delimiter position rest ih =>
      rw [ih nested]
      simp [openNames, Lexeme.names]
  | case6 => contradiction
  | case7 group stack before position rest ih =>
      rw [ih nested]
      simp [openNames, Lexeme.names]
  | case8 => contradiction

/-- The names in the token trees of a text are at later and later places. -/
theorem pairwise_names_of_tokenTrees {text : List Char} {trees : List TokenTree}
    (read : tokenTrees text = .ok trees) :
    (namesAll trees).Pairwise Name.Precedes := by
  have cut {cursor : Cursor}
      (nested : nest (lexemes cursor).2 [] [] (lexemes cursor).1 = .ok trees) :
      (namesAll trees).Pairwise Name.Precedes := by
    rw [namesAll_of_nest nested]
    exact (ascends_lexemesUpTo _ cursor).ordered
  unfold tokenTrees at read
  split at read
  · exact cut read
  · exact cut read

end Lexer

end RecordRegistry
