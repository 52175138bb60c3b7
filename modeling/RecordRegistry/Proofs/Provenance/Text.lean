/-
# The ground of a text

Every token of a text begins at its place, which is the one that follows what the text holds before
the token.  So what is said of the names that a text holds, each at its place, and of the places in
the text holds of its token trees, within groups and outside of them.  The tokens that a
documentation comment stands for are not in the text; of these, one is a name, and it has no token
before it.
-/

import RecordRegistry.Proofs.Provenance.Keeping
import RecordRegistry.Proofs.Text.Place
import RecordRegistry.Proofs.Token.Naming

namespace RecordRegistry

/-- What is said of names and places holds of those in a text. -/
structure Ground.Fits (ground : Ground) (text : List Char) : Prop where
  place : ∀ position : Position, position.Begins text [] → ground.place position
  name : ∀ name : Name, Lexer.IsName name.spelling.toList →
    name.position.Begins text name.spelling.toList → ground.name name
  type : ∀ name : Name, Lexer.IsName name.spelling.toList →
    name.position.Begins text name.spelling.toList → isReserved name.spelling = false →
      ground.type name
  /-- The name that the tokens of a documentation comment have. -/
  documentation : ∀ position : Position, position.Begins text [] → ground.name ⟨"doc", position⟩

namespace Lexer

variable {ground : Ground} {text : List Char} {cursor : Cursor}

/-- A cursor stands in a text. -/
def Cursor.IsIn (cursor : Cursor) (text : List Char) : Prop :=
  ∃ before, text = before ++ cursor.rest ∧ cursor.position = Position.start.advance before

theorem Cursor.IsIn.advance (isIn : cursor.IsIn text) (length : Nat) :
    (cursor.advance length).IsIn text := by
  obtain ⟨before, rfl, place⟩ := isIn
  refine ⟨before ++ cursor.rest.take length, ?_, ?_⟩
  · rw [List.append_assoc]
    exact congrArg (before ++ ·) (List.take_append_drop length cursor.rest).symm
  · rw [Position.advance_append, ← place]
    rfl

/-- What is at a cursor begins at its place. -/
theorem Cursor.IsIn.begins (isIn : cursor.IsIn text) (length : Nat) :
    cursor.position.Begins text (cursor.rest.take length) := by
  obtain ⟨before, rfl, place⟩ := isIn
  exact ⟨before, cursor.rest.drop length, by simp, place⟩

theorem Cursor.IsIn.placed (isIn : cursor.IsIn text) (fits : ground.Fits text) :
    ground.place cursor.position := fits.place _ (isIn.begins 0)

/-- What is said holds of the names and places in a tree. If it is a name, it may also be given to a
type. -/
def Founded (ground : Ground) (tree : TokenTree) : Prop :=
  ground.Tree tree ∧ ∀ spelling position, tree = .name spelling position →
    isReserved spelling = false → ground.type ⟨spelling, position⟩

theorem trees_of_founded {trees : List TokenTree} (founded : ∀ tree ∈ trees, Founded ground tree) :
    ground.Typed trees ∧ ground.Trees trees :=
  ⟨fun spelling position met => (founded _ (List.mem_of_mem_tail met)).2 spelling position rfl,
    Ground.trees_iff.mpr fun tree met => (founded tree met).1⟩

theorem founded_of_leaf? (fits : ground.Fits text) (isIn : cursor.IsIn text) {tree : TokenTree}
    {length : Nat} (cut : leaf? cursor = some (tree, length)) : Founded ground tree := by
  have placed := isIn.placed fits
  rcases leaf?_cases cut with ⟨character, joint, rfl⟩ | ⟨spelling, rfl⟩ | ⟨rfl, named⟩
  · exact ⟨placed, by simp⟩
  · exact ⟨placed, by simp⟩
  · have spelled : (cursor.text length).toList = cursor.rest.take length := String.toList_ofList
    have begins := isIn.begins length
    rw [← spelled] at named begins
    refine ⟨⟨fits.name ⟨_, _⟩ named begins, placed⟩, ?_⟩
    rintro spelling position ⟨⟩ free
    exact fits.type ⟨_, _⟩ named begins free

theorem founded_of_documentation (fits : ground.Fits text) (content : List Char) (inner : Bool)
    {first last : Position} (begins : first.Begins text []) (ends : last.Begins text []) :
    ∀ tree ∈ documentationTokens content inner first last, Founded ground tree := by
  have opening := fits.place first begins
  have closing := fits.place last ends
  have doc := fits.documentation first begins
  cases inner <;>
    simp [documentationTokens, Founded, Ground.Tree, Ground.Trees, Ground.Typed, opening, closing,
      doc]

/-- What is said of a lexeme: of the token that it is, or of the place of a delimiter. -/
def Lexeme.Founded (ground : Ground) : Lexeme → Prop
  | .leaf tree => Lexer.Founded ground tree
  | .opening _ position | .closing _ position => ground.place position

/-- A text is cut into lexemes of the ground, from wherever the cutting begins. -/
theorem founded_lexemesUpTo (fits : ground.Fits text) (count : Nat) (isIn : cursor.IsIn text) :
    ∀ lexeme ∈ (lexemesUpTo count cursor).1, lexeme.Founded ground := by
  induction count generalizing cursor with
  | zero => simp [lexemesUpTo]
  | succ count ih =>
      unfold lexemesUpTo
      split
      · exact ih (isIn.advance _)
      · split
        · next length content inner described =>
            split
            · simp
            · intro lexeme met
              rcases List.mem_append.mp met with doc | later
              · obtain ⟨tree, inside, rfl⟩ := List.mem_map.mp doc
                exact founded_of_documentation fits content inner (isIn.begins 0)
                  ((isIn.advance _).begins 0) tree inside
              · exact ih (isIn.advance _) lexeme later
        · split
          · simp
          · split
            · intro lexeme met
              rcases List.mem_cons.mp met with rfl | later
              · split
                · exact isIn.placed fits
                · exact isIn.placed fits
              · exact ih (isIn.advance _) lexeme later
            · split
              · next cut =>
                  intro lexeme met
                  rcases List.mem_cons.mp met with rfl | later
                  · exact founded_of_leaf? fits isIn cut
                  · exact ih (isIn.advance _) lexeme later
              · simp

/-- Matching the delimiters keeps what is said of the tokens.  The groups that are open hold trees
as well. -/
theorem founded_nest {failure : Option Position} {stack : List OpenGroup}
    {before trees : List TokenTree} {lexemes : List Lexeme}
    (cut : ∀ lexeme ∈ lexemes, lexeme.Founded ground)
    (opened : ∀ group ∈ stack, ground.place group.opening ∧
      ∀ tree ∈ group.before, Founded ground tree)
    (earlier : ∀ tree ∈ before, Founded ground tree)
    (nested : nest failure stack before lexemes = .ok trees) :
    ∀ tree ∈ trees, Founded ground tree := by
  fun_induction nest failure stack before lexemes with
  | case1 => contradiction
  | case2 => contradiction
  | case3 before =>
      obtain rfl := Except.ok.inj nested
      exact fun tree met => earlier tree (List.mem_reverse.mp met)
  | case4 stack before tree rest ih =>
      rw [List.forall_mem_cons] at cut
      exact ih cut.2 opened (List.forall_mem_cons.mpr ⟨cut.1, earlier⟩) nested
  | case5 stack before delimiter position rest ih =>
      rw [List.forall_mem_cons] at cut
      exact ih cut.2 (List.forall_mem_cons.mpr ⟨⟨cut.1, earlier⟩, opened⟩) (List.forall_mem_nil _)
        nested
  | case6 => contradiction
  | case7 group stack before position rest ih =>
      rw [List.forall_mem_cons] at cut opened
      obtain ⟨typed, inside⟩ := trees_of_founded fun tree met =>
        earlier tree (List.mem_reverse.mp met)
      have closed : Founded ground (.group group.delimiter group.opening position before.reverse) :=
        ⟨⟨opened.1.1, cut.1, typed, inside⟩, by simp⟩
      exact ih cut.2 opened.2 (List.forall_mem_cons.mpr ⟨closed, opened.1.2⟩) nested
  | case8 => contradiction

/-- What is said of the names and places in a text holds of its token trees. -/
theorem trees_tokenTrees (fits : ground.Fits text) {trees : List TokenTree}
    (read : tokenTrees text = .ok trees) : ground.Typed trees ∧ ground.Trees trees := by
  have cut {cursor : Cursor} (isIn : cursor.IsIn text)
      (nested : nest (lexemes cursor).2 [] [] (lexemes cursor).1 = .ok trees) :
      ∀ tree ∈ trees, Founded ground tree :=
    founded_nest (founded_lexemesUpTo fits _ isIn) (List.forall_mem_nil _) (List.forall_mem_nil _)
      nested
  apply trees_of_founded
  unfold tokenTrees at read
  split at read
  · next rest => exact cut ⟨['\ufeff'], rfl, rfl⟩ read
  · exact cut ⟨[], rfl, rfl⟩ read

end Lexer

end RecordRegistry
