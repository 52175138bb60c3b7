/-
# Where malformed texts are at fault

A text that cannot be read as a file is at fault at a place in it: at a token, at a delimiter, or
where the cutting into tokens stopped, and at its beginning if the text ends too early.  Such a
place is in one of the lines of the text, or at the end of one.  It is counted in the text without a
byte-order mark; a line that names an interpreter counts as a line although nothing in it is read.
-/

import Mathlib
import RecordRegistry.Proofs.Outline.Placing

namespace RecordRegistry

namespace Position

variable {position : Position} {text : List Char}

/-- A place is in a line of a text, or at the end of one: the text has that many lines, a line feed
being what separates two lines, and the line holds all characters that are before the column. -/
def IsIn (position : Position) (text : List Char) : Prop :=
  ∃ line, 1 ≤ position.line ∧ (text.splitOn '\n')[position.line - 1]? = some line ∧
    1 ≤ position.column ∧ position.column ≤ line.length + 1

/-- The place that follows a part of a text is in the text. -/
theorem Begins.isIn (begins : position.Begins text []) : position.IsIn text := by
  obtain ⟨before, after, same, rfl⟩ := begins
  obtain ⟨lines, begun, place, split⟩ := exists_lines before
  obtain ⟨rest, others, parts⟩ := List.exists_cons_of_ne_nil (List.splitOn_ne_nil '\n' after)
  have whole : text.splitOn '\n' = lines ++ (begun ++ rest) :: others := by
    rw [same, List.append_nil, split, parts]
    rfl
  refine ⟨begun ++ rest, ?_⟩
  rw [whole, place]
  exact ⟨by simp, by simp, by simp, by simp⟩

/-- A place in the text without its first line, of which the end is kept, is in the whole text. -/
theorem IsIn.of_dropWhile (isIn : position.IsIn (text.dropWhile (· != '\n'))) :
    position.IsIn text := by
  obtain ⟨line, first, there, left, short⟩ := isIn
  obtain ⟨others, lines, remaining⟩ := exists_lines_dropWhile text
  rw [remaining] at there
  unfold IsIn
  rw [lines]
  cases number : position.line - 1 with
  | zero =>
      -- Nothing is left of the first line, so the place is the one where the text begins.
      rw [number] at there
      obtain rfl := Option.some.inj there
      exact ⟨_, first, rfl, left, short.trans (by simp)⟩
  | succ before =>
      rw [number] at there
      exact ⟨line, first, there, left, short⟩

theorem IsIn.of_withoutInterpreter (isIn : position.IsIn (withoutInterpreter text)) :
    position.IsIn (withoutMark text) := by
  rcases withoutInterpreter_cases text with same | dropped
  · rwa [← same]
  · rw [dropped] at isIn
    exact isIn.of_dropWhile

end Position

namespace Lexer

variable {ground : Ground} {text : List Char} {cursor : Cursor}

/-- The cutting stops at a place in the text. -/
theorem placed_of_lexemesUpTo (fits : ground.Fits text) (count : Nat) (isIn : cursor.IsIn text)
    {position : Position} (stopped : (lexemesUpTo count cursor).2 = some position) :
    ground.place position := by
  induction count generalizing cursor with
  | zero =>
      obtain rfl := Option.some.inj stopped
      exact isIn.placed fits
  | succ count ih =>
      unfold lexemesUpTo at stopped
      split at stopped
      · exact ih (isIn.advance _) stopped
      · split at stopped
        · split at stopped
          · obtain rfl := Option.some.inj stopped
            exact isIn.placed fits
          · exact ih (isIn.advance _) stopped
        · split at stopped
          · contradiction
          · split at stopped
            · exact ih (isIn.advance _) stopped
            · split at stopped
              · exact ih (isIn.advance _) stopped
              · obtain rfl := Option.some.inj stopped
                exact isIn.placed fits

/-- Delimiters that do not match are at fault where one of them stands, if the cutting has not
stopped before. -/
theorem placed_of_nest {failure : Option Position} {stack : List OpenGroup}
    {before : List TokenTree} {lexemes : List Lexeme} {position : Position}
    (stopped : ∀ place, failure = some place → ground.place place)
    (cut : ∀ lexeme ∈ lexemes, lexeme.Founded ground)
    (opened : ∀ group ∈ stack, ground.place group.opening)
    (failed : nest failure stack before lexemes = .error position) : ground.place position := by
  fun_induction nest failure stack before lexemes with
  | case1 stack before place =>
      obtain rfl := Except.error.inj failed
      exact stopped _ ‹failure = some _›
  | case2 before group stack =>
      obtain rfl := Except.error.inj failed
      exact opened group List.mem_cons_self
  | case3 => contradiction
  | case4 stack before tree rest ih => exact ih (List.forall_mem_cons.mp cut).2 opened failed
  | case5 stack before delimiter place rest ih =>
      rw [List.forall_mem_cons] at cut
      exact ih cut.2 (List.forall_mem_cons.mpr ⟨cut.1, opened⟩) failed
  | case6 before delimiter place rest =>
      obtain rfl := Except.error.inj failed
      exact (List.forall_mem_cons.mp cut).1
  | case7 group stack before place rest ih =>
      exact ih (List.forall_mem_cons.mp cut).2 (List.forall_mem_cons.mp opened).2 failed
  | case8 group stack before delimiter place rest different =>
      obtain rfl := Except.error.inj failed
      exact (List.forall_mem_cons.mp cut).1

theorem placed_of_tokenTrees (fits : ground.Fits text) {position : Position}
    (failed : tokenTrees text = .error position) : ground.place position := by
  have cut {cursor : Cursor} (isIn : cursor.IsIn text)
      (failed : nest (lexemes cursor).2 [] [] (lexemes cursor).1 = .error position) :
      ground.place position :=
    placed_of_nest (fun _ => placed_of_lexemesUpTo fits _ isIn) (founded_lexemesUpTo fits _ isIn)
      (List.forall_mem_nil _) failed
  unfold tokenTrees at failed
  split at failed
  · next rest => exact cut ⟨['\ufeff'], rfl, rfl⟩ failed
  · exact cut ⟨[], rfl, rfl⟩ failed

end Lexer

/-- A scope that cannot be read is at fault at a place of the ground: where the parser failed, where
tokens have been left over in a group, or where they are left over at last. -/
theorem Parser.Keeps.placed_of_runWithin {α : Type} {ground : Ground} {parser : Parser α}
    {good : α → Prop} {error : SyntaxError} (keeps : Keeps ground parser good)
    (trees : ground.Trees ground.whole) (typed : ground.Typed ground.whole)
    (closing : ground.place ground.scope.closing) (silent : ¬ ground.noted)
    (failed : parser.runWithin ground.scope ground.whole = .error error) :
    ground.place error.position := by
  have step := keeps_iff.mp keeps ⟨ground.whole, ground.scope, none, []⟩
    ⟨trees, typed, closing, List.suffix_rfl, rfl, by simp, fun noted => absurd noted silent,
      by simp⟩
  unfold runWithin at failed
  cases ended : parser.run ⟨ground.whole, ground.scope, none, []⟩ with
  | error first =>
      rw [ended] at step failed
      obtain rfl := Except.error.inj failed
      exact step
  | ok result =>
      obtain ⟨value, stream⟩ := result
      rw [ended] at step failed
      simp only [ok_bind] at failed
      cases stray : stream.stray with
      | some first =>
          rw [stray] at failed
          obtain rfl : first = error := Except.error.inj failed
          exact step.1.stray first stray
      | none =>
          have rest := step.1.rest_trees
          cases left : stream.rest with
          | nil => simp [stray, Stream.leftover?, left] at failed
          | cons tree onward =>
              rw [left] at rest
              obtain rfl : _ = error := by simpa [stray, Stream.leftover?, left] using failed
              exact rest.1.place

namespace SourceFile

/-- The ground of a text of which nothing is said but where its places are. -/
def spreadGround (text : List Char) (trees : List TokenTree) : Ground where
  name _ := True
  type _ := True
  place position := position.Begins text []
  noted := False
  whole := trees
  scope := Parser.wholeText

theorem fits_spreadGround {text : List Char} {trees : List TokenTree} :
    (spreadGround text trees).Fits text where
  place _ begins := begins
  name _ _ _ := trivial
  type _ _ _ _ := trivial
  documentation _ _ := trivial

/-- A text that is not read as a file cannot be cut, or the parser fails on its trees. -/
theorem parse_eq_error_iff {text : String} {error : SyntaxError} :
    SourceFile.parse text = .error error ↔
      (∃ position, Lexer.tokenTrees (withoutInterpreter text.toList) = .error position ∧
        error = ⟨position, false, .unreadable⟩) ∨
      ∃ trees, Lexer.tokenTrees (withoutInterpreter text.toList) = .ok trees ∧
        (Parser.file (Parser.grammarFor trees)).runWithin Parser.wholeText trees =
          .error error := by
  have same : SourceFile.parse text =
      Prod.fst <$> Parser.parseText Parser.file (withoutInterpreter text.toList) := by
    unfold SourceFile.parse
    change (Parser.parseText Parser.file _ >>= fun result => pure result.1) = _
    cases Parser.parseText Parser.file (withoutInterpreter text.toList) <;> rfl
  rw [same, map_eq_error_iff, Parser.parseText]
  cases Lexer.tokenTrees (withoutInterpreter text.toList) with
  | error position => simp [eq_comm]
  | ok trees => simp

/-- A text that is not read as a file is at fault at a place in it. -/
theorem isIn_of_parse {text : String} {error : SyntaxError}
    (failed : SourceFile.parse text = .error error) :
    error.position.IsIn (withoutMark text.toList) := by
  apply Position.IsIn.of_withoutInterpreter
  apply Position.Begins.isIn
  rcases parse_eq_error_iff.mp failed with ⟨position, uncut, rfl⟩ | ⟨trees, cut, refused⟩
  · exact @Lexer.placed_of_tokenTrees (spreadGround _ []) _ fits_spreadGround _ uncut
  · have keeps : Parser.Keeps (spreadGround (withoutInterpreter text.toList) trees)
        (Parser.file (Parser.grammarFor trees)) _ := Parser.keeps_file
    have fits := @fits_spreadGround (withoutInterpreter text.toList) trees
    obtain ⟨typed, held⟩ := Lexer.trees_tokenTrees fits cut
    exact keeps.placed_of_runWithin held typed (fits.place _ ⟨[], _, rfl, rfl⟩) id refused

end SourceFile

namespace Package

/-- A source file that is text, but not in the grammar, makes an error that names the file and a
place in it: a line of the text, and a column that is at most one behind the end of that line. -/
theorem malformed_of_readUnit {text : String} {error : SyntaxError}
    (failed : SourceFile.parse text = .error error) :
    error.position.IsIn (withoutMark text.toList) ∧
      ∀ files here path stem, path.stem?.bind Utf8.decode? = some stem →
        files.readText here path = .ok text →
          readUnit files here path = .error (.malformed path error) := by
  refine ⟨SourceFile.isIn_of_parse failed, fun files here path stem named read => ?_⟩
  simp [readUnit, named, read, failed]

/-- A file that begins with a byte-order mark and a line for the system, and ends within a group. -/
def brokenText : String := "\ufeff#!/bin/run\r\n/* one\n two */ pub struct Größe \x7b\n"

/-- The fault is where the group is opened, in the third line of the file. -/
theorem malformed_of_readUnit_brokenText :
    SourceFile.parse brokenText = .error ⟨⟨3, 26⟩, false, .unreadable⟩ ∧
      (⟨3, 26⟩ : Position).IsIn (withoutMark brokenText.toList) ∧
      readUnit (SourceUnit.textFiles brokenText) [] (.ofString "a.rs") =
        .error (.malformed (.ofString "a.rs") ⟨⟨3, 26⟩, false, .unreadable⟩) := by
  have failed : SourceFile.parse brokenText = .error ⟨⟨3, 26⟩, false, .unreadable⟩ := by rfl
  obtain ⟨isIn, reported⟩ := malformed_of_readUnit failed
  exact ⟨failed, isIn, reported _ _ _ "a" (by decide +kernel) (by decide +kernel)⟩

end Package

end RecordRegistry
