/-
# Reading whole texts

A text is read if it can be cut into token trees and a parser reads these to their end without
leaving anything over in a group.
-/

import RecordRegistry.Syntax.File
import RecordRegistry.Proofs.Syntax.Running

namespace RecordRegistry

namespace Parser

variable {α : Type}

/-- A scope is read if nothing is left over, neither in it nor in one of its groups. -/
theorem runWithin_eq_ok_iff {parser : Parser α} {scope : Scope} {trees : List TokenTree}
    {value : α} {found : List Item} :
    parser.runWithin scope trees = .ok (value, found) ↔
      ∃ stream, parser.run ⟨trees, scope, none, []⟩ = .ok (value, stream) ∧
        stream.stray = none ∧ stream.rest = [] ∧ stream.found = found := by
  unfold runWithin
  cases ended : parser.run ⟨trees, scope, none, []⟩ with
  | error error => simp
  | ok result =>
      obtain ⟨other, stream⟩ := result
      cases stray : stream.stray with
      | some error => simp [stray]
      | none =>
          cases left : stream.rest with
          | nil => simp [stray, Stream.leftover?, left]
          | cons tree rest => simp [stray, Stream.leftover?, left]

theorem parseText_eq_ok_iff {parser : Grammar → Parser α} {text : List Char} {value : α}
    {found : List Item} :
    parseText parser text = .ok (value, found) ↔
      ∃ trees, Lexer.tokenTrees text = .ok trees ∧
        (parser (grammarFor trees)).runWithin wholeText trees = .ok (value, found) := by
  unfold parseText
  cases Lexer.tokenTrees text with
  | error position => simp
  | ok trees => simp

theorem fst_map_eq_ok_iff {result : Except SyntaxError (α × List Item)} {value : α} :
    Prod.fst <$> result = .ok value ↔ ∃ found, result = .ok (value, found) := by
  cases result with
  | error error => simp
  | ok pair => cases pair; simp

/-- The content of a file. -/
def file (grammar : Grammar) : Parser SourceFile := do
  innerAttributes grammar
  let inAttributes := (← get).found
  let items ← untilEnd do
    outerAttributes grammar
    grammar.item
  return ⟨inAttributes, items⟩

/-- A file is read as its attributes, in which items may be met, and its items. -/
theorem of_run_file {grammar : Grammar} {stream last : Stream} {source : SourceFile}
    (run : (file grammar).run stream = .ok (source, last)) :
    ∃ after, (innerAttributes grammar).run stream = .ok (⟨⟩, after) ∧
      source.inAttributes = after.found ∧
      (untilEnd do
        outerAttributes grammar
        grammar.item).run after = .ok (source.items, last) := by
  rw [file, run_bind_eq_ok_iff] at run
  obtain ⟨_, after, attributes, run⟩ := run
  rw [run_bind_eq_ok_iff] at run
  obtain ⟨_, same, got, run⟩ := run
  cases got
  rw [run_bind_eq_ok_iff] at run
  obtain ⟨items, final, listed, run⟩ := run
  cases run
  exact ⟨after, attributes, rfl, listed⟩

end Parser

theorem Name.parse_eq_ok_iff {text : String} {name : Name} :
    Name.parse text = .ok name ↔
      ∃ trees found, Lexer.tokenTrees text.toList = .ok trees ∧
        Parser.identifier.runWithin Parser.wholeText trees = .ok (name, found) := by
  simp only [Name.parse, Parser.fst_map_eq_ok_iff, Parser.parseText_eq_ok_iff]
  rw [exists_comm]

theorem Path.parse_eq_ok_iff {text : String} {path : Path} :
    Path.parse text = .ok path ↔
      ∃ trees found, Lexer.tokenTrees text.toList = .ok trees ∧
        (Parser.path (Parser.grammarFor trees) false).runWithin Parser.wholeText trees =
          .ok (path, found) := by
  simp only [Path.parse, Parser.fst_map_eq_ok_iff, Parser.parseText_eq_ok_iff]
  rw [exists_comm]

theorem SourceFile.parse_eq_ok_iff {text : String} {source : SourceFile} :
    SourceFile.parse text = .ok source ↔
      ∃ trees found, Lexer.tokenTrees (withoutInterpreter text.toList) = .ok trees ∧
        (Parser.file (Parser.grammarFor trees)).runWithin Parser.wholeText trees =
          .ok (source, found) := by
  have same : SourceFile.parse text =
      Prod.fst <$> Parser.parseText Parser.file (withoutInterpreter text.toList) := by
    unfold SourceFile.parse
    change (Parser.parseText Parser.file _ >>= fun result => pure result.1) = _
    cases Parser.parseText Parser.file (withoutInterpreter text.toList) <;> rfl
  simp only [same, Parser.fst_map_eq_ok_iff, Parser.parseText_eq_ok_iff]
  rw [exists_comm]

end RecordRegistry
