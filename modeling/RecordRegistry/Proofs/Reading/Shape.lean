/-
# The shape of what is read

The tokens of a registry are known up to their places once its text has been cut.  Such tokens
have the shapes that the parsers have been followed on.
-/

import RecordRegistry.Proofs.Printing.Registry
import RecordRegistry.Proofs.Reading.File
import RecordRegistry.Proofs.Reading.Instance

namespace RecordRegistry

namespace Rendering

open RecordRegistry.Parser (Colons Documents Listed StandsFor Trailing Usable Writes WritesBody
  WritesBox WritesFile WritesFunction WritesFunctionItem WritesInstance WritesResult)
open TokenTree (AllLike allLike_append_iff)

variable {trees : List TokenTree} {names : List String} {path : Path}

theorem colons_of_allLike (like : AllLike (rootPath names) trees) : Colons names trees := by
  induction names generalizing trees with
  | nil =>
      rw [TokenTree.allLike_nil_iff.mp like]
      exact .nil
  | cons name names ih =>
      have split : AllLike (Path.separator ++ word name :: rootPath names) trees := by
        simpa [rootPath] using like
      simp only [Path.separator, word, List.cons_append, List.nil_append,
        TokenTree.allLike_cons_iff, TokenTree.like_mark_iff, TokenTree.like_name_iff] at split
      obtain ⟨_, _, rfl, ⟨_, _, rfl, joint⟩, _, _, rfl, ⟨_, _, rfl, -⟩, _, _, rfl, ⟨_, rfl⟩, rest⟩ :=
        split
      rw [joint trivial]
      exact .cons (ih rest)

/-- The names of a path. -/
def namesOf (path : Path) : List String :=
  path.segments.map fun segment => segment.name.spelling

theorem colons_of_allLike_intercalate {segment : Segment} {segments : List Segment}
    (plain : ∀ other ∈ segment :: segments, other.arguments = .none)
    (like : AllLike (Path.separator.intercalate ((segment :: segments).map Segment.tokens)) trees) :
    ∃ position rest, trees = .name segment.name.spelling position :: rest ∧
      Colons (segments.map fun other => other.name.spelling) rest := by
  induction segments generalizing segment trees with
  | nil =>
      rw [List.forall_mem_singleton] at plain
      simp only [List.map_cons, List.map_nil, List.intercalate_singleton, Segment.tokens, plain,
        TokenTree.allLike_cons_iff, TokenTree.like_name_iff, TokenTree.allLike_nil_iff] at like
      obtain ⟨_, _, rfl, ⟨position, rfl⟩, rfl⟩ := like
      exact ⟨position, [], rfl, .nil⟩
  | cons next segments ih =>
      rw [List.forall_mem_cons] at plain
      simp only [List.map_cons, List.intercalate_cons_cons, Segment.tokens, plain.1,
        Path.separator, List.cons_append, List.nil_append, TokenTree.allLike_cons_iff,
        TokenTree.like_name_iff, TokenTree.like_mark_iff] at like
      obtain ⟨_, _, rfl, ⟨position, rfl⟩, _, _, rfl, ⟨_, _, rfl, joint⟩, _, _, rfl,
        ⟨_, _, rfl, -⟩, rest⟩ := like
      obtain ⟨_, _, rfl, colons⟩ := ih plain.2 rest
      rw [joint trivial]
      exact ⟨position, _, rfl, .cons colons⟩

theorem writes_of_allLike (plain : ∀ segment ∈ path.segments, segment.arguments = .none)
    (filled : path.segments ≠ []) (like : AllLike path.tokens trees) :
    Writes path.rooted (namesOf path) trees := by
  obtain ⟨rooted, segments⟩ := path
  obtain ⟨segment, segments, rfl⟩ := List.exists_cons_of_ne_nil filled
  obtain ⟨front, after, rfl, start, rest⟩ := allLike_append_iff.mp like
  obtain ⟨position, rest, rfl, colons⟩ := colons_of_allLike_intercalate plain rest
  cases rooted with
  | false =>
      obtain rfl := TokenTree.allLike_nil_iff.mp start
      exact .bare colons
  | true =>
      simp only [if_true, Path.separator, TokenTree.allLike_cons_iff, TokenTree.like_mark_iff,
        TokenTree.allLike_nil_iff] at start
      obtain ⟨_, _, rfl, ⟨_, _, rfl, joint⟩, _, _, rfl, ⟨_, _, rfl, -⟩, rfl⟩ := start
      rw [joint trivial]
      exact .rooted (.cons colons)

/-- What is assumed of the path of a type: it has names, and they may stand in a path. -/
structure IsReadable (path : Path) : Prop where
  plain : ∀ segment ∈ path.segments, segment.arguments = .none
  filled : path.segments ≠ []
  usable : ∀ name ∈ namesOf path, Usable name

theorem writesFunction_of_allLike (readable : IsReadable path)
    (like : AllLike (mark '<' :: path.tokens ++ word "as" ::
      rootPath ["core", "default", "Default"] ++ mark '>' :: rootPath ["default"]) trees) :
    WritesFunction path.rooted (namesOf path) trees := by
  obtain ⟨_, after, rfl, front, called⟩ := allLike_append_iff.mp like
  obtain ⟨_, named, rfl, opened, traited⟩ := allLike_append_iff.mp front
  simp only [mark, word, TokenTree.allLike_cons_iff, TokenTree.like_mark_iff,
    TokenTree.like_name_iff] at opened traited called
  obtain ⟨_, type, rfl, ⟨_, _, rfl, -⟩, typed⟩ := opened
  obtain ⟨_, trait, rfl, ⟨_, rfl⟩, traits⟩ := traited
  obtain ⟨_, function, rfl, ⟨_, _, rfl, -⟩, functions⟩ := called
  cases colons_of_allLike functions with
  | cons none =>
      cases none
      have written : Writes path.rooted (namesOf path) type :=
        writes_of_allLike readable.plain readable.filled typed
      exact .intro written (colons_of_allLike traits)

theorem writesInstance_of_allLike (readable : IsReadable path)
    (like : AllLike (instanceTokens path) trees) :
    WritesInstance path.rooted (namesOf path) trees := by
  obtain ⟨boxed, _, rfl, boxes, group⟩ := allLike_append_iff.mp like
  simp only [parenthesized, TokenTree.allLike_cons_iff, TokenTree.like_group_iff,
    TokenTree.allLike_nil_iff] at group
  obtain ⟨_, _, rfl, ⟨first, second, inside, rfl, content⟩, rfl⟩ := group
  obtain ⟨function, _, rfl, functions, called⟩ := allLike_append_iff.mp content
  simp only [TokenTree.allLike_cons_iff, TokenTree.like_group_iff,
    TokenTree.allLike_nil_iff] at called
  obtain ⟨_, _, rfl, ⟨third, fourth, _, rfl, rfl⟩, rfl⟩ := called
  exact .intro (colons_of_allLike boxes) (writesFunction_of_allLike readable functions)

/-- The elements of a registry are read as instances of the types, in their order. -/
theorem listed_of_allLike {paths : List Path} (readable : ∀ path ∈ paths, IsReadable path)
    (like : AllLike (listTokens paths) trees) :
    ∃ elements, List.Forall₂ (fun path => StandsFor path.rooted (namesOf path)) paths elements ∧
      ∀ depth, Listed (Parser.expression (Parser.grammar (depth + 4)) true) elements trees := by
  induction paths generalizing trees with
  | nil =>
      obtain rfl := TokenTree.allLike_nil_iff.mp like
      exact ⟨[], .nil, fun _ => .nil⟩
  | cons path paths ih =>
      rw [List.forall_mem_cons] at readable
      cases paths with
      | nil =>
          have only : AllLike (instanceTokens path) trees := by
            simpa only [listTokens, List.map_cons, List.map_nil, List.intercalate_singleton] using like
          obtain ⟨element, stands, takes⟩ :=
            (writesInstance_of_allLike readable.1 only).takes readable.1.usable
          exact ⟨[element], .cons stands .nil, fun depth => .single (takes depth)⟩
      | cons next paths =>
          simp only [listTokens, List.map_cons, List.intercalate_cons_cons] at like
          obtain ⟨_, after, rfl, front, onward⟩ := allLike_append_iff.mp like
          obtain ⟨one, comma, rfl, first, comma⟩ := allLike_append_iff.mp front
          simp only [mark, TokenTree.allLike_cons_iff, TokenTree.like_mark_iff,
            TokenTree.allLike_nil_iff] at comma
          obtain ⟨_, _, rfl, ⟨joint, position, rfl, -⟩, rfl⟩ := comma
          obtain ⟨element, stands, takes⟩ :=
            (writesInstance_of_allLike readable.1 first).takes readable.1.usable
          obtain ⟨elements, standing, listed⟩ := ih readable.2 onward
          refine ⟨element :: elements, .cons stands standing, ?_⟩
          intro depth
          cases standing with
          | cons _ _ =>
              rw [List.append_assoc]
              exact .cons (takes depth) (listed depth)

theorem trailing_of_allLike {comma : Bool} (like : AllLike (optionalComma comma) trees) :
    Trailing trees := by
  cases comma with
  | false =>
      obtain rfl := TokenTree.allLike_nil_iff.mp like
      exact .none
  | true =>
      simp only [optionalComma, if_true, mark, TokenTree.allLike_cons_iff, TokenTree.like_mark_iff,
        TokenTree.allLike_nil_iff] at like
      obtain ⟨_, _, rfl, ⟨_, _, rfl, -⟩, rfl⟩ := like
      exact .comma

theorem writesBox_of_allLike {comma : Bool} (like : AllLike (boxTokens comma) trees) :
    WritesBox trees := by
  simp only [boxTokens, mark, word, List.append_assoc, List.cons_append, allLike_append_iff,
    TokenTree.allLike_cons_iff, TokenTree.like_mark_iff, TokenTree.like_name_iff,
    TokenTree.allLike_nil_iff] at like
  obtain ⟨box, _, rfl, boxes, _, _, rfl, ⟨_, _, rfl, -⟩, _, _, rfl, ⟨_, rfl⟩, any, _, rfl, anything,
    trailing, _, rfl, trails, _, _, rfl, ⟨_, _, rfl, -⟩, rfl⟩ := like
  exact .intro (colons_of_allLike boxes) (colons_of_allLike anything) (trailing_of_allLike trails)

theorem writesResult_of_allLike {inner outer : Bool}
    (like : AllLike (resultTokens inner outer) trees) :
    WritesResult trees := by
  simp only [resultTokens, mark, List.append_assoc, List.cons_append, allLike_append_iff,
    TokenTree.allLike_cons_iff, TokenTree.like_mark_iff, TokenTree.allLike_nil_iff] at like
  obtain ⟨vector, _, rfl, vectors, _, _, rfl, ⟨_, _, rfl, -⟩, box, _, rfl, boxes, trailing, _, rfl,
    trails, _, _, rfl, ⟨_, _, rfl, -⟩, rfl⟩ := like
  exact .intro (colons_of_allLike vectors) (writesBox_of_allLike boxes) (trailing_of_allLike trails)

theorem writesBody_of_allLike {list : List TokenTree} (like : AllLike (bodyTokens list) trees) :
    ∃ content, AllLike list content ∧ WritesBody content trees := by
  simp only [bodyTokens, mark, allLike_append_iff, TokenTree.allLike_cons_iff,
    TokenTree.like_mark_iff, TokenTree.like_group_iff, TokenTree.allLike_nil_iff] at like
  obtain ⟨path, _, rfl, vectors, _, _, rfl, ⟨_, _, rfl, -⟩, _, _, rfl, ⟨_, _, content, rfl, listed⟩,
    rfl⟩ := like
  exact ⟨content, listed, .intro (colons_of_allLike vectors)⟩

theorem writesFunctionItem_of_allLike {name : String} {inner outer : Bool} {list : List TokenTree}
    (like : AllLike (functionTokens name inner outer list) trees) :
    ∃ content, AllLike list content ∧ WritesFunctionItem name content trees := by
  simp only [functionTokens, mark, word, parenthesized, List.cons_append, allLike_append_iff,
    TokenTree.allLike_cons_iff, TokenTree.like_mark_iff, TokenTree.like_name_iff,
    TokenTree.like_group_iff, TokenTree.allLike_nil_iff] at like
  obtain ⟨_, _, rfl, ⟨_, rfl⟩, _, _, rfl, ⟨_, rfl⟩, _, _, rfl, ⟨_, rfl⟩, _, _, rfl,
    ⟨_, _, _, rfl, rfl⟩, _, _, rfl, ⟨_, _, rfl, joint⟩, _, _, rfl, ⟨_, _, rfl, -⟩, type, _, rfl,
    types, _, _, rfl, ⟨_, _, body, rfl, bodies⟩, rfl⟩ := like
  obtain ⟨content, listed, written⟩ := writesBody_of_allLike bodies
  rw [joint trivial]
  exact ⟨content, listed, .intro (writesResult_of_allLike types) written⟩

theorem documents_of_allLike {inner : Bool} {lines : List (Bool × String)}
    (all : ∀ line ∈ lines, line.1 = inner) (like : AllLike (documentationTrees lines) trees) :
    Documents inner trees := by
  induction lines generalizing trees with
  | nil =>
      obtain rfl := TokenTree.allLike_nil_iff.mp like
      exact .nil
  | cons line lines ih =>
      rw [List.forall_mem_cons] at all
      have split : AllLike (Lexer.documentationTokens line.2.toList line.1 Position.start
          Position.start ++ documentationTrees lines) trees := like
      obtain ⟨_, rest, rfl, here, later⟩ := allLike_append_iff.mp split
      have onward := ih all.2 later
      cases inner with
      | false =>
          simp only [Lexer.documentationTokens, all.1, Bool.false_eq_true, if_false,
            TokenTree.allLike_cons_iff, TokenTree.like_mark_iff, TokenTree.like_name_iff,
            TokenTree.like_literal_iff, TokenTree.like_group_iff, TokenTree.allLike_nil_iff] at here
          obtain ⟨_, _, rfl, ⟨_, _, rfl, -⟩, _, _, rfl, ⟨_, _, _, rfl, _, _, rfl, ⟨_, rfl⟩, _, _, rfl,
            ⟨_, _, rfl, -⟩, _, _, rfl, ⟨_, rfl⟩, rfl⟩, rfl⟩ := here
          apply Documents.cons onward
          · exact true
          · exact Position.start
      | true =>
          simp only [Lexer.documentationTokens, all.1, if_true, TokenTree.allLike_cons_iff,
            TokenTree.like_mark_iff, TokenTree.like_name_iff, TokenTree.like_literal_iff,
            TokenTree.like_group_iff, TokenTree.allLike_nil_iff] at here
          obtain ⟨_, _, rfl, ⟨_, _, rfl, -⟩, _, _, rfl, ⟨_, _, rfl, -⟩, _, _, rfl, ⟨_, _, _, rfl, _, _,
            rfl, ⟨_, rfl⟩, _, _, rfl, ⟨_, _, rfl, -⟩, _, _, rfl, ⟨_, rfl⟩, rfl⟩, rfl⟩ := here
          exact Documents.cons onward

/-- The tokens of a registry have the shape of its file. -/
theorem writesFile_of_allLike {name : String} {inner outer : Bool} {list : List TokenTree}
    (like : AllLike (documentationTrees documented ++ functionTokens name inner outer list) trees) :
    ∃ content, AllLike list content ∧ WritesFile name content trees := by
  have split : AllLike (documentationTrees (documented.take 5) ++
      (documentationTrees (documented.drop 5) ++ functionTokens name inner outer list)) trees := like
  obtain ⟨_, _, rfl, enclosing, rest⟩ := allLike_append_iff.mp split
  obtain ⟨_, _, rfl, following, function⟩ := allLike_append_iff.mp rest
  obtain ⟨content, listed, written⟩ := writesFunctionItem_of_allLike function
  exact ⟨content, listed, .intro (documents_of_allLike (by decide) enclosing)
    (documents_of_allLike (by decide) following) written⟩

end Rendering

end RecordRegistry
