/-
# Cutting what was written

`Cuts` says into which lexemes a text is cut, up to their places.  There is one rule for each kind
of piece that may stand at the front of a text; a rule says what has to follow the piece for it to
be cut off there.  A written text is followed from its end to its front by these rules.
-/

import RecordRegistry.Proofs.Token.Likeness
import RecordRegistry.Proofs.Token.Naming

namespace RecordRegistry

namespace Lexer

/-- A text is cut into lexemes like the given ones, wherever it stands. -/
def Cuts (text : List Char) (lexemes : List Lexeme) : Prop :=
  ∀ position count, text.length < count → ∃ found,
    lexemesUpTo count ⟨text, position⟩ = (found, none) ∧ List.Forall₂ Lexeme.Like lexemes found

theorem blankLength?_cons {character : Char} {rest : List Char} (plain : character ≠ '/') :
    blankLength? (character :: rest) = if isBlank character then some 1 else none := by
  unfold blankLength?
  split <;> simp_all

theorem documentation?_cons {character : Char} {rest : List Char} (plain : character ≠ '/') :
    documentation? (character :: rest) = none := by
  unfold documentation?
  split <;> simp_all

theorem cuts_nil : Cuts [] [] := by
  intro position count enough
  obtain ⟨count, rfl⟩ := Nat.exists_eq_succ_of_ne_zero (Nat.ne_of_gt enough)
  exact ⟨[], rfl, .nil⟩

theorem Cuts.blank {character : Char} {rest : List Char} {lexemes : List Lexeme}
    (cuts : Cuts rest lexemes) (blank : isBlank character) : Cuts (character :: rest) lexemes := by
  intro position count enough
  obtain ⟨count, rfl⟩ := Nat.exists_eq_succ_of_ne_zero (Nat.ne_of_gt (Nat.zero_lt_of_lt enough))
  have plain : character ≠ '/' := by
    rintro rfl
    exact absurd blank (by decide)
  obtain ⟨found, cut, alike⟩ := cuts (position.next character) count (by simpa using enough)
  refine ⟨found, ?_, alike⟩
  rw [lexemesUpTo]
  simpa [blankLength?_cons plain, blank, Cursor.advance] using cut

theorem Cuts.blanks {rest : List Char} {lexemes : List Lexeme} (cuts : Cuts rest lexemes)
    (count : Nat) : Cuts (List.replicate count ' ' ++ rest) lexemes := by
  induction count with
  | zero => exact cuts
  | succ count ih => exact ih.blank (by decide)

theorem Cuts.leaf {rest : List Char} {tree : TokenTree} {lexemes : List Lexeme} {text : List Char}
    {first : Char} {more : List Char} (cuts : Cuts rest lexemes) (start : text = first :: more)
    (plain : first ≠ '/') (solid : isBlank first = false) (open_ : delimiter? first = none)
    (cut : ∀ position, ∃ other, tree.Like other ∧
      leaf? ⟨text ++ rest, position⟩ = some (other, text.length)) :
    Cuts (text ++ rest) (.leaf tree :: lexemes) := by
  intro position count enough
  obtain ⟨count, rfl⟩ := Nat.exists_eq_succ_of_ne_zero (Nat.ne_of_gt (Nat.zero_lt_of_lt enough))
  obtain ⟨found, onward, alike⟩ := cuts (position.advance text) count (by
    simp [start] at enough
    omega)
  obtain ⟨other, like, leaf⟩ := cut position
  refine ⟨.leaf other :: found, ?_, .cons (.leaf like) alike⟩
  subst start
  rw [Position.advance_cons] at onward
  simp only [List.cons_append] at leaf ⊢
  simp [lexemesUpTo, blankLength?_cons plain, solid, documentation?_cons plain, open_, leaf,
    Cursor.advance, onward]

theorem Cuts.name {name rest : List Char} {lexemes : List Lexeme} (cuts : Cuts rest lexemes)
    (named : IsName name) (ends : Ends rest) (position : Position) :
    Cuts (name ++ rest) (.leaf (.name (String.ofList name) position) :: lexemes) := by
  obtain ⟨first, more, start, starts⟩ := named.eq_cons
  have continues := isIdentifierContinue_of_isIdentifierStart starts
  have plain := notMem_special continues
  refine cuts.leaf start ?_ (isBlank_eq_false continues) ?_ fun place =>
    ⟨_, by simp, leaf?_append named ends place⟩
  · rintro rfl
    exact plain (by decide)
  · simp only [special, List.mem_append, List.mem_cons, not_or] at plain
    unfold delimiter?
    split <;> simp_all

theorem literalLength?_mark {character : Char} {rest : List Char} (mark : character ∈ marks)
    (apart : character ≠ '\x27') : literalLength? (character :: rest) = none := by
  have none : ∀ other ∈ marks, other ∉ ['\x22', 'r', 'b', 'c', '0', '_'] ∧
      other.isDigit = false ∧ isHexDigit other = false :=
    List.all_iff_forall_prop.mp (by decide)
  obtain ⟨plain, digit, hex⟩ := none character mark
  simp only [List.mem_cons, not_or] at plain
  have quoted : quotedLiteralLength? (character :: rest) = Option.none := by
    unfold quotedLiteralLength?
    split <;> simp_all
  have float : floatDigitsLength? (character :: rest) = Option.none := by
    simp [floatDigitsLength?, digit]
  have whole : integerLength? (character :: rest) = Option.none := by
    unfold integerLength?
    split <;> simp_all [integerDigitsLength?]
  simp [literalLength?, quoted, float, whole]

theorem cuts_mark {character : Char} {joint : Bool} {rest : List Char} {lexemes : List Lexeme}
    (cuts : Cuts rest lexemes) (mark : character ∈ marks) (plain : character ≠ '/')
    (apart : character ≠ '\x27') (joins : joint → startsWithMark rest) (position : Position) :
    Cuts (character :: rest) (.leaf (.mark character joint position) :: lexemes) := by
  have solid : ∀ other ∈ marks, isBlank other = false ∧ delimiter? other = none :=
    List.all_iff_forall_prop.mp (by decide)
  have starts : startsWithMark (character :: rest) = true := by
    unfold startsWithMark
    split <;> simp_all
  have text : [character] = character :: [] := rfl
  refine cuts.leaf text plain (solid _ mark).1 (solid _ mark).2 fun place =>
    ⟨.mark character (startsWithMark rest) place, ⟨rfl, joins⟩, ?_⟩
  simp [leaf?, literalLength?_mark mark apart, starts, apart]

/-- A mark that begins neither a lifetime nor a comment. -/
theorem Cuts.mark {character : Char} {rest : List Char} {lexemes : List Lexeme}
    (cuts : Cuts rest lexemes) (mark : character ∈ marks) (plain : character ≠ '/')
    (apart : character ≠ '\x27') (position : Position) :
    Cuts (character :: rest) (.leaf (.mark character false position) :: lexemes) :=
  cuts_mark cuts mark plain apart (fun absurd => Bool.noConfusion absurd) position

/-- The same before another mark. -/
theorem Cuts.joint {character : Char} {rest : List Char} {lexemes : List Lexeme}
    (cuts : Cuts rest lexemes) (mark : character ∈ marks) (plain : character ≠ '/')
    (apart : character ≠ '\x27') (joins : startsWithMark rest) (position : Position) :
    Cuts (character :: rest) (.leaf (.mark character true position) :: lexemes) :=
  cuts_mark cuts mark plain apart (fun _ => joins) position

theorem Cuts.opening {rest : List Char} {lexemes : List Lexeme} (cuts : Cuts rest lexemes)
    (delimiter : Delimiter) (position : Position) :
    Cuts (delimiter.opening :: rest) (.opening delimiter position :: lexemes) := by
  intro place count enough
  obtain ⟨count, rfl⟩ := Nat.exists_eq_succ_of_ne_zero (Nat.ne_of_gt (Nat.zero_lt_of_lt enough))
  obtain ⟨found, onward, alike⟩ :=
    cuts (place.next delimiter.opening) count (by simpa using enough)
  refine ⟨.opening delimiter place :: found, ?_, .cons .opening alike⟩
  cases delimiter <;>
    simp_all [lexemesUpTo, Delimiter.opening, blankLength?_cons, documentation?_cons, isBlank,
      isWhiteSpace, delimiter?, Cursor.advance]

theorem Cuts.closing {rest : List Char} {lexemes : List Lexeme} (cuts : Cuts rest lexemes)
    (delimiter : Delimiter) (position : Position) :
    Cuts (delimiter.closing :: rest) (.closing delimiter position :: lexemes) := by
  intro place count enough
  obtain ⟨count, rfl⟩ := Nat.exists_eq_succ_of_ne_zero (Nat.ne_of_gt (Nat.zero_lt_of_lt enough))
  obtain ⟨found, onward, alike⟩ :=
    cuts (place.next delimiter.closing) count (by simpa using enough)
  refine ⟨.closing delimiter place :: found, ?_, .cons .closing alike⟩
  cases delimiter <;>
    simp_all [lexemesUpTo, Delimiter.closing, blankLength?_cons, documentation?_cons, isBlank,
      isWhiteSpace, delimiter?, Cursor.advance]

theorem lineLength_append {content rest : List Char} (plain : '\n' ∉ content)
    (returns : '\r' ∉ content) (count : Nat) :
    lineLength count (content ++ '\n' :: rest) = count + content.length := by
  induction content generalizing count with
  | nil => simp [lineLength]
  | cons first content ih =>
      simp only [List.mem_cons, not_or] at plain returns
      rw [List.cons_append]
      unfold lineLength
      split
      · simp_all
      · simp_all
      · simp_all
      · next same =>
          obtain ⟨rfl, rfl⟩ := List.cons.inj same
          rw [ih plain.2 returns.2, List.length_cons]
          omega

theorem hasBareReturn_eq_false {content : List Char} (returns : '\r' ∉ content) :
    hasBareReturn content = false := by
  induction content with
  | nil => rfl
  | cons first content ih =>
      simp only [List.mem_cons, not_or] at returns
      unfold hasBareReturn
      split <;> simp_all

theorem alike_documentationTokens (content : List Char) (inner : Bool)
    (first last one other : Position) :
    List.Forall₂ Lexeme.Like ((documentationTokens content inner first last).map .leaf)
      ((documentationTokens content inner one other).map .leaf) := by
  cases inner <;> simp [documentationTokens]

theorem blankLength?_documentation {text : List Char} (short : ∀ more, text ≠ '/' :: more) :
    blankLength? ('/' :: '/' :: '/' :: text) = none := by
  unfold blankLength?
  split <;> grind

theorem documentation?_line {text : List Char} (short : ∀ more, text ≠ '/' :: more) :
    documentation? ('/' :: '/' :: '/' :: text) =
      some (3 + lineLength 0 text, text.take (lineLength 0 text), false) := by
  unfold documentation?
  split <;> grind [documentation?.line]

/-- A line that describes is no comment. -/
theorem blankLength?_described {inner : Bool} {rest : List Char}
    (short : inner = false → ∀ more, rest ≠ '/' :: more) :
    blankLength? ('/' :: '/' :: (if inner then '!' else '/') :: rest) = none := by
  cases inner with
  | true => rfl
  | false => exact blankLength?_documentation (short rfl)

/-- A line that describes goes on up to its end. -/
theorem documentation?_described {content rest : List Char} {inner : Bool}
    (plain : '\n' ∉ content) (returns : '\r' ∉ content)
    (short : inner = false → ∀ more, content ++ '\n' :: rest ≠ '/' :: more) :
    documentation? ('/' :: '/' :: (if inner then '!' else '/') :: (content ++ '\n' :: rest)) =
      some (3 + content.length, content, inner) := by
  have length (before : Nat) :
      lineLength before (content ++ '\n' :: rest) = before + content.length :=
    lineLength_append plain returns before
  cases inner with
  | true => simp [documentation?, documentation?.line, length]
  | false =>
      rw [if_neg Bool.false_ne_true, documentation?_line (short rfl), length]
      simp

/-- A line that describes what contains it, or what follows it. -/
theorem Cuts.documentation {content rest : List Char} {inner : Bool} {lexemes : List Lexeme}
    (cuts : Cuts rest lexemes) (plain : '\n' ∉ content) (returns : '\r' ∉ content)
    (short : inner = false → content.head? ≠ some '/') (first last : Position) :
    Cuts ('/' :: '/' :: (if inner then '!' else '/') :: (content ++ '\n' :: rest))
      ((documentationTokens content inner first last).map .leaf ++ lexemes) := by
  intro position count enough
  obtain ⟨count, rfl⟩ := Nat.exists_eq_succ_of_ne_zero (Nat.ne_of_gt (Nat.zero_lt_of_lt enough))
  have outer : inner = false → ∀ more, content ++ '\n' :: rest ≠ '/' :: more := by
    intro described more same
    have start := short described
    cases content <;> simp_all
  have solid := blankLength?_described outer
  have described := documentation?_described plain returns outer
  have ended : Cuts ('\n' :: rest) lexemes := cuts.blank (by decide)
  obtain ⟨found, onward, alike⟩ := ended
    (position.advance ('/' :: '/' :: (if inner then '!' else '/') :: content)) count (by
      simp at enough ⊢
      omega)
  have moved : (Cursor.mk ('/' :: '/' :: (if inner then '!' else '/') ::
      (content ++ '\n' :: rest)) position).advance (3 + content.length) =
        ⟨'\n' :: rest,
          position.advance ('/' :: '/' :: (if inner then '!' else '/') :: content)⟩ := by
    simp [Cursor.advance, Nat.add_comm 3]
  generalize '/' :: '/' :: (if inner then '!' else '/') :: (content ++ '\n' :: rest) = text
    at solid described moved
  have tokens := alike_documentationTokens content inner first last position
    ((Cursor.mk text position).advance (3 + content.length - 1)).position
  refine ⟨_, ?_, List.rel_append tokens alike⟩
  rw [lexemesUpTo]
  simp only [solid, described, hasBareReturn_eq_false returns, moved, onward]
  rfl

/-- A text is read as trees like those that it spells, which may follow some that stand for
documentation. -/
theorem tokenTrees_of_cuts {text : List Char} {leaves trees : List TokenTree}
    (cuts : Cuts text (leaves.map .leaf ++ flatAll trees)) (plain : text.head? ≠ some '\ufeff') :
    ∃ others, tokenTrees text = .ok others ∧ TokenTree.AllLike (leaves ++ trees) others := by
  obtain ⟨found, cut, alike⟩ := cuts Position.start (text.length + 1) (Nat.lt_succ_self _)
  obtain ⟨one, other, rfl, first, second⟩ := alike_append alike
  obtain ⟨before, likes, matched⟩ := nest_leaves first
  obtain ⟨after, also, onward⟩ := nest_flatAll trees second
  refine ⟨before ++ after, ?_, TokenTree.allLike_append_iff.mpr ⟨before, after, rfl, likes, also⟩⟩
  have start : tokenTrees text = nest none [] [] (one ++ other) := by
    unfold tokenTrees
    split
    · next rest => exact absurd rfl plain
    · simp only [lexemes, cut]
  have rest := onward none [] before.reverse []
  rw [List.append_nil] at rest
  rw [start, matched, List.append_nil, rest]
  simp [nest]

end Lexer

end RecordRegistry
