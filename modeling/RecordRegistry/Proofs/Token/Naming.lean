/-
# Names as tokens

A name is an identifier, with the marker of a raw name or without.  What the lexer cuts as a name
from the front of a text is a name as a whole, so that it can be written and read again.
-/

import Mathlib
import RecordRegistry.Token.Lexer

namespace RecordRegistry

namespace Lexer

/-- A text that is a name as a whole. -/
def IsName (text : List Char) : Prop := text ≠ [] ∧ nameLength text = text.length

instance (text : List Char) : Decidable (IsName text) :=
  inferInstanceAs (Decidable (text ≠ [] ∧ nameLength text = text.length))

theorem identifierLength_take (text : List Char) :
    identifierLength (text.take (identifierLength text)) = identifierLength text := by
  cases text with
  | nil => rfl
  | cons first rest =>
      by_cases starts : isIdentifierStart first
      · have whole : rest.take (rest.takeWhile isIdentifierContinue).length =
            rest.takeWhile isIdentifierContinue :=
          (List.prefix_iff_eq_take.mp (List.takeWhile_prefix _)).symm
        have again : (rest.takeWhile isIdentifierContinue).takeWhile isIdentifierContinue =
            rest.takeWhile isIdentifierContinue := by
          rw [List.takeWhile_takeWhile]
          simp
        simp [identifierLength, starts, Nat.add_comm 1, whole, again]
      · simp [identifierLength, starts]

theorem nameLength_eq_identifierLength {text : List Char} (plain : ∀ rest, text ≠ 'r' :: '#' :: rest) :
    nameLength text = identifierLength text := by
  unfold nameLength
  split
  · next rest => exact absurd rfl (plain rest)
  · rfl

/-- The name that is cut from the front of a text is a name as a whole. -/
theorem isName_take {text : List Char} (there : nameLength text ≠ 0) :
    IsName (text.take (nameLength text)) := by
  by_cases marked : ∃ rest, text = 'r' :: '#' :: rest
  · obtain ⟨rest, rfl⟩ := marked
    by_cases refused : identifierLength rest = 0 ∨ rest.take (identifierLength rest) ∈ neverRaw
    · simp [nameLength, refused] at there
    · have length : nameLength ('r' :: '#' :: rest) = identifierLength rest + 2 := by
        simp [nameLength, refused]
      rw [length]
      have short := identifierLength_le rest
      refine ⟨by simp, ?_⟩
      simp [nameLength, identifierLength_take, refused, List.take_take, short]
  · have plain : ∀ rest, text ≠ 'r' :: '#' :: rest := fun rest same => marked ⟨rest, same⟩
    rw [nameLength_eq_identifierLength plain] at there ⊢
    have short := identifierLength_le text
    have still : ∀ rest, text.take (identifierLength text) ≠ 'r' :: '#' :: rest := by
      intro rest same
      refine plain (rest ++ text.drop (identifierLength text)) ?_
      calc text = text.take (identifierLength text) ++ text.drop (identifierLength text) :=
            (List.take_append_drop _ _).symm
        _ = 'r' :: '#' :: (rest ++ text.drop (identifierLength text)) := by rw [same]; rfl
    refine ⟨fun none => there ?_, ?_⟩
    · simpa [short] using congrArg List.length none
    · rw [nameLength_eq_identifierLength still, identifierLength_take, List.length_take]
      omega

/-- A token that is no delimiter is a mark, a literal or a name, which is spelled as it stands. -/
theorem leaf?_cases {cursor : Cursor} {tree : TokenTree} {length : Nat}
    (cut : leaf? cursor = some (tree, length)) :
    (∃ character joint, tree = .mark character joint cursor.position) ∨
      (∃ spelling, tree = .literal spelling cursor.position) ∨
      tree = .name (cursor.text length) cursor.position ∧
        IsName (cursor.rest.take length) := by
  have fst_eq : ∀ {one : TokenTree} {count : Nat}, some (one, count) = some (tree, length) →
      tree = one := by
    intro one count same
    exact (congrArg Prod.fst (Option.some.inj same)).symm
  unfold leaf? at cut
  split at cut
  · exact .inr (.inl ⟨_, fst_eq cut⟩)
  · split at cut
    · contradiction
    · next character rest text =>
        split at cut
        · split at cut
          · split at cut
            · exact .inl ⟨_, _, fst_eq cut⟩
            · contradiction
          · exact .inl ⟨_, _, fst_eq cut⟩
        · split at cut
          · contradiction
          · split at cut
            · contradiction
            · next there =>
                obtain ⟨rfl, rfl⟩ := Prod.mk.inj (Option.some.inj cut)
                refine .inr (.inr ⟨rfl, ?_⟩)
                rw [text]
                exact isName_take there

/-- The code points of the characters that may stand between two tokens. -/
def blankCodes : List Nat :=
  [0x09, 0x0a, 0x0b, 0x0c, 0x0d, 0x20, 0x85, 0xa0, 0x1680, 0x2000, 0x2001, 0x2002, 0x2003, 0x2004,
    0x2005, 0x2006, 0x2007, 0x2008, 0x2009, 0x200a, 0x200e, 0x200f, 0x2028, 0x2029, 0x202f, 0x205f,
    0x3000]

theorem toNat_mem_blankCodes {character : Char} (blank : isBlank character) :
    character.toNat ∈ blankCodes := by
  simp only [isBlank, isWhiteSpace, Bool.or_eq_true, Bool.and_eq_true, decide_eq_true_eq,
    beq_iff_eq] at blank
  simp only [blankCodes, List.mem_cons]
  omega

/-- No blank is part of an identifier. -/
theorem isBlank_eq_false {character : Char} (continues : isIdentifierContinue character) :
    isBlank character = false := by
  have none : ∀ code ∈ blankCodes, isIdentifierContinue (Char.ofNat code) = false := by
    decide +kernel
  by_contra blank
  have inside := none character.toNat (toNat_mem_blankCodes (by simpa using blank))
  rw [Char.ofNat_toNat, continues] at inside
  exact Bool.noConfusion inside

/-- The characters below the Unicode range that have a meaning besides in names. -/
def special : List Char :=
  ['\x22', '\x27', '#', '(', ')', '[', ']', '\x7b', '\x7d'] ++ marks

theorem notMem_special {character : Char} (continues : isIdentifierContinue character) :
    character ∉ special := by
  have none : ∀ other ∈ special, isIdentifierContinue other = false :=
    List.all_iff_forall_prop.mp (by decide +kernel)
  intro inside
  rw [none character inside] at continues
  exact Bool.noConfusion continues

/-- An identifier as a whole. -/
def IsIdentifier (text : List Char) : Prop :=
  ∃ first rest, text = first :: rest ∧ isIdentifierStart first ∧
    ∀ character ∈ rest, isIdentifierContinue character

theorem isIdentifier_of_identifierLength {text : List Char} (there : text ≠ [])
    (whole : identifierLength text = text.length) : IsIdentifier text := by
  cases text with
  | nil => contradiction
  | cons first rest =>
      by_cases starts : isIdentifierStart first
      · refine ⟨first, rest, rfl, starts, ?_⟩
        have same : rest.takeWhile isIdentifierContinue = rest := by
          refine (List.takeWhile_prefix _).eq_of_length ?_
          simp only [identifierLength, starts, if_true, List.length_cons] at whole
          omega
        exact fun character met => List.mem_takeWhile_imp (same.symm ▸ met)
      · simp [identifierLength, starts] at whole

/-- A name is an identifier, or the marker of a raw name and an identifier. -/
theorem IsName.cases {text : List Char} (named : IsName text) :
    IsIdentifier text ∨
      ∃ rest, text = 'r' :: '#' :: rest ∧ IsIdentifier rest ∧ rest ∉ neverRaw := by
  obtain ⟨there, whole⟩ := named
  by_cases marked : ∃ rest, text = 'r' :: '#' :: rest
  · obtain ⟨rest, rfl⟩ := marked
    refine .inr ⟨rest, rfl, ?_⟩
    by_cases refused : identifierLength rest = 0 ∨ rest.take (identifierLength rest) ∈ neverRaw
    · simp [nameLength, refused] at whole
    · have same : identifierLength rest = rest.length := by
        simpa [nameLength, refused] using whole
      rw [same, List.take_length] at refused
      refine ⟨isIdentifier_of_identifierLength ?_ same, fun never => refused (.inr never)⟩
      rintro rfl
      exact refused (.inl rfl)
  · refine .inl (isIdentifier_of_identifierLength there ?_)
    rwa [nameLength_eq_identifierLength fun rest same => marked ⟨rest, same⟩] at whole

theorem IsName.eq_cons {name : List Char} (named : IsName name) :
    ∃ first more, name = first :: more ∧ isIdentifierStart first := by
  rcases named.cases with ⟨first, more, rfl, starts, -⟩ | ⟨raw, rfl, -⟩
  · exact ⟨first, more, rfl, starts⟩
  · exact ⟨'r', '#' :: raw, rfl, by decide⟩

/-- A name ends no line. -/
theorem IsName.notMem_break {name : List Char} (named : IsName name) : '\n' ∉ name := by
  have blank : isIdentifierContinue '\n' = false := by decide +kernel
  have identifier {text : List Char} (made : IsIdentifier text) : '\n' ∉ text := by
    obtain ⟨first, rest, rfl, starts, continues⟩ := made
    intro met
    have inside : isIdentifierContinue '\n' = true := by
      rcases List.mem_cons.mp met with rfl | later
      · exact isIdentifierContinue_of_isIdentifierStart starts
      · exact continues _ later
    exact Bool.noConfusion (blank.symm.trans inside)
  rcases named.cases with plain | ⟨rest, rfl, plain, -⟩
  · exact identifier plain
  · simpa using identifier plain

/-- What may follow a name: no character of an identifier, and none that could begin a quoted
literal together with a name. -/
def Ends (text : List Char) : Prop :=
  ∀ character ∈ text.head?, isIdentifierContinue character = false ∧
    character ∉ ['\x22', '\x27', '#']

theorem ends_nil : Ends [] := by simp [Ends]

theorem ends_cons {character : Char} {rest : List Char}
    (stops : isIdentifierContinue character = false)
    (plain : character ∉ ['\x22', '\x27', '#']) : Ends (character :: rest) := by
  intro other first
  obtain rfl : character = other := Option.some.inj first
  exact ⟨stops, plain⟩

/-- No quoted literal begins here. -/
def Quiet (text : List Char) : Prop := ∀ character ∈ text.head?, character ∉ ['\x22', '\x27', '#']

theorem quiet_cons {character : Char} {rest : List Char} :
    Quiet (character :: rest) ↔ character ∉ ['\x22', '\x27', '#'] := by
  simp [Quiet]

theorem quiet_of_continues {character : Char} (continues : isIdentifierContinue character)
    (rest : List Char) : Quiet (character :: rest) := by
  have plain := notMem_special continues
  rw [quiet_cons]
  simp only [special, List.mem_append, List.mem_cons, not_or] at plain ⊢
  tauto

variable {name rest : List Char}

/-- Wherever a name is cut, what follows does not begin a quoted literal. -/
theorem quiet_append {more : List Char}
    (continues : ∀ character ∈ more, isIdentifierContinue character) (ends : Ends rest) :
    Quiet (more ++ rest) := by
  cases more with
  | nil => exact fun character first => (ends character first).2
  | cons first more => exact quiet_of_continues (continues first List.mem_cons_self) _

/-- The same holds one character further on within the name. -/
theorem quiet_of_append_eq_cons {more tail : List Char} {character : Char}
    (continues : ∀ character ∈ more, isIdentifierContinue character) (ends : Ends rest)
    (same : more ++ rest = character :: tail) (also : isIdentifierContinue character) :
    Quiet tail := by
  cases more with
  | nil =>
      have stops := (ends character (by simp_all)).1
      rw [also] at stops
      exact Bool.noConfusion stops
  | cons first more =>
      obtain ⟨-, rfl⟩ := List.cons.inj same
      exact quiet_append (fun other met => continues other (List.mem_cons_of_mem _ met)) ends

theorem rawLength?_eq_none {rules : QuoteRules} {text : List Char} (quiet : Quiet text) :
    rawLength? rules text = none := by
  cases text with
  | nil => rfl
  | cons first rest =>
      have plain := quiet_cons.mp quiet
      simp only [List.mem_cons, List.not_mem_nil, or_false, not_or] at plain
      have none : (first :: rest).takeWhile (· == '#') = [] := by simp [plain]
      unfold rawLength?
      simp only [none, List.length_nil, List.drop_zero]
      split
      · simp_all
      · rfl

theorem isDigit_eq_false {character : Char} (starts : isIdentifierStart character) :
    character.isDigit = false := by
  by_contra digit
  simp only [Bool.not_eq_false, Char.isDigit, Bool.and_eq_true, decide_eq_true_eq,
    UInt32.le_iff_toNat_le, ge_iff_le] at digit
  simp only [isIdentifierStart, Char.isAlpha, Char.isUpper, Char.isLower, Bool.or_eq_true,
    Bool.and_eq_true, decide_eq_true_eq, UInt32.le_iff_toNat_le, beq_iff_eq, Char.toNat,
    ge_iff_le] at starts
  rcases starts with ((upper | lower) | rfl) | ⟨high, -⟩
  · simp at *
    omega
  · simp at *
    omega
  · simp at *
  · simp at *
    omega

theorem quotedLiteralLength?_eq_none (named : IsName name) (ends : Ends rest) :
    quotedLiteralLength? (name ++ rest) = none := by
  rcases named.cases with
    ⟨first, more, rfl, starts, continues⟩ | ⟨raw, rfl, ⟨first, more, rfl, starts, -⟩, -⟩
  · have quiet := quiet_append continues ends
    have plain := notMem_special (isIdentifierContinue_of_isIdentifierStart starts)
    have raw : ∀ {tail : List Char}, more ++ rest = 'r' :: tail → Quiet tail := fun same =>
      quiet_of_append_eq_cons continues ends same (by decide)
    rw [List.cons_append]
    unfold quotedLiteralLength?
    split
    · simp_all [special]
    · simp_all [rawLength?_eq_none]
    · simp_all [quiet_cons]
    · next tail same =>
        rw [rawLength?_eq_none (raw (List.cons.inj same).2)]
        rfl
    · simp_all [quiet_cons]
    · simp_all [quiet_cons]
    · next tail same =>
        rw [rawLength?_eq_none (raw (List.cons.inj same).2)]
        rfl
    · simp_all [special]
    · rfl
  · have plain := notMem_special (isIdentifierContinue_of_isIdentifierStart starts)
    simp only [special, List.mem_append, List.mem_cons, not_or] at plain
    simp [quotedLiteralLength?, rawLength?, plain]

theorem startsLikeQuoted_eq_false (named : IsName name) (ends : Ends rest) :
    startsLikeQuoted (name ++ rest) = false := by
  rcases named.cases with
    ⟨first, more, rfl, starts, continues⟩ | ⟨raw, rfl, ⟨first, more, rfl, starts, -⟩, -⟩
  · have quiet := quiet_append continues ends
    have raw : ∀ {tail : List Char}, more ++ rest = 'r' :: tail → Quiet tail := fun same =>
      quiet_of_append_eq_cons continues ends same (by decide)
    rw [List.cons_append]
    cases after : more ++ rest with
    | nil => simp [startsLikeQuoted, List.isPrefixOf]
    | cons second tail =>
        rw [after] at quiet raw
        rw [quiet_cons] at quiet
        by_cases again : second = 'r'
        · have further := raw (by rw [again])
          cases tail with
          | nil => simp_all [startsLikeQuoted, List.isPrefixOf]
          | cons third tail =>
              rw [quiet_cons] at further
              simp_all [startsLikeQuoted, List.isPrefixOf]
              grind
        · simp_all [startsLikeQuoted, List.isPrefixOf]
          grind
  · have plain := notMem_special (isIdentifierContinue_of_isIdentifierStart starts)
    simp only [special, List.mem_append, List.mem_cons, not_or] at plain
    simp [startsLikeQuoted, List.isPrefixOf]
    grind

theorem floatDigitsLength?_eq_none {text : List Char} {first : Char}
    (starts : isIdentifierStart first) : floatDigitsLength? (first :: text) = none := by
  simp [floatDigitsLength?, isDigit_eq_false starts]

theorem integerLength?_eq_none {text : List Char} {first : Char}
    (starts : isIdentifierStart first) : integerLength? (first :: text) = none := by
  have digit := isDigit_eq_false starts
  have value : ¬hexValue first < 10 := by
    unfold hexValue
    split
    · simp_all
    · split <;> omega
  unfold integerLength?
  split
  · simp_all
  · simp_all
  · simp_all
  · simp [integerDigitsLength?, digit, value]

/-- No literal begins with a name. -/
theorem literalLength?_eq_none (named : IsName name) (ends : Ends rest) :
    literalLength? (name ++ rest) = none := by
  have quoted := quotedLiteralLength?_eq_none named ends
  obtain ⟨first, more, rfl, starts⟩ := named.eq_cons
  rw [List.cons_append] at quoted ⊢
  simp [literalLength?, quoted, floatDigitsLength?_eq_none starts, integerLength?_eq_none starts]

theorem identifierLength_append (named : IsIdentifier name) (ends : Ends rest) :
    identifierLength (name ++ rest) = name.length := by
  obtain ⟨first, more, rfl, starts, continues⟩ := named
  have stops : rest.takeWhile isIdentifierContinue = [] := by
    cases rest with
    | nil => rfl
    | cons other rest => simp [(ends other rfl).1]
  have whole : (more ++ rest).takeWhile isIdentifierContinue = more := by
    rw [List.takeWhile_append_of_pos continues, stops, List.append_nil]
  simp [identifierLength, starts, whole, Nat.add_comm]

theorem nameLength_append (named : IsName name) (ends : Ends rest) :
    nameLength (name ++ rest) = name.length := by
  rcases named.cases with identifier | ⟨raw, rfl, identifier, never⟩
  · have length := identifierLength_append identifier ends
    obtain ⟨first, more, rfl, starts, continues⟩ := identifier
    rw [nameLength_eq_identifierLength, length]
    intro tail same
    have quiet := quiet_append continues ends
    rw [List.cons_append] at same
    rw [(List.cons.inj same).2, quiet_cons] at quiet
    simp at quiet
  · have length := identifierLength_append identifier ends
    obtain ⟨first, more, rfl, starts, continues⟩ := identifier
    simp_all [nameLength]

theorem startsWithMark_eq_false {first : Char} {more : List Char}
    (starts : isIdentifierStart first) : startsWithMark (first :: more) = false := by
  have plain := notMem_special (isIdentifierContinue_of_isIdentifierStart starts)
  have none : first ∉ marks := fun inside => plain (List.mem_append_right _ inside)
  unfold startsWithMark
  split
  · rfl
  · rfl
  · simp_all
  · rfl

/-- A name that is written is cut again, if what follows ends it. -/
theorem leaf?_append (named : IsName name) (ends : Ends rest) (position : Position) :
    leaf? ⟨name ++ rest, position⟩ =
      some (.name (String.ofList name) position, name.length) := by
  have literal := literalLength?_eq_none named ends
  have quoted := startsLikeQuoted_eq_false named ends
  have length := nameLength_append named ends
  obtain ⟨first, more, rfl, starts⟩ := named.eq_cons
  have mark : startsWithMark (first :: (more ++ rest)) = false := startsWithMark_eq_false starts
  simp only [List.cons_append] at literal quoted length mark ⊢
  simp [leaf?, literal, quoted, length, mark, Cursor.text]

end Lexer

end RecordRegistry
