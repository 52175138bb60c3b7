/-
# Cutting spaced tokens

Tokens that are written with the spacing of raw tokens are cut into themselves again, wherever the
lines end.  This is shown for the tokens that paths and calls are made of.  The induction is on the
tokens; what it has to carry besides is that a name is ended by what is written after it.
-/

import RecordRegistry.Proofs.Printing.Laying
import RecordRegistry.Proofs.Token.Cutting

namespace RecordRegistry

namespace Spacing

open Layout (Document Laid blanks)
open Lexer (Cuts Ends IsName flat flatAll)

/-- Tokens of which paths and calls are made. -/
inductive Plain : List TokenTree → Prop
  | nil : Plain []
  | name {spelling : String} {position : Position} {rest : List TokenTree}
      (named : IsName spelling.toList) (onward : Plain rest) :
      Plain (.name spelling position :: rest)
  | mark {character : Char} {position : Position} {rest : List TokenTree}
      (simple : character ∈ [',', '<', '>']) (onward : Plain rest) :
      Plain (.mark character false position :: rest)
  | colons {first second : Position} {rest : List TokenTree} (onward : Plain rest) :
      Plain (.mark ':' true first :: .mark ':' false second :: rest)
  | group {opening closing : Position} {content rest : List TokenTree} (within : Plain content)
      (onward : Plain rest) :
      Plain (.group .parenthesis opening closing content :: rest)

/-- The states after such tokens. -/
def Usual (state : State) : Prop := state ∈ [.start, .colons, .name, .group, .other]

theorem usual_start : Usual .start := by simp [Usual]

theorem usual_colons : Usual .colons := by simp [Usual]

theorem usual_group : Usual .group := by simp [Usual]

theorem usual_other : Usual .other := by simp [Usual]

/-- What is written in place of a gap. -/
theorem laid_gap {joined blank : Bool} {token : TokenTree} {rest : List Document} {due left : Nat}
    {written : List Char} (plain : ∀ joint position, token ≠ .mark '.' joint position)
    (laid : Laid due (gap joined blank token ++ rest) written left) :
    ∃ front between onward, written = front ++ onward ∧ (front = [] ∨ front = ['\n']) ∧
      Laid between rest onward left ∧
      (joined = false → blank = true → front = ['\n'] ∨ 0 < between) ∧
      (joined = true ∨ blank = false → front = [] ∧ between = due) := by
  cases joined with
  | true => exact ⟨[], due, written, rfl, .inl rfl, laid, by simp, by simp⟩
  | false =>
      cases blank with
      | true =>
          cases laid with
          | kept onward =>
              exact ⟨[], _, written, rfl, .inl rfl, onward,
                fun _ _ => .inr (Nat.lt_of_lt_of_le (by decide) (Nat.le_add_left _ _)), by simp⟩
          | ended indent onward => exact ⟨['\n'], indent, _, rfl, .inr rfl, onward, by simp, by simp⟩
      | false =>
          have none : gap false false token = [] := by
            cases token with
            | mark character joint position =>
                by_cases dot : character = '.'
                · subst dot
                  exact absurd rfl (plain joint position)
                · simp [gap]
            | _ => rfl
          rw [none] at laid
          exact ⟨[], due, written, rfl, .inl rfl, laid, by simp, by simp⟩

theorem laid_text {text : String} {rest : List Document} {due left : Nat} {written : List Char}
    (laid : Laid due (.text text :: rest) written left) :
    ∃ onward, written = blanks due ++ text.toList ++ onward ∧ Laid 0 rest onward left := by
  cases laid with
  | text onward => exact ⟨_, rfl, onward⟩

/-- Blanks and a line end before a text do not change how it is cut. -/
theorem cuts_front {front text : List Char} {lexemes : List Lexer.Lexeme} (cuts : Cuts text lexemes)
    (blank : front = [] ∨ front = ['\n']) (due : Nat) :
    Cuts (front ++ (blanks due ++ text)) lexemes := by
  have onward := cuts.blanks due
  rcases blank with rfl | rfl
  · exact onward
  · exact onward.blank (by decide)

/-- Blanks or a line end before a text end a name. -/
theorem ends_front {front text : List Char} {due : Nat}
    (blank : front = [] ∨ front = ['\n']) (ends : front = ['\n'] ∨ 0 < due ∨ Ends text) :
    Ends (front ++ (blanks due ++ text)) := by
  rcases blank with rfl | rfl
  · cases due with
    | zero => simpa [blanks] using ends
    | succ due => exact Lexer.ends_cons (by decide) (by decide)
  · exact Lexer.ends_cons (by decide) (by decide)

theorem step_name {state : State} (usual : Usual state) (spelling : String)
    (position : Position) :
    ∃ blank next, step state (.name spelling position) = (blank, next) ∧ Usual next ∧
      next ≠ .colons ∧ (state ≠ .colons → blank = true) := by
  by_cases spaced : spelling ∈ spacedWords <;>
    cases state <;> simp_all [Usual, step]

theorem step_mark {state : State} (usual : Usual state) {character : Char}
    (simple : character ∈ [',', '<', '>']) (position : Position) :
    ∃ blank, step state (.mark character false position) = (blank, .other) := by
  simp only [List.mem_cons, List.not_mem_nil, or_false] at simple
  rcases simple with rfl | rfl | rfl <;> cases state <;> simp_all [Usual, step]

theorem step_colons {state : State} (usual : Usual state) (position : Position) :
    ∃ blank, step state (.mark ':' true position) = (blank, .colon) := by
  cases state <;> simp_all [Usual, step]

theorem step_group {state : State} (usual : Usual state) (opening closing : Position)
    (content : List TokenTree) :
    ∃ blank, step state (.group .parenthesis opening closing content) = (blank, .group) := by
  cases state <;> simp_all [Usual, step]

theorem written_parenthesized (opening closing : Position) (content : List TokenTree) :
    written (.group .parenthesis opening closing content) =
      .text "(" :: sequence .start true content ++ [.text ")"] := by
  cases content <;> rfl

/-- A token whose text is written first, behind what stands in place of the gap before it. -/
theorem laid_token {joined blank : Bool} {token : TokenTree} {text : String} {rest : List Document}
    {due left : Nat} {written : List Char}
    (plain : ∀ joint position, token ≠ .mark '.' joint position)
    (laid : Laid due (gap joined blank token ++ .text text :: rest) written left) :
    ∃ front between onward, written = front ++ (blanks between ++ (text.toList ++ onward)) ∧
      (front = [] ∨ front = ['\n']) ∧ Laid 0 rest onward left ∧
      (joined = false → blank = true → front = ['\n'] ∨ 0 < between) ∧
      (joined = true ∨ blank = false → front = [] ∧ between = due) := by
  obtain ⟨front, between, line, rfl, blank, laid, gapped, joins⟩ := laid_gap plain laid
  obtain ⟨onward, rfl, further⟩ := laid_text laid
  exact ⟨front, between, onward, by simp, blank, further, gapped, joins⟩

/-- Wherever the tokens are written, they are cut into themselves again, and what they write ends a
name that stands before them. -/
def Recut (tokens : List TokenTree) : Prop :=
  ∀ {state : State}, Usual state → ∀ {joined : Bool} {due left : Nat} {written after : List Char}
    {lexemes : List Lexer.Lexeme}, Laid due (sequence state joined tokens) written left →
    Cuts after lexemes → Ends after →
      Cuts (written ++ after) (flatAll tokens ++ lexemes) ∧
        (joined = false → state ≠ .colons → Ends (written ++ after))

section

variable {rest content : List TokenTree}

theorem recut_nil : Recut [] := by
  intro _ _ _ _ _ _ _ _ laid cuts ends
  cases laid
  exact ⟨cuts, fun _ _ => ends⟩

theorem recut_name {spelling : String} (named : IsName spelling.toList) (position : Position)
    (onward : Recut rest) : Recut (.name spelling position :: rest) := by
  intro state usual joined due left written after lexemes laid cuts ends
  obtain ⟨blank, next, stepped, usual, apart, spaced⟩ := step_name usual spelling position
  simp only [sequence, stepped, Spacing.written, isJoined, List.append_assoc,
    List.singleton_append] at laid
  obtain ⟨front, between, more, rfl, blanks, others, gapped, -⟩ := laid_token (by simp) laid
  obtain ⟨cuts, also⟩ := onward usual others cuts ends
  have tokens := cuts_front (cuts.name named (also rfl apart) position) blanks between
  simp only [List.append_assoc, flatAll, flat, String.ofList_toList, List.singleton_append]
    at tokens ⊢
  refine ⟨tokens, fun alone elsewhere => ends_front blanks ?_⟩
  rcases gapped alone (spaced elsewhere) with line | due
  · exact .inl line
  · exact .inr (.inl due)

theorem recut_mark {character : Char} (simple : character ∈ [',', '<', '>']) (position : Position)
    (onward : Recut rest) : Recut (.mark character false position :: rest) := by
  intro state usual joined due left written after lexemes laid cuts ends
  obtain ⟨blank, stepped⟩ := step_mark usual simple position
  have solid : ∀ other ∈ [',', '<', '>'], other ∈ Lexer.marks ∧ other ≠ '/' ∧
      other ≠ '\x27' ∧ other ≠ '.' ∧ other ≠ '$' ∧ isIdentifierContinue other = false ∧
      other ∉ ['\x22', '\x27', '#'] :=
    List.all_iff_forall_prop.mp (by decide)
  obtain ⟨mark, slash, quote, dot, dollar, stops, quiet⟩ := solid character simple
  simp only [sequence, stepped, Spacing.written, isJoined, List.append_assoc,
    List.singleton_append, Bool.false_or, dollar, decide_false] at laid
  obtain ⟨front, between, more, rfl, blanks, others, -⟩ := laid_token (by simp [dot]) laid
  obtain ⟨cuts, -⟩ := onward usual_other others cuts ends
  have tokens := cuts_front (cuts.mark mark slash quote position) blanks between
  simp only [List.append_assoc, flatAll, flat, String.toList_singleton, List.singleton_append]
    at tokens ⊢
  exact ⟨tokens, fun _ _ => ends_front blanks (.inr (.inr (Lexer.ends_cons stops quiet)))⟩

theorem recut_colons (first second : Position) (onward : Recut rest) :
    Recut (.mark ':' true first :: .mark ':' false second :: rest) := by
  intro state usual joined due left written after lexemes laid cuts ends
  obtain ⟨blank, stepped⟩ := step_colons usual first
  have again : step .colon (.mark ':' false second) = (false, .colons) := rfl
  simp only [sequence, stepped, again, Spacing.written, isJoined, List.append_assoc,
    List.singleton_append, Bool.true_or] at laid
  obtain ⟨front, between, more, rfl, blanks, others, -⟩ := laid_token (by simp) laid
  obtain ⟨_, _, more, rfl, -, further, -, joins⟩ := laid_token (by simp) others
  obtain ⟨rfl, rfl⟩ := joins (.inl rfl)
  obtain ⟨cuts, -⟩ := onward usual_colons further cuts ends
  have mark : ':' ∈ Lexer.marks ∧ ':' ≠ '/' ∧ ':' ≠ '\x27' := by decide
  have tokens := cuts_front
    ((cuts.mark mark.1 mark.2.1 mark.2.2 second).joint mark.1 mark.2.1 mark.2.2 rfl first)
    blanks between
  simp only [List.append_assoc, flatAll, flat, String.toList_singleton, List.singleton_append,
    List.nil_append, Layout.blanks, List.replicate_zero] at tokens ⊢
  refine ⟨tokens, fun _ _ => ends_front blanks (.inr (.inr ?_))⟩
  exact Lexer.ends_cons (by decide) (by decide)

theorem recut_group (opening closing : Position) (within : Recut content) (onward : Recut rest) :
    Recut (.group .parenthesis opening closing content :: rest) := by
  intro state usual joined due left written after lexemes laid cuts ends
  obtain ⟨blank, stepped⟩ := step_group usual opening closing content
  simp only [sequence, stepped, written_parenthesized, isJoined, List.append_assoc,
    List.cons_append, List.nil_append] at laid
  obtain ⟨front, between, more, rfl, blanks, others, -⟩ := laid_token (by simp) laid
  obtain ⟨middle, more, due, rfl, inner, others⟩ := others.split
  obtain ⟨more, rfl, further⟩ := laid_text others
  obtain ⟨cuts, -⟩ := onward usual_group further cuts ends
  have last := cuts_front (cuts.closing .parenthesis closing) (.inl rfl) due
  have stops : Ends ([] ++ (Layout.blanks due ++ ')' :: (more ++ after))) :=
    ends_front (.inl rfl) (.inr (.inr (Lexer.ends_cons (by decide) (by decide))))
  obtain ⟨content, -⟩ := within usual_start inner last stops
  have tokens := cuts_front (content.opening .parenthesis opening) blanks between
  simp only [List.append_assoc, flatAll, flat, List.nil_append, List.cons_append,
    Delimiter.opening, Delimiter.closing] at tokens ⊢
  refine ⟨tokens, fun _ _ => ends_front blanks (.inr (.inr ?_))⟩
  exact Lexer.ends_cons (by decide) (by decide)

end

/-- Tokens of which paths and calls are made are cut into themselves again. -/
theorem Plain.recut {tokens : List TokenTree} (plain : Plain tokens) : Recut tokens := by
  induction plain with
  | nil => exact recut_nil
  | name named onward ih => exact recut_name named _ ih
  | mark simple onward ih => exact recut_mark simple _ ih
  | colons onward ih => exact recut_colons _ _ ih
  | group within onward inner ih => exact recut_group _ _ inner ih

end Spacing

end RecordRegistry
