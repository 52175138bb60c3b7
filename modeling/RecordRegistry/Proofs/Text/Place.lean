/-
# Places in the lines of a text

The place that follows a piece of text, counted character by character, is what one finds by looking
at the lines of the text: the line is the one that the piece breaks off in, and the column counts
what the piece holds of that line.
-/

import Mathlib
import RecordRegistry.Token

namespace RecordRegistry

namespace Position

variable {first second third : Position} {character : Char} {text before after spelling : List Char}

/-- A place comes before another one: in an earlier line, or further left in the same line. -/
def Precedes (first second : Position) : Prop :=
  first.line < second.line ∨ first.line = second.line ∧ first.column < second.column

instance : DecidableRel Precedes := fun first second =>
  inferInstanceAs (Decidable
    (first.line < second.line ∨ first.line = second.line ∧ first.column < second.column))

theorem Precedes.trans (one : Precedes first second) (other : Precedes second third) :
    Precedes first third := by
  unfold Precedes at *
  omega

theorem Precedes.asymm (one : Precedes first second) : ¬ Precedes second first := by
  unfold Precedes at *
  omega

theorem not_precedes_self (position : Position) : ¬ Precedes position position := by
  unfold Precedes
  omega

theorem precedes_next (position : Position) (character : Char) :
    Precedes position (position.next character) := by
  unfold next
  split
  · exact .inl (Nat.lt_succ_self _)
  · exact .inr ⟨rfl, Nat.lt_succ_self _⟩

/-- Whatever comes next, it leads on. -/
theorem precedes_advance (position : Position) (there : text ≠ []) :
    Precedes position (position.advance text) := by
  induction text generalizing position with
  | nil => contradiction
  | cons character rest ih =>
      rw [advance_cons]
      cases rest with
      | nil => exact precedes_next position character
      | cons other rest => exact (precedes_next position character).trans (ih _ (by simp))

/-- The given characters stand at a place of a text: the text has that many lines, a line feed being
what separates two lines, the line has that many characters, and from the one at the column on they
are the given ones. -/
def Marks (position : Position) (text spelling : List Char) : Prop :=
  ∃ line, 1 ≤ position.line ∧ (text.splitOn '\n')[position.line - 1]? = some line ∧
    1 ≤ position.column ∧ position.column ≤ line.length ∧
    spelling <+: line.drop (position.column - 1)

theorem splitOn_cons_break (rest : List Char) :
    ('\n' :: rest).splitOn '\n' = [] :: rest.splitOn '\n' := by
  simp [List.splitOn, List.splitOnP_cons_eq_if_modifyHead]

theorem splitOn_cons_other (other : character ≠ '\n') (rest : List Char) :
    (character :: rest).splitOn '\n' = (rest.splitOn '\n').modifyHead (character :: ·) := by
  simp [List.splitOn, List.splitOnP_cons_eq_if_modifyHead, other]

theorem modifyHead_id (lines : List (List Char)) : lines.modifyHead (fun line => line) = lines := by
  cases lines <;> rfl

theorem splitOn_append (plain : '\n' ∉ spelling) (rest : List Char) :
    (spelling ++ rest).splitOn '\n' = (rest.splitOn '\n').modifyHead (spelling ++ ·) := by
  induction spelling with
  | nil => exact (modifyHead_id _).symm
  | cons character spelling ih =>
      rw [List.mem_cons, not_or] at plain
      rw [List.cons_append, splitOn_cons_other (Ne.symm plain.1), ih plain.2, List.modifyHead_modifyHead]
      rfl

/-- A piece of text holds some whole lines and the beginning of one. The place that follows it
counts both, and every continuation goes on in that line. -/
theorem exists_lines (before : List Char) :
    ∃ lines begun, start.advance before = ⟨lines.length + 1, begun.length + 1⟩ ∧
      ∀ rest, (before ++ rest).splitOn '\n' =
        lines ++ (rest.splitOn '\n').modifyHead (begun ++ ·) := by
  induction before using List.reverseRecOn with
  | nil => exact ⟨[], [], rfl, fun rest => (modifyHead_id _).symm⟩
  | append_singleton before character ih =>
      obtain ⟨lines, begun, place, split⟩ := ih
      by_cases breaks : character = '\n'
      · subst breaks
        refine ⟨lines ++ [begun], [], ?_, fun rest => ?_⟩
        · simp [advance_append, place, next]
        · rw [List.append_assoc, split, List.singleton_append, splitOn_cons_break]
          cases rest.splitOn '\n' <;> simp
      · refine ⟨lines, begun ++ [character], ?_, fun rest => ?_⟩
        · simp [advance_append, place, next, breaks]
        · rw [List.append_assoc, split, List.singleton_append, splitOn_cons_other breaks]
          cases rest.splitOn '\n' <;> simp

/-- A piece of a text begins at a place: at the one that follows what the text holds before it. -/
def Begins (position : Position) (text piece : List Char) : Prop :=
  ∃ before after, text = before ++ piece ++ after ∧ position = start.advance before

/-- What begins at a place, and breaks no line, is what stands there in the lines of the text. -/
theorem Begins.marks {position : Position} (begins : position.Begins text spelling)
    (there : spelling ≠ []) (plain : '\n' ∉ spelling) : position.Marks text spelling := by
  obtain ⟨before, after, same, rfl⟩ := begins
  obtain ⟨lines, begun, place, split⟩ := exists_lines before
  obtain ⟨rest, others, parts⟩ := List.exists_cons_of_ne_nil (List.splitOn_ne_nil '\n' after)
  have whole : text.splitOn '\n' = lines ++ (begun ++ (spelling ++ rest)) :: others := by
    rw [same, List.append_assoc, split, splitOn_append plain, parts]
    rfl
  refine ⟨begun ++ (spelling ++ rest), ?_⟩
  have long := List.length_pos_of_ne_nil there
  rw [whole, place]
  refine ⟨by simp, by simp, by simp, ?_, ?_⟩
  · simp only [List.length_append]
    omega
  · simp

/-- Dropping the first line up to its end leaves an empty line in its place. -/
theorem exists_lines_dropWhile (text : List Char) :
    ∃ others, text.splitOn '\n' = text.takeWhile (· != '\n') :: others ∧
      (text.dropWhile (· != '\n')).splitOn '\n' = [] :: others := by
  induction text with
  | nil => exact ⟨[], rfl, rfl⟩
  | cons character rest ih =>
      by_cases breaks : character = '\n'
      · subst breaks
        exact ⟨rest.splitOn '\n', splitOn_cons_break rest, splitOn_cons_break rest⟩
      · obtain ⟨others, lines, left⟩ := ih
        refine ⟨others, ?_, ?_⟩
        · simp [splitOn_cons_other breaks, lines, breaks]
        · simpa [breaks] using left

/-- As nothing stands in an empty line, what stands in the remaining text stands in the whole one. -/
theorem Marks.of_dropWhile {position : Position}
    (marks : position.Marks (text.dropWhile (· != '\n')) spelling) : position.Marks text spelling := by
  obtain ⟨line, first, there, left, long, stands⟩ := marks
  obtain ⟨others, lines, remaining⟩ := exists_lines_dropWhile text
  rw [remaining] at there
  refine ⟨line, first, ?_, left, long, stands⟩
  cases number : position.line - 1 with
  | zero =>
      rw [number] at there
      obtain rfl := Option.some.inj there
      exact absurd (left.trans long) (by simp)
  | succ before =>
      rw [number] at there
      rw [lines]
      exact there

end Position

end RecordRegistry
