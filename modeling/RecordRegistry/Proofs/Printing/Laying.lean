/-
# What a layout may write

Where lines end depends on widths, but what a document writes besides that does not.  `Laid` is the
relation between documents and all texts that they may become, whichever of their lines end; the
text that is written is one of them.  Blanks that are due before a line end are not written.
-/

import Mathlib.Tactic.Common
import RecordRegistry.Rendering

namespace RecordRegistry

namespace Layout

/-- A number of blanks. -/
def blanks (count : Nat) : List Char := List.replicate count ' '

/-- What some documents may write while a number of blanks is due, and how many blanks are due
after them. -/
inductive Laid : Nat → List Document → List Char → Nat → Prop
  | nil {due : Nat} : Laid due [] [] due
  | text {due left : Nat} {text : String} {rest : List Document} {written : List Char}
      (onward : Laid 0 rest written left) :
      Laid due (.text text :: rest) (blanks due ++ text.toList ++ written) left
  /-- The line goes on. -/
  | kept {due left : Nat} {kind : Break} {rest : List Document} {written : List Char}
      (onward : Laid (due + kind.width) rest written left) :
      Laid due (.gap kind :: rest) written left
  /-- The line ends, and the next one is indented. -/
  | ended {due left : Nat} {kind : Break} {rest : List Document} {written : List Char}
      (indent : Nat) (onward : Laid indent rest written left) :
      Laid due (.gap kind :: rest)
        ((if kind.ending = "" then [] else blanks due ++ kind.ending.toList) ++ '\n' :: written)
        left
  | box {due between left : Nat} {indent : Int} {filling : Filling}
      {content rest : List Document} {inside written : List Char}
      (within : Laid due content inside between) (onward : Laid between rest written left) :
      Laid due (.box indent filling content :: rest) (inside ++ written) left

namespace Laid

variable {due between left : Nat} {first second : List Document} {written more : List Char}

/-- What two sequences write one after the other. -/
theorem append (one : Laid due first written between) (other : Laid between second more left) :
    Laid due (first ++ second) (written ++ more) left := by
  induction one with
  | nil => exact other
  | text onward ih =>
      rw [List.cons_append, List.append_assoc]
      exact .text (ih other)
  | kept onward ih => exact .kept (ih other)
  | ended indent onward ih =>
      rw [List.cons_append, List.append_assoc, List.cons_append]
      exact .ended indent (ih other)
  | box inside onward _ ih =>
      rw [List.cons_append, List.append_assoc]
      exact .box inside (ih other)

/-- What a sequence writes is what its parts write. -/
theorem split (whole : Laid due (first ++ second) written left) :
    ∃ one other middle, written = one ++ other ∧ Laid due first one middle ∧
      Laid middle second other left := by
  induction first generalizing due written with
  | nil => exact ⟨[], written, due, rfl, .nil, whole⟩
  | cons document rest ih =>
      cases whole with
      | text onward =>
          obtain ⟨one, other, middle, rfl, before, after⟩ := ih onward
          exact ⟨_, other, middle, by simp, .text before, after⟩
      | kept onward =>
          obtain ⟨one, other, middle, rfl, before, after⟩ := ih onward
          exact ⟨one, other, middle, rfl, .kept before, after⟩
      | ended indent onward =>
          obtain ⟨one, other, middle, rfl, before, after⟩ := ih onward
          exact ⟨_, other, middle, by simp, .ended indent before, after⟩
      | box within onward =>
          obtain ⟨one, other, middle, rfl, before, after⟩ := ih onward
          exact ⟨_, other, middle, by simp, .box within before, after⟩

end Laid

namespace Page

/-- The characters of a page. -/
def characters (page : Page) : List Char := page.written.reverse.flatMap String.toList

theorem toList_text (page : Page) : page.text.toList = page.characters := by
  unfold text characters
  generalize page.written.reverse = written
  induction written with
  | nil => rfl
  | cons first rest ih => simp [String.join_cons, ih]

theorem characters_writeDue (page : Page) :
    page.writeDue.characters = page.characters ++ blanks page.due := by
  unfold writeDue
  split
  · next none => simp [none, blanks]
  · simp [characters, blanks]

theorem characters_write (page : Page) (text : String) :
    (page.write text).characters = page.characters ++ (blanks page.due ++ text.toList) := by
  have due := page.characters_writeDue
  unfold characters at due
  simp [write, characters, due]

@[simp] theorem due_write (page : Page) (text : String) : (page.write text).due = 0 := by
  unfold write writeDue
  split
  · assumption
  · rfl

theorem characters_endLine (page : Page) (indent : Int) (kind : Break) :
    (page.endLine indent kind).characters = page.characters ++
      ((if kind.ending = "" then [] else blanks page.due ++ kind.ending.toList) ++ ['\n']) := by
  have due := page.characters_writeDue
  unfold characters at due
  unfold endLine
  by_cases none : kind.ending = ""
  · simp [none, characters]
  · simp [none, characters, due]

end Page

mutual

/-- What is written for one document is one of the texts that it may become. -/
theorem laid_place (frame : Frame) (indent : Int) (after : Nat) (document : Document)
    (page : Page) :
    ∃ written, Laid page.due [document] written (place frame indent after document page).due ∧
      (place frame indent after document page).characters = page.characters ++ written := by
  cases document with
  | text text =>
      rw [place]
      refine ⟨_, .text (by simpa using Laid.nil), ?_⟩
      simp [Page.characters_write]
  | gap kind =>
      rw [place]
      split
      · exact ⟨[], .kept .nil, by simp [Page.skip, Page.characters]⟩
      · exact ⟨_, .ended _ .nil, page.characters_endLine indent kind⟩
  | box more filling content =>
      rw [place]
      split
      · obtain ⟨written, laid, wrote⟩ := laid_placeAll .fits indent after content page
        exact ⟨written ++ [], .box laid .nil, by simpa using wrote⟩
      · obtain ⟨written, laid, wrote⟩ :=
          laid_placeAll (.broken (indent + more) filling) (indent + more) after content page
        exact ⟨written ++ [], .box laid .nil, by simpa using wrote⟩

/-- What is written for some documents is one of the texts that they may become. -/
theorem laid_placeAll (frame : Frame) (indent : Int) (after : Nat) (documents : List Document)
    (page : Page) :
    ∃ written, Laid page.due documents written (placeAll frame indent after documents page).due ∧
      (placeAll frame indent after documents page).characters = page.characters ++ written := by
  cases documents with
  | nil => exact ⟨[], .nil, by simp [placeAll]⟩
  | cons document rest =>
      rw [placeAll]
      obtain ⟨first, one, wrote⟩ :=
        laid_place frame indent (widthToBreak after rest) document page
      obtain ⟨second, other, also⟩ := laid_placeAll frame indent after rest
        (place frame indent (widthToBreak after rest) document page)
      exact ⟨first ++ second, one.append other, by simp [also, wrote]⟩

end

/-- Lines that each have to end are written as they are in a box of which every line ends. -/
theorem characters_placeAll_lines (texts : List String) (rest : List Document) (after : Nat)
    (page : Page) (none : page.due = 0) :
    ∃ next, next.due = 0 ∧
      placeAll (.broken 0 .consistent) 0 after (Rendering.lines texts ++ rest) page =
        placeAll (.broken 0 .consistent) 0 after rest next ∧
      next.characters =
        page.characters ++ texts.flatMap fun text => text.toList ++ ['\n'] := by
  induction texts generalizing page with
  | nil => exact ⟨page, none, rfl, by simp⟩
  | cons text texts ih =>
      obtain ⟨next, due, same, wrote⟩ := ih ((page.write text).endLine 0 (.line 0)) rfl
      refine ⟨next, due, ?_, ?_⟩
      · rw [← same]
        simp [Rendering.lines, placeAll, place, Frame.isOnOneLine]
      · simp [wrote, Page.characters_endLine, Page.characters_write, none, blanks, Break.line]

theorem widthAll_append (first second : List Document) :
    widthAll (first ++ second) = widthAll first + widthAll second := by
  induction first with
  | nil => simp [widthAll]
  | cons document rest ih => simp [widthAll, ih, Nat.add_assoc]

/-- A document that begins with lines that have to end. -/
theorem toList_render_lines (text : String) (texts : List String) (rest : List Document) :
    ∃ written left, Laid 0 rest written left ∧
      (Document.box 0 .consistent (Rendering.lines (text :: texts) ++ rest)).render.toList =
        ((text :: texts).flatMap fun text => text.toList ++ ['\n']) ++ written := by
  have wide : ¬((widthAll (Rendering.lines (text :: texts) ++ rest) + 0 : Nat) : Int) ≤
      Page.empty.room := by
    have forced : unbounded ≤ widthAll (Rendering.lines (text :: texts)) := by
      simp [Rendering.lines, widthAll, width, Break.width, Break.line]
      omega
    rw [widthAll_append]
    simp only [Page.empty, lineWidth, unbounded] at *
    omega
  obtain ⟨next, due, same, wrote⟩ :=
    characters_placeAll_lines (text :: texts) rest 0 .empty rfl
  obtain ⟨written, laid, also⟩ := laid_placeAll (.broken 0 .consistent) 0 0 rest next
  rw [due] at laid
  refine ⟨written, _, laid, ?_⟩
  rw [Document.render, Page.toList_text, place, if_neg wide]
  simp only [Int.add_zero, same, also, wrote]
  rfl

end Layout

end RecordRegistry
