/-
# How a setting is read

A setting is literal text and references in turn.  A reference starts at the first opening that does
not belong to an earlier reference and ends at the next closing brace; what stands between is its
name, whatever it is.  Every setting is read in one way, and its expansion puts texts in the place
of the references, or fails for the first reference that has no text or no end.
-/

import Mathlib.Data.List.Infix
import RecordRegistry.Proofs.Results
import RecordRegistry.Settings.Expansion

namespace RecordRegistry

namespace Expansion

/-- What a reference starts with. -/
def opening : List Char := ['$', '\x7b']

/-- A part of a setting. -/
inductive Part
  | literal (text : List Char)
  | reference (name : String)
  /-- A reference that is not ended. -/
  | unterminated
  deriving DecidableEq, Repr

/-- How the characters of a setting are read. -/
inductive Reads : List Char → List Part → Prop
  | literal {text : List Char} (plain : ¬ opening <:+: text) : Reads text [.literal text]
  | reference {text name rest : List Char} {parts : List Part} (plain : ¬ opening <:+: text)
      (inside : '\x7d' ∉ name) (onward : Reads rest parts) :
      Reads (text ++ (opening ++ (name ++ '\x7d' :: rest)))
        (.literal text :: .reference (String.ofList name) :: parts)
  | unterminated {text rest : List Char} (plain : ¬ opening <:+: text) (endless : '\x7d' ∉ rest) :
      Reads (text ++ (opening ++ rest)) [.literal text, .unterminated]

/-- The text that a part stands for. -/
def Part.text (lookup : Lookup) (value : String) : Part → Except ExpansionError (List Char)
  | literal text => .ok text
  | reference name => ((lookup name).map String.toList).mapError (.noText name)
  | unterminated => .error (.unterminated value)

/-- The pieces that a part is cut into. -/
def Part.pieces : Part → List Piece
  | literal text => text.map .literal
  | reference name => [.reference name]
  | unterminated => [.unterminated]

variable {text other name before rest more chars : List Char} {parts others : List Part}
  {lookup : Lookup} {value : String}

/-- Where an opening stands in a text, there is a first one. -/
theorem exists_first_opening (inside : opening <:+: chars) :
    ∃ text rest, chars = text ++ (opening ++ rest) ∧ ¬ opening <:+: text := by
  induction chars with
  | nil => simp [opening] at inside
  | cons character chars ih =>
      by_cases here : opening <+: character :: chars
      · obtain ⟨rest, same⟩ := here
        exact ⟨[], rest, same.symm, by simp [opening]⟩
      · obtain ⟨text, rest, rfl, plain⟩ := ih ((List.infix_cons_iff.mp inside).resolve_left here)
        refine ⟨character :: text, rest, rfl, fun found => ?_⟩
        rcases List.infix_cons_iff.mp found with first | later
        · exact here (first.trans (List.prefix_append (character :: text) _))
        · exact plain later

/-- What stands between two first openings of one text is nothing. -/
theorem eq_nil_of_openings {between : List Char} (plain : ¬ opening <:+: text ++ between)
    (same : opening ++ rest = between ++ (opening ++ more)) : between = [] := by
  match between, same with
  | [], _ => rfl
  | [first], same => simp [opening] at same
  | first :: second :: between, same =>
      obtain ⟨rfl, rfl, -⟩ : '$' = first ∧ '\x7b' = second ∧ _ := by simpa [opening] using same
      exact absurd ⟨text, between, by simp [opening]⟩ plain

/-- A text has one first opening. -/
theorem first_opening_inj (plain : ¬ opening <:+: text) (also : ¬ opening <:+: other)
    (same : text ++ (opening ++ rest) = other ++ (opening ++ more)) : text = other ∧ rest = more := by
  rcases List.append_eq_append_iff.mp same with ⟨between, rfl, onward⟩ | ⟨between, rfl, onward⟩
  · obtain rfl := eq_nil_of_openings also onward
    simpa using onward
  · obtain rfl := eq_nil_of_openings plain onward
    simpa using onward.symm

/-- A text has one first closing brace. -/
theorem first_closing_inj (inside : '\x7d' ∉ text) (also : '\x7d' ∉ other)
    (same : text ++ '\x7d' :: rest = other ++ '\x7d' :: more) : text = other ∧ rest = more := by
  induction text generalizing other with
  | nil =>
      cases other with
      | nil => simpa using same
      | cons first other => simp [← (List.cons.inj same).1] at also
  | cons first text ih =>
      cases other with
      | nil => simp [(List.cons.inj same).1] at inside
      | cons second other =>
          obtain ⟨rfl, onward⟩ := List.cons.inj same
          obtain ⟨rfl, rest⟩ := ih (fun found => inside (.tail _ found))
            (fun found => also (.tail _ found)) onward
          exact ⟨rfl, rest⟩

theorem infix_opening (text rest : List Char) : opening <:+: text ++ (opening ++ rest) :=
  ⟨text, rest, List.append_assoc ..⟩

theorem exists_reads (chars : List Char) : ∃ parts, Reads chars parts := by
  -- What stands behind a reference is shorter.
  induction size : chars.length using Nat.strong_induction_on generalizing chars with
  | _ length ih =>
      by_cases referring : opening <:+: chars
      · obtain ⟨text, behind, rfl, plain⟩ := exists_first_opening referring
        by_cases ended : '\x7d' ∈ behind
        · obtain ⟨name, rest, rfl, inside⟩ := List.eq_append_cons_of_mem ended
          have shorter : rest.length < length := by
            simp [opening] at size
            omega
          obtain ⟨parts, onward⟩ := ih rest.length shorter rest rfl
          exact ⟨_, .reference plain inside onward⟩
        · exact ⟨_, .unterminated plain ended⟩
      · exact ⟨_, .literal referring⟩

theorem Reads.unique (reads : Reads chars parts) {same : List Char} (also : Reads same others)
    (eq : chars = same) : parts = others := by
  induction reads generalizing same others with
  | literal plain =>
      cases also with
      | literal _ => rw [eq]
      | reference _ _ _ => exact absurd (eq ▸ infix_opening _ _) plain
      | unterminated _ _ => exact absurd (eq ▸ infix_opening _ _) plain
  | reference plain inside onward ih =>
      cases also with
      | literal alsoPlain => exact absurd (eq ▸ infix_opening _ _) alsoPlain
      | reference alsoPlain alsoInside alsoOnward =>
          obtain ⟨rfl, behind⟩ := first_opening_inj plain alsoPlain eq
          obtain ⟨rfl, later⟩ := first_closing_inj inside alsoInside behind
          rw [ih alsoOnward later]
      | unterminated alsoPlain endless =>
          obtain ⟨-, rfl⟩ := first_opening_inj plain alsoPlain eq
          simp at endless
  | unterminated plain endless =>
      cases also with
      | literal alsoPlain => exact absurd (eq ▸ infix_opening _ _) alsoPlain
      | reference alsoPlain _ _ =>
          obtain ⟨-, rfl⟩ := first_opening_inj plain alsoPlain eq
          simp at endless
      | unterminated alsoPlain _ =>
          obtain ⟨rfl, -⟩ := first_opening_inj plain alsoPlain eq
          rfl

/-- Text without an opening is literal, and does not open together with what follows. -/
theorem pieces_of_plain (plain : ¬ opening <:+: text) (apart : rest.head? ≠ some '\x7b') :
    pieces none (text ++ rest) = text.map .literal ++ pieces none rest := by
  induction text with
  | nil => rfl
  | cons character text ih =>
      have unopened (more : List Char) : character = '$' → text ++ rest = '\x7b' :: more → False := by
        rintro rfl same
        cases text with
        | nil => exact apart (by simp_all)
        | cons second text =>
            obtain ⟨rfl, -⟩ := List.cons.inj same
            exact plain ⟨[], text, rfl⟩
      rw [List.cons_append, pieces.eq_2 _ _ unopened,
        ih fun found => plain (List.infix_cons found)]
      rfl

theorem pieces_of_name (inside : '\x7d' ∉ name) :
    pieces (some before) (name ++ '\x7d' :: rest) =
      .reference (String.ofList (before.reverse ++ name)) :: pieces none rest := by
  induction name generalizing before with
  | nil => simp [pieces]
  | cons character name ih =>
      have going : character ≠ '\x7d' := fun same => inside (same ▸ List.mem_cons_self)
      rw [List.cons_append, pieces.eq_5 _ _ _ going, ih fun found => inside (.tail _ found)]
      simp

theorem pieces_of_endless (endless : '\x7d' ∉ rest) : pieces (some before) rest = [.unterminated] := by
  induction rest generalizing before with
  | nil => rfl
  | cons character rest ih =>
      have going : character ≠ '\x7d' := fun same => endless (same ▸ List.mem_cons_self)
      rw [pieces.eq_5 _ _ _ going, ih fun found => endless (.tail _ found)]

/-- A setting is cut into the pieces of its parts. -/
theorem Reads.pieces (reads : Reads chars parts) :
    Expansion.pieces none chars = parts.flatMap Part.pieces := by
  have opened (behind : List Char) :
      Expansion.pieces none (opening ++ behind) = Expansion.pieces (some []) behind := rfl
  induction reads with
  | @literal text plain =>
      have all := @pieces_of_plain text [] plain (by simp)
      simpa [Expansion.pieces, Part.pieces] using all
  | reference plain inside onward ih =>
      rw [pieces_of_plain plain (by simp [opening]), opened, pieces_of_name inside, ih]
      simp [Part.pieces]
  | unterminated plain endless =>
      rw [pieces_of_plain plain (by simp [opening]), opened, pieces_of_endless endless]
      simp [Part.pieces]

/-- The text of a setting that has been cut into pieces. -/
def joined (lookup : Lookup) (value : String) (pieces : List Piece) :
    Except ExpansionError (List Char) :=
  List.flatten <$> pieces.mapM (Piece.expand lookup value)

theorem joined_append (pieces behind : List Piece) :
    joined lookup value (pieces ++ behind) =
      (do return (← joined lookup value pieces) ++ (← joined lookup value behind)) := by
  unfold joined
  rw [List.mapM_append]
  cases pieces.mapM (Piece.expand lookup value) with
  | error error => rfl
  | ok texts =>
      cases behind.mapM (Piece.expand lookup value) <;> simp [Functor.map, Except.map]

theorem joined_literals (text : List Char) :
    joined lookup value (text.map .literal) = .ok text := by
  induction text with
  | nil => rfl
  | cons character text ih =>
      rw [List.map_cons, ← List.singleton_append, joined_append, ih]
      rfl

/-- The pieces of a part come to its text. -/
theorem joined_pieces (part : Part) : joined lookup value part.pieces = part.text lookup value := by
  cases part with
  | literal text => exact joined_literals text
  | reference name =>
      cases found : lookup name <;>
        simp [joined, Part.pieces, Part.text, Piece.expand, found, Except.map]
  | unterminated => rfl

theorem joined_flatMap (parts : List Part) :
    joined lookup value (parts.flatMap Part.pieces) =
      List.flatten <$> parts.mapM (Part.text lookup value) := by
  induction parts with
  | nil => rfl
  | cons part parts ih =>
      rw [List.flatMap_cons, joined_append, joined_pieces, ih, List.mapM_cons]
      cases part.text lookup value with
      | error error => rfl
      | ok text => cases parts.mapM (Part.text lookup value) <;> rfl

theorem expandWith_eq : expandWith lookup value =
    String.ofList <$> joined lookup value (pieces none value.toList) := by
  unfold expandWith joined
  cases (pieces none value.toList).mapM (Piece.expand lookup value) <;> rfl

/-- A setting is expanded part by part. -/
theorem expandWith_of_reads (reads : Reads value.toList parts) : expandWith lookup value =
    (fun texts => String.ofList texts.flatten) <$> parts.mapM (Part.text lookup value) := by
  rw [expandWith_eq, reads.pieces, joined_flatMap]
  cases parts.mapM (Part.text lookup value) <;> rfl

/-- The end of one text and the start of the next do not make an opening. -/
def Apart (first second : List Char) : Prop :=
  ¬ (first.getLast? = some '$' ∧ second.head? = some '\x7b')

theorem Apart.tail {first : Char} (apart : Apart (first :: chars) rest) : Apart chars rest :=
  fun ⟨last, head⟩ => apart ⟨by simp [List.getLast?_cons, last], head⟩

/-- Where all references end, what follows does not change the pieces. -/
theorem pieces_append {reading : Option (List Char)}
    (ended : .unterminated ∉ pieces reading chars) (apart : Apart chars rest) :
    pieces reading (chars ++ rest) = pieces reading chars ++ pieces none rest := by
  fun_induction pieces reading chars with
  | case1 chars ih => exact ih ended apart.tail.tail
  | case2 character chars unopened ih =>
      have still (more : List Char) : character = '$' → chars ++ rest = '\x7b' :: more → False := by
        intro dollar brace
        cases chars with
        | nil => exact apart ⟨by simp [dollar], by simp_all⟩
        | cons second chars => exact unopened chars dollar (by simp [(List.cons.inj brace).1])
      rw [List.cons_append, pieces.eq_2 _ _ still,
        ih (fun found => ended (.tail _ found)) apart.tail, List.cons_append]
  | case3 => rfl
  | case4 name chars ih =>
      rw [List.cons_append, pieces.eq_4, ih (fun found => ended (.tail _ found)) apart.tail,
        List.cons_append]
  | case5 name character chars going ih =>
      rw [List.cons_append, pieces.eq_5 _ _ _ going, ih ended apart.tail]
  | case6 => exact absurd (.head _) ended

theorem joined_eq_ok_iff {pieces : List Piece} {text : List Char} :
    joined lookup value pieces = .ok text ↔
      ∃ texts, List.Forall₂ (fun piece text => piece.expand lookup value = .ok text) pieces texts ∧
        text = texts.flatten := by
  simp only [← mapM_eq_ok_iff, joined]
  cases pieces.mapM (Piece.expand lookup value) <;> simp [Functor.map, Except.map, eq_comm]

theorem expandWith_eq_ok_iff {text : String} : expandWith lookup value = .ok text ↔
    joined lookup value (pieces none value.toList) = .ok text.toList := by
  rw [expandWith_eq]
  cases joined lookup value (pieces none value.toList) <;>
    simp [Functor.map, Except.map, ← String.toList_inj]

/-- The setting itself is only read for an error. -/
theorem joined_of_ok {pieces : List Piece} {text : List Char}
    (succeeds : joined lookup value pieces = .ok text) (other : String) :
    joined lookup other pieces = .ok text := by
  obtain ⟨texts, each, rfl⟩ := joined_eq_ok_iff.mp succeeds
  refine joined_eq_ok_iff.mpr ⟨texts, each.imp fun piece text expanded => ?_, rfl⟩
  cases piece with
  | literal character => exact expanded
  | reference name => exact expanded
  | unterminated => cases expanded

theorem notMem_unterminated {pieces : List Piece} {text : List Char}
    (succeeds : joined lookup value pieces = .ok text) : .unterminated ∉ pieces := by
  obtain ⟨texts, each, rfl⟩ := joined_eq_ok_iff.mp succeeds
  have sound : ∀ piece ∈ pieces, ∃ text, piece.expand lookup value = .ok text :=
    forall_mem_of_forall₂ (fun text _ expanded => ⟨text, expanded⟩) each.flip
  intro found
  obtain ⟨_, failed⟩ := sound _ found
  cases failed

/-- Settings that can be expanded are expanded one after the other, if they do not open a reference
together. -/
theorem expandWith_append {other text more : String} (apart : Apart value.toList other.toList)
    (succeeds : expandWith lookup value = .ok text) (also : expandWith lookup other = .ok more) :
    expandWith lookup (value ++ other) = .ok (text ++ more) := by
  rw [expandWith_eq_ok_iff] at succeeds also ⊢
  rw [String.toList_append, pieces_append (notMem_unterminated succeeds) apart, joined_append,
    joined_of_ok succeeds, joined_of_ok also, String.toList_append]
  rfl

end Expansion

open Expansion

/-- Every setting has one reading.  If all its references end at names that have texts, it is
expanded to its literal text with these texts in their places, as they are; and otherwise the error
is that of its first reference which has no text or no end.  So text without an opening stays as it
is, and settings that can be expanded and do not open a reference together are expanded one after
the other. -/
theorem expandWith_reads (lookup : Lookup) (value : String) :
    ∃ parts, Reads value.toList parts ∧
      (∀ others, Reads value.toList others → others = parts) ∧
      (∀ text, expandWith lookup value = .ok text ↔
        ∃ texts, List.Forall₂ (fun part text => part.text lookup value = .ok text) parts texts ∧
          text.toList = texts.flatten) ∧
      (∀ error, expandWith lookup value = .error error ↔
        ∃ before part after, parts = before ++ part :: after ∧
          (∀ earlier ∈ before, ∃ text, earlier.text lookup value = .ok text) ∧
          part.text lookup value = .error error) ∧
      (¬ opening <:+: value.toList → expandWith lookup value = .ok value) ∧
      ∀ other text more, Apart value.toList other.toList → expandWith lookup value = .ok text →
        expandWith lookup other = .ok more →
        expandWith lookup (value ++ other) = .ok (text ++ more) := by
  obtain ⟨parts, reads⟩ := exists_reads value.toList
  have expanded := @expandWith_of_reads _ lookup value reads
  refine ⟨parts, reads, fun others also => also.unique reads rfl, fun text => ?_, fun error => ?_,
    fun plain => ?_, fun other text more apart succeeds also => expandWith_append apart succeeds also⟩
  · rw [expanded]
    simp only [← mapM_eq_ok_iff]
    cases parts.mapM (Part.text lookup value) <;>
      simp [Functor.map, Except.map, ← String.toList_inj, eq_comm]
  · rw [expanded, ← mapM_eq_error_iff]
    cases parts.mapM (Part.text lookup value) <;> simp [Functor.map, Except.map]
  · rw [expandWith_of_reads (.literal plain)]
    simp [Part.text, Functor.map, Except.map]

/-- A setting refers to a variable. -/
def Refers (value name : String) : Prop :=
  ∃ parts, Reads value.toList parts ∧ .reference name ∈ parts

/-- Variables that a setting does not refer to do not count. -/
theorem expand_congr {environment other : Environment} {value : String}
    (agree : ∀ name, Refers value name → environment.get? name = other.get? name) :
    expand environment value = expand other value := by
  obtain ⟨parts, reads⟩ := exists_reads value.toList
  have same : ∀ part ∈ parts,
      part.text environment.lookup value = part.text other.lookup value := by
    intro part inside
    cases part with
    | literal text => rfl
    | reference name => simp only [Part.text, Environment.lookup, agree name ⟨parts, reads, inside⟩]
    | unterminated => rfl
  rw [expand, expand, expandWith_of_reads reads, expandWith_of_reads reads, mapM_congr same]

/-- What is put in the place of a reference is not read again. -/
example : expand [("OUT", "$\x7bDIR\x7d$")] "$$\x7bOUT\x7d\x7bDIR\x7d" =
    .ok "$$\x7bDIR\x7d$\x7bDIR\x7d" := by
  decide +kernel

end RecordRegistry
