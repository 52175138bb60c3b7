/-
# Reading past what declares nothing

Most productions take no token that an outline would list, so that after them the outline of what
remains is the outline from before.  `Skips` states this for one parser as a triple; the content of
groups does not matter to it, nor does what happens if the parser fails.  Two things have to be
followed on the way.  A production may end with the word that declares something if a name follows,
which holds until another token has been taken.  And where it is to be told whether a type is an
alias, the angle brackets are counted.
-/

import Mathlib
import RecordRegistry.Proofs.Outline.Outline
import RecordRegistry.Proofs.Provenance.Item

namespace RecordRegistry

open Std.Do

set_option mvcgen.warning false

namespace Outline

/-- Whether a name that comes next might be taken for the name of a type, because of the token before
it. -/
inductive Edge
  | clear
  | ragged

/-- How far the tokens of an alias have been followed, if it is to be told whether there is one:
whether constraints have begun, and the depth of the angle brackets. -/
abbrev Scan := Option (Bool × Nat)

namespace Scan

variable {scan : Scan} {sought : Sought} {marks : String}

def opened (scan : Scan) : Scan := scan.map fun (constrained, depth) => (constrained, depth + 1)

def closed (scan : Scan) : Scan := scan.map fun (constrained, depth) => (constrained, depth - 1)

def bound (scan : Scan) : Scan := scan.map fun (_, depth) => (true, depth)

/-- Within angle brackets an equals sign is no value of the type. -/
def Nested (scan : Scan) : Prop := ∀ constrained depth, scan = some (constrained, depth) → 0 < depth

/-- Within constraints, or within angle brackets, a colon is no bound of the type. -/
def Settled (scan : Scan) : Prop :=
  ∀ constrained depth, scan = some (constrained, depth) → constrained = true ∨ 0 < depth

/-- The marks that do not tell whether a type is an alias. -/
def neutralMarks : List String := ["<", ">", ",", "+", "->", "?", "!", "*", "&", "#"]

/-- Whether it is still open if there is an alias after the marks. -/
def Passes (scan : Scan) (marks : String) : Prop :=
  scan = none ∨ marks ∈ neutralMarks ∨ (marks = ":" ∨ marks = "::") ∧ scan.Settled ∨
    marks = "=" ∧ scan.Nested

/-- How far the tokens have been followed after taking what is sought. -/
def after (scan : Scan) : Sought → Scan
  | .mark marks => if marks = "<" then scan.opened else if marks = ">" then scan.closed else scan
  | .word word => if word = "where" then scan.bound else scan
  | _ => scan

@[simp] theorem opened_none : opened none = none := rfl

@[simp] theorem closed_none : closed none = none := rfl

@[simp] theorem bound_none : bound none = none := rfl

@[simp] theorem nested_none : Nested none := by simp [Nested]

@[simp] theorem settled_none : Settled none := by simp [Settled]

@[simp] theorem closed_opened : scan.opened.closed = scan := by cases scan <;> simp [opened, closed]

@[simp] theorem nested_opened : scan.opened.Nested := by cases scan <;> simp [opened, Nested]

theorem Nested.settled (nested : scan.Nested) : scan.Settled := fun constrained depth same =>
  .inr (nested constrained depth same)

@[simp] theorem settled_opened : scan.opened.Settled := nested_opened.settled

@[simp] theorem settled_bound : scan.bound.Settled := by cases scan <;> simp [bound, Settled]

@[simp] theorem after_none : after none sought = none := by
  cases sought <;> simp [after]

end Scan

/-- What an outline is to be, and whether there is to be an alias, if that is asked. -/
structure Target where
  types : List (Name × Shape)
  alias? : Option Bool

/-- What remains is outlined as the target says. -/
structure Remains (target : Target) (edge : Edge) (scan : Scan) (rest : List TokenTree) : Prop where
  types : target.types = outline rest ∨ edge = .ragged ∧ Sought.identifier.isAt rest = true
  alias? : target.alias? = scan.map fun (constrained, depth) => isAlias constrained depth rest

/-- What is sought can be taken without changing the outline. -/
def Allowed (edge : Edge) (scan : Scan) : Sought → Prop
  | .identifier => edge = .clear
  | .anyName => False
  | .word word => word ∉ typeWords ∧ (isReserved word = true ∨ edge = .clear ∧ word ≠ "where")
  | .mark marks => marks ≠ "" ∧ '\x27' ∉ marks.toList ∧ scan.Passes marks
  | .lifetime | .literal | .string | .opened _ => True

/-- The names that are taken without asking what they are, besides those that are free. -/
def nameWords : List Sought :=
  [.identifier, .word "super", .word "self", .word "Self", .word "crate", .word "try", .word "_"]

/-- The edge after taking what is sought. -/
def edgeAfter : Sought → Edge
  | .identifier => .ragged
  | _ => .clear

namespace Remains

variable {target : Target} {edge : Edge} {scan : Scan} {sought : Sought} {rest : List TokenTree}
  {count : Nat}

@[simp] theorem of_clear (remains : Remains target .clear scan rest) :
    Remains target edge scan rest :=
  ⟨.inl (remains.types.resolve_right fun wrong => by cases wrong.1), remains.alias?⟩

theorem ragged (remains : Remains target edge scan rest) : Remains target .ragged scan rest :=
  ⟨remains.types.imp_right fun next => ⟨rfl, next.2⟩, remains.alias?⟩

/-- The outline is settled before anything but a name that is not reserved. -/
theorem types_eq (remains : Remains target edge scan rest)
    (other : Sought.identifier.isAt rest = false) : target.types = outline rest :=
  remains.types.resolve_right fun wrong => by simp [other] at wrong

/-- No outline depends on marks but the one before the name of a lifetime. -/
theorem outline_drop_marks {marks : List Char} (starts : Sought.startsWithMarks marks rest = true)
    (plain : '\x27' ∉ marks) : outline (rest.drop marks.length) = outline rest := by
  induction marks generalizing rest with
  | nil => rfl
  | cons wanted others ih =>
      have other : wanted ≠ '\x27' := fun same => plain (by simp [same])
      cases others with
      | nil =>
          obtain ⟨joint, position, more, rfl⟩ := Sought.exists_of_mark starts
          exact (outline_mark other).symm
      | cons next others =>
          obtain ⟨position, more, rfl, onward⟩ := Sought.exists_of_marks starts
          rw [outline_mark other, ← ih onward fun within => plain (List.mem_cons_of_mem _ within)]
          rfl

theorem isAt_identifier_of_marks {marks : String} (some : marks ≠ "")
    (starts : Sought.startsWithMarks marks.toList rest = true) :
    Sought.identifier.isAt rest = false := by
  cases spelled : marks.toList with
  | nil => exact absurd (String.toList_eq_nil_iff.mp spelled) some
  | cons wanted others =>
      rw [spelled] at starts
      cases others with
      | nil =>
          obtain ⟨joint, position, more, rfl⟩ := Sought.exists_of_mark starts
          rfl
      | cons next others =>
          obtain ⟨position, more, rfl, -⟩ := Sought.exists_of_marks starts
          rfl

/-- How far the tokens have been followed after some marks. -/
theorem isAlias_drop_marks {marks : String} (starts : Sought.startsWithMarks marks.toList rest = true)
    (passes : scan.Passes marks) :
    (scan.map fun (constrained, depth) => isAlias constrained depth rest) =
      (scan.after (.mark marks)).map fun (constrained, depth) =>
        isAlias constrained depth (rest.drop marks.length) := by
  rw [← String.length_toList]
  cases scan with
  | none => rw [Scan.after_none]; rfl
  | some state =>
      obtain ⟨constrained, depth⟩ := state
      rcases passes with none | neutral | ⟨colons, settled⟩ | ⟨rfl, nested⟩
      · cases none
      · simp only [Scan.neutralMarks, List.mem_cons, List.not_mem_nil, or_false] at neutral
        rcases neutral with rfl | rfl | rfl | rfl | rfl | rfl | rfl | rfl | rfl | rfl
        all_goals simp only [String.reduceToList] at starts ⊢
        case inr.inr.inr.inr.inl =>
          obtain ⟨first, more, rfl, onward⟩ := Sought.exists_of_marks starts
          obtain ⟨joint, second, more, rfl⟩ := Sought.exists_of_mark onward
          simp [isAlias, Scan.after]
        all_goals
          obtain ⟨joint, position, more, rfl⟩ := Sought.exists_of_mark starts
          simp [isAlias, Scan.after, Scan.opened, Scan.closed]
      · have still : constrained = true ∨ ¬ depth = 0 :=
          (settled constrained depth rfl).imp_right Nat.ne_of_gt
        rcases colons with rfl | rfl
        all_goals simp only [String.reduceToList] at starts ⊢
        · obtain ⟨joint, position, more, rfl⟩ := Sought.exists_of_mark starts
          simp [isAlias, still, Scan.after]
        · obtain ⟨first, more, rfl, onward⟩ := Sought.exists_of_marks starts
          obtain ⟨joint, second, more, rfl⟩ := Sought.exists_of_mark onward
          simp [isAlias, still, Scan.after]
      · simp only [String.reduceToList] at starts ⊢
        obtain ⟨joint, position, more, rfl⟩ := Sought.exists_of_mark starts
        simp [isAlias, Scan.after, Nat.ne_of_gt (nested constrained depth rfl)]

/-- A name declares nothing, unless it is followed by another one and is the last of the words for
types. -/
theorem take_name {word : String} {position : Position}
    (remains : Remains target .clear scan (.name word position :: rest))
    (free : isReserved word = false) : Remains target .ragged scan rest := by
  constructor
  · cases next : Sought.identifier.isAt rest with
    | true => exact .inr ⟨rfl, rfl⟩
    | false => exact .inl ((remains.types.resolve_right (by simp)).trans (outline_alone next))
  · have other : (word = "where") = False := eq_false fun same => by
      subst same
      exact absurd free (by decide)
    simpa [isAlias, other] using remains.alias?

/-- A word that declares nothing. -/
theorem take_word {word : String} {position : Position}
    (remains : Remains target edge scan (.name word position :: rest))
    (allowed : Allowed edge scan (.word word)) :
    Remains target .clear (scan.after (.word word)) rest := by
  obtain ⟨other, settled⟩ := allowed
  constructor
  · left
    rw [← @outline_word position _ _ other]
    rcases settled with reserved | ⟨rfl, -⟩
    · exact remains.types_eq (by simp [Sought.isAt, Sought.matched?, reserved])
    · exact remains.types.resolve_right (by simp)
  · rw [remains.alias?]
    by_cases bound : word = "where"
    · cases scan <;> simp [isAlias, bound, Scan.after, Scan.bound]
    · simp [isAlias, bound, Scan.after]

/-- Trees that begin with no name, and are passed over in one piece. -/
theorem take_other {trees : List TokenTree} (remains : Remains target edge scan trees)
    (other : Sought.identifier.isAt trees = false) (same : outline trees = outline rest)
    (still : ∀ constrained depth, isAlias constrained depth trees = isAlias constrained depth rest) :
    Remains target .clear scan rest :=
  ⟨.inl ((remains.types_eq other).trans same), by rw [remains.alias?]; simp only [still]⟩

/-- A name that is known to declare nothing. -/
theorem take_known {word : String} {position : Position}
    (remains : Remains target .clear scan (.name word position :: rest))
    (known : nameWords.any (·.isAt (.name word position :: rest)) = true) :
    Remains target .ragged scan rest := by
  cases free : isReserved word with
  | false => exact remains.take_name free
  | true =>
      have words : word = "super" ∨ word = "self" ∨ word = "Self" ∨ word = "crate" ∨ word = "try" ∨
          word = "_" := by
        simpa [nameWords, Sought.isAt, Sought.matched?, free] using known
      rcases words with rfl | rfl | rfl | rfl | rfl | rfl
      all_goals exact (remains.take_word ⟨by decide, .inl (by decide)⟩).of_clear

theorem take_group {delimiter : Delimiter} {opening closing : Position} {content : List TokenTree}
    (remains : Remains target edge scan (.group delimiter opening closing content :: rest)) :
    Remains target .clear scan rest :=
  remains.take_other rfl rfl fun _ _ => rfl

/-- What can be taken leaves the outline as it is. -/
theorem take (remains : Remains target edge scan rest) (allowed : Allowed edge scan sought)
    (there : sought.matched? rest = some count) :
    Remains target (edgeAfter sought) (scan.after sought) (rest.drop count) := by
  cases sought with
  | identifier =>
      obtain ⟨spelling, position, more, rfl, free, rfl⟩ := Sought.exists_of_identifier there
      obtain rfl : edge = .clear := allowed
      exact remains.take_name free
  | anyName => exact allowed.elim
  | word word =>
      obtain ⟨position, more, rfl, rfl⟩ := Sought.exists_of_word there
      exact remains.take_word allowed
  | mark marks =>
      obtain ⟨some, plain, passes⟩ := allowed
      obtain ⟨starts, rfl⟩ := Sought.starts_of_mark there
      refine ⟨.inl ?_, remains.alias?.trans (isAlias_drop_marks starts passes)⟩
      rw [← String.length_toList, outline_drop_marks starts plain]
      exact remains.types_eq (isAt_identifier_of_marks some starts)
  | lifetime =>
      obtain ⟨mark, spelling, position, more, rfl, rfl⟩ := Sought.exists_of_lifetime there
      exact remains.take_other rfl rfl fun _ _ => rfl
  | literal =>
      rcases Sought.cases_of_literal there with ⟨spelling, position, more, rfl, rfl⟩ |
        ⟨spelling, position, more, rfl, rfl, truth⟩ |
        ⟨joint, mark, spelling, position, more, rfl, rfl⟩
      · exact remains.take_other rfl rfl fun _ _ => rfl
      · have allowed : Allowed edge scan (.word spelling) := by
          rcases truth with rfl | rfl <;> exact ⟨by decide, .inl (by decide)⟩
        have other : scan.after (.word spelling) = scan := by
          rcases truth with rfl | rfl <;> rfl
        exact other ▸ remains.take_word allowed
      · exact remains.take_other rfl rfl fun _ _ => by simp [isAlias]
  | string =>
      obtain ⟨spelling, position, more, rfl, rfl⟩ := Sought.exists_of_string there
      exact remains.take_other rfl rfl fun _ _ => rfl
  | opened delimiter =>
      obtain ⟨opening, closing, content, more, rfl, rfl⟩ := Sought.exists_of_opened there
      exact remains.take_other rfl rfl fun _ _ => rfl

end Remains

end Outline

namespace Parser

open Outline

variable {α : Type} {target : Target} {edge after : Edge} {scan : Scan}

/-- A parser that comes to an end leaves the outline of what remains as it is, with the edge that is
told. -/
abbrev Skips (target : Target) (edge after : Edge) (scan : Scan) (parser : Parser α) : Prop :=
  ⦃fun stream => ⌜Remains target edge scan stream.rest⌝⦄ parser
  ⦃post⟨fun _ stream => ⌜Remains target after scan stream.rest⌝, fun _ => ⌜True⌝⟩⦄

theorem skips_iff {parser : Parser α} :
    Skips target edge after scan parser ↔
      ∀ stream value other, Remains target edge scan stream.rest →
        parser.run stream = .ok (value, other) → Remains target after scan other.rest := by
  unfold Skips Triple
  simp only [SPred.entails, wp_apply]
  refine forall_congr' fun stream => ?_
  cases parser.run stream with
  | error error => simp
  | ok result => aesop

theorem Skips.bind {β : Type} {middle : Edge} {first : Parser α} {next : α → Parser β}
    (skips : Skips target edge middle scan first)
    (onward : ∀ value, Skips target middle after scan (next value)) :
    Skips target edge after scan (first >>= next) := by
  mvcgen [skips, onward]

section Looking

variable {result : PostCond α (.arg Stream (.except SyntaxError .pure))}
  {answer : PostCond Bool (.arg Stream (.except SyntaxError .pure))}

@[spec 2000] theorem looks_atEnd :
    ⦃fun stream => answer.1 stream.rest.isEmpty stream⦄ atEnd ⦃answer⦄ := by
  simp [Triple, wp_apply]

@[spec 2000] theorem looks_peek (sought : Sought) :
    ⦃fun stream => answer.1 (sought.isAt stream.rest) stream⦄ peek sought ⦃answer⦄ := by
  simp [Triple, wp_apply]

@[spec 2000] theorem looks_peekAny (alternatives : List Sought) :
    ⦃fun stream => answer.1 (alternatives.any (·.isAt stream.rest)) stream⦄ peekAny alternatives
    ⦃answer⦄ := by
  simp [Triple, wp_apply]

@[spec 2000] theorem looks_peekSecond (sought : Sought) :
    ⦃fun stream => answer.1 (sought.isAt (afterTree stream.rest)) stream⦄ peekSecond sought
    ⦃answer⦄ := by
  simp [Triple, wp_apply]

@[spec 2000] theorem looks_peekThird (sought : Sought) :
    ⦃fun stream => answer.1 (sought.isAt (afterTree (afterTree stream.rest))) stream⦄
    peekThird sought ⦃answer⦄ := by
  simp [Triple, wp_apply]

@[spec 2000] theorem looks_peekBut (sought except : Sought) :
    ⦃fun stream => answer.1 (sought.isAt stream.rest && !except.isAt stream.rest) stream⦄
    peekBut sought except ⦃answer⦄ := by
  simp [Triple, wp_apply]

@[spec 2000] theorem looks_here
    {answer : PostCond Position (.arg Stream (.except SyntaxError .pure))} :
    ⦃fun stream => answer.1 stream.position stream⦄ here ⦃answer⦄ := by
  simp [Triple, wp_apply]

@[spec 2000] theorem looks_ahead? (parser : Parser α)
    {answer : PostCond (Option (α × Stream)) (.arg Stream (.except SyntaxError .pure))} :
    ⦃fun stream => answer.1 (parser.run stream).toOption stream⦄ ahead? parser ⦃answer⦄ := by
  simp [Triple, wp_apply]

end Looking

@[spec 2000] theorem fails_failHere (fault : SyntaxFault) :
    ⦃fun _ => ⌜True⌝⦄ (failHere fault : Parser α)
    ⦃post⟨fun _ _ => ⌜False⌝, fun _ => ⌜True⌝⟩⦄ := by
  simp [Triple, wp_apply, run_failHere]

@[spec 2000] theorem fails_failAt (position : Position) (message : String) :
    ⦃fun _ => ⌜True⌝⦄ (failAt position message : Parser α)
    ⦃post⟨fun _ _ => ⌜False⌝, fun _ => ⌜True⌝⟩⦄ := by
  simp [Triple, failAt]

@[spec 2000] theorem fails_expectedOneOf (alternatives : List Sought) :
    ⦃fun _ => ⌜True⌝⦄ (expectedOneOf alternatives : Parser α)
    ⦃post⟨fun _ _ => ⌜False⌝, fun _ => ⌜True⌝⟩⦄ := by
  unfold expectedOneOf
  mvcgen

/-- Taking what may come next is taking what has to come next, if it does. -/
theorem accept_eq (sought : Sought) : accept sought = do
    if ← peek sought then
      require sought
      return true
    else return false := by
  funext stream
  change (accept sought).run stream = StateT.run _ stream
  cases there : sought.matched? stream.rest with
  | none => simp [Sought.isAt, there]
  | some count => simp [Sought.isAt, there]

@[spec 2000] theorem skips_require (sought : Sought) (allowed : Allowed edge scan sought) :
    ⦃fun stream => ⌜Remains target edge scan stream.rest⌝⦄ require sought
    ⦃post⟨fun _ stream => ⌜Remains target (edgeAfter sought) (scan.after sought) stream.rest⌝,
      fun _ => ⌜True⌝⟩⦄ := by
  unfold Triple
  simp only [SPred.entails, wp_apply]
  intro stream remains
  obtain ⟨atEnd, fault, run⟩ := run_require sought stream
  rw [run]
  cases there : sought.matched? stream.rest with
  | none => trivial
  | some count => exact remains.take allowed there

/-- A word or a mark that declares nothing and may be left out. -/
@[spec 2000] theorem skips_accept {sought : Sought} (allowed : Allowed .clear scan sought)
    (clear : edgeAfter sought = .clear) (still : scan.after sought = scan) :
    Skips target .clear .clear scan (accept sought) := by
  simp only [accept_eq]
  mvcgen with simp_all

/-- One of several words or marks that declare nothing. -/
@[spec 2000] theorem skips_acceptAny {alternatives : List Sought}
    (plain : ∀ sought ∈ alternatives,
      Allowed .clear scan sought ∧ edgeAfter sought = .clear ∧ scan.after sought = scan) :
    Skips target .clear .clear scan (acceptAny alternatives) := by
  induction alternatives with
  | nil =>
      unfold acceptAny
      mvcgen
  | cons sought others ih =>
      have rest := ih fun other listed => plain other (by simp [listed])
      unfold acceptAny
      mvcgen [rest, -keeps_acceptAny] with simp_all

@[spec 2000] theorem skips_discard {parser : Parser α} (skips : Skips target edge after scan parser) :
    Skips target edge after scan (discard parser) := by
  change Skips target edge after scan ((fun _ => ()) <$> parser)
  mvcgen [skips]

/-- An opening angle bracket, as far as another has to close it. -/
@[spec 3000] theorem skips_opening :
    ⦃fun stream => ⌜Remains target edge scan stream.rest⌝⦄ require (.mark "<")
    ⦃post⟨fun _ stream => ⌜Remains target .clear scan.opened stream.rest⌝, fun _ => ⌜True⌝⟩⦄ :=
  skips_require (.mark "<") (by simp [Allowed, Scan.Passes, Scan.neutralMarks])

@[spec 3000] theorem skips_closing :
    ⦃fun stream => ⌜Remains target edge scan.opened stream.rest⌝⦄ require (.mark ">")
    ⦃post⟨fun _ stream => ⌜Remains target .clear scan stream.rest⌝, fun _ => ⌜True⌝⟩⦄ := by
  have closes := @skips_require target edge scan.opened (.mark ">")
    (by simp [Allowed, Scan.Passes, Scan.neutralMarks])
  simpa [Scan.after, edgeAfter] using closes

/-- A name can be taken that is none of the words for types, nor the one before constraints. -/
theorem skips_anyName (target : Target) (scan : Scan) (alternatives : List Sought)
    (known : ∀ sought ∈ alternatives, sought ∈ nameWords) :
    ⦃fun stream => ⌜Remains target .clear scan stream.rest ∧
      alternatives.any (·.isAt stream.rest) = true⌝⦄ anyName
    ⦃post⟨fun _ stream => ⌜Remains target .ragged scan stream.rest⌝, fun _ => ⌜True⌝⟩⦄ := by
  have taken {trees rest : List TokenTree} {spelling : String} {position : Position}
      (next : trees = .name spelling position :: rest) (remains : Remains target .clear scan trees)
      (among : alternatives.any (·.isAt trees) = true) : Remains target .ragged scan rest := by
    subst next
    obtain ⟨sought, listed, there⟩ := List.any_eq_true.mp among
    exact remains.take_known (List.any_eq_true.mpr ⟨sought, known sought listed, there⟩)
  unfold anyName
  mvcgen with
    first
    | exact False.elim
    | exact taken ‹_› (And.left ‹_›) (And.right ‹_›)

@[spec 2000] theorem skips_identifier : Skips target .clear .ragged scan identifier := by
  have names := skips_anyName target scan [.identifier] (by decide)
  unfold identifier
  mvcgen [names, -keeps_anyName] with simp_all [Sought.isAt, Sought.matched?]

@[spec 2000] theorem skips_identifierOr {words : List String}
    (known : ∀ sought ∈ words.map .word, sought ∈ nameWords) :
    Skips target .clear .ragged scan (identifierOr words) := by
  have names := skips_anyName target scan _ known
  unfold identifierOr
  mvcgen [names, -keeps_anyName]

/-- Nothing is said about the content of a group. -/
theorem ends_anyhow (parser : Parser α) :
    ⦃fun _ => ⌜True⌝⦄ parser ⦃post⟨fun _ _ => ⌜True⌝, fun _ => ⌜True⌝⟩⦄ := by
  unfold Triple
  simp only [SPred.entails, wp_apply]
  intro stream _
  cases parser.run stream <;> trivial

@[spec 2000] theorem skips_within (delimiter : Delimiter) (parser : Parser α) :
    Skips target edge .clear scan (within delimiter parser) := by
  have content := ends_anyhow parser
  unfold within
  mvcgen [content] with simp_all
  exact Remains.take_group ‹_›

@[spec 2000] theorem skips_anyGroup : Skips target edge .clear scan anyGroup := by
  unfold anyGroup
  mvcgen with simp_all
  exact Remains.take_group ‹_›

theorem skips_many {step : Parser (Option α)} (skips : Skips target edge edge scan step) :
    Skips target edge edge scan (many step) := by
  have steps (count : Nat) : Skips target edge edge scan (repeatUpTo step count) := by
    induction count with
    | zero =>
        unfold repeatUpTo
        mvcgen
    | succ count ih =>
        unfold repeatUpTo
        mvcgen [skips, ih]
  unfold many
  mvcgen [steps]

/-- The last step, which yields nothing, may end with any name. -/
theorem skips_manyToLast {step : Parser (Option α)}
    (skips : ⦃fun stream => ⌜Remains target .clear scan stream.rest⌝⦄ step
      ⦃post⟨fun value stream => ⌜Remains target (if value.isSome then .clear else .ragged) scan
        stream.rest⌝, fun _ => ⌜True⌝⟩⦄) :
    Skips target .clear .ragged scan (many step) := by
  have steps (count : Nat) : Skips target .clear .ragged scan (repeatUpTo step count) := by
    induction count with
    | zero =>
        unfold repeatUpTo
        mvcgen
        simp_all
    | succ count ih =>
        unfold repeatUpTo
        mvcgen [skips, ih]
  unfold many
  mvcgen [steps]

theorem skips_whileHolds {test : Parser Bool} {parser : Parser α}
    (skips : Skips target edge edge scan do if ← test then some <$> parser else return none) :
    Skips target edge edge scan (whileHolds test parser) :=
  skips_many skips

/-- A separator clears the edge. -/
theorem skips_separator {separator : Sought} (allowed : Allowed .ragged scan separator)
    (clear : edgeAfter separator = .clear) (still : scan.after separator = scan) :
    Skips target .ragged .clear scan (require separator) := by
  mvcgen <;> simp_all

/-- Between the separators of a list something is read that may end with any name. -/
theorem skips_separatedUntil {separator : Sought} {stop : Parser Bool} {parser : Parser α}
    (separates : Skips target .ragged .clear scan (require separator))
    (stops : ∀ edge, Skips target edge edge scan stop)
    (skips : Skips target .clear .ragged scan parser) :
    Skips target .clear .ragged scan (separatedUntil separator stop parser) := by
  have steps (count : Nat) :
      Skips target .ragged .ragged scan
        (separatedUntil.repeatFrom separator stop parser false count) := by
    induction count with
    | zero =>
        unfold separatedUntil.repeatFrom
        mvcgen
    | succ count ih =>
        unfold separatedUntil.repeatFrom
        mvcgen [stops, separates, skips, ih, -skips_require, -keeps_require]
        simp_all
  have first (count : Nat) :
      Skips target .clear .ragged scan
        (separatedUntil.repeatFrom separator stop parser true count) := by
    cases count with
    | zero =>
        unfold separatedUntil.repeatFrom
        mvcgen
        simp_all
    | succ count =>
        unfold separatedUntil.repeatFrom
        mvcgen [stops, skips, steps]
        simp_all
  unfold separatedUntil
  mvcgen [first]

theorem skips_joinedUntil {separator : Sought} {stop : Parser Bool} {parser : Parser α}
    (separates : Skips target .ragged .clear scan (require separator))
    (stops : Skips target .clear .clear scan stop)
    (skips : Skips target .clear .ragged scan parser) :
    Skips target .clear .ragged scan (joinedUntil separator stop parser) := by
  have steps (count : Nat) :
      Skips target .clear .ragged scan (joinedUntil.joinUpTo separator stop parser count) := by
    induction count with
    | zero =>
        unfold joinedUntil.joinUpTo
        mvcgen
        simp_all
    | succ count ih =>
        unfold joinedUntil.joinUpTo
        simp only [accept_eq]
        mvcgen [stops, separates, skips, ih, -skips_require, -keeps_require]
        simp_all
  unfold joinedUntil
  mvcgen [steps]

end Parser

end RecordRegistry
