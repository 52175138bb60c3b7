/-
# What a reader finds in a text

A reader finds something in a text if it takes a part from the front and yields a value that is as
it should be, wherever the text stands in its document.  A reader that declines has not failed for
good: another reader may be tried.  There is one fact here for each way to combine readers, so that
what a reader finds can be told from what its parts find.
-/

import Mathlib
import RecordRegistry.Proofs.Results
import RecordRegistry.Toml.Document

namespace RecordRegistry.Toml

namespace Reader

variable {α β : Type} {reader : Reader α} {before middle after : List Char} {good : α → Prop}
  {better : β → Prop}

/-- The reader takes what is before `after` and yields a good value. -/
def Finds (reader : Reader α) (before : List Char) (good : α → Prop) (after : List Char) : Prop :=
  ∀ offset, ∃ value stop, reader ⟨before, offset⟩ = .ok (value, ⟨after, stop⟩) ∧ good value

/-- The reader takes what is before `after`. -/
abbrev Takes (reader : Reader α) (before after : List Char) : Prop :=
  Finds reader before (fun _ => True) after

/-- The reader does not apply, but another one may. -/
def Declines (reader : Reader α) (before : List Char) : Prop :=
  ∀ offset, ∃ failure, reader ⟨before, offset⟩ = .error failure ∧ failure.committed = false

theorem Finds.mono {other : α → Prop} (found : Finds reader before good after)
    (implies : ∀ value, good value → other value) : Finds reader before other after := by
  intro offset
  obtain ⟨value, stop, read, isGood⟩ := found offset
  exact ⟨value, stop, read, implies value isGood⟩

theorem finds_pure {value : α} (isGood : good value) : Finds (pure value) before good before :=
  fun offset => ⟨value, offset, rfl, isGood⟩

theorem bind_apply {next : α → Reader β} {source rest : Source} {value : α}
    (read : reader source = .ok (value, rest)) : (reader >>= next) source = next value rest := by
  change (reader source >>= fun result => next result.1 result.2) = _
  rw [read]
  rfl

theorem get_bind_apply {next : Source → Reader β} {source : Source} :
    (get >>= next) source = next source source :=
  rfl

theorem bind_apply_congr {other : Reader α} {source rest : Source}
    (same : reader source = other rest)
    (next : α → Reader β) : (reader >>= next) source = (other >>= next) rest := by
  change (reader source >>= fun result => next result.1 result.2) = _
  rw [same]
  rfl

theorem Finds.bind {next : α → Reader β} (found : Finds reader before good middle)
    (onward : ∀ value, good value → Finds (next value) middle better after) :
    Finds (reader >>= next) before better after := by
  intro offset
  obtain ⟨value, stop, read, isGood⟩ := found offset
  obtain ⟨result, last, finished, isBetter⟩ := onward value isGood stop
  exact ⟨result, last, (bind_apply read).trans finished, isBetter⟩

theorem Finds.bind_declines {next : α → Reader β} (found : Finds reader before good middle)
    (onward : ∀ value, good value → Declines (next value) middle) :
    Declines (reader >>= next) before := by
  intro offset
  obtain ⟨value, stop, read, isGood⟩ := found offset
  obtain ⟨failure, failed, open_⟩ := onward value isGood stop
  exact ⟨failure, (bind_apply read).trans failed, open_⟩

theorem Declines.bind {next : α → Reader β} (declined : Declines reader before) :
    Declines (reader >>= next) before := by
  intro offset
  obtain ⟨failure, failed, open_⟩ := declined offset
  refine ⟨failure, ?_, open_⟩
  change (reader ⟨before, offset⟩ >>= fun result => next result.1 result.2) = _
  rw [failed]
  rfl

theorem Finds.map {change : α → β}
    (found : Finds reader before (fun value => better (change value)) after) :
    Finds (change <$> reader) before better after := by
  rw [map_eq_pure_bind]
  exact found.bind fun value isGood => finds_pure isGood

theorem Declines.map {change : α → β} (declined : Declines reader before) :
    Declines (change <$> reader) before := by
  rw [map_eq_pure_bind]
  exact declined.bind

theorem Finds.discard (found : Finds reader before good after) :
    Takes (Functor.discard reader) before after :=
  Finds.map (found.mono fun _ _ => trivial)

theorem Declines.discard (declined : Declines reader before) :
    Declines (Functor.discard reader) before :=
  declined.map

theorem Finds.onFailure (found : Finds reader before good after)
    (change : Source → Failure → Failure) :
    Finds (reader.onFailure change) before good after := by
  intro offset
  obtain ⟨value, stop, read, isGood⟩ := found offset
  exact ⟨value, stop, by rw [Reader.onFailure, read]; rfl, isGood⟩

theorem Declines.onFailure {change : Source → Failure → Failure} (declined : Declines reader before)
    (keeps : ∀ source failure, (change source failure).committed = failure.committed) :
    Declines (reader.onFailure change) before := by
  intro offset
  obtain ⟨failure, failed, open_⟩ := declined offset
  exact ⟨_, by rw [Reader.onFailure, failed]; rfl, by rw [keeps, open_]⟩

theorem Finds.committed (found : Finds reader before good after) :
    Finds (committed reader) before good after :=
  found.onFailure _

theorem Finds.named (found : Finds reader before good after) (construct : Construct) :
    Finds (named construct reader) before good after :=
  found.onFailure _

theorem Finds.wanting (found : Finds reader before good after) (wanted : List Wanted) :
    Finds (wanting wanted reader) before good after :=
  found.onFailure _

theorem Finds.failingAtStart (found : Finds reader before good after) :
    Finds (failingAtStart reader) before good after :=
  found.onFailure _

theorem Declines.failingAtStart (declined : Declines reader before) :
    Declines (failingAtStart reader) before :=
  declined.onFailure fun _ _ => rfl

theorem declines_fail : Declines (fail : Reader α) before := fun _ => ⟨_, rfl, rfl⟩

theorem Finds.optional (found : Finds reader before good after) :
    Finds (optional? reader) before
      (fun value => ∃ inner, value = some inner ∧ good inner) after := by
  intro offset
  obtain ⟨value, stop, read, isGood⟩ := found offset
  exact ⟨some value, stop, by rw [optional?, read], value, rfl, isGood⟩

theorem Declines.optional (declined : Declines reader before) :
    Finds (optional? reader) before (· = none) before := by
  intro offset
  obtain ⟨failure, failed, open_⟩ := declined offset
  exact ⟨none, offset, by simp [optional?, failed, open_], rfl⟩

theorem Finds.either_left {second : Reader α} (found : Finds reader before good after) :
    Finds (either reader second) before good after := by
  apply found.optional.bind
  rintro _ ⟨value, rfl, isGood⟩
  exact finds_pure isGood

theorem Declines.either_right {second : Reader α} (declined : Declines reader before)
    (found : Finds second before good after) : Finds (either reader second) before good after := by
  apply declined.optional.bind
  rintro _ rfl
  exact found

theorem Declines.either {second : Reader α} (first : Declines reader before)
    (then_ : Declines second before) : Declines (either reader second) before := by
  apply first.optional.bind_declines
  rintro _ rfl
  exact then_

theorem Finds.applies (found : Finds reader before good after) :
    Finds (applies reader) before (· = true) before := by
  intro offset
  obtain ⟨value, stop, read, inner, rfl, -⟩ := found.failingAtStart.optional offset
  exact ⟨true, offset, by simp [Reader.applies, read], rfl⟩

theorem Declines.applies (declined : Declines reader before) :
    Finds (applies reader) before (· = false) before := by
  intro offset
  obtain ⟨value, stop, read, rfl⟩ := declined.failingAtStart.optional offset
  exact ⟨false, offset, by simp [Reader.applies, read], rfl⟩

theorem finds_get : Finds get before (fun source : Source => source.rest = before) before :=
  fun offset => ⟨⟨before, offset⟩, offset, rfl, rfl⟩

theorem Finds.spanned (found : Finds reader before good after) :
    Finds (spanned reader) before (fun value => good value.1) after := by
  apply finds_get.bind
  intro start _
  apply found.bind
  intro value isGood
  exact finds_get.bind fun _ _ => finds_pure isGood

theorem Finds.refined {refine : α → Except Cause β} (found : Finds reader before good after)
    (refines : ∀ value, good value → ∃ result, refine value = .ok result ∧ better result) :
    Finds (refined reader refine) before better after := by
  apply finds_get.bind
  intro start _
  apply found.bind
  intro value isGood
  obtain ⟨result, refined, isBetter⟩ := refines value isGood
  rw [refined]
  exact finds_pure isBetter

theorem finds_peek : Finds peek? before (· = before.head?) before := by
  apply finds_get.bind
  rintro ⟨rest, _⟩ rfl
  exact finds_pure rfl

theorem takes_skip (count : Nat) : Takes (skip count) before (before.drop count) :=
  fun _ => ⟨(), _, rfl, trivial⟩

theorem finds_takeWhile (isMember : Char → Bool) :
    Finds (takeWhile isMember) before (· = before.takeWhile isMember)
      (before.dropWhile isMember) := by
  apply finds_get.bind
  rintro ⟨rest, _⟩ rfl
  have left : rest.drop (rest.takeWhile isMember).length = rest.dropWhile isMember :=
    (congrArg (List.drop _) List.takeWhile_append_dropWhile.symm).trans List.drop_left
  exact (left ▸ takes_skip _).bind fun _ _ => finds_pure rfl

theorem takes_require (text : List Char) : Takes (require text) (text ++ after) after := by
  have accepted : Finds (accept text) (text ++ after) (· = true) after := by
    apply finds_get.bind
    rintro ⟨rest, _⟩ rfl
    rw [if_pos (List.isPrefixOf_iff_prefix.mpr (List.prefix_append text after))]
    have skipped : Takes (skip text.length) (text ++ after) after := by
      simpa using @takes_skip (text ++ after) text.length
    exact skipped.bind fun _ _ => finds_pure rfl
  apply accepted.bind
  rintro _ rfl
  exact finds_pure trivial

theorem finds_accept_false {text : List Char} (differs : ¬ text <+: before) :
    Finds (accept text) before (· = false) before := by
  apply finds_get.bind
  rintro ⟨rest, _⟩ rfl
  rw [if_neg (by simpa using differs)]
  exact finds_pure rfl

theorem declines_require {text : List Char} (differs : ¬ text <+: before) :
    Declines (require text) before := by
  apply (finds_accept_false differs).bind_declines
  rintro _ rfl
  exact declines_fail

/-- A run of characters is taken up to a character that does not belong to it. -/
theorem finds_run {isMember : Char → Bool} {run : List Char}
    (members : ∀ character ∈ run, isMember character)
    (ends : ∀ next ∈ after.head?, ¬ isMember next) :
    Finds (takeWhile isMember) (run ++ after) (· = run) after := by
  have taken : (run ++ after).takeWhile isMember = run := by
    rw [List.takeWhile_append_of_pos members]
    cases after with
    | nil => simp
    | cons next rest => simpa using ends next rfl
  have left : (run ++ after).dropWhile isMember = after := by
    rw [List.dropWhile_append_of_pos members]
    cases after with
    | nil => rfl
    | cons next rest => simpa using ends next rfl
  exact (left ▸ finds_takeWhile isMember).mono fun _ same => same.trans taken

theorem finds_chunk {isMember : Char → Bool} {run : List Char} (filled : run ≠ [])
    (members : ∀ character ∈ run, isMember character)
    (ends : ∀ next ∈ after.head?, ¬ isMember next) :
    Finds (chunk isMember) (run ++ after) (· = run) after := by
  apply (finds_run members ends).bind
  rintro _ rfl
  rw [if_neg filled]
  exact finds_pure rfl

theorem declines_chunk {isMember : Char → Bool} (ends : ∀ next ∈ before.head?, ¬ isMember next) :
    Declines (chunk isMember) before := by
  have none : before.takeWhile isMember = [] := by
    cases before with
    | nil => rfl
    | cons next rest => simpa using ends next rfl
  apply (finds_takeWhile isMember).bind_declines
  rintro _ rfl
  rw [if_pos none]
  exact declines_fail

theorem takes_blanks : Takes blanks before (before.dropWhile isBlankInLine) :=
  (finds_takeWhile isBlankInLine).discard

theorem takes_newline : Takes newline ('\n' :: after) after := by
  apply finds_peek.bind
  rintro _ rfl
  exact takes_require ['\n']

theorem declines_newline (noFeed : before.head? ≠ some '\n') (noReturn : before.head? ≠ some '\r') :
    Declines newline before := by
  apply finds_peek.bind_declines
  rintro _ rfl
  split
  · next isReturn => exact absurd isReturn noReturn
  · apply declines_require
    rintro ⟨rest, rfl⟩
    exact noFeed rfl

/-- Elements that follow each other, up to a text that is none of them, with what they stand for
together. -/
inductive Follow (element : Reader (List Char)) (stop : List Char) : List Char → List Char → Prop
  | done : Follow element stop stop []
  | more {before middle piece content : List Char} :
    Finds element before (· = piece) middle → middle.length < before.length →
      Follow element stop middle content → Follow element stop before (piece ++ content)

theorem Follow.repeated {element : Reader (List Char)} {stop content : List Char}
    (follow : Follow element stop before content) (declined : Declines element stop) :
    Finds (repeated (optional? element)) before (fun pieces => pieces.flatten = content) stop := by
  -- Every element takes a character, so the count never runs out.
  have upTo (count : Nat) (enough : before.length < count) :
      Finds (repeatUpTo (optional? element) count) before (fun pieces => pieces.flatten = content)
        stop := by
    induction follow generalizing count with
    | done =>
        obtain ⟨count, rfl⟩ := Nat.exists_eq_add_of_lt enough
        apply declined.optional.bind
        rintro _ rfl
        exact finds_pure rfl
    | more found shorter _ ih =>
        obtain ⟨count, rfl⟩ := Nat.exists_eq_add_of_lt enough
        apply found.optional.bind
        rintro _ ⟨piece, rfl, rfl⟩
        apply (ih _ (by omega)).bind
        rintro pieces rfl
        exact finds_pure rfl
  apply finds_get.bind
  rintro ⟨rest, _⟩ rfl
  exact upTo _ (Nat.lt_succ_self _)

theorem Declines.repeated (declined : Declines reader before) :
    Finds (repeated (optional? reader)) before (· = []) before := by
  apply finds_get.bind
  rintro source -
  apply declined.optional.bind
  rintro _ rfl
  exact finds_pure rfl

/-- Whatever the text is, a value that the reader yields is good. -/
def Yields (reader : Reader α) (good : α → Prop) : Prop :=
  ∀ source value rest, reader source = .ok (value, rest) → good value

theorem yields_pure {value : α} (isGood : good value) : Yields (pure value) good := by
  rintro source _ rest ⟨⟩
  exact isGood

theorem Yields.bind {next : α → Reader β} (yields : Yields reader good)
    (onward : ∀ value, good value → Yields (next value) better) :
    Yields (reader >>= next) better := by
  intro source result rest read
  change (reader source >>= fun result => next result.1 result.2) = _ at read
  obtain ⟨⟨value, middle⟩, first, second⟩ := bind_eq_ok_iff.mp read
  exact onward value (yields source value middle first) middle result rest second

theorem yields_bind {next : α → Reader β} (onward : ∀ value, Yields (next value) better) :
    Yields (reader >>= next) better :=
  Yields.bind (fun _ _ _ _ => trivial : Yields reader fun _ => True) fun value _ => onward value

theorem Yields.named (yields : Yields reader good) (construct : Construct) :
    Yields (named construct reader) good :=
  fun source value rest read => yields source value rest (mapError_eq_ok_iff.mp read)

theorem yields_refined {refine : α → Except Cause β}
    (refines : ∀ value result, refine value = .ok result → better result) :
    Yields (refined reader refine) better := by
  refine yields_bind fun start => yields_bind fun value => ?_
  split
  · next result isRefined => exact yields_pure (refines value result isRefined)
  · rintro _ _ _ ⟨⟩

end Reader

theorem parse_eq_ok_iff {text : String} {members : Members} :
    parse text = .ok members ↔ ∃ rest, Reader.document (.ofText text) = .ok (members, rest) := by
  unfold parse StateT.run
  cases Reader.document (.ofText text) with
  | error failure => simp
  | ok result => simp [Prod.ext_iff]

end RecordRegistry.Toml
