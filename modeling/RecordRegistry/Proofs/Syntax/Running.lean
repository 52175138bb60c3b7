/-
# What the elementary parsers yield

Each elementary parser is stated as an equation for its run, so that a production is followed by
rewriting with the equations of what it is made of.
-/

import Mathlib.Tactic.Common
import RecordRegistry.Proofs.Results
import RecordRegistry.Syntax.File

namespace RecordRegistry

namespace Sought

variable {rest : List TokenTree} {count : Nat}

theorem exists_of_identifier (there : Sought.identifier.matched? rest = some count) :
    ∃ spelling position more, rest = .name spelling position :: more ∧
      isReserved spelling = false ∧ count = 1 := by
  unfold Sought.matched? at there
  split at there <;> simp_all

theorem exists_of_word {word : String} (there : (Sought.word word).matched? rest = some count) :
    ∃ position more, rest = .name word position :: more ∧ count = 1 := by
  unfold Sought.matched? at there
  split at there <;> simp_all

theorem exists_of_lifetime (there : Sought.lifetime.matched? rest = some count) :
    ∃ mark spelling position more,
      rest = .mark '\x27' true mark :: .name spelling position :: more ∧ count = 2 := by
  unfold Sought.matched? at there
  split at there <;> simp_all

theorem cases_of_literal (there : Sought.literal.matched? rest = some count) :
    (∃ spelling position more, rest = .literal spelling position :: more ∧ count = 1) ∨
      (∃ spelling position more, rest = .name spelling position :: more ∧ count = 1 ∧
        (spelling = "true" ∨ spelling = "false")) ∨
      ∃ joint mark spelling position more,
        rest = .mark '-' joint mark :: .literal spelling position :: more ∧ count = 2 := by
  unfold Sought.matched? at there
  split at there <;> simp_all

theorem exists_of_string (there : Sought.string.matched? rest = some count) :
    ∃ spelling position more, rest = .literal spelling position :: more ∧ count = 1 := by
  unfold Sought.matched? at there
  split at there <;> simp_all

theorem exists_of_opened {delimiter : Delimiter}
    (there : (Sought.opened delimiter).matched? rest = some count) :
    ∃ opening closing content more,
      rest = .group delimiter opening closing content :: more ∧ count = 1 := by
  unfold Sought.matched? at there
  split at there <;> simp_all

theorem starts_of_mark {marks : String} (there : (Sought.mark marks).matched? rest = some count) :
    Sought.startsWithMarks marks.toList rest = true ∧ count = marks.length := by
  unfold Sought.matched? at there
  split at there <;> simp_all

theorem exists_of_mark {wanted : Char} (starts : Sought.startsWithMarks [wanted] rest = true) :
    ∃ joint position more, rest = .mark wanted joint position :: more := by
  cases rest with
  | nil => contradiction
  | cons tree more =>
      cases tree with
      | mark character joint position =>
          obtain rfl : character = wanted := by simpa [Sought.startsWithMarks] using starts
          exact ⟨joint, position, more, rfl⟩
      | name | literal | group => contradiction

theorem exists_of_marks {wanted next : Char} {others : List Char}
    (starts : Sought.startsWithMarks (wanted :: next :: others) rest = true) :
    ∃ position more, rest = .mark wanted true position :: more ∧
      Sought.startsWithMarks (next :: others) more = true := by
  cases rest with
  | nil => contradiction
  | cons tree more =>
      cases tree with
      | mark character joint position =>
          obtain ⟨⟨rfl, rfl⟩, onward⟩ : (character = wanted ∧ joint = true) ∧
              Sought.startsWithMarks (next :: others) more = true := by
            simpa [Sought.startsWithMarks] using starts
          exact ⟨position, more, rfl, onward⟩
      | name | literal | group => contradiction

theorem exists_of_character (wanted : Char) {marks : String} (single : marks.toList = [wanted])
    (there : (Sought.mark marks).matched? rest = some count) :
    ∃ joint position more, rest = .mark wanted joint position :: more ∧ count = 1 := by
  obtain ⟨starts, rfl⟩ := starts_of_mark there
  rw [single] at starts
  obtain ⟨joint, position, more, rfl⟩ := exists_of_mark starts
  exact ⟨joint, position, more, rfl, by rw [← String.length_toList, single]; rfl⟩

end Sought

namespace Parser

variable {α β : Type} {scope : Scope} {stray : Option SyntaxError} {found : List Item}
  {rest inside : List TokenTree} {stream other : Stream}

@[simp] theorem run_get (stream : Stream) :
    (get : Parser Stream).run stream = .ok (stream, stream) := rfl

@[simp] theorem run_set (stream other : Stream) :
    (set other : Parser PUnit).run stream = .ok (⟨⟩, other) := rfl

@[simp] theorem run_modify (change : Stream → Stream) (stream : Stream) :
    (modify change : Parser PUnit).run stream = .ok (⟨⟩, change stream) := rfl

@[simp] theorem run_ite (condition : Prop) [Decidable condition] (first second : Parser α)
    (stream : Stream) :
    (if condition then first else second).run stream =
      if condition then first.run stream else second.run stream := by
  split <;> rfl

theorem run_bind_eq_ok_iff {first : Parser α} {next : α → Parser β} {value : β} :
    (first >>= next).run stream = .ok (value, other) ↔
      ∃ middle between, first.run stream = .ok (middle, between) ∧
        (next middle).run between = .ok (value, other) := by
  rw [StateT.run_bind]
  cases first.run stream with
  | error error => simp
  | ok result => simp [Prod.ext_iff, eq_comm]

/-- Whatever a parser yields has a property. -/
def Yields (parser : Parser α) (good : α → Prop) : Prop :=
  ∀ stream value other, parser.run stream = .ok (value, other) → good value

namespace Yields

variable {good : α → Prop}

theorem bind {first : Parser β} {next : β → Parser α} (onward : ∀ value, Yields (next value) good) :
    Yields (first >>= next) good := fun _ value other run =>
  have ⟨middle, between, _, run⟩ := run_bind_eq_ok_iff.mp run
  onward middle between value other run

theorem pure {value : α} (yields : good value) : Yields (Pure.pure value) good := by
  rintro stream _ other ⟨⟩
  exact yields

theorem ite {condition : Prop} [Decidable condition] {first second : Parser α}
    (holds : Yields first good) (fails : Yields second good) :
    Yields (if condition then first else second) good := by
  split
  · exact holds
  · exact fails

/-- A part without a value may be left out. -/
theorem optional {condition : Prop} [Decidable condition] {part : Parser β} {next : Parser α}
    (onward : Yields next good) :
    Yields (if condition then part >>= fun _ => next else next) good :=
  .ite (.bind fun _ => onward) onward

theorem optional_not {condition : Prop} [Decidable condition] {part : Parser β} {next : Parser α}
    (onward : Yields next good) :
    Yields (if condition then next else part >>= fun _ => next) good :=
  .ite onward (.bind fun _ => onward)

theorem map {change : β → α} {parser : Parser β} {known : β → Prop} (yields : Yields parser known)
    (weaker : ∀ value, known value → good (change value)) : Yields (change <$> parser) good := by
  intro stream value other run
  rw [map_eq_pure_bind] at run
  obtain ⟨middle, between, first, last⟩ := run_bind_eq_ok_iff.mp run
  cases last
  exact weaker middle (yields stream middle _ first)

theorem expectedOneOf (alternatives : List Sought) :
    Yields (Parser.expectedOneOf alternatives) good := by
  rintro stream _ other ⟨⟩

end Yields

@[simp] theorem run_here (stream : Stream) : here.run stream = .ok (stream.position, stream) := rfl

@[simp] theorem run_atEnd (stream : Stream) :
    atEnd.run stream = .ok (stream.rest.isEmpty, stream) := rfl

@[simp] theorem run_peek (sought : Sought) (stream : Stream) :
    (peek sought).run stream = .ok (sought.isAt stream.rest, stream) := rfl

@[simp] theorem run_peekAny (alternatives : List Sought) (stream : Stream) :
    (peekAny alternatives).run stream =
      .ok (alternatives.any (·.isAt stream.rest), stream) := rfl

@[simp] theorem run_peekSecond (sought : Sought) (stream : Stream) :
    (peekSecond sought).run stream = .ok (sought.isAt (afterTree stream.rest), stream) := rfl

@[simp] theorem run_peekThird (sought : Sought) (stream : Stream) :
    (peekThird sought).run stream =
      .ok (sought.isAt (afterTree (afterTree stream.rest)), stream) := rfl

@[simp] theorem run_peekBut (sought except : Sought) (stream : Stream) :
    (peekBut sought except).run stream =
      .ok (sought.isAt stream.rest && !except.isAt stream.rest, stream) := by
  simp [peekBut]

@[simp] theorem run_ahead? (parser : Parser α) (stream : Stream) :
    (ahead? parser).run stream = .ok ((parser.run stream).toOption, stream) := by
  simp only [ahead?, StateT.run_bind, run_get, ok_bind]
  cases parser.run stream <;> rfl

@[simp] theorem run_accept (sought : Sought) (stream : Stream) :
    (accept sought).run stream =
      match sought.matched? stream.rest with
      | some count => .ok (true, { stream with rest := stream.rest.drop count })
      | none => .ok (false, stream) := by
  simp only [accept, StateT.run_bind, run_get, ok_bind]
  cases sought.matched? stream.rest <;> rfl

theorem run_failHere (fault : SyntaxFault) (stream : Stream) :
    (failHere fault : Parser α).run stream =
      .error ⟨stream.position, stream.rest.isEmpty, fault⟩ := rfl

/-- What has to come next is taken, or the error is at the next token. -/
theorem run_require (sought : Sought) (stream : Stream) :
    ∃ atEnd fault, (require sought).run stream =
      match sought.matched? stream.rest with
      | some count => .ok (⟨⟩, { stream with rest := stream.rest.drop count })
      | none => .error ⟨stream.position, atEnd, fault⟩ := by
  simp only [require, StateT.run_bind, run_accept]
  cases sought.matched? stream.rest with
  | some count => exact ⟨true, .unreadable, rfl⟩
  | none => cases sought <;> simp [run_failHere]

@[simp] theorem run_require_of_matched {sought : Sought} {stream : Stream} {count : Nat}
    (there : sought.matched? stream.rest = some count) :
    (require sought).run stream = .ok (⟨⟩, { stream with rest := stream.rest.drop count }) := by
  obtain ⟨atEnd, fault, run⟩ := run_require sought stream
  rw [run, there]

@[simp] theorem run_anyName (spelling : String) (position : Position) :
    anyName.run ⟨.name spelling position :: rest, scope, stray, found⟩ =
      .ok (⟨spelling, position⟩, ⟨rest, scope, stray, found⟩) := rfl

theorem rest_of_run_require {sought : Sought} {count : Unit}
    (run : (require sought).run stream = .ok (count, other)) :
    ∃ count, sought.matched? stream.rest = some count ∧ other.rest = stream.rest.drop count := by
  obtain ⟨atEnd, fault, same⟩ := run_require sought stream
  rw [same] at run
  cases there : sought.matched? stream.rest with
  | none => simp [there] at run
  | some count =>
      simp only [there, Except.ok.injEq, Prod.mk.injEq] at run
      exact ⟨count, rfl, run.2 ▸ rfl⟩

theorem of_run_accept {sought : Sought} {found : Bool}
    (run : (accept sought).run stream = .ok (found, other)) :
    found = false ∧ other = stream ∧ sought.matched? stream.rest = none ∨
      ∃ count, found = true ∧ sought.matched? stream.rest = some count ∧
        other.rest = stream.rest.drop count := by
  rw [run_accept] at run
  cases there : sought.matched? stream.rest with
  | none =>
      simp only [there, Except.ok.injEq, Prod.mk.injEq] at run
      exact .inl ⟨run.1.symm, run.2.symm, rfl⟩
  | some count =>
      simp only [there, Except.ok.injEq, Prod.mk.injEq] at run
      exact .inr ⟨count, run.1.symm, rfl, run.2 ▸ rfl⟩

theorem rest_of_run_identifier {name : Name} (run : identifier.run stream = .ok (name, other)) :
    stream.rest = .name name.spelling name.position :: other.rest ∧
      isReserved name.spelling = false := by
  obtain ⟨rest, scope, stray, found⟩ := stream
  cases rest with
  | nil => simp [identifier, run_failHere] at run
  | cons tree more =>
      cases tree with
      | name spelling position =>
          cases free : isReserved spelling with
          | true => simp [identifier, run_failHere, free] at run
          | false =>
              simp only [identifier, StateT.run_bind, run_get, ok_bind, free, Bool.false_eq_true,
                if_false, run_anyName, Except.ok.injEq, Prod.mk.injEq] at run
              obtain ⟨rfl, rfl⟩ := run
              exact ⟨rfl, free⟩
      | _ => simp [identifier, run_failHere] at run

/-- A group is read to its end, or the first tree that is left in it is noted. -/
theorem run_within (delimiter : Delimiter) (opening closing : Position) (parser : Parser α) :
    (within delimiter parser).run
        ⟨.group delimiter opening closing inside :: rest, scope, stray, found⟩ =
      (parser.run ⟨inside, ⟨closing, some delimiter⟩, stray, found⟩).map fun (value, inner) =>
        (value, ⟨rest, scope, inner.stray <|> inner.leftover?, inner.found⟩) := by
  simp only [within, StateT.run_bind, run_get, ok_bind, if_true]
  cases inner : parser.run ⟨inside, ⟨closing, some delimiter⟩, stray, found⟩ with
  | error error => simp [inner, Except.map]
  | ok result => simp [inner, Except.map]

/-- A group of the given kind is taken, and its content is read. -/
theorem of_run_within {delimiter : Delimiter} {parser : Parser α} {value : α}
    (run : (within delimiter parser).run stream = .ok (value, other)) :
    ∃ opening closing content inner,
      stream.rest = .group delimiter opening closing content :: other.rest ∧
      parser.run ⟨content, ⟨closing, some delimiter⟩, stream.stray, stream.found⟩ =
        .ok (value, inner) ∧
      other.stray = (inner.stray <|> inner.leftover?) ∧ other.found = inner.found := by
  obtain ⟨rest, scope, stray, found⟩ := stream
  cases rest with
  | nil => simp [within, run_failHere] at run
  | cons tree more =>
      cases tree with
      | group actual opening closing content =>
          by_cases same : actual = delimiter
          · subst same
            rw [run_within] at run
            cases ended : parser.run ⟨content, ⟨closing, some actual⟩, stray, found⟩ with
            | error error => simp [ended, Except.map] at run
            | ok result =>
                obtain ⟨told, inner⟩ := result
                rw [ended] at run
                cases run
                exact ⟨opening, closing, content, inner, rfl, ended, rfl, rfl⟩
          · simp [within, same, run_failHere] at run
      | _ => simp [within, run_failHere] at run

/-- What is yielded in a group is what its content yields. -/
theorem Yields.within {good : α → Prop} {delimiter : Delimiter} {parser : Parser α}
    (yields : Yields parser good) : Yields (Parser.within delimiter parser) good := by
  intro stream value other run
  obtain ⟨_, _, _, _, -, inside, -, -⟩ := of_run_within run
  exact yields _ _ _ inside

/-- A group whose content is read to its end is taken. -/
theorem run_within_of_ok {delimiter : Delimiter} {opening closing : Position} {parser : Parser α}
    {value : α} {inner : Option SyntaxError} {items : List Item}
    (read : parser.run ⟨inside, ⟨closing, some delimiter⟩, stray, found⟩ =
      .ok (value, ⟨[], ⟨closing, some delimiter⟩, inner, items⟩)) :
    (within delimiter parser).run
        ⟨.group delimiter opening closing inside :: rest, scope, stray, found⟩ =
      .ok (value, ⟨rest, scope, inner, items⟩) := by
  rw [run_within, read]
  cases inner <;> rfl

/-- A step is repeated until it yields nothing. Each value is yielded for at least one token. -/
inductive Steps (step : Parser (Option α)) : Stream → List α → Stream → Prop
  | done {first last : Stream} (ended : step.run first = .ok (none, last)) :
      Steps step first [] last
  | more {first next last : Stream} {value : α} {values : List α}
      (taken : step.run first = .ok (some value, next))
      (shorter : next.rest.length < first.rest.length)
      (onward : Steps step next values last) : Steps step first (value :: values) last

theorem Steps.length_le {step : Parser (Option α)} {first last : Stream} {values : List α}
    (steps : Steps step first values last) : values.length ≤ first.rest.length := by
  induction steps with
  | done ended => exact Nat.zero_le _
  | more taken shorter onward ih =>
      simp only [List.length_cons]
      omega

theorem Steps.run_repeatUpTo {step : Parser (Option α)} {first last : Stream} {values : List α}
    (steps : Steps step first values last) {count : Nat} (long : values.length < count) :
    (repeatUpTo step count).run first = .ok (values, last) := by
  induction steps generalizing count with
  | done ended =>
      obtain ⟨count, rfl⟩ := Nat.exists_eq_add_of_lt long
      simp [repeatUpTo, ended]
  | more taken shorter onward ih =>
      obtain ⟨count, rfl⟩ : ∃ fewer, count = fewer + 1 :=
        Nat.exists_eq_add_one_of_ne_zero (Nat.ne_zero_of_lt long)
      simp [repeatUpTo, taken, ih (Nat.lt_of_succ_lt_succ long)]

/-- As many steps are made as there are. -/
theorem Steps.run_many {step : Parser (Option α)} {first last : Stream} {values : List α}
    (steps : Steps step first values last) : (many step).run first = .ok (values, last) :=
  steps.run_repeatUpTo (Nat.lt_succ_of_le steps.length_le)

end Parser

end RecordRegistry
