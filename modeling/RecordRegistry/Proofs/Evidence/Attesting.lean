/-
# What the tokens attest

Behind a value that a parser yields stand the tokens that it has taken.  `Attests` states for one
parser how they are related, given that no group in them had anything left over; a group that is
read is read to its end then.  Here are the elementary parsers and the ways to combine parsers, so
that a production is followed by combining what is known of its parts.
-/

import RecordRegistry.Proofs.Provenance.Keeping

namespace RecordRegistry

namespace Sought

variable {sought : Sought} {rest taken : List TokenTree} {count : Nat}

theorem length_le_of_startsWithMarks {marks : List Char} {rest : List TokenTree}
    (starts : startsWithMarks marks rest = true) : marks.length ≤ rest.length := by
  induction marks generalizing rest with
  | nil => exact Nat.zero_le _
  | cons wanted more ih =>
      cases more with
      | nil =>
          obtain ⟨joint, position, others, rfl⟩ := exists_of_mark starts
          simp
      | cons next others =>
          obtain ⟨position, after, rfl, onward⟩ := exists_of_marks starts
          simpa using ih onward

theorem length_le_of_matched? (there : sought.matched? rest = some count) :
    count ≤ rest.length := by
  cases sought with
  | identifier =>
      obtain ⟨spelling, position, more, rfl, -, rfl⟩ := exists_of_identifier there
      simp
  | anyName =>
      unfold matched? at there
      split at there <;> simp_all
  | word word =>
      obtain ⟨position, more, rfl, rfl⟩ := exists_of_word there
      simp
  | mark marks =>
      obtain ⟨starts, rfl⟩ := starts_of_mark there
      simpa [String.length_toList] using length_le_of_startsWithMarks starts
  | lifetime =>
      obtain ⟨mark, spelling, position, more, rfl, rfl⟩ := exists_of_lifetime there
      simp
  | literal =>
      rcases cases_of_literal there with ⟨spelling, position, more, rfl, rfl⟩ |
        ⟨spelling, position, more, rfl, rfl, -⟩ | ⟨joint, mark, spelling, position, more, rfl, rfl⟩
      all_goals simp
  | string =>
      obtain ⟨spelling, position, more, rfl, rfl⟩ := exists_of_string there
      simp
  | opened delimiter =>
      obtain ⟨opening, closing, content, more, rfl, rfl⟩ := exists_of_opened there
      simp

/-- The tokens are what is sought, in front of something. -/
def Is (sought : Sought) (taken : List TokenTree) : Prop :=
  ∃ rest, sought.matched? (taken ++ rest) = some taken.length

theorem Is.exists_of_word {word : String} (is : (Sought.word word).Is taken) :
    ∃ position, taken = [.name word position] := by
  obtain ⟨rest, there⟩ := is
  obtain ⟨position, more, next, single⟩ := Sought.exists_of_word there
  obtain ⟨tree, rfl⟩ := List.length_eq_one_iff.mp single
  obtain ⟨rfl, -⟩ := List.cons.inj next
  exact ⟨position, rfl⟩

theorem Is.exists_of_character (wanted : Char) {marks : String} (single : marks.toList = [wanted])
    (is : (Sought.mark marks).Is taken) :
    ∃ joint position, taken = [.mark wanted joint position] := by
  obtain ⟨rest, there⟩ := is
  obtain ⟨joint, position, more, next, single⟩ := Sought.exists_of_character wanted single there
  obtain ⟨tree, rfl⟩ := List.length_eq_one_iff.mp single
  obtain ⟨rfl, -⟩ := List.cons.inj next
  exact ⟨joint, position, rfl⟩

end Sought

namespace Ground

/-- The ground that begins where a stream stands, and says nothing of names and places. -/
def startingAt (stream : Stream) : Ground where
  name _ := True
  type _ := True
  place _ := True
  noted := stream.stray ≠ none
  whole := stream.rest
  scope := stream.scope

variable {stream : Stream}

mutual

theorem tree_startingAt (tree : TokenTree) : (startingAt stream).Tree tree :=
  match tree with
  | .name _ _ => ⟨trivial, trivial⟩
  | .mark _ _ _ | .literal _ _ => trivial
  | .group _ _ _ content =>
      ⟨trivial, trivial, fun _ _ _ _ => trivial, trees_startingAt content⟩

theorem trees_startingAt (trees : List TokenTree) : (startingAt stream).Trees trees :=
  match trees with
  | [] => trivial
  | tree :: rest => ⟨tree_startingAt tree, trees_startingAt rest⟩

end

theorem held_startingAt : (startingAt stream).Held stream where
  trees := trees_startingAt stream.rest
  typed _ _ _ _ := trivial
  closing := trivial
  rest := List.suffix_rfl
  scope := rfl
  stray _ _ := trivial
  noted := id
  found _ _ _ _ _ := trivial

end Ground

namespace Parser

variable {α β : Type} {parser : Parser α} {sought : Sought}
  {stands better : α → List TokenTree → Prop}

/-- What a parser yields and the tokens that it has taken are related, if it has left nothing over
in a group. -/
def Attests (parser : Parser α) (stands : α → List TokenTree → Prop) : Prop :=
  ∀ stream value other, parser.run stream = .ok (value, other) → other.stray = none →
    stream.stray = none ∧ ∃ taken, stream.rest = taken ++ other.rest ∧ stands value taken

/-- A parser takes no tokens. -/
abbrev Looks (parser : Parser α) : Prop := Attests parser fun _ taken => taken = []

namespace Attests

theorem mono (attests : Attests parser stands)
    (weaker : ∀ value taken, stands value taken → better value taken) : Attests parser better := by
  intro stream value other run clean
  obtain ⟨before, taken, next, stood⟩ := attests stream value other run clean
  exact ⟨before, taken, next, weaker value taken stood⟩

theorem pure {value : α} (stood : stands value []) : Attests (Pure.pure value) stands := by
  rintro stream _ other ⟨⟩ clean
  exact ⟨clean, [], rfl, stood⟩

/-- What is known of the first part is a premise of what is said of the second, because whether a
group had anything left over is only known at the end. -/
theorem bind {first : Parser β} {next : β → Parser α} {before : β → List TokenTree → Prop}
    (one : Attests first before)
    (onward : ∀ value, Attests (next value) fun result more =>
      ∀ taken, before value taken → stands result (taken ++ more)) :
    Attests (first >>= next) stands := by
  intro stream value other run clean
  obtain ⟨middle, between, runFirst, runNext⟩ := run_bind_eq_ok_iff.mp run
  obtain ⟨tidy, more, later, stood⟩ := onward middle between value other runNext clean
  obtain ⟨start, taken, earlier, known⟩ := one stream middle between runFirst tidy
  refine ⟨start, taken ++ more, ?_, stood taken known⟩
  rw [earlier, later, List.append_assoc]

/-- Looking ahead takes nothing. -/
theorem look {first : Parser β} {next : β → Parser α} (looks : Looks first)
    (onward : ∀ value, Attests (next value) stands) : Attests (first >>= next) stands :=
  looks.bind fun value => (onward value).mono fun _ _ stood _ none => none ▸ stood

theorem ite {condition : Prop} [Decidable condition] {first second : Parser α}
    (holds : Attests first stands) (fails : Attests second stands) :
    Attests (if condition then first else second) stands := by
  split
  · exact holds
  · exact fails

theorem map {change : α → β} {told : β → List TokenTree → Prop} (attests : Attests parser stands)
    (weaker : ∀ value taken, stands value taken → told (change value) taken) :
    Attests (change <$> parser) told := by
  rw [map_eq_pure_bind]
  exact attests.bind fun value => .pure fun taken stood => by
    simpa using weaker value taken stood

/-- Of a parser that stays within its scope, it is known what it yields whatever it takes. -/
theorem of_yields {good : α → Prop} (stays : ∀ ground, Stays ground parser)
    (yields : Yields parser good) : Attests parser fun value _ => good value := by
  intro stream value other run clean
  have kept := keeps_iff.mp (stays (.startingAt stream)) stream Ground.held_startingAt
  rw [run] at kept
  obtain ⟨taken, next⟩ := kept.1.rest
  exact ⟨by_contra fun noted => kept.1.noted noted clean, taken, next.symm,
    yields stream value other run⟩

theorem of_stays (stays : ∀ ground, Stays ground parser) : Attests parser fun _ _ => True :=
  of_yields stays fun _ _ _ _ => trivial

/-- What is sought is taken or is not there. -/
theorem accepting {next : Bool → Parser α}
    (there : Attests (next true) fun value more =>
      ∀ taken, sought.Is taken → stands value (taken ++ more))
    (absent : Attests (next false) stands) : Attests (accept sought >>= next) stands := by
  intro stream value other run clean
  rw [StateT.run_bind, run_accept] at run
  cases matched : sought.matched? stream.rest with
  | none =>
      rw [matched] at run
      exact absent stream value other run clean
  | some count =>
      rw [matched] at run
      obtain ⟨before, more, later, stood⟩ := there _ value other run clean
      have long := Sought.length_le_of_matched? matched
      have split := List.take_append_drop count stream.rest
      refine ⟨before, stream.rest.take count ++ more, ?_, stood _ ⟨stream.rest.drop count, ?_⟩⟩
      · rw [List.append_assoc, ← later, split]
      · rw [split, matched, List.length_take, Nat.min_eq_left long]

end Attests

theorem attests_failHere (fault : SyntaxFault) : Attests (failHere fault : Parser α) stands := by
  rintro stream value other ⟨⟩

theorem attests_expectedOneOf (alternatives : List Sought) :
    Attests (expectedOneOf alternatives : Parser α) stands := by
  rintro stream value other ⟨⟩

theorem attests_of_run (same : ∀ stream, ∃ value, parser.run stream = .ok (value, stream)) :
    Looks parser := by
  intro stream value other run clean
  obtain ⟨found, ends⟩ := same stream
  rw [ends] at run
  cases run
  exact ⟨clean, [], rfl, rfl⟩

theorem attests_get : Looks get := attests_of_run fun stream => ⟨stream, rfl⟩

theorem attests_here : Looks here := attests_of_run fun stream => ⟨_, run_here stream⟩

theorem attests_atEnd : Looks atEnd := attests_of_run fun stream => ⟨_, run_atEnd stream⟩

theorem attests_peek (sought : Sought) : Looks (peek sought) :=
  attests_of_run fun stream => ⟨_, run_peek sought stream⟩

theorem attests_peekAny (alternatives : List Sought) : Looks (peekAny alternatives) :=
  attests_of_run fun stream => ⟨_, run_peekAny alternatives stream⟩

theorem attests_peekSecond (sought : Sought) : Looks (peekSecond sought) :=
  attests_of_run fun stream => ⟨_, run_peekSecond sought stream⟩

theorem attests_peekThird (sought : Sought) : Looks (peekThird sought) :=
  attests_of_run fun stream => ⟨_, run_peekThird sought stream⟩

theorem attests_peekBut (sought except : Sought) : Looks (peekBut sought except) :=
  attests_of_run fun stream => ⟨_, run_peekBut sought except stream⟩

theorem attests_ahead? (parser : Parser α) : Looks (ahead? parser) :=
  attests_of_run fun stream => ⟨_, run_ahead? parser stream⟩

/-- Noting items takes nothing. -/
theorem attests_note (note : Stream → List Item) :
    Looks (modify fun stream => { stream with found := note stream } : Parser PUnit) := by
  rintro stream _ other ⟨⟩ clean
  exact ⟨clean, [], rfl, rfl⟩

theorem attests_acceptAny (alternatives : List Sought) : Attests (acceptAny alternatives)
    fun found taken => found = false → taken = [] := by
  induction alternatives with
  | nil => exact .pure fun _ => rfl
  | cons sought others ih => exact .accepting (.pure fun _ _ absurd => by cases absurd) ih

theorem attests_require (sought : Sought) :
    Attests (require sought) fun _ taken => sought.Is taken := by
  refine .accepting (.pure fun taken is => by simpa using is) ?_
  cases sought with
  | mark marks => exact .look attests_here fun _ => by rintro stream value other ⟨⟩
  | _ => exact attests_failHere _

theorem attests_anyName : Attests anyName fun name taken =>
    taken = [.name name.spelling name.position] := by
  rintro ⟨rest, scope, stray, found⟩ value other run clean
  cases rest with
  | nil => simp [anyName, run_failHere] at run
  | cons tree more =>
      cases tree with
      | name spelling position =>
          cases run
          exact ⟨clean, _, rfl, rfl⟩
      | _ => simp [anyName, run_failHere] at run

theorem attests_identifier : Attests identifier fun name taken =>
    taken = [.name name.spelling name.position] := by
  refine .look attests_get fun stream => ?_
  split
  · exact .ite (attests_failHere _) attests_anyName
  · exact attests_failHere _

theorem attests_identifierOr (words : List String) : Attests (identifierOr words) fun name taken =>
    taken = [.name name.spelling name.position] :=
  .look (attests_peekAny _) fun _ => .ite attests_anyName attests_identifier

/-- The content of a group is read to its end. -/
theorem attests_within {delimiter : Delimiter} (attests : Attests parser stands) :
    Attests (within delimiter parser) fun value taken => ∃ opening closing content,
      taken = [.group delimiter opening closing content] ∧ stands value content := by
  intro stream value other run clean
  obtain ⟨opening, closing, content, inner, group, inside, stray, -⟩ := of_run_within run
  obtain ⟨tidy, empty⟩ : inner.stray = none ∧ inner.leftover? = none := by
    simpa [stray, Option.orElse_eq_none] using clean
  obtain ⟨before, taken, next, stood⟩ := attests _ _ inner inside tidy
  have done : inner.rest = [] := by
    simpa [Stream.leftover?] using empty
  obtain rfl : content = taken := by simpa [done] using next
  exact ⟨before, _, group, opening, closing, content, rfl, stood⟩

theorem attests_anyGroup : Attests anyGroup fun group taken =>
    ∃ opening closing, taken = [.group group.1 opening closing group.2] := by
  rintro ⟨rest, scope, stray, found⟩ value other run clean
  cases rest with
  | nil => simp [anyGroup, run_failHere] at run
  | cons tree more =>
      cases tree with
      | group delimiter opening closing content =>
          cases run
          exact ⟨clean, _, rfl, opening, closing, rfl⟩
      | _ => simp [anyGroup, run_failHere] at run

/-- The tokens of some values, one after the other. -/
inductive Repeated (stands : α → List TokenTree → Prop) : List α → List TokenTree → Prop
  | nil : Repeated stands [] []
  | cons {value : α} {values : List α} {taken more : List TokenTree} (stood : stands value taken)
      (onward : Repeated stands values more) : Repeated stands (value :: values) (taken ++ more)

theorem Repeated.append {first second : List α} {taken more : List TokenTree}
    (one : Repeated stands first taken) (other : Repeated stands second more) :
    Repeated stands (first ++ second) (taken ++ more) := by
  induction one with
  | nil => exact other
  | cons stood onward ih =>
      rw [List.cons_append, List.append_assoc]
      exact .cons stood ih

theorem Repeated.mono {values : List α} {taken : List TokenTree}
    (repeated : Repeated stands values taken)
    (weaker : ∀ value taken, stands value taken → better value taken) :
    Repeated better values taken := by
  induction repeated with
  | nil => exact .nil
  | cons stood onward ih => exact .cons (weaker _ _ stood) ih

/-- The last value, with its tokens at the end. -/
theorem Repeated.exists_of_concat {values : List α} {last : α} {taken : List TokenTree}
    (repeated : Repeated stands (values ++ [last]) taken) :
    ∃ before ending, taken = before ++ ending ∧ Repeated stands values before ∧
      stands last ending := by
  induction values generalizing taken with
  | nil =>
      obtain _ | ⟨stood, onward⟩ := repeated
      cases onward
      exact ⟨[], _, by simp, .nil, stood⟩
  | cons value values ih =>
      obtain _ | ⟨stood, onward⟩ := repeated
      obtain ⟨before, ending, rfl, earlier, ended⟩ := ih onward
      exact ⟨_, ending, (List.append_assoc _ _ _).symm, .cons stood earlier, ended⟩

/-- The tokens that stand at the place of one of the values. -/
theorem Repeated.exists_of_mem {values : List α} {value : α} {taken : List TokenTree}
    (repeated : Repeated stands values taken) (met : value ∈ values) :
    ∃ before own after, taken = before ++ own ++ after ∧ stands value own := by
  induction repeated with
  | nil => contradiction
  | @cons first others own more stood onward ih =>
      rcases List.mem_cons.mp met with rfl | later
      · exact ⟨[], own, more, rfl, stood⟩
      · obtain ⟨before, inner, after, rfl, stood⟩ := ih later
        exact ⟨own ++ before, inner, after, by simp, stood⟩

theorem attests_many {step : Parser (Option α)}
    (attests : Attests step fun value? taken =>
      match value? with
      | some value => stands value taken
      | none => taken = []) : Attests (many step) (Repeated stands) := by
  refine .look attests_get fun stream => ?_
  generalize stream.rest.length + 1 = count
  induction count with
  | zero => exact .pure .nil
  | succ count ih =>
      refine attests.bind fun value? => ?_
      cases value? with
      | none =>
          refine .pure fun taken empty => ?_
          obtain rfl : taken = [] := empty
          exact .nil
      | some value =>
          exact ih.bind fun values => .pure fun more repeated taken stood => by
            simpa using repeated.cons stood

theorem attests_whileHolds {test : Parser Bool} (looks : Looks test)
    (attests : Attests parser stands) : Attests (whileHolds test parser) (Repeated stands) := by
  refine attests_many (.look looks fun goes => .ite ?_ (.pure rfl))
  exact attests.map fun _ _ stood => stood

/-- What is tested for may be taken by the test. -/
theorem attests_whileAccepted (attests : Attests parser stands) :
    Attests (whileHolds (accept sought) parser) (Repeated fun value taken =>
      ∃ separator more, taken = separator ++ more ∧ sought.Is separator ∧ stands value more) := by
  refine attests_many (.accepting ?_ ?_)
  · rw [if_pos rfl]
    exact attests.map fun _ _ stood taken is => ⟨taken, _, rfl, is, stood⟩
  · rw [if_neg Bool.false_ne_true]
    exact .pure rfl

/-- The tokens of some values, with commas between them. -/
inductive Separated (stands : α → List TokenTree → Prop) : List α → List TokenTree → Prop
  | nil : Separated stands [] []
  | last {value : α} {taken : List TokenTree} (stood : stands value taken) :
      Separated stands [value] taken
  | cons {value : α} {values : List α} {taken more : List TokenTree} {joint : Bool}
      {position : Position} (stood : stands value taken) (onward : Separated stands values more) :
      Separated stands (value :: values) (taken ++ .mark ',' joint position :: more)

theorem attests_commaList (attests : Attests parser stands) :
    Attests (commaList parser) (Separated stands) := by
  have values (count : Nat) :
      Attests (separatedUntil.repeatFrom (.mark ",") atEnd parser true count) (Separated stands) ∧
        Attests (separatedUntil.repeatFrom (.mark ",") atEnd parser false count)
          fun values taken => taken = [] ∧ values = [] ∨ ∃ joint position more,
            taken = .mark ',' joint position :: more ∧ Separated stands values more := by
    induction count with
    | zero => exact ⟨.pure .nil, .pure (.inl ⟨rfl, rfl⟩)⟩
    | succ count ih =>
        have onward : Attests (do
            let value ← parser
            let others ← separatedUntil.repeatFrom (.mark ",") atEnd parser false count
            return value :: others) (Separated stands) := by
          refine attests.bind fun value => ih.2.bind fun others => .pure ?_
          rintro more (⟨rfl, rfl⟩ | ⟨joint, position, more, rfl, listed⟩) taken stood
          · simpa using .last stood
          · simpa using .cons stood listed
        constructor
        · exact .look attests_atEnd fun _ => .ite (.pure .nil) onward
        · refine .look attests_atEnd fun _ => .ite (.pure (.inl ⟨rfl, rfl⟩)) ?_
          refine (attests_require _).bind fun _ => .look attests_atEnd fun _ => .ite (.pure ?_) ?_
          · intro comma is
            obtain ⟨joint, position, rfl⟩ := is.exists_of_character ',' (by simp)
            exact .inr ⟨joint, position, [], rfl, .nil⟩
          · refine onward.mono fun values more listed comma is => ?_
            obtain ⟨joint, position, rfl⟩ := is.exists_of_character ',' (by simp)
            exact .inr ⟨joint, position, more, rfl, listed⟩
  exact .look attests_get fun stream => (values _).1

end Parser

end RecordRegistry
