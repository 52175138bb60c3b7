/-
# The written forms of a text

A text that is to be written has the first of five forms that can hold it.  Each form is read as the
text it was written for: the form on one line between double quotes holds every text, and so does
the one on several lines; between single quotes there is no way to write a control character, and no
more than two quotes in a row.
-/

import RecordRegistry.Proofs.Toml.Spelling

namespace RecordRegistry.Toml

open Reader Written

section

variable {other : Reader (List Char)} {most room : Nat} {stop after written : List Char}
  {characters : List Char}

/-- What is written for a text with escapes is spelled well. -/
theorem spelled_escaped {isMultiline : Bool} (limit : room ≤ most)
    (escapes : ∀ {written character}, Escapes written character →
      ∀ after, Finds other (written ++ after) (· = [character]) after)
    (lines : isMultiline → ∀ after, Finds other ('\n' :: after) (· = ['\n']) after) :
    Spelled isPlain doubleQuote other most stop room
      (escaped isMultiline most room characters ++ stop) characters := by
  have escape {room : Nat} {written middle content : List Char} {character : Char}
      (isEscape : Escapes written character)
      (spelled : Spelled isPlain doubleQuote other most stop most middle content) :
      Spelled isPlain doubleQuote other most stop room (written ++ middle)
        (character :: content) := by
    obtain ⟨mark, rest, rfl, -⟩ := isEscape.marked
    exact .other (by decide) (by decide) (escapes isEscape middle) (by simp; omega) spelled
  induction characters generalizing room with
  | nil => exact .nil
  | cons character characters ih =>
      unfold Written.escaped
      by_cases isQuote : character = doubleQuote
      · subst isQuote
        rw [if_pos rfl]
        cases room with
        | zero =>
            change Spelled _ _ _ _ _ 0 (['\\', doubleQuote] ++ (_ ++ stop)) _
            exact escape escapes_doubleQuote (ih le_rfl)
        | succ room => exact .quote (ih (by omega))
      · rw [if_neg isQuote]
        cases wrote : escape? isMultiline character with
        | some written =>
            rw [Option.getD_some, List.append_assoc]
            exact escape (escapes_of_escape? wrote) (ih le_rfl)
        | none =>
            rcases isPlain_of_escape? wrote isQuote with plain | ⟨multiline, rfl⟩
            · exact .member plain (ih le_rfl)
            · exact .other (by decide) (by decide) (lines multiline _) (by simp) (ih le_rfl)

theorem finds_basicText :
    Finds basicText (basic characters ++ after) (· = String.ofList characters) after := by
  have elements : Elements isPlain doubleQuote (List.singleton <$> escape) 0 basicPiece :=
    ⟨by decide, id, fun some none => absurd some (by omega)⟩
  have spelled : Spelled isPlain doubleQuote (List.singleton <$> escape) 0 (doubleQuote :: after) 0
      (escaped false 0 0 characters ++ doubleQuote :: after) characters :=
    spelled_escaped le_rfl (fun isEscape after => ((isEscape.reads after).mono
      fun _ same => congrArg List.singleton same).map) (by simp)
  obtain ⟨count, few, body, rfl, follow⟩ := (spelled.onward elements rfl).ends
  obtain rfl : count = 0 := by omega
  have stopped : Declines basicPiece (doubleQuote :: after) := by
    refine (declines_chunk (by simp [isPlain])).either
      (Declines.map (Declines.bind (declines_require ?_)))
    rintro ⟨behind, same⟩
    exact absurd same (by simp [doubleQuote])
  rw [basic, List.append_assoc, List.append_assoc]
  apply (takes_require _).bind
  rintro - -
  apply (follow.repeated stopped).bind
  rintro pieces rfl
  apply ((takes_require [doubleQuote]).committed.named _).bind
  rintro - -
  exact finds_pure (by simp)

/-- What a piece between three double quotes is that is no run of plain characters. -/
def multilineBasicOther : Reader (List Char) :=
  either (do hiddenLineEnd; return []) <|
  either (List.singleton <$> escape) (do newline; return ['\n'])

/-- What a piece between three single quotes is that is no run of characters. -/
def multilineLiteralOther : Reader (List Char) := do newline; return ['\n']

theorem declines_require_cons {first next : Char} (differs : first ≠ next) :
    Declines (require [first]) (next :: after) := by
  apply declines_require
  rintro ⟨behind, same⟩
  exact differs (List.cons.inj same).1

theorem declines_hiddenLineEnd {mark : Char}
    (visible : ¬ isBlankInLine mark ∧ mark ≠ '\n' ∧ mark ≠ '\r') :
    Declines hiddenLineEnd ('\\' :: mark :: after) := by
  obtain ⟨noBlank, noFeed, noReturn⟩ := visible
  have none : (mark :: after).dropWhile isBlankInLine = mark :: after := by simp [noBlank]
  apply (takes_require ['\\']).bind_declines
  rintro - -
  apply (none ▸ takes_blanks).bind_declines
  rintro - -
  exact (declines_newline (by simpa using noFeed) (by simpa using noReturn)).bind

/-- Between three double quotes every escape is read as the character it stands for. -/
theorem finds_multilineBasicOther_escape {character : Char} (isEscape : Escapes written character) :
    Finds multilineBasicOther (written ++ after) (· = [character]) after := by
  have hidden : Declines hiddenLineEnd (written ++ after) := by
    obtain ⟨mark, rest, rfl, visible⟩ := isEscape.marked
    exact declines_hiddenLineEnd visible
  have read := (isEscape.reads after).mono fun _ same => congrArg List.singleton same
  exact (hidden.bind).either_right read.map.either_left

theorem finds_newline : Finds (do newline; return ['\n'] : Reader (List Char)) ('\n' :: after)
    (· = ['\n']) after := by
  apply takes_newline.bind
  rintro - -
  exact finds_pure rfl

theorem finds_multilineBasicOther_newline :
    Finds multilineBasicOther ('\n' :: after) (· = ['\n']) after := by
  have hidden : Declines hiddenLineEnd ('\n' :: after) := (declines_require_cons (by decide)).bind
  have noEscape : Declines escape ('\n' :: after) := (declines_require_cons (by decide)).bind
  exact hidden.bind.either_right (noEscape.map.either_right finds_newline)

theorem declines_multilineBasicOther : Declines multilineBasicOther (doubleQuote :: after) := by
  have hidden : Declines hiddenLineEnd (doubleQuote :: after) :=
    (declines_require_cons (by decide)).bind
  have noEscape : Declines escape (doubleQuote :: after) := (declines_require_cons (by decide)).bind
  exact hidden.bind.either (noEscape.map.either
    (declines_newline (by simp [doubleQuote]) (by simp [doubleQuote])).bind)

theorem declines_multilineLiteralOther : Declines multilineLiteralOther (singleQuote :: after) :=
  (declines_newline (by simp [singleQuote]) (by simp [singleQuote])).bind

/-- The end of a line is written behind the opening quotes if the text has several lines. -/
theorem takes_opening {hasLines : Bool} (inLine : hasLines = false →
    written.head? ≠ some '\n' ∧ written.head? ≠ some '\r') :
    Takes (optional? newline) ((if hasLines then ['\n'] else []) ++ written) written := by
  cases hasLines with
  | true => exact takes_newline.optional.mono fun _ _ => trivial
  | false =>
      obtain ⟨noFeed, noReturn⟩ := inLine rfl
      exact (declines_newline noFeed noReturn).optional.mono fun _ _ => trivial

theorem head?_escaped (inLine : '\n' ∉ characters) :
    (Written.escaped true 2 2 characters ++ doubleQuote :: after).head? ≠ some '\n' ∧
      (Written.escaped true 2 2 characters ++ doubleQuote :: after).head? ≠ some '\r' := by
  cases characters with
  | nil => simp [Written.escaped, doubleQuote]
  | cons character characters =>
      unfold Written.escaped
      by_cases isQuote : character = doubleQuote
      · simp [isQuote, doubleQuote]
      · rw [if_neg isQuote]
        cases wrote : escape? true character with
        | some written =>
            obtain ⟨mark, rest, rfl, -⟩ := (escapes_of_escape? wrote).marked
            simp
        | none =>
            rcases isPlain_of_escape? wrote isQuote with plain | ⟨-, rfl⟩
            · constructor <;> rintro ⟨⟩ <;> exact absurd plain (by decide)
            · exact absurd List.mem_cons_self inLine

/-- What stands between three quotes. -/
theorem multiline_append {quote : Char} {hasLines : Bool} :
    multiline quote hasLines written ++ after =
    List.replicate 3 quote ++ ((if hasLines then ['\n'] else []) ++
      (written ++ (List.replicate 3 quote ++ after))) := by
  simp only [multiline, List.append_assoc]

theorem finds_text_multilineBasic {hasLines : Bool} (inLine : hasLines = false → '\n' ∉ characters)
    (differs : after.head? ≠ some doubleQuote) :
    Finds text (multiline doubleQuote hasLines (Written.escaped true 2 2 characters) ++ after)
      (· = String.ofList characters) after := by
  have spelled : Spelled isPlain doubleQuote multilineBasicOther 2
      (List.replicate 3 doubleQuote ++ after) 2
      (Written.escaped true 2 2 characters ++ (List.replicate 3 doubleQuote ++ after)) characters :=
    spelled_escaped le_rfl (fun isEscape _ => finds_multilineBasicOther_escape isEscape)
      (fun _ _ => finds_multilineBasicOther_newline)
  have read := finds_multilineText (by decide) (fun _ => declines_multilineBasicOther)
    (takes_opening fun single => head?_escaped (inLine single)) spelled differs
  rw [multiline_append]
  apply finds_get.bind
  rintro ⟨rest, _⟩ rfl
  rw [if_pos (List.isPrefixOf_iff_prefix.mpr (List.prefix_append _ _))]
  exact read.named .multilineBasicString

/-- Two quotes with no further one behind them, or a quote before something else, do not open a text
of several lines. -/
theorem not_three_prefix {quote : Char} (noPair : written.head? = some quote →
    ∃ behind, written = quote :: behind ∧ behind.head? ≠ some quote) :
    ¬ List.replicate 3 quote <+: quote :: written := by
  rintro ⟨rest, same⟩
  obtain rfl : quote :: quote :: rest = written := (List.cons.inj same).2
  obtain ⟨behind, same, differs⟩ := noPair rfl
  exact differs (by rw [← (List.cons.inj same).2]; rfl)

theorem finds_text_basic (differs : after.head? ≠ some doubleQuote) :
    Finds text (basic characters ++ after) (· = String.ofList characters) after := by
  have noPair : ¬ List.replicate 3 doubleQuote <+: basic characters ++ after := by
    apply not_three_prefix
    cases characters with
    | nil => exact fun _ => ⟨after, rfl, differs⟩
    | cons character characters =>
        intro isQuote
        unfold Written.escaped at isQuote
        split at isQuote
        · simp [doubleQuote] at isQuote
        · next other =>
            cases wrote : escape? false character with
            | some written =>
                obtain ⟨mark, rest, rfl, -⟩ := (escapes_of_escape? wrote).marked
                simp [wrote, doubleQuote] at isQuote
            | none => simp [wrote, other] at isQuote
  apply finds_get.bind
  rintro ⟨rest, _⟩ rfl
  rw [if_neg (by simpa using noPair), if_neg (by simp [basic, doubleQuote, singleQuote]),
    if_neg (by simp [basic, doubleQuote, singleQuote])]
  exact finds_basicText

/-- At most `most` characters of a kind follow each other, and at most `room` at the front. -/
def RunsWithin (wanted : Char) (most : Nat) : Nat → List Char → Prop
  | _, [] => True
  | room, character :: rest =>
    if character = wanted then 0 < room ∧ RunsWithin wanted most (room - 1) rest
    else RunsWithin wanted most most rest

/-- One character of the search for the longest run: the length of the run that ends here, and of
the longest one. -/
def runStep (wanted : Char) (state : Nat × Nat) (character : Char) : Nat × Nat :=
  let run := if character = wanted then state.1 + 1 else 0
  (run, max state.2 run)

theorem le_foldl_runStep {wanted : Char} (state : Nat × Nat) :
    state.2 ≤ (characters.foldl (runStep wanted) state).2 := by
  induction characters generalizing state with
  | nil => exact le_rfl
  | cons character characters ih =>
      have kept : state.2 ≤ (runStep wanted state character).2 := le_max_left _ _
      exact kept.trans (ih _)

/-- The longest run never gets shorter, so that each run is within the limit at its end. -/
theorem runsWithin_of_foldl {wanted : Char} {state : Nat × Nat} (all : state.1 + room = most)
    (few : (characters.foldl (runStep wanted) state).2 ≤ most) :
    RunsWithin wanted most room characters := by
  induction characters generalizing state room with
  | nil => trivial
  | cons character characters ih =>
      rw [List.foldl_cons] at few
      unfold RunsWithin
      split
      · next same =>
          have reached : state.1 + 1 ≤ most := by
            refine le_trans ?_ ((le_foldl_runStep _).trans few)
            simp [runStep, same]
          refine ⟨by omega, ih ?_ few⟩
          simp only [runStep, same, if_true]
          omega
      · next different => exact ih (by simp [runStep, different]) few

theorem runsWithin_of_longestRun {wanted : Char} (few : longestRun wanted characters ≤ most) :
    RunsWithin wanted most most characters :=
  runsWithin_of_foldl (Nat.zero_add most) few

theorem RunsWithin.not_mem {wanted : Char} (runs : RunsWithin wanted 0 0 characters) :
    wanted ∉ characters := by
  induction characters with
  | nil => simp
  | cons character characters ih =>
      unfold RunsWithin at runs
      split at runs
      · exact absurd runs.1 (lt_irrefl 0)
      · next different => exact List.not_mem_cons_of_ne_of_not_mem (Ne.symm different) (ih runs)

/-- A character of a text without control characters stands for itself between single quotes, or is
the end of a line, or a quote. -/
theorem isVerbatim_of_hasControl (control : hasControl characters = false) {character : Char}
    (isIn : character ∈ characters) :
    isVerbatim character ∨ character = singleQuote ∨ character = '\n' := by
  have each := List.any_eq_false.mp control character isIn
  by_cases isQuote : character = singleQuote
  · exact .inr (.inl isQuote)
  · simp only [Bool.and_eq_true, bne_iff_ne, not_and, not_not] at each
    by_cases isControl_ : isControl character
    · exact .inr (.inr (each isControl_))
    · exact .inl (by simp [isVerbatim, isControl_, isQuote])

/-- A text without control characters in which no run of quotes is too long is spelled well as it
stands. -/
theorem spelled_literal (each : ∀ character ∈ characters,
      isVerbatim character ∨ character = singleQuote ∨ character = '\n')
    (runs : RunsWithin singleQuote most room characters) :
    Spelled isVerbatim singleQuote multilineLiteralOther most stop room (characters ++ stop)
      characters := by
  induction characters generalizing room with
  | nil => exact .nil
  | cons character characters ih =>
      obtain ⟨first, others⟩ := List.forall_mem_cons.mp each
      unfold RunsWithin at runs
      split at runs
      · next isQuote =>
          subst isQuote
          obtain ⟨room, rfl⟩ := Nat.exists_eq_add_of_lt runs.1
          exact .quote (by simpa using ih others runs.2)
      · next noQuote =>
          rcases first with verbatim | isQuote | rfl
          · exact .member verbatim (ih others runs)
          · exact absurd isQuote noQuote
          · exact .other (by decide) (by decide) finds_newline (by simp) (ih others runs)

theorem finds_text_multilineLiteral {hasLines : Bool}
    (inLine : hasLines = false → '\n' ∉ characters)
    (control : hasControl characters = false) (few : longestRun singleQuote characters ≤ 2)
    (differs : after.head? ≠ some singleQuote) :
    Finds text (multiline singleQuote hasLines characters ++ after)
      (· = String.ofList characters) after := by
  have each : ∀ character ∈ characters, isVerbatim character ∨ character = singleQuote ∨
      character = '\n' := fun _ => isVerbatim_of_hasControl control
  have spelled : Spelled isVerbatim singleQuote multilineLiteralOther 2
      (List.replicate 3 singleQuote ++ after) 2
      (characters ++ (List.replicate 3 singleQuote ++ after)) characters :=
    spelled_literal each (runsWithin_of_longestRun few)
  have starts (single : hasLines = false) :
      (characters ++ (List.replicate 3 singleQuote ++ after)).head? ≠ some '\n' ∧
        (characters ++ (List.replicate 3 singleQuote ++ after)).head? ≠ some '\r' := by
    cases characters with
    | nil => simp [singleQuote]
    | cons character characters =>
        rcases each character List.mem_cons_self with verbatim | rfl | rfl
        · constructor <;> rintro ⟨⟩ <;> exact absurd verbatim (by decide)
        · simp [singleQuote]
        · exact absurd List.mem_cons_self (inLine single)
  have read := finds_multilineText (by decide) (fun _ => declines_multilineLiteralOther)
    (takes_opening starts) spelled differs
  rw [multiline_append]
  apply finds_get.bind
  rintro ⟨rest, _⟩ rfl
  rw [if_neg (by simp [doubleQuote, singleQuote, List.replicate]),
    if_pos (List.isPrefixOf_iff_prefix.mpr (List.prefix_append _ _))]
  exact read.named .multilineLiteralString

theorem finds_text_literal (control : hasControl characters = false)
    (none : longestRun singleQuote characters = 0) (inLine : '\n' ∉ characters)
    (differs : after.head? ≠ some singleQuote) :
    Finds text (literal characters ++ after) (· = String.ofList characters) after := by
  have noQuote := (runsWithin_of_longestRun none.le).not_mem
  have verbatim : ∀ character ∈ characters, isVerbatim character := by
    intro character isIn
    rcases isVerbatim_of_hasControl control isIn with verbatim | rfl | rfl
    · exact verbatim
    · exact absurd isIn noQuote
    · exact absurd isIn inLine
  have noPair : ¬ List.replicate 3 singleQuote <+: literal characters ++ after := by
    apply not_three_prefix
    cases characters with
    | nil => exact fun _ => ⟨after, rfl, differs⟩
    | cons character characters =>
        rintro ⟨⟩
        exact absurd List.mem_cons_self noQuote
  have read : Finds literalText (literal characters ++ after)
      (· = String.ofList characters) after := by
    apply Finds.named
    rw [literal, List.append_assoc, List.append_assoc]
    apply (takes_require [singleQuote]).bind
    rintro - -
    apply (finds_run verbatim (by simp [isVerbatim])).bind
    rintro _ rfl
    apply (takes_require [singleQuote]).committed.bind
    rintro - -
    exact finds_pure rfl
  apply finds_get.bind
  rintro ⟨rest, _⟩ rfl
  rw [if_neg (by simp [literal, doubleQuote, singleQuote, List.replicate]),
    if_neg (by simpa using noPair), if_pos (by simp [literal])]
  exact read

/-- A text is read as it was written, in whatever form. -/
theorem finds_text (noDouble : after.head? ≠ some doubleQuote)
    (noSingle : after.head? ≠ some singleQuote) :
    Finds text (value characters ++ after) (· = String.ofList characters) after := by
  unfold Written.value
  extract_lets double single control backslash hasLines multilineBasic
  have inLine (none : hasLines = false) : '\n' ∉ characters := by
    simpa [hasLines] using none
  split_ifs with first second third fourth fifth
  · exact finds_text_basic noDouble
  · simp only [Bool.and_eq_true, Bool.not_eq_true', decide_eq_true_eq] at second
    exact finds_text_literal second.1.1 second.1.2 (inLine second.2) noSingle
  · exact finds_text_multilineBasic inLine noDouble
  · simp only [Bool.and_eq_true, Bool.not_eq_true', decide_eq_true_eq] at fourth
    exact finds_text_multilineLiteral inLine fourth.1 fourth.2 noSingle
  · exact finds_text_multilineBasic inLine noDouble
  · exact finds_text_basic noDouble

end

end RecordRegistry.Toml
