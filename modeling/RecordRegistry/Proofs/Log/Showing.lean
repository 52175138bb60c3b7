/-
# What a log filter shows

A pattern fits pieces of a text, and `Fits` says which: from the place before a piece to the place
after it.  The search for places where a match ends finds exactly these, although it repeats
a pattern no more often than there are characters left.  A pattern in which no mark has a meaning
of its own is searched for as it is written.
-/

import RecordRegistry.Log
import RecordRegistry.Proofs.Results

namespace RecordRegistry

namespace SearchPlace

/-- The place between two parts of a text. -/
def between (passed rest : List Char) : SearchPlace := ⟨passed.getLast?, rest⟩

/-- A later place of the same text, or the same place. -/
def Onward (place last : SearchPlace) : Prop :=
  ∃ piece, place.rest = piece ++ last.rest ∧ last.before = piece.getLast?.or place.before

theorem getLast?_cons_or (character : Char) (text : List Char) (before : Option Char) :
    (character :: text).getLast?.or before = text.getLast?.or (some character) := by
  rw [List.getLast?_cons]
  cases text.getLast? <;> rfl

theorem Onward.refl (place : SearchPlace) : place.Onward place := ⟨[], rfl, rfl⟩

theorem Onward.trans {place middle last : SearchPlace} (first : place.Onward middle)
    (second : middle.Onward last) : place.Onward last := by
  obtain ⟨piece, rest, before⟩ := first
  obtain ⟨further, rest', before'⟩ := second
  refine ⟨piece ++ further, by rw [rest, rest', List.append_assoc], ?_⟩
  rw [before', before, List.getLast?_append, Option.or_assoc]

/-- What goes onward stays in place or leaves less of the text. -/
theorem Onward.eq_or_lt {place last : SearchPlace} (onward : place.Onward last) :
    place = last ∨ last.rest.length < place.rest.length := by
  obtain ⟨piece, rest, before⟩ := onward
  cases piece with
  | nil => exact .inl (by cases place; cases last; simp_all)
  | cons character piece =>
    rw [rest, List.length_append, List.length_cons]
    exact .inr (by omega)

theorem mem_following_iff {before : Option Char} {text : List Char} {place : SearchPlace} :
    place ∈ following before text ↔ Onward ⟨before, text⟩ place := by
  induction text generalizing before with
  | nil =>
    simp only [following, List.mem_singleton]
    constructor
    · rintro rfl
      exact .refl _
    · rintro ⟨piece, rest, last⟩
      obtain ⟨rfl, empty⟩ := List.append_eq_nil_iff.mp rest.symm
      cases place
      simp_all
  | cons character text ih =>
    rw [following, List.mem_cons, ih]
    constructor
    · rintro (rfl | onward)
      · exact .refl _
      · exact .trans ⟨[character], rfl, rfl⟩ onward
    · rintro ⟨piece, rest, last⟩
      cases piece with
      | nil =>
        refine .inl ?_
        cases place
        simp_all
      | cons first piece =>
        obtain ⟨rfl, remains⟩ := List.cons.inj rest
        exact .inr ⟨piece, remains, last.trans (getLast?_cons_or character piece before)⟩

end SearchPlace

namespace SearchPattern

/-- So many steps of a relation in a row. -/
def Steps (step : SearchPlace → SearchPlace → Prop) : Nat → SearchPlace → SearchPlace → Prop
  | 0, place, last => place = last
  | count + 1, place, last => ∃ middle, step place middle ∧ Steps step count middle last

/-- The pieces of a text that a pattern fits, by the places before and after each. -/
def Fits : SearchPattern → SearchPlace → SearchPlace → Prop
  | empty, place, last => place = last
  | one set, place, last =>
    ∃ character, set.contains character = true ∧ place.rest = character :: last.rest ∧
      last.before = some character
  | atBoundary boundary, place, last => place = last ∧ boundary.isAt place = true
  | append first second, place, last => ∃ middle, first.Fits place middle ∧ second.Fits middle last
  | either first second, place, last => first.Fits place last ∨ second.Fits place last
  | repeated pattern least more, place, last =>
    ∃ count, least ≤ count ∧ (∀ bound ∈ more, count ≤ least + bound) ∧
      Steps pattern.Fits count place last

section Steps

variable {step : SearchPlace → SearchPlace → Prop} {place last : SearchPlace}

theorem steps_add_iff {first second : Nat} :
    Steps step (first + second) place last ↔
      ∃ middle, Steps step first place middle ∧ Steps step second middle last := by
  induction first generalizing place with
  | zero => simp [Steps]
  | succ first ih =>
    rw [Nat.add_right_comm]
    simp only [Steps, ih]
    exact ⟨fun ⟨next, made, middle, steps, further⟩ => ⟨middle, ⟨next, made, steps⟩, further⟩,
      fun ⟨middle, ⟨next, made, steps⟩, further⟩ => ⟨next, made, middle, steps, further⟩⟩

theorem Steps.onward {count : Nat} (onward : ∀ {place last}, step place last → place.Onward last)
    (steps : Steps step count place last) : place.Onward last := by
  induction count generalizing place with
  | zero => exact steps ▸ .refl place
  | succ count ih =>
    obtain ⟨middle, made, steps⟩ := steps
    exact (onward made).trans (ih steps)

/-- Steps that stay in place can be left out, and the others are no more than there are
characters. -/
theorem Steps.shorten {count : Nat} (onward : ∀ {place last}, step place last → place.Onward last)
    (steps : Steps step count place last) :
    ∃ fewer, fewer ≤ count ∧ fewer ≤ place.rest.length ∧ Steps step fewer place last := by
  induction count generalizing place with
  | zero => exact ⟨0, Nat.le_refl _, Nat.zero_le _, steps⟩
  | succ count ih =>
    obtain ⟨middle, made, steps⟩ := steps
    obtain ⟨fewer, less, short, steps⟩ := ih steps
    rcases (onward made).eq_or_lt with rfl | shorter
    · exact ⟨fewer, by omega, short, steps⟩
    · exact ⟨fewer + 1, by omega, by omega, middle, made, steps⟩

/-- Beyond the least number of steps, as many as there are characters left are enough. -/
theorem exists_steps_iff (onward : ∀ {place last}, step place last → place.Onward last)
    {least : Nat} {more : Option Nat} :
    (∃ middle, Steps step least place middle ∧
      ∃ count ≤ (more.map (min place.rest.length)).getD place.rest.length,
        Steps step count middle last) ↔
      ∃ count, least ≤ count ∧ (∀ bound ∈ more, count ≤ least + bound) ∧
        Steps step count place last := by
  constructor
  · rintro ⟨middle, steps, count, few, further⟩
    refine ⟨least + count, by omega, fun bound bounded => ?_,
      steps_add_iff.mpr ⟨middle, steps, further⟩⟩
    rw [Option.mem_def.mp bounded] at few
    simp only [Option.map_some, Option.getD_some] at few
    omega
  · rintro ⟨count, enough, bounded, steps⟩
    obtain ⟨extra, rfl⟩ := Nat.exists_eq_add_of_le enough
    obtain ⟨middle, steps, further⟩ := steps_add_iff.mp steps
    obtain ⟨fewer, less, short, further⟩ := further.shorten onward
    have shorter : middle.rest.length ≤ place.rest.length := by
      rcases (steps.onward onward).eq_or_lt with rfl | shorter <;> omega
    refine ⟨middle, steps, fewer, ?_, further⟩
    cases more with
    | none => exact Nat.le_trans short shorter
    | some bound =>
      have := bounded bound rfl
      simp only [Option.map_some, Option.getD_some]
      omega

variable {next : SearchPlace → List SearchPlace} {places : List SearchPlace}

/-- Lists of next places describe a relation. -/
theorem mem_afterSteps_iff (made : ∀ place last, last ∈ next place ↔ step place last)
    {count : Nat} :
    last ∈ afterSteps next count places ↔ ∃ place ∈ places, Steps step count place last := by
  induction count generalizing places with
  | zero => simp [afterSteps, Steps]
  | succ count ih =>
    rw [afterSteps]
    split
    next nowhere => simp [nowhere]
    next =>
      simp only [ih, List.mem_eraseDups, List.mem_flatMap, made, Steps]
      exact ⟨fun ⟨middle, ⟨place, held, made⟩, steps⟩ => ⟨place, held, middle, made, steps⟩,
        fun ⟨place, held, middle, made, steps⟩ => ⟨middle, ⟨place, held, made⟩, steps⟩⟩

theorem mem_withinSteps_iff (made : ∀ place last, last ∈ next place ↔ step place last)
    {most : Nat} :
    last ∈ withinSteps next most places ↔
      ∃ place ∈ places, ∃ count ≤ most, Steps step count place last := by
  induction most generalizing places with
  | zero => simp [withinSteps, Steps]
  | succ most ih =>
    rw [withinSteps]
    split
    next nowhere => simp [nowhere]
    next =>
      simp only [List.mem_append, ih, List.mem_eraseDups, List.mem_flatMap, made]
      constructor
      · rintro (held | ⟨middle, ⟨place, held, made⟩, count, less, steps⟩)
        · exact ⟨last, held, 0, Nat.zero_le _, rfl⟩
        · exact ⟨place, held, count + 1, by omega, middle, made, steps⟩
      · rintro ⟨place, held, count, less, steps⟩
        cases count with
        | zero => exact .inl (steps ▸ held)
        | succ count =>
          obtain ⟨middle, made, steps⟩ := steps
          exact .inr ⟨middle, ⟨place, held, made⟩, count, by omega, steps⟩

end Steps

theorem Fits.onward {pattern : SearchPattern} {place last : SearchPlace}
    (fits : pattern.Fits place last) : place.Onward last := by
  induction pattern generalizing place last with
  | empty => exact fits ▸ .refl place
  | one set =>
    obtain ⟨character, -, rest, before⟩ := fits
    exact ⟨[character], rest, before⟩
  | atBoundary boundary => exact fits.1 ▸ .refl place
  | append first second ihFirst ihSecond =>
    obtain ⟨middle, fits, further⟩ := fits
    exact (ihFirst fits).trans (ihSecond further)
  | either first second ihFirst ihSecond => exact fits.elim ihFirst ihSecond
  | repeated pattern least more ih =>
    obtain ⟨count, -, -, steps⟩ := fits
    exact steps.onward ih

/-- The places that are found are those where a piece that the pattern fits ends. -/
theorem mem_ends_iff {pattern : SearchPattern} {place last : SearchPlace} :
    last ∈ pattern.ends place ↔ pattern.Fits place last := by
  induction pattern generalizing place last with
  | empty => simp [ends, Fits, eq_comm]
  | one set =>
    obtain ⟨before, rest⟩ := place
    obtain ⟨before', rest'⟩ := last
    cases rest with
    | nil => simp [ends, Fits]
    | cons character rest =>
      simp only [ends, Fits, SearchPlace.next, List.cons.injEq]
      split <;> grind
  | atBoundary boundary =>
    simp only [ends, Fits]
    split <;> grind
  | append first second ihFirst ihSecond => simp [ends, Fits, ihFirst, ihSecond]
  | either first second ihFirst ihSecond => simp [ends, Fits, ihFirst, ihSecond]
  | repeated pattern least more ih =>
    simp only [ends, Fits, mem_withinSteps_iff fun _ _ => ih, mem_afterSteps_iff fun _ _ => ih,
      List.mem_singleton, exists_eq_left]
    exact exists_steps_iff Fits.onward

/-- A text has a match exactly if it can be cut so that the pattern fits the piece in the middle. -/
theorem isIn_iff {pattern : SearchPattern} {text : String} :
    pattern.isIn text = true ↔ ∃ passed piece rest, text.toList = passed ++ piece ++ rest ∧
      pattern.Fits (.between passed (piece ++ rest)) (.between (passed ++ piece) rest) := by
  simp only [isIn, List.any_eq_true, decide_eq_true_eq, SearchPlace.mem_following_iff]
  constructor
  · rintro ⟨place, ⟨passed, cut, before⟩, found⟩
    obtain ⟨last, found⟩ := List.exists_mem_of_ne_nil _ found
    have fits := mem_ends_iff.mp found
    obtain ⟨piece, rest, after⟩ := fits.onward
    refine ⟨passed, piece, last.rest, by rw [List.append_assoc, ← rest]; exact cut, ?_⟩
    obtain ⟨before', rest'⟩ := place
    obtain ⟨after', rest''⟩ := last
    simp only [SearchPlace.between, List.getLast?_append, Option.or_none] at *
    subst before after rest
    exact fits
  · rintro ⟨passed, piece, rest, cut, fits⟩
    refine ⟨.between passed (piece ++ rest), ⟨passed, by simpa [SearchPlace.between] using cut, ?_⟩,
      List.ne_nil_of_mem (mem_ends_iff.mpr fits)⟩
    simp [SearchPlace.between]

/-- A pattern that fits exactly one text, character by character. -/
def literal : List Char → SearchPattern
  | [] => empty
  | character :: rest => (one (.one character)).append (literal rest)

theorem fits_literal_iff {text : List Char} {place last : SearchPlace} :
    (literal text).Fits place last ↔
      place.rest = text ++ last.rest ∧ last.before = text.getLast?.or place.before := by
  induction text generalizing place with
  | nil =>
    cases place
    cases last
    simp [literal, Fits, eq_comm, and_comm]
  | cons character text ih =>
    simp only [literal, Fits, ih, List.cons_append]
    constructor
    · rintro ⟨middle, ⟨found, held, rest, before⟩, rest', before'⟩
      obtain rfl : character = found := by
        simp only [CharacterSet.contains, CharacterSet.one, Bool.and_eq_true,
          decide_eq_true_eq] at held
        exact Char.le_antisymm held.1 held.2
      refine ⟨by rw [rest, rest'], ?_⟩
      rw [before', before, SearchPlace.getLast?_cons_or]
    · rintro ⟨rest, before⟩
      refine ⟨.next character (text ++ last.rest), ⟨character, ?_, rest, rfl⟩, rfl, ?_⟩
      · simp [CharacterSet.contains, CharacterSet.one]
      · exact before.trans (SearchPlace.getLast?_cons_or character text place.before)

/-- A literal is found in the texts that contain it. -/
theorem isIn_literal_iff {text : List Char} {within : String} :
    (literal text).isIn within = true ↔ text <:+: within.toList := by
  simp only [isIn_iff, fits_literal_iff, SearchPlace.between, List.append_cancel_right_eq,
    List.getLast?_append]
  constructor
  · rintro ⟨passed, piece, rest, cut, rfl, -⟩
    exact ⟨passed, rest, cut.symm⟩
  · rintro ⟨passed, rest, cut⟩
    exact ⟨passed, text, rest, cut.symm, rfl, rfl⟩

end SearchPattern

/-- Whether a character stands for itself in a pattern, and ends no part of a filter. -/
def isPlainInPattern (character : Char) : Bool :=
  !"\\.+*?()|[\x7b^$/".toList.contains character

theorem ne_of_plain {character : Char} (mark : Char) (plain : isPlainInPattern character = true)
    (marked : isPlainInPattern mark = false) : character ≠ mark := by
  rintro rfl
  exact Bool.false_ne_true (marked.symm.trans plain)

namespace PatternReader

variable {source : PatternSource} {rest : List Char}

theorem plainPart_of_plain {character : Char} (plain : isPlainInPattern character = true)
    (next : source.rest = character :: rest) (flags : source.flags = [.wide]) :
    (plainPart character).run source =
      .ok (.one (.one character), { source with rest := rest, offset := source.offset + 1 }) := by
  have noEscape := ne_of_plain '\\' plain rfl
  have noDot := ne_of_plain '.' plain rfl
  have noStart := ne_of_plain '^' plain rfl
  have noEnd := ne_of_plain '$' plain rfl
  simp only [plainPart, here, StateT.run_bind, StateT.run_get]
  simp [next, flags, skip, PatternFlags.widened]

theorem step_of_plain {character : Char} (plain : isPlainInPattern character = true)
    (next : source.rest = character :: rest) (flags : source.flags = [.wide])
    (draft : PatternDraft) :
    (step draft).run source =
      .ok (some { draft with group := draft.group.add (.one (.one character)) },
        { source with rest := rest, offset := source.offset + 1 }) := by
  have noGroup := ne_of_plain '(' plain rfl
  have noGroupEnd := ne_of_plain ')' plain rfl
  have noBar := ne_of_plain '|' plain rfl
  have noClass := ne_of_plain '[' plain rfl
  have noOption := ne_of_plain '?' plain rfl
  have noStar := ne_of_plain '*' plain rfl
  have noPlus := ne_of_plain '+' plain rfl
  have noCount := ne_of_plain '\x7b' plain rfl
  have part := plainPart_of_plain plain next flags
  simp only [step, padding, isSet, peek?, StateT.run_bind, StateT.run_get]
  simp [next, flags, part]

/-- Characters that stand for themselves are read one after the other, up to the end. -/
theorem iterateUpTo_of_plain {count : Nat} (plain : ∀ character ∈ rest, isPlainInPattern character)
    (enough : rest.length < count) (next : source.rest = rest) (flags : source.flags = [.wide])
    (draft : PatternDraft) :
    (iterateUpTo step count draft).run source =
      .ok ({ draft with
          group.parts := (rest.map fun character => some (.one (.one character))).reverse ++
            draft.group.parts },
        { source with rest := [], offset := source.offset + rest.length }) := by
  induction count generalizing rest source draft with
  | zero => omega
  | succ count ih =>
    cases rest with
    | nil =>
      cases source
      subst next flags
      rfl
    | cons character rest =>
      rw [iterateUpTo, StateT.run_bind, step_of_plain (plain _ (by simp)) next flags]
      have others : ∀ other ∈ rest, isPlainInPattern other := fun other held =>
        plain other (List.mem_cons_of_mem _ held)
      have remaining := @ih { source with rest := rest, offset := source.offset + 1 } rest others
        (by simpa using enough) rfl flags
      refine (remaining _).trans ?_
      simp [OpenGroup.add, Nat.add_assoc, Nat.add_comm 1]

end PatternReader

namespace SearchPattern

/-- A text without marks is read as itself. -/
theorem read_of_plain {text : String}
    (plain : ∀ character ∈ text.toList, isPlainInPattern character) :
    read text = .ok (literal text.toList) := by
  have read := @PatternReader.iterateUpTo_of_plain ⟨text.toList, 0, [.wide], [], none⟩ _ _ plain
    (Nat.lt_succ_self _) rfl rfl ⟨⟨[], none⟩, []⟩
  have whole : ∀ characters : List Char,
      (characters.map fun character => some (one (.one character))).reverse.foldl
        (fun after part => (part.getD .empty).append after) .empty = literal characters := by
    intro characters
    induction characters with
    | nil => rfl
    | cons character characters ih => simp [ih, literal]
  simp [SearchPattern.read, PatternReader.pattern, PatternReader.iterate, read, OpenGroup.whole,
    whole, Except.map]

end SearchPattern

namespace LogFilter

/-- What the records that a filter shows have in common: the directive for their target allows their
level, and the pattern, if there is one, fits a piece of their message. -/
theorem shows_iff {filter : LogFilter} {record : LogRecord} :
    filter.shows record = true ↔
      (∃ directive, filter.deciding? record.target = some directive ∧
        record.level.detail ≤ directive.detail) ∧
      ∀ pattern ∈ filter.pattern, ∃ passed piece rest,
        record.message.toList = passed ++ piece ++ rest ∧
          pattern.Fits (.between passed (piece ++ rest)) (.between (passed ++ piece) rest) := by
  simp only [shows, ← SearchPattern.isIn_iff]
  cases filter.deciding? record.target <;> cases filter.pattern <;> simp

theorem shows_mk_some_iff {directives : List LogDirective} {pattern : SearchPattern}
    {record : LogRecord} :
    (LogFilter.mk directives (some pattern)).shows record = true ↔
      (LogFilter.mk directives none).shows record = true ∧ pattern.isIn record.message = true := by
  have same : (LogFilter.mk directives (some pattern)).deciding? record.target =
    (LogFilter.mk directives none).deciding? record.target := rfl
  simp only [shows, same]
  cases (LogFilter.mk directives none).deciding? record.target <;> simp

/-- A filter with a text after its slash in which no mark has a meaning shows what it would show
without, as far as the messages contain the text. -/
theorem shows_parse_of_plain {levels text : String} (whole : '/' ∉ levels.toList)
    (plain : ∀ character ∈ text.toList, isPlainInPattern character) {record : LogRecord} :
    (parse (levels ++ "/" ++ text)).1.shows record = true ↔
      (parse levels).1.shows record = true ∧ text.toList <:+: record.message.toList := by
  have plainParts : ∀ part ∈ [levels.toList, text.toList], '/' ∉ part := by
    simp only [List.mem_cons, List.not_mem_nil, or_false]
    rintro part (rfl | rfl) held
    · exact whole held
    · exact absurd (plain _ held) (by decide)
  have single : cut '/' levels.toList = [levels.toList] := by
    simpa [cut] using @List.splitOn_intercalate _ [levels.toList] _ _ '/' (by simpa using whole)
  have double : cut '/' (levels ++ "/" ++ text).toList = [levels.toList, text.toList] := by
    simpa [cut] using List.splitOn_intercalate '/' plainParts (by simp)
  rw [parse, parse, single, double]
  simp only [String.ofList_toList, SearchPattern.read_of_plain plain]
  rw [shows_mk_some_iff, SearchPattern.isIn_literal_iff]

end LogFilter

end RecordRegistry
