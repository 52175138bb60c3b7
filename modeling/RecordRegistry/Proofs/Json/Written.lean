/-
# Decoding what is written

What is written for a value is one document, and decoding it yields the value again, whatever
characters are in its texts.  Texts and numbers are read as they are written; for arrays and objects
the parts are followed in the order in which the writer lays them out.
-/

import Mathlib.Tactic.Common
import RecordRegistry.Proofs.Json.Decoding

namespace RecordRegistry

namespace JsonValue

variable {rest : List Char} {character : Char} {level count : Nat}

/-- Content of a text in front of what is read next. -/
def before (read : List Char) (result : List Char × List Char) : List Char × List Char :=
  (read ++ result.1, result.2)

theorem textFrom?_step {state : TextState} (next : TextState) (read : List Char)
    (inside : ¬ (state = .plain ∧ character = '\x22'))
    (step : textStep state character = some (next, read)) (rest : List Char) :
    textFrom? state (character :: rest) = (textFrom? next rest).map (before read) := by
  rw [textFrom?, if_neg inside, step]
  rfl

theorem before_nil : before [] = id := rfl

/-- A letter after a backslash is read as the character that it stands for. -/
theorem textFrom?_escape {letter : Char} (unmarked : letter ≠ 'u')
    (meant : escapeOf? letter = some character) (rest : List Char) :
    textFrom? .plain ('\\' :: letter :: rest) =
      (textFrom? .plain rest).map (before [character]) := by
  rw [textFrom?_step .escape [] (by decide) rfl,
    textFrom?_step .plain [character] (by simp) (by
      simp [textStep, unmarked, meant])]
  simp [before_nil]

/-- The two digits of a control character. -/
theorem hexDigits_of_lt : ∀ unit < 0x20,
    (Lexer.isHexDigit (Nat.digitChar (unit / 16)) = true ∧
      Lexer.hexValue (Nat.digitChar (unit / 16)) = unit / 16) ∧
    Lexer.isHexDigit (Nat.digitChar (unit % 16)) = true ∧
      Lexer.hexValue (Nat.digitChar (unit % 16)) = unit % 16 := by
  decide

/-- A control character is read from the digits of its code. -/
theorem textFrom?_control (small : character.toNat < 0x20) (rest : List Char) :
    textFrom? .plain ('\\' :: 'u' :: '0' :: '0' :: Nat.digitChar (character.toNat / 16) ::
      Nat.digitChar (character.toNat % 16) :: rest) =
      (textFrom? .plain rest).map (before [character]) := by
  obtain ⟨⟨high, highValue⟩, low, lowValue⟩ := hexDigits_of_lt _ small
  have unit : textStep (.unit (character.toNat / 16) 0 none)
      (Nat.digitChar (character.toNat % 16)) = some (.plain, [character]) := by
    have same : 16 * (character.toNat / 16) + character.toNat % 16 = character.toNat := by omega
    have valid : character.toNat.isValidChar := .inl (by omega)
    simp [textStep, unitStep, low, lowValue, same, valid, show ¬ 0xd800 ≤ character.toNat by omega]
  rw [textFrom?_step .escape [] (by decide) rfl,
    textFrom?_step (.unit 0 3 none) [] (by simp) rfl,
    textFrom?_step (.unit 0 2 none) [] (by simp) rfl,
    textFrom?_step (.unit 0 1 none) [] (by simp) rfl,
    textFrom?_step (.unit (character.toNat / 16) 0 none) [] (by simp)
      (by simp [textStep, high, highValue]),
    textFrom?_step .plain [character] (by simp) unit]
  simp [before_nil]

/-- A character is read as it is written. -/
theorem textFrom?_escaped (character : Char) (rest : List Char) :
    textFrom? .plain (escaped character ++ rest) =
      (textFrom? .plain rest).map (before [character]) := by
  unfold escaped
  split_ifs with marked feed back tab rub form control
  · have either : character = '\x22' ∨ character = '\\' := by simpa using marked
    rcases either with rfl | rfl <;> exact textFrom?_escape (by decide) rfl rest
  · exact feed ▸ textFrom?_escape (by decide) rfl rest
  · exact back ▸ textFrom?_escape (by decide) rfl rest
  · exact tab ▸ textFrom?_escape (by decide) rfl rest
  · exact rub ▸ textFrom?_escape (by decide) rfl rest
  · exact form ▸ textFrom?_escape (by decide) rfl rest
  · exact textFrom?_control control rest
  · simp only [Bool.or_eq_true, decide_eq_true_eq, not_or] at marked
    exact textFrom?_step .plain [character] (by simp [marked.1])
      (by simp [textStep, marked.2, control]) rest

/-- What follows the opening quote is read as the text that is written. -/
theorem textFrom?_written (content rest : List Char) :
    textFrom? .plain (content.flatMap escaped ++ '\x22' :: rest) = some (content, rest) := by
  induction content with
  | nil => simp [textFrom?]
  | cons character content ih =>
      rw [List.flatMap_cons, List.append_assoc, textFrom?_escaped, ih]
      rfl

/-- The digits of a number other than zero do not start with a zero. -/
theorem head?_toDigits {number : Nat} (positive : 0 < number) :
    (Nat.toDigits 10 number).head? ≠ some '0' := by
  induction number using Nat.strongRecOn with
  | _ number ih =>
      by_cases small : number < 10
      · have single : ∀ digit < 10, 0 < digit → [Nat.digitChar digit].head? ≠ some '0' := by decide
        rw [Nat.toDigits_of_lt_base small]
        exact single number small positive
      · have earlier := ih (number / 10) (by omega) (by omega)
        rw [Nat.toDigits_of_base_le (by decide) (by omega)]
        cases digits : Nat.toDigits 10 (number / 10) with
        | nil => exact absurd digits Nat.toDigits_ne_nil
        | cons digit digits' => simpa [digits] using earlier

/-- What follows a number neither continues its digits nor makes it another kind of number. -/
def EndsNumber (rest : List Char) : Prop :=
  ∀ character ∈ rest.head?, character.isDigit = false ∧ continuesNumber character = false

theorem number?_written (number : Nat) (ends : EndsNumber rest) :
    number? ((toString number).toList ++ rest) = some (number, rest) := by
  have digits : ∀ digit ∈ Nat.toDigits 10 number, digit.isDigit = true := fun digit =>
    Nat.isDigit_of_mem_toDigits (by decide) (by decide)
  have stops : rest.takeWhile Char.isDigit = [] ∧ rest.dropWhile Char.isDigit = rest := by
    cases rest with
    | nil => exact ⟨rfl, rfl⟩
    | cons character rest => simp [(ends character rfl).1]
  have taken : (Nat.toDigits 10 number ++ rest).takeWhile Char.isDigit = Nat.toDigits 10 number := by
    rw [List.takeWhile_append_of_pos digits, stops.1, List.append_nil]
  have left : (Nat.toDigits 10 number ++ rest).dropWhile Char.isDigit = rest := by
    rw [List.dropWhile_append_of_pos digits, stops.2]
  have whole : rest.head?.any continuesNumber = false := by
    cases rest with
    | nil => rfl
    | cons character rest => exact (ends character rfl).2
  have plain : ¬ ((Nat.toDigits 10 number).head? = some '0' ∧ Nat.toDigits 10 number ≠ ['0']) := by
    rintro ⟨zero, longer⟩
    rcases Nat.eq_zero_or_pos number with rfl | positive
    · exact longer rfl
    · exact head?_toDigits positive zero
  rw [Nat.toString_eq_ofList_toDigits, String.toList_ofList]
  simp only [number?, taken, left, whole, Nat.toDigits_ne_nil, plain, or_self,
    Bool.false_eq_true, if_false, Nat.ofDigitChars_ten_toDigits]

@[simp] theorem afterGaps_newLine (level : Nat) (rest : List Char) :
    afterGaps (newLine level ++ rest) = afterGaps rest := by
  have blanks (width : Nat) : afterGaps (List.replicate width ' ' ++ rest) = afterGaps rest := by
    induction width with
    | zero => rfl
    | succ width ih => exact ih
  exact blanks (2 * level)

theorem afterGaps_cons {character : Char} (solid : isGap character = false) (rest : List Char) :
    afterGaps (character :: rest) = character :: rest := by
  simp [afterGaps, solid]

@[simp] theorem value?_newLine (count level : Nat) (rest : List Char) :
    value? count (newLine level ++ rest) = value? count rest := by
  cases count with
  | zero => rfl
  | succ count => rw [value?, afterGaps_newLine, ← value?]

@[simp] theorem member?_newLine (count level : Nat) (rest : List Char) :
    member? count (newLine level ++ rest) = member? count rest := by
  cases count with
  | zero => rfl
  | succ count => rw [member?, member?, afterGaps_newLine]

mutual

/-- The number of parts that a decoder looks at for a value. -/
def parts : JsonValue → Nat
  | array (first :: rest) => 1 + parts first + partsOfElements rest
  | object ((_, value) :: rest) => 2 + parts value + partsOfMembers rest
  | _ => 1

def partsOfElements : List JsonValue → Nat
  | [] => 1
  | first :: rest => 1 + parts first + partsOfElements rest

def partsOfMembers : List (String × JsonValue) → Nat
  | [] => 1
  | (_, value) :: rest => 2 + parts value + partsOfMembers rest

end

theorem endsNumber_nil : EndsNumber [] := by simp [EndsNumber]

theorem endsNumber_comma : EndsNumber (',' :: rest) := by simp [EndsNumber]; decide

theorem endsNumber_newLine : EndsNumber (newLine level ++ rest) := by
  simp [EndsNumber, newLine]; decide

theorem isGap_of_isDigit {digit : Char} (plain : digit.isDigit = true) : isGap digit = false := by
  rw [Bool.eq_false_iff]
  intro gap
  simp only [isGap, List.contains_cons, List.contains_nil, Bool.or_false, Bool.or_eq_true,
    beq_iff_eq] at gap
  rcases gap with rfl | rfl | rfl | rfl <;> contradiction

/-- The digits of a number start with one. -/
theorem exists_toDigits_eq_cons (number : Nat) :
    ∃ digit more, Nat.toDigits 10 number = digit :: more ∧ digit.isDigit = true := by
  obtain ⟨digit, more, same⟩ := List.exists_cons_of_ne_nil (@Nat.toDigits_ne_nil number 10)
  exact ⟨digit, more, same,
    @Nat.isDigit_of_mem_toDigits 10 number digit (by decide) (by decide) (by simp [same])⟩

/-- The first character of a value is no blank, and none that closes an array. -/
theorem exists_written_eq_cons (value : JsonValue) (level : Nat) :
    ∃ character more, written level value = character :: more ∧ isGap character = false ∧
      character ≠ ']' := by
  cases value with
  | null => exact ⟨_, _, rfl, by decide⟩
  | boolean value => cases value <;> exact ⟨_, _, rfl, by decide⟩
  | number value =>
      obtain ⟨digit, more, same, plain⟩ := exists_toDigits_eq_cons value
      refine ⟨digit, more, by simp [written, same], isGap_of_isDigit plain, ?_⟩
      rintro rfl
      contradiction
  | text value => exact ⟨_, _, rfl, by decide⟩
  | array elements => cases elements <;> exact ⟨_, _, rfl, by decide⟩
  | object members =>
      rcases members with - | ⟨⟨name, value⟩, rest⟩ <;> exact ⟨_, _, rfl, by decide⟩

theorem endsNumber_moreElements (elements : List JsonValue) {outer : Nat} :
    EndsNumber (moreElements level elements ++ (newLine outer ++ ']' :: rest)) := by
  cases elements with
  | nil => exact endsNumber_newLine
  | cons first others => exact endsNumber_comma

theorem endsNumber_moreMembers (members : List (String × JsonValue)) {outer : Nat} :
    EndsNumber (moreMembers level members ++ (newLine outer ++ '\x7d' :: rest)) := by
  rcases members with - | ⟨⟨name, value⟩, others⟩
  · exact endsNumber_newLine
  · exact endsNumber_comma

/-- A digit begins a number and nothing else. -/
theorem value?_number (number : Nat) (count : Nat) (ends : EndsNumber rest) :
    value? (count + 1) ((toString number).toList ++ rest) = some (.number number, rest) := by
  obtain ⟨digit, more, same, plain⟩ := exists_toDigits_eq_cons number
  have written : (toString number).toList ++ rest = digit :: (more ++ rest) := by
    rw [Nat.toString_eq_ofList_toDigits, String.toList_ofList, same, List.cons_append]
  have solid : afterGaps (digit :: (more ++ rest)) = digit :: (more ++ rest) := by
    simp [afterGaps, isGap_of_isDigit plain]
  rw [written, value?, solid]
  split
  case h_7 => rw [← written, number?_written number ends]; rfl
  all_goals
    next first =>
      obtain ⟨rfl, -⟩ := List.cons.inj first
      contradiction

theorem value?_blank (count : Nat) (rest : List Char) :
    value? count (' ' :: rest) = value? count rest := by
  cases count <;> rfl

theorem parts_pos (value : JsonValue) : 0 < parts value := by
  rcases value with - | - | - | - | (- | ⟨first, rest⟩) | (- | ⟨⟨name, value⟩, rest⟩) <;>
    simp only [parts] <;> omega

theorem quoted_append (name : String) (rest : List Char) :
    quoted name ++ rest = '\x22' :: (name.toList.flatMap escaped ++ '\x22' :: rest) := by
  simp [quoted]

/-- A member is read as it is written, if its value is. -/
theorem member?_written {value : JsonValue} {document : List Char} (name : String)
    (read : value? count document = some (value, rest)) :
    member? (count + 1) (quoted name ++ (':' :: ' ' :: document)) = some ((name, value), rest) := by
  simp [member?, quoted, afterGaps_cons (show isGap '\x22' = false by decide),
    afterGaps_cons (show isGap ':' = false by decide), textFrom?_written, value?_blank, read]

mutual

/-- A value is read as it is written. -/
theorem value?_written (value : JsonValue) (level count : Nat) (rest : List Char)
    (enough : parts value ≤ count) (ends : EndsNumber rest) :
    value? count (written level value ++ rest) = some (value, rest) := by
  obtain ⟨count, rfl⟩ : ∃ fewer, count = fewer + 1 :=
    Nat.exists_eq_add_one_of_ne_zero (by have := parts_pos value; omega)
  match value with
  | null => rfl
  | boolean true => rfl
  | boolean false => rfl
  | number value => exact value?_number value count ends
  | text value => simp [written, quoted, value?, afterGaps, isGap, textFrom?_written]
  | array [] => rfl
  | object [] => rfl
  | array (first :: others) =>
      simp only [parts] at enough
      have one := value?_written first (level + 1) count
        (moreElements (level + 1) others ++ (newLine level ++ ']' :: rest)) (by omega)
        (endsNumber_moreElements others)
      have more := moreElements?_written others (level + 1) level count rest (by omega)
      obtain ⟨character, onward, begins, solid, inside⟩ := exists_written_eq_cons first (level + 1)
      have document : written level (array (first :: others)) ++ rest =
          '[' :: (newLine (level + 1) ++ (written (level + 1) first ++
            (moreElements (level + 1) others ++ (newLine level ++ ']' :: rest)))) := by
        simp [written]
      rw [document, value?, afterGaps_cons (by decide)]
      simp only [afterGaps_newLine]
      rw [begins, List.cons_append, afterGaps_cons solid]
      rw [begins, List.cons_append] at one
      split
      · next same => exact absurd (List.cons.inj same).1 inside
      · simp [one, more]
  | object ((name, value) :: others) =>
      simp only [parts] at enough
      obtain ⟨count, rfl⟩ : ∃ fewer, count = fewer + 1 :=
        Nat.exists_eq_add_one_of_ne_zero (by omega)
      have one := member?_written name (value?_written value (level + 1) count
        (moreMembers (level + 1) others ++ (newLine level ++ '\x7d' :: rest)) (by omega)
        (endsNumber_moreMembers others))
      have more := moreMembers?_written others (level + 1) level (count + 1) rest (by omega)
      have document : written level (object ((name, value) :: others)) ++ rest =
          '\x7b' :: (newLine (level + 1) ++ (quoted name ++ (':' :: ' ' ::
            (written (level + 1) value ++ (moreMembers (level + 1) others ++
              (newLine level ++ '\x7d' :: rest)))))) := by
        simp [written]
      rw [document, value?, afterGaps_cons (by decide)]
      simp only [afterGaps_newLine]
      rw [quoted_append, afterGaps_cons (by decide)]
      rw [quoted_append] at one
      simp [one, more]

theorem moreElements?_written (elements : List JsonValue) (level outer count : Nat)
    (rest : List Char) (enough : partsOfElements elements ≤ count) :
    moreElements? count (moreElements level elements ++ (newLine outer ++ ']' :: rest)) =
      some (elements, rest) := by
  match elements, count with
  | [], 0 => simp [partsOfElements] at enough
  | [], count + 1 =>
      simp [moreElements, moreElements?, afterGaps_cons (show isGap ']' = false by decide)]
  | first :: others, 0 => simp [partsOfElements] at enough
  | first :: others, count + 1 =>
      simp only [partsOfElements] at enough
      have one := value?_written first level count
        (moreElements level others ++ (newLine outer ++ ']' :: rest)) (by omega)
        (endsNumber_moreElements others)
      have more := moreElements?_written others level outer count rest (by omega)
      simp [moreElements, moreElements?, afterGaps_cons (show isGap ',' = false by decide), one, more]

theorem moreMembers?_written (members : List (String × JsonValue)) (level outer count : Nat)
    (rest : List Char) (enough : partsOfMembers members ≤ count) :
    moreMembers? count (moreMembers level members ++ (newLine outer ++ '\x7d' :: rest)) =
      some (members, rest) := by
  match members, count with
  | [], 0 => simp [partsOfMembers] at enough
  | [], count + 1 =>
      simp [moreMembers, moreMembers?, afterGaps_cons (show isGap '\x7d' = false by decide)]
  | (name, value) :: others, 0 | (name, value) :: others, 1 =>
      simp only [partsOfMembers] at enough
      omega
  | (name, value) :: others, count + 2 =>
      simp only [partsOfMembers] at enough
      have one := member?_written name (value?_written value level count
        (moreMembers level others ++ (newLine outer ++ '\x7d' :: rest)) (by omega)
        (endsNumber_moreMembers others))
      have more := moreMembers?_written others level outer (count + 1) rest (by omega)
      have document : moreMembers level ((name, value) :: others) ++
            (newLine outer ++ '\x7d' :: rest) =
          ',' :: (newLine level ++ (quoted name ++ (':' :: ' ' :: (written level value ++
            (moreMembers level others ++ (newLine outer ++ '\x7d' :: rest)))))) := by
        simp [moreMembers]
      rw [document, moreMembers?, afterGaps_cons (by decide)]
      simp [one, more]

end

mutual

/-- A value has no more parts than characters. -/
theorem parts_le (value : JsonValue) (level : Nat) : parts value ≤ (written level value).length := by
  match value with
  | null => simp [parts, written]
  | boolean true => simp [parts, written]
  | boolean false => simp [parts, written]
  | number value =>
      obtain ⟨digit, more, same, -⟩ := exists_toDigits_eq_cons value
      simp [parts, written, same]
  | text value => simp [parts, written, quoted]
  | array [] => simp [parts, written]
  | object [] => simp [parts, written]
  | array (first :: others) =>
      have one := parts_le first (level + 1)
      have more := partsOfElements_le others (level + 1)
      simp only [parts, written, newLine, List.length_append, List.length_cons, List.length_nil]
      omega
  | object ((name, value) :: others) =>
      have one := parts_le value (level + 1)
      have more := partsOfMembers_le others (level + 1)
      simp only [parts, written, newLine, List.length_append, List.length_cons, List.length_nil]
      omega

theorem partsOfElements_le (elements : List JsonValue) (level : Nat) :
    partsOfElements elements ≤ (moreElements level elements).length + 1 := by
  match elements with
  | [] => simp [partsOfElements]
  | first :: others =>
      have one := parts_le first level
      have more := partsOfElements_le others level
      simp only [partsOfElements, moreElements, newLine, List.length_append, List.length_cons,
        List.length_nil]
      omega

theorem partsOfMembers_le (members : List (String × JsonValue)) (level : Nat) :
    partsOfMembers members ≤ (moreMembers level members).length + 1 := by
  match members with
  | [] => simp [partsOfMembers]
  | (name, value) :: others =>
      have one := parts_le value level
      have more := partsOfMembers_le others level
      simp only [partsOfMembers, moreMembers, newLine, List.length_append, List.length_cons,
        List.length_nil]
      omega

end

/-- What is written for a value is one document, which holds that value. -/
theorem decode?_render (value : JsonValue) : decode? value.render = some value := by
  have enough : parts value ≤ value.render.length + 1 := by
    have short := parts_le value 0
    simp only [render, String.length_ofList]
    omega
  have read := value?_written value 0 (value.render.length + 1) [] enough endsNumber_nil
  rw [List.append_nil] at read
  rw [decode?, render, String.toList_ofList, ← render, read]
  rfl

end JsonValue

end RecordRegistry
