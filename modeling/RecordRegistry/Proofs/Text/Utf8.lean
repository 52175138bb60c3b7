/-
# Decoding and encoding undo each other

Every text is spelled by bytes that are cut back into its characters, one after the other.  Of the
first bytes of long characters some allow only some continuations; the characters that there are
never have another one.  So bytes that can be decoded at all are the ones that spell the text.
-/

import Mathlib.Data.List.Basic
import Mathlib.Tactic.Common
import RecordRegistry.Text.Utf8

namespace RecordRegistry

namespace Utf8

variable {byte first second third last : UInt8} {more rest bytes : Bytes} {isSecond : UInt8 → Bool}
  {value : Char} {count wanted : Nat}

theorem between_iff {low high : UInt8} :
    between low high byte = true ↔ low.toNat ≤ byte.toNat ∧ byte.toNat ≤ high.toNat := by
  simp [between, UInt8.le_iff_toNat_le]

theorem isContinuation_iff : isContinuation byte = true ↔ 0x80 ≤ byte.toNat ∧ byte.toNat ≤ 0xbf :=
  between_iff

theorem lead?_of_lt (small : byte.toNat < 0x80) : lead? byte = some (0, isContinuation) := by
  simp [lead?, UInt8.lt_iff_toNat_lt, small]

theorem lead?_of_two (low : 0xc2 ≤ byte.toNat) (high : byte.toNat ≤ 0xdf) :
    lead? byte = some (1, isContinuation) := by
  have notOne : ¬ byte.toNat < 0x80 := by omega
  simp [lead?, UInt8.lt_iff_toNat_lt, between_iff, notOne, low, high]

/-- A first byte that wants two more accepts a second one, unless the character would be short or
none at all. -/
theorem exists_lead?_of_three (low : 0xe0 ≤ byte.toNat) (high : byte.toNat ≤ 0xef) :
    ∃ isSecond, lead? byte = some (2, isSecond) ∧ ∀ second, isContinuation second = true →
      (byte.toNat = 0xe0 → 0xa0 ≤ second.toNat) → (byte.toNat = 0xed → second.toNat ≤ 0x9f) →
      isSecond second = true := by
  have notOne : ¬ byte.toNat < 0x80 := by omega
  have notTwo : ¬ byte.toNat ≤ 0xdf := by omega
  by_cases least : byte.toNat = 0xe0
  · refine ⟨between 0xa0 0xbf, ?_, fun second continues long _ => ?_⟩
    · simp [lead?, UInt8.lt_iff_toNat_lt, between_iff, ← UInt8.toNat_inj, least]
    · exact between_iff.mpr ⟨long least, (isContinuation_iff.mp continues).2⟩
  · by_cases surrogate : byte.toNat = 0xed
    · refine ⟨between 0x80 0x9f, ?_, fun second continues _ valid => ?_⟩
      · simp [lead?, UInt8.lt_iff_toNat_lt, between_iff, ← UInt8.toNat_inj, surrogate]
      · exact between_iff.mpr ⟨(isContinuation_iff.mp continues).1, valid surrogate⟩
    · refine ⟨isContinuation, ?_, fun second continues _ _ => continues⟩
      have more : 0xe1 ≤ byte.toNat := by omega
      simp [lead?, UInt8.lt_iff_toNat_lt, between_iff, notOne, notTwo, ← UInt8.toNat_inj, least,
        surrogate, more, high]

/-- A first byte that wants three more accepts a second one, unless the character would be short or
too large. -/
theorem exists_lead?_of_four (low : 0xf0 ≤ byte.toNat) (high : byte.toNat ≤ 0xf4) :
    ∃ isSecond, lead? byte = some (3, isSecond) ∧ ∀ second, isContinuation second = true →
      (byte.toNat = 0xf0 → 0x90 ≤ second.toNat) → (byte.toNat = 0xf4 → second.toNat ≤ 0x8f) →
      isSecond second = true := by
  have notOne : ¬ byte.toNat < 0x80 := by omega
  have notTwo : ¬ byte.toNat ≤ 0xdf := by omega
  have notThree : ¬ byte.toNat ≤ 0xef := by omega
  have others : byte.toNat ≠ 0xe0 ∧ byte.toNat ≠ 0xed := by omega
  by_cases least : byte.toNat = 0xf0
  · refine ⟨between 0x90 0xbf, ?_, fun second continues long _ => ?_⟩
    · simp [lead?, UInt8.lt_iff_toNat_lt, between_iff, ← UInt8.toNat_inj, least]
    · exact between_iff.mpr ⟨long least, (isContinuation_iff.mp continues).2⟩
  · by_cases greatest : byte.toNat = 0xf4
    · refine ⟨between 0x80 0x8f, ?_, fun second continues _ small => ?_⟩
      · simp [lead?, UInt8.lt_iff_toNat_lt, between_iff, ← UInt8.toNat_inj, greatest]
      · exact between_iff.mpr ⟨(isContinuation_iff.mp continues).1, small greatest⟩
    · refine ⟨isContinuation, ?_, fun second continues _ _ => continues⟩
      have bounds : 0xf1 ≤ byte.toNat ∧ byte.toNat ≤ 0xf3 := by omega
      simp [lead?, UInt8.lt_iff_toNat_lt, between_iff, notOne, notTwo, notThree,
        ← UInt8.toNat_inj, others, least, bounds]

theorem isContinuation_ofNat {part : Nat} (small : part < 64) :
    isContinuation (UInt8.ofNat (part + 128)) = true := by
  rw [isContinuation_iff, UInt8.toNat_ofNat']
  omega

/-- As many bytes continue a character as there are, if each of them may. -/
theorem continued_append (second : ∀ byte ∈ more.head?, isSecond byte = true)
    (others : ∀ byte ∈ more.tail, isContinuation byte = true) (rest : Bytes) :
    continued isSecond more.length (more ++ rest) = more.length := by
  induction more generalizing isSecond with
  | nil => rfl
  | cons byte more ih =>
      have onward := ih (fun next inside => others next (List.mem_of_mem_head? inside))
        fun next inside => others next (List.mem_of_mem_tail inside)
      simp [continued, second byte rfl, onward, Nat.add_comm]

/-- A first byte and all bytes that it wants, spelling a character, are cut off as that. -/
theorem piecesUpTo_character (leads : lead? first = some (more.length, isSecond))
    (second : ∀ byte ∈ more.head?, isSecond byte = true)
    (others : ∀ byte ∈ more.tail, isContinuation byte = true)
    (spells : codePoint first more = value.toNat) (count : Nat) (rest : Bytes) :
    piecesUpTo (count + 1) (first :: more ++ rest) =
      .character value :: piecesUpTo count rest := by
  simp [piecesUpTo, leads, continued_append second others, spells]

/-- The bytes that spell a character are cut off as that character. -/
theorem piecesUpTo_utf8EncodeChar (value : Char) (count : Nat) (rest : Bytes) :
    piecesUpTo (count + 1) (String.utf8EncodeChar value ++ rest) =
      .character value :: piecesUpTo count rest := by
  have valid : value.toNat < 0xd800 ∨ 0xdfff < value.toNat ∧ value.toNat < 0x110000 := value.valid
  have part (number : Nat) : number % 64 < 64 := Nat.mod_lt _ (by decide)
  unfold String.utf8EncodeChar
  simp only [Char.toNat_val]
  generalize same : value.toNat = number at valid ⊢
  split_ifs with one two three
  · refine piecesUpTo_character (lead?_of_lt ?_) (by simp) (by simp) ?_ count rest
    · rw [UInt8.toNat_ofNat']
      omega
    · simp only [codePoint, List.length_nil, List.foldl_nil, UInt8.toNat_ofNat', same]
      omega
  · refine piecesUpTo_character (lead?_of_two ?_ ?_) ?_ (by simp) ?_ count rest
    · rw [UInt8.toNat_ofNat']
      omega
    · rw [UInt8.toNat_ofNat']
      omega
    · rintro byte ⟨⟩
      exact isContinuation_ofNat (part _)
    · simp only [codePoint, List.length_cons, List.length_nil, List.foldl_cons, List.foldl_nil,
        UInt8.toNat_ofNat', same]
      omega
  · obtain ⟨isSecond, leads, accepts⟩ :=
      @exists_lead?_of_three (UInt8.ofNat (number / 4096 % 16 + 224))
        (by rw [UInt8.toNat_ofNat']; omega) (by rw [UInt8.toNat_ofNat']; omega)
    refine piecesUpTo_character leads ?_ ?_ ?_ count rest
    · rintro byte ⟨⟩
      refine accepts _ (isContinuation_ofNat (part _)) ?_ ?_
      all_goals
        simp only [UInt8.toNat_ofNat']
        omega
    · simpa using isContinuation_ofNat (part number)
    · simp only [codePoint, List.length_cons, List.length_nil, List.foldl_cons, List.foldl_nil,
        UInt8.toNat_ofNat', same]
      omega
  · obtain ⟨isSecond, leads, accepts⟩ :=
      @exists_lead?_of_four (UInt8.ofNat (number / 262144 % 8 + 240))
        (by rw [UInt8.toNat_ofNat']; omega) (by rw [UInt8.toNat_ofNat']; omega)
    refine piecesUpTo_character leads ?_ ?_ ?_ count rest
    · rintro byte ⟨⟩
      refine accepts _ (isContinuation_ofNat (part _)) ?_ ?_
      all_goals
        simp only [UInt8.toNat_ofNat']
        omega
    · simpa using And.intro (isContinuation_ofNat (part (number / 64)))
        (isContinuation_ofNat (part number))
    · simp only [codePoint, List.length_cons, List.length_nil, List.foldl_cons, List.foldl_nil,
        UInt8.toNat_ofNat', same]
      omega

/-- The bytes of characters are cut into these characters. -/
theorem piecesUpTo_flatMap (characters : List Char) (enough : characters.length ≤ count) :
    piecesUpTo count (characters.flatMap String.utf8EncodeChar) =
      characters.map Piece.character := by
  induction characters generalizing count with
  | nil => cases count <;> rfl
  | cons character characters ih =>
      obtain ⟨count, rfl⟩ := Nat.exists_eq_add_of_le' (Nat.lt_of_lt_of_le (Nat.succ_pos _) enough)
      rw [List.flatMap_cons, piecesUpTo_utf8EncodeChar, ih (by simpa using enough), List.map_cons]

theorem length_le_encode (characters : List Char) :
    characters.length ≤ (characters.flatMap String.utf8EncodeChar).length := by
  induction characters with
  | nil => simp
  | cons character characters ih =>
      have some := Char.utf8Size_pos character
      rw [List.flatMap_cons, List.length_append, String.length_utf8EncodeChar, List.length_cons]
      omega

/-- Decoding a text that has been encoded yields the text. -/
@[simp] theorem decode?_encode (text : String) : decode? (encode text) = some text := by
  have all (characters : List Char) :
      (characters.map Piece.character).mapM Piece.character? = some characters := by
    induction characters with
    | nil => rfl
    | cons character characters ih => simp [ih, Piece.character?]
  rw [decode?, pieces, encode, piecesUpTo_flatMap _ (length_le_encode _), all]
  simp

/-- How many bytes a first byte wants. -/
theorem wanted_of_lead? (leads : lead? first = some (wanted, isSecond)) :
    (wanted = 0 ∧ first.toNat < 0x80) ∨ (wanted = 1 ∧ 0xc2 ≤ first.toNat ∧ first.toNat ≤ 0xdf) ∨
      (wanted = 2 ∧ 0xe0 ≤ first.toNat ∧ first.toNat ≤ 0xef) ∨
      (wanted = 3 ∧ 0xf0 ≤ first.toNat ∧ first.toNat ≤ 0xf4) := by
  unfold lead? at leads
  simp only [UInt8.lt_iff_toNat_lt, between_iff, ← UInt8.toNat_inj, UInt8.reduceToNat] at leads
  split_ifs at leads <;> cases leads <;> omega

/-- What a first byte allows as the second one: it continues a character, which is not short, no
surrogate and not too large. -/
theorem allowed_of_lead? (leads : lead? first = some (wanted, isSecond))
    (allowed : isSecond second = true) :
    isContinuation second = true ∧ (first.toNat = 0xe0 → 0xa0 ≤ second.toNat) ∧
      (first.toNat = 0xed → second.toNat ≤ 0x9f) ∧ (first.toNat = 0xf0 → 0x90 ≤ second.toNat) ∧
      (first.toNat = 0xf4 → second.toNat ≤ 0x8f) := by
  unfold lead? at leads
  simp only [UInt8.lt_iff_toNat_lt, between_iff, ← UInt8.toNat_inj, UInt8.reduceToNat] at leads
  split_ifs at leads <;> cases leads <;>
    simp only [isContinuation_iff, between_iff, UInt8.reduceToNat] at allowed ⊢ <;> omega

/-- The bytes that are counted as continuing a character do. -/
theorem continued_eq (long : continued isSecond wanted rest = wanted) :
    wanted ≤ rest.length ∧ (∀ byte ∈ (rest.take wanted).head?, isSecond byte = true) ∧
      ∀ byte ∈ (rest.take wanted).tail, isContinuation byte = true := by
  induction wanted generalizing isSecond rest with
  | zero => simp
  | succ wanted ih =>
      cases rest with
      | nil => simp [continued] at long
      | cons byte rest =>
          rw [continued] at long
          split at long
          · next allowed =>
              obtain ⟨enough, second, others⟩ := @ih rest isContinuation (by omega)
              refine ⟨by simpa using enough, by simpa using allowed, fun other inside => ?_⟩
              rw [List.take_succ_cons, List.tail_cons] at inside
              cases taken : rest.take wanted with
              | nil => simp [taken] at inside
              | cons next more =>
                  rw [taken] at inside second others
                  rcases List.mem_cons.mp inside with rfl | later
                  · exact second _ rfl
                  · exact others other later
          · contradiction

theorem toNat_of_isValidChar {point : Nat} (valid : point.isValidChar) :
    (Char.ofNat point).toNat = point := by
  rw [Char.ofNat, dif_pos valid]
  rfl

theorem utf8EncodeChar_one (small : first.toNat < 0x80) :
    String.utf8EncodeChar (Char.ofNat (codePoint first [])) = [first] := by
  have point : codePoint first [] = first.toNat := rfl
  have valid : first.toNat.isValidChar := .inl (by omega)
  unfold String.utf8EncodeChar
  simp only [Char.toNat_val, point, toNat_of_isValidChar valid]
  rw [if_pos (by omega)]
  simp

theorem utf8EncodeChar_two (low : 0xc2 ≤ first.toNat) (high : first.toNat ≤ 0xdf)
    (continues : isContinuation second = true) :
    String.utf8EncodeChar (Char.ofNat (codePoint first [second])) = [first, second] := by
  rw [isContinuation_iff] at continues
  have point : codePoint first [second] = 64 * (first.toNat % 32) + second.toNat % 64 := rfl
  have valid : (64 * (first.toNat % 32) + second.toNat % 64).isValidChar := .inl (by omega)
  unfold String.utf8EncodeChar
  simp only [Char.toNat_val, point, toNat_of_isValidChar valid]
  rw [if_neg (by omega), if_pos (by omega)]
  simp only [List.cons.injEq, ← UInt8.toNat_inj, UInt8.toNat_ofNat', and_true]
  omega

theorem utf8EncodeChar_three (low : 0xe0 ≤ first.toNat) (high : first.toNat ≤ 0xef)
    (continues : isContinuation second = true) (long : first.toNat = 0xe0 → 0xa0 ≤ second.toNat)
    (single : first.toNat = 0xed → second.toNat ≤ 0x9f) (ends : isContinuation last = true) :
    String.utf8EncodeChar (Char.ofNat (codePoint first [second, last])) = [first, second, last] := by
  rw [isContinuation_iff] at continues ends
  have point : codePoint first [second, last] =
      64 * (64 * (first.toNat % 16) + second.toNat % 64) + last.toNat % 64 := rfl
  have valid : (64 * (64 * (first.toNat % 16) + second.toNat % 64) +
      last.toNat % 64).isValidChar := by
    by_cases surrogate : first.toNat ≤ 0xed
    · exact .inl (by omega)
    · exact .inr (by omega)
  unfold String.utf8EncodeChar
  simp only [Char.toNat_val, point, toNat_of_isValidChar valid]
  rw [if_neg (by omega), if_neg (by omega), if_pos (by omega)]
  simp only [List.cons.injEq, ← UInt8.toNat_inj, UInt8.toNat_ofNat', and_true]
  omega

theorem utf8EncodeChar_four (low : 0xf0 ≤ first.toNat) (high : first.toNat ≤ 0xf4)
    (continues : isContinuation second = true) (long : first.toNat = 0xf0 → 0x90 ≤ second.toNat)
    (small : first.toNat = 0xf4 → second.toNat ≤ 0x8f) (follows : isContinuation third = true)
    (ends : isContinuation last = true) :
    String.utf8EncodeChar (Char.ofNat (codePoint first [second, third, last])) =
      [first, second, third, last] := by
  rw [isContinuation_iff] at continues follows ends
  have point : codePoint first [second, third, last] =
      64 * (64 * (64 * (first.toNat % 8) + second.toNat % 64) + third.toNat % 64) +
        last.toNat % 64 := rfl
  have valid : (64 * (64 * (64 * (first.toNat % 8) + second.toNat % 64) + third.toNat % 64) +
      last.toNat % 64).isValidChar := .inr (by omega)
  unfold String.utf8EncodeChar
  simp only [Char.toNat_val, point, toNat_of_isValidChar valid]
  rw [if_neg (by omega), if_neg (by omega), if_neg (by omega)]
  simp only [List.cons.injEq, ← UInt8.toNat_inj, UInt8.toNat_ofNat', and_true]
  omega

/-- A first byte and the bytes that it wants are the bytes of the character that they spell. -/
theorem utf8EncodeChar_codePoint (leads : lead? first = some (more.length, isSecond))
    (second : ∀ byte ∈ more.head?, isSecond byte = true)
    (others : ∀ byte ∈ more.tail, isContinuation byte = true) :
    String.utf8EncodeChar (Char.ofNat (codePoint first more)) = first :: more := by
  rcases wanted_of_lead? leads with ⟨wanted, small⟩ | ⟨wanted, low, high⟩ | ⟨wanted, low, high⟩ |
    ⟨wanted, low, high⟩
  · obtain rfl := List.length_eq_zero_iff.mp wanted
    exact utf8EncodeChar_one small
  · obtain ⟨byte, rfl⟩ := List.length_eq_one_iff.mp wanted
    obtain ⟨continues, -⟩ := allowed_of_lead? leads (second byte rfl)
    exact utf8EncodeChar_two low high continues
  · obtain ⟨byte, last, rfl⟩ := List.length_eq_two.mp wanted
    obtain ⟨continues, long, single, -⟩ := allowed_of_lead? leads (second byte rfl)
    exact utf8EncodeChar_three low high continues long single (others last (by simp))
  · obtain ⟨byte, third, last, rfl⟩ := List.length_eq_three.mp wanted
    obtain ⟨continues, -, -, long, small⟩ := allowed_of_lead? leads (second byte rfl)
    exact utf8EncodeChar_four low high continues long small (others third (by simp))
      (others last (by simp))

/-- Bytes that are cut into characters are the bytes of these characters. -/
theorem flatMap_of_piecesUpTo {characters : List Char} (enough : bytes.length ≤ count)
    (cut : (piecesUpTo count bytes).mapM Piece.character? = some characters) :
    characters.flatMap String.utf8EncodeChar = bytes := by
  induction count generalizing bytes characters with
  | zero =>
      obtain rfl := List.length_eq_zero_iff.mp (Nat.le_zero.mp enough)
      obtain rfl := Option.some.inj cut
      rfl
  | succ count ih =>
      cases bytes with
      | nil =>
          obtain rfl := Option.some.inj cut
          rfl
      | cons first rest =>
          rw [piecesUpTo] at cut
          split at cut
          · simp [Piece.character?] at cut
          · next wanted isSecond leads =>
              by_cases long : continued isSecond wanted rest = wanted
              · obtain ⟨fits, second, others⟩ := continued_eq long
                have size : (rest.take wanted).length = wanted := List.length_take_of_le fits
                simp only [long, if_true, List.mapM_cons, Piece.character?] at cut
                obtain ⟨later, onward, rfl⟩ : ∃ later,
                    (piecesUpTo count (rest.drop wanted)).mapM Piece.character? = some later ∧
                      characters = Char.ofNat (codePoint first (rest.take wanted)) :: later := by
                  cases onward : (piecesUpTo count (rest.drop wanted)).mapM Piece.character? with
                  | none => simp [onward] at cut
                  | some later => exact ⟨later, rfl, by simpa [onward, eq_comm] using cut⟩
                rw [List.flatMap_cons, ih (by simp at enough ⊢; omega) onward,
                  utf8EncodeChar_codePoint (by rw [size]; exact leads) second others,
                  List.cons_append, List.take_append_drop]
              · simp [long, Piece.character?] at cut

/-- A text that has been decoded is spelled by the bytes. -/
theorem encode_of_decode? {text : String} (decoded : decode? bytes = some text) :
    encode text = bytes := by
  obtain ⟨characters, cut, rfl⟩ := Option.map_eq_some_iff.mp decoded
  rw [encode, String.toList_ofList]
  exact flatMap_of_piecesUpTo (Nat.le_refl _) cut

/-- Bytes that are all characters are shown as the text that they spell. -/
theorem decodeLossy_of_decode? {text : String} (decoded : decode? bytes = some text) :
    decodeLossy bytes = text := by
  obtain ⟨characters, cut, rfl⟩ := Option.map_eq_some_iff.mp decoded
  unfold decodeLossy
  congr 1
  clear decoded
  generalize pieces bytes = all at cut
  induction all generalizing characters with
  | nil =>
      obtain rfl := Option.some.inj cut
      rfl
  | cons piece rest ih =>
      cases piece with
      | invalid bytes => simp [Piece.character?] at cut
      | character value =>
          obtain ⟨more, onward, rfl⟩ : ∃ more, rest.mapM Piece.character? = some more ∧
              characters = value :: more := by
            cases onward : rest.mapM Piece.character? with
            | none => simp [Piece.character?, onward] at cut
            | some more => exact ⟨more, rfl, by simpa [Piece.character?, onward, eq_comm] using cut⟩
          rw [List.map_cons, ih more onward]
          rfl

theorem decodeLossy_encode (text : String) : decodeLossy (encode text) = text :=
  decodeLossy_of_decode? (decode?_encode text)

end Utf8

end RecordRegistry
