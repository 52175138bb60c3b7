/-
# Texts that are read as they were written

A text has five written forms: on one line between double or single quotes, and on several lines
between three of them, where with double quotes all or only some characters are escaped.  Each form
is chosen for texts that it can hold, and is read as the text it was written for, whatever comes
behind it but a further quote.

In all forms but the literal one a content is read piece by piece.  A piece is as long a run of
plain characters as there is, or one character that is written otherwise; on several lines a piece
can also be one or two quotes.  That a content is spelled well is said character by character, and
`Spelled.onward` is about the pieces into which it falls.
-/

import RecordRegistry.Proofs.Toml.Finding

namespace RecordRegistry.Toml

open Reader Written

/-- A content as it is spelled before a stop. A character of a class stands for itself, and so does
a quote as long as there is room for it, which is for `most` of them in a row; any other character
is what `other` reads. -/
inductive Spelled (isMember : Char → Bool) (quote : Char) (other : Reader (List Char)) (most : Nat)
    (stop : List Char) : Nat → List Char → List Char → Prop
  | nil {room : Nat} : Spelled isMember quote other most stop room stop []
  | member {room : Nat} {character : Char} {written content : List Char} :
    isMember character → Spelled isMember quote other most stop most written content →
      Spelled isMember quote other most stop room (character :: written) (character :: content)
  | quote {room : Nat} {written content : List Char} :
    Spelled isMember quote other most stop room written content →
      Spelled isMember quote other most stop (room + 1) (quote :: written) (quote :: content)
  | other {room : Nat} {mark character : Char} {rest written content : List Char} :
    ¬ isMember mark → mark ≠ quote → Finds other (mark :: rest) (· = [character]) written →
      written.length ≤ rest.length → Spelled isMember quote other most stop most written content →
        Spelled isMember quote other most stop room (mark :: rest) (character :: content)

/-- What an element of a text may be: a piece, or quotes before a piece. -/
structure Elements (isMember : Char → Bool) (quote : Char) (other : Reader (List Char)) (most : Nat)
    (element : Reader (List Char)) : Prop where
  outside : ¬ isMember quote
  reads {before piece after : List Char} :
    Finds (either (chunk isMember) other) before (· = piece) after →
      Finds element before (· = piece) after
  leads {count : Nat} {before piece after : List Char} : 0 < count → count ≤ most →
    before.head? ≠ some quote → Finds (either (chunk isMember) other) before (· = piece) after →
      Finds element (List.replicate count quote ++ before) (· = List.replicate count quote) before

/-- A content that is read element by element, but for quotes at its end, which come before the
stop. -/
def Ends (quote : Char) (most : Nat) (element : Reader (List Char))
    (stop before content : List Char) : Prop :=
  ∃ count ≤ most, ∃ body, content = body ++ List.replicate count quote ∧
    Follow element (List.replicate count quote ++ stop) before body

section

variable {isMember : Char → Bool} {quote : Char} {other element : Reader (List Char)}
  {most room count : Nat} {stop before middle piece run written content : List Char}

theorem Ends.more (ends : Ends quote most element stop middle content)
    (found : Finds element before (· = piece) middle) (shorter : middle.length < before.length) :
    Ends quote most element stop before (piece ++ content) := by
  obtain ⟨count, few, body, rfl, follow⟩ := ends
  exact ⟨count, few, piece ++ body, by simp, .more found shorter follow⟩

theorem Ends.of_run (ends : Ends quote most element stop middle content)
    (elements : Elements isMember quote other most element)
    (members : ∀ character ∈ run, isMember character)
    (ended : ∀ next ∈ middle.head?, ¬ isMember next) :
    Ends quote most element stop (run ++ middle) (run ++ content) := by
  by_cases filled : run = []
  · simpa [filled] using ends
  · refine ends.more (elements.reads (finds_chunk filled members ended).either_left) ?_
    have := List.length_pos_iff.mpr filled
    simp only [List.length_append]
    omega

theorem Ends.of_quotes (ends : Ends quote most element stop middle content)
    (elements : Elements isMember quote other most element) (few : count ≤ most)
    (differs : middle.head? ≠ some quote) {after : List Char}
    (found : Finds (either (chunk isMember) other) middle (· = piece) after) :
    Ends quote most element stop (List.replicate count quote ++ middle)
      (List.replicate count quote ++ content) := by
  rcases Nat.eq_zero_or_pos count with rfl | some
  · simpa using ends
  · refine ends.more (elements.leads some few differs found) ?_
    simp only [List.length_append, List.length_replicate]
    omega

/-- A content falls into elements behind what has been read already of the first one: a part of a
run of members, if a run can start here, or as many quotes as there is no more room for. -/
structure Onward (isMember : Char → Bool) (quote : Char) (most : Nat) (element : Reader (List Char))
    (stop : List Char) (room : Nat) (written content : List Char) : Prop where
  behindRun : room = most → ∀ run : List Char, (∀ character ∈ run, isMember character) →
    Ends quote most element stop (run ++ written) (run ++ content)
  behindQuotes : ∀ count, count + room = most → Ends quote most element stop
    (List.replicate count quote ++ written) (List.replicate count quote ++ content)

theorem Onward.ends (onward : Onward isMember quote most element stop most written content) :
    Ends quote most element stop written content :=
  onward.behindRun rfl [] (by simp)

/-- No run of members goes on at a quote. -/
theorem Elements.outside_head? (elements : Elements isMember quote other most element)
    (starts : before.head? = some quote) : ∀ next ∈ before.head?, ¬ isMember next := by
  rintro next isNext
  rw [starts] at isNext
  obtain rfl := Option.some.inj isNext
  exact elements.outside

theorem onward_nil (elements : Elements isMember quote other most element)
    (stops : stop.head? = some quote) : Onward isMember quote most element stop room stop [] where
  behindRun := by
    rintro - run members
    have ends : Ends quote most element stop stop [] := ⟨0, Nat.zero_le _, [], rfl, .done⟩
    exact ends.of_run elements members (elements.outside_head? stops)
  behindQuotes count few := ⟨count, by omega, [], by simp, .done⟩

/-- A run that starts with a member, of whatever length, is a piece. -/
theorem finds_chunk_cons {character : Char} (isFirst : isMember character) (written : List Char) :
    Finds (either (chunk isMember) other) (character :: written)
      (· = character :: written.takeWhile isMember) (written.dropWhile isMember) := by
  have ended : ∀ next ∈ (written.dropWhile isMember).head?, ¬ isMember next := by
    intro next isNext
    have ends := List.head?_dropWhile_not isMember written
    rw [isNext] at ends
    simpa using ends
  have run := finds_chunk (List.cons_ne_nil character (written.takeWhile isMember))
    (List.forall_mem_cons.mpr ⟨isFirst, fun _ => List.mem_takeWhile_imp⟩) ended
  rw [List.cons_append, List.takeWhile_append_dropWhile] at run
  exact run.either_left

theorem Onward.consMember {character : Char}
    (onward : Onward isMember quote most element stop most written content)
    (elements : Elements isMember quote other most element) (isFirst : isMember character) :
    Onward isMember quote most element stop room (character :: written) (character :: content) := by
  have behind (run : List Char) (members : ∀ character ∈ run, isMember character) :
      Ends quote most element stop (run ++ character :: written) (run ++ character :: content) := by
    simpa using onward.behindRun rfl (run ++ [character])
      (by simpa [or_imp, forall_and] using ⟨members, isFirst⟩)
  refine ⟨fun _ => behind, fun count few => ?_⟩
  have differs : character ≠ quote := by
    rintro rfl
    exact elements.outside isFirst
  exact (behind [] (by simp)).of_quotes elements (by omega) (by simpa using differs)
    (finds_chunk_cons isFirst written)

theorem Onward.consQuote (onward : Onward isMember quote most element stop room written content)
    (elements : Elements isMember quote other most element) :
    Onward isMember quote most element stop (room + 1) (quote :: written) (quote :: content) where
  behindRun := by
    rintro rfl run members
    have ends := onward.behindQuotes 1 (by omega)
    exact ends.of_run elements members (elements.outside_head? rfl)
  behindQuotes count few := by
    have shifted (text : List Char) : List.replicate count quote ++ quote :: text =
        List.replicate (count + 1) quote ++ text := by
      simp [List.replicate_succ']
    rw [shifted, shifted]
    exact onward.behindQuotes (count + 1) (by omega)

theorem Onward.consOther {mark character : Char} {rest : List Char}
    (onward : Onward isMember quote most element stop most written content)
    (elements : Elements isMember quote other most element) (noMember : ¬ isMember mark)
    (differs : mark ≠ quote) (found : Finds other (mark :: rest) (· = [character]) written)
    (shorter : written.length ≤ rest.length) :
    Onward isMember quote most element stop room (mark :: rest) (character :: content) := by
  have piece : Finds (either (chunk isMember) other) (mark :: rest) (· = [character]) written :=
    (declines_chunk (by simpa using noMember)).either_right found
  have ends : Ends quote most element stop (mark :: rest) (character :: content) :=
    Ends.more onward.ends (elements.reads piece) (by simpa using shorter)
  exact ⟨fun _ run members => ends.of_run elements members (by simpa using noMember),
    fun count few => ends.of_quotes elements (by omega) (by simpa using differs) piece⟩

/-- A content that is spelled well falls into elements. -/
theorem Spelled.onward (spelled : Spelled isMember quote other most stop room written content)
    (elements : Elements isMember quote other most element) (stops : stop.head? = some quote) :
    Onward isMember quote most element stop room written content := by
  induction spelled with
  | nil => exact onward_nil elements stops
  | member isFirst spelled ih => exact ih.consMember elements isFirst
  | quote spelled ih => exact ih.consQuote elements
  | other noMember differs found shorter spelled ih =>
      exact ih.consOther elements noMember differs found shorter

end

/-- An escape that stands for a character; what follows the backslash is no blank, so that it does
not hide the end of a line. -/
structure Escapes (written : List Char) (character : Char) : Prop where
  marked : ∃ mark rest, written = '\\' :: mark :: rest ∧
    ¬ isBlankInLine mark ∧ mark ≠ '\n' ∧ mark ≠ '\r'
  reads (after : List Char) : Finds escape (written ++ after) (· = character) after

theorem finds_codePoint {digits after : List Char} {character : Char} {count : Nat}
    (enough : digits.length = count) (areDigits : ∀ digit ∈ digits, isHexDigit digit)
    (code : numberOf 16 digits = character.toNat) :
    Finds (codePoint count) (digits ++ after) (· = character) after := by
  subst enough
  have taken : Finds (takeUpTo digits.length isHexDigit) (digits ++ after) (· = digits) after := by
    apply finds_get.bind
    rintro ⟨rest, _⟩ rfl
    have all : digits.takeWhile isHexDigit = digits := List.takeWhile_eq_self_iff.mpr areDigits
    have left : (digits ++ after).drop digits.length = after := List.drop_left
    simp only [List.take_left, all]
    exact (left ▸ takes_skip _).bind fun _ _ => finds_pure rfl
  apply finds_get.bind
  intro start _
  apply taken.bind
  rintro _ rfl
  have valid : character.toNat.isValidChar := character.valid
  simp only [lt_self_iff_false, if_false, code, if_pos valid]
  exact finds_pure (Char.ofNat_toNat character)

/-- The four digits of a small number write it. -/
theorem paddedHex_reads {code : Nat} (small : code < 128) : (paddedHex 4 code).length = 4 ∧
    (∀ digit ∈ paddedHex 4 code, isHexDigit digit) ∧ numberOf 16 (paddedHex 4 code) = code := by
  have all : (List.range 128).all fun code => (paddedHex 4 code).length = 4 &&
      (paddedHex 4 code).all isHexDigit && numberOf 16 (paddedHex 4 code) = code := by
    decide +kernel
  have this := List.all_eq_true.mp all code (List.mem_range.mpr small)
  simpa [and_assoc] using this

theorem toNat_lt_of_isControl {character : Char} (control : isControl character) :
    character.toNat < 128 := by
  simp only [isControl, Bool.or_eq_true, Bool.and_eq_true, decide_eq_true_eq, beq_iff_eq] at control
  omega

theorem escapes_of_isControl {character : Char} (control : isControl character) :
    Escapes (['\\', 'u'] ++ paddedHex 4 character.toNat) character := by
  obtain ⟨count, areDigits, code⟩ := paddedHex_reads (toNat_lt_of_isControl control)
  refine ⟨⟨'u', _, rfl, by decide, by decide, by decide⟩, fun after => ?_⟩
  have digits : Finds (codePoint 4) (paddedHex 4 character.toNat ++ after) (· = character) after :=
    finds_codePoint count areDigits code
  apply (takes_require ['\\']).bind
  rintro - -
  unfold Reader.escaped
  apply finds_get.bind
  rintro ⟨_, _⟩ rfl
  apply finds_get.bind
  rintro start -
  apply (takes_skip 1).bind
  rintro - -
  exact digits.committed.named .shortCodePoint

theorem escapes_doubleQuote : Escapes ['\\', doubleQuote] doubleQuote :=
  ⟨⟨doubleQuote, [], rfl, by decide, by decide, by decide⟩, fun _ _ => ⟨_, _, rfl, rfl⟩⟩

/-- What is written for a character that does not stand for itself is an escape for it. -/
theorem escapes_of_escape? {isMultiline : Bool} {character : Char} {written : List Char}
    (wrote : escape? isMultiline character = some written) : Escapes written character := by
  have short {mark : Char} (plain : ¬ isBlankInLine mark ∧ mark ≠ '\n' ∧ mark ≠ '\r')
      (read : ∀ after, Finds escape ('\\' :: mark :: after) (· = character) after) :
      Escapes ['\\', mark] character := ⟨⟨mark, [], rfl, plain⟩, read⟩
  unfold escape? at wrote
  split_ifs at wrote with backspace tab feed several page return_ backslash control
  all_goals obtain rfl := Option.some.inj wrote
  · exact short (by decide) fun _ _ => ⟨_, _, rfl, backspace.symm⟩
  · exact short (by decide) fun _ _ => ⟨_, _, rfl, tab.symm⟩
  · exact short (by decide) fun _ _ => ⟨_, _, rfl, feed.symm⟩
  · exact short (by decide) fun _ _ => ⟨_, _, rfl, page.symm⟩
  · exact short (by decide) fun _ _ => ⟨_, _, rfl, return_.symm⟩
  · exact short (by decide) fun _ _ => ⟨_, _, rfl, backslash.symm⟩
  · exact escapes_of_isControl control

/-- A character for which nothing else is written stands for itself, or is the end of a line. -/
theorem isPlain_of_escape? {isMultiline : Bool} {character : Char}
    (kept : escape? isMultiline character = none) (differs : character ≠ doubleQuote) :
    isPlain character ∨ isMultiline ∧ character = '\n' := by
  unfold escape? at kept
  split_ifs at kept <;> simp_all [isPlain]

section

variable {isMember : Char → Bool} {quote : Char} {other : Reader (List Char)} {count : Nat}
  {before after written content : List Char}

/-- Quotes are taken if what has to follow them does. -/
theorem finds_before {follows : Reader Unit} {quotes rest : List Char}
    (found : Takes follows after rest) :
    Finds (do require quotes; if ← applies follows then return quotes else fail) (quotes ++ after)
      (· = quotes) after := by
  apply (takes_require quotes).bind
  rintro - -
  apply found.applies.bind
  rintro _ rfl
  exact finds_pure rfl

theorem declines_before {follows : Reader Unit} {quotes : List Char}
    (declined : Declines follows after) :
    Declines (do require quotes; if ← applies follows then return quotes else fail :
      Reader (List Char)) (quotes ++ after) := by
  apply (takes_require quotes).bind_declines
  rintro - -
  apply declined.applies.bind_declines
  rintro _ rfl
  exact declines_fail

/-- One quote is taken if two are not. -/
theorem finds_quotesBefore {follows : Reader Unit} {rest : List Char} (some : 0 < count)
    (few : count ≤ 2) (found : Takes follows after rest)
    (single : ∀ behind, after = quote :: behind → Declines follows behind) :
    Finds (quotesBefore quote follows) (List.replicate count quote ++ after)
      (· = List.replicate count quote) after := by
  obtain rfl | rfl : count = 1 ∨ count = 2 := by omega
  · refine Declines.either_right ?_ (finds_before found)
    by_cases further : ∃ behind, after = quote :: behind
    · obtain ⟨behind, rfl⟩ := further
      change Declines _ ([quote, quote] ++ behind)
      exact declines_before (single behind rfl)
    · refine (declines_require ?_).bind
      rintro ⟨behind, same⟩
      exact further ⟨behind, by simpa using same.symm⟩
  · exact (finds_before found).either_left

theorem declines_quotesBefore {follows : Reader Unit}
    (double : ∀ behind, before = quote :: quote :: behind → Declines follows behind)
    (single : ∀ behind, before = quote :: behind → Declines follows behind) :
    Declines (quotesBefore quote follows) before := by
  have one {quotes : List Char}
      (each : ∀ behind, before = quotes ++ behind → Declines follows behind) :
      Declines (do require quotes; if ← applies follows then return quotes else fail :
        Reader (List Char)) before := by
    by_cases leads : quotes <+: before
    · obtain ⟨behind, rfl⟩ := leads
      exact declines_before (each behind rfl)
    · exact (declines_require leads).bind
  exact (one double).either (one single)

/-- On several lines one or two quotes may come before a piece, which does not begin with one. -/
theorem elements_multiline (outside : ¬ isMember quote)
    (declined : ∀ after, Declines other (quote :: after)) :
    Elements isMember quote other 2 (either (either (chunk isMember) other)
      (quotesBefore quote (discard (either (chunk isMember) other)))) where
  outside
  reads found := found.either_left
  leads := by
    intro count before piece after some few differs found
    have notPiece {behind : List Char} :
        Declines (either (chunk isMember) other) (quote :: behind) :=
      (declines_chunk (by simpa using outside)).either (declined behind)
    refine Declines.either_right ?_ (finds_quotesBefore some few found.discard
      fun behind same => absurd (by rw [same]; rfl) differs)
    obtain ⟨count, rfl⟩ := Nat.exists_eq_add_of_lt some
    rw [Nat.zero_add, List.replicate_succ]
    exact notPiece

/-- At the closing quotes the last one or two quotes of the text are no longer before a piece. -/
theorem declines_closing (outside : ¬ isMember quote)
    (declined : ∀ after, Declines other (quote :: after)) :
    Declines (either (either (chunk isMember) other)
        (quotesBefore quote (discard (either (chunk isMember) other))))
      (List.replicate count quote ++ (List.replicate 3 quote ++ after)) := by
  have notPiece (behind : List Char) :
      Declines (either (chunk isMember) other) (quote :: behind) :=
    (declines_chunk (by simpa using outside)).either (declined behind)
  have same : List.replicate count quote ++ (List.replicate 3 quote ++ after) =
      quote :: quote :: quote :: (List.replicate count quote ++ after) := by
    rw [← List.append_assoc, List.replicate_append_replicate, Nat.add_comm,
      ← List.replicate_append_replicate]
    rfl
  rw [same]
  refine (notPiece _).either (declines_quotesBefore ?_ ?_)
  · rintro behind parts
    obtain rfl : _ = behind := by simpa using parts
    exact (notPiece _).discard
  · rintro behind parts
    obtain rfl : _ = behind := by simpa using parts
    exact (notPiece _).discard

theorem declines_fewer (few : count < 3) (differs : after.head? ≠ some quote) :
    Declines (require (List.replicate 3 quote)) (List.replicate count quote ++ after) := by
  apply declines_require
  rintro ⟨behind, same⟩
  obtain ⟨missing, all⟩ : ∃ missing, 3 = count + (missing + 1) := ⟨2 - count, by omega⟩
  rw [all, ← List.replicate_append_replicate, List.append_assoc, List.append_cancel_left_eq] at same
  exact differs (by rw [← same]; rfl)

/-- A text of several lines is read if its content is spelled well. -/
theorem finds_multilineText {opening : List Char} (outside : ¬ isMember quote)
    (declined : ∀ after, Declines other (quote :: after))
    (opened : Takes (optional? newline) opening written)
    (spelled : Spelled isMember quote other 2 (List.replicate 3 quote ++ after) 2 written content)
    (differs : after.head? ≠ some quote) :
    Finds (multilineText quote (either (chunk isMember) other)) (List.replicate 3 quote ++ opening)
      (· = String.ofList content) after := by
  obtain ⟨count, few, body, rfl, follow⟩ :=
    (spelled.onward (elements_multiline outside declined) rfl).ends
  have last : Finds (optional? (quotesBefore quote (require (List.replicate 3 quote))))
      (List.replicate count quote ++ (List.replicate 3 quote ++ after))
      (fun last => last.getD [] = List.replicate count quote)
      (List.replicate 3 quote ++ after) := by
    rcases Nat.eq_zero_or_pos count with rfl | some
    · refine Finds.mono (Declines.optional (declines_quotesBefore ?_ ?_)) (by rintro _ rfl; rfl)
      · rintro behind parts
        obtain rfl : List.replicate 1 quote ++ after = behind := by simpa using parts
        exact declines_fewer (by omega) differs
      · rintro behind parts
        obtain rfl : List.replicate 2 quote ++ after = behind := by simpa using parts
        exact declines_fewer (by omega) differs
    · refine (finds_quotesBefore some few (takes_require _) ?_).optional.mono
        (by rintro _ ⟨_, rfl, rfl⟩; rfl)
      rintro behind parts
      obtain rfl : List.replicate 2 quote ++ after = behind := by simpa using parts
      exact declines_fewer (by omega) differs
  apply (takes_require _).bind
  rintro - -
  apply opened.discard.bind
  rintro - -
  apply Finds.committed
  apply (follow.repeated (declines_closing outside declined)).bind
  rintro pieces rfl
  apply last.bind
  intro last same
  apply (takes_require _).bind
  rintro - -
  exact finds_pure (by rw [same])

end

end RecordRegistry.Toml
