/-
# Lines of a configuration

A line with a bare name, an equals sign and a written text is read as an assignment of the text to
the name, and a line with a bare name in brackets as a header.  Blanks in front of the next line are
taken with it.
-/

import RecordRegistry.Proofs.Toml.Forms

namespace RecordRegistry.Toml

open Reader

namespace Reader

variable {name after characters : List Char}

/-- A name that needs no quotes. -/
def IsBareName (name : List Char) : Prop := name ≠ [] ∧ ∀ character ∈ name, isBare character

theorem isBareName_of_all (all : !name.isEmpty && name.all isBare) : IsBareName name := by
  simpa [IsBareName] using all

theorem not_isBlankInLine_of_isBare {character : Char} (bare : isBare character) :
    ¬ isBlankInLine character := by
  intro blank
  have two : character = ' ' ∨ character = '\t' := by simpa [isBlankInLine] using blank
  rcases two with rfl | rfl <;> exact absurd bare (by decide)

theorem finds_simpleKey (bare : IsBareName name) (ends : ∀ next ∈ after.head?, ¬ isBare next) :
    Finds simpleKey (name ++ after) (fun key => key.text = String.ofList name)
      (after.dropWhile isBlankInLine) := by
  obtain ⟨filled, members⟩ := bare
  obtain ⟨first, rest, rfl⟩ := List.exists_cons_of_ne_nil filled
  have isBare_ := members first List.mem_cons_self
  have noBlank : (first :: rest ++ after).dropWhile isBlankInLine = first :: rest ++ after := by
    simp [not_isBlankInLine_of_isBare isBare_]
  apply (noBlank ▸ takes_blanks).bind
  rintro - -
  have read : Finds (String.ofList <$> chunk isBare) (first :: rest ++ after)
      (· = String.ofList (first :: rest)) after :=
    Finds.map ((finds_chunk filled members ends).mono fun _ same => congrArg String.ofList same)
  refine (show Finds _ _ (· = String.ofList (first :: rest)) after from ?_).spanned.bind ?_
  · apply finds_peek.bind
    rintro _ rfl
    split
    · next isQuote => exact absurd (Option.some.inj isQuote ▸ isBare_) (by decide)
    · next isQuote => exact absurd (Option.some.inj isQuote ▸ isBare_) (by decide)
    · exact read
  · rintro ⟨text, span⟩ rfl
    apply takes_blanks.bind
    rintro - -
    exact finds_pure rfl

/-- A bare name that is not followed by a point is a key with one name. -/
theorem finds_key (bare : IsBareName name) (ends : ∀ next ∈ after.head?, ¬ isBare next)
    (single : (after.dropWhile isBlankInLine).head? ≠ some '.') :
    Finds key (name ++ after) (fun read => read.1 = [] ∧ read.2.text = String.ofList name)
      (after.dropWhile isBlankInLine) := by
  have noMore : Declines (do require ['.']; simpleKey) (after.dropWhile isBlankInLine) := by
    refine (declines_require ?_).bind
    rintro ⟨behind, same⟩
    exact single (by rw [← same]; rfl)
  have names : Finds (do
      let first ← simpleKey
      let more ← repeated (optional? (do require ['.']; simpleKey))
      return (first, more)) (name ++ after)
      (fun read => read.1.text = String.ofList name ∧ read.2 = [])
      (after.dropWhile isBlankInLine) := by
    apply (finds_simpleKey bare ends).bind
    intro first isName
    apply noMore.repeated.bind
    rintro _ rfl
    exact finds_pure ⟨isName, rfl⟩
  apply (names.named .key).refined
  rintro ⟨first, _⟩ ⟨isName, rfl⟩
  exact ⟨([], first), rfl, rfl, isName⟩

/-- What an assignment of a text to a name is. -/
def Gives (name value : String) (assignment : Assignment) : Prop :=
  assignment.path = [] ∧ assignment.key.text = name ∧
    ∃ span, assignment.node = .scalar span (.text value)

theorem head?_value : (Written.value characters ++ after).head? = some doubleQuote ∨
    (Written.value characters ++ after).head? = some singleQuote := by
  unfold Written.value
  extract_lets
  split_ifs <;> first | exact .inl rfl | exact .inr rfl

theorem finds_value {depth : Nat} (noDouble : after.head? ≠ some doubleQuote)
    (noSingle : after.head? ≠ some singleQuote) :
    Finds (value depth) (Written.value characters ++ after)
      (fun node => ∃ span, node = .scalar span (.text (String.ofList characters))) after := by
  have read : Finds scalar (Written.value characters ++ after)
      (· = .text (String.ofList characters)) after := by
    have written : Finds (Scalar.text <$> text) (Written.value characters ++ after)
        (· = .text (String.ofList characters)) after :=
      Finds.map ((finds_text noDouble noSingle).mono fun _ same => congrArg Scalar.text same)
    apply finds_peek.bind
    rintro _ rfl
    rcases (head?_value : (Written.value characters ++ after).head? = _ ∨ _) with
      starts | starts <;> (rw [starts]; exact written)
  have here (nested? : Option (Reader Node)) : Finds (valueWith nested?)
      (Written.value characters ++ after)
      (fun node => ∃ span, node = .scalar span (.text (String.ofList characters))) after := by
    apply finds_peek.bind
    rintro _ rfl
    have spanned : Finds (spanned scalar >>= fun found => pure (Node.scalar found.2 found.1))
        (Written.value characters ++ after)
        (fun node => ∃ span, node = .scalar span (.text (String.ofList characters))) after := by
      apply read.spanned.bind
      rintro ⟨_, span⟩ rfl
      exact finds_pure ⟨span, rfl⟩
    rcases (head?_value : (Written.value characters ++ after).head? = _ ∨ _) with
      starts | starts <;> (rw [starts]; exact spanned)
  cases depth <;> exact here _

theorem finds_assignment {depth : Nat} (bare : IsBareName name)
    (noDouble : after.head? ≠ some doubleQuote) (noSingle : after.head? ≠ some singleQuote) :
    Finds (assignment (value depth))
      (name ++ ([' ', '=', ' '] ++ (Written.value characters ++ after)))
      (Gives (String.ofList name) (String.ofList characters)) after := by
  have noBlank : (' ' :: (Written.value characters ++ after)).dropWhile isBlankInLine =
      Written.value characters ++ after := by
    cases starts : Written.value characters ++ after with
    | nil => rfl
    | cons first rest =>
        rcases (starts ▸ head?_value : (first :: rest).head? = _ ∨ _) with isQuote | isQuote <;>
          obtain rfl := Option.some.inj isQuote <;> rfl
  apply (finds_key bare (by rintro _ ⟨⟩; decide) (by simp [isBlankInLine])).bind
  rintro ⟨path, key⟩ ⟨rfl, isName⟩
  apply Finds.committed
  apply ((takes_require ['=']).wanting _).bind
  rintro - -
  apply (noBlank ▸ takes_blanks).bind
  rintro - -
  apply (finds_value noDouble noSingle).bind
  rintro _ isText
  exact finds_pure ⟨rfl, isName, isText⟩

theorem takes_trailing : Takes trailing ('\n' :: after) after := by
  have noBlank : Takes blanks ('\n' :: after) ('\n' :: after) := takes_blanks
  apply noBlank.bind
  rintro - -
  have noComment : Declines comment ('\n' :: after) := by
    refine (declines_require ?_).bind
    rintro ⟨behind, same⟩
    cases same
  apply noComment.optional.discard.bind
  rintro - -
  apply finds_peek.bind
  rintro _ rfl
  exact takes_newline.failingAtStart

/-- After a line the blanks before the next one are taken. -/
theorem finds_nextLine {next : Draft} {good : Option Draft → Prop} (isGood : good (some next)) :
    Finds (do blanks; return some next) after good (after.dropWhile isBlankInLine) := by
  apply takes_blanks.bind
  rintro - -
  exact finds_pure isGood

theorem finds_assignmentLine {draft : Draft} {good : Draft → Prop} (bare : IsBareName name)
    (assigned : ∀ assignment, Gives (String.ofList name) (String.ofList characters) assignment →
      ∃ next, draft.assign assignment = .ok next ∧ good next) :
    Finds (line? draft) (name ++ ([' ', '=', ' '] ++ (Written.value characters ++ '\n' :: after)))
      (fun next? => ∃ next, next? = some next ∧ good next) (after.dropWhile isBlankInLine) := by
  have read : Finds (assignmentLine draft)
      (name ++ ([' ', '=', ' '] ++ (Written.value characters ++ '\n' :: after))) good after := by
    refine Finds.refined (?_ : Finds _ _ (Gives (String.ofList name) (String.ofList characters)) _)
      assigned
    apply (finds_assignment bare (by simp [doubleQuote]) (by simp [singleQuote])).bind
    intro assignment gives
    apply (takes_trailing.wanting _).committed.bind
    rintro - -
    exact finds_pure gives
  obtain ⟨filled, members⟩ := bare
  obtain ⟨first, rest, rfl⟩ := List.exists_cons_of_ne_nil filled
  have isBare_ := members first List.mem_cons_self
  apply finds_peek.bind
  rintro _ rfl
  rw [List.cons_append, List.head?_cons]
  split
  · contradiction
  · next same => exact absurd (Option.some.inj same ▸ isBare_) (by decide)
  · next same => exact absurd (Option.some.inj same ▸ isBare_) (by decide)
  · next same => exact absurd (Option.some.inj same ▸ isBare_) (by decide)
  · next same => exact absurd (Option.some.inj same ▸ isBare_) (by decide)
  · exact read.bind fun next isGood => finds_nextLine ⟨next, rfl, isGood⟩

/-- What the header of a table in the document is. -/
def Opens (name : String) (header : Header) : Prop :=
  header.path = [] ∧ header.key.text = name ∧ header.isShared = false

theorem finds_header {draft : Draft} {good : Draft → Prop} (bare : IsBareName name)
    (opened : ∀ header, Opens (String.ofList name) header →
      ∃ next, draft.openTable header = .ok next ∧ good next) :
    Finds (line? draft) ('[' :: (name ++ ']' :: '\n' :: after))
      (fun next? => ∃ next, next? = some next ∧ good next) (after.dropWhile isBlankInLine) := by
  have bracketed : Finds (bracketed "[" "]") ('[' :: (name ++ ']' :: '\n' :: after))
      (Opens (String.ofList name)) after := by
    have inner : Finds (do
        require "[".toList
        let read ← committed key
        committed (wanting [.mark ".", .mark "]"] (require "]".toList))
        return read) ('[' :: (name ++ ']' :: '\n' :: after))
        (fun read => read.1 = [] ∧ read.2.text = String.ofList name) ('\n' :: after) := by
      apply (takes_require ['[']).bind
      rintro - -
      apply ((finds_key bare (by rintro _ ⟨⟩; decide) (by simp [isBlankInLine])).committed).bind
      intro read isName
      apply ((takes_require [']']).wanting _).committed.bind
      rintro - -
      exact finds_pure isName
    apply inner.spanned.bind
    rintro ⟨⟨path, key⟩, span⟩ ⟨rfl, isName⟩
    apply (takes_trailing.wanting _).committed.bind
    rintro - -
    exact finds_pure ⟨rfl, isName, rfl⟩
  have read : Finds (header draft) ('[' :: (name ++ ']' :: '\n' :: after)) good after := by
    apply Finds.named
    obtain ⟨filled, members⟩ := bare
    obtain ⟨first, rest, rfl⟩ := List.exists_cons_of_ne_nil filled
    apply finds_get.bind
    rintro ⟨_, _⟩ rfl
    split
    · next same => simp at same
    · next same =>
        obtain rfl : first = '[' := (List.cons.inj (List.cons.inj same).2).1
        exact absurd (members _ List.mem_cons_self) (by decide)
    · exact bracketed.refined opened
  apply finds_peek.bind
  rintro _ rfl
  exact read.bind fun next isGood => finds_nextLine ⟨next, rfl, isGood⟩

end Reader

end RecordRegistry.Toml
