/-
# Cutting a registry

The text of a registry is cut into the documentation at its front and the tokens of one function,
however long the names are and wherever the lines end.  Only the commas after the type arguments of
the result depend on the layout.
-/

import RecordRegistry.Proofs.Printing.Spacing

namespace RecordRegistry

namespace Rendering

open Layout (Break Document Filling Laid blanks)
open Lexer (Cuts Ends IsName documentationTokens ends_cons flat flatAll)
open Spacing (Plain cuts_front ends_front laid_text)

theorem plain_append {first second : List TokenTree} (one : Plain first) (other : Plain second) :
    Plain (first ++ second) := by
  induction one with
  | nil => exact other
  | name named onward ih => exact .name named ih
  | mark simple onward ih => exact .mark simple ih
  | colons onward ih => exact .colons ih
  | group within onward _ ih => exact .group within ih

theorem plain_separator : Plain Path.separator := .colons .nil

theorem plain_rootPath {names : List String} (named : ∀ name ∈ names, IsName name.toList) :
    Plain (rootPath names) := by
  induction names with
  | nil => exact .nil
  | cons name names ih =>
      rw [List.forall_mem_cons] at named
      exact .colons (.name named.1 (ih named.2))

theorem plain_intercalate {separator : List TokenTree} {parts : List (List TokenTree)}
    (between : Plain separator) (each : ∀ part ∈ parts, Plain part) :
    Plain (separator.intercalate parts) := by
  induction parts with
  | nil => exact .nil
  | cons part parts ih =>
      rw [List.forall_mem_cons] at each
      cases parts with
      | nil => simpa using each.1
      | cons next parts =>
          rw [List.intercalate_cons_cons]
          exact plain_append (plain_append each.1 between) (ih each.2)

/-- A path of names without arguments, as it is rendered. -/
def IsPlain (path : Path) : Prop :=
  ∀ segment ∈ path.segments, segment.arguments = .none ∧ IsName segment.name.spelling.toList

theorem plain_tokens {path : Path} (plain : IsPlain path) : Plain path.tokens := by
  have segments : ∀ part ∈ path.segments.map Segment.tokens, Plain part := by
    intro part met
    obtain ⟨segment, inside, rfl⟩ := List.mem_map.mp met
    obtain ⟨none, named⟩ := plain segment inside
    simp only [Segment.tokens, none]
    exact .name named .nil
  refine plain_append ?_ (plain_intercalate plain_separator segments)
  split
  · exact plain_separator
  · exact .nil

theorem plain_instanceTokens {path : Path} (plain : IsPlain path) : Plain (instanceTokens path) := by
  have names : ∀ name ∈ ["std", "boxed", "Box", "new", "core", "default", "Default", "as"],
      IsName name.toList := by decide
  refine plain_append (plain_rootPath fun name met => names name ?_) (.group ?_ .nil)
  · simp only [List.mem_cons] at met ⊢
    tauto
  · refine plain_append (plain_append (.mark (by decide) (plain_append (plain_tokens plain)
      (.name (names _ (by decide)) (plain_rootPath fun name met => names name ?_))))
      (.mark (by decide) (plain_rootPath fun name met => names name ?_))) (.group .nil .nil)
    · simp only [List.mem_cons] at met ⊢
      tauto
    · simp only [List.mem_cons] at met ⊢
      tauto

theorem plain_listTokens {paths : List Path} (plain : ∀ path ∈ paths, IsPlain path) :
    Plain (listTokens paths) := by
  refine plain_intercalate (.mark (by decide) .nil) ?_
  intro part met
  obtain ⟨path, inside, rfl⟩ := List.mem_map.mp met
  exact plain_instanceTokens (plain path inside)

theorem flatAll_append (first second : List TokenTree) :
    flatAll (first ++ second) = flatAll first ++ flatAll second := by
  induction first with
  | nil => rfl
  | cons tree rest ih => simp [flatAll, ih]

@[simp] theorem flat_mark (character : Char) : flat (mark character) = [.leaf (mark character)] :=
  rfl

@[simp] theorem flat_word (spelling : String) : flat (word spelling) = [.leaf (word spelling)] := rfl

variable {rest : List Char} {lexemes : List Lexer.Lexeme}

/-- A path from the root of all names, as it is written without gaps. -/
def pathText (names : List String) : List Char :=
  names.flatMap fun name => ':' :: ':' :: name.toList

theorem cuts_pathText (names : List String) (named : ∀ name ∈ names, IsName name.toList)
    (cuts : Cuts rest lexemes) (ends : Ends rest) :
    Cuts (pathText names ++ rest) (flatAll (rootPath names) ++ lexemes) ∧
      Ends (pathText names ++ rest) := by
  induction names with
  | nil => exact ⟨cuts, ends⟩
  | cons name names ih =>
      rw [List.forall_mem_cons] at named
      obtain ⟨cuts, ends⟩ := ih named.2
      have mark : ':' ∈ Lexer.marks ∧ ':' ≠ '/' ∧ ':' ≠ '\x27' := by decide
      have tokens := ((cuts.name named.1 ends Position.start).mark mark.1 mark.2.1 mark.2.2
        Position.start).joint mark.1 mark.2.1 mark.2.2 rfl Position.start
      refine ⟨?_, ends_cons (by decide) (by decide)⟩
      simpa [pathText, rootPath, Path.separator, word, flatAll, flat] using tokens

theorem cuts_mark {character : Char} (cuts : Cuts rest lexemes)
    (simple : character ∈ [',', '<', '>', '!']) :
    Cuts (character :: rest) (.leaf (mark character) :: lexemes) := by
  have solid : ∀ other ∈ [',', '<', '>', '!'], other ∈ Lexer.marks ∧ other ≠ '/' ∧
      other ≠ '\x27' :=
    List.all_iff_forall_prop.mp (by decide)
  obtain ⟨mark, slash, quote⟩ := solid character simple
  exact cuts.mark mark slash quote _

theorem cuts_word (name : String) (named : IsName name.toList) (cuts : Cuts rest lexemes)
    (ends : Ends rest) : Cuts (name.toList ++ rest) (.leaf (word name) :: lexemes) := by
  simpa [word] using cuts.name named ends Position.start

/-- The lines at the front of a registry: whether they describe the whole file, and what they
say. -/
def documented : List (Bool × String) :=
  [(true, " Auto-generated model registry. Do not edit manually."), (true, ""),
    (true, " Regenerate with `modelreg generate` or from `build.rs`."), (true, ""),
    (true, " Generated by modelreg-build."),
    (false, " Zero-valued instances of every record type declared in this package,"),
    (false, " in declaration order.")]

/-- The text of a line of documentation. -/
def documentationLine (line : Bool × String) : List Char :=
  '/' :: '/' :: (if line.1 then '!' else '/') :: line.2.toList

theorem toList_header : header.map String.toList = documented.map documentationLine := by
  decide +kernel

/-- The tokens that the lines at the front of a registry stand for. -/
def documentationTrees (lines : List (Bool × String)) : List TokenTree :=
  lines.flatMap fun line =>
    documentationTokens line.2.toList line.1 Position.start Position.start

theorem cuts_documentation {lines : List (Bool × String)}
    (plain : ∀ line ∈ lines, '\n' ∉ line.2.toList ∧ '\r' ∉ line.2.toList ∧
      line.2.toList.head? ≠ some '/')
    (cuts : Cuts rest lexemes) :
    Cuts ((lines.map documentationLine).flatMap (· ++ ['\n']) ++ rest)
      ((documentationTrees lines).map .leaf ++ lexemes) := by
  induction lines with
  | nil => exact cuts
  | cons line lines ih =>
      rw [List.forall_mem_cons] at plain
      obtain ⟨⟨ended, returns, short⟩, plain⟩ := plain
      have step : Cuts _ ((documentationTokens line.2.toList line.1 Position.start
          Position.start).map .leaf ++ _) :=
        (ih plain).documentation ended returns (fun _ => short) Position.start Position.start
      simpa [documentationTrees, documentationLine] using step

/-- A comma, if there is one. -/
def optionalComma (there : Bool) : List TokenTree := if there then [mark ','] else []

/-- The type of a boxed value, with or without a comma after its argument. -/
def boxTokens (comma : Bool) : List TokenTree :=
  rootPath ["std", "boxed", "Box"] ++
    mark '<' :: word "dyn" :: rootPath ["std", "any", "Any"] ++ optionalComma comma ++ [mark '>']

/-- The type of a registry, with or without commas after its arguments. -/
def resultTokens (inner outer : Bool) : List TokenTree :=
  rootPath ["std", "vec", "Vec"] ++
    mark '<' :: boxTokens inner ++ optionalComma outer ++ [mark '>']

/-- The tokens between the braces of a registry. -/
def bodyTokens (list : List TokenTree) : List TokenTree :=
  rootPath ["std", "vec"] ++
    [mark '!', .group .bracket Position.start Position.start list]

/-- The tokens of the function of a registry. -/
def functionTokens (collection : String) (inner outer : Bool) (list : List TokenTree) :
    List TokenTree :=
  word "pub" :: word "fn" :: word collection :: parenthesized [] ::
    .mark '-' true Position.start :: mark '>' :: resultTokens inner outer ++
      [.group .brace Position.start Position.start (bodyTokens list)]

section

variable {due left : Nat} {documents : List Document} {written : List Char}

theorem laid_box {indent : Int} {filling : Filling} {content : List Document}
    (laid : Laid due (.box indent filling content :: documents) written left) :
    ∃ inside onward between, written = inside ++ onward ∧ Laid due content inside between ∧
      Laid between documents onward left := by
  cases laid with
  | box within onward => exact ⟨_, _, _, rfl, within, onward⟩

theorem laid_blank {kind : Break} (plain : kind.ending = "")
    (laid : Laid due (.gap kind :: documents) written left) :
    ∃ front between onward, written = front ++ onward ∧ (front = [] ∨ front = ['\n']) ∧
      Laid between documents onward left := by
  cases laid with
  | kept onward => exact ⟨[], _, _, rfl, .inl rfl, onward⟩
  | ended indent onward => exact ⟨['\n'], _, _, by simp [plain], .inr rfl, onward⟩

theorem laid_trailingComma {indent : Int}
    (laid : Laid due (.gap (.trailingComma indent) :: documents) written left) :
    (∃ between, Laid between documents written left) ∨
      ∃ between onward, written = blanks due ++ ',' :: '\n' :: onward ∧
        Laid between documents onward left := by
  cases laid with
  | kept onward => exact .inl ⟨_, onward⟩
  | ended indent onward => exact .inr ⟨_, _, by simp [Break.trailingComma], onward⟩

end

theorem ends_mark {character : Char} (simple : character ∈ [',', '<', '>', '!', '(', ')', '[', ']']) :
    Ends (character :: rest) := by
  have solid : ∀ other ∈ [',', '<', '>', '!', '(', ')', '[', ']'],
      isIdentifierContinue other = false ∧ other ∉ ['\x22', '\x27', '#'] :=
    List.all_iff_forall_prop.mp (by decide)
  exact ends_cons (solid character simple).1 (solid character simple).2

/-- Documents that become some tokens, of which more than one kind may be allowed. -/
def Spells (documents : List Document) (allowed : List TokenTree → Prop) : Prop :=
  ∀ {due left : Nat} {written after : List Char} {lexemes : List Lexer.Lexeme},
    Laid due documents written left → Cuts after lexemes → Ends after →
      ∃ trees, allowed trees ∧ Cuts (written ++ after) (flatAll trees ++ lexemes)

/-- A type argument becomes its tokens between brackets, with or without a comma. -/
theorem cuts_typeArgument {content more : List Document} {allowed : List TokenTree → Prop}
    (contents : Spells content allowed) {due left : Nat} {written after : List Char}
    (laid : Laid due (typeArgument content ++ more) written left)
    (onward : ∀ later, Laid 0 more later left → Cuts (later ++ after) lexemes) :
    ∃ trees comma, allowed trees ∧
      Cuts (written ++ after)
        (flatAll (mark '<' :: trees ++ optionalComma comma ++ [mark '>']) ++ lexemes) ∧
      Ends (written ++ after) := by
  obtain ⟨_, rfl, box⟩ := laid_text laid
  obtain ⟨_, _, between, rfl, inner, outer⟩ := laid_box box
  obtain ⟨later, rfl, rest⟩ := laid_text outer
  obtain ⟨front, start, _, rfl, blank, within⟩ := laid_blank rfl inner
  obtain ⟨middle, _, pending, rfl, arguments, trailing⟩ := within.split
  have close := cuts_front (cuts_mark (onward later rest) (by decide : '>' ∈ _)) (.inl rfl) between
  have stops : Ends ([] ++ (blanks between ++ '>' :: (later ++ after))) :=
    ends_front (.inl rfl) (.inr (.inr (ends_mark (by decide))))
  have starts : ∀ {text : List Char}, Ends ([] ++ (blanks due ++ '<' :: text)) :=
    ends_front (.inl rfl) (.inr (.inr (ends_mark (by decide))))
  have opens : ∀ {text : List Char} {lexemes : List Lexer.Lexeme}, Cuts text lexemes →
      Cuts ([] ++ (blanks due ++ '<' :: (front ++ (blanks 0 ++ text))))
        (.leaf (mark '<') :: lexemes) := fun cuts =>
    cuts_front (cuts_mark (cuts_front cuts blank 0) (by decide)) (.inl rfl) due
  rcases laid_trailingComma trailing with ⟨_, none⟩ | ⟨_, _, rfl, none⟩
  · cases none
    obtain ⟨trees, fine, cuts⟩ := contents arguments close stops
    refine ⟨trees, false, fine, ?_, by simpa using starts⟩
    simpa [blanks, flatAll_append, optionalComma, flatAll, flat, mark] using opens cuts
  · cases none
    have trailed := cuts_front
      (cuts_mark (close.blank (by decide : isBlank '\n' = true)) (by decide : ',' ∈ _))
      (.inl rfl) pending
    have stops : ∀ {text : List Char}, Ends ([] ++ (blanks pending ++ ',' :: text)) :=
      ends_front (.inl rfl) (.inr (.inr (ends_mark (by decide))))
    obtain ⟨trees, fine, cuts⟩ := contents arguments trailed stops
    refine ⟨trees, true, fine, ?_, by simpa using starts⟩
    simpa [blanks, flatAll_append, optionalComma, flatAll, flat, mark] using opens cuts

theorem spells_any :
    Spells [.text "dyn ::std::any::Any"] (· = word "dyn" :: rootPath ["std", "any", "Any"]) := by
  intro due left written after lexemes laid cuts ends
  obtain ⟨_, rfl, none⟩ := laid_text laid
  cases none
  have text : "dyn ::std::any::Any".toList =
      "dyn".toList ++ ' ' :: pathText ["std", "any", "Any"] := by
    decide
  obtain ⟨path, -⟩ := cuts_pathText ["std", "any", "Any"] (by decide) cuts ends
  have tokens := cuts_word "dyn" (by decide) (path.blank (by decide : isBlank ' ' = true))
    (ends_cons (by decide) (by decide))
  refine ⟨_, rfl, ?_⟩
  simpa [text, flatAll, flat] using cuts_front tokens (.inl rfl) due

/-- The argument of the result. -/
def boxDocuments : List Document :=
  .text "::std::boxed::Box" :: typeArgument [.text "dyn ::std::any::Any"]

theorem spells_boxDocuments : Spells boxDocuments fun trees => ∃ comma, trees = boxTokens comma := by
  intro due left written after lexemes laid cuts ends
  obtain ⟨_, rfl, argument⟩ := laid_text laid
  have none : ∀ later, Laid 0 [] later left → Cuts (later ++ after) lexemes := by
    rintro later ⟨⟩
    exact cuts
  obtain ⟨_, comma, rfl, cuts, ends⟩ := cuts_typeArgument spells_any (by simpa using argument) none
  obtain ⟨path, -⟩ := cuts_pathText ["std", "boxed", "Box"] (by decide) cuts ends
  have text : "::std::boxed::Box".toList = pathText ["std", "boxed", "Box"] := by decide
  refine ⟨_, ⟨comma, rfl⟩, ?_⟩
  simpa [text, boxTokens, flatAll_append] using cuts_front path (.inl rfl) due

/-- The result of the function, from its arrow on. -/
theorem cuts_result {more : List Document} {due left : Nat} {written after : List Char}
    (laid : Laid due (.box (-indent) .consistent
      (.text " -> " :: .text "::std::vec::Vec" :: typeArgument boxDocuments) :: more) written left)
    (onward : ∀ {due : Nat} {later : List Char}, Laid due more later left →
      Cuts (later ++ after) lexemes) :
    ∃ inner outer, Cuts (written ++ after)
      (flatAll (.mark '-' true Position.start :: mark '>' :: resultTokens inner outer) ++
        lexemes) := by
  obtain ⟨_, later, between, rfl, content, rest⟩ := laid_box laid
  obtain ⟨_, rfl, vector⟩ := laid_text content
  obtain ⟨_, rfl, argument⟩ := laid_text vector
  have none : ∀ nothing, Laid 0 [] nothing between → Cuts (nothing ++ (later ++ after)) lexemes := by
    rintro nothing ⟨⟩
    exact onward rest
  obtain ⟨_, outer, ⟨inner, rfl⟩, cuts, ends⟩ :=
    cuts_typeArgument spells_boxDocuments (by simpa using argument) none
  obtain ⟨path, -⟩ := cuts_pathText ["std", "vec", "Vec"] (by decide) cuts ends
  have text : "::std::vec::Vec".toList = pathText ["std", "vec", "Vec"] := by decide
  have arrow : " -> ".toList = [' ', '-', '>', ' '] := by decide
  have space : isBlank ' ' = true := by decide
  have minus : '-' ∈ Lexer.marks ∧ '-' ≠ '/' ∧ '-' ≠ '\x27' := by decide
  have tokens := ((cuts_mark (path.blank space) (by decide : '>' ∈ _)).joint minus.1 minus.2.1
    minus.2.2 rfl Position.start).blank space
  refine ⟨inner, outer, ?_⟩
  simpa [text, arrow, blanks, resultTokens, flatAll_append, flatAll, flat] using
    cuts_front tokens (.inl rfl) due

/-- The list of a registry becomes its tokens, on one line or on several. -/
theorem cuts_list {tokens : List TokenTree} (plain : Plain tokens) {more : List Document}
    {due left : Nat} {written after : List Char} (laid : Laid due (list tokens ++ more) written left)
    (onward : ∀ {due : Nat} {later : List Char}, Laid due more later left →
      Cuts (later ++ after) lexemes ∧ Ends (later ++ after)) :
    Cuts (written ++ after) (flatAll tokens ++ lexemes) := by
  cases tokens with
  | nil => exact (onward laid).1
  | cons token tokens =>
      obtain ⟨_, later, between, rfl, content, rest⟩ := laid_box laid
      obtain ⟨front, start, _, rfl, blank, inner⟩ := laid_blank rfl content
      obtain ⟨_, _, pending, rfl, sequence, trailing⟩ := laid_box inner
      obtain ⟨last, _, nothing, rfl, space, none⟩ := laid_blank rfl trailing
      cases none
      obtain ⟨cuts, ends⟩ := onward rest
      have trailed := cuts_front cuts space 0
      have stops : Ends (last ++ (blanks 0 ++ (later ++ after))) :=
        ends_front space (.inr (.inr ends))
      obtain ⟨cuts, -⟩ := plain.recut Spacing.usual_start sequence trailed stops
      simpa [blanks] using cuts_front cuts blank 0

/-- The body of the function. -/
theorem cuts_body {tokens : List TokenTree} (plain : Plain tokens) {due left : Nat}
    {written after : List Char}
    (laid : Laid due (.text "::std::vec![" :: (list tokens ++ [.text "]"])) written left)
    (cuts : Cuts after lexemes) :
    Cuts (written ++ after) (flatAll (bodyTokens tokens) ++ lexemes) := by
  obtain ⟨_, rfl, content⟩ := laid_text laid
  have closing : ∀ {due : Nat} {later : List Char}, Laid due [.text "]"] later left →
      Cuts (later ++ after) (.closing .bracket Position.start :: lexemes) ∧
        Ends (later ++ after) := by
    intro due later last
    obtain ⟨_, rfl, none⟩ := laid_text last
    cases none
    have close := cuts_front (cuts.closing .bracket Position.start) (.inl rfl) due
    have stops : Ends ([] ++ (blanks due ++ ']' :: after)) :=
      ends_front (.inl rfl) (.inr (.inr (ends_mark (by decide))))
    refine ⟨?_, by simpa using stops⟩
    simpa [Delimiter.closing] using close
  have elements := cuts_list plain content closing
  have tokens := cuts_mark (elements.opening .bracket Position.start) (by decide : '!' ∈ _)
  obtain ⟨path, -⟩ := cuts_pathText ["std", "vec"] (by decide) tokens (ends_mark (by decide))
  have text : "::std::vec![".toList = pathText ["std", "vec"] ++ ['!', '['] := by decide
  simpa [text, bodyTokens, flatAll_append, flatAll, flat, Delimiter.opening] using
    cuts_front path (.inl rfl) due

/-- The documents of the function. -/
def functionDocuments (collection : Name) (tokens : List TokenTree) : List Document :=
  [.box indent .consistent
    (signature collection ++
      [.gap (.line 0),
        .box 0 .inconsistent ([.text "::std::vec![" ] ++ list tokens ++ [.text "]"]),
        .gap (.line (-indent))]),
    .text "\x7d", .gap (.line 0)]

/-- The braces of the function with what stands between them. -/
theorem cuts_braces {tokens : List TokenTree} (plain : Plain tokens) {due left : Nat}
    {written after : List Char}
    (laid : Laid due (.text " \x7b" :: .gap (.line 0) ::
      [.box 0 .inconsistent ([.text "::std::vec![" ] ++ list tokens ++ [.text "]"]),
        .gap (.line (-indent))]) written left)
    (cuts : Cuts after (.closing .brace Position.start :: lexemes)) :
    Cuts (written ++ after)
      (flat (.group .brace Position.start Position.start (bodyTokens tokens)) ++ lexemes) := by
  obtain ⟨_, rfl, content⟩ := laid_text laid
  obtain ⟨first, start, _, rfl, blank, content⟩ := laid_blank rfl content
  obtain ⟨_, _, between, rfl, body, rest⟩ := laid_box content
  obtain ⟨last, _, nothing, rfl, space, none⟩ := laid_blank rfl rest
  cases none
  have inside := cuts_body plain body (cuts_front cuts space 0)
  have tokens := (cuts_front inside blank 0).opening .brace Position.start
  have text : " \x7b".toList = [' ', '\x7b'] := by decide
  simpa [text, blanks, flat, Delimiter.opening] using
    cuts_front (tokens.blank (by decide : isBlank ' ' = true)) (.inl rfl) due

/-- The function of a registry is cut into its tokens. -/
theorem cuts_functionDocuments {collection : Name} (named : IsName collection.spelling.toList)
    {tokens : List TokenTree} (plain : Plain tokens) {left : Nat} {written : List Char}
    (laid : Laid 0 (functionDocuments collection tokens) written left) :
    ∃ inner outer,
      Cuts written (flatAll (functionTokens collection.spelling inner outer tokens)) := by
  obtain ⟨_, _, between, rfl, content, rest⟩ := laid_box laid
  obtain ⟨_, rfl, ending⟩ := laid_text rest
  obtain ⟨front, _, nothing, rfl, blank, none⟩ := laid_blank rfl ending
  cases none
  have close := cuts_front ((cuts_front Lexer.cuts_nil blank 0).closing .brace Position.start)
    (.inl rfl) between
  obtain ⟨_, rfl, name⟩ := laid_text content
  obtain ⟨_, rfl, parentheses⟩ := laid_text name
  obtain ⟨_, rfl, arrow⟩ := laid_text parentheses
  obtain ⟨inner, outer, result⟩ := cuts_result arrow fun later => cuts_braces plain later close
  have group := (result.closing .parenthesis Position.start).opening .parenthesis Position.start
  have named := cuts_word collection.spelling named group (ends_mark (by decide))
  have space : isBlank ' ' = true := by decide
  have function := cuts_word "fn" (by decide) (named.blank space) (ends_cons (by decide) (by decide))
  have visible := cuts_word "pub" (by decide) (function.blank space)
    (ends_cons (by decide) (by decide))
  have text : "pub fn ".toList = "pub".toList ++ ' ' :: ("fn".toList ++ [' ']) := by decide
  have pair : "()".toList = ['(', ')'] := by decide
  refine ⟨inner, outer, ?_⟩
  simpa [text, pair, blanks, functionTokens, parenthesized, flatAll_append, flatAll, flat,
    Delimiter.opening, Delimiter.closing] using visible

theorem render_document (collection : Name) (paths : List Path) :
    ∃ written left, Laid 0 (functionDocuments collection (listTokens paths)) written left ∧
      (document collection paths).render.toList =
        (documented.map documentationLine).flatMap (· ++ ['\n']) ++ written := by
  obtain ⟨written, left, laid, wrote⟩ := Layout.toList_render_lines header.head! header.tail
    (functionDocuments collection (listTokens paths))
  refine ⟨written, left, laid, ?_⟩
  rw [← toList_header, List.flatMap_map]
  exact wrote

/-- The text of a registry is read as its documentation and its function. -/
theorem tokenTrees_document {collection : Name} (named : IsName collection.spelling.toList)
    {paths : List Path} (plain : ∀ path ∈ paths, IsPlain path) :
    ∃ inner outer trees,
      Lexer.tokenTrees (withoutInterpreter (document collection paths).render.toList) =
        .ok trees ∧
      TokenTree.AllLike (documentationTrees documented ++
        functionTokens collection.spelling inner outer (listTokens paths)) trees := by
  obtain ⟨written, left, laid, wrote⟩ := render_document collection paths
  obtain ⟨inner, outer, cuts⟩ := cuts_functionDocuments named (plain_listTokens plain) laid
  have lines : ∀ line ∈ documented, '\n' ∉ line.2.toList ∧ '\r' ∉ line.2.toList ∧
      line.2.toList.head? ≠ some '/' := by decide
  have whole := cuts_documentation lines cuts
  have front : ∃ after,
      (documented.map documentationLine).flatMap (· ++ ['\n']) ++ written = '/' :: after :=
    ⟨_, rfl⟩
  rw [← wrote] at whole front
  obtain ⟨after, start⟩ := front
  have same : withoutInterpreter (document collection paths).render.toList =
      (document collection paths).render.toList := by
    rw [start]
    rfl
  obtain ⟨trees, read, alike⟩ := Lexer.tokenTrees_of_cuts whole (by simp [start])
  exact ⟨inner, outer, trees, by rw [same, read], alike⟩

end Rendering

end RecordRegistry
