/-
# Reading undoes rendering

What a registry lists is read from its text exactly: the types of the selected entries in their
order, under the package and the modules that they were given.  Neither the number of the entries
nor the length of their names matters, and no name can bring in anything else.
-/

import RecordRegistry.Proofs.Provenance.Name
import RecordRegistry.Proofs.Reading.Shape
import RecordRegistry.Proofs.Results

namespace RecordRegistry

open RecordRegistry.Parser (StandsFor Usable typeText)
open Rendering (IsPlain IsReadable namesOf)

variable {text : String} {name : Name} {path : Path} {entry : Entry}

/-- The text may be given as a package: it is empty, or a path of names without arguments. -/
def IsPackage (text : String) (path : Path) : Prop :=
  (text = "" ∧ path = ⟨false, []⟩) ∨
    (Path.parse text = .ok path ∧
      ∀ segment ∈ path.segments, segment.arguments = .none ∧ Usable segment.name.spelling)

/-- The name that a module goes by: its own, or the raw one if only that is a name. -/
def IsModuleName (text : String) (name : Name) : Prop :=
  Name.parse text = .ok name ∨
    ((∀ other, Name.parse text ≠ .ok other) ∧ Name.parse ("r#" ++ text) = .ok name)

/-- The text of the type of an entry: the names of the package, of the module if there is one, and
of the type, with colons between them. -/
def IsTypeText (package : Path) (entry : Entry) (type : String) : Prop :=
  ∃ modules name, List.Forall₂ IsModuleName entry.module.toList modules ∧
    Name.parse entry.name = .ok name ∧
    type = (if package.rooted then "::" else "") ++
      "::".intercalate (namesOf package ++ (modules ++ [name]).map Name.spelling)

theorem Name.isReserved_of_parse (read : Name.parse text = .ok name) :
    isReserved name.spelling = false := by
  obtain ⟨trees, found, cut, yields⟩ := Name.parse_eq_ok_iff.mp read
  obtain ⟨stream, run, -⟩ := Parser.runWithin_eq_ok_iff.mp yields
  cases trees with
  | nil => contradiction
  | cons tree trees =>
      cases tree with
      | name spelling position =>
          obtain ⟨free, rfl⟩ := Parser.eq_of_run_identifier run
          exact free
      | _ => contradiction

theorem isModuleName_of_moduleName (named : Rendering.moduleName text = .ok name) :
    IsModuleName text name := by
  unfold Rendering.moduleName at named
  split at named
  · next other read =>
      cases named
      exact .inl read
  · next error failed =>
      refine .inr ⟨?_, mapError_eq_ok_iff.mp named⟩
      intro other read
      rw [failed] at read
      contradiction

/-- What may be printed and read as the path of a type. -/
def IsUsable (name : Name) : Prop := Lexer.IsName name.spelling.toList ∧ Usable name.spelling

theorem Name.isUsable_of_parse (read : Name.parse text = .ok name) : IsUsable name :=
  ⟨Name.isName_of_parse read, .inl (Name.isReserved_of_parse read)⟩

theorem IsModuleName.isUsable (named : IsModuleName text name) : IsUsable name := by
  rcases named with read | ⟨-, read⟩
  · exact Name.isUsable_of_parse read
  · exact Name.isUsable_of_parse read

theorem IsPackage.isUsable (packaged : IsPackage text path) :
    ∀ segment ∈ path.segments, segment.arguments = .none ∧ IsUsable segment.name := by
  rcases packaged with ⟨-, rfl⟩ | ⟨read, plain⟩
  · exact List.forall_mem_nil _
  · intro segment met
    obtain ⟨none, usable⟩ := plain segment met
    exact ⟨none, Path.isName_of_parse read segment met, usable⟩

theorem IsPackage.eq_of_namespacePath (packaged : IsPackage text path) {found : Path}
    (read : Rendering.namespacePath text = .ok found) : found = path := by
  unfold Rendering.namespacePath at read
  rcases packaged with ⟨empty, rfl⟩ | ⟨parsed, -⟩
  · rw [if_pos empty] at read
    exact (Except.ok.inj read).symm
  · split at read
    · next empty =>
        subst empty
        have none : Path.parse "" ≠ .ok path := by
          intro parsed
          obtain ⟨trees, found, cut, yields⟩ := Path.parse_eq_ok_iff.mp parsed
          cases cut
          obtain ⟨stream, run, -⟩ := Parser.runWithin_eq_ok_iff.mp yields
          cases run
        exact absurd parsed none
    · rw [mapError_eq_ok_iff, parsed] at read
      exact (Except.ok.inj read).symm

/-- The path of an entry names its type, and it can be printed and read. -/
theorem isTypeText_of_entryPath {package : String} {here : Path} (packaged : IsPackage package here)
    (named : Rendering.entryPath package entry = .ok path) :
    IsPlain path ∧ IsReadable path ∧ IsTypeText here entry (typeText path.rooted (namesOf path)) := by
  obtain ⟨found, spaced, named⟩ := bind_eq_ok_iff.mp named
  obtain ⟨modules, moduled, named⟩ := bind_eq_ok_iff.mp named
  obtain ⟨name, typed, named⟩ := bind_eq_ok_iff.mp named
  cases named
  obtain rfl := packaged.eq_of_namespacePath spaced
  have moduled : List.Forall₂ IsModuleName entry.module.toList modules :=
    (mapM_eq_ok_iff.mp moduled).imp fun _ _ => isModuleName_of_moduleName
  have typed : Name.parse entry.name = .ok name := mapError_eq_ok_iff.mp typed
  have modular := forall_mem_of_forall₂ (fun _ _ named => IsModuleName.isUsable named) moduled
  have added : ∀ other ∈ modules ++ [name], IsUsable other := by
    intro other met
    rcases List.mem_append.mp met with module | own
    · exact modular other module
    · obtain rfl := List.mem_singleton.mp own
      exact Name.isUsable_of_parse typed
  have all : ∀ segment ∈ found.segments ++ (modules ++ [name]).map Rendering.segment,
      segment.arguments = .none ∧ IsUsable segment.name := by
    intro segment met
    rcases List.mem_append.mp met with here | later
    · exact packaged.isUsable segment here
    · obtain ⟨other, inside, rfl⟩ := List.mem_map.mp later
      exact ⟨rfl, added other inside⟩
  refine ⟨fun segment met => ⟨(all segment met).1, (all segment met).2.1⟩,
    ⟨fun segment met => (all segment met).1, by simp, ?_⟩, modules, name, moduled, typed, ?_⟩
  · intro spelling met
    obtain ⟨segment, inside, rfl⟩ := List.mem_map.mp met
    exact (all segment inside).2.2
  · simp only [typeText, namesOf, List.map_append, List.map_map]
    rfl

/-- Texts are read with a grammar of some depth that is known to be large enough. -/
theorem grammarFor_eq (trees : List TokenTree) :
    ∃ depth, Parser.grammarFor trees = Parser.grammar (depth + 5) := by
  refine ⟨8 * TokenTree.sizeAll trees + 11, ?_⟩
  rw [Parser.grammarFor, Nat.add_assoc]

/-- What a registry lists, between its brackets, is read as the types of its paths. -/
theorem runWithin_of_listed {paths : List Path} {elements : List Expression}
    {content : List TokenTree}
    (standing : List.Forall₂ (fun path => StandsFor path.rooted (namesOf path)) paths elements)
    (listed : ∀ depth,
      Parser.Listed (Parser.expression (Parser.grammar (depth + 4)) true) elements content) :
    (Parser.commaList ((Parser.grammarFor content).expression true)).runWithin Parser.wholeText
        content = .ok (elements, []) ∧
      elements.mapM Expression.instancePath? =
        some (paths.map fun path => typeText path.rooted (namesOf path)) := by
  constructor
  · obtain ⟨depth, deep⟩ := grammarFor_eq content
    have run : (Parser.commaList ((Parser.grammar (depth + 5)).expression true)).run
        ⟨content, Parser.wholeText, none, []⟩ = .ok (elements, ⟨[], Parser.wholeText, none, []⟩) :=
      (listed depth).run_commaList
    rw [deep]
    exact Parser.runWithin_eq_ok_iff.mpr ⟨_, run, rfl, rfl, rfl⟩
  · clear listed
    induction standing with
    | nil => rfl
    | cons stands onward ih => rw [List.mapM_cons, stands.instancePath?_eq, ih, List.map_cons]; rfl

/-- A text that is read as a function with one list of instances is a registry. -/
theorem readRegistry_of_parse {code name : String} {position : Position} {content : List TokenTree}
    {elements : List Expression} {types : List String}
    (parsed : SourceFile.parse code = .ok ⟨[], [.function ⟨name, position⟩ [.invocation content]]⟩)
    (read : (Parser.commaList ((Parser.grammarFor content).expression true)).runWithin
      Parser.wholeText content = .ok (elements, []))
    (texts : elements.mapM Expression.instancePath? = some types) :
    readRegistry code name = some types := by
  simp [readRegistry, parsed, Except.toOption, SourceFile.functionBody?, read, texts]

/-- The text for some paths is a file with one function, and the paths are read from it. -/
theorem readRegistry_document {collection : Name} {source : String} {paths : List Path}
    (named : Name.parse source = .ok collection) (plain : ∀ path ∈ paths, IsPlain path)
    (readable : ∀ path ∈ paths, IsReadable path) {code : String}
    (written : (Rendering.document collection paths).render = code) :
    (∃ position body,
      SourceFile.parse code = .ok ⟨[], [.function ⟨collection.spelling, position⟩ body]⟩) ∧
      readRegistry code collection.spelling =
        some (paths.map fun path => typeText path.rooted (namesOf path)) := by
  obtain ⟨inner, outer, trees, cut, alike⟩ :=
    Rendering.tokenTrees_document (Name.isName_of_parse named) plain
  obtain ⟨content, like, writes⟩ := Rendering.writesFile_of_allLike alike
  obtain ⟨elements, standing, listed⟩ := Rendering.listed_of_allLike readable like
  obtain ⟨depth, deep⟩ := grammarFor_eq trees
  obtain ⟨position, run⟩ : ∃ position, (Parser.file (Parser.grammar (depth + 5))).run
      ⟨trees, Parser.wholeText, none, []⟩ =
        .ok (⟨[], [.function ⟨collection.spelling, position⟩ [.invocation content]]⟩,
          ⟨[], Parser.wholeText, none, []⟩) :=
    writes.run_file (Name.isReserved_of_parse named) depth
  rw [← deep] at run
  rw [written] at cut
  have parsed := SourceFile.parse_eq_ok_iff.mpr
    ⟨trees, [], cut, Parser.runWithin_eq_ok_iff.mpr ⟨_, run, rfl, rfl, rfl⟩⟩
  obtain ⟨read, texts⟩ := runWithin_of_listed standing listed
  exact ⟨⟨position, _, parsed⟩, readRegistry_of_parse parsed read texts⟩

/-- What is rendered is the text for the paths of the selected entries. -/
theorem exists_paths_of_renderRegistry {naming : Naming} {entries : List Entry} {package : Path}
    {code : String} (packaged : IsPackage naming.package package)
    (rendered : renderRegistry naming entries = .ok code) :
    ∃ collection paths, Name.parse naming.collection = .ok collection ∧
      (Rendering.document collection paths).render = code ∧
      List.Forall₂ (fun entry path => IsPlain path ∧ IsReadable path ∧
        IsTypeText package entry (typeText path.rooted (namesOf path)))
        (entries.filter Entry.selected) paths := by
  obtain ⟨collection, named, rendered⟩ := bind_eq_ok_iff.mp rendered
  obtain ⟨paths, listing, rendered⟩ := bind_eq_ok_iff.mp rendered
  refine ⟨collection, paths, mapError_eq_ok_iff.mp named, Except.ok.inj rendered, ?_⟩
  exact (mapM_eq_ok_iff.mp listing).imp fun _ _ => isTypeText_of_entryPath packaged

/-- What is rendered is read as the types of the selected entries, in their order. -/
theorem exists_typeTexts_of_renderRegistry {naming : Naming} {entries : List Entry} {package : Path}
    {code : String} (packaged : IsPackage naming.package package)
    (rendered : renderRegistry naming entries = .ok code) :
    ∃ collection types, Name.parse naming.collection = .ok collection ∧
      readRegistry code collection.spelling = some types ∧
      List.Forall₂ (IsTypeText package) (entries.filter Entry.selected) types := by
  obtain ⟨collection, paths, named, written, typed⟩ :=
    exists_paths_of_renderRegistry packaged rendered
  have plain := forall_mem_of_forall₂ (fun _ _ typed => typed.1) typed
  have readable := forall_mem_of_forall₂ (fun _ _ typed => typed.2.1) typed
  refine ⟨collection, _, named, (readRegistry_document named plain readable written).2, ?_⟩
  rw [List.forall₂_map_right_iff]
  exact typed.imp fun _ _ typed => typed.2.2

/-- What a registry lists is read from its text: the text is a file with one function, and the
types are those of the selected entries, in their order. -/
theorem readRegistry_of_renderRegistry {naming : Naming} {entries : List Entry} {package : Path}
    {code : String} (packaged : IsPackage naming.package package)
    (rendered : renderRegistry naming entries = .ok code) :
    ∃ collection position body types, Name.parse naming.collection = .ok collection ∧
      SourceFile.parse code = .ok ⟨[], [.function ⟨collection.spelling, position⟩ body]⟩ ∧
      readRegistry code collection.spelling = some types ∧
      List.Forall₂ (IsTypeText package) (entries.filter Entry.selected) types := by
  obtain ⟨collection, paths, named, written, typed⟩ :=
    exists_paths_of_renderRegistry packaged rendered
  have plain := forall_mem_of_forall₂ (fun _ _ typed => typed.1) typed
  have readable := forall_mem_of_forall₂ (fun _ _ typed => typed.2.1) typed
  obtain ⟨⟨position, body, parsed⟩, read⟩ := readRegistry_document named plain readable written
  refine ⟨collection, position, body, _, named, parsed, read, ?_⟩
  rw [List.forall₂_map_right_iff]
  exact typed.imp fun _ _ typed => typed.2.2

/-- The names for a registry that stands outside of the package of its entries. -/
def entityNaming : Naming := ⟨"crate::entity", " models "⟩

/-- Entries of which one is not selected, and another one lies in a module with a reserved name. -/
def entityEntries : List Entry :=
  [⟨"Book", some "type", true⟩, ⟨"Draft", some "book", false⟩, ⟨"r#Type", none, true⟩]

/-- The path may be given as a package. -/
def Path.isPackage (path : Path) : Bool :=
  path.segments.all fun segment => (segment.arguments matches .none) &&
    decide (isReserved segment.name.spelling = false ∨ segment.name.spelling ∈ Parser.pathWords)

theorem exists_isPackage (fits : (Path.parse text).toOption.any Path.isPackage = true) :
    ∃ package, IsPackage text package := by
  cases read : Path.parse text with
  | error error => simp [read, Except.toOption] at fits
  | ok package =>
      simp only [read, Except.toOption, Option.any_some, Path.isPackage, List.all_eq_true,
        Bool.and_eq_true, decide_eq_true_eq] at fits
      refine ⟨package, .inr ⟨read, fun segment met => ?_⟩⟩
      obtain ⟨bare, usable⟩ := fits segment met
      refine ⟨?_, usable⟩
      split at bare
      · next none => exact none
      · contradiction

/-- The registry of these entries is read. -/
theorem readRegistry_of_renderRegistry_entityEntries :
    ∃ package code, IsPackage entityNaming.package package ∧
      renderRegistry entityNaming entityEntries = .ok code ∧
      ∃ collection position body types, Name.parse entityNaming.collection = .ok collection ∧
        SourceFile.parse code = .ok ⟨[], [.function ⟨collection.spelling, position⟩ body]⟩ ∧
        readRegistry code collection.spelling = some types ∧
        List.Forall₂ (IsTypeText package) (entityEntries.filter Entry.selected) types := by
  have succeeds : (renderRegistry entityNaming entityEntries).isOk = true := by decide +kernel
  have fits : (Path.parse entityNaming.package).toOption.any Path.isPackage = true := by
    decide +kernel
  obtain ⟨package, packaged⟩ := exists_isPackage fits
  obtain ⟨code, rendered⟩ := exists_eq_ok_of_isOk succeeds
  exact ⟨package, code, packaged, rendered, readRegistry_of_renderRegistry packaged rendered⟩

end RecordRegistry
