/-
# What a registry can be rendered for

Two kinds of text are read as names when a registry is rendered: the names it uses for itself, and
those that the scan has found.  A type can always be named, since the name of a declaration is read
again as it has been read before, and what is put together is always one function of a file,
however many types it lists.  What may be refused among the names that have been found is a module
whose name no file of it could be declared under, and it is refused only for the sake of a record.
-/

import RecordRegistry.Proofs.Generation.Duplicates

namespace RecordRegistry

variable {text package : String} {naming : Naming} {entry : Entry}

/-- The text reads as one identifier. -/
def IsIdentifier (text : String) : Prop := ∃ name, Name.parse text = .ok name

/-- The text can stand for a namespace: it is empty, or it reads as a path. -/
def IsNamespace (text : String) : Prop := text = "" ∨ ∃ path, Path.parse text = .ok path

/-- A module can be named by the text, as it is or as a raw name. -/
def NamesModule (text : String) : Prop := IsIdentifier text ∨ IsIdentifier ("r#" ++ text)

namespace Rendering

theorem exists_namespacePath (located : IsNamespace text) :
    ∃ path, namespacePath text = .ok path := by
  unfold namespacePath
  split
  · exact ⟨_, rfl⟩
  · next filled =>
      obtain ⟨path, read⟩ := located.resolve_left filled
      exact ⟨path, mapError_eq_ok_iff.mpr read⟩

theorem namespacePath_of_refused (refused : ¬ IsNamespace text) :
    namespacePath text = .error (.modulePath text) := by
  obtain ⟨filled, unread⟩ := not_or.mp refused
  rw [namespacePath, if_neg filled]
  exact mapError_of_refused unread _

theorem exists_moduleName (named : NamesModule text) : ∃ name, moduleName text = .ok name := by
  unfold moduleName
  split
  · exact ⟨_, rfl⟩
  · next error failed =>
      have unread : ¬ IsIdentifier text := by
        rintro ⟨name, read⟩
        rw [failed] at read
        contradiction
      obtain ⟨name, read⟩ := named.resolve_left unread
      exact ⟨name, mapError_eq_ok_iff.mpr read⟩

theorem moduleName_of_refused (refused : ¬ NamesModule text) :
    moduleName text = .error (.moduleName text) := by
  obtain ⟨unread, raw⟩ := not_or.mp refused
  unfold moduleName
  split
  · next name read => exact absurd ⟨name, read⟩ unread
  · exact mapError_of_refused raw _

example : moduleName "two words" = .error (.moduleName "two words") := by decide +kernel

/-- An entry whose names can all be used has a path. -/
theorem exists_entryPath (located : IsNamespace package)
    (modular : ∀ module ∈ entry.module, NamesModule module) (named : IsIdentifier entry.name) :
    ∃ path, entryPath package entry = .ok path := by
  obtain ⟨path, spaced⟩ := exists_namespacePath located
  obtain ⟨modules, moduled⟩ : ∃ modules, entry.module.toList.mapM moduleName = .ok modules := by
    cases own : entry.module with
    | none => exact ⟨[], rfl⟩
    | some module =>
        obtain ⟨name, read⟩ := exists_moduleName (modular module own)
        exact ⟨[name], mapM_eq_ok_iff.mpr (.cons read .nil)⟩
  obtain ⟨name, read⟩ := named
  exact ⟨_, bind_eq_ok_iff.mpr ⟨path, spaced, bind_eq_ok_iff.mpr ⟨modules, moduled,
    bind_eq_ok_iff.mpr ⟨name, mapError_eq_ok_iff.mpr read, rfl⟩⟩⟩⟩

/-- An entry in a module that cannot be named is refused for this module. -/
theorem entryPath_of_module (located : IsNamespace package) {module : String}
    (inside : entry.module = some module) (refused : ¬ NamesModule module) :
    entryPath package entry = .error (.moduleName module) := by
  obtain ⟨path, spaced⟩ := exists_namespacePath located
  refine bind_eq_error_iff.mpr (.inr ⟨path, spaced, bind_eq_error_iff.mpr (.inl ?_)⟩)
  rw [inside]
  exact mapM_eq_error_iff.mpr ⟨[], module, [], rfl, List.forall_mem_nil _,
    moduleName_of_refused refused⟩

/-- No entry has a path in a namespace that cannot be used. -/
theorem entryPath_of_namespace (refused : ¬ IsNamespace package) :
    entryPath package entry = .error (.modulePath package) :=
  bind_eq_error_iff.mpr (.inl (namespacePath_of_refused refused))

/-- The tokens that a registry is printed from. -/
def fileTokens (collection : Name) (paths : List Path) : List TokenTree :=
  documentationTrees documented ++
    functionTokens collection.spelling false false (listTokens paths)

/-- The tokens of a registry are read as a file with one function, whatever paths it lists: what
stands between the brackets is not looked at. -/
theorem runWithin_fileTokens {collection : Name} (read : Name.parse text = .ok collection)
    (paths : List Path) :
    ∃ position content, TokenTree.AllLike (listTokens paths) content ∧
      (Parser.file (Parser.grammarFor (fileTokens collection paths))).runWithin Parser.wholeText
          (fileTokens collection paths) =
        .ok (⟨[], [.function ⟨collection.spelling, position⟩ [.invocation content]]⟩, []) := by
  obtain ⟨content, like, writes⟩ :=
    writesFile_of_allLike (TokenTree.allLike_refl (fileTokens collection paths))
  obtain ⟨depth, deep⟩ := grammarFor_eq (fileTokens collection paths)
  obtain ⟨position, run⟩ := @Parser.WritesFile.run_file _ _ Parser.wholeText none _
    (Name.isReserved_of_parse read) writes depth
  rw [← deep] at run
  exact ⟨position, content, like, Parser.runWithin_eq_ok_iff.mpr ⟨_, run, rfl, rfl, rfl⟩⟩

end Rendering

/-- A collection that is not an identifier is refused, whatever there is to be listed.  A namespace
that is no path is looked at only for the sake of an entry: without a selected one, the registry of
no types is rendered for it. -/
theorem renderRegistry_of_refused (naming : Naming) (entries : List Entry) :
    (¬ IsIdentifier naming.collection →
      renderRegistry naming entries = .error (.identifier naming.collection)) ∧
    ∀ collection, Name.parse naming.collection = .ok collection →
      ¬ IsNamespace naming.package →
      renderRegistry naming entries =
        if entries.any Entry.selected then .error (.modulePath naming.package)
        else .ok (Rendering.document collection []).render := by
  constructor
  · intro refused
    exact bind_eq_error_iff.mpr (.inl (mapError_of_refused refused _))
  · intro collection read refused
    have collected : (Name.parse naming.collection).mapError (fun _ =>
        RenderError.identifier naming.collection) = .ok collection := mapError_eq_ok_iff.mpr read
    cases selected : entries.filter Entry.selected with
    | nil =>
        have none : entries.any Entry.selected = false := by
          simpa [List.filter_eq_nil_iff] using selected
        rw [none]
        refine bind_eq_ok_iff.mpr ⟨collection, collected, bind_eq_ok_iff.mpr ⟨[], ?_, rfl⟩⟩
        rw [selected]
        rfl
    | cons entry others =>
        have some : entries.any Entry.selected = true :=
          List.any_eq_true.mpr ⟨entry, List.mem_filter.mp (selected ▸ List.mem_cons_self)⟩
        rw [some]
        refine bind_eq_error_iff.mpr (.inr ⟨collection, collected, bind_eq_error_iff.mpr (.inl ?_)⟩)
        rw [selected]
        exact mapM_eq_error_iff.mpr ⟨[], entry, others, rfl, List.forall_mem_nil _,
          Rendering.entryPath_of_namespace refused⟩

/-- Names for a registry whose namespace is no path. -/
def spacedNaming : Naming := ⟨"a b", "models"⟩

theorem not_isNamespace_spacedNaming : ¬ IsNamespace spacedNaming.package := by
  have failed : (Path.parse spacedNaming.package).isOk = false := by decide +kernel
  rintro (empty | ⟨path, read⟩)
  · exact absurd empty (by decide)
  · rw [read] at failed
    cases failed

/-- A collection of two words is refused without an entry, and a namespace of two words for the
sake of one. -/
theorem renderRegistry_of_refused_spacedNaming :
    ¬ IsIdentifier "a b" ∧
      renderRegistry ⟨"super", "a b"⟩ [] = .error (.identifier "a b") ∧
      ∃ collection, Name.parse spacedNaming.collection = .ok collection ∧
        ¬ IsNamespace spacedNaming.package ∧
        renderRegistry spacedNaming [⟨"Book", none, true⟩] =
          if [(⟨"Book", none, true⟩ : Entry)].any Entry.selected then .error (.modulePath "a b")
          else .ok (Rendering.document collection []).render := by
  have failed : (Name.parse "a b").isOk = false := by decide +kernel
  have refused : ¬ IsIdentifier "a b" := by
    rintro ⟨name, read⟩
    rw [read] at failed
    cases failed
  obtain ⟨collection, read⟩ := Generator.exists_collection_default
  exact ⟨refused, (renderRegistry_of_refused ⟨"super", "a b"⟩ []).1 refused, collection, read,
    not_isNamespace_spacedNaming,
    (renderRegistry_of_refused spacedNaming _).2 collection read not_isNamespace_spacedNaming⟩

/-- A namespace that is no path is accepted as long as there are no entries. -/
theorem isOk_renderRegistry_spacedNaming :
    ¬ IsNamespace spacedNaming.package ∧ ∃ code, renderRegistry spacedNaming [] = .ok code :=
  ⟨not_isNamespace_spacedNaming, exists_eq_ok_of_isOk (by decide +kernel)⟩

namespace SourceUnit

/-- The name of the file without its extension. -/
def stem? (unit : SourceUnit) : Option String := unit.path.stem?.bind Utf8.decode?

/-- The file declares a record. -/
def HasRecord (unit : SourceUnit) : Prop :=
  ∃ declaration ∈ unit.declarations, declaration.shape = .record

/-- A registry can name what the file declares: the file is the root of its package, or its module
can be named. -/
def IsNamed (unit : SourceUnit) : Prop :=
  ∃ stem, unit.stem? = some stem ∧ (stem ∈ Package.rootStems ∨ NamesModule stem)

theorem selectedEntries_eq_nil_iff {unit : SourceUnit} :
    selectedEntries unit.declarations = [] ↔ ¬ unit.HasRecord := by
  simp [selectedEntries, entries, HasRecord, Declaration.entry, List.filter_eq_nil_iff]

end SourceUnit

namespace Package

variable {files : FileSystem} {here : Location} {directory : FilePath} {exclude : Option FilePath}
  {found : Package} {unit : SourceUnit}

theorem selectedEntries_flatMap (found : Package) :
    selectedEntries found.declarations =
      found.units.flatMap fun unit => selectedEntries unit.declarations := by
  simp only [selectedEntries, entries, declarations, List.map_flatMap, List.filter_flatMap]

/-- The entries of a file are in its module, and their types can be named. -/
theorem isIdentifier_of_mem_selectedEntries
    (scanned : scan files here directory exclude = .ok found) (listed : unit ∈ found.units)
    (met : entry ∈ selectedEntries unit.declarations) :
    entry.module = unit.module ∧ IsIdentifier entry.name := by
  obtain ⟨declaration, inside, rfl⟩ := List.mem_map.mp (List.mem_filter.mp met).1
  obtain ⟨named, free⟩ := isTypeName_of_mem_declarations scanned listed inside
  obtain ⟨item, -, declares⟩ := List.mem_filterMap.mp inside
  obtain ⟨declared, -, rfl⟩ := Option.map_eq_some_iff.mp declares
  exact ⟨rfl, Name.exists_parse_of_isName named free⟩

/-- The entries of a file have paths if the file is named or declares no record. -/
theorem exists_paths_of_isNamed (located : IsNamespace package)
    (scanned : scan files here directory exclude = .ok found) (listed : unit ∈ found.units)
    (named : unit.HasRecord → unit.IsNamed) :
    ∃ paths, (selectedEntries unit.declarations).mapM (Rendering.entryPath package) = .ok paths := by
  obtain ⟨stem, text, stemmed, module, -⟩ := exists_source_of_scan scanned listed
  refine exists_mapM_eq_ok_iff.mpr fun entry met => ?_
  obtain ⟨inside, typed⟩ := isIdentifier_of_mem_selectedEntries scanned listed met
  have record : unit.HasRecord := by
    by_contra none
    rw [SourceUnit.selectedEntries_eq_nil_iff.mpr none] at met
    cases met
  obtain ⟨again, same, usable⟩ := named record
  obtain rfl : stem = again := Option.some.inj (stemmed.symm.trans same)
  refine Rendering.exists_entryPath located ?_ typed
  intro other own
  rw [inside, module, moduleOf] at own
  split at own
  · cases own
  · next apart =>
      obtain rfl := Option.some.inj own
      exact usable.resolve_left (by simpa using apart)

/-- The entries of a file that declares a record and is not named are refused for its stem. -/
theorem mapM_entryPath_of_not_isNamed (located : IsNamespace package)
    (scanned : scan files here directory exclude = .ok found) (listed : unit ∈ found.units)
    (record : unit.HasRecord) (unnamed : ¬ unit.IsNamed) :
    ∃ stem, unit.stem? = some stem ∧ stem ∉ rootStems ∧ ¬ NamesModule stem ∧
      (selectedEntries unit.declarations).mapM (Rendering.entryPath package) =
        .error (.moduleName stem) := by
  obtain ⟨stem, text, stemmed, module, -⟩ := exists_source_of_scan scanned listed
  obtain ⟨apart, refused⟩ : stem ∉ rootStems ∧ ¬ NamesModule stem := by
    rw [← not_or]
    exact fun usable => unnamed ⟨stem, stemmed, usable⟩
  refine ⟨stem, stemmed, apart, refused, ?_⟩
  obtain ⟨entry, others, split⟩ : ∃ entry others,
      selectedEntries unit.declarations = entry :: others :=
    List.ne_nil_iff_exists_cons.mp fun none =>
      SourceUnit.selectedEntries_eq_nil_iff.mp none record
  have inside : entry.module = some stem := by
    have met : entry ∈ selectedEntries unit.declarations := split ▸ List.mem_cons_self
    rw [(isIdentifier_of_mem_selectedEntries scanned listed met).1, module, moduleOf,
      if_neg (by simpa using apart)]
  rw [split]
  exact mapM_eq_error_iff.mpr ⟨[], entry, others, rfl, List.forall_mem_nil _,
    Rendering.entryPath_of_module located inside refused⟩

end Package

namespace Generator

variable {generator : Generator} {files : FileSystem} {here : Location} {plan : Plan}

/-- The paths of the entries of a file. -/
def unitPaths (generator : Generator) (unit : SourceUnit) : Except RenderError (List Path) :=
  (selectedEntries unit.declarations).mapM (Rendering.entryPath generator.naming.package)

/-- The entries are gone through file by file. -/
theorem render_of_scan {found : Package} {collection : Name}
    (scanned : Package.scan files here generator.source (some generator.output) = .ok found)
    (read : Name.parse generator.naming.collection = .ok collection) :
    generator.render files here =
      ((fun paths => (Rendering.document collection paths.flatten).render) <$>
        found.units.mapM generator.unitPaths).mapError .unrenderable := by
  have planned := plan_eq_ok_iff.mpr ⟨found, scanned, rfl⟩
  have rendered : renderRegistry generator.naming (Plan.ofPackage found).entries =
      (fun paths => (Rendering.document collection paths.flatten).render) <$>
        found.units.mapM generator.unitPaths := by
    simp only [renderRegistry, read, selected_of_plan planned]
    simp only [Plan.ofPackage, Package.selectedEntries_flatMap, mapM_flatMap, mapError_ok]
    change _ = _ <$> found.units.mapM fun unit => (selectedEntries unit.declarations).mapM
      (Rendering.entryPath generator.naming.package)
    cases found.units.mapM fun unit => (selectedEntries unit.declarations).mapM
      (Rendering.entryPath generator.naming.package) <;> rfl
  rw [← rendered, render, prepare, planned]
  change (Prod.snd <$> do
    let text ← (renderRegistry generator.naming (Plan.ofPackage found).entries).mapError
      GenerationError.unrenderable
    return (Plan.ofPackage found, text)) = _
  cases renderRegistry generator.naming (Plan.ofPackage found).entries <;> rfl

/-- With names of its own that can be read, a registry is rendered exactly if every file with a
record can be named, as the root of the package or as a module; the first file that cannot be named
is the error.  No name of a type and no number of entries stands in the way, and none keeps the
tokens of the registry from being read as a file with one function. -/
theorem render_ok_or_first_unnamed (collected : IsIdentifier generator.naming.collection)
    (located : IsNamespace generator.naming.package)
    (planned : generator.plan files here = .ok plan) :
    ∃ package,
      Package.scan files here generator.source (some generator.output) = .ok package ∧
      plan = Plan.ofPackage package ∧
      ((∃ text, generator.render files here = .ok text) ↔
        ∀ unit ∈ package.units, unit.HasRecord → unit.IsNamed) ∧
      (∀ error, generator.render files here = .error error →
        ∃ before unit after stem, package.units = before ++ unit :: after ∧
          (∀ earlier ∈ before, earlier.HasRecord → earlier.IsNamed) ∧
          unit.HasRecord ∧ unit.stem? = some stem ∧
          stem ∉ Package.rootStems ∧ ¬ NamesModule stem ∧
          error = .unrenderable (.moduleName stem)) ∧
      ∀ collection, Name.parse generator.naming.collection = .ok collection → ∀ paths,
        ∃ position content, TokenTree.AllLike (Rendering.listTokens paths) content ∧
          (Parser.file (Parser.grammarFor (Rendering.fileTokens collection paths))).runWithin
              Parser.wholeText (Rendering.fileTokens collection paths) =
            .ok (⟨[], [.function ⟨collection.spelling, position⟩ [.invocation content]]⟩, []) := by
  obtain ⟨package, scanned, rfl⟩ := plan_eq_ok_iff.mp planned
  obtain ⟨collection, read⟩ := collected
  have rendered := render_of_scan scanned read
  -- One file is refused exactly if it declares a record and is not named.
  have written : ∀ unit ∈ package.units, (unit.HasRecord → unit.IsNamed) →
      ∃ paths, generator.unitPaths unit = .ok paths :=
    fun _ listed => Package.exists_paths_of_isNamed located scanned listed
  have refused : ∀ unit ∈ package.units, unit.HasRecord → ¬ unit.IsNamed →
      ∃ stem, unit.stem? = some stem ∧ stem ∉ Package.rootStems ∧ ¬ NamesModule stem ∧
        generator.unitPaths unit = .error (.moduleName stem) :=
    fun _ listed => Package.mapM_entryPath_of_not_isNamed located scanned listed
  have named : ∀ unit ∈ package.units,
      (∃ paths, generator.unitPaths unit = .ok paths) → unit.HasRecord → unit.IsNamed := by
    rintro unit listed ⟨paths, success⟩ record
    by_contra unnamed
    obtain ⟨stem, -, -, -, failed⟩ := refused unit listed record unnamed
    rw [failed] at success
    contradiction
  refine ⟨package, scanned, rfl, ?_, ?_, fun _ read => Rendering.runWithin_fileTokens read⟩
  · have succeeds : (∃ text, generator.render files here = .ok text) ↔
        ∃ paths, package.units.mapM generator.unitPaths = .ok paths := by
      rw [rendered]
      cases package.units.mapM generator.unitPaths <;> simp
    rw [succeeds, exists_mapM_eq_ok_iff]
    exact forall₂_congr fun unit listed => ⟨named unit listed, written unit listed⟩
  · intro error failed
    rw [rendered, mapError_eq_error_iff] at failed
    obtain ⟨cause, failed, rfl⟩ := failed
    obtain ⟨before, unit, after, split, sound, failed⟩ :=
      mapM_eq_error_iff.mp (map_eq_error_iff.mp failed)
    have listed : unit ∈ package.units := by simp [split]
    have unsound : ¬ ∃ paths, generator.unitPaths unit = .ok paths := by simp [failed]
    have culprit : ¬ (unit.HasRecord → unit.IsNamed) := mt (written unit listed) unsound
    obtain ⟨record, unnamed⟩ := Classical.not_imp.mp culprit
    obtain ⟨stem, stemmed, apart, unusable, same⟩ := refused unit listed record unnamed
    obtain rfl := Except.error.inj (failed.symm.trans same)
    refine ⟨before, unit, after, stem, split, fun earlier met => ?_, record, stemmed, apart,
      unusable, rfl⟩
    exact named earlier (by simp [split, met]) (sound earlier met)

/-- The one file of the small package can be named. -/
theorem render_ok_or_first_unnamed_smallFiles :
    IsIdentifier smallGenerator.naming.collection ∧ IsNamespace smallGenerator.naming.package ∧
      ∃ plan package, smallGenerator.plan smallFiles [] = .ok plan ∧
        Package.scan smallFiles [] smallGenerator.source (some smallGenerator.output) =
          .ok package ∧
        plan = Plan.ofPackage package ∧ (∃ text, smallGenerator.render smallFiles [] = .ok text) ∧
        ∀ unit ∈ package.units, unit.HasRecord → unit.IsNamed := by
  have collected : IsIdentifier smallGenerator.naming.collection := exists_collection_default
  have located : IsNamespace smallGenerator.naming.package := by
    have succeeds : (Path.parse smallGenerator.naming.package).isOk = true := by decide +kernel
    exact .inr (exists_eq_ok_of_isOk succeeds)
  obtain ⟨plan, text, prepared⟩ := exists_prepare_smallGenerator
  have planned := (prepare_eq_ok_iff.mp prepared).1
  have rendered := render_eq_ok_iff.mpr ⟨plan, prepared⟩
  obtain ⟨package, scanned, same, accepted, -⟩ :=
    render_ok_or_first_unnamed collected located planned
  exact ⟨collected, located, plan, package, planned, scanned, same, ⟨text, rendered⟩,
    accepted.mp ⟨text, rendered⟩⟩

end Generator

end RecordRegistry
