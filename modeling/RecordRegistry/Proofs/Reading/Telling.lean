/-
# Telling entries apart

Names hold no colon, so that whoever sees names with colons between them can tell where each of them
ends.  The path of an entry therefore says what its module and its name are, and the text of a type
says what names it is made of.  Entries under one path have types of one text; the converse holds
for entries whose modules are not one module under two spellings.
-/

import RecordRegistry.Proofs.Reading.Registry

namespace RecordRegistry

open Rendering (namesOf)

namespace Lexer

theorem IsIdentifier.notMem_colon {text : List Char} (whole : IsIdentifier text) : ':' ∉ text := by
  obtain ⟨first, rest, rfl, starts, continues⟩ := whole
  have mark : isIdentifierContinue ':' = false := by decide
  intro met
  rcases List.mem_cons.mp met with rfl | later
  · simp [isIdentifierContinue_of_isIdentifierStart starts] at mark
  · simp [continues _ later] at mark

theorem IsName.notMem_colon {text : List Char} (named : IsName text) : ':' ∉ text := by
  rcases named.cases with whole | ⟨rest, rfl, whole, -⟩
  · exact whole.notMem_colon
  · simpa using whole.notMem_colon

end Lexer

/-- What follows a text without colons can be told from it if it begins with one. -/
theorem append_inj_of_colon {first second rest others : List Char} (free : ':' ∉ first)
    (alsoFree : ':' ∉ second) (starts : ∀ character ∈ rest.head?, character = ':')
    (alsoStarts : ∀ character ∈ others.head?, character = ':')
    (same : first ++ rest = second ++ others) : first = second ∧ rest = others := by
  have cut {text more : List Char} (free : ':' ∉ text)
      (starts : ∀ character ∈ more.head?, character = ':') :
      (text ++ more).takeWhile (· != ':') = text := by
    have none : more.takeWhile (· != ':') = [] := by
      cases more with
      | nil => rfl
      | cons next more => simp [starts next rfl]
    have all : ∀ character ∈ text, (character != ':') = true := by
      intro character met
      simpa using ne_of_mem_of_not_mem met free
    rw [List.takeWhile_append_of_pos all, none, List.append_nil]
  obtain rfl : first = second := by rw [← cut free starts, same, cut alsoFree alsoStarts]
  exact ⟨rfl, List.append_cancel_left same⟩

/-- Names behind colons. -/
def afterColons (names : List String) : List Char :=
  names.flatMap fun name => [':', ':'] ++ name.toList

theorem toList_intercalate_cons (name : String) (names : List String) :
    ("::".intercalate (name :: names)).toList = name.toList ++ afterColons names := by
  induction names generalizing name with
  | nil => simp [afterColons]
  | cons next names ih => simp [String.intercalate_cons_cons, ih, afterColons]

theorem head?_afterColons (names : List String) :
    ∀ character ∈ (afterColons names).head?, character = ':' := by
  cases names <;> simp [afterColons]

variable {names others : List String}

theorem afterColons_inj (free : ∀ name ∈ names, ':' ∉ name.toList)
    (alsoFree : ∀ name ∈ others, ':' ∉ name.toList) (same : afterColons names = afterColons others) :
    names = others := by
  induction names generalizing others with
  | nil => cases others with
    | nil => rfl
    | cons other others => simp [afterColons] at same
  | cons name names ih => cases others with
    | nil => simp [afterColons] at same
    | cons other others =>
        rw [List.forall_mem_cons] at free alsoFree
        have same : name.toList ++ afterColons names = other.toList ++ afterColons others := by
          simpa [afterColons] using same
        obtain ⟨first, onward⟩ := append_inj_of_colon free.1 alsoFree.1 (head?_afterColons names)
          (head?_afterColons others) same
        rw [String.toList_inj.mp first, ih free.2 alsoFree.2 onward]

/-- Names can be told from the text that joins them. -/
theorem intercalate_inj (some : names ≠ []) (alsoSome : others ≠ [])
    (free : ∀ name ∈ names, ':' ∉ name.toList) (alsoFree : ∀ name ∈ others, ':' ∉ name.toList)
    (same : "::".intercalate names = "::".intercalate others) : names = others := by
  obtain ⟨name, names, rfl⟩ := List.exists_cons_of_ne_nil some
  obtain ⟨other, others, rfl⟩ := List.exists_cons_of_ne_nil alsoSome
  rw [List.forall_mem_cons] at free alsoFree
  rw [← String.toList_inj, toList_intercalate_cons, toList_intercalate_cons] at same
  obtain ⟨first, onward⟩ := append_inj_of_colon free.1 alsoFree.1 (head?_afterColons names)
    (head?_afterColons others) same
  rw [String.toList_inj.mp first, afterColons_inj free.2 alsoFree.2 onward]

namespace Entry

variable {first second : Entry}

/-- The path of an entry, read backwards, begins with its name. -/
theorem reverse_relativePath (entry : Entry) :
    entry.relativePath.toList.reverse = entry.name.toList.reverse ++
      match entry.module with
      | some module => ':' :: ':' :: module.toList.reverse
      | none => [] := by
  unfold relativePath
  cases entry.module <;> simp

/-- The path of an entry says what its module and its name are. -/
theorem eq_of_relativePath (named : Lexer.IsName first.name.toList)
    (alsoNamed : Lexer.IsName second.name.toList)
    (same : first.relativePath = second.relativePath) :
    first.module = second.module ∧ first.name = second.name := by
  have backwards := congrArg (fun path => path.toList.reverse) same
  simp only [reverse_relativePath] at backwards
  obtain ⟨name, module⟩ := append_inj_of_colon (by simpa using named.notMem_colon)
    (by simpa using alsoNamed.notMem_colon) (by cases first.module <;> simp)
    (by cases second.module <;> simp) backwards
  refine ⟨?_, String.toList_inj.mp (List.reverse_inj.mp name)⟩
  cases own : first.module <;> cases other : second.module <;>
    simp_all [String.toList_inj]

end Entry

variable {text : String} {name other : Name} {package : Path} {first second : Entry}
  {type again : String}

theorem IsPackage.isName_of_mem {text : String} {path : Path} (packaged : IsPackage text path) :
    ∀ name ∈ namesOf path, Lexer.IsName name.toList := by
  intro name met
  obtain ⟨segment, inside, rfl⟩ := List.mem_map.mp met
  exact (packaged.isUsable segment inside).2.1

/-- A module goes by one name only. -/
theorem rightUnique_isModuleName : Relator.RightUnique IsModuleName := by
  rintro text name other (read | ⟨refused, read⟩) (found | ⟨alsoRefused, found⟩)
  · exact Except.ok.inj (read.symm.trans found)
  · exact absurd read (alsoRefused name)
  · exact absurd found (refused other)
  · exact Except.ok.inj (read.symm.trans found)

/-- The type of an entry has one text, for which nothing but the module and the name of the entry
matters. -/
theorem IsTypeText.unique (module : first.module = second.module) (named : first.name = second.name)
    (typed : IsTypeText package first type) (also : IsTypeText package second again) :
    type = again := by
  obtain ⟨modules, name, moduled, read, spelled⟩ := typed
  obtain ⟨others, other, alsoModuled, alsoRead, alsoSpelled⟩ := also
  rw [module] at moduled
  rw [named] at read
  have modular : modules = others := rightUnique_isModuleName.forall₂ moduled alsoModuled
  have same : name = other := Except.ok.inj (read.symm.trans alsoRead)
  rw [spelled, alsoSpelled, modular, same]

/-- Two texts that a registry has one name for, if they are modules. -/
inductive SameModule (text other : String) : Prop
  | intro (name again : Name) (named : IsModuleName text name) (alsoNamed : IsModuleName other again)
      (same : name.spelling = again.spelling)

/-- Entries with one name have one type if a registry has one name for their modules. -/
theorem IsTypeText.eq_of_sameModule (module : Option.Rel SameModule first.module second.module)
    (named : first.name = second.name) (typed : IsTypeText package first type)
    (also : IsTypeText package second again) : type = again := by
  obtain ⟨modules, name, moduled, read, spelled⟩ := typed
  obtain ⟨others, other, alsoModuled, alsoRead, alsoSpelled⟩ := also
  rw [named] at read
  have same : name = other := Except.ok.inj (read.symm.trans alsoRead)
  have modular : modules.map Name.spelling = others.map Name.spelling := by
    generalize first.module = one at module moduled
    generalize second.module = two at module alsoModuled
    cases module with
    | none =>
        cases moduled
        cases alsoModuled
        rfl
    | some alike =>
        obtain ⟨_, _, isName, alsoIsName, together⟩ := alike
        obtain _ | ⟨found, ⟨⟩⟩ := moduled
        obtain _ | ⟨alsoFound, ⟨⟩⟩ := alsoModuled
        rw [rightUnique_isModuleName found isName, rightUnique_isModuleName alsoFound alsoIsName,
          List.map_singleton, List.map_singleton, together]
  rw [spelled, alsoSpelled, same, List.map_append, List.map_append, modular]

theorem sameModule_of_forall₂ {one two : Option String} {modules others : List Name}
    (moduled : List.Forall₂ IsModuleName one.toList modules)
    (alsoModuled : List.Forall₂ IsModuleName two.toList others)
    (same : modules.map Name.spelling = others.map Name.spelling) :
    Option.Rel SameModule one two := by
  cases one with
  | none =>
      cases moduled
      cases two with
      | none => exact .none
      | some text =>
          cases alsoModuled
          contradiction
  | some text =>
      obtain _ | ⟨named, ⟨⟩⟩ := moduled
      cases two with
      | none =>
          cases alsoModuled
          contradiction
      | some other =>
          obtain _ | ⟨alsoNamed, ⟨⟩⟩ := alsoModuled
          exact .some ⟨_, _, named, alsoNamed, List.singleton_inj.mp same⟩

/-- Names that a text of a type is made of hold no colon. -/
theorem notMem_colon_of_names {modules : List Name} {texts : List String}
    (plain : ∀ name ∈ namesOf package, Lexer.IsName name.toList)
    (moduled : List.Forall₂ IsModuleName texts modules) (read : Name.parse text = .ok name) :
    ∀ spelling ∈ namesOf package ++ (modules ++ [name]).map Name.spelling,
      ':' ∉ spelling.toList := by
  have modular := forall_mem_of_forall₂ (fun _ _ named => IsModuleName.isUsable named) moduled
  intro spelling met
  rcases List.mem_append.mp met with here | later
  · exact (plain spelling here).notMem_colon
  · obtain ⟨one, inside, rfl⟩ := List.mem_map.mp later
    rcases List.mem_append.mp inside with module | own
    · exact (modular one module).1.notMem_colon
    · obtain rfl := List.mem_singleton.mp own
      exact (Name.isName_of_parse read).notMem_colon

/-- Entries whose types have one text are in one module and have one name, as a registry spells
them. -/
theorem IsTypeText.inj (plain : ∀ name ∈ namesOf package, Lexer.IsName name.toList)
    (typed : IsTypeText package first type) (also : IsTypeText package second type) :
    Option.Rel SameModule first.module second.module ∧
      ∃ name other, Name.parse first.name = .ok name ∧ Name.parse second.name = .ok other ∧
        name.spelling = other.spelling := by
  obtain ⟨modules, name, moduled, read, rfl⟩ := typed
  obtain ⟨others, other, alsoModuled, alsoRead, same⟩ := also
  have joined := (String.append_right_inj _).mp same
  have texts := intercalate_inj (by simp) (by simp) (notMem_colon_of_names plain moduled read)
    (notMem_colon_of_names plain alsoModuled alsoRead) joined
  have spelled : modules.map Name.spelling ++ [name.spelling] =
      others.map Name.spelling ++ [other.spelling] := by
    simpa only [List.map_append, List.map_cons, List.map_nil] using List.append_cancel_left texts
  obtain ⟨modular, named⟩ := List.append_inj' spelled rfl
  exact ⟨sameModule_of_forall₂ moduled alsoModuled modular, name, other, read, alsoRead,
    List.singleton_inj.mp named⟩

end RecordRegistry
