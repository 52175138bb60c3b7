/-
# What a package declares

The declarations of a package are those in the outlines of its files, in order, besides what stands
in the attributes of a file itself.  So a type that is declared in a group is no declaration of the
package, and it makes no difference to the registry what is in a group.
-/

import Mathlib
import RecordRegistry.Package
import RecordRegistry.Rendering
import RecordRegistry.Proofs.Generation.Registering
import RecordRegistry.Proofs.Outline.Declaring

namespace RecordRegistry

namespace Outline

/-- A token without its place. Of a group nothing is left but the kind of its delimiters. -/
inductive Shell
  | name (spelling : String)
  | mark (character : Char) (joint : Bool)
  | literal (spelling : String)
  | group (delimiter : Delimiter)
  deriving DecidableEq

/-- What is left of a tree without its place and its content. -/
def shell : TokenTree → Shell
  | .name spelling _ => .name spelling
  | .mark character joint _ => .mark character joint
  | .literal spelling _ => .literal spelling
  | .group delimiter _ _ _ => .group delimiter

/-- A tree of which nothing more is left. -/
def Shell.tree : Shell → TokenTree
  | .name spelling => .name spelling Position.start
  | .mark character joint => .mark character joint Position.start
  | .literal spelling => .literal spelling Position.start
  | .group delimiter => .group delimiter Position.start Position.start []

variable {trees others rest : List TokenTree}

theorem structShape_map_shell : structShape ((rest.map shell).map Shell.tree) = structShape rest := by
  rcases rest with _ | ⟨_ | ⟨character⟩ | _ | ⟨_ | _⟩, rest⟩
  case cons.mark =>
    by_cases opens : character = '<'
    · subst opens
      rcases rest with _ | ⟨_ | ⟨character⟩ | _ | _, rest⟩
      case cons.mark =>
        by_cases closes : character = '>'
        · subst closes
          rcases rest with _ | ⟨_ | _ | _ | ⟨_ | _⟩, _⟩ <;> rfl
        · simp [structShape, shell, Shell.tree, closes]
      all_goals rfl
    · simp [structShape, shell, Shell.tree, opens]
  all_goals rfl

theorem isAlias_map_shell {constrained : Bool} {depth : Nat} :
    isAlias constrained depth ((rest.map shell).map Shell.tree) = isAlias constrained depth rest := by
  fun_induction isAlias constrained depth rest with
  | case10 constrained depth tree rest notLifetime notArrow _ _ _ _ _ _ ih =>
      cases tree with
      | mark character joint position =>
          by_cases quote : character = '\x27'
          · subst quote
            cases joint <;> rcases rest with _ | ⟨_ | _ | _ | _, _⟩
            case true.cons.name => exact (notLifetime _ _ _ _ rfl rfl).elim
            all_goals exact ih
          by_cases dash : character = '-'
          · subst dash
            cases joint <;> rcases rest with _ | ⟨_ | ⟨closing⟩ | _ | _, _⟩
            case true.cons.mark =>
              by_cases closes : closing = '>'
              · subst closes
                exact (notArrow _ _ _ _ rfl rfl).elim
              · simp_all [isAlias, shell, Shell.tree]
            all_goals exact ih
          · simp_all [isAlias, shell, Shell.tree]
      | name word position => simp_all
      | literal spelling position => exact ih
      | group delimiter opening closing content => exact ih
  | _ => simp_all [isAlias, shell, Shell.tree]

/-- A type without the place of its name. -/
def unplaced (type : Name × Shape) : String × Shape := (type.1.spelling, type.2)

theorem shape?_map_shell {word : String} :
    shape? word ((rest.map shell).map Shell.tree) = shape? word rest := by
  simp only [shape?, structShape_map_shell, isAlias_map_shell]

theorem declared?_map_shell {tree : TokenTree} :
    (declared? (shell tree).tree ((rest.map shell).map Shell.tree)).map unplaced =
      (declared? tree rest).map unplaced := by
  cases tree with
  | name word position =>
      rcases rest with _ | ⟨⟨spelling, place⟩ | _ | _ | _, rest⟩
      case cons.name =>
        simp only [shell, Shell.tree, List.map_cons, declared?, shape?_map_shell]
        split
        · rfl
        · cases shape? word rest <;> rfl
      all_goals rfl
  | _ => rfl

/-- What is in groups, and where the tokens stand, makes no difference to an outline. -/
theorem outlineFrom_map_shell (quoted : Bool) :
    (outlineFrom quoted ((trees.map shell).map Shell.tree)).map unplaced =
      (outlineFrom quoted trees).map unplaced := by
  induction trees generalizing quoted with
  | nil => rfl
  | cons tree rest ih =>
      have opens : opensLifetime (shell tree).tree = opensLifetime tree := by
        cases tree with
        | mark character joint position =>
            by_cases character = '\x27' <;> simp_all [shell, Shell.tree, opensLifetime]
        | _ => rfl
      simp only [List.map_cons, outlineFrom, List.map_append, ih, opens, List.append_cancel_right_eq]
      cases quoted with
      | true => rfl
      | false =>
          simp only [Bool.false_eq_true, if_false, ← Option.toList_map, declared?_map_shell]

end Outline

/-- The tokens of the text of a file, if it can be cut into tokens. -/
def SourceFile.tokens (text : String) : List TokenTree :=
  ((Lexer.tokenTrees (withoutInterpreter text.toList)).toOption).getD []

theorem SourceFile.filterMap_items_of_parse {text : String} {source : SourceFile}
    (parsed : SourceFile.parse text = .ok source) :
    source.items.filterMap Item.declared? = outline (SourceFile.tokens text) := by
  obtain ⟨trees, cut, listed⟩ := SourceFile.outline_of_parse parsed
  rw [listed, SourceFile.tokens, cut]
  rfl

namespace SourceUnit

/-- The declaration of a type in a source file. -/
def declaration (unit : SourceUnit) (type : Name × Shape) : Declaration :=
  ⟨type.1.spelling, unit.module, type.2, ⟨unit.fileName, type.1.position⟩⟩

theorem declarations_eq (unit : SourceUnit) :
    unit.declarations = (unit.source.inAttributes.filterMap Item.declared? ++
      unit.source.items.filterMap Item.declared?).map unit.declaration := by
  rw [declarations, SourceFile.declarations, ← List.filterMap_append, List.map_filterMap]
  rfl

end SourceUnit

/-- What an entry is made from: a declaration without its place. -/
def Declaration.unplaced (declaration : Declaration) : String × Option String × Shape :=
  (declaration.name, declaration.module, declaration.shape)

theorem entries_eq (declarations : List Declaration) :
    entries declarations = (declarations.map Declaration.unplaced).map
      fun (name, module, shape) => ⟨name, module, shape = .record⟩ := by
  rw [List.map_map]
  rfl

/-- Without types in the attributes of a file, the shells of its tokens tell what it declares. -/
theorem SourceUnit.unplaced_declarations {unit : SourceUnit} {text : String}
    (parsed : SourceFile.parse text = .ok unit.source) (bare : unit.source.IsBare) :
    unit.declarations.map Declaration.unplaced =
      (outline (((SourceFile.tokens text).map Outline.shell).map Outline.Shell.tree)).map
        fun (name, shape) => (name.spelling, unit.module, shape) := by
  have same := congrArg (List.map fun (spelling, shape) => (spelling, unit.module, shape))
    (@Outline.outlineFrom_map_shell (SourceFile.tokens text) false)
  rw [declarations_eq, List.filterMap_eq_nil_iff.mpr bare, List.nil_append,
    SourceFile.filterMap_items_of_parse parsed]
  simp only [List.map_map] at same ⊢
  exact same.symm

namespace Package

/-- The source files of a package have been read from texts. -/
def IsReadFrom (package : Package) (texts : List String) : Prop :=
  List.Forall₂ (fun unit text => SourceFile.parse text = .ok unit.source) package.units texts

variable {package : Package} {texts : List String}

theorem declarations_of_isReadFrom (read : package.IsReadFrom texts) :
    package.declarations = (package.units.zip texts).flatMap fun (unit, text) =>
      (unit.source.inAttributes.filterMap Item.declared? ++ outline (SourceFile.tokens text)).map
        unit.declaration := by
  obtain ⟨directory, units⟩ := package
  unfold IsReadFrom at read
  simp only [declarations] at read ⊢
  induction read with
  | nil => rfl
  | cons parsed onward ih =>
      rw [List.flatMap_cons, List.zip_cons_cons, List.flatMap_cons, ih,
        SourceUnit.declarations_eq, SourceFile.filterMap_items_of_parse parsed]

theorem unplaced_declarations (read : package.IsReadFrom texts)
    (bare : ∀ unit ∈ package.units, unit.source.IsBare) :
    package.declarations.map Declaration.unplaced =
      ((package.units.map SourceUnit.module).zip
        (texts.map fun text => (SourceFile.tokens text).map Outline.shell)).flatMap
          fun (module, shells) => (outline (shells.map Outline.Shell.tree)).map
            fun (name, shape) => (name.spelling, module, shape) := by
  obtain ⟨directory, units⟩ := package
  unfold IsReadFrom at read
  simp only [declarations] at read bare ⊢
  induction read with
  | nil => rfl
  | cons parsed onward ih =>
      rw [List.forall_mem_cons] at bare
      rw [List.flatMap_cons, List.map_append, SourceUnit.unplaced_declarations parsed bare.1,
        ih bare.2]
      rfl

/-- The declarations of a package that has been read are those in the outlines of its texts, one
text after the other.  Of each text, what the attributes of the file itself declare comes first;
where they declare nothing, nothing but the outlines matters to the registry. -/
theorem declarations_eq_outlines (read : package.IsReadFrom texts) :
    List.Forall₂ (fun unit text =>
        unit.source.items.filterMap Item.declared? = outline (SourceFile.tokens text))
      package.units texts ∧
    (package.declarations = (package.units.zip texts).flatMap fun (unit, text) =>
      (unit.source.inAttributes.filterMap Item.declared? ++ outline (SourceFile.tokens text)).map
        unit.declaration) ∧
    ∀ (other : Package) (others : List String), other.IsReadFrom others →
      (∀ unit ∈ package.units, unit.source.IsBare) → (∀ unit ∈ other.units, unit.source.IsBare) →
      other.units.map SourceUnit.module = package.units.map SourceUnit.module →
      (others.map fun text => (SourceFile.tokens text).map Outline.shell) =
        (texts.map fun text => (SourceFile.tokens text).map Outline.shell) →
      other.declarations.map Declaration.unplaced = package.declarations.map Declaration.unplaced ∧
        ∀ naming, renderRegistry naming (entries other.declarations) =
          renderRegistry naming (entries package.declarations) := by
  refine ⟨read.imp fun unit text parsed => SourceFile.filterMap_items_of_parse parsed,
    declarations_of_isReadFrom read, fun other others readOther bare bareOther modules shells => ?_⟩
  have same : other.declarations.map Declaration.unplaced =
      package.declarations.map Declaration.unplaced := by
    rw [unplaced_declarations read bare, unplaced_declarations readOther bareOther, modules, shells]
  exact ⟨same, fun naming => by rw [entries_eq, same, ← entries_eq]⟩

/-- A file that declares a type in a module of its own. -/
def nestedText : String := "mod inner \x7b\n    struct Hidden;\n\x7d\nstruct Book;\n"

/-- The same file without that type. -/
def emptiedText : String := "mod inner \x7b\x7d\nstruct Book;\n"

/-- A file with a type in the value of an attribute of the file itself. -/
def attributeText : String := "#![x = \x7b struct Hidden; 1 \x7d]\nstruct Book;\n"

/-- What a text is read as, if it is read. -/
def sourceOf (text : String) : SourceFile := (SourceFile.parse text).toOption.getD ⟨[], []⟩

/-- The package of one file with the given text. -/
def singleton (text : String) : Package :=
  ⟨⟨Utf8.encode "m"⟩, [⟨⟨Utf8.encode "m/a.rs"⟩, some "a", sourceOf text⟩]⟩

theorem isReadFrom_singleton {text : String} (reads : (SourceFile.parse text).isOk = true) :
    (singleton text).IsReadFrom [text] := by
  obtain ⟨source, parsed⟩ := exists_eq_ok_of_isOk reads
  refine .cons ?_ .nil
  simp [sourceOf, parsed, Except.toOption]

/-- What is in a module makes no difference. -/
theorem declarations_eq_outlines_nestedText :
    (singleton nestedText).declarations.map Declaration.unplaced = [("Book", some "a", .record)] ∧
    (singleton emptiedText).declarations.map Declaration.unplaced =
      (singleton nestedText).declarations.map Declaration.unplaced ∧
    ∀ naming, renderRegistry naming (entries (singleton emptiedText).declarations) =
      renderRegistry naming (entries (singleton nestedText).declarations) := by
  have nested : (singleton nestedText).IsReadFrom [nestedText] :=
    isReadFrom_singleton (by decide +kernel)
  have emptied : (singleton emptiedText).IsReadFrom [emptiedText] :=
    isReadFrom_singleton (by decide +kernel)
  have bare : (∀ item ∈ (sourceOf nestedText).inAttributes, item.declared? = none) ∧
      ∀ item ∈ (sourceOf emptiedText).inAttributes, item.declared? = none := by
    decide +kernel
  have shells : ([emptiedText].map fun text => (SourceFile.tokens text).map Outline.shell) =
      [nestedText].map fun text => (SourceFile.tokens text).map Outline.shell := by
    decide +kernel
  obtain ⟨-, -, same⟩ := declarations_eq_outlines nested
  exact ⟨by decide +kernel, same (singleton emptiedText) [emptiedText] emptied
    (List.forall_mem_singleton.mpr bare.1) (List.forall_mem_singleton.mpr bare.2)
    (by decide +kernel) shells⟩

/-- A type in an attribute of the file itself is declared by the package although no item of the
file declares it. -/
theorem declarations_attributeText :
    (singleton attributeText).IsReadFrom [attributeText] ∧
      (outline (SourceFile.tokens attributeText)).map Outline.unplaced = [("Book", .record)] ∧
      (singleton attributeText).declarations.map Declaration.unplaced =
        [("Hidden", some "a", .record), ("Book", some "a", .record)] := by
  refine ⟨isReadFrom_singleton ?_, ?_, ?_⟩ <;> decide +kernel

end Package

end RecordRegistry
