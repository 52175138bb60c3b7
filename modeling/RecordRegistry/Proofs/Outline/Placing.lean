/-
# Where declarations stand

The position of a declaration is that of its name in the lines of the text.  Positions are counted
in the text that is cut into tokens, without a byte-order mark and a line that names an interpreter;
leaving that line out moves nothing, because its end is kept.  The declarations of a file come in the
order of their positions, but for those in the attributes of the file itself, of which it can only be
said that they come first.
-/

import Mathlib
import RecordRegistry.Proofs.Generation.Scanning
import RecordRegistry.Proofs.Outline.Package
import RecordRegistry.Proofs.Provenance.Name
import RecordRegistry.Proofs.Token.Ordering

namespace RecordRegistry

open TokenTree

/-- A text without the byte-order mark at its front, if it has one. -/
def withoutMark : List Char → List Char
  | '\ufeff' :: rest => rest
  | text => text

theorem withoutInterpreter_cases (text : List Char) :
    withoutInterpreter text = withoutMark text ∨
      withoutInterpreter text = (withoutMark text).dropWhile (· != '\n') := by
  unfold withoutInterpreter
  extract_lets bare
  have same : bare = withoutMark text := by grind [withoutMark]
  clear_value bare
  subst same
  split
  · next rest named =>
      split
      · exact .inl rfl
      · refine .inr ?_
        rw [named]
        rfl
  · exact .inl rfl

/-- What stands in the text that is cut stands at the same place in the whole one. -/
theorem Position.Marks.of_withoutInterpreter {position : Position} {text spelling : List Char}
    (marks : position.Marks (withoutInterpreter text) spelling) :
    position.Marks (withoutMark text) spelling := by
  rcases withoutInterpreter_cases text with same | dropped
  · rwa [← same]
  · rw [dropped] at marks
    exact marks.of_dropWhile

/-- The trees of a text, of which it is said that the name of each type begins at its place. -/
def placedGround (text : List Char) (trees : List TokenTree) : Ground where
  name _ := True
  type name := Lexer.IsName name.spelling.toList ∧ name.position.Begins text name.spelling.toList
  place _ := True
  noted := False
  whole := trees
  scope := Parser.wholeText

theorem fits_placedGround {text : List Char} {trees : List TokenTree} :
    (placedGround text trees).Fits text where
  place _ _ := trivial
  name _ _ _ := trivial
  type _ named begins _ := ⟨named, begins⟩
  documentation _ _ := trivial

/-- The types that a file declares are named in its text, where the positions of the names say. -/
theorem SourceFile.marks_of_parse {text : String} {source : SourceFile}
    (read : SourceFile.parse text = .ok source) {item : Item}
    (met : item ∈ source.inAttributes ++ source.items) {name : Name} {shape : Shape}
    (declared : item.declared? = some (name, shape)) :
    name.position.Marks (withoutMark text.toList) name.spelling.toList := by
  obtain ⟨trees, found, cut, yields⟩ := SourceFile.parse_eq_ok_iff.mp read
  have keeps : Parser.Keeps (placedGround (withoutInterpreter text.toList) trees)
      (Parser.file (Parser.grammarFor trees)) _ := Parser.keeps_file
  obtain ⟨named, begins⟩ :=
    keeps.ok_of_tokenTrees fits_placedGround cut rfl id yields item met name shape declared
  exact (begins.marks named.1 named.notMem_break).of_withoutInterpreter

theorem Outline.rest_of_declared? {tree : TokenTree} {rest : List TokenTree} {name : Name}
    {shape : Shape} (declares : declared? tree rest = some (name, shape)) :
    ∃ onward, rest = .name name.spelling name.position :: onward := by
  unfold declared? at declares
  split at declares
  · next word place spelling position onward =>
      split at declares
      · contradiction
      · obtain ⟨told, -, same⟩ := Option.map_eq_some_iff.mp declares
        obtain rfl := congrArg Prod.fst same
        exact ⟨onward, rfl⟩
  · contradiction

theorem namesAll_tail_sublist (trees : List TokenTree) :
    (namesAll trees.tail).Sublist (namesAll trees) := by
  cases trees with
  | nil => exact .slnil
  | cons tree rest => exact List.sublist_append_right tree.names (namesAll rest)

/-- A word that declares a type is followed by the name of the type. So the types of an outline are
listed in the order of their names, and none of them twice. -/
theorem Outline.sublist_tail_namesAll (quoted : Bool) (trees : List TokenTree) :
    ((outlineFrom quoted trees).map Prod.fst).Sublist (namesAll trees.tail) := by
  induction trees generalizing quoted with
  | nil => exact .slnil
  | cons tree rest ih =>
      have later := ih (opensLifetime tree)
      rw [List.tail_cons, outlineFrom, List.map_append]
      cases head : if quoted then none else declared? tree rest with
      | none => exact later.trans (namesAll_tail_sublist rest)
      | some type =>
          obtain ⟨name, shape⟩ := type
          cases quoted with
          | true => contradiction
          | false =>
              obtain ⟨onward, rfl⟩ := rest_of_declared? head
              exact later.cons_cons name

theorem Outline.sublist_namesAll (trees : List TokenTree) :
    ((outline trees).map Prod.fst).Sublist (namesAll trees) :=
  (sublist_tail_namesAll false trees).trans (namesAll_tail_sublist trees)

/-- The names of the types that items declare. -/
def declaredNames (items : List Item) : List Name :=
  (items.filterMap Item.declared?).map Prod.fst

theorem mem_declaredNames {items : List Item} {name : Name} :
    name ∈ declaredNames items ↔ ∃ item ∈ items, ∃ shape, item.declared? = some (name, shape) := by
  simp only [declaredNames, List.mem_map, List.mem_filterMap, Prod.exists]
  grind

/-- A stream is read on, and the types that are met on the way are named in the trees that are
passed. -/
def Stream.Passes (first last : Stream) : Prop :=
  ∃ passed, first.rest = passed ++ last.rest ∧
    declaredNames last.found ⊆ declaredNames first.found ++ namesAll passed

namespace Stream.Passes

variable {first second third : Stream}

theorem refl (stream : Stream) : stream.Passes stream := ⟨[], rfl, by simp⟩

theorem trans (one : first.Passes second) (other : second.Passes third) : first.Passes third := by
  obtain ⟨before, start, found⟩ := one
  obtain ⟨after, onward, more⟩ := other
  refine ⟨before ++ after, by rw [start, onward, List.append_assoc], fun name met => ?_⟩
  rw [namesAll_append, ← List.append_assoc, List.mem_append]
  exact (List.mem_append.mp (more met)).imp_left fun old => found old

theorem drop (stream : Stream) (count : Nat) :
    stream.Passes { stream with rest := stream.rest.drop count } :=
  ⟨stream.rest.take count, (List.take_append_drop _ _).symm, by simp⟩

end Stream.Passes

/-- The content of a group, of which it is said that types have one of the given names. -/
def namedGround (names : List Name) (closing : Position) (delimiter : Delimiter)
    (content : List TokenTree) : Ground where
  name _ := True
  type name := name ∈ names
  place _ := True
  noted := False
  whole := content
  scope := ⟨closing, some delimiter⟩

section

variable {names : List Name} {closing : Position} {delimiter : Delimiter} {content : List TokenTree}

theorem items_namedGround {items : List Item} :
    (∀ item ∈ items, (namedGround names closing delimiter content).Item item) ↔
      declaredNames items ⊆ names := by
  constructor
  · intro held name met
    obtain ⟨item, inside, shape, declares⟩ := mem_declaredNames.mp met
    exact held item inside name shape declares
  · intro among item inside name shape declares
    exact among (mem_declaredNames.mpr ⟨item, inside, shape, declares⟩)

theorem typed_namedGround {trees : List TokenTree} (among : namesAll trees ⊆ names) :
    (namedGround names closing delimiter content).Typed trees := by
  intro spelling position met _
  refine among ?_
  obtain ⟨before, after, same⟩ := List.append_of_mem (List.mem_of_mem_tail met)
  simp [same, TokenTree.names]

mutual

theorem tree_namedGround (tree : TokenTree) (among : tree.names ⊆ names) :
    (namedGround names closing delimiter content).Tree tree :=
  match tree with
  | .name _ _ => ⟨trivial, trivial⟩
  | .mark _ _ _ | .literal _ _ => trivial
  | .group _ _ _ inside =>
    ⟨trivial, trivial, typed_namedGround among, trees_namedGround inside among⟩

theorem trees_namedGround (trees : List TokenTree) (among : namesAll trees ⊆ names) :
    (namedGround names closing delimiter content).Trees trees :=
  match trees with
  | [] => trivial
  | tree :: rest =>
    have both := List.append_subset.mp among
    ⟨tree_namedGround tree both.1, trees_namedGround rest both.2⟩

end

end

namespace Parser

variable {α : Type} {stream other : Stream} {grammar : Grammar}

theorem passes_of_run_require {sought : Sought} {taken : Unit}
    (run : (require sought).run stream = .ok (taken, other)) : stream.Passes other := by
  obtain ⟨atEnd, fault, same⟩ := run_require sought stream
  rw [same] at run
  split at run
  · next count there =>
      cases run
      exact .drop stream count
  · contradiction

/-- The content of a group is a scope of its own, so the types that are met there are named there. -/
theorem passes_of_run_within {delimiter : Delimiter} {parser : Parser α} {value : α}
    (stays : ∀ ground : Ground, Stays ground parser)
    (run : (within delimiter parser).run stream = .ok (value, other)) : stream.Passes other := by
  obtain ⟨opening, closing, content, inner, group, inside, -, found⟩ := of_run_within run
  let names := declaredNames stream.found ++ namesAll content
  have among : namesAll content ⊆ names := List.subset_append_right _ _
  have step := keeps_iff.mp (stays (namedGround names closing delimiter content))
    ⟨content, ⟨closing, some delimiter⟩, stream.stray, stream.found⟩
    { trees := trees_namedGround content among
      typed := typed_namedGround among
      closing := trivial
      rest := List.suffix_rfl
      scope := rfl
      stray := fun _ _ => trivial
      noted := False.elim
      found := items_namedGround.mpr (List.subset_append_left _ _) }
  rw [inside] at step
  refine ⟨[.group delimiter opening closing content], group, ?_⟩
  simpa [found, names] using items_namedGround.mp step.1.found

/-- What every step of a repetition does to a stream, the repetition does. -/
theorem related_of_run_many {related : Stream → Stream → Prop}
    (refl : ∀ stream, related stream stream)
    (trans : ∀ {first second third}, related first second → related second third →
      related first third)
    {step : Parser (Option α)}
    (steps : ∀ {first last value}, step.run first = .ok (value, last) → related first last)
    {values : List α} (run : (many step).run stream = .ok (values, other)) :
    related stream other := by
  have repeated (count : Nat) {stream : Stream} {values : List α}
      (run : (repeatUpTo step count).run stream = .ok (values, other)) : related stream other := by
    induction count generalizing stream values with
    | zero =>
        cases run
        exact refl _
    | succ count ih =>
        rw [repeatUpTo, run_bind_eq_ok_iff] at run
        obtain ⟨value, between, stepped, run⟩ := run
        refine trans (steps stepped) ?_
        cases value with
        | none =>
            cases run
            exact refl _
        | some value =>
            rw [run_bind_eq_ok_iff] at run
            obtain ⟨others, last, onward, run⟩ := run
            cases run
            exact ih onward
  rw [many, run_bind_eq_ok_iff] at run
  obtain ⟨before, same, got, run⟩ := run
  cases got
  exact repeated _ run

/-- The types that are met in the attributes of what encloses them are named there. -/
theorem passes_of_run_innerAttributes [grammar.Keeps] {taken : Unit}
    (run : (innerAttributes grammar).run stream = .ok (taken, other)) : stream.Passes other := by
  rw [innerAttributes, run_bind_eq_ok_iff] at run
  obtain ⟨attributes, last, repeated, run⟩ := run
  cases run
  refine related_of_run_many Stream.Passes.refl Stream.Passes.trans (fun run => ?_) repeated
  rw [run_bind_eq_ok_iff] at run
  obtain ⟨another, between, tested, run⟩ := run
  cases tested
  split at run
  · rw [← bind_pure_comp, run_bind_eq_ok_iff] at run
    obtain ⟨value, last, attributed, run⟩ := run
    cases run
    rw [run_bind_eq_ok_iff] at attributed
    obtain ⟨_, afterPound, pound, attributed⟩ := attributed
    rw [run_bind_eq_ok_iff] at attributed
    obtain ⟨_, afterBang, bang, attributed⟩ := attributed
    exact (passes_of_run_require pound).trans ((passes_of_run_require bang).trans
      (passes_of_run_within (fun _ => stays_attributeContent) attributed))
  · cases run
    exact .refl _

end Parser

/-- The types that the items of a file declare are named in the order of the text, and after those
that the attributes of the file declare. -/
theorem SourceFile.precedes_of_parse {text : String} {source : SourceFile}
    (parsed : SourceFile.parse text = .ok source) :
    (declaredNames source.items).Pairwise Name.Precedes ∧
      ∀ first ∈ declaredNames source.inAttributes, ∀ second ∈ declaredNames source.items,
        first.Precedes second := by
  obtain ⟨trees, found, cut, read⟩ := SourceFile.parse_eq_ok_iff.mp parsed
  obtain ⟨last, run, -, ended, -⟩ := Parser.runWithin_eq_ok_iff.mp read
  obtain ⟨after, attributes, same, listed⟩ := Parser.of_run_file run
  obtain ⟨passed, split, among⟩ := Parser.passes_of_run_innerAttributes attributes
  have listing : (declaredNames source.items).Sublist (namesAll after.rest) := by
    have all : outline after.rest = source.items.filterMap Item.declared? := by
      simpa [ended, outline, Outline.outlineFrom] using Parser.outline_of_run_untilEnd listed
    rw [declaredNames, ← all]
    exact Outline.sublist_namesAll after.rest
  have ordered : (namesAll trees).Pairwise Name.Precedes := Lexer.pairwise_names_of_tokenTrees cut
  rw [show trees = passed ++ after.rest from split, namesAll_append] at ordered
  obtain ⟨-, later, apart⟩ := List.pairwise_append.mp ordered
  refine ⟨later.sublist listing, fun first met second told => apart _ ?_ _ (listing.subset told)⟩
  rw [same] at met
  simpa [declaredNames] using among met

/-- One declaration stands before another one. -/
def Declaration.Precedes (first second : Declaration) : Prop :=
  first.position.position.Precedes second.position.position

namespace SourceUnit

/-- The declarations in the attributes of the file itself. -/
def inAttributes (unit : SourceUnit) : List Declaration :=
  (unit.source.inAttributes.filterMap Item.declared?).map unit.declaration

/-- The declarations of the items of the file. -/
def inItems (unit : SourceUnit) : List Declaration :=
  (unit.source.items.filterMap Item.declared?).map unit.declaration

theorem exists_text_of_readUnit {files : FileSystem} {here : Location} {path : FilePath}
    {unit : SourceUnit} (read : Package.readUnit files here path = .ok unit) :
    ∃ text, files.readText here path = .ok text ∧ SourceFile.parse text = .ok unit.source := by
  obtain ⟨stem, location, mode, bytes, text, source, -, found, decoded, parsed, rfl⟩ :=
    Package.readUnit_eq_ok_iff.mp read
  refine ⟨text, ?_, parsed⟩
  have content : files.read here path = .ok bytes := by
    rw [FileSystem.read, found]
    rfl
  simp only [FileSystem.readText, content, decoded, ok_bind]
  rfl

/-- The position of a declaration is where its name stands in the lines of the file that it is read
from.  The declarations of items are in the order of their positions, and after those in the
attributes of the file; so all are in order if the latter are. -/
theorem placed_of_readUnit {files : FileSystem} {here : Location} {path : FilePath}
    {unit : SourceUnit} (read : Package.readUnit files here path = .ok unit) :
    ∃ text, files.readText here path = .ok text ∧
      (∀ declaration ∈ unit.declarations, declaration.position.position.Marks
        (withoutMark text.toList) declaration.name.toList) ∧
      unit.declarations = unit.inAttributes ++ unit.inItems ∧
      unit.inItems.Pairwise Declaration.Precedes ∧
      (∀ first ∈ unit.inAttributes, ∀ second ∈ unit.inItems, first.Precedes second) ∧
      (unit.declarations.Pairwise Declaration.Precedes ↔
        unit.inAttributes.Pairwise Declaration.Precedes) := by
  obtain ⟨text, there, parsed⟩ := exists_text_of_readUnit read
  obtain ⟨ordered, apart⟩ := SourceFile.precedes_of_parse parsed
  have split : unit.declarations = unit.inAttributes ++ unit.inItems := by
    rw [declarations_eq, List.map_append]
    rfl
  have inItems : unit.inItems.Pairwise Declaration.Precedes := by
    have types : (unit.source.items.filterMap Item.declared?).Pairwise
        fun first second => first.1.Precedes second.1 := List.pairwise_map.mp ordered
    exact List.pairwise_map.mpr types
  have before : ∀ first ∈ unit.inAttributes, ∀ second ∈ unit.inItems, first.Precedes second := by
    intro first inAttributes second inItems
    obtain ⟨one, early, rfl⟩ := List.mem_map.mp inAttributes
    obtain ⟨other, late, rfl⟩ := List.mem_map.mp inItems
    exact apart _ (List.mem_map_of_mem early) _ (List.mem_map_of_mem late)
  refine ⟨text, there, fun declaration met => ?_, split, inItems, before, ?_⟩
  · rw [declarations_eq, ← List.filterMap_append] at met
    obtain ⟨type, listed, rfl⟩ := List.mem_map.mp met
    obtain ⟨item, inside, declares⟩ := List.mem_filterMap.mp listed
    exact SourceFile.marks_of_parse parsed inside declares
  · rw [split, List.pairwise_append]
    exact ⟨fun both => both.1, fun inAttributes => ⟨inAttributes, inItems, before⟩⟩

/-- A file that begins with a byte-order mark and a line for the system, in which a comment goes on in
the next line and a name is raw. -/
def markedText : String :=
  "\ufeff#!/bin/run\r\n/* one\n two */ pub struct r#Größe;\r\n#[x] trait Later \x7b\x7d\n"

/-- A file with a type in the head of a loop and another one in the attributes of its body. -/
def loopText : String := "#![x = while \x7bstruct A; true\x7d \x7b #![y = \x7bstruct B; 1\x7d] \x7d]"

/-- A single file with the given text. -/
def textFiles (text : String) : FileSystem :=
  FileSystem.empty.put [Utf8.encode "a.rs"] (.file plainMode (Utf8.encode text))

/-- The declarations in that file, if it is read. -/
def declarationsIn (text : String) : Option (List (String × Position)) :=
  (Package.readUnit (textFiles text) [] (.ofString "a.rs")).toOption.map fun unit =>
    unit.declarations.map fun declaration => (declaration.name, declaration.position.position)

theorem exists_readUnit {text : String} {found : List (String × Position)}
    (declares : declarationsIn text = some found) :
    ∃ unit, Package.readUnit (textFiles text) [] (.ofString "a.rs") = .ok unit ∧
      unit.declarations.map (fun declaration => (declaration.name, declaration.position.position)) =
        found := by
  obtain ⟨unit, read, same⟩ := Option.map_eq_some_iff.mp declares
  exact ⟨unit, toOption_eq_some_iff.mp read, same⟩

/-- The line for the system, the comment and the ends of the lines all count. -/
theorem placed_of_readUnit_markedText :
    ∃ unit, Package.readUnit (textFiles markedText) [] (.ofString "a.rs") = .ok unit ∧
      unit.declarations.map (fun declaration => (declaration.name, declaration.position.position)) =
        [("r#Größe", ⟨3, 20⟩), ("Later", ⟨4, 12⟩)] ∧
      ∃ text, (textFiles markedText).readText [] (.ofString "a.rs") = .ok text ∧
        ∀ declaration ∈ unit.declarations, declaration.position.position.Marks
          (withoutMark text.toList) declaration.name.toList := by
  have declares : declarationsIn markedText =
      some [("r#Größe", ⟨3, 20⟩), ("Later", ⟨4, 12⟩)] := by
    decide +kernel
  obtain ⟨unit, read, places⟩ := exists_readUnit declares
  obtain ⟨text, there, marks, -⟩ := placed_of_readUnit read
  exact ⟨unit, read, places, text, there, marks⟩

/-- The attributes of a body are looked at before the head, so what stands in the attributes of a
file need not be in order. -/
theorem not_pairwise_loopText :
    ∃ unit, Package.readUnit (textFiles loopText) [] (.ofString "a.rs") = .ok unit ∧
      unit.declarations.map (fun declaration => (declaration.name, declaration.position.position)) =
        [("B", ⟨1, 48⟩), ("A", ⟨1, 22⟩)] ∧
      ¬ unit.declarations.Pairwise Declaration.Precedes := by
  have declares : declarationsIn loopText = some [("B", ⟨1, 48⟩), ("A", ⟨1, 22⟩)] := by
    decide +kernel
  obtain ⟨unit, read, places⟩ := exists_readUnit declares
  refine ⟨unit, read, places, fun ordered => ?_⟩
  have increasing : (unit.declarations.map fun declaration =>
      (declaration.name, declaration.position.position)).Pairwise
        fun first second => first.2.Precedes second.2 := List.pairwise_map.mpr ordered
  rw [places] at increasing
  exact absurd increasing (by decide)

end SourceUnit

end RecordRegistry
