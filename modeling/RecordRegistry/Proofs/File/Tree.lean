/-
# File systems as trees

What there is at a location after one change of a file system is stated here once; the proofs about
paths and changes never look into the list of nodes again.  A file system is a tree if its locations
are distinct, every name is one that a directory can hold, and whatever there is stands in a
directory.
-/

import Mathlib.Tactic.Common
import RecordRegistry.File.Change

namespace RecordRegistry

namespace FileSystem

variable {files : FileSystem} {location other : Location} {node : FileNode}

@[simp] theorem node?_nil : files.node? [] = some (.directory files.rootMode) := by
  simp [node?]

theorem node?_of_ne_nil (named : location ≠ []) :
    files.node? location = files.nodes.lookup location := by
  simp [node?, named]

@[simp] theorem node?_empty :
    empty.node? location = if location = [] then some (.directory directoryMode) else none := by
  simp [node?, rootMode, empty]

/-- Looking a key up among entries of other keys only skips what has been filtered out. -/
private theorem lookup_filter_ne (nodes : List (Location × FileNode)) (different : other ≠ location) :
    (nodes.filter fun entry => decide (entry.1 ≠ location)).lookup other = nodes.lookup other := by
  induction nodes with
  | nil => rfl
  | cons entry rest ih =>
      obtain ⟨place, node⟩ := entry
      by_cases here : place = location
      · subst here
        have skipped : (other == place) = false := by simpa using different
        simpa [List.lookup_cons, skipped] using ih
      · simp only [ne_eq, decide_not] at ih
        simp [here, List.lookup_cons, ih]

private theorem lookup_filter_self (nodes : List (Location × FileNode)) :
    (nodes.filter fun entry => decide (entry.1 ≠ location)).lookup location = none := by
  rw [List.lookup_eq_none_iff]
  intro entry kept
  have apart : entry.1 ≠ location := by simpa using (List.mem_filter.mp kept).2
  simpa using apart.symm

theorem rootMode_erase (named : location ≠ []) : (files.erase location).rootMode = files.rootMode := by
  rw [rootMode, erase, lookup_filter_ne files.nodes (Ne.symm named), rootMode]

theorem rootMode_put (named : location ≠ []) : (files.put location node).rootMode = files.rootMode := by
  have skipped : (([] : Location) == location) = false := by simpa using Ne.symm named
  rw [← @rootMode_erase files location named, rootMode, put, List.lookup_cons, skipped, rootMode]

theorem node?_erase (named : location ≠ []) :
    (files.erase location).node? other = if other = location then none else files.node? other := by
  by_cases root : other = []
  · subst root
    simp [Ne.symm named, rootMode_erase named]
  · rw [node?_of_ne_nil root, erase]
    split
    · next same =>
        subst same
        exact lookup_filter_self files.nodes
    · next different => rw [lookup_filter_ne files.nodes different, node?_of_ne_nil root]

theorem node?_put (named : location ≠ []) :
    (files.put location node).node? other =
      if other = location then some node else files.node? other := by
  by_cases root : other = []
  · subst root
    simp [Ne.symm named, rootMode_put named]
  · rw [node?_of_ne_nil root, put]
    by_cases same : other = location
    · subst same
      simp
    · have skipped : (other == location) = false := by simpa using same
      rw [List.lookup_cons, skipped, if_neg same, ← node?_of_ne_nil root]
      have erased : (files.erase location).node? other = _ := node?_erase named
      rwa [if_neg same] at erased

theorem node?_put_self (named : location ≠ []) :
    (files.put location node).node? location = some node := by
  rw [node?_put named, if_pos rfl]

theorem node?_put_of_ne (named : location ≠ []) (different : other ≠ location) :
    (files.put location node).node? other = files.node? other := by
  rw [node?_put named, if_neg different]

/-- A directory names exactly what there is one name further on. -/
theorem mem_names {name : Bytes} {directory : Location} :
    name ∈ files.names directory ↔ files.node? (name :: directory) ≠ none := by
  rw [node?_of_ne_nil (List.cons_ne_nil _ _), names, List.mem_filterMap, ne_eq,
    List.lookup_eq_none_iff]
  constructor
  · rintro ⟨⟨place, node⟩, stored, leads⟩ absent
    have := absent _ stored
    cases place with
    | nil => simp [nameIn?] at leads
    | cons found outer =>
        simp only [nameIn?, Option.ite_none_right_eq_some, Option.some.injEq] at leads
        simp [leads.1, leads.2] at this
  · intro present
    simp only [Classical.not_forall, bne_iff_ne, ne_eq, Classical.not_not] at present
    obtain ⟨entry, stored, same⟩ := present
    exact ⟨entry, stored, by simp [← same, nameIn?]⟩

/-- There is a directory at a location, whatever its mode. -/
def HoldsDirectory (files : FileSystem) (location : Location) : Prop :=
  ∃ mode, files.node? location = some (.directory mode)

theorem any_isDirectory_iff :
    (files.node? location).any FileNode.isDirectory = true ↔ files.HoldsDirectory location := by
  unfold HoldsDirectory
  rcases files.node? location with _ | _ | _ | _ <;> simp [FileNode.isDirectory]

instance (files : FileSystem) (location : Location) : Decidable (files.HoldsDirectory location) :=
  decidable_of_iff _ any_isDirectory_iff

@[simp] theorem holdsDirectory_nil : files.HoldsDirectory [] :=
  ⟨files.rootMode, node?_nil⟩

theorem HoldsDirectory.present (inside : files.HoldsDirectory location) :
    files.node? location ≠ none := by
  obtain ⟨mode, stored⟩ := inside
  simp [stored]

theorem HoldsDirectory.ne_link (inside : files.HoldsDirectory location) (target : FilePath) :
    files.node? location ≠ some (.link target) := by
  obtain ⟨mode, stored⟩ := inside
  simp [stored]

/-- Where there is a file, there is no directory. -/
theorem not_holdsDirectory_of_file {mode : Nat} {content : Bytes}
    (isFile : files.node? location = some (.file mode content)) :
    ¬ files.HoldsDirectory location := by
  simp [HoldsDirectory, isFile]

/-- At the place of a change there is what has been put there; elsewhere directories stay. -/
theorem holdsDirectory_put (named : location ≠ []) (inside : files.HoldsDirectory other) :
    (files.put location node).HoldsDirectory other ↔ other ≠ location ∨ node.isDirectory = true := by
  rw [HoldsDirectory, node?_put named]
  by_cases same : other = location
  · cases node <;> simp [same, FileNode.isDirectory]
  · simp only [if_neg same]
    exact iff_of_true inside (.inl same)

/-- A name that a directory can hold. -/
structure IsFileName (name : Bytes) : Prop where
  spoken : FilePath.isSilent name = false
  notParent : name ≠ FilePath.parentPiece
  unslashed : FilePath.slash ∉ name
  nonzero : 0 ∉ name
  short : name.length ≤ nameLimit

/-- A file system in which every location is listed once, has a proper name and stands in a
directory.  Every operation on files keeps it so. -/
structure IsTree (files : FileSystem) : Prop where
  distinct : (files.nodes.map Prod.fst).Nodup
  named : ∀ name outer, files.node? (name :: outer) ≠ none → IsFileName name
  inDirectory : ∀ name outer,
    files.node? (name :: outer) ≠ none → files.HoldsDirectory outer

theorem isTree_empty : empty.IsTree where
  distinct := by simp [empty]
  named := by simp
  inDirectory := by simp

private theorem distinct_erase (distinct : (files.nodes.map Prod.fst).Nodup) :
    ((files.erase location).nodes.map Prod.fst).Nodup :=
  distinct.sublist (List.filter_sublist.map _)

/-- Something may be put into a directory, if what lies below the place stays in a directory. -/
theorem IsTree.put (tree : files.IsTree) {name : Bytes} {outer : Location}
    (proper : IsFileName name) (inside : files.HoldsDirectory outer)
    (below : node.isDirectory = true ∨ ∀ inner, files.node? (inner :: name :: outer) = none) :
    (files.put (name :: outer) node).IsTree where
  distinct := by
    have fresh : name :: outer ∉ (files.erase (name :: outer)).nodes.map Prod.fst := by
      simp [erase]
    simpa [FileSystem.put] using And.intro fresh (distinct_erase tree.distinct)
  named inner further present := by
    rw [node?_put (List.cons_ne_nil _ _)] at present
    split at present
    · next same => exact (List.cons.inj same).1 ▸ proper
    · exact tree.named inner further present
  inDirectory inner further present := by
    rw [node?_put (List.cons_ne_nil _ _)] at present
    split at present
    · next same =>
        obtain ⟨-, rfl⟩ := List.cons.inj same
        exact (holdsDirectory_put (List.cons_ne_nil _ _) inside).mpr (.inl List.ne_cons_self)
    · refine (holdsDirectory_put (List.cons_ne_nil _ _) (tree.inDirectory inner further present)).mpr
        (or_iff_not_imp_left.mpr fun same => ?_)
      obtain rfl := Classical.not_not.mp same
      exact below.resolve_right fun nothing => present (nothing inner)

/-- What has nothing below it may be taken away. -/
theorem IsTree.erase (tree : files.IsTree) (named : location ≠ [])
    (below : ∀ inner, files.node? (inner :: location) = none) : (files.erase location).IsTree where
  distinct := distinct_erase tree.distinct
  named inner further present := by
    rw [node?_erase named] at present
    split at present
    · exact absurd rfl present
    · exact tree.named inner further present
  inDirectory inner further present := by
    rw [node?_erase named] at present
    split at present
    · exact absurd rfl present
    · have apart : further ≠ location := by
        rintro rfl
        exact present (below inner)
      rw [HoldsDirectory, node?_erase named, if_neg apart]
      exact tree.inDirectory inner further present

theorem IsTree.isFileName (tree : files.IsTree) {name : Bytes} {outer : Location}
    (present : files.node? (name :: outer) = some node) : IsFileName name :=
  tree.named name outer (by simp [present])

/-- Below something other than a directory there is nothing. -/
theorem IsTree.nothing_below (tree : files.IsTree)
    (notDirectory : ¬ files.HoldsDirectory location) (inner : Bytes) :
    files.node? (inner :: location) = none := by
  by_contra present
  exact notDirectory (tree.inDirectory inner location present)

/-- Nor is there anything further below. -/
theorem IsTree.nothing_under (tree : files.IsTree)
    (notDirectory : ¬ files.HoldsDirectory location) (inner : Bytes) (way : Location) :
    files.node? (inner :: way ++ location) = none := by
  induction way generalizing inner with
  | nil => exact tree.nothing_below notDirectory inner
  | cons name way ih =>
      exact tree.nothing_below (fun inside => inside.present (ih name)) inner

/-- A directory lists no name twice. -/
theorem IsTree.nodup_names (tree : files.IsTree) (directory : Location) :
    (files.names directory).Nodup := by
  have distinct := tree.distinct
  unfold names
  generalize files.nodes = nodes at distinct
  induction nodes with
  | nil => simp
  | cons entry rest ih =>
      obtain ⟨fresh, distinct⟩ := List.nodup_cons.mp distinct
      rw [List.filterMap_cons]
      cases leads : nameIn? directory entry.1 with
      | none => exact ih distinct
      | some name =>
          refine List.nodup_cons.mpr ⟨?_, ih distinct⟩
          intro again
          obtain ⟨second, stored, leadsToo⟩ := List.mem_filterMap.mp again
          have same : second.1 = entry.1 := by
            cases first : entry.1 <;> cases other : second.1 <;>
              simp_all [nameIn?]
          exact fresh (same ▸ List.mem_map_of_mem stored)

instance (name : Bytes) : Decidable (IsFileName name) :=
  decidable_of_iff (FilePath.isSilent name = false ∧ name ≠ FilePath.parentPiece ∧
      FilePath.slash ∉ name ∧ 0 ∉ name ∧ name.length ≤ nameLimit)
    ⟨fun ⟨spoken, notParent, unslashed, nonzero, short⟩ =>
        ⟨spoken, notParent, unslashed, nonzero, short⟩,
      fun proper => ⟨proper.spoken, proper.notParent, proper.unslashed, proper.nonzero, proper.short⟩⟩

/-- Something is there exactly where an entry is stored. -/
theorem node?_cons_ne_none_iff {name : Bytes} {outer : Location} :
    files.node? (name :: outer) ≠ none ↔ ∃ entry ∈ files.nodes, entry.1 = name :: outer := by
  rw [node?_of_ne_nil (List.cons_ne_nil _ _), ne_eq, List.lookup_eq_none_iff]
  simp only [Classical.not_forall, bne_iff_ne, ne_eq, Classical.not_not]
  constructor
  · rintro ⟨entry, stored, same⟩
    exact ⟨entry, stored, same.symm⟩
  · rintro ⟨entry, stored, same⟩
    exact ⟨entry, stored, same.symm⟩

/-- A file system is a tree if each of its entries stands in a directory under a proper name. -/
theorem isTree_iff :
    files.IsTree ↔ (files.nodes.map Prod.fst).Nodup ∧ ∀ entry ∈ files.nodes, entry.1 ≠ [] →
      IsFileName (entry.1.headD []) ∧ files.HoldsDirectory entry.1.tail := by
  constructor
  · refine fun tree => ⟨tree.distinct, fun ⟨place, node⟩ stored some => ?_⟩
    obtain ⟨name, outer, rfl⟩ := List.exists_cons_of_ne_nil some
    have present := node?_cons_ne_none_iff.mpr ⟨_, stored, rfl⟩
    exact ⟨tree.named name outer present, tree.inDirectory name outer present⟩
  · rintro ⟨distinct, each⟩
    have placed (name : Bytes) (outer : Location) (present : files.node? (name :: outer) ≠ none) :
        IsFileName name ∧ files.HoldsDirectory outer := by
      obtain ⟨entry, stored, same⟩ := node?_cons_ne_none_iff.mp present
      have facts := each entry stored (by simp [same])
      rwa [same] at facts
    exact ⟨distinct, fun name outer present => (placed name outer present).1,
      fun name outer present => (placed name outer present).2⟩

instance (files : FileSystem) : Decidable files.IsTree := decidable_of_iff _ isTree_iff.symm

end FileSystem

end RecordRegistry
