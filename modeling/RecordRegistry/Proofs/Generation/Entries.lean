/-
# All entries or the first bad one

A scan yields a unit for every source of a directory, in the order of their names, or it fails on
the bad entry whose name comes first.  It never yields some of the units only, and the order in
which the directory is listed plays no part.
-/

import RecordRegistry.Proofs.File.Alike
import RecordRegistry.Proofs.Generation.Running
import RecordRegistry.Proofs.Generation.Sources

namespace RecordRegistry

namespace Package

open FileSystem Generator

variable {files other : FileSystem} {here location : Location} {directory : FilePath}
  {exclude : Option FilePath} {excluded : Option Location} {name : Bytes} {kind : ErrorKind}
  {error : GenerationError} {package : Package} {mode : Nat}

/-- File systems that hold the same are scanned alike. -/
theorem scan_congr (tree : files.IsTree) (otherTree : other.IsTree) (same : other.Alike files) :
    scan other here directory exclude = scan files here directory exclude := by
  have visited (location : Location) (excluded : Option Location) :
      visit other here directory location excluded =
        visit files here directory location excluded := by
    funext name
    simp only [visit, visitFile, readUnit, same _, same.find, same.target?, same.readText]
  have sorted (location : Location) :
      (other.names location).mergeSort nameLe = (files.names location).mergeSort nameLe := by
    refine eq_of_pairwise_nameLe (pairwise_mergeSort_nameLe _) (pairwise_mergeSort_nameLe _)
      ?_ ?_ fun name => ?_
    · exact (List.mergeSort_perm _ _).nodup_iff.mpr (otherTree.nodup_names location)
    · exact (List.mergeSort_perm _ _).nodup_iff.mpr (tree.nodup_names location)
    · simp only [List.mem_mergeSort, same.mem_names]
  have excludes : other.target? here = files.target? here := funext fun path => same.target? here path
  simp only [scan, visits, same.find, sorted, visited, excludes]

theorem Bad.listed (bad : Bad files here directory location excluded name kind) :
    name ∈ files.names location := by
  cases bad with
  | dangling isLink lost => simp [mem_names, isLink]
  | looping isLink back => simp [mem_names, isLink]
  | unopened named isFile included lost => simp [mem_names, isFile]
  | nameNotText source notText => exact source.listed
  | contentNotText source named notText => exact source.listed
  | malformed source named isText refused => exact source.listed

/-- What is found for some elements of a list is related to these elements, one by one. -/
theorem forall₂_filter_filterMap {Found : Type} {names : List Bytes} {find : Bytes → Option Found}
    {relation : Bytes → Found → Prop}
    (related : ∀ name ∈ names, ∀ found, find name = some found → relation name found) :
    List.Forall₂ relation (names.filter fun name => (find name).isSome) (names.filterMap find) := by
  induction names with
  | nil => exact .nil
  | cons name names ih =>
      rw [List.forall_mem_cons] at related
      have onward := ih related.2
      cases found : find name with
      | none => simpa [found] using onward
      | some value => simpa [found] using ⟨related.1 value found, onward⟩

/-- The sources of a directory, in the order of their names, each with its unit. -/
def ListsUnits (files : FileSystem) (here : Location) (directory : FilePath) (location : Location)
    (excluded : Option Location) (units : List SourceUnit) : Prop :=
  ∃ names : List Bytes, names.Pairwise (· < ·) ∧
    (∀ name, name ∈ names ↔
      ∃ stem content, IsSource files here directory location excluded name stem content) ∧
    List.Forall₂ (IsUnit files here directory location excluded) names units

/-- The names of a directory that come to something, in order. -/
theorem pairwise_filter_mergeSort (tree : files.IsTree) (keep : Bytes → Bool) :
    (((files.names location).mergeSort nameLe).filter keep).Pairwise (· < ·) := by
  have distinct := ((List.mergeSort_perm _ nameLe).nodup_iff.mpr (tree.nodup_names location)).filter
    keep
  refine ((pairwise_mergeSort_nameLe _).filter keep).imp₂ ?_ distinct
  intro first second early apart
  simp only [nameLe, decide_eq_true_eq] at early
  by_contra late
  exact apart (List.le_antisymm early (List.not_lt.mp late))

/-- What a scan of a directory comes to is said by the visits to its entries, in order. -/
theorem scan_of_find (found : files.find here directory = .ok (location, .directory mode))
    (exclude : Option FilePath) :
    scan files here directory exclude =
      match ((files.names location).mergeSort nameLe).findSome? fun name =>
          (visit files here directory location (exclude.bind (files.target? here)) name).error? with
      | some error => .error error
      | none => .ok ⟨directory, ((files.names location).mergeSort nameLe).filterMap fun name =>
          (visit files here directory location (exclude.bind (files.target? here)) name).unit?⟩ := by
  simp only [scan, visits, found, mapError_ok, ok_bind, pure_eq_ok, FileNode.isDirectory,
    Bool.not_true, Bool.false_eq_true, if_false, List.findSome?_map, List.filterMap_map, Function.comp_def]
  rfl

/-- A scan fails with the error of the visit that fails under the least name. -/
theorem scan_eq_error_of_least (found : files.find here directory = .ok (location, .directory mode))
    {name : Bytes} {error : GenerationError} (listed : name ∈ files.names location)
    (failed : (visit files here directory location
      (exclude.bind (files.target? here)) name).error? = some error)
    (least : ∀ other ∈ files.names location,
      (visit files here directory location (exclude.bind (files.target? here)) other).error? ≠ none →
        name ≤ other) :
    scan files here directory exclude = .error error := by
  rw [scan_of_find found]
  cases searched : ((files.names location).mergeSort nameLe).findSome? fun name =>
      (visit files here directory location (exclude.bind (files.target? here)) name).error? with
  | none =>
      rw [List.findSome?_eq_none_iff] at searched
      simp [searched name (List.mem_mergeSort.mpr listed)] at failed
  | some other =>
      obtain ⟨first, among, fails, before⟩ := exists_least_of_findSome? searched
      have early : first ≤ name := before name listed (by simp [failed])
      obtain rfl : first = name := List.le_antisymm early (least first among (by simp [fails]))
      simpa [fails] using failed

/-- If no entry is bad, a scan lists the units of all sources. -/
theorem exists_listsUnits_of_scan (tree : files.IsTree)
    (found : files.find here directory = .ok (location, .directory mode))
    (sound : ∀ name kind,
      ¬ Bad files here directory location (exclude.bind (files.target? here)) name kind) :
    ∃ units, scan files here directory exclude = .ok ⟨directory, units⟩ ∧
      ListsUnits files here directory location (exclude.bind (files.target? here)) units := by
  rw [scan_of_find found]
  generalize exclude.bind (files.target? here) = excluded at sound ⊢
  have proper : ∀ name ∈ files.names location, IsFileName name :=
    fun name listed => tree.named name location (mem_names.mp listed)
  have passed : (((files.names location).mergeSort nameLe).findSome? fun name =>
      (visit files here directory location excluded name).error?) = none := by
    rw [List.findSome?_eq_none_iff]
    intro name listed
    by_contra failed
    obtain ⟨error, failed⟩ := Option.ne_none_iff_exists'.mp failed
    obtain ⟨kind, bad⟩ :=
      exists_bad_of_error? found (proper name (List.mem_mergeSort.mp listed)) failed
    exact sound name kind bad
  rw [passed]
  refine ⟨_, rfl, _, pairwise_filter_mergeSort tree _, fun name => ?_,
    forall₂_filter_filterMap fun name listed unit visited => ?_⟩
  · rw [List.mem_filter, List.mem_mergeSort, Option.isSome_iff_exists]
    constructor
    · rintro ⟨listed, unit, visited⟩
      obtain ⟨stem, content, -, -, -, source, -⟩ :=
        (unit?_visit_eq_some_iff found (proper name listed)).mp visited
      exact ⟨stem, content, source⟩
    · rintro ⟨stem, content, source⟩
      rcases source.unit_or_bad with ⟨unit, isUnit⟩ | ⟨kind, bad⟩
      · exact ⟨source.listed, unit,
          (unit?_visit_eq_some_iff found (proper name source.listed)).mpr isUnit⟩
      · exact absurd bad (sound name kind)
  · exact (unit?_visit_eq_some_iff found (proper name (List.mem_mergeSort.mp listed))).mp visited

/-- If some entry is bad, there is one whose name comes first. -/
theorem exists_first_bad (tree : files.IsTree)
    (found : files.find here directory = .ok (location, .directory mode))
    (bad : Bad files here directory location excluded name kind) :
    ∃ first firstKind, Bad files here directory location excluded first firstKind ∧
      ∀ other otherKind, Bad files here directory location excluded other otherKind →
        first ≤ other := by
  have proper : ∀ name ∈ files.names location, IsFileName name :=
    fun name listed => tree.named name location (mem_names.mp listed)
  have fails {name : Bytes} {kind : ErrorKind}
      (bad : Bad files here directory location excluded name kind) :
      (visit files here directory location excluded name).error? ≠ none := by
    obtain ⟨error, failed, -⟩ := bad.visit found (proper name bad.listed)
    simp [failed, Visit.error?]
  obtain ⟨first, listed, error, failed, least⟩ :=
    exists_least (fun name => (visit files here directory location excluded name).error?)
      bad.listed (fails bad)
  obtain ⟨firstKind, firstBad⟩ := exists_bad_of_error? found (proper first listed) failed
  exact ⟨first, firstKind, firstBad, fun other otherKind otherBad =>
    least other otherBad.listed (fails otherBad)⟩

/-- A scan fails on the bad entry whose name comes first, with the error of the visit to it. -/
theorem scan_of_first_bad (tree : files.IsTree)
    (found : files.find here directory = .ok (location, .directory mode))
    (bad : Bad files here directory location (exclude.bind (files.target? here)) name kind)
    (least : ∀ other otherKind, Bad files here directory location
      (exclude.bind (files.target? here)) other otherKind → name ≤ other) :
    ∃ error,
      visit files here directory location (exclude.bind (files.target? here)) name =
        .failed error ∧
      scan files here directory exclude = .error error ∧
      error.path? = some (directory.join ⟨name⟩) ∧ error.kind = kind := by
  have proper : ∀ name ∈ files.names location, IsFileName name :=
    fun name listed => tree.named name location (mem_names.mp listed)
  obtain ⟨error, visited, about, isKind⟩ := bad.visit found (proper name bad.listed)
  refine ⟨error, visited, ?_, about, isKind⟩
  refine scan_eq_error_of_least found bad.listed (congrArg Visit.error? visited) ?_
  intro other listed fails
  obtain ⟨otherError, failed⟩ := Option.ne_none_iff_exists'.mp fails
  obtain ⟨otherKind, otherBad⟩ := exists_bad_of_error? found (proper other listed) failed
  exact least other otherKind otherBad

/-- If some entry is bad, a scan fails on the one whose name comes first. -/
theorem exists_first_bad_of_scan (tree : files.IsTree)
    (found : files.find here directory = .ok (location, .directory mode))
    (some : ∃ name kind,
      Bad files here directory location (exclude.bind (files.target? here)) name kind) :
    ∃ name kind error,
      Bad files here directory location (exclude.bind (files.target? here)) name kind ∧
      (∀ other otherKind, Bad files here directory location
        (exclude.bind (files.target? here)) other otherKind → name ≤ other) ∧
      scan files here directory exclude = .error error ∧
      error.path? = .some (directory.join ⟨name⟩) ∧ error.kind = kind := by
  obtain ⟨someName, someKind, someBad⟩ := some
  obtain ⟨name, kind, bad, least⟩ := exists_first_bad tree found someBad
  obtain ⟨error, -, failed, about, isKind⟩ := scan_of_first_bad tree found bad least
  exact ⟨name, kind, error, bad, least, failed, about, isKind⟩

/-- A scan that succeeds has met no bad entry, and lists the units of all sources. -/
theorem listsUnits_of_scan (tree : files.IsTree)
    (found : files.find here directory = .ok (location, .directory mode))
    (success : scan files here directory exclude = .ok package) :
    package.directory = directory ∧ ListsUnits files here directory location
      (exclude.bind (files.target? here)) package.units := by
  by_cases some : ∃ name kind,
      Bad files here directory location (exclude.bind (files.target? here)) name kind
  · obtain ⟨_, _, error, -, -, failed, -⟩ := exists_first_bad_of_scan tree found some
    rw [success] at failed
    cases failed
  · rw [not_exists] at some
    obtain ⟨units, again, lists⟩ :=
      exists_listsUnits_of_scan tree found fun name kind bad => some name ⟨kind, bad⟩
    rw [success] at again
    cases again
    exact ⟨rfl, lists⟩

/-- A scan of a directory yields the unit of every source, in the order of their names, if no entry
is bad, and fails otherwise, on the bad entry whose name comes first and with the kind of error that
is wrong with it.  The order in which the entries are listed makes no difference. -/
theorem scan_all_or_first_bad (tree : files.IsTree)
    (found : files.find here directory = .ok (location, .directory mode))
    (exclude : Option FilePath) :
    ((∀ name kind,
        ¬ Bad files here directory location (exclude.bind (files.target? here)) name kind) →
      ∃ units, scan files here directory exclude = .ok ⟨directory, units⟩ ∧
        ListsUnits files here directory location (exclude.bind (files.target? here)) units) ∧
    ((∃ name kind,
        Bad files here directory location (exclude.bind (files.target? here)) name kind) →
      ∃ name kind error,
        Bad files here directory location (exclude.bind (files.target? here)) name kind ∧
        (∀ other otherKind, Bad files here directory location
          (exclude.bind (files.target? here)) other otherKind → name ≤ other) ∧
        scan files here directory exclude = .error error ∧
        error.path? = some (directory.join ⟨name⟩) ∧ error.kind = kind) ∧
    ∀ listed : FileSystem, listed.nodes.Perm files.nodes →
      scan listed here directory exclude = scan files here directory exclude := by
  refine ⟨exists_listsUnits_of_scan tree found, exists_first_bad_of_scan tree found, ?_⟩
  intro listed reordered
  have distinct := (reordered.map Prod.fst).nodup_iff.mpr tree.distinct
  have same := alike_of_perm distinct reordered
  exact scan_congr tree (same.symm.isTree tree distinct) same

/-- The small package has no bad entry, so that its sources are listed. -/
theorem scan_all_or_first_bad_smallFiles :
    smallFiles.IsTree ∧
      smallFiles.find [] smallGenerator.source =
        .ok ([smallNames.1], .directory directoryMode) ∧
      ∃ units, scan smallFiles [] smallGenerator.source (some smallGenerator.output) =
          .ok ⟨smallGenerator.source, units⟩ ∧
        ListsUnits smallFiles [] smallGenerator.source [smallNames.1]
          (smallFiles.target? [] smallGenerator.output) units := by
  obtain ⟨all, first, -⟩ :=
    scan_all_or_first_bad isTree_smallFiles find_smallFiles (some smallGenerator.output)
  obtain ⟨package, scanned, -⟩ := exists_scan_smallFiles
  refine ⟨isTree_smallFiles, find_smallFiles, all fun name kind bad => ?_⟩
  obtain ⟨_, _, error, -, -, failed, -⟩ := first ⟨name, kind, bad⟩
  rw [scanned] at failed
  cases failed

/-- A directory, under a path that is almost as long as a path may be. -/
def longDirectory : FilePath := ⟨Utf8.encode "m" ++ List.replicate 3949 FilePath.slash⟩

/-- The stem of a name that makes the path too long. -/
def longStem : Bytes := List.replicate 200 0x61

/-- A file system with that directory and one source in it. -/
def longFiles : FileSystem :=
  (empty.put [Utf8.encode "m"] (.directory directoryMode)).put
    [longStem ++ sourceEnding, Utf8.encode "m"] (.file plainMode (Utf8.encode "struct A;"))

/-- A source under a proper name and with proper content, the only entry of its directory, is not
scanned if its path is too long to be opened. -/
theorem scan_longFiles :
    longFiles.IsTree ∧
      longFiles.find [] longDirectory = .ok ([Utf8.encode "m"], .directory directoryMode) ∧
      longFiles.names [Utf8.encode "m"] = [longStem ++ sourceEnding] ∧
      longFiles.node? [longStem ++ sourceEnding, Utf8.encode "m"] =
        some (.file plainMode (Utf8.encode "struct A;")) ∧
      IsSourceName (longStem ++ sourceEnding) longStem ∧ (Utf8.decode? longStem).isSome ∧
      Utf8.decode? (Utf8.encode "struct A;") = some "struct A;" ∧
      (SourceFile.parse "struct A;").isOk ∧
      ∃ error, scan longFiles [] longDirectory none = .error error ∧ error.kind = .discovery := by
  have proper : IsFileName (Utf8.encode "m") ∧ IsFileName (longStem ++ sourceEnding) := by
    refine ⟨⟨?_, ?_, ?_, ?_, ?_⟩, ⟨?_, ?_, ?_, ?_, ?_⟩⟩ <;> decide +kernel
  have outer : (empty.put [Utf8.encode "m"] (.directory directoryMode)).IsTree :=
    isTree_empty.put proper.1 holdsDirectory_nil (.inl rfl)
  have tree : longFiles.IsTree := by
    refine outer.put proper.2 ⟨_, node?_put_self (List.cons_ne_nil _ _)⟩ (.inr ?_)
    exact outer.nothing_below (by decide +kernel)
  have found : longFiles.find [] longDirectory =
      .ok ([Utf8.encode "m"], .directory directoryMode) := by
    decide +kernel
  have listed : longFiles.names [Utf8.encode "m"] = [longStem ++ sourceEnding] := by decide +kernel
  have stored : longFiles.node? [longStem ++ sourceEnding, Utf8.encode "m"] =
      some (.file plainMode (Utf8.encode "struct A;")) := by
    decide +kernel
  have named : IsSourceName (longStem ++ sourceEnding) longStem := by
    refine ⟨?_, ?_, rfl⟩ <;> decide +kernel
  have lost : longFiles.find [] (longDirectory.join ⟨longStem ++ sourceEnding⟩) =
      .error .nameTooLong := by
    decide +kernel
  refine ⟨tree, found, listed, stored, named, ?_, ?_, ?_, ?_⟩
  any_goals decide +kernel
  have bad : Bad longFiles [] longDirectory [Utf8.encode "m"] none (longStem ++ sourceEnding)
      .discovery :=
    .unopened named stored (by simp) lost
  obtain ⟨error, failed, -, isKind⟩ := bad.visit found proper.2
  refine ⟨error, ?_, isKind⟩
  rw [scan_of_find found, listed, List.mergeSort_singleton, List.findSome?_singleton,
    Option.bind_none, failed]
  rfl

end Package

end RecordRegistry
