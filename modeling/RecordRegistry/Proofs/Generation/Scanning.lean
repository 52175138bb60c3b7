/-
# What a scan finds

A scan visits the names of a directory in their order, and succeeds if no visit fails.  The order is
total, so that the units a scan finds are determined by what each name in the directory comes to,
and not by the order in which a file system lists its nodes.
-/

import RecordRegistry.Package
import RecordRegistry.Proofs.File.Parents

namespace RecordRegistry

namespace Package

variable {files : FileSystem} {here location : Location} {directory : FilePath}

theorem pairwise_mergeSort_nameLe (names : List Bytes) :
    (names.mergeSort nameLe).Pairwise fun first second => nameLe first second = true := by
  refine List.pairwise_mergeSort ?_ ?_ names
  · intro first second third early late
    simp only [nameLe, decide_eq_true_eq] at early late ⊢
    exact List.le_trans early late
  · intro first second
    simpa [nameLe] using List.le_total first second

/-- Names in order are determined by which names there are. -/
theorem eq_of_pairwise_nameLe {names others : List Bytes}
    (sorted : names.Pairwise fun first second => nameLe first second = true)
    (othersSorted : others.Pairwise fun first second => nameLe first second = true)
    (distinct : names.Nodup) (othersDistinct : others.Nodup)
    (same : ∀ name, name ∈ names ↔ name ∈ others) : names = others := by
  refine List.Perm.eq_of_pairwise ?_ sorted othersSorted
    ((List.perm_ext_iff_of_nodup distinct othersDistinct).mpr same)
  intro first second _ _ early late
  simp only [nameLe, decide_eq_true_eq] at early late
  exact List.le_antisymm early late

/-- What is found first in the order of names is found at the least name that has something. -/
theorem exists_least_of_findSome? {Found : Type} {names : List Bytes} {find : Bytes → Option Found}
    {found : Found} (searched : (names.mergeSort nameLe).findSome? find = some found) :
    ∃ name ∈ names, find name = some found ∧
      ∀ other ∈ names, find other ≠ none → name ≤ other := by
  obtain ⟨earlier, name, later, cut, here, before⟩ := List.findSome?_eq_some_iff.mp searched
  have held : name ∈ names.mergeSort nameLe := by simp [cut]
  refine ⟨name, List.mem_mergeSort.mp held, here, fun other inside some => ?_⟩
  have sorted := pairwise_mergeSort_nameLe names
  have among : other ∈ names.mergeSort nameLe := List.mem_mergeSort.mpr inside
  rw [cut] at sorted among
  rcases List.mem_append.mp among with passed | reached
  · exact absurd (before other passed) some
  · rcases List.mem_cons.mp reached with rfl | after
    · exact List.le_refl _
    · have order := (List.pairwise_cons.mp (List.pairwise_append.mp sorted).2.1).1 other after
      simpa [nameLe] using order

/-- If some name has something, so has a least one. -/
theorem exists_least {Found : Type} {names : List Bytes} (find : Bytes → Option Found)
    {name : Bytes} (held : name ∈ names) (something : find name ≠ none) :
    ∃ least ∈ names, ∃ found, find least = some found ∧
      ∀ other ∈ names, find other ≠ none → least ≤ other := by
  cases searched : (names.mergeSort nameLe).findSome? find with
  | none =>
      rw [List.findSome?_eq_none_iff] at searched
      exact absurd (searched name (List.mem_mergeSort.mpr held)) something
  | some found =>
      obtain ⟨least, among, holds, before⟩ := exists_least_of_findSome? searched
      exact ⟨least, among, found, holds, before⟩

/-- Two directories in which the same names come to something, and to the same thing, give the same
in order, whatever other names they have. -/
theorem filterMap_mergeSort_congr {Found : Type} {names others : List Bytes}
    (distinct : names.Nodup) (othersDistinct : others.Nodup) (find elsewhere : Bytes → Option Found)
    (same : ∀ name found, name ∈ names ∧ find name = some found ↔
      name ∈ others ∧ elsewhere name = some found) :
    (names.mergeSort nameLe).filterMap find = (others.mergeSort nameLe).filterMap elsewhere := by
  have kept (names : List Bytes) (find : Bytes → Option Found) :
      (names.mergeSort nameLe).filterMap find =
        ((names.mergeSort nameLe).filter fun name => (find name).isSome).filterMap find := by
    rw [List.filterMap_filter]
    refine List.filterMap_congr fun name _ => ?_
    cases find name <;> rfl
  have sorted (names : List Bytes) (keep : Bytes → Bool) :=
    (pairwise_mergeSort_nameLe names).filter keep
  have all : ((names.mergeSort nameLe).filter fun name => (find name).isSome) =
      (others.mergeSort nameLe).filter fun name => (elsewhere name).isSome := by
    refine eq_of_pairwise_nameLe (sorted _ _) (sorted _ _) ?_ ?_ fun name => ?_
    · exact ((List.mergeSort_perm names nameLe).nodup_iff.mpr distinct).filter _
    · exact ((List.mergeSort_perm others nameLe).nodup_iff.mpr othersDistinct).filter _
    · simp only [List.mem_filter, List.mem_mergeSort, Option.isSome_iff_exists]
      constructor
      · rintro ⟨inside, found, holds⟩
        obtain ⟨inside, holds⟩ := (same name found).mp ⟨inside, holds⟩
        exact ⟨inside, found, holds⟩
      · rintro ⟨inside, found, holds⟩
        obtain ⟨inside, holds⟩ := (same name found).mpr ⟨inside, holds⟩
        exact ⟨inside, found, holds⟩
  rw [kept, all, kept others]
  refine List.filterMap_congr fun name inside => ?_
  obtain ⟨inside, some⟩ := List.mem_filter.mp inside
  obtain ⟨found, holds⟩ := Option.isSome_iff_exists.mp some
  rw [holds]
  exact ((same name found).mpr ⟨List.mem_mergeSort.mp inside, holds⟩).2

/-- A scan succeeds if its directory is found and no visit fails. -/
theorem scan_eq_ok_iff {exclude : Option FilePath} {package : Package} :
    scan files here directory exclude = .ok package ↔
      ∃ location mode, files.find here directory = .ok (location, .directory mode) ∧
        (∀ name ∈ files.names location,
          (visit files here directory location (exclude.bind (files.target? here)) name).error? =
            none) ∧
        package = ⟨directory, ((files.names location).mergeSort nameLe).filterMap fun name =>
          (visit files here directory location (exclude.bind (files.target? here)) name).unit?⟩ := by
  unfold scan visits
  cases found : files.find here directory with
  | error fault => simp
  | ok entry =>
      obtain ⟨location, node⟩ := entry
      cases node with
      | directory mode =>
        simp only [mapError_ok, ok_bind, pure_eq_ok, FileNode.isDirectory, Bool.not_true,
          Bool.false_eq_true, if_false, Except.ok.injEq, Prod.mk.injEq, FileNode.directory.injEq,
          and_assoc, exists_and_left, exists_eq_left']
        generalize visit files here directory location (exclude.bind (files.target? here)) = visit
        have sound : (((files.names location).mergeSort nameLe).map visit).findSome? Visit.error? =
            none ↔ ∀ name ∈ files.names location, (visit name).error? = none := by
          simp [List.findSome?_eq_none_iff]
        split
        · next error failed =>
            have failing : ¬ ∀ name ∈ files.names location, (visit name).error? = none := by
              rw [← sound, failed]
              simp
            simp [failing]
        · next nothing =>
            simp only [List.filterMap_map, Function.comp_def, Except.ok.injEq]
            exact ⟨fun same => ⟨sound.mp nothing, same.symm⟩, fun found => found.2.symm⟩
      | file mode content => simp [FileNode.isDirectory]
      | link target => simp [FileNode.isDirectory]

/-- A unit is read from a file whose name is text and whose content parses. -/
theorem readUnit_eq_ok_iff {path : FilePath} {unit : SourceUnit} :
    readUnit files here path = .ok unit ↔
      ∃ stem location mode content text source, path.stem?.bind Utf8.decode? = some stem ∧
        files.find here path = .ok (location, .file mode content) ∧
        Utf8.decode? content = some text ∧ SourceFile.parse text = .ok source ∧
        unit = ⟨path, moduleOf stem, source⟩ := by
  unfold readUnit FileSystem.readText FileSystem.read
  cases named : path.stem?.bind Utf8.decode? with
  | none => simp
  | some stem =>
      cases found : files.find here path with
      | error fault => simp
      | ok entry =>
          obtain ⟨location, node⟩ := entry
          cases node with
          | directory mode =>
              simp
          | link target =>
              simp
          | file mode content =>
              cases decoded : Utf8.decode? content with
              | none => simp [decoded]
              | some text =>
                  cases parsed : SourceFile.parse text with
                  | error error => simp [decoded, parsed]
                  | ok source => simp [decoded, parsed, eq_comm]

/-- A visit that comes to a unit has read it from the path of a source. -/
theorem readUnit_of_visit {excluded : Option Location} {name : Bytes} {unit : SourceUnit}
    (visited : visit files here directory location excluded name = .source unit) :
    isSourcePath unit.path = true ∧ readUnit files here unit.path = .ok unit := by
  have read {path : FilePath} (visited : visitFile files here excluded path = .source unit) :
      isSourcePath unit.path = true ∧ readUnit files here unit.path = .ok unit := by
    unfold visitFile at visited
    split at visited
    · simp at visited
    · next isSource =>
        split at visited
        · simp at visited
        · split at visited
          · next found success =>
              obtain rfl := Visit.source.inj visited
              obtain ⟨_, _, _, _, _, _, -, -, -, -, rfl⟩ := readUnit_eq_ok_iff.mp success
              exact ⟨by simpa using isSource, success⟩
          · simp at visited
  simp only [visit] at visited
  split at visited
  · exact read visited
  · split at visited
    · simp at visited
    · exact read visited
    · split at visited <;> simp at visited
  · simp at visited
  · simp at visited

variable {before after : FileSystem} {output : FilePath} {content : Bytes} {name : Bytes}
  {path : FilePath} {target : Location}

/-- The file that is not to be looked at is not looked at. -/
theorem visitFile_of_target? (stands : files.target? here path = some target) :
    visitFile files here (some target) path =
      if isSourcePath path then .excluded path else .passed := by
  unfold visitFile
  cases isSourcePath path <;> simp [stands]

theorem unit?_visitFile_of_target? (stands : files.target? here path = some target) :
    (visitFile files here (some target) path).unit? = none ∧
      (visitFile files here (some target) path).error? = none := by
  rw [visitFile_of_target? stands]
  split <;> exact ⟨rfl, rfl⟩

/-- A file that stands elsewhere, and is found again if it has been found, is visited as before. -/
theorem visitFile_congr {excluded : Option Location} {place : Location}
    (apart : ∀ other, excluded = some other → other = target) (elsewhere : place ≠ target)
    (stood : before.target? here path = some place) (stands : after.target? here path = some place)
    (kept : ∀ location node, before.find here path = .ok (location, node) →
      after.find here path = .ok (location, node))
    (sound : (visitFile before here excluded path).error? = none) :
    visitFile after here (some target) path = visitFile before here excluded path := by
  unfold visitFile at sound ⊢
  by_cases isSource : isSourcePath path = true
  · have included : before.target? here path ≠ excluded := by
      rw [stood]
      exact fun same => elsewhere (apart _ same.symm)
    have stillIncluded : after.target? here path ≠ some target := by
      rw [stands]
      simpa using elsewhere
    simp only [isSource, included, stillIncluded, Bool.not_true, Bool.false_eq_true, if_false,
      decide_false, Bool.and_false] at sound ⊢
    cases success : readUnit before here path with
    | error error => simp [success, Visit.error?] at sound
    | ok unit =>
        have again : readUnit after here path = .ok unit := by
          obtain ⟨stem, location, mode, bytes, text, source, named, found, all⟩ :=
            readUnit_eq_ok_iff.mp success
          exact readUnit_eq_ok_iff.mpr
            ⟨stem, location, mode, bytes, text, source, named, kept _ _ found, all⟩
        rw [again]
  · simp [isSource]

end Package

end RecordRegistry
