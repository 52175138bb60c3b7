/-
# Entries that are no sources

An entry that is hidden, or whose name does not have the extension of sources, is passed over by a
scan, whatever it is.  The scan comes to the same with it and without it, provided that no path
which it follows leads through the new entry: links are followed, so that what a link stands for is
a source, whatever its name.  A new link that cannot be followed fails the scan.
-/

import RecordRegistry.Proofs.Generation.Entries

namespace RecordRegistry

namespace FileSystem

/-- An entry of a directory has come, with whatever is below it, and nothing else has changed. -/
structure HasGained (before after : FileSystem) (location : Location) (name : Bytes) : Prop where
  absent : before.node? (name :: location) = none
  present : after.node? (name :: location) ≠ none
  elsewhere : ∀ place, ¬ name :: location <:+ place → after.node? place = before.node? place

/-- A directory gains what is put where nothing has been. -/
theorem hasGained_put {files : FileSystem} {location : Location} {name : Bytes} {node : FileNode}
    (absent : files.node? (name :: location) = none) :
    files.HasGained (files.put (name :: location) node) location name where
  absent := absent
  present := by simp [node?_put_self (List.cons_ne_nil _ _)]
  elsewhere place apart := by
    refine node?_put_of_ne (List.cons_ne_nil _ _) ?_
    rintro rfl
    exact apart List.suffix_rfl

namespace HasGained

variable {before after : FileSystem} {location : Location} {name : Bytes}

/-- Below the new entry there has been nothing. -/
theorem kept (gained : before.HasGained after location name) (tree : before.IsTree)
    (place : Location) (node : FileNode) (stored : before.node? place = some node) :
    after.node? place = some node := by
  rw [gained.elsewhere place ?_, stored]
  rintro ⟨way, rfl⟩
  cases way with
  | nil =>
      rw [List.nil_append, gained.absent] at stored
      cases stored
  | cons inner way =>
      rw [tree.nothing_under (fun inside => inside.present gained.absent) inner way] at stored
      cases stored

theorem node?_of_ne (gained : before.HasGained after location name) {other : Bytes}
    (different : other ≠ name) :
    after.node? (other :: location) = before.node? (other :: location) := by
  refine gained.elsewhere _ fun ⟨way, same⟩ => ?_
  cases way with
  | nil => exact different (List.cons.inj same).1.symm
  | cons inner way =>
      have longer := congrArg List.length (List.cons.inj same).2
      simp at longer
      omega

theorem mem_names_iff (gained : before.HasGained after location name) {other : Bytes}
    (different : other ≠ name) : other ∈ after.names location ↔ other ∈ before.names location := by
  rw [mem_names, mem_names, gained.node?_of_ne different]

end HasGained

end FileSystem

namespace Package

open FileSystem

variable {files before after : FileSystem} {here location : Location} {directory : FilePath}
  {exclude : Option FilePath} {excluded : Option Location} {name : Bytes} {mode : Nat}

/-- A name that is hidden, or does not have the extension of sources. -/
def IsHiddenOrOther (name : Bytes) : Prop :=
  name.head? = some FilePath.dot ∨ FilePath.extension? ⟨name⟩ ≠ some (Utf8.encode "rs")

theorem isSourcePath_of_hiddenOrOther
    (found : files.find here directory = .ok (location, .directory mode)) (proper : IsFileName name)
    (unread : IsHiddenOrOther name) : isSourcePath (directory.join ⟨name⟩) = false := by
  have alone : FilePath.fileName? ⟨name⟩ = some name := by
    have cut : FilePath.spoken ⟨name⟩ = [] ++ [name] := by
      rw [FilePath.spoken, FilePath.pieces, List.splitOn_eq_singleton proper.unslashed]
      simp [proper.spoken]
    exact FilePath.fileName?_eq cut proper.notParent
  rw [IsHiddenOrOther, FilePath.extension?, alone, Option.bind_some] at unread
  simp only [isSourcePath, FilePath.extension?, fileName?_join found proper, Option.bind_some]
  rcases unread with hidden | other
  · simp [hidden]
  · rw [decide_eq_false other, Bool.and_false]

/-- An entry with such a name is passed over, unless it is a link that cannot be followed or leads
back to the directory. -/
theorem visit_of_hiddenOrOther (found : files.find here directory = .ok (location, .directory mode))
    (proper : IsFileName name) (unread : IsHiddenOrOther name)
    (followed : ∀ target, files.node? (name :: location) = some (.link target) →
      ∃ place node, files.find here (directory.join ⟨name⟩) = .ok (place, node) ∧
        place ≠ location) :
    visit files here directory location excluded name = .passed := by
  have passed : visitFile files here excluded (directory.join ⟨name⟩) = .passed := by
    simp [visitFile, isSourcePath_of_hiddenOrOther found proper unread]
  unfold visit
  cases stored : files.node? (name :: location) with
  | none => rfl
  | some node =>
      cases node with
      | file mode content => exact passed
      | directory mode => rfl
      | link target =>
          obtain ⟨place, node, reached, elsewhere⟩ := followed target stored
          simp only [reached]
          cases node with
          | file mode content => exact passed
          | directory mode => exact if_neg elsewhere
          | link further => exact if_neg elsewhere

/-- A unit is read from what its path leads to. -/
theorem readUnit_congr {path : FilePath} (same : after.find here path = before.find here path) :
    readUnit after here path = readUnit before here path := by
  simp only [readUnit, FileSystem.readText, FileSystem.read, same]

/-- An entry that has been there is visited as before, if what its path leads to is the same. -/
theorem visit_congr (same : after.node? (name :: location) = before.node? (name :: location))
    (reached : after.find here (directory.join ⟨name⟩) = before.find here (directory.join ⟨name⟩))
    (stands : after.target? here (directory.join ⟨name⟩) =
      before.target? here (directory.join ⟨name⟩)) :
    visit after here directory location excluded name =
      visit before here directory location excluded name := by
  simp only [visit, visitFile, same, reached, stands, readUnit_congr reached]

/-- What a path in a directory leads to, unless a link stands there, is there if the path can be
followed at all. -/
theorem find_join_of_not_link (found : files.find here directory = .ok (location, .directory mode))
    (proper : IsFileName name)
    (notLink : ∀ target, files.node? (name :: location) ≠ some (.link target)) :
    files.find here (directory.join ⟨name⟩) =
      match acceptPath (directory.join ⟨name⟩), files.node? (name :: location) with
      | .error fault, _ => .error fault
      | .ok (), some node => .ok (name :: location, node)
      | .ok (), none => .error .missing := by
  cases accepted : acceptPath (directory.join ⟨name⟩) with
  | error fault => simp [FileSystem.find, locate, accepted]
  | ok =>
      rw [FileSystem.find, locate_join found proper accepted notLink]
      simp only [ok_bind]
      cases files.node? (name :: location) <;> rfl

theorem visit_of_gained (tree : before.IsTree)
    (found : before.find here directory = .ok (location, .directory mode))
    (gained : before.HasGained after location name) {other : Bytes} (different : other ≠ name)
    (proper : IsFileName other)
    (lost : ∀ target fault, before.node? (other :: location) = some (.link target) →
      before.find here (directory.join ⟨other⟩) = .error fault →
        after.find here (directory.join ⟨other⟩) = .error fault) :
    visit after here directory location excluded other =
      visit before here directory location excluded other := by
  have same := gained.node?_of_ne different
  have foundAfter := find_of_kept (gained.kept tree) found
  by_cases isLink : ∃ target, before.node? (other :: location) = some (.link target)
  · obtain ⟨target, isLink⟩ := isLink
    cases reached : before.find here (directory.join ⟨other⟩) with
    | error fault =>
        have stillLost := lost target fault isLink reached
        simp only [visit, same, isLink, reached, stillLost]
    | ok entry =>
        have reachedAfter := find_of_kept (gained.kept tree) reached
        refine visit_congr same (reachedAfter.trans reached.symm) ?_
        rw [target?_of_find reachedAfter, target?_of_find reached]
  · rw [not_exists] at isLink
    have stillNoLink : ∀ target, after.node? (other :: location) ≠ some (.link target) := by
      rwa [same]
    refine visit_congr same ?_ ?_
    · rw [find_join_of_not_link foundAfter proper stillNoLink,
        find_join_of_not_link found proper isLink, same]
    · rw [target?_join foundAfter proper stillNoLink, target?_join found proper isLink]

theorem bind_target?_congr
    (excludes : ∀ path ∈ exclude, after.target? here path = before.target? here path) :
    exclude.bind (after.target? here) = exclude.bind (before.target? here) := by
  cases exclude with
  | none => rfl
  | some path => exact excludes path rfl

/-- The other entries are as bad as before. -/
theorem bad_iff_of_gained (tree : before.IsTree)
    (found : before.find here directory = .ok (location, .directory mode))
    (gained : before.HasGained after location name)
    (lost : ∀ other target fault, before.node? (other :: location) = some (.link target) →
      before.find here (directory.join ⟨other⟩) = .error fault →
        after.find here (directory.join ⟨other⟩) = .error fault)
    {other : Bytes} {kind : ErrorKind} (different : other ≠ name) :
    Bad after here directory location excluded other kind ↔
      Bad before here directory location excluded other kind := by
  have listed := gained.mem_names_iff different
  by_cases stood : other ∈ before.names location
  · have proper := tree.named other location (mem_names.mp stood)
    rw [bad_iff_visit (find_of_kept (gained.kept tree) found) proper, bad_iff_visit found proper,
      visit_of_gained tree found gained different proper (lost other)]
  · exact iff_of_false (fun bad => stood (listed.mp bad.listed)) fun bad => stood bad.listed

/-- A new entry that is bad fails a scan: with the error that there has been before, if an entry of
an earlier name is bad, and otherwise with one about the new entry.  So does a new link that cannot
be followed or leads back to the directory, which is bad whatever its name. -/
theorem scan_of_gained_bad (tree : before.IsTree) (treeAfter : after.IsTree)
    (found : before.find here directory = .ok (location, .directory mode))
    (gained : before.HasGained after location name) {kind : ErrorKind}
    (bad : Bad after here directory location (exclude.bind (after.target? here)) name kind)
    (excludes : ∀ path ∈ exclude, after.target? here path = before.target? here path)
    (lost : ∀ other target fault, before.node? (other :: location) = some (.link target) →
      before.find here (directory.join ⟨other⟩) = .error fault →
        after.find here (directory.join ⟨other⟩) = .error fault) :
    ∃ error, scan after here directory exclude = .error error ∧
      ((scan before here directory exclude = .error error ∧
          ∃ other otherKind, other < name ∧
            Bad before here directory location (exclude.bind (before.target? here)) other otherKind) ∨
        (error.path? = some (directory.join ⟨name⟩) ∧ error.kind = kind ∧
          ∀ other otherKind,
            Bad before here directory location (exclude.bind (before.target? here)) other otherKind →
              name ≤ other)) := by
  have foundAfter := find_of_kept (gained.kept tree) found
  have excluded := bind_target?_congr excludes
  obtain ⟨first, firstKind, firstBad, least⟩ := exists_first_bad treeAfter foundAfter bad
  obtain ⟨error, visited, failed, about, isKind⟩ :=
    scan_of_first_bad treeAfter foundAfter firstBad least
  have stands {other : Bytes} {otherKind : ErrorKind}
      (otherBad : Bad before here directory location (exclude.bind (before.target? here)) other
        otherKind) :
      Bad after here directory location (exclude.bind (after.target? here)) other otherKind := by
    have different : other ≠ name := by
      rintro rfl
      exact mem_names.mp otherBad.listed gained.absent
    rw [excluded]
    exact (bad_iff_of_gained tree found gained lost different).mpr otherBad
  refine ⟨error, failed, ?_⟩
  by_cases new : first = name
  · subst new
    have proper := treeAfter.named first location gained.present
    obtain ⟨again, visitedAgain, sameKind⟩ := (bad_iff_visit foundAfter proper).mp bad
    obtain rfl : error = again := Visit.failed.inj (visited.symm.trans visitedAgain)
    exact .inr ⟨about, sameKind, fun other otherKind otherBad =>
      least other otherKind (stands otherBad)⟩
  · have stood := (bad_iff_of_gained tree found gained lost new).mp firstBad
    rw [excluded] at stood visited
    obtain ⟨again, visitedBefore, failedBefore, -⟩ :=
      scan_of_first_bad tree found stood fun other otherKind otherBad =>
        least other otherKind (stands otherBad)
    have proper := tree.named first location (mem_names.mp stood.listed)
    rw [visit_of_gained tree found gained new proper (lost first)] at visited
    obtain rfl : error = again := Visit.failed.inj (visited.symm.trans visitedBefore)
    have earlier : first < name :=
      List.not_le.mp fun late => new (List.le_antisymm (least name kind bad) late)
    exact .inl ⟨failedBefore, first, firstKind, earlier, stood⟩

/-- The name of a hidden link. -/
def hiddenName : Bytes := Utf8.encode ".link"

/-- A hidden link to itself fails the visit. -/
example :
    (visit (Generator.smallFiles.put [hiddenName, Generator.smallNames.1] (.link ⟨hiddenName⟩)) []
      Generator.smallGenerator.source [Generator.smallNames.1] none hiddenName).error? =
        some (.unreadable (.ofString "src/.link")
          (.entry (.ofString "src/.link") .tooManyLinks)) := by
  decide +kernel

/-- An entry that comes to a directory under a hidden name, or under one that does not have the
extension of sources, makes no difference to a scan, if the path that is not to be looked at stands
for the same as before, and links which could not be followed still cannot.  A new link must be one
that can be followed and does not lead back to the directory. -/
theorem scan_of_gained (tree : before.IsTree) (treeAfter : after.IsTree)
    (found : before.find here directory = .ok (location, .directory mode))
    (gained : before.HasGained after location name) (unread : IsHiddenOrOther name)
    (followed : ∀ target, after.node? (name :: location) = some (.link target) →
      ∃ place node, after.find here (directory.join ⟨name⟩) = .ok (place, node) ∧ place ≠ location)
    (excludes : ∀ path ∈ exclude, after.target? here path = before.target? here path)
    (lost : ∀ other target fault, before.node? (other :: location) = some (.link target) →
      before.find here (directory.join ⟨other⟩) = .error fault →
        after.find here (directory.join ⟨other⟩) = .error fault) :
    scan after here directory exclude = scan before here directory exclude := by
  have foundAfter := find_of_kept (gained.kept tree) found
  rw [scan_of_find foundAfter, scan_of_find found, bind_target?_congr excludes]
  generalize exclude.bind (before.target? here) = excluded
  have passed := @visit_of_hiddenOrOther after here location directory excluded name mode foundAfter
    (treeAfter.named name location gained.present) unread followed
  -- What visits come to can be compared name by name, since the new name comes to nothing.
  have same {Found : Type} (part : Visit → Option Found) (nothing : part .passed = none) :
      ((after.names location).mergeSort nameLe).filterMap (fun name =>
          part (visit after here directory location excluded name)) =
        ((before.names location).mergeSort nameLe).filterMap fun name =>
          part (visit before here directory location excluded name) := by
    refine filterMap_mergeSort_congr (treeAfter.nodup_names location) (tree.nodup_names location)
      _ _ fun other value => ?_
    by_cases new : other = name
    · subst new
      simp [passed, nothing, mem_names, gained.absent]
    · rw [gained.mem_names_iff new]
      refine and_congr_right fun listed => ?_
      have proper := tree.named other location (mem_names.mp listed)
      rw [visit_of_gained tree found gained new proper (lost other)]
  rw [← List.head?_filterMap, ← List.head?_filterMap, same Visit.error? rfl, same Visit.unit? rfl]

/-- The small package with a hidden link to its source. -/
def hiddenFiles : FileSystem :=
  Generator.smallFiles.put [hiddenName, Generator.smallNames.1]
    (.link ⟨Generator.smallNames.2⟩)

/-- The hidden link makes no difference to the scan of the small package. -/
theorem scan_of_gained_hiddenFiles :
    Generator.smallFiles.HasGained hiddenFiles [Generator.smallNames.1] hiddenName ∧
      scan hiddenFiles [] Generator.smallGenerator.source (some (.ofString "src/models.rs")) =
        scan Generator.smallFiles [] Generator.smallGenerator.source
          (some (.ofString "src/models.rs")) := by
  have gained : Generator.smallFiles.HasGained hiddenFiles [Generator.smallNames.1] hiddenName :=
    hasGained_put (by decide +kernel)
  refine ⟨gained, scan_of_gained Generator.isTree_smallFiles (by decide +kernel)
    Generator.find_smallFiles gained (.inl (by decide +kernel)) ?_ ?_ ?_⟩
  · have reached : hiddenFiles.find [] (Generator.smallGenerator.source.join ⟨hiddenName⟩) =
        .ok ([Generator.smallNames.2, Generator.smallNames.1],
          .file plainMode (Utf8.encode "pub struct Book;\n")) := by
      decide +kernel
    exact fun _ _ => ⟨_, _, reached, by decide⟩
  · have stands : hiddenFiles.target? [] (.ofString "src/models.rs") =
        Generator.smallFiles.target? [] (.ofString "src/models.rs") := by
      decide +kernel
    simpa using stands
  · intro other target fault isLink
    have listed : other ∈ Generator.smallFiles.names [Generator.smallNames.1] := by
      simp [mem_names, isLink]
    rw [Generator.names_smallFiles, List.mem_singleton] at listed
    subst listed
    exact absurd isLink (by simp [Generator.smallFiles, node?_put])

/-- The names of a directory, of a link in it, and of what the link stands for. -/
def notesNames : Bytes × Bytes × Bytes :=
  (Utf8.encode "m", Utf8.encode "z.rs", Utf8.encode "notes")

/-- A directory with a link to a file that is not there. -/
def lostFiles : FileSystem :=
  (empty.put [notesNames.1] (.directory directoryMode)).put [notesNames.2.1, notesNames.1]
    (.link ⟨notesNames.2.2⟩)

/-- The same directory, with the file. -/
def notedFiles : FileSystem :=
  lostFiles.put [notesNames.2.2, notesNames.1] (.file plainMode [])

/-- An entry whose name does not have the extension of sources can be what a link stands for, so that
a scan which has failed succeeds once the entry is there. -/
theorem scan_gains_notes :
    lostFiles.IsTree ∧ notedFiles.IsTree ∧
      lostFiles.find [] ⟨notesNames.1⟩ = .ok ([notesNames.1], .directory directoryMode) ∧
      lostFiles.HasGained notedFiles [notesNames.1] notesNames.2.2 ∧
      IsHiddenOrOther notesNames.2.2 ∧
      (scan lostFiles [] ⟨notesNames.1⟩ none).isOk = false ∧
      (scan notedFiles [] ⟨notesNames.1⟩ none).isOk = true := by
  have found : notedFiles.find [] ⟨notesNames.1⟩ =
      .ok ([notesNames.1], .directory directoryMode) := by
    decide +kernel
  have sorted : (notedFiles.names [notesNames.1]).mergeSort nameLe =
      notedFiles.names [notesNames.1] :=
    List.mergeSort_of_pairwise (by decide +kernel)
  refine ⟨?_, ?_, ?_, hasGained_put ?_, .inr ?_, ?_, ?_⟩
  case refine_7 =>
    rw [scan_of_find found, sorted]
    decide +kernel
  all_goals decide +kernel

end Package

end RecordRegistry
