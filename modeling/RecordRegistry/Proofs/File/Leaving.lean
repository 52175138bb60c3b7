/-
# What a replacement leaves

A replacement that succeeds has found its content under the path, or it leaves a file with it where
the path ended just before, and other than that only directories on the way.  The mode is that of
what the path led to.  The temporary file does not come into this: nothing speaks of its name, so
the path leads to the same beside it as without it.
-/

import RecordRegistry.Proofs.File.Sharing

namespace RecordRegistry

namespace FileSystem

variable {files : FileSystem} {here there directory : Location} {pieces : List Bytes}
  {links mode : Nat} {path : FilePath} {name content : Bytes} {location : Location} {node : FileNode}

/-- In a tree a path does not lead to a link, since links are followed. -/
theorem Leads.ne_link (tree : files.IsTree) (leads : files.Leads here pieces links there)
    (long : pieces ≠ []) (target : FilePath) : files.node? there ≠ some (.link target) := by
  -- Only the last piece counts, unless a link is followed by nothing.
  induction leads with
  | arrived => exact absurd rfl long
  | @silent here there piece rest links inside unspoken onward ih =>
      cases rest with
      | nil =>
          cases onward
          exact inside.ne_link target
      | cons next rest => exact ih (List.cons_ne_nil _ _)
  | @parent here there rest links inside onward ih =>
      cases rest with
      | nil =>
          cases onward
          exact (tree.tail inside).ne_link target
      | cons next rest => exact ih (List.cons_ne_nil _ _)
  | @name here there piece rest links inside spoken notParent short notLink onward ih =>
      cases rest with
      | nil =>
          cases onward
          exact notLink target
      | cons next rest => exact ih (List.cons_ne_nil _ _)
  | @link here there piece rest first links inside spoken notParent short isLink onward ih =>
      exact ih (by simp [FilePath.pieces_ne_nil])

/-- A path that does not speak of a name, where no link does, leads to nothing of that name. -/
theorem ne_of_locate (tree : files.IsTree) (unspoken : Replacement.IsUnspoken files path name)
    (absent : files.node? (name :: directory) = none)
    (located : files.locate here path true = .ok location) : location ≠ name :: directory := by
  rintro rfl
  obtain ⟨-, links, -, leads⟩ := locate_eq_ok_iff.mp located
  obtain last | ⟨place, target, isLink, spoken⟩ :=
    leads.getLast?_or_link tree (fun held => held.present absent) path.pieces_ne_nil
  · exact unspoken.unasked (List.mem_of_getLast? last)
  · exact unspoken.unlinked place target isLink spoken

/-- Beside a file that nothing speaks of, a path leads to the same as without it. -/
theorem find_put_iff (tree : files.IsTree) (unspoken : Replacement.IsUnspoken files path name)
    (absent : files.node? (name :: directory) = none) :
    (files.put (name :: directory) (.file mode content)).find here path = .ok (location, node) ↔
      files.find here path = .ok (location, node) := by
  have named := List.cons_ne_nil name directory
  have forth : files.Extends (files.put (name :: directory) (.file mode content)) :=
    extends_put_file named (fun held => held.present absent) (by simp [absent])
  have back : (files.put (name :: directory) (.file mode content)).Extends files :=
    put_file_extends named (by simp [absent])
  rw [find_eq_ok_iff, find_eq_ok_iff]
  constructor
  · rintro ⟨located, stored⟩
    have leads := back.locate located
    rw [node?_put_of_ne named (ne_of_locate tree unspoken absent leads)] at stored
    exact ⟨leads, stored⟩
  · rintro ⟨located, stored⟩
    refine ⟨forth.locate located, ?_⟩
    rwa [node?_put_of_ne named (ne_of_locate tree unspoken absent located)]

end FileSystem

namespace Replacement

open FileSystem

variable {replacement : Replacement} {before files changed made : FileSystem} {place : Location}
  {outcome : WriteOutcome} {name : Bytes} {directory : Location} {mode : Nat} {path : FilePath}

theorem isUnspoken_freshName (files : FileSystem) (path : FilePath) (names : List Bytes) :
    IsUnspoken files path (freshName (names ++ spokenNames files path)) := by
  have unnamed := mt (List.mem_append_right names)
    (freshName_notMem (names ++ spokenNames files path))
  refine ⟨List.prefix_append _ _, fun asked => unnamed (List.mem_append_left _ asked), ?_⟩
  intro location target isLink spoken
  have named : location ≠ [] := by
    rintro rfl
    simp at isLink
  rw [node?_of_ne_nil named, List.lookup_eq_some_iff] at isLink
  obtain ⟨earlier, later, stored, -⟩ := isLink
  have listed : (location, FileNode.link target) ∈ files.nodes := by simp [stored]
  exact unnamed (List.mem_append_right _ (List.mem_flatMap.mpr ⟨_, listed, spoken⟩))

/-- The mode is that of the file or directory that the path leads to, and otherwise that of a new
file.  The path leads to no link. -/
structure Carries (replacement : Replacement) (files : FileSystem) (mode : Nat) : Prop where
  file : ∀ location held content,
    files.find replacement.here replacement.path = .ok (location, .file held content) → mode = held
  directory : ∀ location held,
    files.find replacement.here replacement.path = .ok (location, .directory held) → mode = held
  followed : ∀ location target,
    files.find replacement.here replacement.path ≠ .ok (location, .link target)
  nothing : (¬ ∃ found, files.find replacement.here replacement.path = .ok found) → mode = plainMode

theorem carries_mode (tree : files.IsTree) : replacement.Carries files (replacement.mode files) where
  file location held content found := by simp [Replacement.mode, found, FileNode.mode?]
  directory location held found := by simp [Replacement.mode, found, FileNode.mode?]
  followed location target found := by
    obtain ⟨located, isLink⟩ := find_eq_ok_iff.mp found
    obtain ⟨-, links, -, leads⟩ := locate_eq_ok_iff.mp located
    exact leads.ne_link tree replacement.path.pieces_ne_nil target isLink
  nothing none := by
    unfold Replacement.mode
    split
    · next found => exact absurd ⟨_, found⟩ none
    · rfl

/-- The temporary file does not change the mode. -/
theorem mode_put {content : Bytes} (tree : files.IsTree)
    (unspoken : IsUnspoken files replacement.path name)
    (absent : files.node? (name :: directory) = none) :
    replacement.mode (files.put (name :: directory) (.file mode content)) =
      replacement.mode files := by
  unfold Replacement.mode
  cases found : files.find replacement.here replacement.path with
  | ok entry => rw [(find_put_iff tree unspoken absent).mpr found]
  | error fault =>
      cases again : (files.put (name :: directory) (.file mode content)).find replacement.here
          replacement.path with
      | ok entry => simp [(find_put_iff tree unspoken absent).mp again] at found
      | error other => rfl

/-- The file system when the temporary file has its content, but not its mode. -/
def filled (replacement : Replacement) (made : FileSystem) (place : Location) : FileSystem :=
  made.put (freshLocation made replacement.path place) (.file temporaryMode replacement.content)

/-- The file system when the temporary file is ready to take its place. -/
def moded (replacement : Replacement) (made : FileSystem) (place : Location) : FileSystem :=
  made.put (freshLocation made replacement.path place)
    (.file (replacement.mode (replacement.filled made place)) replacement.content)

/-- A run that writes makes the parents and the temporary file, and renames it at last. -/
theorem exists_rename_of_run (success : replacement.run before = (changed, .ok .written)) :
    ∃ made place, replacement.Prepared before made place ∧
      (replacement.moded made place).rename replacement.here
        (freshLocation made replacement.path place) replacement.path = .ok changed := by
  have compared : replacement.finish before .makeParents = (changed, .ok .written) := by
    rw [run, finish_step (by simp [ReplacementStage.remaining])] at success
    simp only [step] at success
    split at success
    · split at success
      · simp [finish_finished] at success
      · exact success
    · exact success
  rw [finish_step (by simp [ReplacementStage.remaining])] at compared
  simp only [step] at compared
  split at compared
  · next made parents =>
      rw [finish_step (by simp [ReplacementStage.remaining])] at compared
      simp only [step] at compared
      split at compared
      · next place mode found =>
          have named : freshLocation made replacement.path place ≠ [] := List.cons_ne_nil _ _
          refine ⟨made, place, ⟨parents, _, found⟩, ?_⟩
          rw [finish_step (by simp [ReplacementStage.remaining]), step, refill_put named,
            finish_step (by simp [ReplacementStage.remaining]), step,
            finish_step (by simp [ReplacementStage.remaining]), step, remode_put named,
            finish_step (by simp [ReplacementStage.remaining]), step] at compared
          split at compared
          · next renamed success =>
              rw [finish_finished] at compared
              rw [← (Prod.mk.inj compared).1]
              exact success
          · simp [failed, finish_finished] at compared
      · simp [failed, finish_finished] at compared
      · simp [failed, finish_finished] at compared
  · simp [finish_finished] at compared

/-- What a run that succeeds leaves.  If it changes nothing, the content has been found under the
path.  Otherwise directories may have been made on the way to the file, the place where the path
then ended holds the content, with the mode of what the path led to, and everything else is as it
was.  The content can be read under the path if the directory of the file is still reached, and
whenever no link has given way to the file. -/
theorem effect_of_run (tree : before.IsTree)
    (success : replacement.run before = (changed, .ok outcome)) :
    (outcome = .unchanged → changed = before ∧
      before.read replacement.here replacement.path = .ok replacement.content) ∧
    (outcome = .written → ∃ made directory name mode,
      before.Grows replacement.here replacement.parent.ancestors made ∧
      made.EndsAt replacement.here replacement.path directory name false ∧
      replacement.Carries made mode ∧
      changed.node? (name :: directory) = some (.file mode replacement.content) ∧
      ∀ location, location ≠ name :: directory → changed.node? location = made.node? location) ∧
    replacement.Readable before changed := by
  refine ⟨?_, ?_, readable_of_run success⟩
  · rintro rfl
    rcases unchanged_or_put_of_run success with ⟨-, same, held⟩ | ⟨⟨⟩, -⟩
    exact ⟨same, held⟩
  · rintro rfl
    obtain ⟨made, place, prepared, renamed⟩ := exists_rename_of_run success
    have grown := grows_of_parents prepared.parents
    have absent := node?_freshLocation made replacement.path place
    have named : freshLocation made replacement.path place ≠ [] := List.cons_ne_nil _ _
    obtain ⟨directory, name, node, ends, stored, -, rfl⟩ := exists_of_rename renamed
    rw [moded, node?_put_self named] at stored
    obtain rfl := Option.some.inj stored
    have back : (replacement.moded made place).Extends made :=
      put_file_extends named (by simp [absent])
    have same : replacement.mode (replacement.filled made place) = replacement.mode made :=
      mode_put (grown.tree tree) (isUnspoken_freshName made replacement.path _) absent
    refine ⟨made, directory, name, replacement.mode made, grown, ends.grow back,
      carries_mode (grown.tree tree), ?_, ?_⟩
    · rw [same]
      exact node?_put_self (List.cons_ne_nil _ _)
    · intro location other
      rw [node?_put_of_ne (List.cons_ne_nil _ _) other, moded, erase_put absent named]

/-- A directory with a file that only its owner may read, and a link to this file. -/
def linkedFiles : FileSystem :=
  ((FileSystem.empty.put [Utf8.encode "d"] (.directory directoryMode)).put
    [Utf8.encode "old", Utf8.encode "d"] (.file 0o600 [])).put [Utf8.encode "p"]
      (.link (.ofString "d/old"))

/-- The new file takes the place of the link, and the mode of the file that the link led to, which
stays as it is. -/
theorem effect_of_run_linkedFiles :
    linkedFiles.IsTree ∧
      ∃ changed, (Replacement.mk [] (.ofString "p") [0x61]).run linkedFiles =
          (changed, .ok .written) ∧
        changed.node? [Utf8.encode "p"] = some (.file 0o600 [0x61]) ∧
        changed.node? [Utf8.encode "old", Utf8.encode "d"] = some (.file 0o600 []) ∧
        Readable ⟨[], .ofString "p", [0x61]⟩ linkedFiles changed := by
  have tree : linkedFiles.IsTree := by decide +kernel
  have written : (Replacement.mk [] (.ofString "p") [0x61]).run linkedFiles =
      (linkedFiles.put [Utf8.encode "p"] (.file 0o600 [0x61]), .ok .written) := by
    decide +kernel
  exact ⟨tree, _, written, by decide +kernel, by decide +kernel, (effect_of_run tree written).2.2⟩

/-- A link to a directory gives way, too, and hands on the mode of the directory. -/
example :
    let files := (FileSystem.empty.put [Utf8.encode "d"] (.directory 0o700)).put [Utf8.encode "p"]
      (.link (.ofString "d"))
    ((Replacement.mk [] (.ofString "p") [0x61]).run files).1.node? [Utf8.encode "p"] =
      some (.file 0o700 [0x61]) := by
  decide +kernel

/-- A link to the directory that it stands in. -/
def loopFiles : FileSystem := FileSystem.empty.put [Utf8.encode "l"] (.link (.ofString "."))

/-- A path can lead through the very link that gives way to the file: then it ends nowhere
afterwards, and nothing can be read there. -/
theorem endless_of_run_loopFiles :
    loopFiles.IsTree ∧
      ∃ changed, (Replacement.mk [] (.ofString "l/l") [0x61]).run loopFiles =
          (changed, .ok .written) ∧
        changed.ending [] (.ofString "l/l") = .error .notDirectory ∧
        changed.read [] (.ofString "l/l") = .error .notDirectory := by
  have written : (Replacement.mk [] (.ofString "l/l") [0x61]).run loopFiles =
      (loopFiles.put [Utf8.encode "l"] (.file directoryMode [0x61]), .ok .written) := by
    decide +kernel
  exact ⟨by decide +kernel, _, written, by decide +kernel, by decide +kernel⟩

end Replacement

end RecordRegistry
