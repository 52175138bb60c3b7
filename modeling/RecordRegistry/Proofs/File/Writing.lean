/-
# What a written file changes

A file that has been written is found under its path, with the new content.  All else is as before,
but for new directories on the way.  The location that the path stands for was the same before, or
there was none: then neither the file nor its directory was there.
-/

import RecordRegistry.Proofs.Results
import RecordRegistry.Proofs.File.Replacing

namespace RecordRegistry

namespace FileSystem

variable {files before made : FileSystem} {here place directory location : Location}
  {path : FilePath} {name : Bytes} {slashed : Bool}

/-- What a path names is a link, whether it leads on or not. -/
def EndsInLink (files : FileSystem) (here : Location) (path : FilePath) : Prop :=
  ∃ location target, files.locate here path false = .ok location ∧
    files.node? location = some (.link target)

namespace EndsAt

theorem endsInLink {target : FilePath} (ends : files.EndsAt here path directory name false)
    (isLink : files.node? (name :: directory) = some (.link target)) :
    files.EndsInLink here path := by
  obtain ⟨outer, links, cut, few, leads⟩ := ends.cut_of_plain
  refine ⟨name :: directory, target, ?_, isLink⟩
  obtain ⟨spare, enough⟩ := Nat.exists_eq_add_of_le few
  rw [FileSystem.locate, ends.accepted, cut, enough]
  simp only [ok_bind]
  obtain ⟨mode, inside⟩ := ends.inside
  rw [leads.follow_append (List.cons_ne_nil _ _), follow, advance, inside]
  simp [ends.proper.spoken, ends.proper.notParent, Nat.not_lt.mpr ends.proper.short, isLink]

/-- A path that ends in a name says the name last, after what leads to the directory. -/
theorem spoken (ends : files.EndsAt here path directory name slashed) :
    ∃ before links, path.spoken = before ++ [name] ∧
      files.Leads (start here path) before links directory := by
  obtain ⟨outer, slashes, links, cut, empties, -, few, leads⟩ := ends.cut
  refine ⟨_, links, ?_, leads.withoutSilent⟩
  have quiet : ∀ piece ∈ slashes, FilePath.isSilent piece = true := by
    intro piece inside
    rw [empties piece inside]
    decide
  rw [FilePath.spoken, cut, List.filter_append,
    List.filter_cons_of_pos (by simp [ends.proper.spoken]), FilePath.filter_of_silent quiet]

/-- The directory of the path is where the path ends. -/
theorem directory_eq {node : FileNode} (ends : files.EndsAt here path directory name slashed)
    (found : files.find here path.directory = .ok (place, node)) : place = directory := by
  obtain ⟨before, links, cut, leads⟩ := ends.spoken
  obtain ⟨content, starts⟩ := FilePath.directory_spoken cut
  obtain ⟨-, more, -, again⟩ := locate_eq_ok_iff.mp (find_eq_ok_iff.mp found).1
  have again : files.Leads (start here path.directory) path.directory.spoken more place :=
    again.withoutSilent
  rw [content, show start here path.directory = start here path by simp [start, starts]] at again
  exact again.unique leads

end EndsAt

/-- What has changed when a path has got new content, which is at the given location. -/
structure Written (here : Location) (path : FilePath) (content : Bytes) (before after : FileSystem)
    (location : Location) : Prop where
  found : ∃ mode, after.find here path = .ok (location, .file mode content)
  grown : before.Extends after
  kept : ∀ other node, other ≠ location → before.node? other = some node →
    after.node? other = some node
  made : ∀ other node, other ≠ location → before.node? other = none →
    after.node? other = some node → node = .directory directoryMode
  notDirectory : ¬ before.HoldsDirectory location
  notLink : ∀ target, before.node? location ≠ some (.link target)
  tree : after.IsTree
  stood : before.target? here path = some location ∨
    before.target? here path = none ∧ before.node? location = none

end FileSystem

namespace Replacement

open FileSystem

variable {replacement : Replacement} {before made : FileSystem} {place directory : Location}
  {name : Bytes}

/-- The directory of the file has been there, or it is new and empty before the file comes. -/
theorem Prepared.eq_or_fresh (prepared : replacement.Prepared before made place)
    (tree : before.IsTree) (downward : FilePath.parentPiece ∉ replacement.path.spoken)
    (ends : made.EndsAt replacement.here replacement.path directory name false) :
    made = before ∨
      before.node? directory = none ∧ ∀ inner, made.node? (inner :: directory) = none := by
  obtain ⟨words, links, cut, -⟩ := ends.spoken
  have outer : FilePath.parentPiece ∉ replacement.path.directory.spoken := by
    rw [(FilePath.directory_spoken cut).1]
    exact fun held => downward (cut ▸ List.mem_append_left _ held)
  obtain same | ⟨location, leads, absent, empty⟩ :=
    eq_or_madeFresh_of_makeFrom tree _ _ outer prepared.parents
  · exact .inl same
  · obtain ⟨mode, found⟩ := prepared.found
    obtain rfl : place = directory := ends.directory_eq found
    have arrived := (find_eq_ok_iff.mp found).1
    obtain rfl := Except.ok.inj (arrived.symm.trans leads)
    exact .inr ⟨absent, empty⟩

/-- The location that the path stands for does not depend on whether the file has been there. -/
theorem Prepared.target? (prepared : replacement.Prepared before made place)
    (tree : before.IsTree)
    (ends : made.EndsAt replacement.here replacement.path directory name false)
    (notLink : ∀ target, made.node? (name :: directory) ≠ some (.link target))
    (come : made = before ∨
      before.node? directory = none ∧ ∀ inner, made.node? (inner :: directory) = none) :
    before.target? replacement.here replacement.path = some (name :: directory) ∨
      before.target? replacement.here replacement.path = none ∧
        before.node? (name :: directory) = none := by
  have arrives := ends.locate notLink (by simp)
  obtain ⟨mode, reached⟩ := prepared.found
  obtain rfl : place = directory := ends.directory_eq reached
  rw [target?_eq]
  obtain rfl | ⟨absent, empty⟩ := come
  · left
    split
    · next location node found =>
        have again := (find_eq_ok_iff.mp found).1
        rw [arrives] at again
        rw [Except.ok.inj again]
    · obtain ⟨words, links, cut, -⟩ := ends.spoken
      have found : made.find replacement.here replacement.path.directory = _ := reached
      rw [found, FilePath.fileName?_eq cut ends.proper.notParent]
  · right
    have nothing : ∀ inner, before.node? (inner :: place) = none :=
      tree.nothing_below fun inside => inside.present absent
    have grown := (grows_of_parents prepared.parents).toExtends
    refine ⟨?_, nothing name⟩
    split
    · next location node found =>
        obtain ⟨leads, present⟩ := find_eq_ok_iff.mp found
        have again := grown.locate leads
        rw [arrives] at again
        rw [← Except.ok.inj again, nothing] at present
        exact absurd present (by simp)
    · split
      · next location node last found named =>
          obtain ⟨leads, present⟩ := find_eq_ok_iff.mp found
          have again := grown.locate leads
          have arrived : made.locate replacement.here replacement.path.directory true = _ :=
            (find_eq_ok_iff.mp reached).1
          rw [arrived] at again
          rw [← Except.ok.inj again, absent] at present
          exact absurd present (by simp)
      · rfl

/-- What has changed once the file has taken its place. -/
theorem Prepared.written {mode : Nat} (prepared : replacement.Prepared before made place)
    (tree : before.IsTree) (downward : FilePath.parentPiece ∉ replacement.path.spoken)
    (notLink : ¬ before.EndsInLink replacement.here replacement.path)
    (ends : made.EndsAt replacement.here replacement.path directory name false)
    (notDirectory : ¬ made.HoldsDirectory (name :: directory)) :
    before.Written replacement.here replacement.path replacement.content
      (made.put (name :: directory) (.file mode replacement.content)) (name :: directory) := by
  have named := List.cons_ne_nil name directory
  have grown := grows_of_parents prepared.parents
  have come := prepared.eq_or_fresh tree downward ends
  have unlinked : ∀ target, made.node? (name :: directory) ≠ some (.link target) := by
    intro target isLink
    obtain rfl | ⟨-, empty⟩ := come
    · exact notLink (ends.endsInLink isLink)
    · simp [empty] at isLink
  have further : made.Extends
      (made.put (name :: directory) (.file mode replacement.content)) :=
    extends_put_file named notDirectory unlinked
  have arrives := (ends.grow further).locate (by simp [node?_put_self named]) (by simp)
  refine ⟨⟨mode, find_eq_ok_iff.mpr ⟨arrives, node?_put_self named⟩⟩,
    grown.toExtends.trans further, ?_, ?_, ?_, ?_, ?_,
    prepared.target? tree ends unlinked come⟩
  · intro other node different present
    rw [node?_put_of_ne named different]
    exact grown.kept other node present
  · intro other node different absent present
    rw [node?_put_of_ne named different] at present
    exact (grown.made other node absent present).1
  · exact fun inside => notDirectory (grown.toExtends.holdsDirectory inside)
  · exact fun target isLink => unlinked target (grown.kept _ _ isLink)
  · exact (grown.tree tree).put ends.proper ends.inside
      (.inr ((grown.tree tree).nothing_below notDirectory))

/-- A run that succeeds has written the file, or it has found the content there. -/
theorem written_or_unchanged_of_run {changed : FileSystem} {outcome : WriteOutcome}
    (tree : before.IsTree) (downward : FilePath.parentPiece ∉ replacement.path.spoken)
    (notLink : ¬ before.EndsInLink replacement.here replacement.path)
    (success : replacement.run before = (changed, .ok outcome)) :
    (∃ location, before.Written replacement.here replacement.path replacement.content changed
        location) ∨
      changed = before ∧
        before.read replacement.here replacement.path = .ok replacement.content := by
  have reached := replacement.reached_run before
  rw [success] at reached
  cases reached with
  | unchanged held => exact .inr ⟨rfl, held⟩
  | written prepared ends notDirectory =>
      exact .inl ⟨_, prepared.written tree downward notLink ends notDirectory⟩

end Replacement

end RecordRegistry
