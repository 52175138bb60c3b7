/-
# Readers beside several writers

Whatever several writers do to the file under one path, and in whatever order, a reader never gets a
part of a content, and a scan never takes a temporary file for a source.  What readers get in the
end is the content of one of the writers, if the path still leads anywhere.
-/

import RecordRegistry.Proofs.File.Sharing
import RecordRegistry.Proofs.Generation.Registering

namespace RecordRegistry

open FileSystem Replacement

namespace Package

variable {files : FileSystem} {here location : Location} {directory path : FilePath}
  {excluded : Option Location} {name : Bytes} {unit : SourceUnit}

/-- A path that ends like those of temporary files is not that of a source. -/
theorem isSourcePath_of_hidden (proper : IsFileName name) (hidden : temporaryStem <+: name)
    (last : path.pieces.getLast? = some name) : isSourcePath path = false := by
  obtain ⟨outer, cut⟩ := List.getLast?_eq_some_iff.mp last
  have said : path.spoken = (outer.filter fun piece => !FilePath.isSilent piece) ++ [name] := by
    rw [FilePath.spoken, cut, List.filter_append,
      List.filter_cons_of_pos (by simp [proper.spoken]), List.filter_nil]
  have dotted : name.head? = some FilePath.dot := by
    obtain ⟨rest, rfl⟩ := hidden
    rfl
  simp [isSourcePath, FilePath.fileName?_eq said proper.notParent, dotted]

end Package

namespace Replacement

variable {Writer : Type*} [DecidableEq Writer] {here : Location} {path : FilePath}
  {content : Writer → Bytes} {before files : FileSystem} {stages : Writer → ReplacementStage}

/-- What readers and scans come across at one moment, while several writers replace a file. -/
structure Unbroken (here : Location) (path : FilePath) (content : Writer → Bytes)
    (before files : FileSystem) (stages : Writer → ReplacementStage) : Prop where
  /-- What is read is a file that has been there before, or all of the content of a writer. -/
  read : ∀ bytes, files.read here path = .ok bytes →
    (∃ place mode, files.find here path = .ok (place, .file mode bytes) ∧
      before.node? place = some (.file mode bytes)) ∨ ∃ writer, bytes = content writer
  /-- Where something has been read before, it is read still, or a content is. -/
  readable : ∀ bytes, before.read here path = .ok bytes →
    files.read here path = .ok bytes ∨ ∃ writer, files.read here path = .ok (content writer)
  /-- When all writers have succeeded, a file has the content of one of them, and nothing else is
  read. -/
  done : Nonempty Writer → (∀ writer, ∃ outcome, stages writer = .finished (.ok outcome)) →
    ∃ writer, (∃ place mode, files.node? place = some (.file mode (content writer))) ∧
      Readable ⟨here, path, content writer⟩ before files
  /-- A path of a source leads to no temporary file, nor to a part of a content. -/
  source : ∀ elsewhere asked place mode bytes, Package.isSourcePath asked = true →
    files.find elsewhere asked = .ok (place, .file mode bytes) →
    (∀ writer, (stages writer).temporary? ≠ some place) ∧
      (before.node? place = some (.file mode bytes) ∨ ∃ writer, bytes = content writer)
  /-- A scan visits one entry after the other.  A visit that comes to a unit now has read it from
  such a path. -/
  visit : ∀ elsewhere directory location excluded name unit,
    Package.visit files elsewhere directory location excluded name = .source unit →
    Package.isSourcePath unit.path = true ∧ ∃ place mode bytes text,
      files.find elsewhere unit.path = .ok (place, .file mode bytes) ∧
      Utf8.decode? bytes = some text ∧ SourceFile.parse text = .ok unit.source ∧
      ∀ writer, (stages writer).temporary? ≠ some place

/-- Several writers replace the file under one path, each with a content of its own and in any
order; some of them may stop anywhere.  At no moment does a reader get anything but what has been
there before or the content of one of the writers, and at no moment does a scan come across a
temporary file. -/
theorem unbroken_of_reachable (tree : before.IsTree)
    (reachable : Reachable here path content before files stages) :
    Unbroken here path content before files stages := by
  have shared := shared_of_reachable tree reachable
  have source : ∀ elsewhere asked place mode bytes, Package.isSourcePath asked = true →
      files.find elsewhere asked = .ok (place, .file mode bytes) →
      (∀ writer, (stages writer).temporary? ≠ some place) ∧
        (before.node? place = some (.file mode bytes) ∨ ∃ writer, bytes = content writer) := by
    intro elsewhere asked place mode bytes isSource found
    obtain ⟨located, stored⟩ := find_eq_ok_iff.mp found
    have other : ∀ writer, (stages writer).temporary? ≠ some place := by
      intro writer own
      obtain ⟨name, unspoken, proper, last⟩ := shared.getLast?_of_locate own located
      rw [Package.isSourcePath_of_hidden proper unspoken.hidden last] at isSource
      simp at isSource
    exact ⟨other, shared.whole stored other⟩
  refine ⟨fun bytes read => ?_, fun bytes read => shared.read_of_read read,
    fun some done => shared.readable done, source, ?_⟩
  · obtain ⟨place, mode, found⟩ := read_eq_ok_iff.mp read
    obtain ⟨located, stored⟩ := find_eq_ok_iff.mp found
    exact (shared.whole stored fun writer => shared.ne_temporary_of_locate located).imp_left
      fun same => ⟨place, mode, found, same⟩
  · intro elsewhere directory location excluded name unit visited
    obtain ⟨isSource, success⟩ := Package.readUnit_of_visit visited
    obtain ⟨stem, place, mode, bytes, text, parsed, -, found, decoded, accepted, same⟩ :=
      Package.readUnit_eq_ok_iff.mp success
    rw [same] at found isSource ⊢
    exact ⟨isSource, place, mode, bytes, text, found, decoded, accepted,
      (source _ _ _ _ _ isSource found).1⟩

/-- An output among the sources of the small package. -/
def sharedOutput : FilePath := .ofString "src/models.rs"

/-- The contents of two writers. -/
def sharedContent (second : Bool) : Bytes :=
  Utf8.encode (if second then "pub struct Second;\n" else "pub struct First;\n")

/-- The temporary file of the first writer, half filled. -/
def halfFiles : FileSystem :=
  Generator.smallFiles.put [Utf8.encode ".tmp1", Generator.smallNames.1]
    (.file temporaryMode (Utf8.encode "pub str"))

theorem isFresh_smallFiles :
    IsFresh Generator.smallFiles sharedOutput (Utf8.encode ".tmp1") [Generator.smallNames.1] where
  hidden := by decide
  unasked := by decide
  unlinked location target isLink := by
    rw [Generator.smallFiles, node?_put (List.cons_ne_nil _ _), node?_put (List.cons_ne_nil _ _),
      node?_empty] at isLink
    split at isLink
    · simp at isLink
    · split at isLink
      · simp at isLink
      · split at isLink <;> simp at isLink
  proper := by decide
  absent := by decide

/-- While the first writer has filled half of its temporary file, in the directory of the sources,
and the second one has not got beyond its first look, nothing can be read of the output, and the
scan sees only the file that has been there. -/
theorem unbroken_of_reachable_halfFiles :
    Generator.smallFiles.IsTree ∧
      ∃ stages : Bool → ReplacementStage,
        Reachable [] sharedOutput sharedContent Generator.smallFiles halfFiles stages ∧
        stages false = .fill [Utf8.encode ".tmp1", Generator.smallNames.1] ∧
        stages true = .makeParents ∧
        Unbroken [] sharedOutput sharedContent Generator.smallFiles halfFiles stages := by
  have begun : Reachable [] sharedOutput sharedContent Generator.smallFiles
      Generator.smallFiles _ := .start
  have looked := begun.step false (by simp)
    (show _ = (Generator.smallFiles, .makeParents) by cbv)
  have bothLooked := looked.step true (by simp)
    (show _ = (Generator.smallFiles, .makeParents) by cbv)
  have inParent := bothLooked.step false (by simp)
    (show _ = (Generator.smallFiles, .makeTemporary) by cbv)
  have parent : Generator.smallFiles.find []
      (Replacement.mk [] sharedOutput (sharedContent false)).parent =
        .ok ([Generator.smallNames.1], .directory directoryMode) := by
    decide +kernel
  have made := inParent.move false (.temporary parent isFresh_smallFiles)
  have half := made.move false (.somePart _ (Utf8.encode "pub str") (by decide +kernel))
  rw [show refill _ _ _ = halfFiles by cbv] at half
  exact ⟨Generator.isTree_smallFiles, _, half, rfl, rfl,
    unbroken_of_reachable Generator.isTree_smallFiles half⟩

theorem isFresh_linkFiles :
    IsFresh Generator.linkFiles Generator.linkGenerator.output (Utf8.encode ".tmp1") [] where
  hidden := by decide
  unasked := by decide
  unlinked location target isLink := by
    rw [Generator.linkFiles, node?_put (List.cons_ne_nil _ _)] at isLink
    split at isLink
    · obtain rfl := FileNode.link.inj (Option.some.inj isLink)
      decide
    · exact isFresh_smallFiles.unlinked _ _ isLink
  proper := isFresh_smallFiles.proper
  absent := by decide

/-- A single writer that succeeds may leave nothing to be read, if its path leads through the link
that its file takes the place of. -/
theorem unreadable_of_reachable_linkFiles :
    Generator.linkFiles.IsTree ∧
      ∃ (files : FileSystem) (stages : Unit → ReplacementStage),
        Reachable [] Generator.linkGenerator.output (fun _ => sharedContent false)
          Generator.linkFiles files stages ∧
        (∀ writer, stages writer = .finished (.ok .written)) ∧
        files.read [] Generator.linkGenerator.output = .error .notDirectory := by
  have begun : Reachable [] Generator.linkGenerator.output (fun _ : Unit => sharedContent false)
      Generator.linkFiles Generator.linkFiles _ := .start
  have looked := begun.step () (by simp) (show _ = (Generator.linkFiles, .makeParents) by cbv)
  have inParent := looked.step () (by simp)
    (show _ = (Generator.linkFiles, .makeTemporary) by cbv)
  have parent : Generator.linkFiles.find []
      (Replacement.mk [] Generator.linkGenerator.output (sharedContent false)).parent =
        .ok ([], .directory directoryMode) := by
    decide +kernel
  have made := inParent.move () (.temporary parent isFresh_linkFiles)
  have filled := made.step () (by simp) (show _ = (_, .flush [Utf8.encode ".tmp1"]) by cbv)
  have flushed := filled.step () (by simp) (show _ = (_, .setMode [Utf8.encode ".tmp1"]) by cbv)
  have moded := flushed.step () (by simp) (show _ = (_, .rename [Utf8.encode ".tmp1"]) by cbv)
  have renamed := moded.step () (by simp) (show _ = (_, .finished (.ok .written)) by cbv)
  exact ⟨Generator.isTree_linkFiles, _, _, renamed, fun _ => rfl, by cbv⟩

end Replacement

end RecordRegistry
