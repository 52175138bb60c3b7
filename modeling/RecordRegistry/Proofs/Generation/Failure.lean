/-
# Failed generations

A generation that fails leaves every file, link and mode as it was, whichever of its accesses the
system has refused, and leaves no file of its own behind.  The directories on the way to the output
are all that may have come.
-/

import RecordRegistry.Proofs.File.Replacing
import RecordRegistry.Proofs.Generation.Running

namespace RecordRegistry

namespace FileSystem

/-- Nothing but directories on the way to a path has come: what was there is as it was, and a new
directory holds nothing but directories. -/
structure OnlyParentsMade (here : Location) (path : FilePath) (before after : FileSystem) : Prop where
  kept : ∀ location node, before.node? location = some node → after.node? location = some node
  made : ∀ location, before.node? location = none → after.node? location ≠ none →
    ∃ outer ∈ path.directory.ancestors,
      after.locate here outer true = .ok location ∧ after.HoldsDirectory location
  fileFree : ∀ location, before.node? location = none → ∀ way node,
    after.node? (way ++ location) = some node → node = .directory directoryMode

theorem Grows.onlyParentsMade {here : Location} {path : FilePath} {before after : FileSystem}
    (tree : before.IsTree) (grown : before.Grows here path.directory.ancestors after) :
    before.OnlyParentsMade here path after where
  kept := grown.kept
  made location absent present := by
    obtain ⟨node, present⟩ := Option.ne_none_iff_exists'.mp present
    obtain ⟨rfl, outer, asked, leads⟩ := grown.made location node absent present
    exact ⟨outer, asked, leads, _, present⟩
  fileFree location absent way node present := by
    have nothing : before.node? (way ++ location) = none := by
      cases way with
      | nil => exact absent
      | cons inner way => exact tree.nothing_under (fun inside => inside.present absent) inner way
    exact (grown.made _ node nothing present).1

end FileSystem

namespace Generator

/-- How a generation may end if the system may refuse any access.  A refusal while the sources are
looked at ends it; a refusal while the output is replaced is up to the replacement. -/
inductive MayEnd (generator : Generator) (files : FileSystem) (here : Location) :
    FileSystem → Except GenerationError Report → Prop
  | unread (path : FilePath) (cause : ReadFailure) :
      MayEnd generator files here files (.error (.unreadable path cause))
  | unprepared {error : GenerationError} (refused : generator.prepare files here = .error error) :
      MayEnd generator files here files (.error error)
  | unwritten {plan : Plan} {text : String} {changed : FileSystem} {failure : WriteFailure}
      (prepared : generator.prepare files here = .ok (plan, text))
      (proceeds : (Replacement.mk here generator.output (Utf8.encode text)).Proceeds files .compare
        changed (.finished (.error failure))) :
      MayEnd generator files here changed (.error (.unwritable failure))
  | replaced {plan : Plan} {text : String} {changed : FileSystem} {outcome : WriteOutcome}
      (prepared : generator.prepare files here = .ok (plan, text))
      (proceeds : (Replacement.mk here generator.output (Utf8.encode text)).Proceeds files .compare
        changed (.finished (.ok outcome))) :
      MayEnd generator files here changed
        (.ok ⟨generator.output, plan.files.length, plan.declarations.length, plan.entries, outcome⟩)

variable {generator : Generator} {files changed : FileSystem} {here : Location}

/-- The run without refusals ends as it may. -/
theorem mayEnd_run (generator : Generator) (files : FileSystem) (here : Location) :
    generator.MayEnd files here (generator.run files here).1 (generator.run files here).2 := by
  unfold run
  split
  · next error refused => exact .unprepared refused
  · next plan text prepared =>
      have proceeds :=
        (Replacement.mk here generator.output (Utf8.encode text)).proceeds_run files
      split
      · next changed failure ended =>
          rw [ended] at proceeds
          exact .unwritten prepared proceeds
      · next changed outcome ended =>
          rw [ended] at proceeds
          exact .replaced prepared proceeds

/-- A failed generation changes no file: whatever was there is as it was, and besides it there are
only new directories on the way to the output, without a file in them.  This holds of every way in
which the generation may fail, the run without refusals among them. -/
theorem onlyParentsMade_of_failure (tree : files.IsTree) :
    generator.MayEnd files here (generator.run files here).1 (generator.run files here).2 ∧
      ∀ changed error, generator.MayEnd files here changed (.error error) →
        files.OnlyParentsMade here generator.output changed := by
  refine ⟨mayEnd_run generator files here, fun changed error ended => ?_⟩
  cases ended with
  | unread path cause => exact (FileSystem.Grows.refl files).onlyParentsMade tree
  | unprepared refused => exact (FileSystem.Grows.refl files).onlyParentsMade tree
  | unwritten prepared proceeds =>
      cases Replacement.Reached.compare.proceeds proceeds with
      | failed grown => exact grown.onlyParentsMade tree

/-- A run that fails when its temporary file should take the place of a directory, after a directory
on the way has been made. -/
theorem onlyParentsMade_blockedGenerator :
    smallFiles.IsTree ∧
      ∃ changed error, blockedGenerator.run smallFiles [] = (changed, .error error) ∧
        blockedGenerator.MayEnd smallFiles [] changed (.error error) ∧
        changed.HoldsDirectory [Utf8.encode "gen"] ∧
        smallFiles.OnlyParentsMade [] blockedGenerator.output changed := by
  obtain ⟨plan, text, prepared⟩ := exists_prepare_blockedGenerator
  obtain ⟨changed, failure, replaced, made⟩ := run_blockedOutput (Utf8.encode text)
  have ended : blockedGenerator.run smallFiles [] = (changed, .error (.unwritable failure)) := by
    rw [run, prepared]
    simp only [replaced]
  have may := mayEnd_run blockedGenerator smallFiles []
  rw [ended] at may
  exact ⟨isTree_smallFiles, changed, _, ended, may, made,
    (onlyParentsMade_of_failure isTree_smallFiles).2 changed _ may⟩

end Generator

end RecordRegistry
