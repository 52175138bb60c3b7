/-
# How far a replacement comes

A replacement goes through its stages one access at a time, and the system may refuse any of these
accesses.  `Reached` says what the file system is at each stage, compared with what it was at the
start: at most parents of the file have been made, and while there is a temporary file it is the
only other thing that has come.  Every step keeps this, refused or not, and so does every run.
-/

import RecordRegistry.File.Replacement
import RecordRegistry.Proofs.File.Making

namespace RecordRegistry

namespace FileSystem

variable {files : FileSystem} {location : Location} {first second node : FileNode}

theorem erase_put (absent : files.node? location = none) (named : location ≠ []) :
    (files.put location node).erase location = files := by
  have unlisted : ∀ entry ∈ files.nodes, entry.1 ≠ location := by
    rintro ⟨place, found⟩ stored rfl
    rw [node?_of_ne_nil named, List.lookup_eq_none_iff] at absent
    simpa using absent _ stored
  have untouched : (files.nodes.filter fun entry => decide (entry.1 ≠ location)) = files.nodes :=
    List.filter_eq_self.mpr fun entry stored => by simpa using unlisted entry stored
  simp only [put, erase, ne_eq, List.filter_filter, List.filter_cons, decide_not] at untouched ⊢
  simp [untouched]

theorem put_put : (files.put location first).put location second = files.put location second := by
  simp [put, erase]

/-- A file beside everything else changes neither directories nor links. -/
theorem extends_put_file {mode : Nat} {content : Bytes} (named : location ≠ [])
    (notDirectory : ¬ files.HoldsDirectory location)
    (notLink : ∀ target, files.node? location ≠ some (.link target)) :
    files.Extends (files.put location (.file mode content)) := by
  constructor
  · intro place held isDirectory
    rw [node?_put_of_ne named]
    · exact isDirectory
    · rintro rfl
      exact notDirectory ⟨held, isDirectory⟩
  · intro place target
    rw [node?_put named]
    split
    · next same =>
        subst same
        simpa using notLink target
    · rfl

/-- Nor do they miss such a file once it is gone. -/
theorem put_file_extends {mode : Nat} {content : Bytes} (named : location ≠ [])
    (notLink : ∀ target, files.node? location ≠ some (.link target)) :
    (files.put location (.file mode content)).Extends files := by
  constructor
  · intro place held isDirectory
    rw [node?_put named] at isDirectory
    split at isDirectory
    · simp at isDirectory
    · exact isDirectory
  · intro place target
    rw [node?_put named]
    split
    · next same =>
        subst same
        simpa using notLink target
    · rfl

end FileSystem

namespace Replacement

variable {replacement : Replacement} {before files next final : FileSystem}
  {stage later last : ReplacementStage}

/-- What is left, and what comes next, if the system refuses an access.  A file that cannot be read
counts as one with other content.  Of the directories some may have been made.  A temporary file
that is given up is deleted. -/
inductive Refused (replacement : Replacement) (files : FileSystem) :
    ReplacementStage → FileSystem → ReplacementStage → Prop
  | compare : Refused replacement files .compare files .makeParents
  | makeParents (outer : List FilePath) (fault : FileFault)
      (some : outer <:+ replacement.parent.ancestors) :
      Refused replacement files .makeParents (files.makeFrom replacement.here outer).1
        (.finished (.error ⟨replacement.parent, fault⟩))
  | makeTemporary (fault : FileFault) :
      Refused replacement files .makeTemporary files (replacement.failed fault)
  | fill (temporary : Location) (fault : FileFault) :
      Refused replacement files (.fill temporary) (files.erase temporary) (replacement.failed fault)
  | flush (temporary : Location) (fault : FileFault) :
      Refused replacement files (.flush temporary) (files.erase temporary)
        (replacement.failed fault)
  | setMode (temporary : Location) (fault : FileFault) :
      Refused replacement files (.setMode temporary) (files.erase temporary)
        (replacement.failed fault)
  | rename (temporary : Location) (fault : FileFault) :
      Refused replacement files (.rename temporary) (files.erase temporary)
        (replacement.failed fault)

/-- The replacement proceeds from one stage to another, any of its accesses being refused. -/
inductive Proceeds (replacement : Replacement) :
    FileSystem → ReplacementStage → FileSystem → ReplacementStage → Prop
  | rest (files : FileSystem) (stage : ReplacementStage) :
      Proceeds replacement files stage files stage
  | step {files final : FileSystem} {stage last : ReplacementStage}
      (onward : Proceeds replacement (replacement.step files stage).1
        (replacement.step files stage).2 final last) :
      Proceeds replacement files stage final last
  | refused {files next final : FileSystem} {stage later last : ReplacementStage}
      (refused : Refused replacement files stage next later)
      (onward : Proceeds replacement next later final last) :
      Proceeds replacement files stage final last

/-- The parents of the file have been made where they were missing, and the directory of the file is
found. -/
structure Prepared (replacement : Replacement) (before made : FileSystem) (directory : Location) :
    Prop where
  parents : before.makeDirectories replacement.here replacement.parent = (made, .ok ())
  found : ∃ mode, made.find replacement.here replacement.parent =
    .ok (directory, .directory mode)

theorem grows_of_parents {made : FileSystem} {result : Except FileFault Unit}
    (parents : before.makeDirectories replacement.here replacement.parent = (made, result)) :
    before.Grows replacement.here replacement.parent.ancestors made := by
  have grown := FileSystem.grows_makeDirectories before replacement.here replacement.parent
  rwa [parents] at grown

/-- What the file system is at a stage, given what it was before the replacement. -/
inductive Reached (replacement : Replacement) (before : FileSystem) :
    FileSystem → ReplacementStage → Prop
  | compare : Reached replacement before before .compare
  | makeParents : Reached replacement before before .makeParents
  | makeTemporary {made : FileSystem}
      (parents : before.makeDirectories replacement.here replacement.parent = (made, .ok ())) :
      Reached replacement before made .makeTemporary
  | fill {made : FileSystem} {name : Bytes} {directory : Location} {mode : Nat} {content : Bytes}
      (prepared : replacement.Prepared before made directory)
      (absent : made.node? (name :: directory) = none) :
      Reached replacement before (made.put (name :: directory) (.file mode content))
        (.fill (name :: directory))
  | flush {made : FileSystem} {name : Bytes} {directory : Location} {mode : Nat}
      (prepared : replacement.Prepared before made directory)
      (absent : made.node? (name :: directory) = none) :
      Reached replacement before (made.put (name :: directory) (.file mode replacement.content))
        (.flush (name :: directory))
  | setMode {made : FileSystem} {name : Bytes} {directory : Location} {mode : Nat}
      (prepared : replacement.Prepared before made directory)
      (absent : made.node? (name :: directory) = none) :
      Reached replacement before (made.put (name :: directory) (.file mode replacement.content))
        (.setMode (name :: directory))
  | rename {made : FileSystem} {name : Bytes} {directory : Location} {mode : Nat}
      (prepared : replacement.Prepared before made directory)
      (absent : made.node? (name :: directory) = none) :
      Reached replacement before (made.put (name :: directory) (.file mode replacement.content))
        (.rename (name :: directory))
  | failed {made : FileSystem} {failure : WriteFailure}
      (grown : before.Grows replacement.here replacement.parent.ancestors made) :
      Reached replacement before made (.finished (.error failure))
  | unchanged (held : before.read replacement.here replacement.path = .ok replacement.content) :
      Reached replacement before before (.finished (.ok .unchanged))
  | written {made : FileSystem} {place directory : Location} {name : Bytes} {mode : Nat}
      (prepared : replacement.Prepared before made place)
      (ends : made.EndsAt replacement.here replacement.path directory name false)
      (notDirectory : ¬ made.HoldsDirectory (name :: directory)) :
      Reached replacement before (made.put (name :: directory) (.file mode replacement.content))
        (.finished (.ok .written))

/-- A name longer than all the others is not one of them. -/
theorem freshName_notMem (names : List Bytes) : freshName names ∉ names := by
  intro member
  have bound : ∀ (lengths : List Nat) (least : Nat), least ≤ lengths.foldl max least ∧
      ∀ length ∈ lengths, length ≤ lengths.foldl max least := by
    intro lengths
    induction lengths with
    | nil => simp
    | cons length rest ih =>
        intro least
        obtain ⟨atLeast, all⟩ := ih (max least length)
        rw [List.foldl_cons]
        refine ⟨by omega, fun other inside => ?_⟩
        obtain rfl | inside := List.mem_cons.mp inside
        · omega
        · exact all other inside
  have long := (bound (names.map List.length) 0).2 _ (List.mem_map_of_mem member)
  have stem : 0 < temporaryStem.length := by decide
  simp only [freshName, List.length_append, List.length_replicate] at long
  omega

theorem node?_freshLocation (files : FileSystem) (path : FilePath) (directory : Location) :
    files.node? (freshLocation files path directory) = none := by
  have unnamed := mt (List.mem_append_left (spokenNames files path))
    (freshName_notMem (files.names directory ++ spokenNames files path))
  rw [FileSystem.mem_names] at unnamed
  exact Classical.not_not.mp unnamed

/-- Giving up the temporary file leaves what there was without it. -/
private theorem reached_failed {made : FileSystem} {name : Bytes} {directory : Location}
    {node : FileNode} (fault : FileFault)
    (prepared : replacement.Prepared before made directory)
    (absent : made.node? (name :: directory) = none) :
    Reached replacement before
      ((made.put (name :: directory) node).erase (name :: directory)) (replacement.failed fault) := by
  rw [FileSystem.erase_put absent (List.cons_ne_nil _ _)]
  exact .failed (grows_of_parents prepared.parents)

/-- Renaming the temporary file puts it in the place of the file, or leaves what there was. -/
private theorem reached_rename {made : FileSystem} {name : Bytes} {directory : Location} {mode : Nat}
    (prepared : replacement.Prepared before made directory)
    (absent : made.node? (name :: directory) = none) :
    Reached replacement before
      (replacement.step (made.put (name :: directory) (.file mode replacement.content))
        (.rename (name :: directory))).1
      (replacement.step (made.put (name :: directory) (.file mode replacement.content))
        (.rename (name :: directory))).2 := by
  have named : name :: directory ≠ [] := List.cons_ne_nil _ _
  simp only [step]
  split
  · next renamed success =>
      obtain ⟨place, last, node, ends, stored, notDirectory, rfl⟩ :=
        FileSystem.exists_of_rename success
      rw [FileSystem.node?_put_self named] at stored
      obtain rfl := Option.some.inj stored
      rw [FileSystem.erase_put absent named]
      refine .written prepared (ends.grow ?_) (mt ?_ notDirectory)
      · exact FileSystem.put_file_extends named (by simp [absent])
      · intro isDirectory
        refine (FileSystem.holdsDirectory_put named isDirectory).mpr (.inl ?_)
        rintro same
        exact isDirectory.present (same ▸ absent)
  · next fault failure => exact reached_failed fault prepared absent

/-- A file that has been put somewhere is filled there. -/
theorem refill_put {location : Location} {mode : Nat} {old new : Bytes} (named : location ≠ []) :
    refill (before.put location (.file mode old)) location new =
      before.put location (.file mode new) := by
  rw [refill, FileSystem.node?_put_self named]
  exact FileSystem.put_put

theorem remode_put {location : Location} {old new : Nat} {content : Bytes}
    (named : location ≠ []) :
    remode (before.put location (.file old content)) location new =
      before.put location (.file new content) := by
  rw [remode, FileSystem.node?_put_self named]
  exact FileSystem.put_put

/-- One access keeps what has been reached. -/
theorem Reached.step (reached : replacement.Reached before files stage) :
    replacement.Reached before (replacement.step files stage).1
      (replacement.step files stage).2 := by
  cases reached with
  | compare =>
      simp only [Replacement.step]
      split
      · next content found =>
          split
          · next same => exact .unchanged (same ▸ found)
          · exact .makeParents
      · exact .makeParents
  | makeParents =>
      simp only [Replacement.step]
      split
      · next made finished => exact .makeTemporary finished
      · next made fault stopped => exact .failed (grows_of_parents stopped)
  | makeTemporary parents =>
      simp only [Replacement.step]
      split
      · next directory mode found =>
          exact .fill ⟨parents, mode, found⟩ (node?_freshLocation files _ directory)
      · exact .failed (grows_of_parents parents)
      · exact .failed (grows_of_parents parents)
  | fill prepared absent =>
      rw [Replacement.step, refill_put (List.cons_ne_nil _ _)]
      exact .flush prepared absent
  | flush prepared absent => exact .setMode prepared absent
  | setMode prepared absent =>
      rw [Replacement.step, remode_put (List.cons_ne_nil _ _)]
      exact .rename prepared absent
  | rename prepared absent => exact reached_rename prepared absent
  | failed grown => exact .failed grown
  | unchanged held => exact .unchanged held
  | written prepared ends notDirectory => exact .written prepared ends notDirectory

/-- So does one access that is refused. -/
theorem Reached.refused (reached : replacement.Reached before files stage)
    (refused : Refused replacement files stage next later) :
    replacement.Reached before next later := by
  cases refused with
  | compare =>
      cases reached
      exact .makeParents
  | makeParents outer fault some =>
      cases reached
      exact .failed ((FileSystem.grows_makeFrom _ _ outer).mono fun _ inside => some.subset inside)
  | makeTemporary fault =>
      cases reached with
      | makeTemporary parents => exact .failed (grows_of_parents parents)
  | fill temporary fault =>
      cases reached with
      | fill prepared absent => exact reached_failed fault prepared absent
  | flush temporary fault =>
      cases reached with
      | flush prepared absent => exact reached_failed fault prepared absent
  | setMode temporary fault =>
      cases reached with
      | setMode prepared absent => exact reached_failed fault prepared absent
  | rename temporary fault =>
      cases reached with
      | rename prepared absent => exact reached_failed fault prepared absent

/-- And so does every run. -/
theorem Reached.proceeds (reached : replacement.Reached before files stage)
    (proceeds : replacement.Proceeds files stage final last) :
    replacement.Reached before final last := by
  induction proceeds with
  | rest => exact reached
  | step _ ih => exact ih reached.step
  | refused refused _ ih => exact ih (reached.refused refused)

theorem finish_finished (replacement : Replacement) (files : FileSystem)
    (result : Except WriteFailure WriteOutcome) :
    replacement.finish files (.finished result) = (files, result) := by
  rw [finish]

theorem finish_step (unfinished : stage.remaining ≠ 0) :
    replacement.finish files stage =
      replacement.finish (replacement.step files stage).1 (replacement.step files stage).2 := by
  cases stage with
  | finished => simp [ReplacementStage.remaining] at unfinished
  | _ => rw [finish]

/-- Going through the remaining steps is one way to proceed.  The induction is on the number of
steps that may still follow. -/
theorem proceeds_finish (replacement : Replacement) (files : FileSystem)
    (stage : ReplacementStage) :
    replacement.Proceeds files stage (replacement.finish files stage).1
      (.finished (replacement.finish files stage).2) := by
  by_cases unfinished : stage.remaining ≠ 0
  · have fewer := remaining_step_lt replacement files stage unfinished
    have onward := proceeds_finish replacement (replacement.step files stage).1
      (replacement.step files stage).2
    rw [finish_step unfinished]
    exact .step onward
  · cases stage with
    | finished result =>
        rw [finish_finished]
        exact .rest files _
    | _ => simp [ReplacementStage.remaining] at unfinished
termination_by stage.remaining

theorem proceeds_run (replacement : Replacement) (files : FileSystem) :
    replacement.Proceeds files .compare (replacement.run files).1
      (.finished (replacement.run files).2) :=
  proceeds_finish replacement files .compare

/-- What the run without refusals reaches. -/
theorem reached_run (replacement : Replacement) (files : FileSystem) :
    replacement.Reached files (replacement.run files).1 (.finished (replacement.run files).2) :=
  Reached.compare.proceeds (proceeds_run replacement files)

/-- A run that finds the content there changes nothing. -/
theorem run_of_read
    (held : before.read replacement.here replacement.path = .ok replacement.content) :
    replacement.run before = (before, .ok .unchanged) := by
  rw [run, finish]
  simp [step, held, finish_finished]

end Replacement

end RecordRegistry
