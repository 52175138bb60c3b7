/-
# Several replacements side by side

Several writers replace the file under one path, each with a content of its own.  One of them moves
at a time, by one access to the file system.  A writer that is stopped never moves again, and
whatever it has made stays.  The names of temporary files are taken to be fresh: nothing has them,
and neither the path nor any link speaks of them.  What one move changes is said here location by
location.
-/

import Mathlib.Logic.Function.Basic
import RecordRegistry.Proofs.File.Replacing

namespace RecordRegistry

namespace ReplacementStage

/-- The temporary file that is there at a stage. -/
def temporary? : ReplacementStage → Option Location
  | .fill temporary | .flush temporary | .setMode temporary | .rename temporary => some temporary
  | .compare | .makeParents | .makeTemporary | .finished _ => none

/-- Whether the temporary file has all of the content. -/
def isFilled : ReplacementStage → Bool
  | .flush _ | .setMode _ | .rename _ => true
  | _ => false

/-- Whether nothing has been changed at a stage, nor is to be changed without another look. -/
def isQuiet : ReplacementStage → Bool
  | .compare | .finished (.ok .unchanged) => true
  | _ => false

end ReplacementStage

namespace Replacement

open FileSystem

variable {replacement : Replacement} {files next made : FileSystem} {stage later : ReplacementStage}
  {location temporary directory : Location} {name : Bytes} {path : FilePath}

/-- A name like those of temporary files that neither a path nor any link speaks of. -/
structure IsUnspoken (files : FileSystem) (path : FilePath) (name : Bytes) : Prop where
  hidden : temporaryStem <+: name
  unasked : name ∉ path.pieces
  unlinked : ∀ location target, files.node? location = some (.link target) → name ∉ target.pieces

/-- A name that a new temporary file can have in a directory. -/
structure IsFresh (files : FileSystem) (path : FilePath) (name : Bytes) (directory : Location) :
    Prop extends IsUnspoken files path name where
  proper : IsFileName name
  absent : files.node? (name :: directory) = none

/-- What one access of a writer leaves, and what comes next.  Temporary files get any fresh name.
Parents can be made one after the other, and the content can come in parts, so that others see what
has been made in between.  Every access can be refused. -/
inductive Advances (replacement : Replacement) (files : FileSystem) :
    ReplacementStage → FileSystem → ReplacementStage → Prop
  | step (stage : ReplacementStage) (other : stage ≠ .makeTemporary) :
      Advances replacement files stage (replacement.step files stage).1
        (replacement.step files stage).2
  | temporary {name : Bytes} {directory : Location} {mode : Nat}
      (found : files.find replacement.here replacement.parent = .ok (directory, .directory mode))
      (fresh : IsFresh files replacement.path name directory) :
      Advances replacement files .makeTemporary
        (files.put (name :: directory) (.file temporaryMode [])) (.fill (name :: directory))
  | someParents (outer : List FilePath) (some : outer <:+ replacement.parent.ancestors) :
      Advances replacement files .makeParents (files.makeFrom replacement.here outer).1 .makeParents
  | somePart (temporary : Location) (part : Bytes) (begun : part <+: replacement.content) :
      Advances replacement files (.fill temporary) (refill files temporary part) (.fill temporary)
  | refused {stage later : ReplacementStage} {next : FileSystem}
      (refused : Refused replacement files stage next later) :
      Advances replacement files stage next later

/-- What several writers can reach from a file system, in whatever order they move. -/
inductive Reachable {Writer : Type*} [DecidableEq Writer] (here : Location) (path : FilePath)
    (content : Writer → Bytes) (before : FileSystem) :
    FileSystem → (Writer → ReplacementStage) → Prop
  | start : Reachable here path content before before fun _ => .compare
  | move {files next : FileSystem} {stages : Writer → ReplacementStage} {later : ReplacementStage}
      (writer : Writer) (reached : Reachable here path content before files stages)
      (advances : Advances ⟨here, path, content writer⟩ files (stages writer) next later) :
      Reachable here path content before next (Function.update stages writer later)

/-- A step of a writer, given what it comes to. -/
theorem Reachable.step {Writer : Type*} [DecidableEq Writer] {here : Location}
    {content : Writer → Bytes} {before : FileSystem} {stages : Writer → ReplacementStage}
    (writer : Writer) (reached : Reachable here path content before files stages)
    (other : stages writer ≠ .makeTemporary)
    (comes : (Replacement.mk here path (content writer)).step files (stages writer) =
      (next, later)) :
    Reachable here path content before next (Function.update stages writer later) := by
  have advances : Advances ⟨here, path, content writer⟩ files (stages writer) _ _ := .step _ other
  rw [comes] at advances
  exact .move writer reached advances

/-- A temporary file is there, under a name that nothing speaks of.  Once it is filled, it has all
of the content. -/
structure IsTemporary (replacement : Replacement) (files : FileSystem) (stage : ReplacementStage)
    (temporary : Location) : Prop where
  file : ∃ mode bytes, files.node? temporary = some (.file mode bytes) ∧
    (stage.isFilled = true → bytes = replacement.content)
  unspoken : ∃ name directory, temporary = name :: directory ∧
    IsUnspoken files replacement.path name

/-- What a move changes at a location.  Other than the temporary file, and the file at the end of
the path, only directories come, and nothing goes. -/
inductive Change (replacement : Replacement) (files : FileSystem) (stage : ReplacementStage)
    (next : FileSystem) (later : ReplacementStage) (location : Location) : Prop
  | same (kept : next.node? location = files.node? location)
      (own : stage.temporary? = some location ↔ later.temporary? = some location)
      (filled : later.temporary? = some location → later.isFilled = true → stage.isFilled = true)
  | directory (absent : files.node? location = none)
      (made : next.node? location = some (.directory directoryMode))
      (other : later.temporary? ≠ some location)
  | created {name : Bytes} {directory : Location} {mode : Nat} {bytes : Bytes}
      (named : location = name :: directory) (fresh : IsFresh files replacement.path name directory)
      (own : later = .fill location) (stored : next.node? location = some (.file mode bytes))
  | rewritten {mode : Nat} {bytes : Bytes} (own : stage.temporary? = some location)
      (still : later.temporary? = some location)
      (stored : next.node? location = some (.file mode bytes))
      (whole : later.isFilled = true → bytes = replacement.content)
  | gone (own : stage.temporary? = some location) (free : later.temporary? = none)
      (absent : next.node? location = none)
  | placed {name : Bytes} {directory : Location} {mode : Nat}
      (finished : later = .finished (.ok .written)) (named : location = name :: directory)
      (ends : files.EndsAt replacement.here replacement.path directory name false)
      (notDirectory : ¬ files.HoldsDirectory location)
      (stored : next.node? location = some (.file mode replacement.content))

/-- What a move changes as a whole. -/
structure Effect (replacement : Replacement) (files : FileSystem) (stage : ReplacementStage)
    (next : FileSystem) (later : ReplacementStage) : Prop where
  change : ∀ location, Change replacement files stage next later location
  tree : next.IsTree
  quiet : later.isQuiet = true → next = files ∧ (later = stage ∨
    stage = .compare ∧ files.read replacement.here replacement.path = .ok replacement.content)
  written : later = .finished (.ok .written) → stage = later ∨ ∃ directory name mode,
    files.EndsAt replacement.here replacement.path directory name false ∧
      next.node? (name :: directory) = some (.file mode replacement.content)

namespace Effect

variable {paths : List FilePath}

/-- An access that changes nothing. -/
theorem idle (tree : files.IsTree) (own : later.temporary? = stage.temporary?)
    (filled : later.isFilled = true → stage.isFilled = true)
    (quiet : later.isQuiet = true → later = stage ∨
      stage = .compare ∧ files.read replacement.here replacement.path = .ok replacement.content)
    (written : later = .finished (.ok .written) → stage = later) :
    Effect replacement files stage files later where
  change _ := .same rfl (by rw [own]) fun _ => filled
  tree := tree
  quiet still := ⟨rfl, quiet still⟩
  written finished := .inl (written finished)

/-- An access that makes directories. -/
theorem grown (tree : files.IsTree) (grows : files.Grows replacement.here paths next)
    (free : stage.temporary? = none) (freeToo : later.temporary? = none)
    (loud : later.isQuiet = false) (unwritten : later ≠ .finished (.ok .written)) :
    Effect replacement files stage next later where
  change location := by
    cases stored : files.node? location with
    | some node =>
        exact .same ((grows.kept _ _ stored).trans stored.symm) (by simp [free, freeToo])
          (by simp [freeToo])
    | none =>
        cases come : next.node? location with
        | none =>
            exact .same (come.trans stored.symm) (by simp [free, freeToo]) (by simp [freeToo])
        | some node =>
            obtain ⟨rfl, -⟩ := grows.made _ _ stored come
            exact .directory stored come (by simp [freeToo])
  tree := grows.tree tree
  quiet still := by simp [loud] at still
  written finished := absurd finished unwritten

/-- The access that makes the temporary file. -/
theorem created (tree : files.IsTree) (inside : files.HoldsDirectory directory)
    (fresh : IsFresh files replacement.path name directory) {mode : Nat} {bytes : Bytes} :
    Effect replacement files .makeTemporary (files.put (name :: directory) (.file mode bytes))
      (.fill (name :: directory)) where
  change location := by
    have named := List.cons_ne_nil name directory
    by_cases same : location = name :: directory
    · subst same
      exact .created rfl fresh rfl (node?_put_self named)
    · have other : some (name :: directory) ≠ some location := by simpa using Ne.symm same
      exact .same (node?_put_of_ne named same) (by simpa [ReplacementStage.temporary?] using other)
        fun own => absurd own other
  tree := tree.put fresh.proper inside (.inr (tree.nothing_below fun held => held.present fresh.absent))
  quiet still := by simp [ReplacementStage.isQuiet] at still
  written finished := by simp at finished

/-- An access that writes to the temporary file. -/
theorem rewritten {mode : Nat} {bytes : Bytes} (tree : files.IsTree)
    (held : IsTemporary replacement files stage temporary)
    (own : stage.temporary? = some temporary) (still : later.temporary? = some temporary)
    (whole : later.isFilled = true → bytes = replacement.content) :
    Effect replacement files stage (files.put temporary (.file mode bytes)) later where
  change location := by
    obtain ⟨name, directory, rfl, -⟩ := held.unspoken
    have named := List.cons_ne_nil name directory
    by_cases same : location = name :: directory
    · subst same
      exact .rewritten own still (node?_put_self named) whole
    · refine .same (node?_put_of_ne named same) (by rw [own, still]) fun other => ?_
      rw [still, Option.some.injEq] at other
      exact absurd other.symm same
  tree := by
    obtain ⟨name, directory, rfl, -⟩ := held.unspoken
    obtain ⟨_, _, isFile, -⟩ := held.file
    exact tree.put (tree.isFileName isFile) (tree.inDirectory name directory (by simp [isFile]))
      (.inr (tree.nothing_below (not_holdsDirectory_of_file isFile)))
  quiet silent := by
    cases later <;> simp_all [ReplacementStage.temporary?, ReplacementStage.isQuiet]
  written finished := by
    subst finished
    simp [ReplacementStage.temporary?] at still

/-- An access after which the temporary file is given up. -/
theorem removed (tree : files.IsTree) (held : IsTemporary replacement files stage temporary)
    (own : stage.temporary? = some temporary) (fault : FileFault) :
    Effect replacement files stage (files.erase temporary) (replacement.failed fault) where
  change location := by
    obtain ⟨name, directory, rfl, -⟩ := held.unspoken
    have erased : (files.erase (name :: directory)).node? location = _ :=
      node?_erase (List.cons_ne_nil name directory)
    by_cases same : location = name :: directory
    · subst same
      exact .gone own rfl (by simpa using erased)
    · have other : stage.temporary? ≠ some location := by
        rw [own]
        simpa using Ne.symm same
      exact .same (by simpa [same] using erased) (by simpa [failed, ReplacementStage.temporary?])
        (by simp [failed, ReplacementStage.temporary?])
  tree := by
    obtain ⟨name, directory, rfl, -⟩ := held.unspoken
    obtain ⟨_, _, isFile, -⟩ := held.file
    exact tree.erase (List.cons_ne_nil _ _)
      (tree.nothing_below (not_holdsDirectory_of_file isFile))
  quiet silent := by simp [failed, ReplacementStage.isQuiet] at silent
  written finished := by simp [failed] at finished

/-- The access that lets the temporary file take its place. -/
theorem renamed {name : Bytes} {mode : Nat} (tree : files.IsTree)
    (held : IsTemporary replacement files stage temporary)
    (own : stage.temporary? = some temporary)
    (ends : files.EndsAt replacement.here replacement.path directory name false)
    (notDirectory : ¬ files.HoldsDirectory (name :: directory)) :
    Effect replacement files stage
      ((files.erase temporary).put (name :: directory) (.file mode replacement.content))
      (.finished (.ok .written)) := by
  obtain ⟨label, place, rfl, unspoken⟩ := held.unspoken
  obtain ⟨_, _, isFile, -⟩ := held.file
  have named := List.cons_ne_nil name directory
  have erased (location : Location) : (files.erase (label :: place)).node? location = _ :=
    node?_erase (List.cons_ne_nil label place)
  have apart : name :: directory ≠ label :: place := by
    intro same
    obtain ⟨rfl, -⟩ := List.cons.inj same
    exact unspoken.unasked ends.mem_pieces
  have noDirectory := not_holdsDirectory_of_file isFile
  have inside : (files.erase (label :: place)).HoldsDirectory directory := by
    rw [HoldsDirectory, erased, if_neg]
    · exact ends.inside
    · rintro rfl
      exact noDirectory ends.inside
  have without := tree.erase (List.cons_ne_nil label place) (tree.nothing_below noDirectory)
  refine ⟨fun location => ?_, ?_, ?_, fun _ => .inr ⟨_, _, mode, ends, node?_put_self named⟩⟩
  · by_cases target : location = name :: directory
    · subst target
      exact .placed rfl rfl ends notDirectory (node?_put_self named)
    · have stored : ((files.erase (label :: place)).put (name :: directory)
          (.file mode replacement.content)).node? location = _ :=
        (node?_put_of_ne named target).trans (erased location)
      by_cases same : location = label :: place
      · exact .gone (same ▸ own) rfl (by simpa [same] using stored)
      · refine .same (by simpa [same] using stored) ?_ (by simp [ReplacementStage.temporary?])
        rw [own]
        simpa [ReplacementStage.temporary?] using Ne.symm same
  · refine without.put ends.proper inside (.inr (without.nothing_below ?_))
    rwa [HoldsDirectory, erased, if_neg apart]
  · simp [ReplacementStage.isQuiet]

/-- No link comes. -/
theorem link (effect : Effect replacement files stage next later) (location : Location)
    (target : FilePath)
    (isLink : next.node? location = some (.link target)) :
    files.node? location = some (.link target) := by
  cases effect.change location with
  | same kept => rwa [← kept]
  | directory _ made => simp [made] at isLink
  | created _ _ _ stored => simp [stored] at isLink
  | rewritten _ _ stored => simp [stored] at isLink
  | gone _ _ absent => simp [absent] at isLink
  | placed _ _ _ _ stored => simp [stored] at isLink

theorem unspoken (effect : Effect replacement files stage next later)
    (unspoken : IsUnspoken files path name) :
    IsUnspoken next path name where
  hidden := unspoken.hidden
  unasked := unspoken.unasked
  unlinked location target isLink := unspoken.unlinked location target (effect.link _ _ isLink)

end Effect

/-- Filling the temporary file again, or for the first time. -/
private theorem effect_of_refill {bytes : Bytes} (tree : files.IsTree)
    (held : IsTemporary replacement files (.fill temporary) temporary)
    (still : later.temporary? = some temporary)
    (whole : later.isFilled = true → bytes = replacement.content) :
    Effect replacement files (.fill temporary) (refill files temporary bytes) later := by
  obtain ⟨mode, old, isFile, -⟩ := held.file
  simp only [refill, isFile]
  exact .rewritten tree held rfl still whole

/-- The steps of a writer, one by one. -/
private theorem effect_of_step (tree : files.IsTree) (other : stage ≠ .makeTemporary)
    (held : ∀ temporary, stage.temporary? = some temporary →
      IsTemporary replacement files stage temporary) :
    Effect replacement files stage (replacement.step files stage).1
      (replacement.step files stage).2 := by
  cases stage with
  | compare =>
      simp only [step]
      split
      · next content found =>
          split
          · next same =>
              exact .idle tree rfl id (fun _ => .inr ⟨rfl, same ▸ found⟩) (by simp)
          · exact .idle tree rfl id (by simp [ReplacementStage.isQuiet]) (by simp)
      · exact .idle tree rfl id (by simp [ReplacementStage.isQuiet]) (by simp)
  | makeParents =>
      simp only [step]
      split
      · next made finished => exact .grown tree (grows_of_parents finished) rfl rfl rfl (by simp)
      · next made fault stopped =>
          exact .grown tree (grows_of_parents stopped) rfl rfl rfl (by simp)
  | makeTemporary => exact absurd rfl other
  | fill temporary => exact effect_of_refill tree (held _ rfl) rfl fun _ => rfl
  | flush temporary =>
      exact .idle tree rfl id (by simp [step, ReplacementStage.isQuiet]) (by simp [step])
  | setMode temporary =>
      obtain ⟨mode, bytes, isFile, whole⟩ := (held _ rfl).file
      simp only [step, remode, isFile]
      exact .rewritten tree (held _ rfl) rfl rfl fun _ => whole rfl
  | rename temporary =>
      simp only [step]
      split
      · next renamed success =>
          obtain ⟨directory, name, node, ends, stored, notDirectory, rfl⟩ :=
            exists_of_rename success
          obtain ⟨mode, bytes, isFile, whole⟩ := (held _ rfl).file
          rw [isFile, Option.some.injEq] at stored
          subst stored
          rw [whole rfl]
          exact .renamed tree (held _ rfl) rfl ends notDirectory
      · next fault failure => exact .removed tree (held _ rfl) rfl fault
  | finished result => exact .idle tree rfl id (fun _ => .inl rfl) fun _ => rfl

/-- Whatever a writer's move is, its effect is one of these. -/
theorem effect_of_advances (tree : files.IsTree)
    (held : ∀ temporary, stage.temporary? = some temporary →
      IsTemporary replacement files stage temporary)
    (advances : Advances replacement files stage next later) :
    Effect replacement files stage next later := by
  cases advances with
  | step _ other => exact effect_of_step tree other held
  | temporary found fresh => exact .created tree ⟨_, (find_eq_ok_iff.mp found).2⟩ fresh
  | someParents outer some =>
      exact .grown tree (grows_makeFrom files replacement.here outer) rfl rfl rfl (by simp)
  | somePart temporary part begun =>
      exact effect_of_refill tree (held _ rfl) rfl (by simp [ReplacementStage.isFilled])
  | refused refused =>
      cases refused with
      | compare => exact .idle tree rfl id (by simp [ReplacementStage.isQuiet]) (by simp)
      | makeParents outer fault some =>
          exact .grown tree (grows_makeFrom files replacement.here outer) rfl rfl rfl (by simp)
      | makeTemporary fault =>
          exact .idle tree rfl id (by simp [failed, ReplacementStage.isQuiet]) (by simp [failed])
      | fill temporary fault => exact .removed tree (held _ rfl) rfl fault
      | flush temporary fault => exact .removed tree (held _ rfl) rfl fault
      | setMode temporary fault => exact .removed tree (held _ rfl) rfl fault
      | rename temporary fault => exact .removed tree (held _ rfl) rfl fault

end Replacement

end RecordRegistry
