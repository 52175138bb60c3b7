/-
# What several writers leave to readers

However the moves of several writers follow each other, what is read under any path that speaks of
no temporary file has been there before, or it is all of the content of one writer.  The invariant
says where everything has come from.  It keeps the file system at the moment when the first file
came to the end of the path: from then on the path ends in a file, and nothing else on the way
changes.
-/

import RecordRegistry.Proofs.File.Interleaving
import RecordRegistry.Proofs.File.Overwriting

namespace RecordRegistry

namespace FileSystem

variable {files before after : FileSystem} {here there directory other : Location}
  {path : FilePath} {pieces : List Bytes} {links : Nat} {name again bytes : Bytes}

theorem IsTree.tail (tree : files.IsTree) (inside : files.HoldsDirectory here) :
    files.HoldsDirectory here.tail := by
  cases here with
  | nil => exact inside
  | cons name outer => exact tree.inDirectory name outer inside.present

/-- A path to something other than a directory speaks of it at its end, or some link does. -/
theorem Leads.getLast?_or_link (tree : files.IsTree)
    (leads : files.Leads here pieces links (name :: directory))
    (notDirectory : ¬ files.HoldsDirectory (name :: directory)) (long : pieces ≠ []) :
    pieces.getLast? = some name ∨
      ∃ place target, files.node? place = some (.link target) ∧ name ∈ target.pieces := by
  generalize arrival : name :: directory = there at leads notDirectory
  induction leads with
  | arrived => exact absurd rfl long
  | @silent here there piece rest links inside unspoken onward ih =>
      cases rest with
      | nil =>
          cases onward
          exact absurd inside notDirectory
      | cons next rest =>
          rw [List.getLast?_cons_cons]
          exact ih (List.cons_ne_nil _ _) arrival notDirectory
  | @parent here there rest links inside onward ih =>
      cases rest with
      | nil =>
          cases onward
          exact absurd (tree.tail inside) notDirectory
      | cons next rest =>
          rw [List.getLast?_cons_cons]
          exact ih (List.cons_ne_nil _ _) arrival notDirectory
  | @name here there piece rest links inside spoken notParent short notLink onward ih =>
      cases rest with
      | nil =>
          cases onward
          obtain ⟨rfl, -⟩ := List.cons.inj arrival
          exact .inl rfl
      | cons next rest =>
          rw [List.getLast?_cons_cons]
          exact ih (List.cons_ne_nil _ _) arrival notDirectory
  | @link here there piece rest target links inside spoken notParent short isLink onward ih =>
      have ended := ih (by simp [FilePath.pieces_ne_nil]) arrival notDirectory
      cases rest with
      | nil =>
          refine ended.elim (fun last => .inr ⟨_, target, isLink, ?_⟩) .inr
          exact List.mem_of_getLast? (by simpa using last)
      | cons next rest =>
          rw [List.getLast?_append_of_ne_nil _ (List.cons_ne_nil _ _)] at ended
          rwa [List.getLast?_cons_cons]

/-- A file system holds all that another one holds, and no more links. -/
structure HeldBy (before after : FileSystem) : Prop where
  kept : ∀ location node, before.node? location = some node → after.node? location = some node
  noLink : ∀ location target, after.node? location = some (.link target) →
    before.node? location = some (.link target)

namespace HeldBy

theorem refl (files : FileSystem) : files.HeldBy files := ⟨fun _ _ => id, fun _ _ => id⟩

variable (held : before.HeldBy after)

include held

theorem toExtends : before.Extends after where
  directory location _ := held.kept location _
  link location target := ⟨held.kept location _, held.noLink location target⟩

theorem read (read : before.read here path = .ok bytes) : after.read here path = .ok bytes := by
  obtain ⟨place, mode, found⟩ := read_eq_ok_iff.mp read
  obtain ⟨leads, stored⟩ := find_eq_ok_iff.mp found
  exact read_eq_ok_iff.mpr ⟨place, mode,
    find_eq_ok_iff.mpr ⟨held.toExtends.locate leads, held.kept _ _ stored⟩⟩

end HeldBy

namespace EndsAt

/-- Two ends of a path are one if the directory before it is. -/
private theorem eq_of_directory (ends : before.EndsAt here path directory name false)
    (now : after.EndsAt here path other again false)
    (same : ∀ outer links more, before.Leads (start here path) outer links directory →
      after.Leads (start here path) outer more other → other = directory) :
    again :: other = name :: directory := by
  obtain ⟨outer, links, cut, -, leads⟩ := ends.cut_of_plain
  obtain ⟨outside, more, also, -, onward⟩ := now.cut_of_plain
  obtain ⟨rfl, last⟩ := List.append_inj' (cut.symm.trans also) rfl
  rw [same _ _ _ leads onward, (List.cons.inj last).1]

/-- A path ends in one way only. -/
theorem unique (ends : files.EndsAt here path directory name false)
    (now : files.EndsAt here path other again false) : again :: other = name :: directory :=
  ends.eq_of_directory now fun _ _ _ leads onward => onward.unique leads

/-- Where a file has come to the end of a path, the path ends still, if it ends anywhere. -/
theorem eq_of_covered (ends : before.EndsAt here path directory name false)
    (covered : before.Covered (name :: directory) after)
    (now : after.EndsAt here path other again false) : again :: other = name :: directory :=
  ends.eq_of_directory now fun _ _ _ leads onward => covered.unique leads onward now.inside

end EndsAt

end FileSystem

namespace Replacement

open FileSystem

variable {Writer : Type*} {here location : Location} {path : FilePath}
  {content : Writer → Bytes} {before files next : FileSystem} {stages : Writer → ReplacementStage}
  {later : ReplacementStage} {writer other : Writer} {temporary : Location} {name : Bytes}

/-- A file with the content of some writer has come to the end of the path, when the file system was
another one that held everything that has been there before. -/
def Placed (here : Location) (path : FilePath) (content : Writer → Bytes)
    (before files : FileSystem) : Prop :=
  ∃ base directory name mode writer, before.HeldBy base ∧
    base.EndsAt here path directory name false ∧ base.Covered (name :: directory) files ∧
    files.node? (name :: directory) = some (.file mode (content writer))

/-- Where everything comes from while several writers move. -/
structure Shared (here : Location) (path : FilePath) (content : Writer → Bytes)
    (before files : FileSystem) (stages : Writer → ReplacementStage) : Prop where
  tree : files.IsTree
  held : ∀ writer temporary, (stages writer).temporary? = some temporary →
    IsTemporary ⟨here, path, content writer⟩ files (stages writer) temporary ∧
      before.node? temporary = none
  apart : ∀ first second temporary, (stages first).temporary? = some temporary →
    (stages second).temporary? = some temporary → first = second
  present : ∀ location, files.node? location = none → before.node? location = none
  origin : ∀ location node, files.node? location = some node →
    before.node? location = some node ∨ node = .directory directoryMode ∨
      (∃ writer mode, node = .file mode (content writer)) ∨
      ∃ writer, (stages writer).temporary? = some location
  quiet : (∀ writer, (stages writer).isQuiet = true) → files = before ∧
    ∀ writer, stages writer = .finished (.ok .unchanged) →
      before.read here path = .ok (content writer)
  placed : (before.HeldBy files ∧ ∀ writer, stages writer ≠ .finished (.ok .written)) ∨
    Placed here path content before files

namespace Shared

theorem start (tree : before.IsTree) :
    Shared here path content before before fun _ : Writer => .compare where
  tree := tree
  held := by simp [ReplacementStage.temporary?]
  apart := by simp [ReplacementStage.temporary?]
  present _ := id
  origin _ _ := .inl
  quiet _ := ⟨rfl, by simp⟩
  placed := .inl ⟨.refl before, by simp⟩

variable (shared : Shared here path content before files stages)

include shared

theorem isFile (own : (stages writer).temporary? = some temporary) :
    ∃ mode bytes, files.node? temporary = some (.file mode bytes) := by
  obtain ⟨mode, bytes, isFile, -⟩ := (shared.held writer temporary own).1.file
  exact ⟨mode, bytes, isFile⟩

/-- A temporary file is not where the path ends. -/
theorem ne_end {directory : Location} {base : FileSystem}
    (own : (stages writer).temporary? = some temporary)
    (ends : base.EndsAt here path directory name false) : temporary ≠ name :: directory := by
  rintro rfl
  obtain ⟨label, place, same, unspoken⟩ := (shared.held writer _ own).1.unspoken
  obtain ⟨rfl, -⟩ := List.cons.inj same
  exact unspoken.unasked ends.mem_pieces

variable (effect : Effect ⟨here, path, content writer⟩ files (stages writer) next later)

include effect

/-- A writer leaves the temporary files of the others as they are. -/
theorem node?_temporary (different : other ≠ writer)
    (own : (stages other).temporary? = some temporary) :
    next.node? temporary = files.node? temporary := by
  obtain ⟨mode, bytes, isFile⟩ := shared.isFile own
  cases effect.change temporary with
  | same kept => exact kept
  | directory absent => simp [isFile] at absent
  | created named fresh =>
      subst named
      simp [fresh.absent] at isFile
  | rewritten mine => exact absurd (shared.apart _ _ _ own mine) different
  | gone mine => exact absurd (shared.apart _ _ _ own mine) different
  | placed _ named ends => exact absurd named (shared.ne_end own ends)

/-- A writer has its temporary file alone. -/
theorem own_of_later (mine : later.temporary? = some temporary)
    (own : (stages other).temporary? = some temporary) : other = writer := by
  obtain ⟨mode, bytes, isFile⟩ := shared.isFile own
  cases effect.change temporary with
  | same _ still => exact shared.apart _ _ _ own (still.mpr mine)
  | directory _ _ free => exact absurd mine free
  | created named fresh =>
      subst named
      simp [fresh.absent] at isFile
  | rewritten before => exact shared.apart _ _ _ own before
  | gone before => exact shared.apart _ _ _ own before
  | placed finished =>
      subst finished
      simp [ReplacementStage.temporary?] at mine

/-- The temporary file of the writer that moves. -/
theorem held_later (mine : later.temporary? = some temporary) :
    IsTemporary ⟨here, path, content writer⟩ next later temporary ∧
      before.node? temporary = none := by
  cases effect.change temporary with
  | same kept still filled =>
      obtain ⟨⟨⟨mode, bytes, isFile, whole⟩, ⟨name, directory, named, unspoken⟩⟩, absent⟩ :=
        shared.held writer temporary (still.mpr mine)
      exact ⟨⟨⟨mode, bytes, kept.trans isFile, fun full => whole (filled mine full)⟩,
        ⟨name, directory, named, effect.unspoken unspoken⟩⟩, absent⟩
  | directory _ _ free => exact absurd mine free
  | created named fresh begun stored =>
      subst begun
      exact ⟨⟨⟨_, _, stored, by simp [ReplacementStage.isFilled]⟩,
        ⟨_, _, named, effect.unspoken fresh.toIsUnspoken⟩⟩,
        shared.present _ (named ▸ fresh.absent)⟩
  | rewritten own _ stored whole =>
      obtain ⟨⟨-, ⟨name, directory, named, unspoken⟩⟩, absent⟩ := shared.held writer temporary own
      exact ⟨⟨⟨_, _, stored, whole⟩, ⟨name, directory, named, effect.unspoken unspoken⟩⟩, absent⟩
  | gone _ free => simp [free] at mine
  | placed finished =>
      subst finished
      simp [ReplacementStage.temporary?] at mine

theorem present_later (absent : next.node? location = none) : before.node? location = none := by
  cases effect.change location with
  | same kept => exact shared.present _ (kept ▸ absent)
  | directory _ made => simp [made] at absent
  | created _ _ _ stored => simp [stored] at absent
  | rewritten _ _ stored => simp [stored] at absent
  | gone own => exact (shared.held _ _ own).2
  | placed _ _ _ _ stored => simp [stored] at absent

/-- Until a file has come to the end of the path, all stays as it has been. -/
theorem heldBy_later (held : before.HeldBy files) (unwritten : later ≠ .finished (.ok .written)) :
    before.HeldBy next where
  kept location node present := by
    have stored := held.kept location node present
    cases effect.change location with
    | same kept => exact kept.trans stored
    | directory absent => simp [absent] at stored
    | created named fresh =>
        subst named
        simp [fresh.absent] at stored
    | rewritten own => simp [(shared.held _ _ own).2] at present
    | gone own => simp [(shared.held _ _ own).2] at present
    | placed finished => exact absurd finished unwritten
  noLink location target isLink := held.noLink _ _ (effect.link _ _ isLink)

/-- Directories and links stay, unless a link gives way at the end of the path. -/
theorem kept_or_end {node : FileNode} (stored : files.node? location = some node)
    (noFile : ∀ mode bytes, node ≠ .file mode bytes) :
    next.node? location = some node ∨ (∀ mode, node ≠ .directory mode) ∧ ∃ name directory,
      location = name :: directory ∧ files.EndsAt here path directory name false := by
  have notOwn : (stages writer).temporary? ≠ some location := by
    intro own
    obtain ⟨mode, bytes, isFile⟩ := shared.isFile own
    exact noFile mode bytes (Option.some.inj (stored.symm.trans isFile))
  cases effect.change location with
  | same kept => exact .inl (kept.trans stored)
  | directory absent => simp [absent] at stored
  | created named fresh =>
      subst named
      simp [fresh.absent] at stored
  | rewritten own => exact absurd own notOwn
  | gone own => exact absurd own notOwn
  | placed _ named ends notDirectory =>
      refine .inr ⟨?_, _, _, named, ends⟩
      rintro mode rfl
      exact notDirectory ⟨mode, stored⟩

/-- Beside the end of the path nothing that leads on changes. -/
theorem covered_later {directory : Location} {base : FileSystem}
    (keeps : ∀ place held, base.node? place = some (.directory held) →
      files.node? place = some (.directory held))
    (links : ∀ place target, place ≠ name :: directory →
      (base.node? place = some (.link target) ↔ files.node? place = some (.link target)))
    (one : ∀ outer last, files.EndsAt here path outer last false →
      last :: outer = name :: directory)
    (stored : ∃ mode bytes, next.node? (name :: directory) = some (.file mode bytes)) :
    base.Covered (name :: directory) next where
  isFile := stored
  directory place held isDirectory := by
    obtain kept | ⟨other, -⟩ := shared.kept_or_end effect (keeps place held isDirectory) (by simp)
    · exact kept
    · exact absurd rfl (other held)
  link place target different := by
    refine (links place target different).trans ⟨fun isLink => ?_, effect.link place target⟩
    obtain kept | ⟨-, last, outer, named, ends⟩ := shared.kept_or_end effect isLink (by simp)
    · exact kept
    · exact absurd (named.trans (one _ _ ends)) different

/-- What has come to the end of the path stays, or gives way to the content of the writer. -/
theorem node?_end {directory : Location} {base : FileSystem} {mode : Nat}
    (ends : base.EndsAt here path directory name false)
    (stored : files.node? (name :: directory) = some (.file mode (content other))) :
    ∃ mode writer, next.node? (name :: directory) = some (.file mode (content writer)) := by
  cases effect.change (name :: directory) with
  | same kept => exact ⟨_, _, kept.trans stored⟩
  | directory absent => simp [absent] at stored
  | created named fresh =>
      rw [named, fresh.absent] at stored
      simp at stored
  | rewritten own => exact absurd rfl (shared.ne_end own ends)
  | gone own => exact absurd rfl (shared.ne_end own ends)
  | placed _ _ _ _ come => exact ⟨_, _, come⟩

theorem placed_later (placed : Placed here path content before files) :
    Placed here path content before next := by
  obtain ⟨base, directory, name, mode, other, held, ends, covered, stored⟩ := placed
  obtain ⟨modeLater, last, come⟩ := shared.node?_end effect ends stored
  exact ⟨base, directory, name, modeLater, last, held, ends,
    shared.covered_later effect covered.directory covered.link
      (fun _ _ now => ends.eq_of_covered covered now) ⟨_, _, come⟩, come⟩

/-- The first file that comes to the end of the path. -/
theorem placed_of_written (held : before.HeldBy files)
    (unwritten : stages writer ≠ .finished (.ok .written))
    (written : later = .finished (.ok .written)) : Placed here path content before next := by
  obtain same | ⟨directory, name, mode, ends, come⟩ := effect.written written
  · exact absurd (same.trans written) unwritten
  · exact ⟨files, directory, name, mode, writer, held, ends,
      shared.covered_later effect (fun _ _ => id) (fun _ _ _ => .rfl)
        (fun _ _ now => ends.unique now) ⟨_, _, come⟩, come⟩

variable [DecidableEq Writer]

theorem origin_later {node : FileNode} (stored : next.node? location = some node) :
    before.node? location = some node ∨ node = .directory directoryMode ∨
      (∃ writer mode, node = .file mode (content writer)) ∨
      ∃ other, (Function.update stages writer later other).temporary? = some location := by
  cases effect.change location with
  | same kept still =>
      obtain same | isDirectory | isContent | ⟨other, own⟩ :=
        shared.origin location node (kept ▸ stored)
      · exact .inl same
      · exact .inr (.inl isDirectory)
      · exact .inr (.inr (.inl isContent))
      · refine .inr (.inr (.inr ⟨other, ?_⟩))
        by_cases same : other = writer
        · subst same
          simpa using still.mp own
        · simpa [same] using own
  | directory _ made =>
      rw [made, Option.some.injEq] at stored
      exact .inr (.inl stored.symm)
  | created _ _ begun =>
      exact .inr (.inr (.inr ⟨writer, by simp [begun, ReplacementStage.temporary?]⟩))
  | rewritten _ still => exact .inr (.inr (.inr ⟨writer, by simpa using still⟩))
  | gone _ _ absent => simp [absent] at stored
  | placed _ _ _ _ come =>
      rw [come, Option.some.injEq] at stored
      exact .inr (.inr (.inl ⟨_, _, stored.symm⟩))

/-- As long as no writer has changed anything, each one that is done has found its content. -/
theorem quiet_later (silent : ∀ other, (Function.update stages writer later other).isQuiet = true) :
    next = before ∧ ∀ other,
      Function.update stages writer later other = .finished (.ok .unchanged) →
        before.read here path = .ok (content other) := by
  have mine : later.isQuiet = true := by simpa using silent writer
  obtain ⟨rfl, how⟩ := effect.quiet mine
  have earlier : ∀ other, (stages other).isQuiet = true := by
    intro other
    by_cases same : other = writer
    · subst same
      obtain rfl | ⟨first, -⟩ := how
      · exact mine
      · rw [first]
        rfl
    · simpa [same] using silent other
  obtain ⟨rfl, found⟩ := shared.quiet earlier
  refine ⟨rfl, fun other done => ?_⟩
  by_cases same : other = writer
  · subst same
    rw [Function.update_self] at done
    obtain rfl | ⟨-, read⟩ := how
    · exact found other done
    · exact read
  · exact found other (by simpa [same] using done)

/-- The move of one writer keeps all of this. -/
theorem move : Shared here path content before next (Function.update stages writer later) where
  tree := effect.tree
  held other temporary own := by
    by_cases same : other = writer
    · subst same
      rw [Function.update_self] at own ⊢
      exact shared.held_later effect own
    · rw [Function.update_of_ne same] at own ⊢
      obtain ⟨⟨⟨mode, bytes, isFile, whole⟩, ⟨name, directory, named, unspoken⟩⟩, absent⟩ :=
        shared.held other temporary own
      exact ⟨⟨⟨mode, bytes, (shared.node?_temporary effect same own).trans isFile, whole⟩,
        ⟨name, directory, named, effect.unspoken unspoken⟩⟩, absent⟩
  apart first second temporary own also := by
    by_cases isFirst : first = writer
    · by_cases isSecond : second = writer
      · rw [isFirst, isSecond]
      · rw [isFirst, Function.update_self] at own
        rw [Function.update_of_ne isSecond] at also
        rw [isFirst, shared.own_of_later effect own also]
    · rw [Function.update_of_ne isFirst] at own
      by_cases isSecond : second = writer
      · rw [isSecond, Function.update_self] at also
        rw [isSecond, shared.own_of_later effect also own]
      · rw [Function.update_of_ne isSecond] at also
        exact shared.apart _ _ _ own also
  present _ := shared.present_later effect
  origin _ _ := shared.origin_later effect
  quiet := shared.quiet_later effect
  placed := by
    obtain ⟨held, unwritten⟩ | placed := shared.placed
    · by_cases written : later = .finished (.ok .written)
      · exact .inr (shared.placed_of_written effect held (unwritten writer) written)
      · refine .inl ⟨shared.heldBy_later effect held written, fun other => ?_⟩
        by_cases same : other = writer
        · simpa [same] using written
        · simpa [same] using unwritten other
    · exact .inr (shared.placed_later effect placed)

end Shared

/-- All of this holds however the moves follow each other. -/
theorem shared_of_reachable [DecidableEq Writer] (tree : before.IsTree)
    (reachable : Reachable here path content before files stages) :
    Shared here path content before files stages := by
  induction reachable with
  | start => exact .start tree
  | move writer _ advances shared =>
      refine shared.move (effect_of_advances shared.tree (fun temporary own => ?_) advances)
      exact (shared.held writer temporary own).1

namespace Shared

variable {elsewhere : Location} {asked : FilePath} {bytes : Bytes} {mode : Nat} {place : Location}

/-- A path to a temporary file has the name of the file at its end. -/
theorem getLast?_of_locate (shared : Shared here path content before files stages)
    (own : (stages writer).temporary? = some temporary)
    (located : files.locate elsewhere asked true = .ok temporary) :
    ∃ name, IsUnspoken files path name ∧ IsFileName name ∧ asked.pieces.getLast? = some name := by
  obtain ⟨name, directory, rfl, unspoken⟩ := (shared.held writer temporary own).1.unspoken
  obtain ⟨mode, bytes, isFile⟩ := shared.isFile own
  obtain ⟨-, links, -, leads⟩ := locate_eq_ok_iff.mp located
  obtain last | ⟨point, target, isLink, spoken⟩ :=
    leads.getLast?_or_link shared.tree (not_holdsDirectory_of_file isFile) asked.pieces_ne_nil
  · exact ⟨name, unspoken, shared.tree.isFileName isFile, last⟩
  · exact absurd spoken (unspoken.unlinked _ _ isLink)

/-- The path of the writers leads to no temporary file. -/
theorem ne_temporary_of_locate (shared : Shared here path content before files stages)
    (located : files.locate elsewhere path true = .ok place) :
    (stages writer).temporary? ≠ some place := by
  intro own
  obtain ⟨name, unspoken, -, last⟩ := shared.getLast?_of_locate own located
  exact unspoken.unasked (List.mem_of_getLast? last)

/-- A file that is not temporary has been there before, or it is all of some content. -/
theorem whole (shared : Shared here path content before files stages)
    (stored : files.node? place = some (.file mode bytes))
    (other : ∀ writer, (stages writer).temporary? ≠ some place) :
    before.node? place = some (.file mode bytes) ∨ ∃ writer, bytes = content writer := by
  obtain same | isDirectory | ⟨writer, mode, isContent⟩ | ⟨writer, own⟩ :=
    shared.origin place _ stored
  · exact .inl same
  · exact absurd isDirectory (by simp)
  · exact .inr ⟨writer, (FileNode.file.inj isContent).2⟩
  · exact absurd own (other writer)

/-- What has been read before is read still, or all of some content is. -/
theorem read_of_read (shared : Shared here path content before files stages)
    (read : before.read here path = .ok bytes) :
    files.read here path = .ok bytes ∨ ∃ writer, files.read here path = .ok (content writer) := by
  obtain ⟨held, -⟩ | ⟨base, directory, name, mode, writer, held, ends, covered, stored⟩ :=
    shared.placed
  · exact .inl (held.read read)
  · exact .inr ⟨writer, ends.read_of_read covered stored (held.read read)⟩

/-- When all writers have succeeded, a file has the content of one of them, and readers get that. -/
theorem readable [Nonempty Writer] (shared : Shared here path content before files stages)
    (done : ∀ writer, ∃ outcome, stages writer = .finished (.ok outcome)) :
    ∃ writer, (∃ place mode, files.node? place = some (.file mode (content writer))) ∧
      Readable ⟨here, path, content writer⟩ before files := by
  obtain ⟨-, unwritten⟩ | ⟨base, directory, name, mode, writer, held, ends, covered, stored⟩ :=
    shared.placed
  · have unchanged : ∀ writer, stages writer = .finished (.ok .unchanged) := by
      intro writer
      obtain ⟨outcome, finished⟩ := done writer
      cases outcome with
      | written => exact absurd finished (unwritten writer)
      | unchanged => exact finished
    obtain ⟨writer⟩ := ‹Nonempty Writer›
    obtain ⟨rfl, found⟩ := shared.quiet fun other => by rw [unchanged other]; rfl
    have read := found writer (unchanged writer)
    obtain ⟨place, mode, stands⟩ := read_eq_ok_iff.mp read
    exact ⟨writer, ⟨place, mode, (find_eq_ok_iff.mp stands).2⟩, readable_of_read read⟩
  · exact ⟨writer, ⟨_, mode, stored⟩, readable_of_covered ends covered stored held.noLink⟩

end Shared

end Replacement

end RecordRegistry
