/-
# Absolute paths

An absolute path leads to the same place from every working directory, and whatever is made, written
or replaced under it is the same.  The path to a location is absolute, and the paths that it passes
are the paths to the locations further out.
-/

import RecordRegistry.Proofs.Results
import RecordRegistry.Proofs.File.Replacing

namespace RecordRegistry

namespace FilePath

variable {path directory parent : FilePath}

theorem isAbsolute_join (absolute : directory.isAbsolute = true) (path : FilePath) :
    (directory.join path).isAbsolute = true := by
  unfold join
  split
  · assumption
  · obtain ⟨bytes⟩ := directory
    cases bytes with
    | nil => simp [isAbsolute] at absolute
    | cons byte rest =>
        split
        · exact absolute
        · exact absolute

theorem front_of_isAbsolute (absolute : path.isAbsolute = true) : path.front = [slash] := by
  rw [front, if_pos absolute]

theorem isAbsolute_parent (absolute : path.isAbsolute = true)
    (found : path.parent? = some parent) : parent.isAbsolute = true := by
  rw [parent?, front_of_isAbsolute absolute] at found
  split at found
  · rw [← Option.some.inj found]
    rfl
  · simp [show slash ≠ dot by decide] at found

theorem isAbsolute_of_mem_outward (count : Nat) (absolute : path.isAbsolute = true) :
    ∀ outer ∈ outward count path, outer.isAbsolute = true := by
  induction count generalizing path with
  | zero => simp [outward]
  | succ count ih =>
      rw [outward]
      split
      · next parent found =>
          exact List.forall_mem_cons.mpr ⟨absolute, ih (isAbsolute_parent absolute found)⟩
      · exact List.forall_mem_singleton.mpr absolute

/-- A path that says nothing ends with no name. -/
theorem fileName?_of_silent (silent : path.spoken = []) : path.fileName? = none := by
  have nothing : path.body.filterMap step? = [] := by
    rw [List.filterMap_eq_nil_iff]
    intro piece inside
    rw [← filter_body, List.filter_eq_nil_iff] at silent
    have quiet : isSilent piece = true := by simpa using silent piece inside
    rw [step?, if_pos quiet]
  rw [fileName?, steps, nothing, List.append_nil, frontStep?]
  split
  · next name named =>
      split at named
      · cases named
      · split at named
        · cases named
        · cases named
  · rfl

/-- A path that says nothing names no other directory than the current one. -/
theorem directory_of_silent (silent : path.spoken = []) : path.directory = ofString "." := by
  unfold directory
  cases found : path.parent? with
  | none => rfl
  | some parent =>
      obtain ⟨bytes⟩ := parent
      obtain rfl : bytes = [] := bytes_parent_of_spoken_eq_nil silent found
      rfl

/-- The directory of an absolute path is absolute, unless the path says nothing else. -/
theorem directory_of_isAbsolute (absolute : path.isAbsolute = true) :
    path.directory.isAbsolute = true ∨ path.spoken = [] := by
  obtain silent | ⟨words, last, cut⟩ := List.eq_nil_or_concat path.spoken
  · exact .inr silent
  · left
    rw [List.concat_eq_append] at cut
    rw [(directory_spoken cut).2, absolute]

end FilePath

namespace Location

open FilePath

variable {name : Bytes} {location outer : Location}

/-- Every name on the way to a location is one that a directory can hold. -/
def IsProper (location : Location) : Prop := ∀ name ∈ location, FileSystem.IsFileName name

@[simp] theorem isAbsolute_path (location : Location) : location.path.isAbsolute = true := rfl

theorem body_path (proper : location.IsProper) :
    location.path.body = if location = [] then [[]] else location.reverse := by
  rw [body, front_of_isAbsolute (isAbsolute_path location)]
  have cut : location.path.bytes.drop 1 = [slash].intercalate location.reverse := rfl
  rw [List.length_singleton, cut]
  split
  · next same =>
      subst same
      rfl
  · next some =>
      refine List.splitOn_intercalate _ (fun name inside => ?_) (by simpa using some)
      exact (proper name (List.mem_reverse.mp inside)).unslashed

theorem trimmed_reverse (proper : location.IsProper) :
    trimmed location.reverse = location.reverse := by
  rw [trimmed, List.reverse_reverse]
  cases location with
  | nil => rfl
  | cons name outer =>
      rw [List.dropWhile_cons_of_neg]
      simp [(proper name List.mem_cons_self).spoken]

@[simp] theorem parent?_path_nil : (path []).parent? = none := by decide

theorem parent?_path_cons (proper : IsProper (name :: outer)) :
    (path (name :: outer)).parent? = some outer.path := by
  have loud := (proper name List.mem_cons_self).spoken
  rw [parent?, body_path proper, if_neg (List.cons_ne_nil _ _), List.reverse_reverse,
    List.dropWhile_cons_of_neg (by simp [loud])]
  simp only
  rw [trimmed_reverse (fun name inside => proper name (.tail _ inside))]
  rfl

theorem outward_path (proper : location.IsProper) {count : Nat} (enough : location.length < count) :
    outward count location.path = location.tails.map path := by
  induction location generalizing count with
  | nil =>
      obtain ⟨count, rfl⟩ := Nat.exists_eq_add_of_le' enough
      simp [outward]
  | cons name outer ih =>
      obtain ⟨count, rfl⟩ := Nat.exists_eq_add_of_le' (Nat.zero_lt_of_lt enough)
      have further := ih (fun name inside => proper name (.tail _ inside))
        (Nat.lt_of_succ_lt_succ enough)
      rw [outward, parent?_path_cons proper]
      simpa using further

theorem length_le_length_path (proper : location.IsProper) :
    location.length ≤ location.path.bytes.length := by
  induction location with
  | nil => simp
  | cons name outer ih =>
      have outside := ih fun name inside => proper name (.tail _ inside)
      have named : name ≠ [] := by
        rintro rfl
        exact absurd (proper [] List.mem_cons_self).spoken (by decide)
      have some : 0 < name.length := List.length_pos_of_ne_nil named
      cases outer with
      | nil => simp [path]
      | cons next further =>
          have longer := length_intercalate_le (next :: further).reverse name [] (by simp)
          simp only [path, List.length_cons, List.reverse_cons] at outside longer ⊢
          omega

/-- The path to a location passes the paths to the locations around it. -/
theorem ancestors_path (proper : location.IsProper) :
    location.path.ancestors = location.tails.map path :=
  outward_path proper (Nat.lt_succ_of_le (length_le_length_path proper))

end Location

namespace FileSystem

variable {files : FileSystem} {path : FilePath}

/-- In a tree the names on the way to whatever there is are proper. -/
theorem IsTree.isProper (tree : files.IsTree) {location : Location}
    (present : files.node? location ≠ none) : location.IsProper := by
  induction location with
  | nil => simp [Location.IsProper]
  | cons name outer ih =>
      refine List.forall_mem_cons.mpr ⟨tree.named name outer present, ih ?_⟩
      exact (tree.inDirectory name outer present).present

section
variable (absolute : path.isAbsolute = true) (here there : Location)
include absolute

theorem start_of_isAbsolute : start here path = start there path := by
  simp [start, absolute]

theorem locate_of_isAbsolute (files : FileSystem) (throughLast : Bool) :
    files.locate here path throughLast = files.locate there path throughLast := by
  rw [locate, locate, start_of_isAbsolute absolute here there]

theorem find_of_isAbsolute (files : FileSystem) : files.find here path = files.find there path := by
  rw [find, find, locate_of_isAbsolute absolute here there]

theorem isPresent_of_isAbsolute (files : FileSystem) :
    files.isPresent here path = files.isPresent there path := by
  rw [isPresent, isPresent, find_of_isAbsolute absolute here there]

theorem isDirectory_of_isAbsolute (files : FileSystem) :
    files.isDirectory here path = files.isDirectory there path := by
  rw [isDirectory, isDirectory, find_of_isAbsolute absolute here there]

theorem read_of_isAbsolute (files : FileSystem) : files.read here path = files.read there path := by
  rw [read, read, find_of_isAbsolute absolute here there]

theorem readText_of_isAbsolute (files : FileSystem) :
    files.readText here path = files.readText there path := by
  rw [readText, readText, read_of_isAbsolute absolute here there]

/-- A path that says nothing but that it is absolute stands for what it leads to, so that the
current directory does not matter there either. -/
theorem target?_of_isAbsolute (files : FileSystem) :
    files.target? here path = files.target? there path := by
  rw [target?_eq, target?_eq, find_of_isAbsolute absolute here there]
  obtain outer | silent := FilePath.directory_of_isAbsolute absolute
  · rw [find_of_isAbsolute outer here there]
  · rw [FilePath.fileName?_of_silent silent]
    cases files.find there path with
    | ok entry => rfl
    | error fault =>
        cases files.find here path.directory <;> cases files.find there path.directory <;> rfl

theorem ending_of_isAbsolute (files : FileSystem) :
    files.ending here path = files.ending there path := by
  rw [ending, ending, start_of_isAbsolute absolute here there]

theorem makeDirectory_of_isAbsolute (files : FileSystem) :
    files.makeDirectory here path = files.makeDirectory there path := by
  rw [makeDirectory, makeDirectory, ending_of_isAbsolute absolute here there]

omit absolute in
theorem makeFrom_of_isAbsolute (paths : List FilePath) (files : FileSystem)
    (absolute : ∀ path ∈ paths, path.isAbsolute = true) :
    files.makeFrom here paths = files.makeFrom there paths := by
  induction paths with
  | nil => rfl
  | cons path outer ih =>
      obtain ⟨first, later⟩ := List.forall_mem_cons.mp absolute
      simp only [makeFrom, makeDirectory_of_isAbsolute first here there,
        isDirectory_of_isAbsolute first here there, ih later]

theorem makeDirectories_of_isAbsolute (files : FileSystem) :
    files.makeDirectories here path = files.makeDirectories there path :=
  makeFrom_of_isAbsolute here there _ files fun outer inside =>
    FilePath.isAbsolute_of_mem_outward _ absolute outer (List.mem_filter.mp inside).1

theorem write_of_isAbsolute (files : FileSystem) (content : Bytes) :
    files.write here path content = files.write there path content := by
  rw [write, write, ending_of_isAbsolute absolute here there, locate_of_isAbsolute absolute here there]

theorem rename_of_isAbsolute (files : FileSystem) (source : Location) :
    files.rename here source path = files.rename there source path := by
  rw [rename, rename, ending_of_isAbsolute absolute here there]

end

variable {here : Location}

/-- The current directory leads to itself. -/
theorem find_current {mode : Nat} (stored : files.node? here = some (.directory mode)) :
    files.find here (.ofString ".") = .ok (here, .directory mode) := by
  refine find_eq_ok_iff.mpr ⟨locate_eq_ok_iff.mpr ⟨by decide, 0, ?_, ?_⟩, stored⟩
  · exact Nat.zero_le _
  · exact .silent ⟨mode, stored⟩ (by decide) (.arrived here)

/-- Silent pieces in a directory lead to it. -/
theorem follow_of_silent {location : Location} {pieces : List Bytes}
    (silent : ∀ piece ∈ pieces, FilePath.isSilent piece = true)
    (inside : files.HoldsDirectory location) :
    files.follow true linkLimit location pieces = .ok location := by
  have leads : files.Leads location pieces 0 location := by
    apply Leads.withSilent inside
    rw [FilePath.filter_of_silent silent]
    exact .arrived location
  exact leads.follow _ (Nat.zero_le _)

theorem length_le_of_silent {piece : Bytes} (silent : FilePath.isSilent piece = true) :
    piece.length ≤ nameLimit := by
  simp only [FilePath.isSilent, Bool.or_eq_true, decide_eq_true_eq] at silent
  rcases silent with rfl | rfl <;> simp [nameLimit]

/-- A path that says nothing has a directory for all but its last piece, which is no name. -/
theorem exists_ending_of_silent (accepted : acceptPath path = .ok ()) (silent : path.spoken = [])
    (inside : files.HoldsDirectory (start here path)) :
    ∃ ending, files.ending here path = .ok ending ∧ ending.location? = none := by
  have quiet : ∀ piece ∈ path.pieces, FilePath.isSilent piece = true := by
    rw [FilePath.spoken, List.filter_eq_nil_iff] at silent
    exact fun piece inside => by simpa using silent piece inside
  generalize kept : path.pieces.reverse.dropWhile (fun piece => decide (piece = [])) = pieces
  have some : ∀ piece ∈ pieces, FilePath.isSilent piece = true := by
    intro piece inside
    rw [← kept] at inside
    exact quiet piece (List.mem_reverse.mp ((List.dropWhile_sublist _).subset inside))
  have followed : files.follow true linkLimit (start here path)
      (pieces.tail.reverse ++ [[FilePath.dot]]) = .ok (start here path) := by
    refine follow_of_silent (fun piece inside => ?_) inside
    rcases List.mem_append.mp inside with early | last
    · exact some piece (List.mem_of_mem_tail (List.mem_reverse.mp early))
    · exact List.mem_singleton.mp last ▸ FilePath.isSilent_dot
  have short : ¬ nameLimit < (pieces.head?.getD []).length := by
    cases pieces with
    | nil => decide
    | cons piece rest => exact Nat.not_lt.mpr (length_le_of_silent (some piece List.mem_cons_self))
  refine ⟨⟨start here path, pieces.head?,
    path.pieces.reverse.takeWhile (fun piece => decide (piece = [])) ≠ []⟩, ?_, ?_⟩
  · simp only [ending, accepted, ok_bind, List.span_eq_takeWhile_dropWhile, kept, followed,
      if_neg short]
    rfl
  · cases pieces with
    | nil => rfl
    | cons piece rest => simp [Ending.location?, some piece List.mem_cons_self]

/-- There is nothing to be made on the way to the current directory. -/
theorem makeDirectories_current (inside : files.HoldsDirectory here) :
    files.makeDirectories here (.ofString ".") = (files, .ok ()) := by
  have asked : (FilePath.ofString ".").ancestors.filter (fun ancestor => ancestor.parent?.isSome) =
      [.ofString "."] := by
    decide
  have present : files.makeDirectory here (.ofString ".") = .error .present := by
    obtain ⟨ending, ends, unnamed⟩ :=
      @exists_ending_of_silent files (.ofString ".") here (by decide) (by decide) inside
    rw [makeDirectory, ends]
    simp only [ok_bind, unnamed]
    rfl
  have isDirectory : files.isDirectory here (.ofString ".") = true := by
    obtain ⟨mode, stored⟩ := inside
    rw [isDirectory, find_current stored]
  rw [makeDirectories, asked, makeFrom, present]
  simp [isDirectory]

/-- A path that says nothing leads to a directory, if anywhere, which cannot be read. -/
theorem exists_read_of_silent (absolute : path.isAbsolute = true) (silent : path.spoken = []) :
    ∃ fault, files.read here path = .error fault := by
  cases found : files.find here path with
  | error fault => exact ⟨fault, by simp [read, found]⟩
  | ok entry =>
      obtain ⟨location, node⟩ := entry
      obtain ⟨leads, stored⟩ := find_eq_ok_iff.mp found
      obtain ⟨-, links, -, leads⟩ := locate_eq_ok_iff.mp leads
      have leads : files.Leads (start here path) path.spoken links location :=
        leads.withoutSilent
      rw [silent, start, if_pos absolute] at leads
      cases leads
      rw [node?_nil, Option.some.injEq] at stored
      subst stored
      exact ⟨.isDirectory, by simp [read, found]⟩

/-- The place of a path that says nothing cannot be taken. -/
theorem exists_rename_of_silent (absolute : path.isAbsolute = true) (silent : path.spoken = []) :
    ∃ fault, ∀ files : FileSystem, ∀ here source : Location,
      files.rename here source path = .error fault := by
  cases accepted : acceptPath path with
  | error fault =>
      exact ⟨fault, fun files here source => by
        simp [rename, ending, accepted]⟩
  | ok =>
      refine ⟨.busy, fun files here source => ?_⟩
      obtain ⟨ending, ends, unnamed⟩ := @exists_ending_of_silent files path here accepted silent
        (by simp [start, absolute])
      rw [rename, ends]
      simp only [ok_bind, unnamed]
      rfl

end FileSystem

namespace Replacement

variable {files : FileSystem} {here there : Location} {path : FilePath} {content : Bytes}

/-- Each step is the same from anywhere, if the path has an absolute parent. -/
theorem step_of_isAbsolute (absolute : path.isAbsolute = true)
    (outer : path.directory.isAbsolute = true) (here there : Location) (files : FileSystem)
    (stage : ReplacementStage) :
    (Replacement.mk here path content).step files stage =
      (Replacement.mk there path content).step files stage := by
  have parent (place : Location) : (Replacement.mk place path content).parent = path.directory := rfl
  cases stage with
  | compare => simp only [step, FileSystem.read_of_isAbsolute absolute here there]
  | makeParents =>
      simp only [step, parent, FileSystem.makeDirectories_of_isAbsolute outer here there]
  | makeTemporary =>
      simp only [step, parent, FileSystem.find_of_isAbsolute outer here there, failed]
  | fill temporary => rfl
  | flush temporary => rfl
  | setMode temporary =>
      simp only [step, mode, FileSystem.find_of_isAbsolute absolute here there]
  | rename temporary =>
      simp only [step, FileSystem.rename_of_isAbsolute absolute here there, failed]
  | finished result => rfl

/-- Replacements whose steps are the same come to the same.  The induction is on the number of steps
that may still follow. -/
theorem finish_congr {first second : Replacement}
    (same : ∀ files stage, first.step files stage = second.step files stage) (files : FileSystem)
    (stage : ReplacementStage) : first.finish files stage = second.finish files stage := by
  by_cases unfinished : stage.remaining ≠ 0
  · have fewer := remaining_step_lt second files stage unfinished
    have onward := finish_congr same (second.step files stage).1 (second.step files stage).2
    cases stage with
    | finished => simp [ReplacementStage.remaining] at unfinished
    | _ => rw [finish, finish, same, onward]
  · cases stage with
    | finished result => rw [finish_finished, finish_finished]
    | _ => simp [ReplacementStage.remaining] at unfinished
termination_by stage.remaining

/-- A path that says nothing but that it is absolute is not replaced, and nothing is left of the
attempt, which is made in the current directory. -/
theorem exists_run_of_silent (absolute : path.isAbsolute = true) (silent : path.spoken = []) :
    ∃ failure, ∀ here, files.HoldsDirectory here →
      (Replacement.mk here path content).run files = (files, .error failure) := by
  obtain ⟨fault, busy⟩ := FileSystem.exists_rename_of_silent absolute silent
  refine ⟨⟨path, fault⟩, fun here inside => ?_⟩
  have parent : (Replacement.mk here path content).parent = .ofString "." :=
    FilePath.directory_of_silent silent
  obtain ⟨refusal, unread⟩ := @FileSystem.exists_read_of_silent files path here absolute silent
  have absent := node?_freshLocation files path here
  have fresh : freshLocation files path here ≠ [] := List.cons_ne_nil _ _
  obtain ⟨held, stored⟩ := id inside
  rw [run, finish, step, unread, finish, step, parent,
    FileSystem.makeDirectories_current inside, finish, step, parent, FileSystem.find_current stored]
  simp only
  rw [finish, step, refill_put fresh, finish, step, finish, step, remode_put fresh, finish, step,
    busy, FileSystem.erase_put absent fresh]
  exact finish_finished _ _ _

/-- A replacement under an absolute path is the same from every directory. -/
theorem run_of_isAbsolute (absolute : path.isAbsolute = true)
    (first : files.HoldsDirectory here) (second : files.HoldsDirectory there) :
    (Replacement.mk here path content).run files = (Replacement.mk there path content).run files := by
  obtain outer | silent := FilePath.directory_of_isAbsolute absolute
  · exact finish_congr (step_of_isAbsolute absolute outer here there) files .compare
  · obtain ⟨failure, same⟩ := exists_run_of_silent absolute silent
    rw [same here first, same there second]

end Replacement

end RecordRegistry
