/-
# The source files of a directory

Which entries of a directory a scan reads, and which ones it fails on, is said here by what the
entries are: their names, what stands in the directory under them, and what their content is.  A
visit to an entry comes to exactly that.
-/

import RecordRegistry.Proofs.Generation.Scanning

namespace RecordRegistry

namespace FilePath

variable {name before after : Bytes} {path : FilePath}

theorem cut?_of_notMem (undotted : dot ∉ name) : cut? name = none := by
  have all : name.reverse.takeWhile (· ≠ dot) = name.reverse := by
    rw [List.takeWhile_eq_self_iff]
    intro byte inside
    have other : byte ≠ dot := fun same => undotted (same ▸ List.mem_reverse.mp inside)
    simpa using other
  simp only [cut?, all]
  simp

theorem cut?_append (undotted : dot ∉ after) :
    cut? (before ++ dot :: after) = if before = [] then none else some (before, after) := by
  have all : ∀ byte ∈ after.reverse, decide (byte ≠ dot) = true := by
    intro byte inside
    have other : byte ≠ dot := fun same => undotted (same ▸ List.mem_reverse.mp inside)
    simpa using other
  have turned : (before ++ dot :: after).reverse = after.reverse ++ dot :: before.reverse := by simp
  have found : (before ++ dot :: after).reverse.takeWhile (· ≠ dot) = after.reverse := by
    rw [turned, List.takeWhile_append_of_pos all]
    simp
  have rest : (before ++ dot :: after).reverse.drop (after.reverse.length + 1) = before.reverse := by
    rw [turned, ← List.drop_drop, List.drop_left]
    rfl
  have longer : after.length ≠ before.length + (after.length + 1) := by omega
  simp only [cut?, found, rest]
  simp [longer]

/-- A name is cut at its last dot, if something stands before that. -/
theorem cut?_eq_some_iff :
    cut? name = some (before, after) ↔
      before ≠ [] ∧ dot ∉ after ∧ name = before ++ dot :: after := by
  constructor
  · intro cut
    by_cases dotted : dot ∈ name
    · obtain ⟨last, first, turned, undotted⟩ :=
        List.eq_append_cons_of_mem (List.mem_reverse.mpr dotted)
      obtain rfl : name = first.reverse ++ dot :: last.reverse := by
        rw [← List.reverse_reverse name, turned]
        simp
      rw [cut?_append (by simpa using undotted)] at cut
      split at cut
      · contradiction
      · next some =>
          cases cut
          exact ⟨some, by simpa using undotted, rfl⟩
    · rw [cut?_of_notMem dotted] at cut
      contradiction
  · rintro ⟨some, undotted, rfl⟩
    rw [cut?_append undotted, if_neg some]

end FilePath

namespace Package

open FileSystem

/-- The bytes after the stem of a source file. -/
def sourceEnding : Bytes := Utf8.encode ".rs"

/-- The name of a source file that is not hidden, with its stem. -/
def IsSourceName (name stem : Bytes) : Prop :=
  stem ≠ [] ∧ stem.head? ≠ some FilePath.dot ∧ name = stem ++ sourceEnding

variable {files : FileSystem} {here location place : Location} {directory : FilePath}
  {name stem : Bytes} {mode : Nat}

/-- The name at the end of a path in a directory. -/
theorem fileName?_join (found : files.find here directory = .ok (location, .directory mode))
    (proper : IsFileName name) : (directory.join ⟨name⟩).fileName? = some name := by
  have begun := (acceptPath_eq_ok_iff.mp (locate_eq_ok_iff.mp (find_eq_ok_iff.mp found).1).1).2.1
  exact FilePath.fileName?_eq (FilePath.join_spoken begun proper.spoken proper.unslashed)
    proper.notParent

theorem isSourceName_iff : IsSourceName name stem ↔
    name.head? ≠ some FilePath.dot ∧ FilePath.cut? name = some (stem, Utf8.encode "rs") := by
  have ending : sourceEnding = FilePath.dot :: Utf8.encode "rs" ∧
      FilePath.dot ∉ Utf8.encode "rs" := by decide +kernel
  rw [FilePath.cut?_eq_some_iff, IsSourceName, ending.1]
  constructor
  · rintro ⟨some, shown, rfl⟩
    refine ⟨?_, some, ending.2, rfl⟩
    rwa [List.head?_append_of_ne_nil _ some]
  · rintro ⟨shown, some, -, rfl⟩
    rw [List.head?_append_of_ne_nil _ some] at shown
    exact ⟨some, shown, rfl⟩

theorem isSourcePath_join_iff (found : files.find here directory = .ok (location, .directory mode))
    (proper : IsFileName name) :
    isSourcePath (directory.join ⟨name⟩) = true ↔ ∃ stem, IsSourceName name stem := by
  simp only [isSourceName_iff, isSourcePath, FilePath.extension?, fileName?_join found proper]
  cases cut : FilePath.cut? name with
  | none => simp [cut]
  | some parts =>
      obtain ⟨before, after⟩ := parts
      simp [cut]

theorem stem?_join (found : files.find here directory = .ok (location, .directory mode))
    (proper : IsFileName name) (source : IsSourceName name stem) :
    (directory.join ⟨name⟩).stem? = some stem := by
  obtain ⟨-, cut⟩ := isSourceName_iff.mp source
  simp [FilePath.stem?, fileName?_join found proper, cut]

variable {excluded : Option Location} {unit : SourceUnit} {error : GenerationError}
  {kind : ErrorKind}

/-- A name in a directory is that of a visible source file and leads to a regular file, which is not
the one that is not to be looked at. -/
structure IsSource (files : FileSystem) (here : Location) (directory : FilePath)
    (location : Location) (excluded : Option Location) (name stem content : Bytes) : Prop where
  listed : name ∈ files.names location
  named : IsSourceName name stem
  reached : ∃ place mode, files.find here (directory.join ⟨name⟩) = .ok (place, .file mode content) ∧
    excluded ≠ some place

/-- The unit is what the source file of the name is read as. -/
def IsUnit (files : FileSystem) (here : Location) (directory : FilePath) (location : Location)
    (excluded : Option Location) (name : Bytes) (unit : SourceUnit) : Prop :=
  ∃ stem content module text source,
    IsSource files here directory location excluded name stem content ∧
    Utf8.decode? stem = some module ∧ Utf8.decode? content = some text ∧
    SourceFile.parse text = .ok source ∧ unit = ⟨directory.join ⟨name⟩, moduleOf module, source⟩

/-- The entry cannot be scanned, with the kind of the error for it.  A link has to lead somewhere
else, and a source file has to be opened, and to be named and filled with text that parses. -/
inductive Bad (files : FileSystem) (here : Location) (directory : FilePath) (location : Location)
    (excluded : Option Location) (name : Bytes) : ErrorKind → Prop
  | dangling {target : FilePath} {fault : FileFault}
      (isLink : files.node? (name :: location) = some (.link target))
      (lost : files.find here (directory.join ⟨name⟩) = .error fault) :
      Bad files here directory location excluded name .discovery
  | looping {target : FilePath} {mode : Nat}
      (isLink : files.node? (name :: location) = some (.link target))
      (back : files.find here (directory.join ⟨name⟩) = .ok (location, .directory mode)) :
      Bad files here directory location excluded name .discovery
  | unopened {stem content : Bytes} {mode : Nat} {fault : FileFault}
      (named : IsSourceName name stem)
      (isFile : files.node? (name :: location) = some (.file mode content))
      (included : excluded ≠ some (name :: location))
      (lost : files.find here (directory.join ⟨name⟩) = .error fault) :
      Bad files here directory location excluded name .discovery
  | nameNotText {stem content : Bytes}
      (source : IsSource files here directory location excluded name stem content)
      (notText : Utf8.decode? stem = none) :
      Bad files here directory location excluded name .discovery
  | contentNotText {stem content : Bytes} {module : String}
      (source : IsSource files here directory location excluded name stem content)
      (named : Utf8.decode? stem = some module) (notText : Utf8.decode? content = none) :
      Bad files here directory location excluded name .discovery
  | malformed {stem content : Bytes} {module text : String} {error : SyntaxError}
      (source : IsSource files here directory location excluded name stem content)
      (named : Utf8.decode? stem = some module) (isText : Utf8.decode? content = some text)
      (refused : SourceFile.parse text = .error error) :
      Bad files here directory location excluded name .parse

/-- A name that leads to a file stands in the directory. -/
theorem node?_of_find_join (found : files.find here directory = .ok (location, .directory mode))
    (proper : IsFileName name) {node : FileNode}
    (reached : files.find here (directory.join ⟨name⟩) = .ok (place, node)) :
    (∃ target, files.node? (name :: location) = some (.link target)) ∨
      place = name :: location ∧ files.node? (name :: location) = some node := by
  obtain ⟨leads, stored⟩ := find_eq_ok_iff.mp reached
  by_cases isLink : ∃ target, files.node? (name :: location) = some (.link target)
  · exact .inl isLink
  · rw [not_exists] at isLink
    rw [locate_join found proper (locate_eq_ok_iff.mp leads).1 isLink] at leads
    obtain rfl := Except.ok.inj leads
    exact .inr ⟨rfl, stored⟩

theorem listed_of_find_join (found : files.find here directory = .ok (location, .directory mode))
    (proper : IsFileName name) {node : FileNode}
    (reached : files.find here (directory.join ⟨name⟩) = .ok (place, node)) :
    name ∈ files.names location := by
  rw [mem_names]
  rcases node?_of_find_join found proper reached with ⟨target, isLink⟩ | ⟨-, stored⟩
  · simp [isLink]
  · simp [stored]

/-- A name that leads to a file is visited like the file. -/
theorem visit_of_find (found : files.find here directory = .ok (location, .directory mode))
    (proper : IsFileName name) {held : Nat} {content : Bytes}
    (reached : files.find here (directory.join ⟨name⟩) = .ok (place, .file held content)) :
    visit files here directory location excluded name =
      visitFile files here excluded (directory.join ⟨name⟩) := by
  rcases node?_of_find_join found proper reached with ⟨target, isLink⟩ | ⟨-, isFile⟩
  · simp [visit, isLink, reached]
  · simp [visit, isFile]

/-- A file that is neither passed over nor excluded is read. -/
theorem visitFile_of_included {path : FilePath} (isSource : isSourcePath path = true)
    (stands : files.target? here path = some place) (included : excluded ≠ some place) :
    visitFile files here excluded path =
      match readUnit files here path with
      | .ok unit => .source unit
      | .error error => .failed error := by
  have apart : ¬ (some place = excluded) := fun same => included same.symm
  unfold visitFile
  cases readUnit files here path <;> simp [isSource, stands, apart]

/-- A source is read, and the visit comes to what the reading comes to. -/
theorem IsSource.visit {content : Bytes}
    (found : files.find here directory = .ok (location, .directory mode)) (proper : IsFileName name)
    (source : IsSource files here directory location excluded name stem content) :
    Package.visit files here directory location excluded name =
      match readUnit files here (directory.join ⟨name⟩) with
      | .ok unit => .source unit
      | .error error => .failed error := by
  obtain ⟨-, named, place, mode, reached, included⟩ := source
  rw [visit_of_find found proper reached]
  exact visitFile_of_included ((isSourcePath_join_iff found proper).mpr ⟨stem, named⟩)
    (target?_of_find reached) included

theorem IsUnit.visit (found : files.find here directory = .ok (location, .directory mode))
    (proper : IsFileName name) (isUnit : IsUnit files here directory location excluded name unit) :
    Package.visit files here directory location excluded name = .source unit := by
  obtain ⟨stem, content, module, text, parsed, source, named, isText, read, rfl⟩ := isUnit
  have stems := stem?_join found proper source.named
  obtain ⟨place, mode, reached, -⟩ := source.reached
  have success : readUnit files here (directory.join ⟨name⟩) =
      .ok ⟨directory.join ⟨name⟩, moduleOf module, parsed⟩ :=
    readUnit_eq_ok_iff.mpr ⟨module, place, mode, content, text, parsed, by simp [stems, named],
      reached, isText, read, rfl⟩
  rw [source.visit found proper, success]

/-- The steps of reading a unit, each with its error. -/
theorem readUnit_eq (files : FileSystem) (here : Location) (path : FilePath) :
    readUnit files here path =
      match path.stem?.bind Utf8.decode?, files.readText here path with
      | none, _ => .error (.unreadable path .nameNotText)
      | some _, .error fault => .error (.unreadable path (.access fault))
      | some stem, .ok text =>
        match SourceFile.parse text with
        | .error cause => .error (.malformed path cause)
        | .ok source => .ok ⟨path, moduleOf stem, source⟩ := by
  unfold readUnit
  cases path.stem?.bind Utf8.decode? with
  | none => rfl
  | some stem =>
      cases files.readText here path with
      | error fault => rfl
      | ok text =>
          cases parsed : SourceFile.parse text with
          | error cause => simp [parsed]
          | ok source => simp [parsed]

theorem readText_of_find {path : FilePath} {mode : Nat} {content : Bytes}
    (reached : files.find here path = .ok (place, .file mode content)) :
    files.readText here path =
      match Utf8.decode? content with
      | some text => .ok text
      | none => .error .notText := by
  cases decoded : Utf8.decode? content with
  | none => simp [FileSystem.readText, FileSystem.read, reached, decoded]
  | some text => simp [FileSystem.readText, FileSystem.read, reached, decoded]

/-- A bad entry is what its visit fails on. -/
theorem Bad.visit (found : files.find here directory = .ok (location, .directory mode))
    (proper : IsFileName name) (bad : Bad files here directory location excluded name kind) :
    ∃ error, Package.visit files here directory location excluded name = .failed error ∧
      error.path? = some (directory.join ⟨name⟩) ∧ error.kind = kind := by
  have failed {error : GenerationError} (about : error.path? = some (directory.join ⟨name⟩)) :
      ∃ other, Visit.failed error = .failed other ∧
        other.path? = some (directory.join ⟨name⟩) ∧ other.kind = error.kind :=
    ⟨error, rfl, about, rfl⟩
  cases bad with
  | dangling isLink lost =>
      simp only [Package.visit, isLink, lost]
      exact failed rfl
  | looping isLink back =>
      simp only [Package.visit, isLink, back, if_true]
      exact failed rfl
  | @unopened stem content mode fault named isFile included lost =>
      have notLink : ∀ target, files.node? (name :: location) ≠ some (.link target) := by
        simp [isFile]
      have unread : files.readText here (directory.join ⟨name⟩) = .error fault := by
        simp only [FileSystem.readText, FileSystem.read, lost]
        rfl
      simp only [Package.visit, isFile]
      rw [visitFile_of_included ((isSourcePath_join_iff found proper).mpr ⟨_, named⟩)
        (target?_join found proper notLink) included, readUnit_eq, unread]
      cases (directory.join ⟨name⟩).stem?.bind Utf8.decode? with
      | none => exact failed rfl
      | some stem => exact failed rfl
  | nameNotText source notText =>
      rw [source.visit found proper, readUnit_eq, stem?_join found proper source.named,
        Option.bind_some, notText]
      exact failed rfl
  | contentNotText source named notText =>
      obtain ⟨place, mode, reached, -⟩ := source.reached
      rw [source.visit found proper, readUnit_eq, stem?_join found proper source.named,
        Option.bind_some, named, readText_of_find reached, notText]
      exact failed rfl
  | malformed source named isText refused =>
      obtain ⟨place, mode, reached, -⟩ := source.reached
      rw [source.visit found proper, readUnit_eq, stem?_join found proper source.named,
        Option.bind_some, named, readText_of_find reached, isText]
      simp only [refused]
      exact failed rfl

/-- A source can be read as a unit, or it is bad. -/
theorem IsSource.unit_or_bad {content : Bytes}
    (source : IsSource files here directory location excluded name stem content) :
    (∃ unit, IsUnit files here directory location excluded name unit) ∨
      ∃ kind, Bad files here directory location excluded name kind := by
  cases named : Utf8.decode? stem with
  | none => exact .inr ⟨_, .nameNotText source named⟩
  | some module =>
      cases isText : Utf8.decode? content with
      | none => exact .inr ⟨_, .contentNotText source named isText⟩
      | some text =>
          cases read : SourceFile.parse text with
          | error cause => exact .inr ⟨_, .malformed source named isText read⟩
          | ok parsed =>
              exact .inl ⟨_, stem, content, module, text, parsed, source, named, isText, read, rfl⟩

/-- A file that is no source, or the one that is not to be looked at, comes to nothing. -/
theorem visitFile_of_not_source {path : FilePath} (stands : files.target? here path = some place)
    (other : isSourcePath path = false ∨ excluded = some place) :
    (visitFile files here excluded path).unit? = none ∧
      (visitFile files here excluded path).error? = none := by
  by_cases isSource : isSourcePath path = true
  · obtain rfl : excluded = some place := other.resolve_left (by simp [isSource])
    exact unit?_visitFile_of_target? stands
  · simp [visitFile, isSource, Visit.unit?, Visit.error?]

/-- What an entry is to a scan: a unit, or bad, or nothing. -/
inductive Sorted (files : FileSystem) (here : Location) (directory : FilePath) (location : Location)
    (excluded : Option Location) (name : Bytes) : Prop
  | unit {unit : SourceUnit} (isUnit : IsUnit files here directory location excluded name unit)
  | bad {kind : ErrorKind} (bad : Bad files here directory location excluded name kind)
  | nothing (noUnit : (visit files here directory location excluded name).unit? = none)
      (sound : (visit files here directory location excluded name).error? = none)

/-- A name that leads to a file. -/
theorem sorted_of_file (found : files.find here directory = .ok (location, .directory mode))
    (proper : IsFileName name) {held : Nat} {content : Bytes}
    (reached : files.find here (directory.join ⟨name⟩) = .ok (place, .file held content)) :
    Sorted files here directory location excluded name := by
  by_cases source : ∃ stem, IsSource files here directory location excluded name stem content
  · obtain ⟨stem, source⟩ := source
    rcases source.unit_or_bad with ⟨unit, isUnit⟩ | ⟨kind, bad⟩
    · exact .unit isUnit
    · exact .bad bad
  · have passed : isSourcePath (directory.join ⟨name⟩) = false ∨ excluded = some place := by
      by_contra! both
      obtain ⟨stem, named⟩ := (isSourcePath_join_iff found proper).mp (eq_true_of_ne_false both.1)
      exact source ⟨stem, listed_of_find_join found proper reached, named, place, held, reached,
        both.2⟩
    obtain ⟨noUnit, sound⟩ := visitFile_of_not_source (target?_of_find reached) passed
    rw [← visit_of_find found proper reached] at noUnit sound
    exact .nothing noUnit sound

/-- What is passed over is nothing. -/
theorem sorted_of_passed (passed : visit files here directory location excluded name = .passed) :
    Sorted files here directory location excluded name :=
  .nothing (by rw [passed]; rfl) (by rw [passed]; rfl)

/-- A name that leads to something else than a file. -/
theorem sorted_of_not_file (found : files.find here directory = .ok (location, .directory mode))
    (proper : IsFileName name) {node : FileNode}
    (reached : files.find here (directory.join ⟨name⟩) = .ok (place, node))
    (other : ∀ mode content, node ≠ .file mode content) :
    Sorted files here directory location excluded name := by
  cases stored : files.node? (name :: location) with
  | none => exact sorted_of_passed (by rw [visit, stored])
  | some entry =>
      cases entry with
      | directory mode => exact sorted_of_passed (by rw [visit, stored])
      | file mode content =>
          rcases node?_of_find_join found proper reached with ⟨target, isLink⟩ | ⟨-, isNode⟩
          · cases stored.symm.trans isLink
          · exact absurd (Option.some.inj (isNode.symm.trans stored)) (other mode content)
      | link target =>
          by_cases back : place = location
          · subst back
            have isDirectory := (find_eq_ok_iff.mp found).2
            obtain rfl := Option.some.inj ((find_eq_ok_iff.mp reached).2.symm.trans isDirectory)
            exact .bad (.looping stored reached)
          · refine sorted_of_passed ?_
            cases node with
            | file mode content => exact absurd rfl (other mode content)
            | directory mode => simp [visit, stored, reached, back]
            | link next => simp [visit, stored, reached, back]

/-- A name that leads nowhere. -/
theorem sorted_of_lost (found : files.find here directory = .ok (location, .directory mode))
    (proper : IsFileName name) {fault : FileFault}
    (lost : files.find here (directory.join ⟨name⟩) = .error fault) :
    Sorted files here directory location excluded name := by
  cases stored : files.node? (name :: location) with
  | none => exact sorted_of_passed (by rw [visit, stored])
  | some node =>
      cases node with
      | directory mode => exact sorted_of_passed (by rw [visit, stored])
      | link target => exact .bad (.dangling stored lost)
      | file mode content =>
          have notLink : ∀ target, files.node? (name :: location) ≠ some (.link target) := by
            simp [stored]
          by_cases bad : (∃ stem, IsSourceName name stem) ∧ excluded ≠ some (name :: location)
          · obtain ⟨⟨stem, named⟩, included⟩ := bad
            exact .bad (.unopened named stored included lost)
          · have passed : isSourcePath (directory.join ⟨name⟩) = false ∨
                excluded = some (name :: location) := by
              rw [← isSourcePath_join_iff found proper] at bad
              by_contra! both
              exact bad ⟨eq_true_of_ne_false both.1, both.2⟩
            have visited : visit files here directory location excluded name =
                visitFile files here excluded (directory.join ⟨name⟩) := by
              rw [visit, stored]
            obtain ⟨noUnit, sound⟩ :=
              visitFile_of_not_source (target?_join found proper notLink) passed
            rw [← visited] at noUnit sound
            exact .nothing noUnit sound

/-- Every entry is a unit, or bad, or nothing. -/
theorem sorted (found : files.find here directory = .ok (location, .directory mode))
    (proper : IsFileName name) : Sorted files here directory location excluded name := by
  cases reached : files.find here (directory.join ⟨name⟩) with
  | error fault => exact sorted_of_lost found proper reached
  | ok entry =>
      obtain ⟨place, node⟩ := entry
      cases node with
      | file mode content => exact sorted_of_file found proper reached
      | directory mode => exact sorted_of_not_file found proper reached (by simp)
      | link target => exact sorted_of_not_file found proper reached (by simp)

/-- A visit fails exactly on the bad entries. -/
theorem exists_bad_of_error? (found : files.find here directory = .ok (location, .directory mode))
    (proper : IsFileName name)
    (failed : (Package.visit files here directory location excluded name).error? = some error) :
    ∃ kind, Bad files here directory location excluded name kind := by
  cases sorted found proper with
  | unit isUnit =>
      rw [isUnit.visit found proper] at failed
      cases failed
  | bad bad => exact ⟨_, bad⟩
  | nothing noUnit sound =>
      rw [sound] at failed
      cases failed

/-- What is bad about an entry is told by the visit to it. -/
theorem bad_iff_visit (found : files.find here directory = .ok (location, .directory mode))
    (proper : IsFileName name) :
    Bad files here directory location excluded name kind ↔
      ∃ error, Package.visit files here directory location excluded name = .failed error ∧
        error.kind = kind := by
  constructor
  · intro bad
    obtain ⟨error, visited, -, isKind⟩ := bad.visit found proper
    exact ⟨error, visited, isKind⟩
  · rintro ⟨error, visited, rfl⟩
    obtain ⟨kind, bad⟩ := exists_bad_of_error? found proper (congrArg Visit.error? visited)
    obtain ⟨same, again, -, rfl⟩ := bad.visit found proper
    obtain rfl : error = same := Visit.failed.inj (visited.symm.trans again)
    exact bad

theorem unit?_visit_eq_some_iff (found : files.find here directory = .ok (location, .directory mode))
    (proper : IsFileName name) :
    (Package.visit files here directory location excluded name).unit? = some unit ↔
      IsUnit files here directory location excluded name unit := by
  constructor
  · intro visited
    cases sorted found proper with
    | unit isUnit =>
        rw [isUnit.visit found proper] at visited
        cases visited
        exact isUnit
    | bad bad =>
        obtain ⟨error, failed, -⟩ := bad.visit found proper
        rw [failed] at visited
        cases visited
    | nothing noUnit sound =>
        rw [noUnit] at visited
        cases visited
  · intro isUnit
    rw [isUnit.visit found proper]
    rfl

end Package

end RecordRegistry
