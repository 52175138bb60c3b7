/-
# Generating once more

A generation that has succeeded leaves nothing to do.  The file that it has written is not looked at
by the next scan, wherever it lies and however its path is spelled, and everything else comes to the
same; the next generation therefore finds the text that it would write.
-/

import RecordRegistry.Proofs.File.Writing
import RecordRegistry.Proofs.Generation.Running

namespace RecordRegistry

variable {before after : FileSystem} {here location target : Location} {output directory : FilePath}
  {content name : Bytes}

namespace FileSystem

variable {path : FilePath} {place : Location} {node : FileNode} {mode : Nat}

namespace Written

variable (written : before.Written here output content after target)

include written

/-- What a path leads to elsewhere is found again. -/
theorem find (found : before.find here path = .ok (place, node)) (elsewhere : place ≠ target) :
    after.find here path = .ok (place, node) := by
  obtain ⟨leads, present⟩ := find_eq_ok_iff.mp found
  exact find_eq_ok_iff.mpr ⟨written.grown.locate leads, written.kept _ _ elsewhere present⟩

theorem find_directory (found : before.find here path = .ok (place, .directory mode)) :
    after.find here path = .ok (place, .directory mode) :=
  written.find found fun same =>
    written.notDirectory ⟨mode, same ▸ (find_eq_ok_iff.mp found).2⟩

theorem target?_output : after.target? here output = some target := by
  obtain ⟨mode, found⟩ := written.found
  exact target?_of_find found

/-- The location that was not to be looked at is the one that is not to be looked at now. -/
theorem eq_of_target? (stood : before.target? here output = some place) : place = target := by
  obtain same | ⟨nothing, -⟩ := written.stood
  · exact Option.some.inj (stood.symm.trans same)
  · simp [nothing] at stood

/-- What led to the file leads to the new one. -/
theorem find_target (found : before.find here path = .ok (target, node)) :
    ∃ mode, after.find here path = .ok (target, .file mode content) := by
  obtain ⟨mode, reached⟩ := written.found
  refine ⟨mode, find_eq_ok_iff.mpr ⟨?_, (find_eq_ok_iff.mp reached).2⟩⟩
  exact written.grown.locate (find_eq_ok_iff.mp found).1

theorem target?_of_present (present : before.node? target ≠ none) :
    before.target? here output = some target := by
  obtain same | ⟨-, absent⟩ := written.stood
  · exact same
  · exact absurd absent present

end Written

end FileSystem

namespace Package

open FileSystem

variable {mode : Nat} (written : before.Written here output content after target)

include written

/-- The written file itself comes to no unit, before and after. -/
theorem visit_written (tree : before.IsTree)
    (outer : after.find here directory = .ok (location, .directory mode))
    (found : before.find here directory = .ok (location, .directory mode))
    (same : name :: location = target) :
    (visit before here directory location (before.target? here output) name).unit? = none ∧
      (visit after here directory location (some target) name).unit? = none ∧
      (visit after here directory location (some target) name).error? = none := by
  obtain ⟨mode, present⟩ := written.found
  obtain ⟨-, present⟩ := find_eq_ok_iff.mp present
  subst same
  refine ⟨?_, ?_⟩
  · unfold visit
    cases stored : before.node? (name :: location) with
    | none => rfl
    | some node =>
        cases node with
        | directory mode => rfl
        | link aim => exact absurd stored (written.notLink aim)
        | file mode content =>
            have stands := target?_join found (tree.isFileName stored) (by simp [stored])
            rw [written.target?_of_present (by simp [stored])]
            exact (unit?_visitFile_of_target? stands).1
  · have stands := target?_join outer (written.tree.isFileName present) (by simp [present])
    have visited : visit after here directory location (some (name :: location)) name =
        visitFile after here (some (name :: location)) (directory.join ⟨name⟩) := by
      rw [visit, present]
    rw [visited]
    exact unit?_visitFile_of_target? stands

/-- A file in a directory, other than the written one, is visited as before. -/
theorem visitFile_written (path : FilePath) (place : Location) (elsewhere : place ≠ target)
    (stood : before.target? here path = some place) (stands : after.target? here path = some place)
    (leads : ∀ other node, before.find here path = .ok (other, node) → other = place)
    (sound : (visitFile before here (before.target? here output) path).error? = none) :
    visitFile after here (some target) path =
      visitFile before here (before.target? here output) path := by
  refine visitFile_congr (fun other => written.eq_of_target?) elsewhere stood stands ?_ sound
  intro other node found
  exact written.find found (leads other node found ▸ elsewhere)

/-- A path that leads to a file, be it the written one, is visited as before. -/
theorem visitFile_of_find {path : FilePath} {place : Location} {mode : Nat} {bytes : Bytes}
    (reached : before.find here path = .ok (place, .file mode bytes))
    (sound : (visitFile before here (before.target? here output) path).error? = none) :
    (∃ mode bytes, after.find here path = .ok (place, .file mode bytes)) ∧
      visitFile after here (some target) path =
        visitFile before here (before.target? here output) path := by
  by_cases same : place = target
  · subst same
    obtain ⟨mode, again⟩ := written.find_target reached
    have stood := written.target?_of_present (by simp [(find_eq_ok_iff.mp reached).2])
    rw [stood, visitFile_of_target? (target?_of_find again),
      visitFile_of_target? (target?_of_find reached)]
    exact ⟨⟨_, _, again⟩, rfl⟩
  · have again := written.find reached same
    refine ⟨⟨mode, bytes, again⟩, visitFile_written written path place same
      (target?_of_find reached) (target?_of_find again) ?_ sound⟩
    intro other node more
    rw [reached] at more
    exact (Prod.mk.inj (Except.ok.inj more)).1.symm

/-- A file that stands in a directory, other than the written one, is visited as before, also if no
path leads to it. -/
theorem visitFile_of_stored (tree : before.IsTree)
    (found : before.find here directory = .ok (location, .directory mode))
    (apart : name :: location ≠ target) {held : Nat} {bytes : Bytes}
    (stored : before.node? (name :: location) = some (.file held bytes))
    (sound : (visitFile before here (before.target? here output) (directory.join ⟨name⟩)).error? =
      none) :
    visitFile after here (some target) (directory.join ⟨name⟩) =
      visitFile before here (before.target? here output) (directory.join ⟨name⟩) := by
  have again := written.kept _ _ apart stored
  refine visitFile_written written _ (name :: location) apart
    (target?_join found (tree.isFileName stored) (by simp [stored]))
    (target?_join (written.find_directory found) (tree.isFileName stored) (by simp [again])) ?_ sound
  intro other node reached
  obtain ⟨leads, -⟩ := find_eq_ok_iff.mp reached
  rw [locate_join found (tree.isFileName stored) (locate_eq_ok_iff.mp leads).1
    (by simp [stored])] at leads
  exact (Except.ok.inj leads).symm

/-- A link in a directory is visited as before. -/
theorem visit_of_link (apart : name :: location ≠ target) {aim : FilePath}
    (stored : before.node? (name :: location) = some (.link aim))
    (sound : (visit before here directory location (before.target? here output) name).error? =
      none) :
    visit after here directory location (some target) name =
      visit before here directory location (before.target? here output) name := by
  unfold visit at sound ⊢
  rw [stored] at sound
  rw [stored, written.kept _ _ apart stored]
  dsimp only at sound ⊢
  cases reached : before.find here (directory.join ⟨name⟩) with
  | error fault => simp [reached, Visit.error?] at sound
  | ok entry =>
      obtain ⟨place, node⟩ := entry
      rw [reached] at sound
      cases node with
      | file mode bytes =>
          obtain ⟨⟨mode, bytes, again⟩, same⟩ := visitFile_of_find written reached sound
          rw [again]
          exact same
      | directory mode => rw [written.find_directory reached]
      | link next =>
          have elsewhere : place ≠ target := fun same =>
            written.notLink next (same ▸ (find_eq_ok_iff.mp reached).2)
          rw [written.find reached elsewhere]

/-- Every other name in a directory comes to the same as before. -/
theorem visit_other (tree : before.IsTree)
    (found : before.find here directory = .ok (location, .directory mode))
    (apart : name :: location ≠ target)
    (sound : (visit before here directory location (before.target? here output) name).error? =
      none) :
    visit after here directory location (some target) name =
      visit before here directory location (before.target? here output) name := by
  cases stored : before.node? (name :: location) with
  | none =>
      cases come : after.node? (name :: location) with
      | none => simp only [visit, stored, come]
      | some node => simp only [visit, stored, come, written.made _ node apart stored come]
  | some node =>
      cases node with
      | directory mode => simp only [visit, stored, written.kept _ _ apart stored]
      | link aim => exact visit_of_link written apart stored sound
      | file mode bytes =>
          simp only [visit, stored] at sound
          simp only [visit, stored, written.kept _ _ apart stored]
          exact visitFile_of_stored written tree found apart stored sound

/-- After a file has been written, a scan that leaves it out finds the same units as before. -/
theorem scan_written (tree : before.IsTree) {package : Package}
    (success : scan before here directory (some output) = .ok package) :
    scan after here directory (some output) = .ok package := by
  obtain ⟨location, mode, found, sound, rfl⟩ := scan_eq_ok_iff.mp success
  have outer := written.find_directory found
  simp only [Option.bind_some] at sound
  -- A name that the directory does not have comes to nothing, so all names are sound.
  have sound : ∀ name, (visit before here directory location (before.target? here output)
      name).error? = none := by
    intro name
    by_cases absent : before.node? (name :: location) = none
    · rw [visit, absent]
      rfl
    · exact sound name (mem_names.mpr absent)
  have present {files : FileSystem} {excluded : Option Location} {name : Bytes} {unit : SourceUnit}
      (source : (visit files here directory location excluded name).unit? = some unit) :
      name ∈ files.names location := by
    rw [mem_names]
    intro absent
    simp [visit, absent, Visit.unit?] at source
  refine scan_eq_ok_iff.mpr ⟨location, mode, outer, ?_, ?_⟩
  · intro name inside
    simp only [Option.bind_some, written.target?_output]
    by_cases same : name :: location = target
    · exact (visit_written written tree outer found same).2.2
    · rw [visit_other written tree found same (sound name)]
      exact sound name
  · congr 1
    simp only [Option.bind_some, written.target?_output]
    refine filterMap_mergeSort_congr (tree.nodup_names location)
      (written.tree.nodup_names location) _ _ fun name unit => ?_
    by_cases same : name :: location = target
    · obtain ⟨first, second, -⟩ := visit_written written tree outer found same
      simp [first, second]
    · have again := visit_other written tree found same (sound name)
      constructor
      · rintro ⟨-, source⟩
        rw [← again] at source
        exact ⟨present source, source⟩
      · rintro ⟨-, source⟩
        rw [again] at source
        exact ⟨present source, source⟩

end Package

namespace Generator

open FileSystem

variable {generator : Generator} {files changed : FileSystem} {report : Report} {plan : Plan}
  {text : String}

/-- After a run that has succeeded, the plan is the same, and the output holds the text for it. -/
theorem prepare_run (tree : files.IsTree) (downward : FilePath.parentPiece ∉ generator.output.pieces)
    (notLink : ¬ files.EndsInLink here generator.output)
    (success : generator.run files here = (changed, .ok report)) :
    ∃ plan text outcome, generator.prepare files here = .ok (plan, text) ∧
      generator.prepare changed here = .ok (plan, text) ∧
      changed.read here generator.output = .ok (Utf8.encode text) ∧
      report = ⟨generator.output, plan.files.length, plan.declarations.length, plan.entries,
        outcome⟩ := by
  obtain ⟨plan, text, outcome, prepared, replaced, rfl⟩ := run_eq_ok_iff.mp success
  have unspoken : FilePath.parentPiece ∉ generator.output.spoken :=
    fun held => downward (List.mem_of_mem_filter held)
  refine ⟨plan, text, outcome, prepared, ?_⟩
  obtain ⟨location, written⟩ | ⟨rfl, held⟩ :=
    Replacement.written_or_unchanged_of_run tree unspoken notLink replaced
  · refine ⟨?_, ?_, rfl⟩
    · obtain ⟨planned, rendered⟩ := prepare_eq_ok_iff.mp prepared
      refine prepare_eq_ok_iff.mpr ⟨?_, rendered⟩
      unfold Generator.plan at planned ⊢
      cases scanned : Package.scan files here generator.source (some generator.output) with
      | error error => simp [scanned] at planned
      | ok package =>
          rw [Package.scan_written written tree scanned, ← scanned]
          exact planned
    · obtain ⟨mode, found⟩ := written.found
      simp [FileSystem.read, found]
  · exact ⟨prepared, held, rfl⟩

/-- Once a run has succeeded there is nothing left to do: the plan is the same as before, the output
holds the text that would be rendered, it compares as up to date, and running once more leaves the
file system as it is.  It does not matter whether the output has been there, or its directory, nor
where it lies and what it held. -/
theorem settled_of_run (tree : files.IsTree)
    (downward : FilePath.parentPiece ∉ generator.output.pieces)
    (notLink : ¬ files.EndsInLink here generator.output)
    (success : generator.run files here = (changed, .ok report)) :
    (∃ plan, generator.plan files here = .ok plan ∧ generator.plan changed here = .ok plan) ∧
      (∃ text, generator.render changed here = .ok text ∧
        changed.read here generator.output = .ok (Utf8.encode text)) ∧
      generator.check changed here = .ok .upToDate ∧
      generator.run changed here = (changed, .ok { report with outcome := .unchanged }) := by
  obtain ⟨plan, text, outcome, before, after, held, rfl⟩ :=
    prepare_run tree downward notLink success
  have rendered : generator.render changed here = .ok text := by
    simp [render, after]
  refine ⟨⟨plan, (prepare_eq_ok_iff.mp before).1, (prepare_eq_ok_iff.mp after).1⟩,
    ⟨text, rendered, held⟩, ?_, ?_⟩
  · simp [check, rendered, held]
  · exact run_eq_ok_iff.mpr
      ⟨plan, text, .unchanged, after, Replacement.run_of_read held, rfl⟩

/-- The run for the small package, which makes the directory of its output. -/
theorem settled_of_run_smallGenerator :
    smallFiles.IsTree ∧ FilePath.parentPiece ∉ smallGenerator.output.pieces ∧
      ¬ smallFiles.EndsInLink [] smallGenerator.output ∧
      ∃ changed report, smallGenerator.run smallFiles [] = (changed, .ok report) ∧
        (∃ plan, smallGenerator.plan smallFiles [] = .ok plan ∧
          smallGenerator.plan changed [] = .ok plan) ∧
        (∃ text, smallGenerator.render changed [] = .ok text ∧
          changed.read [] smallGenerator.output = .ok (Utf8.encode text)) ∧
        smallGenerator.check changed [] = .ok .upToDate ∧
        smallGenerator.run changed [] = (changed, .ok { report with outcome := .unchanged }) := by
  have downward : FilePath.parentPiece ∉ smallGenerator.output.pieces := by decide +kernel
  have notLink : ¬ smallFiles.EndsInLink [] smallGenerator.output := by
    rintro ⟨location, target, leads, -⟩
    have missing : smallFiles.locate [] smallGenerator.output false = .error .missing := by
      decide +kernel
    simp [missing] at leads
  obtain ⟨plan, text, prepared⟩ := exists_prepare_smallGenerator
  have success := run_eq_ok_iff.mpr
    ⟨plan, text, .written, prepared, run_smallOutput (Utf8.encode text), rfl⟩
  exact ⟨isTree_smallFiles, downward, notLink, _, _, success,
    settled_of_run isTree_smallFiles downward notLink success⟩

end Generator

end RecordRegistry
