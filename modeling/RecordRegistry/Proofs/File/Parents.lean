/-
# Where parents lead

Silent pieces lead nowhere, so that where a path leads to a directory depends on what it says
alone.  A path that does not say `..` leads to its last name in the directory that its parent leads
to, and the location that a path stands for is the one it leads to, whether it can be followed or
only its parent can.
-/

import RecordRegistry.Proofs.File.Following
import RecordRegistry.Proofs.File.Pieces

namespace RecordRegistry

namespace FileSystem

variable {files : FileSystem} {here there : Location} {pieces : List Bytes} {links : Nat}
  {path other : FilePath}

theorem acceptPath_eq_ok_iff :
    acceptPath path = .ok () ↔
      0 ∉ path.bytes ∧ path.bytes ≠ [] ∧ path.bytes.length ≤ pathLimit := by
  simp only [acceptPath]
  split
  · next held => simpa using fun absent => absurd (by simpa using held) absent
  · next absent =>
      split
      · next empty => simp [empty]
      · split <;> simp_all

/-- Whatever leads to a directory starts from one. -/
theorem Leads.inside (leads : files.Leads here pieces links there)
    (arrives : files.HoldsDirectory there) : files.HoldsDirectory here := by
  cases leads with
  | arrived => exact arrives
  | silent inside => exact inside
  | parent inside => exact inside
  | name inside => exact inside
  | link inside => exact inside

theorem Leads.of_silent {piece : Bytes} (unspoken : FilePath.isSilent piece = true)
    (leads : files.Leads here (piece :: pieces) links there) :
    files.Leads here pieces links there := by
  cases leads with
  | silent _ _ onward => exact onward
  | parent => simp at unspoken
  | name _ spoken => simp [unspoken] at spoken
  | link _ spoken => simp [unspoken] at spoken

/-- Leaving silent pieces out leads to the same place. -/
theorem Leads.withoutSilent (leads : files.Leads here pieces links there) :
    files.Leads here (pieces.filter fun piece => !FilePath.isSilent piece) links there := by
  induction pieces generalizing here links with
  | nil => exact leads
  | cons piece rest ih =>
      by_cases unspoken : FilePath.isSilent piece = true
      · rw [List.filter_cons_of_neg (by simp [unspoken])]
        exact ih (leads.of_silent unspoken)
      · rw [List.filter_cons_of_pos (by simpa using unspoken)]
        obtain ⟨early, late, middle, first, onward, rfl⟩ := leads.split [piece] rest rfl
        exact first.append (ih onward)

/-- Putting silent pieces in leads to the same place, if that is a directory. -/
theorem Leads.withSilent (arrives : files.HoldsDirectory there)
    (leads : files.Leads here (pieces.filter fun piece => !FilePath.isSilent piece) links there) :
    files.Leads here pieces links there := by
  induction pieces generalizing here links with
  | nil => exact leads
  | cons piece rest ih =>
      by_cases unspoken : FilePath.isSilent piece = true
      · rw [List.filter_cons_of_neg (by simp [unspoken])] at leads
        exact .silent (leads.inside arrives) unspoken (ih leads)
      · rw [List.filter_cons_of_pos (by simpa using unspoken)] at leads
        obtain ⟨early, late, middle, first, onward, rfl⟩ :=
          leads.split [piece] (rest.filter fun piece => !FilePath.isSilent piece) rfl
        exact first.append (ih onward)

/-- Two paths that say the same lead to the same directory. -/
theorem find_directory_congr (found : files.find here path = .ok (there, .directory mode))
    (same : other.spoken = path.spoken) (starts : other.isAbsolute = path.isAbsolute)
    (accepted : acceptPath other = .ok ()) :
    files.find here other = .ok (there, .directory mode) := by
  obtain ⟨leads, arrives⟩ := find_eq_ok_iff.mp found
  obtain ⟨-, links, few, leads⟩ := locate_eq_ok_iff.mp leads
  refine find_eq_ok_iff.mpr ⟨locate_eq_ok_iff.mpr ⟨accepted, links, few, ?_⟩, arrives⟩
  refine Leads.withSilent ⟨mode, arrives⟩ ?_
  have said := leads.withoutSilent
  rw [show start here other = start here path by simp [start, starts]]
  exact (congrArg (files.Leads _ · _ _) same).mpr said

/-- A path whose last word is a name leads to that name in the directory that the words before it
lead to, or through a link there. -/
theorem eq_cons_or_link_of_locate {before : List Bytes} {last : Bytes} {outer : Location}
    (found : files.locate here path true = .ok there) (cut : path.spoken = before ++ [last])
    (notParent : last ≠ FilePath.parentPiece)
    (leads : files.Leads (start here path) before links outer) :
    there = last :: outer ∨ ∃ target, files.node? (last :: outer) = some (.link target) := by
  obtain ⟨-, many, -, all⟩ := locate_eq_ok_iff.mp found
  have all : files.Leads (start here path) path.spoken many there := all.withoutSilent
  rw [cut] at all
  obtain ⟨early, late, middle, first, onward, -⟩ := all.split _ _ rfl
  obtain rfl := first.unique leads
  have spoken : FilePath.isSilent last = false := by
    have member : last ∈ path.spoken := by simp [cut]
    simpa using (List.mem_filter.mp member).2
  cases onward with
  | silent _ unspoken => simp [unspoken] at spoken
  | parent => exact absurd rfl notParent
  | name _ _ _ _ _ rest =>
      cases rest
      exact .inl rfl
  | link _ _ _ _ isLink => exact .inr ⟨_, isLink⟩

variable {directory name : Bytes} {node : FileNode} {location : Location}

/-- The parent of a name in a directory leads to the directory, however long the name is. -/
theorem find_directory_join (found : files.find here path = .ok (location, .directory mode))
    (proper : IsFileName name) :
    files.find here (path.join ⟨name⟩).directory = .ok (location, .directory mode) := by
  have accepted := acceptPath_eq_ok_iff.mp
    (locate_eq_ok_iff.mp (find_eq_ok_iff.mp found).1).1
  obtain ⟨-, starts⟩ := FilePath.join_pieces accepted.2.1 proper.unslashed
  obtain ⟨outer, begins⟩ := FilePath.directory_spoken
    (FilePath.join_spoken accepted.2.1 proper.spoken proper.unslashed)
  refine find_directory_congr found outer (begins.trans starts) (acceptPath_eq_ok_iff.mpr ?_)
  obtain current | ⟨shorter, some⟩ :=
    FilePath.directory_join accepted.2.1 proper.spoken proper.unslashed
  · rw [current]
    decide
  · exact ⟨fun held => accepted.1 (shorter.subset held), some,
      shorter.length_le.trans accepted.2.2⟩

/-- A name in a directory leads to what the directory holds under it, through a link if it is one,
unless the path is too long. -/
theorem locate_join (found : files.find here path = .ok (location, .directory mode))
    (proper : IsFileName name) (accepted : acceptPath (path.join ⟨name⟩) = .ok ())
    (notLink : ∀ target, files.node? (name :: location) ≠ some (.link target)) :
    files.locate here (path.join ⟨name⟩) true = .ok (name :: location) := by
  obtain ⟨leads, arrives⟩ := find_eq_ok_iff.mp found
  obtain ⟨begun, links, few, leads⟩ := locate_eq_ok_iff.mp leads
  obtain ⟨⟨before, cut, content⟩, starts⟩ :=
    FilePath.join_pieces (acceptPath_eq_ok_iff.mp begun).2.1 proper.unslashed
  refine locate_eq_ok_iff.mpr ⟨accepted, links + 0, few, ?_⟩
  rw [show start here (path.join ⟨name⟩) = start here path by simp [start, starts], cut]
  refine Leads.append (Leads.withSilent ⟨mode, arrives⟩ ?_)
    (.name ⟨mode, arrives⟩ proper.spoken proper.notParent proper.short notLink (.arrived _))
  rw [content]
  exact leads.withoutSilent

/-- The location that a path stands for, with its directory named. -/
theorem target?_eq (files : FileSystem) (here : Location) (path : FilePath) :
    files.target? here path =
      match files.find here path with
      | .ok (location, _) => some location
      | .error _ =>
        match files.find here path.directory, path.fileName? with
        | .ok (location, _), some name => some (name :: location)
        | _, _ => none := rfl

theorem target?_of_find (found : files.find here path = .ok (there, node)) :
    files.target? here path = some there := by
  rw [target?_eq, found]

/-- The location that a name in a directory stands for, unless it is a link, is the one where the
directory holds it. -/
theorem target?_join (found : files.find here path = .ok (location, .directory mode))
    (proper : IsFileName name)
    (notLink : ∀ target, files.node? (name :: location) ≠ some (.link target)) :
    files.target? here (path.join ⟨name⟩) = some (name :: location) := by
  have begun := (acceptPath_eq_ok_iff.mp (locate_eq_ok_iff.mp (find_eq_ok_iff.mp found).1).1).2.1
  rw [target?_eq]
  split
  · next place node reached =>
      obtain ⟨leads, -⟩ := find_eq_ok_iff.mp reached
      have accepted := (locate_eq_ok_iff.mp leads).1
      rw [locate_join found proper accepted notLink] at leads
      rw [Except.ok.inj leads]
  · rw [find_directory_join found proper,
      FilePath.fileName?_eq (FilePath.join_spoken begun proper.spoken proper.unslashed)
        proper.notParent]

end FileSystem

end RecordRegistry
