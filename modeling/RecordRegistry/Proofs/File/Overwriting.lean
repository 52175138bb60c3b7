/-
# What is read where a file has come

A file takes the place of the name at the end of a path, also if a link stands there.  Whatever is
read under the path afterwards is the new content.  It cannot be read at all if the path leads
through the very link that has given way to the file, and then its directory is not reached any
more.
-/

import RecordRegistry.Proofs.Results
import RecordRegistry.Proofs.File.Replacing

namespace RecordRegistry

namespace FileSystem

variable {files before after : FileSystem}
  {here there elsewhere directory location place : Location} {path : FilePath}
  {pieces : List Bytes} {links more mode : Nat} {name content bytes : Bytes}

/-- A file has come to a location.  Every directory is still there, and every link beside the
location, and no link has come; there may be more directories and files. -/
structure Covered (before : FileSystem) (location : Location) (after : FileSystem) : Prop where
  isFile : ∃ mode content, after.node? location = some (.file mode content)
  directory : ∀ place held, before.node? place = some (.directory held) →
    after.node? place = some (.directory held)
  link : ∀ place target, place ≠ location →
    (before.node? place = some (.link target) ↔ after.node? place = some (.link target))

theorem covered_put_file (named : location ≠ [])
    (notDirectory : ¬ files.HoldsDirectory location) :
    files.Covered location (files.put location (.file mode content)) where
  isFile := ⟨mode, content, node?_put_self named⟩
  directory place held isDirectory := by
    rw [node?_put_of_ne named]
    · exact isDirectory
    · rintro rfl
      exact notDirectory ⟨held, isDirectory⟩
  link place target different := by rw [node?_put_of_ne named different]

namespace Covered

variable (covered : before.Covered location after)

include covered

theorem notLink (target : FilePath) : after.node? location ≠ some (.link target) := by
  obtain ⟨mode, content, isFile⟩ := covered.isFile
  simp [isFile]

theorem notDirectory : ¬ after.HoldsDirectory location := by
  obtain ⟨mode, content, isFile⟩ := covered.isFile
  exact not_holdsDirectory_of_file isFile

theorem holdsDirectory (inside : before.HoldsDirectory place) : after.HoldsDirectory place :=
  inside.imp (covered.directory place)

/-- Where no link has been covered, everything leads on as before. -/
theorem toExtends (uncovered : ∀ target, before.node? location ≠ some (.link target)) :
    before.Extends after where
  directory := covered.directory
  link place target := by
    by_cases same : place = location
    · subst same
      exact iff_of_false (uncovered target) (covered.notLink target)
    · exact covered.link place target same

/-- What leads to a directory now has led to the same one before, if it has led anywhere.  The two
ways are followed side by side; at the location itself there is no way on. -/
theorem unique (leads : before.Leads here pieces links there)
    (again : after.Leads here pieces more elsewhere)
    (arrives : after.HoldsDirectory elsewhere) : elsewhere = there := by
  induction leads generalizing more with
  | arrived =>
      cases again
      rfl
  | silent inside unspoken _ ih => exact ih (again.of_silent unspoken)
  | parent inside _ ih =>
      cases again with
      | silent _ unspoken => simp at unspoken
      | parent _ onward => exact ih onward
      | name _ _ notParent => exact absurd rfl notParent
      | link _ _ notParent => exact absurd rfl notParent
  | @name here there piece rest links inside spoken notParent short notLink _ ih =>
      cases again with
      | silent _ unspoken => simp [spoken] at unspoken
      | parent => exact absurd rfl notParent
      | name _ _ _ _ _ onward => exact ih onward
      | link _ _ _ _ isLink =>
          have same : piece :: here = location := by
            by_contra different
            exact notLink _ ((covered.link _ _ different).mpr isLink)
          exact absurd (same ▸ isLink) (covered.notLink _)
  | @link here there piece rest target links inside spoken notParent short isLink _ ih =>
      cases again with
      | silent _ unspoken => simp [spoken] at unspoken
      | parent => exact absurd rfl notParent
      | name _ _ _ _ notLink onward =>
          have same : piece :: here = location := by
            by_contra different
            exact notLink _ ((covered.link _ _ different).mp isLink)
          exact absurd (same ▸ onward.inside arrives) covered.notDirectory
      | link _ _ _ _ linked onward =>
          have different : piece :: here ≠ location := by
            intro same
            exact covered.notLink _ (same ▸ linked)
          have target := (covered.link _ _ different).mp isLink
          rw [linked] at target
          cases target
          exact ih onward

/-- What has led to a directory leads there still, unless the covered link is on the way; then this
link itself has led to a directory. -/
theorem leads_or (leads : before.Leads here pieces links there)
    (arrives : before.HoldsDirectory there) :
    after.Leads here pieces links there ∨
      ∃ target more middle, before.node? location = some (.link target) ∧
        before.Leads (start location.tail target) target.pieces more middle ∧
        before.HoldsDirectory middle := by
  induction leads with
  | arrived here => exact .inl (.arrived here)
  | silent inside unspoken _ ih =>
      exact (ih arrives).imp_left fun onward =>
        .silent (covered.holdsDirectory inside) unspoken onward
  | parent inside _ ih =>
      exact (ih arrives).imp_left fun onward => .parent (covered.holdsDirectory inside) onward
  | @name here there piece rest links inside spoken notParent short notLink _ ih =>
      refine (ih arrives).imp_left fun onward =>
        .name (covered.holdsDirectory inside) spoken notParent short (fun target isLink => ?_) onward
      by_cases same : piece :: here = location
      · exact covered.notLink target (same ▸ isLink)
      · exact notLink target ((covered.link _ _ same).mpr isLink)
  | @link here there piece rest target links inside spoken notParent short isLink onward ih =>
      by_cases same : piece :: here = location
      · subst same
        obtain ⟨early, late, middle, toMiddle, fromMiddle, -⟩ := onward.split _ _ rfl
        exact .inr ⟨target, early, middle, isLink, toMiddle, fromMiddle.inside arrives⟩
      · exact (ih arrives).imp_left fun onward =>
          .link (covered.holdsDirectory inside) spoken notParent short
            ((covered.link _ _ same).mp isLink) onward

end Covered

theorem read_eq_ok_iff :
    files.read here path = .ok bytes ↔
      ∃ location mode, files.find here path = .ok (location, .file mode bytes) := by
  unfold FileSystem.read
  cases files.find here path with
  | error fault => simp
  | ok entry =>
      obtain ⟨location, node⟩ := entry
      cases node <;> simp [eq_comm]

namespace EndsAt

variable (ends : before.EndsAt here path directory name false)
  (covered : before.Covered (name :: directory) after)

include ends covered

/-- If a path is found where a file has come to its end, the file is what it leads to. -/
theorem eq_of_locate (found : after.locate here path true = .ok there) :
    there = name :: directory := by
  obtain ⟨outer, links, cut, -, leads⟩ := ends.cut_of_plain
  obtain ⟨-, more, -, all⟩ := locate_eq_ok_iff.mp found
  rw [cut] at all
  obtain ⟨early, late, middle, first, onward, -⟩ := all.split _ _ rfl
  cases onward with
  | silent _ unspoken _ => simp [ends.proper.spoken] at unspoken
  | parent => exact absurd rfl ends.proper.notParent
  | name inside _ _ _ _ rest =>
      cases rest
      rw [covered.unique leads first inside]
  | link inside _ _ _ isLink _ =>
      rw [covered.unique leads first inside] at isLink
      exact absurd isLink (covered.notLink _)

theorem eq_of_read (stored : after.node? (name :: directory) = some (.file mode content))
    (read : after.read here path = .ok bytes) : bytes = content := by
  obtain ⟨there, other, found⟩ := read_eq_ok_iff.mp read
  obtain ⟨leads, present⟩ := find_eq_ok_iff.mp found
  obtain rfl := ends.eq_of_locate covered leads
  rw [stored] at present
  cases present
  rfl

/-- The file is found if its directory is reached through no more links than a path may have. -/
theorem read_of_leads (stored : after.node? (name :: directory) = some (.file mode content))
    {outer : List Bytes} (cut : path.pieces = outer ++ [name]) (few : links ≤ linkLimit)
    (leads : after.Leads (start here path) outer links directory) :
    after.read here path = .ok content := by
  have inside := covered.holdsDirectory ends.inside
  refine read_eq_ok_iff.mpr ⟨name :: directory, mode, find_eq_ok_iff.mpr ⟨?_, stored⟩⟩
  rw [locate_eq_ok_iff, cut]
  exact ⟨ends.accepted, links + 0, few, leads.append (.name inside ends.proper.spoken
    ends.proper.notParent ends.proper.short (covered.notLink) (.arrived _))⟩

/-- The file is read if its directory is still reached. -/
theorem read_of_directory {held : Nat}
    (stored : after.node? (name :: directory) = some (.file mode content))
    (reached : after.find here path.directory = .ok (place, .directory held)) :
    after.read here path = .ok content := by
  obtain ⟨outer, links, cut, -, leads⟩ := ends.cut_of_plain
  obtain ⟨arrived, arrives⟩ := find_eq_ok_iff.mp reached
  obtain ⟨-, more, few, again⟩ := locate_eq_ok_iff.mp arrived
  -- The path to the directory says what the whole path says before the name.
  have said : path.spoken = outer.filter (fun piece => !FilePath.isSilent piece) ++ [name] := by
    rw [FilePath.spoken, cut, List.filter_append, List.filter_cons_of_pos
      (by simp [ends.proper.spoken]), List.filter_nil]
  obtain ⟨outside, starts⟩ := FilePath.directory_spoken said
  have again := again.withoutSilent
  rw [show start here path.directory = start here path by simp [start, starts],
    ← FilePath.spoken, outside] at again
  have again := Leads.withSilent ⟨held, arrives⟩ again
  obtain rfl := covered.unique leads again ⟨held, arrives⟩
  exact ends.read_of_leads covered stored cut few again

/-- The file is read if it has not taken the place of a link. -/
theorem read_of_notLink (stored : after.node? (name :: directory) = some (.file mode content))
    (notLink : ∀ target, before.node? (name :: directory) ≠ some (.link target)) :
    after.read here path = .ok content := by
  obtain ⟨outer, links, cut, few, leads⟩ := ends.cut_of_plain
  exact ends.read_of_leads covered stored cut few ((covered.toExtends notLink).leads leads)

/-- The file is read if something has been read before.  If it has taken the place of a link, the
path did not lead through this link to the directory: the link led to a file. -/
theorem read_of_read (stored : after.node? (name :: directory) = some (.file mode content))
    (read : before.read here path = .ok bytes) : after.read here path = .ok content := by
  obtain ⟨outer, links, cut, few, leads⟩ := ends.cut_of_plain
  obtain onward | ⟨target, more, middle, isLink, toMiddle, arrives⟩ :=
    covered.leads_or leads ends.inside
  · exact ends.read_of_leads covered stored cut few onward
  · obtain ⟨there, other, found⟩ := read_eq_ok_iff.mp read
    obtain ⟨located, isFile⟩ := find_eq_ok_iff.mp found
    obtain ⟨-, many, -, all⟩ := locate_eq_ok_iff.mp located
    rw [cut] at all
    obtain ⟨early, late, place, first, last, -⟩ := all.split _ _ rfl
    obtain rfl := first.unique leads
    cases last with
    | silent _ unspoken => simp [ends.proper.spoken] at unspoken
    | parent => exact absurd rfl ends.proper.notParent
    | name _ _ _ _ notLink => exact absurd isLink (notLink target)
    | link _ _ _ _ linked onward =>
        rw [isLink] at linked
        cases linked
        rw [List.append_nil] at onward
        obtain ⟨held, stands⟩ := arrives
        rw [onward.unique toMiddle, stands] at isFile
        simp at isFile

end EndsAt

end FileSystem

namespace Replacement

open FileSystem

variable {replacement : Replacement} {before changed : FileSystem} {outcome : WriteOutcome}
  {bytes : Bytes} {place : Location}

/-- What a run that has succeeded lets be read.  Nothing but the content is read; and that is read
if the directory of the file is still reached, or if no link has given way to the file. -/
structure Readable (replacement : Replacement) (before changed : FileSystem) : Prop where
  only : ∀ bytes, changed.read replacement.here replacement.path = .ok bytes →
    bytes = replacement.content
  inDirectory : ∀ place mode, changed.find replacement.here replacement.path.directory =
      .ok (place, .directory mode) →
    changed.read replacement.here replacement.path = .ok replacement.content
  besideLinks : (∀ location target, before.node? location = some (.link target) →
      changed.node? location = some (.link target)) →
    changed.read replacement.here replacement.path = .ok replacement.content

/-- A run that succeeds has found the content there, or it has put a file with it where the path
ends once the parents are made. -/
theorem unchanged_or_put_of_run (success : replacement.run before = (changed, .ok outcome)) :
    (outcome = .unchanged ∧ changed = before ∧
        before.read replacement.here replacement.path = .ok replacement.content) ∨
      outcome = .written ∧ ∃ made place directory name mode,
        replacement.Prepared before made place ∧
        made.EndsAt replacement.here replacement.path directory name false ∧
        ¬ made.HoldsDirectory (name :: directory) ∧
        changed = made.put (name :: directory) (.file mode replacement.content) := by
  have reached := replacement.reached_run before
  rw [success] at reached
  cases reached with
  | unchanged held => exact .inl ⟨rfl, rfl, held⟩
  | written prepared ends notDirectory =>
      exact .inr ⟨rfl, _, _, _, _, _, prepared, ends, notDirectory, rfl⟩

/-- Where the content has come to the end of the path, readers get it. -/
theorem readable_of_covered {made : FileSystem} {directory : Location} {name : Bytes} {mode : Nat}
    (ends : made.EndsAt replacement.here replacement.path directory name false)
    (covered : made.Covered (name :: directory) changed)
    (stored : changed.node? (name :: directory) = some (.file mode replacement.content))
    (links : ∀ location target, made.node? location = some (.link target) →
      before.node? location = some (.link target)) : replacement.Readable before changed where
  only _ read := ends.eq_of_read covered stored read
  inDirectory _ _ reached := ends.read_of_directory covered stored reached
  besideLinks kept := by
    refine ends.read_of_notLink covered stored fun target isLink => ?_
    have stays := kept _ target (links _ target isLink)
    rw [stored] at stays
    cases stays

theorem readable_of_read
    (held : changed.read replacement.here replacement.path = .ok replacement.content) :
    replacement.Readable before changed where
  only bytes read := by
    rw [held] at read
    exact (Except.ok.inj read).symm
  inDirectory _ _ _ := held
  besideLinks _ := held

theorem readable_of_run (success : replacement.run before = (changed, .ok outcome)) :
    replacement.Readable before changed := by
  rcases unchanged_or_put_of_run success with
    ⟨-, rfl, held⟩ | ⟨-, made, _, directory, name, mode, prepared, ends, notDirectory, rfl⟩
  · exact readable_of_read held
  · have named := List.cons_ne_nil name directory
    have grown := (grows_of_parents prepared.parents).toExtends
    exact readable_of_covered ends (covered_put_file named notDirectory) (node?_put_self named)
      fun location target => (grown.link location target).mpr

end Replacement

end RecordRegistry
