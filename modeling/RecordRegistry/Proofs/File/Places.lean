/-
# Files under the paths to their locations

Where no link is on the way, the path to a location leads to that location and nowhere else.  So
what is looked up, made or written under such a path is told by what there is at the location, as
long as the path is not too long to be followed at all.
-/

import Mathlib.Data.List.Infix
import RecordRegistry.Proofs.File.Absolute
import RecordRegistry.Proofs.Results

namespace RecordRegistry

namespace Location

open FilePath

variable {name : Bytes} {location outer : Location}

theorem IsProper.tail (proper : IsProper (name :: outer)) : IsProper outer := fun name inside =>
  proper name (.tail _ inside)

theorem IsProper.head (proper : IsProper (name :: outer)) : FileSystem.IsFileName name :=
  proper name List.mem_cons_self

/-- Of a path to a location only the root and the names say something. -/
theorem spoken_path (proper : location.IsProper) : location.path.spoken = location.reverse := by
  have loud : location.reverse.filter (fun piece => !isSilent piece) = location.reverse :=
    List.filter_eq_self.mpr fun name inside => by
      simp [(proper name (List.mem_reverse.mp inside)).spoken]
  rw [← filter_body, body_path proper]
  split
  · next same =>
      subst same
      decide
  · exact loud

theorem pieces_path (proper : IsProper (name :: outer)) :
    (path (name :: outer)).pieces = ([] :: outer.reverse) ++ [name] := by
  have body := body_path proper
  obtain ⟨rest, cut, -⟩ := FilePath.isAbsolute_iff.mp (isAbsolute_path (name :: outer))
  rw [body_eq, isAbsolute_path, if_pos rfl, if_neg (List.cons_ne_nil _ _), cut,
    List.tail_cons] at body
  rw [cut, body, List.reverse_cons, List.cons_append]

theorem bytes_path (some : outer ≠ []) (name : Bytes) :
    (path (name :: outer)).bytes = outer.path.bytes ++ slash :: name := by
  simp only [path, List.reverse_cons]
  rw [intercalate_concat (by simpa using some), List.cons_append]

/-- Only the path to the root ends with a slash. -/
theorem getLast?_bytes_path (proper : IsProper (name :: outer)) :
    (path (name :: outer)).bytes.getLast? ≠ some slash := by
  have unended : (slash :: name).getLast? ≠ some slash := by
    cases name with
    | nil => exact absurd proper.head.spoken (by decide)
    | cons byte rest =>
        rw [List.getLast?_cons_cons]
        exact fun same => proper.head.unslashed (List.mem_of_getLast? same)
  by_cases outside : outer = []
  · subst outside
    simpa [path] using unended
  · rw [bytes_path outside, List.getLast?_append_of_ne_nil _ (List.cons_ne_nil _ _)]
    exact unended

/-- The path to a name in a directory leads on from the path to the directory. -/
theorem join_path (proper : IsProper (name :: outer)) :
    outer.path.join ⟨name⟩ = path (name :: outer) := by
  rw [join, isAbsolute_of_unslashed proper.head.unslashed, if_neg Bool.false_ne_true]
  cases outer with
  | nil => simp [path]
  | cons next further =>
      have begun : (path (next :: further)).bytes ≠ [] := List.cons_ne_nil _ _
      rw [if_neg (by simp [begun, getLast?_bytes_path proper.tail]),
        ← bytes_path (List.cons_ne_nil next further)]

theorem zero_notMem_path (proper : location.IsProper) : 0 ∉ location.path.bytes := by
  induction location with
  | nil => decide
  | cons name outer ih =>
      have named := proper.head.nonzero
      by_cases outside : outer = []
      · subst outside
        simpa [path, slash] using named
      · rw [bytes_path outside, List.mem_append, List.mem_cons]
        rintro (early | same | late)
        · exact ih proper.tail early
        · exact absurd same (by decide)
        · exact named late

/-- The path to a location is short enough to be followed. -/
def Fits (location : Location) : Prop := location.path.bytes.length ≤ FileSystem.pathLimit

theorem acceptPath_path_iff (proper : location.IsProper) :
    FileSystem.acceptPath location.path = .ok () ↔ location.Fits := by
  rw [FileSystem.acceptPath_eq_ok_iff]
  exact ⟨fun accepted => accepted.2.2,
    fun fits => ⟨zero_notMem_path proper, List.cons_ne_nil _ _, fits⟩⟩

/-- What is further out has a shorter path. -/
theorem Fits.tail (fits : Fits (name :: outer)) : Fits outer := by
  by_cases outside : outer = []
  · subst outside
    exact Nat.le_of_ble_eq_true rfl
  · rw [Fits, bytes_path outside, List.length_append] at fits
    exact Nat.le_trans (Nat.le_add_right _ _) fits

end Location

namespace FileSystem

open Location (IsProper Fits)

variable {files : FileSystem} {here there location outer : Location} {name content : Bytes}
  {node : FileNode}

/-- No link is at a location or on the way to it. -/
def Unlinked (files : FileSystem) (location : Location) : Prop :=
  ∀ outer, outer <:+ location → ∀ target, files.node? outer ≠ some (.link target)

theorem Unlinked.tail (unlinked : files.Unlinked (name :: outer)) : files.Unlinked outer :=
  fun _ ends => unlinked _ (ends.trans (List.suffix_cons name outer))

theorem Unlinked.cons (unlinked : files.Unlinked outer)
    (notLink : ∀ target, files.node? (name :: outer) ≠ some (.link target)) :
    files.Unlinked (name :: outer) := by
  intro further ends
  rcases List.suffix_cons_iff.mp ends with rfl | ends
  · exact notLink
  · exact unlinked further ends

/-- In a tree there are only directories on the way to a directory. -/
theorem IsTree.unlinked (tree : files.IsTree)
    (isDirectory : files.HoldsDirectory location) :
    files.Unlinked location := by
  induction location with
  | nil =>
      intro outer ends
      rw [List.suffix_nil.mp ends]
      simp
  | cons name outer ih =>
      exact (ih (tree.inDirectory name outer isDirectory.present)).cons isDirectory.ne_link

/-- The names on the way to a directory lead to it, and to any name in it that is no link. -/
theorem leads_cons (proper : IsFileName name) (inside : files.HoldsDirectory outer)
    (notLink : ∀ target, files.node? (name :: outer) ≠ some (.link target))
    (leads : files.Leads [] outer.reverse 0 outer) :
    files.Leads [] (name :: outer).reverse 0 (name :: outer) := by
  rw [List.reverse_cons]
  exact leads.append (.name inside proper.spoken proper.notParent proper.short notLink (.arrived _))

theorem IsTree.leads_reverse (tree : files.IsTree)
    (isDirectory : files.HoldsDirectory location) :
    files.Leads [] location.reverse 0 location := by
  induction location with
  | nil => exact .arrived []
  | cons name outer ih =>
      have inside := tree.inDirectory name outer isDirectory.present
      exact leads_cons (tree.named name outer isDirectory.present) inside isDirectory.ne_link
        (ih inside)

/-- The path to a location leads there, if a directory is there to hold it. -/
theorem locate_path (tree : files.IsTree) (proper : IsProper (name :: outer))
    (inside : files.HoldsDirectory outer) (fits : Fits (name :: outer))
    (notLink : ∀ target, files.node? (name :: outer) ≠ some (.link target)) :
    files.locate here (Location.path (name :: outer)) true = .ok (name :: outer) := by
  have leads := leads_cons proper.head inside notLink (tree.leads_reverse inside)
  rw [List.reverse_cons] at leads
  refine locate_eq_ok_iff.mpr ⟨(Location.acceptPath_path_iff proper).mpr fits, 0, Nat.zero_le _, ?_⟩
  rw [Location.pieces_path proper, List.cons_append]
  exact .silent holdsDirectory_nil (by decide) leads

/-- Without links the names on the way to a location lead nowhere else. -/
theorem eq_of_leads_reverse {links : Nat} (proper : location.IsProper)
    (unlinked : files.Unlinked location) (leads : files.Leads [] location.reverse links there) :
    there = location := by
  induction location generalizing links there with
  | nil =>
      cases leads
      rfl
  | cons name outer ih =>
      rw [List.reverse_cons] at leads
      obtain ⟨early, late, middle, first, last, -⟩ := leads.split _ _ rfl
      obtain rfl := ih proper.tail unlinked.tail first
      have named := proper.head
      cases last with
      | silent _ unspoken => simp [named.spoken] at unspoken
      | parent => exact absurd rfl named.notParent
      | name _ _ _ _ _ onward =>
          cases onward
          rfl
      | link _ _ _ _ isLink => exact absurd isLink (unlinked _ List.suffix_rfl _)

/-- What is found under the path to a location is what there is at the location. -/
theorem find_path_eq_ok_iff (tree : files.IsTree) (proper : IsProper (name :: outer))
    (unlinked : files.Unlinked (name :: outer)) :
    files.find here (Location.path (name :: outer)) = .ok (there, node) ↔
      Fits (name :: outer) ∧ there = name :: outer ∧ files.node? (name :: outer) = some node := by
  rw [find_eq_ok_iff]
  constructor
  · rintro ⟨located, stored⟩
    obtain ⟨accepted, links, -, leads⟩ := locate_eq_ok_iff.mp located
    have said : files.Leads [] (Location.path (name :: outer)).spoken links there :=
      leads.withoutSilent
    rw [Location.spoken_path proper] at said
    obtain rfl := eq_of_leads_reverse proper unlinked said
    exact ⟨(Location.acceptPath_path_iff proper).mp accepted, rfl, stored⟩
  · rintro ⟨fits, rfl, stored⟩
    have inside := tree.inDirectory name outer (by simp [stored])
    exact ⟨locate_path tree proper inside fits (unlinked _ List.suffix_rfl), stored⟩

theorem isPresent_path_iff (tree : files.IsTree) (proper : IsProper (name :: outer))
    (unlinked : files.Unlinked (name :: outer)) :
    files.isPresent here (Location.path (name :: outer)) = true ↔
      Fits (name :: outer) ∧ files.node? (name :: outer) ≠ none := by
  rw [isPresent]
  constructor
  · intro present
    obtain ⟨⟨there, node⟩, found⟩ := exists_eq_ok_of_isOk present
    obtain ⟨fits, -, stored⟩ := (find_path_eq_ok_iff tree proper unlinked).mp found
    exact ⟨fits, by simp [stored]⟩
  · rintro ⟨fits, present⟩
    obtain ⟨node, stored⟩ := Option.ne_none_iff_exists'.mp present
    rw [(find_path_eq_ok_iff tree proper unlinked).mpr ⟨fits, rfl, stored⟩]
    rfl

/-- A file is read under the path to it. -/
theorem readText_path {mode : Nat} (tree : files.IsTree) (proper : IsProper (name :: outer))
    (unlinked : files.Unlinked (name :: outer)) (fits : Fits (name :: outer))
    (stored : files.node? (name :: outer) = some (.file mode content)) :
    files.readText here (Location.path (name :: outer)) =
      match Utf8.decode? content with
      | some text => .ok text
      | none => .error .notText := by
  rw [readText, read, (find_path_eq_ok_iff tree proper unlinked).mpr ⟨fits, rfl, stored⟩]
  rfl

/-- The path to a name in a directory ends there. -/
theorem ending_path (tree : files.IsTree) (proper : IsProper (name :: outer))
    (inside : files.HoldsDirectory outer) (fits : Fits (name :: outer)) :
    files.ending here (Location.path (name :: outer)) = .ok ⟨outer, some name, false⟩ := by
  have named : name ≠ [] := by
    rintro rfl
    exact absurd proper.head.spoken (by decide)
  have leads := tree.leads_reverse inside
  have onward : files.Leads [] ([] :: (outer.reverse ++ [[FilePath.dot]])) (0 + 0) outer :=
    .silent holdsDirectory_nil (by decide) (leads.append (.silent inside (by decide) (.arrived outer)))
  have followed := onward.follow linkLimit (Nat.zero_le _)
  have cut : (Location.path (name :: outer)).pieces.reverse.span
      (fun piece => decide (piece = [])) = ([], name :: (outer ++ [[]])) := by
    rw [Location.pieces_path proper, List.span_eq_takeWhile_dropWhile]
    simp [named]
  rw [ending, (Location.acceptPath_path_iff proper).mpr fits, cut]
  simp [start, followed, proper.head.short]

theorem makeDirectory_path (tree : files.IsTree) (proper : IsProper (name :: outer))
    (inside : files.HoldsDirectory outer) (fits : Fits (name :: outer)) :
    files.makeDirectory here (Location.path (name :: outer)) =
      match files.node? (name :: outer) with
      | some _ => .error .present
      | none => .ok (files.put (name :: outer) (.directory directoryMode)) := by
  have location : Ending.location? ⟨outer, some name, false⟩ = some (name :: outer) := by
    simp [Ending.location?, proper.head.spoken, proper.head.notParent]
  rw [makeDirectory, ending_path tree proper inside fits]
  simp only [ok_bind, location]
  cases files.node? (name :: outer) <;> rfl

/-- In a directory that is there, at most the last directory is made. -/
theorem makeDirectories_path (tree : files.IsTree) (proper : IsProper (name :: outer))
    (inside : files.HoldsDirectory outer) (fits : Fits (name :: outer))
    (free : files.node? (name :: outer) = none ∨ files.HoldsDirectory (name :: outer)) :
    ∃ made, files.makeDirectories here (Location.path (name :: outer)) = (made, .ok ()) ∧
      made.IsTree ∧ made.HoldsDirectory (name :: outer) ∧
      (files.HoldsDirectory (name :: outer) → made = files) ∧
      ∀ location, location ≠ name :: outer → made.node? location = files.node? location := by
  have parent : (Location.path (name :: outer)).parent?.isSome = true := by
    rw [Location.parent?_path_cons proper]
    rfl
  rw [makeDirectories, Location.ancestors_path proper, List.tails_cons, List.map_cons,
    List.filter_cons_of_pos (by exact parent), makeFrom, makeDirectory_path tree proper inside fits]
  rcases free with absent | isDirectory
  · refine ⟨files.put (name :: outer) (.directory directoryMode), by rw [absent],
      tree.put proper.head inside (.inl rfl), ⟨_, node?_put_self (List.cons_ne_nil _ _)⟩,
      fun held => absurd absent held.present, fun _ apart => ?_⟩
    exact node?_put_of_ne (List.cons_ne_nil _ _) apart
  · obtain ⟨mode, stored⟩ := id isDirectory
    have found : files.isDirectory here (Location.path (name :: outer)) = true := by
      rw [FileSystem.isDirectory, (find_path_eq_ok_iff tree proper (tree.unlinked isDirectory)).mpr
        ⟨fits, rfl, stored⟩]
    exact ⟨files, by simp [stored, found], tree, isDirectory, fun _ => rfl, fun _ _ => rfl⟩

/-- A file in a directory is written where it is, or made there. -/
theorem write_path (tree : files.IsTree) (proper : IsProper (name :: outer))
    (inside : files.HoldsDirectory outer) (fits : Fits (name :: outer))
    (free : files.node? (name :: outer) = none ∨
      ∃ mode content, files.node? (name :: outer) = some (.file mode content)) (content : Bytes) :
    ∃ mode, files.write here (Location.path (name :: outer)) content =
      .ok (files.put (name :: outer) (.file mode content)) := by
  have notLink : ∀ target, files.node? (name :: outer) ≠ some (.link target) := by
    rcases free with absent | ⟨mode, held, isFile⟩ <;> simp [*]
  rw [write, ending_path tree proper inside fits, locate_path tree proper inside fits notLink]
  rcases free with absent | ⟨mode, held, isFile⟩
  · exact ⟨plainMode, by simp [absent]⟩
  · exact ⟨mode, by simp [isFile]⟩

theorem write_path_of_not_fits (proper : location.IsProper) (long : ¬ location.Fits) :
    ∃ fault, files.write here location.path content = .error fault := by
  rw [← Location.acceptPath_path_iff proper] at long
  cases refused : acceptPath location.path with
  | ok => exact absurd refused long
  | error fault => exact ⟨fault, by simp [write, ending, refused]⟩

end FileSystem

end RecordRegistry
