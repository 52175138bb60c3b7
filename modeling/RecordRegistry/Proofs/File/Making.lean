/-
# Making directories

Where a path ends is a directory and a name in it; a path that ends so leads to that name, unless a
link stands there.  Making a directory and those on the way to it only adds directories, each of
them at a place that one of the paths asked for leads to, whether or not the making succeeds in the
end.
-/

import Mathlib.Data.List.TakeDrop
import Mathlib.Data.List.TakeWhile
import RecordRegistry.Proofs.Results
import RecordRegistry.Proofs.File.Parents

namespace RecordRegistry

namespace FileSystem

variable {files before after : FileSystem} {here directory location : Location} {path : FilePath}
  {name : Bytes} {slashed : Bool}

/-- A path ends with a name in a directory, and possibly with slashes after it. -/
structure EndsAt (files : FileSystem) (here : Location) (path : FilePath) (directory : Location)
    (name : Bytes) (slashed : Bool) : Prop where
  accepted : acceptPath path = .ok ()
  proper : IsFileName name
  inside : files.HoldsDirectory directory
  cut : ∃ before slashes links, path.pieces = before ++ name :: slashes ∧
    (∀ piece ∈ slashes, piece = []) ∧ slashed = !slashes.isEmpty ∧ links ≤ linkLimit ∧
    files.Leads (start here path) before links directory

/-- Of the pieces of a path, the last that is not empty is the name, if it is a name at all. -/
private theorem endsAt_of_follow {pieces slashes : List Bytes} {directory : Location}
    (accepted : acceptPath path = .ok ())
    (whole : slashes ++ pieces = path.pieces.reverse) (empties : ∀ piece ∈ slashes, piece = [])
    (found : files.follow true linkLimit (start here path)
      (pieces.tail.reverse ++ [[FilePath.dot]]) = .ok directory)
    (short : (pieces.head?.getD []).length ≤ nameLimit)
    (named : Ending.location? ⟨directory, pieces.head?, slashes ≠ []⟩ = some location) :
    ∃ name, location = name :: directory ∧
      files.EndsAt here path directory name (slashes ≠ []) := by
  cases pieces with
  | nil => simp [Ending.location?] at named
  | cons name outer =>
      simp only [Ending.location?, List.head?_cons, Option.ite_none_left_eq_some, Bool.or_eq_true,
        decide_eq_true_eq, not_or, Bool.not_eq_true, Option.some.injEq] at named
      obtain ⟨⟨spoken, notParent⟩, rfl⟩ := named
      have cut : path.pieces = outer.reverse ++ name :: slashes.reverse := by
        rw [← List.reverse_reverse path.pieces, ← whole]
        simp
      have member : name ∈ path.pieces := by simp [cut]
      obtain ⟨links, few, leads⟩ := exists_leads_of_follow found
      obtain ⟨early, late, middle, toMiddle, fromMiddle, count⟩ := leads.split _ _ rfl
      have inside : files.HoldsDirectory middle ∧ middle = directory := by
        cases fromMiddle with
        | silent inside _ onward =>
            cases onward
            exact ⟨inside, rfl⟩
        | name _ spoken => exact absurd spoken (by decide)
        | link _ spoken => exact absurd spoken (by decide)
      obtain ⟨inside, rfl⟩ := inside
      refine ⟨name, rfl, accepted, ?_, inside, ?_⟩
      · refine ⟨spoken, notParent, FilePath.slash_notMem_of_mem_pieces member, ?_,
          by simpa using short⟩
        intro zero
        have held : 0 ∈ path.bytes := FilePath.mem_of_mem_splitOn member zero
        simp [acceptPath, held] at accepted
      · refine ⟨outer.reverse, slashes.reverse, early, cut, ?_, ?_, by omega, toMiddle⟩
        · exact fun piece inside => empties piece (List.mem_reverse.mp inside)
        · cases slashes <;> simp

theorem endsAt_of_ending {ending : Ending} (found : files.ending here path = .ok ending)
    (named : ending.location? = some location) :
    ∃ name, location = name :: ending.directory ∧
      files.EndsAt here path ending.directory name ending.slashed := by
  unfold FileSystem.ending at found
  cases accepted : acceptPath path with
  | error fault => simp [accepted] at found
  | ok =>
      rw [accepted, List.span_eq_takeWhile_dropWhile] at found
      simp only [bind, Except.bind] at found
      split at found
      · cases found
      · next directory followed =>
          split at found
          · exact absurd found (by simp)
          · next short =>
              simp only [pure_eq_ok, Except.ok.injEq] at found
              subst found
              exact endsAt_of_follow accepted List.takeWhile_append_dropWhile
                (fun piece inside => by simpa using List.mem_takeWhile_imp inside)
                followed (Nat.not_lt.mp short) named

namespace EndsAt

theorem grow (grown : before.Extends after)
    (ends : before.EndsAt here path directory name slashed) :
    after.EndsAt here path directory name slashed := by
  obtain ⟨outer, slashes, links, cut, empties, same, few, leads⟩ := ends.cut
  exact ⟨ends.accepted, ends.proper, grown.holdsDirectory ends.inside,
    outer, slashes, links, cut, empties, same, few, grown.leads leads⟩

theorem mem_pieces (ends : files.EndsAt here path directory name slashed) :
    name ∈ path.pieces := by
  obtain ⟨outer, slashes, links, cut, -⟩ := ends.cut
  simp [cut]

/-- If no slashes follow, the name is the last piece. -/
theorem cut_of_plain (ends : files.EndsAt here path directory name false) :
    ∃ outer links, path.pieces = outer ++ [name] ∧ links ≤ linkLimit ∧
      files.Leads (start here path) outer links directory := by
  obtain ⟨outer, slashes, links, cut, -, plain, few, leads⟩ := ends.cut
  obtain rfl : slashes = [] := by simpa using plain.symm
  exact ⟨outer, links, cut, few, leads⟩

/-- Empty pieces after a directory lead nowhere else. -/
private theorem leads_empties (inside : files.HoldsDirectory location)
    (slashes : List Bytes) (empties : ∀ piece ∈ slashes, piece = []) :
    files.Leads location slashes 0 location := by
  induction slashes with
  | nil => exact .arrived location
  | cons piece rest ih =>
      obtain rfl := empties piece List.mem_cons_self
      exact .silent inside (by decide) (ih fun piece later => empties piece (.tail _ later))

/-- A path leads to the name at its end, unless a link stands there or slashes follow what is no
directory. -/
theorem locate (ends : files.EndsAt here path directory name slashed)
    (notLink : ∀ target, files.node? (name :: directory) ≠ some (.link target))
    (isDirectory : slashed = true → files.HoldsDirectory (name :: directory)) :
    files.locate here path true = .ok (name :: directory) := by
  obtain ⟨outer, slashes, links, cut, empties, same, few, leads⟩ := ends.cut
  have onward : files.Leads (name :: directory) slashes 0 (name :: directory) := by
    cases slashes with
    | nil => exact .arrived _
    | cons piece rest => exact leads_empties (isDirectory (by simp [same])) _ empties
  rw [locate_eq_ok_iff, cut]
  refine ⟨ends.accepted, links + 0, few, leads.append ?_⟩
  exact .name ends.inside ends.proper.spoken ends.proper.notParent ends.proper.short notLink onward

end EndsAt

/-- A file system that holds all that another one holds, and besides only directories, each at a
place that one of some paths leads to. -/
structure Grows (here : Location) (paths : List FilePath) (before after : FileSystem) : Prop where
  kept : ∀ location node, before.node? location = some node → after.node? location = some node
  made : ∀ location node, before.node? location = none → after.node? location = some node →
    node = .directory directoryMode ∧ ∃ path ∈ paths, after.locate here path true = .ok location
  tree : before.IsTree → after.IsTree

namespace Grows

variable {paths : List FilePath}

theorem refl (files : FileSystem) : Grows here paths files files where
  kept _ _ present := present
  made location node absent present := by simp [absent] at present
  tree := id

/-- What has grown only by directories leads on like before. -/
theorem toExtends (grown : Grows here paths before after) : before.Extends after where
  directory location mode := grown.kept location (.directory mode)
  link location target := by
    refine ⟨grown.kept location _, fun isLink => ?_⟩
    cases stored : before.node? location with
    | none => exact absurd (grown.made location _ stored isLink).1 (by simp)
    | some node => rw [← isLink, grown.kept location node stored]

theorem trans {last : FileSystem} (first : Grows here paths before after)
    (second : Grows here paths after last) : Grows here paths before last where
  kept location node present := second.kept location node (first.kept location node present)
  made location node absent present := by
    cases stored : after.node? location with
    | none => exact second.made location node stored present
    | some found =>
        obtain ⟨isDirectory, path, asked, leads⟩ := first.made location found absent stored
        obtain rfl : node = found :=
          Option.some.inj (present.symm.trans (second.kept location found stored))
        exact ⟨isDirectory, path, asked, second.toExtends.locate leads⟩
  tree before := second.tree (first.tree before)

theorem mono {more : List FilePath} (grown : Grows here paths before after)
    (included : ∀ path ∈ paths, path ∈ more) : Grows here more before after where
  kept := grown.kept
  made location node absent present := by
    obtain ⟨isDirectory, path, asked, leads⟩ := grown.made location node absent present
    exact ⟨isDirectory, path, included path asked, leads⟩
  tree := grown.tree

end Grows

/-- A directory is made in a directory, where nothing has been. -/
theorem exists_of_makeDirectory {made : FileSystem}
    (success : files.makeDirectory here path = .ok made) :
    ∃ directory name slashed, files.EndsAt here path directory name slashed ∧
      files.node? (name :: directory) = none ∧
      made = files.put (name :: directory) (.directory directoryMode) := by
  unfold makeDirectory at success
  cases ends : files.ending here path with
  | error fault => simp [ends] at success
  | ok ending =>
      rw [ends] at success
      simp only [ok_bind] at success
      cases named : ending.location? with
      | none => simp [named] at success
      | some location =>
          rw [named] at success
          cases stored : files.node? location with
          | some node => simp [stored] at success
          | none =>
              simp only [stored, pure_eq_ok, Except.ok.injEq] at success
              obtain ⟨name, rfl, ends⟩ := endsAt_of_ending ends named
              exact ⟨_, name, _, ends, stored, success.symm⟩

theorem grows_of_makeDirectory {made : FileSystem}
    (success : files.makeDirectory here path = .ok made) : Grows here [path] files made := by
  obtain ⟨directory, name, slashed, ends, absent, rfl⟩ := exists_of_makeDirectory success
  have named : name :: directory ≠ [] := List.cons_ne_nil _ _
  have grown : files.Extends (files.put (name :: directory) (.directory directoryMode)) := by
    constructor
    · intro location mode isDirectory
      rw [node?_put named]
      split <;> simp_all
    · intro location target
      rw [node?_put named]
      split <;> simp [*]
  refine ⟨?_, ?_, fun tree => tree.put ends.proper ends.inside (.inl rfl)⟩
  · intro location node present
    rw [node?_put_of_ne named]
    · exact present
    · rintro rfl
      simp [absent] at present
  · intro location node nothing present
    rw [node?_put named] at present
    split at present
    · next same =>
        subst same
        refine ⟨(Option.some.inj present).symm, path, List.mem_singleton_self _, ?_⟩
        exact (ends.grow grown).locate (by simp [node?_put_self named])
          fun _ => ⟨_, node?_put_self named⟩
    · simp [nothing] at present

/-- However far the making of directories comes, it only adds directories. -/
theorem grows_makeFrom (files : FileSystem) (here : Location) (paths : List FilePath) :
    Grows here paths files (files.makeFrom here paths).1 := by
  induction paths with
  | nil => exact .refl files
  | cons path outer ih =>
      have once {start made : FileSystem} (success : start.makeDirectory here path = .ok made) :
          Grows here (path :: outer) start made :=
        (grows_of_makeDirectory success).mono (by simp)
      have ahead : Grows here (path :: outer) files (files.makeFrom here outer).1 :=
        ih.mono fun _ => List.mem_cons_of_mem path
      unfold makeFrom
      split
      · next made success => exact once success
      · split
        · next made fault stopped => simpa [stopped] using ahead
        · next made finished =>
            rw [finished] at ahead
            split
            · next all success => exact ahead.trans (once success)
            · exact ahead
      · exact .refl files

theorem grows_makeDirectories (files : FileSystem) (here : Location) (path : FilePath) :
    Grows here path.ancestors files (files.makeDirectories here path).1 :=
  (grows_makeFrom files here _).mono fun _ inside => (List.mem_filter.mp inside).1

/-- A path leads to a directory that has been made, and nothing has been put into it. -/
def MadeFresh (here : Location) (path : FilePath) (before after : FileSystem) : Prop :=
  ∃ location, after.locate here path true = .ok location ∧ before.node? location = none ∧
    ∀ inner, after.node? (inner :: location) = none

theorem madeFresh_of_makeDirectory {start made : FileSystem} (tree : start.IsTree)
    (kept : ∀ location, start.node? location = none → files.node? location = none)
    (success : start.makeDirectory here path = .ok made) : MadeFresh here path files made := by
  obtain ⟨directory, name, slashed, -, absent, rfl⟩ := exists_of_makeDirectory success
  have named := List.cons_ne_nil name directory
  obtain ⟨-, asked, member, leads⟩ := (grows_of_makeDirectory success).made _ _ absent
    (node?_put_self named)
  obtain rfl := List.mem_singleton.mp member
  refine ⟨_, leads, kept _ absent, fun inner => ?_⟩
  rw [node?_put_of_ne named (by simp)]
  exact tree.nothing_below (fun inside => inside.present absent) inner

/-- In a directory that is new and empty, no path leads to a directory. -/
theorem MadeFresh.isDirectory_eq_false {parent : FilePath}
    (fresh : MadeFresh here parent before after) (outer : path.parent? = some parent)
    (downward : FilePath.parentPiece ∉ path.spoken) : after.isDirectory here path = false := by
  obtain ⟨location, leads, -, empty⟩ := fresh
  obtain ⟨accepted, links, -, leads⟩ := locate_eq_ok_iff.mp leads
  obtain silent | ⟨words, last, cut⟩ := List.eq_nil_or_concat path.spoken
  · have nothing := FilePath.bytes_parent_of_spoken_eq_nil silent outer
    exact absurd nothing (acceptPath_eq_ok_iff.mp accepted).2.1
  rw [List.concat_eq_append] at cut
  obtain ⟨same, found, content, starts, -⟩ := FilePath.exists_parent cut
  obtain rfl := Option.some.inj (outer.symm.trans found)
  have ahead : after.Leads (FileSystem.start here path) words links location := by
    rw [show FileSystem.start here path = FileSystem.start here parent by
      simp [FileSystem.start, starts], ← content]
    exact leads.withoutSilent
  have notParent : last ≠ FilePath.parentPiece := by
    rintro rfl
    exact downward (by simp [cut])
  unfold isDirectory
  split
  · next there found =>
      obtain ⟨arrives, present⟩ := find_eq_ok_iff.mp found
      obtain rfl | ⟨target, isLink⟩ := eq_cons_or_link_of_locate arrives cut notParent ahead
      · simp [empty] at present
      · simp [empty] at isLink
  · rfl

/-- The second attempt at a directory, after those on the way to it, makes the directory. -/
private theorem madeFresh_of_retry {parent : FilePath} {paths : List FilePath}
    {inner made : FileSystem} (tree : files.IsTree) (grown : Grows here paths files inner)
    (missing : files.makeDirectory here path = .error .missing)
    (ahead : inner = files ∨ MadeFresh here parent files inner)
    (outer : path.parent? = some parent) (downward : FilePath.parentPiece ∉ path.spoken)
    (success : (match inner.makeDirectory here path with
      | .ok all => (all, .ok ())
      | .error fault =>
        (inner, if fault = .present && inner.isDirectory here path then .ok () else .error fault)) =
      (made, (.ok () : Except FileFault Unit))) : MadeFresh here path files made := by
  have kept : ∀ location, inner.node? location = none → files.node? location = none := by
    intro location absent
    by_contra present
    obtain ⟨node, present⟩ := Option.ne_none_iff_exists'.mp present
    rw [grown.kept location node present] at absent
    exact absurd absent (by simp)
  split at success
  · next all single =>
      obtain ⟨rfl, -⟩ := Prod.mk.inj success
      exact madeFresh_of_makeDirectory (grown.tree tree) kept single
  · next fault stopped =>
      obtain ⟨-, outcome⟩ := Prod.mk.inj success
      obtain rfl | fresh := ahead
      · obtain rfl := Except.error.inj (stopped.symm.trans missing)
        simp at outcome
      · rw [fresh.isDirectory_eq_false outer downward] at outcome
        simp at outcome

/-- If all directories on the way to a path can be made, either all of them have been there, or the
path leads to a new and empty one.  The induction is on the way outward. -/
theorem eq_or_madeFresh_of_makeFrom (tree : files.IsTree) (count : Nat) (path : FilePath)
    (downward : FilePath.parentPiece ∉ path.spoken) {made : FileSystem}
    (success : files.makeFrom here ((FilePath.outward count path).filter
      fun ancestor => ancestor.parent?.isSome) = (made, .ok ())) :
    made = files ∨ MadeFresh here path files made := by
  induction count generalizing path made with
  | zero => exact .inl (congrArg Prod.fst success).symm
  | succ count ih =>
      unfold FilePath.outward at success
      cases outer : path.parent? with
      | none => exact .inl (by simpa [outer, makeFrom] using (congrArg Prod.fst success).symm)
      | some parent =>
          simp only [outer] at success
          rw [List.filter_cons_of_pos (by simp [outer]), makeFrom] at success
          split at success
          · next all single =>
              obtain ⟨rfl, -⟩ := Prod.mk.inj success
              exact .inr (madeFresh_of_makeDirectory tree (fun _ => id) single)
          · next missing =>
              split at success
              · exact absurd (Prod.mk.inj success).2 (by simp)
              · next inner finished =>
                  have grown := grows_makeFrom files here
                    ((FilePath.outward count parent).filter fun ancestor => ancestor.parent?.isSome)
                  rw [finished] at grown
                  have ahead := ih parent (FilePath.downward_parent outer downward) finished
                  exact .inr (madeFresh_of_retry tree grown missing ahead outer downward success)
          · exact .inl (Prod.mk.inj success).1.symm

/-- A renamed file takes the place of the name at the end of a path, which is no directory. -/
theorem exists_of_rename {source : Location} {renamed : FileSystem}
    (success : files.rename here source path = .ok renamed) :
    ∃ directory name node, files.EndsAt here path directory name false ∧
      files.node? source = some node ∧ ¬ files.HoldsDirectory (name :: directory) ∧
      renamed = (files.erase source).put (name :: directory) node := by
  unfold rename at success
  cases found : files.ending here path with
  | error fault => simp [found] at success
  | ok ending =>
      rw [found] at success
      simp only [ok_bind] at success
      cases named : ending.location? with
      | none => simp [named] at success
      | some location =>
          cases stored : files.node? source with
          | none => simp [named, stored] at success
          | some node =>
              obtain ⟨name, rfl, ends⟩ := endsAt_of_ending found named
              simp only [named, stored] at success
              split at success
              · simp at success
              · next plain =>
                  split at success
                  · simp at success
                  · next notDirectory =>
                      rw [Bool.not_eq_true] at plain
                      rw [plain] at ends
                      exact ⟨_, name, node, ends, rfl, mt any_isDirectory_iff.mpr notDirectory,
                        (Except.ok.inj success).symm⟩

end FileSystem

end RecordRegistry
