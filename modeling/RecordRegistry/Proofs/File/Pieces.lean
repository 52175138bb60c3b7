/-
# The pieces of paths

What stands between the slashes of a path holds no slash and no byte that the path does not hold.
Where a path leads depends only on whether it is absolute and on the pieces that say something, so
its parent and the paths that lead on from it are described by those.
-/

import Mathlib.Data.List.Basic
import Mathlib.Data.List.DropRight
import Mathlib.Tactic.Common
import RecordRegistry.File.Path

namespace RecordRegistry

namespace FilePath

/-- Cutting at a byte leaves pieces without it. -/
theorem notMem_of_mem_splitOn {separator : UInt8} {bytes piece : Bytes}
    (cut : piece ∈ bytes.splitOn separator) : separator ∉ piece := by
  induction bytes generalizing piece with
  | nil => simp_all
  | cons byte rest ih =>
      rw [List.splitOn_cons_eq_if_modifyHead] at cut
      split at cut
      · obtain rfl | cut := List.mem_cons.mp cut
        · exact List.not_mem_nil
        · exact ih cut
      · next other =>
          cases pieces : rest.splitOn separator with
          | nil => exact absurd pieces (List.splitOn_ne_nil _ _)
          | cons head tail =>
              rw [pieces] at ih
              rw [pieces, List.modifyHead_cons] at cut
              obtain rfl | cut := List.mem_cons.mp cut
              · have apart : separator ≠ byte := fun same => other (by simp [same])
                simpa [apart] using ih List.mem_cons_self
              · exact ih (List.mem_cons_of_mem _ cut)

/-- A piece is made of bytes of the whole. -/
theorem mem_of_mem_splitOn {separator byte : UInt8} {bytes piece : Bytes}
    (cut : piece ∈ bytes.splitOn separator) (inside : byte ∈ piece) : byte ∈ bytes := by
  have joined : byte ∈ [separator].intercalate (bytes.splitOn separator) := by
    generalize bytes.splitOn separator = pieces at cut
    induction pieces with
    | nil => simp at cut
    | cons head tail ih =>
        cases tail with
        | nil => simp_all
        | cons next tail =>
            rw [List.intercalate_cons_cons]
            obtain rfl | cut := List.mem_cons.mp cut
            · simp [inside]
            · simp [ih cut]
  rwa [List.intercalate_splitOn] at joined

theorem slash_notMem_of_mem_pieces {path : FilePath} {piece : Bytes} (cut : piece ∈ path.pieces) :
    slash ∉ piece :=
  notMem_of_mem_splitOn cut

theorem pieces_ne_nil (path : FilePath) : path.pieces ≠ [] := List.splitOn_ne_nil _ _

/-- The directory that a path names a file in: its parent, or the current directory. -/
def directory (path : FilePath) : FilePath :=
  match path.parent? with
  | some ⟨[]⟩ | none => .ofString "."
  | some parent => parent

/-- The pieces of a path that say something. -/
def spoken (path : FilePath) : List Bytes := path.pieces.filter fun piece => !isSilent piece

theorem isSilent_nil : isSilent [] = true := by decide

theorem isSilent_dot : isSilent [dot] = true := by decide

/-- The first piece of an absolute path is empty, and there is another one. -/
theorem isAbsolute_iff {path : FilePath} :
    path.isAbsolute = true ↔ ∃ rest, path.pieces = [] :: rest ∧ rest ≠ [] := by
  obtain ⟨bytes⟩ := path
  cases bytes with
  | nil => simp [isAbsolute, pieces]
  | cons byte rest =>
      simp only [isAbsolute, List.head?_cons, Option.some.injEq, decide_eq_true_eq, pieces,
        List.splitOn_cons_eq_if_modifyHead, beq_iff_eq]
      split
      · next same => simp [same, List.splitOn_ne_nil]
      · next other =>
          cases rest.splitOn slash <;> simp [other]

/-- The pieces after the front, in terms of all pieces. -/
theorem body_eq (path : FilePath) :
    path.body = if path.isAbsolute then path.pieces.tail
      else if path.pieces.head? = some [dot] then [] :: path.pieces.tail
      else path.pieces := by
  obtain ⟨bytes⟩ := path
  unfold body front
  split
  · next absolute =>
      obtain ⟨rest, cut, -⟩ := isAbsolute_iff.mp absolute
      cases bytes with
      | nil => simp [isAbsolute] at absolute
      | cons byte more =>
          obtain rfl : byte = slash := by simpa [isAbsolute] using absolute
          simp [pieces, List.splitOn_cons_eq_if_modifyHead]
  · next relative =>
      split
      · next current =>
          cases bytes with
          | nil => simp [pieces] at current
          | cons byte more =>
              have other : byte ≠ slash := by simpa [isAbsolute] using relative
              cases cut : more.splitOn slash with
              | nil => exact absurd cut (List.splitOn_ne_nil _ _)
              | cons head tail =>
                  simp [pieces, List.splitOn_cons_eq_if_modifyHead, other, cut] at current
                  simp [pieces, List.splitOn_cons_eq_if_modifyHead, other, cut, current.2]
      · simp [pieces]

theorem filter_body (path : FilePath) :
    (path.body.filter fun piece => !isSilent piece) = path.spoken := by
  rw [body_eq, spoken]
  split
  · next absolute =>
      obtain ⟨rest, cut, -⟩ := isAbsolute_iff.mp absolute
      simp [cut, isSilent_nil]
  · split
    · next current =>
        obtain ⟨rest, cut⟩ := List.head?_eq_some_iff.mp current
        simp [cut, isSilent_nil, isSilent_dot]
    · rfl

/-- The name at the end is the last piece that says something, unless that is two dots. -/
theorem fileName?_eq {path : FilePath} {before : List Bytes} {last : Bytes}
    (cut : path.spoken = before ++ [last]) (notParent : last ≠ parentPiece) :
    path.fileName? = some last := by
  have step : ∀ pieces : List Bytes, pieces.filterMap step? =
      (pieces.filter fun piece => !isSilent piece).filterMap step? := by
    intro pieces
    rw [List.filterMap_filter]
    refine List.filterMap_congr fun piece _ => ?_
    cases silent : isSilent piece <;> simp [step?, silent]
  have heard : isSilent last = false := by
    have member : last ∈ path.spoken := by simp [cut]
    simpa using (List.mem_filter.mp member).2
  have single : step? last = some (.name last) := by simp [step?, heard, notParent]
  rw [fileName?, steps, step, filter_body, cut]
  simp [single]

/-- A path is its front followed by the pieces of its body. -/
theorem bytes_eq (path : FilePath) :
    path.bytes = path.front ++ [slash].intercalate path.body := by
  have begins : path.front <+: path.bytes := by
    obtain ⟨bytes⟩ := path
    unfold front
    split
    · next absolute =>
        obtain ⟨rest, rfl⟩ := List.head?_eq_some_iff.mp (of_decide_eq_true absolute)
        exact ⟨rest, rfl⟩
    · split
      · next current =>
          obtain ⟨rest, cut⟩ := List.head?_eq_some_iff.mp current
          have whole : [slash].intercalate (bytes.splitOn slash) = bytes :=
            List.intercalate_splitOn slash
          rw [show bytes.splitOn slash = [dot] :: rest from cut] at whole
          cases rest with
          | nil => exact ⟨[], by simpa using whole⟩
          | cons next rest => exact ⟨_, by simpa [List.intercalate_cons_cons] using whole⟩
      · exact List.nil_prefix
  rw [body, List.intercalate_splitOn]
  exact (List.prefix_iff_eq_append.mp begins).symm

theorem isPrefix_intercalate (separator : Bytes) {few many : List Bytes} (first : few <+: many) :
    separator.intercalate few <+: separator.intercalate many := by
  obtain ⟨rest, rfl⟩ := first
  induction few with
  | nil => exact List.nil_prefix
  | cons head tail ih =>
      cases tail with
      | nil =>
          cases rest with
          | nil => exact List.prefix_rfl
          | cons next rest => simp [List.intercalate_cons_cons]
      | cons next tail =>
          simp only [List.cons_append, List.intercalate_cons_cons] at ih ⊢
          exact List.prefix_append_right_inj _ |>.mpr ih

theorem slash_notMem_of_mem_body {path : FilePath} {piece : Bytes} (cut : piece ∈ path.body) :
    slash ∉ piece :=
  notMem_of_mem_splitOn cut

/-- Joining pieces and cutting them again changes nothing that says something. -/
theorem filter_splitOn_intercalate {pieces : List Bytes}
    (unslashed : ∀ piece ∈ pieces, slash ∉ piece) :
    (([slash].intercalate pieces).splitOn slash).filter (fun piece => !isSilent piece) =
      pieces.filter fun piece => !isSilent piece := by
  cases pieces with
  | nil => decide
  | cons head tail => rw [List.splitOn_intercalate _ unslashed (List.cons_ne_nil _ _)]

/-- The first pieces of a path, after its front, are the beginning of the path. -/
theorem isPrefix_ofPieces {path : FilePath} {pieces : List Bytes} (first : pieces <+: path.body) :
    (ofPieces path.front pieces).bytes <+: path.bytes := by
  conv_rhs => rw [bytes_eq]
  exact (List.prefix_append_right_inj path.front).mpr (isPrefix_intercalate [slash] first)

theorem not_isAbsolute_of_prefix {short path : FilePath} (begins : short.bytes <+: path.bytes)
    (relative : path.isAbsolute = false) : short.isAbsolute = false := by
  obtain ⟨rest, whole⟩ := begins
  unfold isAbsolute at relative ⊢
  rw [← whole] at relative
  cases initial : short.bytes with
  | nil => rfl
  | cons byte more => simpa [initial] using relative

/-- The first pieces of a path, after its front, say the same as before and start at the same
place. -/
theorem ofPieces_front {path : FilePath} {pieces : List Bytes} (first : pieces <+: path.body) :
    (ofPieces path.front pieces).spoken = (pieces.filter fun piece => !isSilent piece) ∧
      (ofPieces path.front pieces).isAbsolute = path.isAbsolute := by
  have unslashed : ∀ piece ∈ pieces, slash ∉ piece := fun piece inside =>
    slash_notMem_of_mem_body (first.subset inside)
  have cut := filter_splitOn_intercalate unslashed
  by_cases absolute : path.isAbsolute = true
  · have front : path.front = [slash] := by simp [FilePath.front, absolute]
    rw [front, absolute]
    refine ⟨?_, by simp [ofPieces, isAbsolute]⟩
    simp only [spoken, FilePath.pieces, ofPieces, List.singleton_append]
    rw [List.splitOn_cons_eq_if_modifyHead]
    simpa [isSilent_nil] using cut
  rw [Bool.not_eq_true] at absolute
  by_cases current : path.pieces.head? = some [dot]
  · have front : path.front = [dot] := by simp [FilePath.front, absolute, current]
    rw [front, absolute]
    refine ⟨?_, by simp [ofPieces, isAbsolute, show dot ≠ slash by decide]⟩
    rw [body_eq, absolute, current] at first
    simp only [spoken, FilePath.pieces, ofPieces, List.singleton_append]
    rw [List.splitOn_cons_eq_if_modifyHead]
    cases pieces with
    | nil => decide
    | cons head tail =>
        obtain ⟨rest, whole⟩ := first
        obtain ⟨rfl, -⟩ := List.cons.inj whole
        rw [List.splitOn_intercalate _ unslashed (List.cons_ne_nil _ _)]
        simp [isSilent_nil, isSilent_dot, show dot ≠ slash by decide]
  · have front : path.front = [] := by simp [FilePath.front, absolute, current]
    rw [front, absolute]
    refine ⟨by simpa [spoken, FilePath.pieces, ofPieces] using cut, ?_⟩
    exact front ▸ not_isAbsolute_of_prefix (isPrefix_ofPieces first) absolute

/-- Leaving out silent pieces at the end leaves the beginning, which says the same. -/
theorem exists_trimmed (pieces : List Bytes) :
    ∃ silent, pieces = trimmed pieces ++ silent ∧ ∀ piece ∈ silent, isSilent piece = true := by
  refine ⟨(pieces.reverse.takeWhile isSilent).reverse, ?_, ?_⟩
  · rw [trimmed, ← List.reverse_append, List.takeWhile_append_dropWhile, List.reverse_reverse]
  · intro piece inside
    exact List.mem_takeWhile_imp (List.mem_reverse.mp inside)

theorem isPrefix_trimmed (pieces : List Bytes) : trimmed pieces <+: pieces := by
  obtain ⟨silent, whole, -⟩ := exists_trimmed pieces
  exact ⟨silent, whole.symm⟩

theorem filter_of_silent {pieces : List Bytes}
    (silent : ∀ piece ∈ pieces, isSilent piece = true) :
    (pieces.filter fun piece => !isSilent piece) = [] := by
  simpa using silent

theorem filter_trimmed (pieces : List Bytes) :
    (trimmed pieces).filter (fun piece => !isSilent piece) =
      pieces.filter fun piece => !isSilent piece := by
  obtain ⟨silent, whole, quiet⟩ := exists_trimmed pieces
  conv_rhs => rw [whole, List.filter_append, filter_of_silent quiet, List.append_nil]

theorem intercalate_concat {few : List Bytes} (some : few ≠ []) (piece : Bytes) :
    [slash].intercalate (few ++ [piece]) = [slash].intercalate few ++ slash :: piece := by
  induction few with
  | nil => exact absurd rfl some
  | cons head tail ih =>
      cases tail with
      | nil => simp [List.intercalate_cons_cons]
      | cons next tail =>
          have later := ih (List.cons_ne_nil _ _)
          simp only [List.cons_append, List.intercalate_cons_cons] at later ⊢
          rw [later]
          simp

theorem length_intercalate_le (few : List Bytes) (piece : Bytes) (rest : List Bytes)
    (some : few ≠ []) :
    ([slash].intercalate few).length + piece.length <
      ([slash].intercalate (few ++ piece :: rest)).length := by
  have longer := (isPrefix_intercalate [slash]
    (⟨rest, by simp⟩ : few ++ [piece] <+: few ++ piece :: rest)).length_le
  rw [intercalate_concat some] at longer
  simp only [List.length_append, List.length_cons] at longer
  omega

/-- The last piece that says something is the last step of a path: its parent is what is written
before it. -/
theorem exists_parent_eq {path : FilePath} {before : List Bytes} {last : Bytes}
    (cut : path.spoken = before ++ [last]) :
    ∃ earlier silent, path.body = earlier ++ last :: silent ∧
      (earlier.filter fun piece => !isSilent piece) = before ∧
      path.parent? = some (ofPieces path.front (trimmed earlier)) := by
  rw [← filter_body] at cut
  have whole : path.body =
      (path.body.reverse.dropWhile isSilent).reverse ++
        (path.body.reverse.takeWhile isSilent).reverse := by
    rw [← List.reverse_append, List.takeWhile_append_dropWhile, List.reverse_reverse]
  have quiet : ∀ piece ∈ (path.body.reverse.takeWhile isSilent).reverse, isSilent piece = true :=
    fun piece inside => List.mem_takeWhile_imp (List.mem_reverse.mp inside)
  have loud := List.head?_dropWhile_not isSilent path.body.reverse
  rw [whole, List.filter_append, filter_of_silent quiet, List.append_nil] at cut
  unfold parent?
  cases rest : path.body.reverse.dropWhile isSilent with
  | nil => simp [rest] at cut
  | cons piece earlier =>
      rw [rest, List.head?_cons] at loud
      rw [rest, List.reverse_cons, List.filter_append,
        List.filter_cons_of_pos (by simpa using loud), List.filter_nil] at cut
      obtain ⟨same, lastSame⟩ := List.append_inj' cut rfl
      obtain rfl := List.singleton_inj.mp lastSame
      rw [rest, List.reverse_cons, List.append_assoc, List.singleton_append] at whole
      exact ⟨earlier.reverse, _, whole, same, rfl⟩

theorem length_front_le (path : FilePath) : path.front.length ≤ 1 := by
  unfold front
  split
  · exact Nat.le_refl 1
  · split <;> simp

/-- What is written before a piece is shorter than the path by more than the piece, if it is not
the front alone. -/
theorem length_ofPieces_trimmed {path : FilePath} {earlier silent : List Bytes} {last : Bytes}
    (whole : path.body = earlier ++ last :: silent) :
    (ofPieces path.front (trimmed earlier)).bytes.length ≤ 1 ∨
      (ofPieces path.front (trimmed earlier)).bytes.length + last.length < path.bytes.length := by
  by_cases none : earlier = []
  · left
    simpa [none, ofPieces, trimmed] using length_front_le path
  · right
    have few := (isPrefix_intercalate [slash] (isPrefix_trimmed earlier)).length_le
    have longer := length_intercalate_le earlier last silent none
    have size := congrArg List.length (bytes_eq path)
    rw [whole, List.length_append] at size
    rw [ofPieces, List.length_append, size]
    omega

/-- Leaving out the last step of a path leaves out the last piece that says something. -/
theorem exists_parent {path : FilePath} {before : List Bytes} {last : Bytes}
    (cut : path.spoken = before ++ [last]) :
    ∃ parent, path.parent? = some parent ∧ parent.spoken = before ∧
      parent.isAbsolute = path.isAbsolute ∧ parent.bytes <+: path.bytes ∧
      (parent.bytes.length ≤ 1 ∨ parent.bytes.length + last.length < path.bytes.length) := by
  obtain ⟨earlier, silent, whole, same, found⟩ := exists_parent_eq cut
  have first : trimmed earlier <+: path.body :=
    (isPrefix_trimmed earlier).trans (whole ▸ List.prefix_append _ _)
  obtain ⟨content, starts⟩ := ofPieces_front first
  exact ⟨_, found, by rw [content, filter_trimmed, same], starts, isPrefix_ofPieces first,
    length_ofPieces_trimmed whole⟩

/-- A path that says nothing has at most an empty parent. -/
theorem bytes_parent_of_spoken_eq_nil {path parent : FilePath} (silent : path.spoken = [])
    (found : path.parent? = some parent) : parent.bytes = [] := by
  rw [← filter_body, List.filter_eq_nil_iff] at silent
  have nothing : path.body.reverse.dropWhile isSilent = [] := by
    rw [List.dropWhile_eq_nil_iff]
    simpa using silent
  rw [parent?, nothing] at found
  dsimp only at found
  split at found
  · rw [← Option.some.inj found]
  · exact absurd found (by simp)

theorem spoken_of_bytes_eq_nil {path : FilePath} (nothing : path.bytes = []) : path.spoken = [] := by
  obtain ⟨bytes⟩ := path
  obtain rfl : bytes = [] := nothing
  decide

/-- What does not say `..` does not say it in its parent. -/
theorem downward_parent {path parent : FilePath} (found : path.parent? = some parent)
    (downward : parentPiece ∉ path.spoken) : parentPiece ∉ parent.spoken := by
  obtain silent | ⟨words, last, cut⟩ := List.eq_nil_or_concat path.spoken
  · rw [spoken_of_bytes_eq_nil (bytes_parent_of_spoken_eq_nil silent found)]
    exact List.not_mem_nil
  · rw [List.concat_eq_append] at cut
    obtain ⟨same, again, content, -⟩ := exists_parent cut
    obtain rfl := Option.some.inj (found.symm.trans again)
    rw [content]
    exact fun held => downward (cut ▸ List.mem_append_left _ held)

/-- The directory of a path says all but the last piece of it. -/
theorem directory_spoken {path : FilePath} {before : List Bytes} {last : Bytes}
    (cut : path.spoken = before ++ [last]) :
    path.directory.spoken = before ∧ path.directory.isAbsolute = path.isAbsolute := by
  obtain ⟨⟨bytes⟩, found, content, starts, -⟩ := exists_parent cut
  unfold directory
  rw [found]
  cases bytes with
  | nil =>
      refine ⟨?_, ?_⟩
      · rw [← content]
        decide
      · rw [← starts]
        decide
  | cons byte rest => exact ⟨content, starts⟩

theorem isAbsolute_of_unslashed {name : Bytes} (unslashed : slash ∉ name) :
    (FilePath.mk name).isAbsolute = false := by
  cases name with
  | nil => rfl
  | cons byte rest => simpa [isAbsolute] using fun same : byte = slash => unslashed (by simp [same])

/-- A name behind a directory is the last piece of the joined path, and the pieces before it say
what the directory says. -/
theorem join_pieces {path : FilePath} {name : Bytes} (begun : path.bytes ≠ [])
    (unslashed : slash ∉ name) :
    (∃ before, (path.join ⟨name⟩).pieces = before ++ [name] ∧
        (before.filter fun piece => !isSilent piece) = path.spoken) ∧
      (path.join ⟨name⟩).isAbsolute = path.isAbsolute := by
  have single : name.splitOn slash = [name] := List.splitOn_eq_singleton unslashed
  obtain ⟨bytes⟩ := path
  simp only [join, isAbsolute_of_unslashed unslashed, Bool.false_eq_true, if_false]
  split
  · next ended =>
      simp only [Bool.or_eq_true, decide_eq_true_eq] at ended
      obtain ⟨initial, rfl⟩ := List.getLast?_eq_some_iff.mp (ended.resolve_left begun)
      refine ⟨⟨initial.splitOn slash, ?_, ?_⟩, ?_⟩
      · simp [pieces, List.splitOn_append_cons_self, single]
      · simp [spoken, pieces, List.splitOn_append_cons_self, isSilent_nil]
      · cases initial <;> simp [isAbsolute]
  · refine ⟨⟨bytes.splitOn slash, ?_, rfl⟩, ?_⟩
    · simp [pieces, List.splitOn_append_cons_self, single]
    · cases bytes with
      | nil => exact absurd rfl begun
      | cons byte rest => simp [isAbsolute]

theorem join_spoken {path : FilePath} {name : Bytes} (begun : path.bytes ≠ [])
    (loud : isSilent name = false) (unslashed : slash ∉ name) :
    (path.join ⟨name⟩).spoken = path.spoken ++ [name] := by
  obtain ⟨⟨before, cut, content⟩, -⟩ := join_pieces begun unslashed
  rw [spoken, cut, List.filter_append, content, List.filter_cons_of_pos (by simp [loud]),
    List.filter_nil]

/-- The directory of the joined path is written like the one that leads on, or more shortly. -/
theorem directory_join {path : FilePath} {name : Bytes} (begun : path.bytes ≠ [])
    (loud : isSilent name = false) (unslashed : slash ∉ name) :
    (path.join ⟨name⟩).directory = ofString "." ∨
      (path.join ⟨name⟩).directory.bytes <+: path.bytes ∧
        (path.join ⟨name⟩).directory.bytes ≠ [] := by
  obtain ⟨⟨bytes⟩, found, -, -, begins, size⟩ :=
    exists_parent (join_spoken begun loud unslashed)
  unfold directory
  rw [found]
  cases bytes with
  | nil => exact .inl rfl
  | cons byte rest =>
      right
      have relative := isAbsolute_of_unslashed unslashed
      have joined : path.bytes <+: (path.join ⟨name⟩).bytes ∧
          (path.join ⟨name⟩).bytes.length ≤ path.bytes.length + 1 + name.length := by
        simp only [join, relative, Bool.false_eq_true, if_false]
        split
        · simp
        · simp
          omega
      refine ⟨List.prefix_of_prefix_length_le begins joined.1 ?_, by simp⟩
      have some : 0 < path.bytes.length := List.length_pos_of_ne_nil begun
      have bound := joined.2
      dsimp only at size ⊢
      omega

end FilePath

end RecordRegistry
