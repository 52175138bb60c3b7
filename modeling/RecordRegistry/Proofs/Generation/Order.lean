/-
# The order of the duplicates

The paths that several entries have are reported in the order in which they occur for the second
time.  This is the order in which they are first seen only as long as no two of them cross: a path
that is seen first but repeated later than another one is reported behind it.
-/

import RecordRegistry.Proofs.Generation.Duplicates

namespace RecordRegistry

/-- Some beginning of the texts has the first text so many times, and the second less often. -/
def ReachesBefore (times : Nat) (texts : List String) (first second : String) : Prop :=
  ∃ count, times ≤ (texts.take count).count first ∧ (texts.take count).count second < times

section Reaching

variable {times : Nat} {texts : List String} {first second : String}

theorem not_reachesBefore_self (text : String) : ¬ ReachesBefore times texts text text := by
  rintro ⟨count, often, seldom⟩
  exact absurd often (Nat.not_le.mpr seldom)

/-- Of two texts only one can come to a number of occurrences before the other. -/
theorem ReachesBefore.not_swap (reaches : ReachesBefore times texts first second) :
    ¬ ReachesBefore times texts second first := by
  rintro ⟨count, often, seldom⟩
  obtain ⟨other, otherOften, otherSeldom⟩ := reaches
  rcases Nat.le_total count other with less | less
  · have more := ((List.take_prefix_take_left less : texts.take count <+: _).sublist).count_le second
    omega
  · have more := ((List.take_prefix_take_left less : texts.take other <+: _).sublist).count_le first
    omega

/-- Texts are in one order only. -/
theorem eq_of_pairwise_reachesBefore {these those : List String} (same : these.Perm those)
    (order : these.Pairwise (ReachesBefore times texts))
    (also : those.Pairwise (ReachesBefore times texts)) : these = those :=
  same.eq_of_pairwise (fun _ _ _ _ reaches back => absurd back reaches.not_swap) order also

/-- Where two numbers of occurrences put texts in one order, they agree on each two of them. -/
theorem agree_of_pairwise {other : Nat} {reported : List String}
    (order : reported.Pairwise (ReachesBefore times texts))
    (also : reported.Pairwise (ReachesBefore other texts)) (one : first ∈ reported)
    (two : second ∈ reported) (reaches : ReachesBefore times texts first second) :
    ReachesBefore other texts first second := by
  have forth : reported.Pairwise fun one two =>
      ReachesBefore times texts one two → ReachesBefore other texts one two := by
    refine also.imp ?_
    exact fun earlier _ => earlier
  have back : reported.Pairwise fun two one =>
      ReachesBefore times texts one two → ReachesBefore other texts one two :=
    order.imp fun earlier reverse => absurd reverse earlier.not_swap
  exact forth.forall_of_forall_of_flip
    (fun text _ itself => absurd itself (not_reachesBefore_self text)) back one two reaches

/-- Duplicates come out in the order of their second occurrences. -/
theorem pairwise_duplicates_go (before texts : List String) :
    (duplicates.go before texts).Pairwise (ReachesBefore 2 (before.reverse ++ texts)) := by
  -- The beginning that ends with the reported text has it twice; whatever is reported later has
  -- not come to its second occurrence there.
  induction texts generalizing before with
  | nil => exact .nil
  | cons text rest ih =>
      have later : (duplicates.go (text :: before) rest).Pairwise
          (ReachesBefore 2 (before.reverse ++ text :: rest)) := by
        simpa using ih (text :: before)
      have cut : (before.reverse ++ text :: rest).take (before.length + 1) =
          before.reverse ++ [text] := by
        simp [List.take_append]
      by_cases once : before.count text = 1
      · rw [duplicates.go, if_pos once]
        refine List.pairwise_cons.mpr ⟨fun other found => ⟨before.length + 1, ?_, ?_⟩, later⟩
        · simp [cut, once]
        · have few := (mem_duplicates_go_iff.mp found).1
          rw [List.count_cons] at few
          rw [cut, List.count_append, List.count_reverse, List.count_singleton]
          omega
      · rwa [duplicates.go, if_neg once]

end Reaching

/-- The paths that are reported are those which occur at least twice, each of them once, in the
order of their second occurrences, and no other list is made up so.  They are in the order in which
they are first seen if and only if no two of them cross. -/
theorem duplicatePaths_in_order (entries : List Entry) :
    let paths := entries.map Entry.relativePath
    (∀ reported, reported = duplicatePaths entries ↔
      (∀ path, path ∈ reported ↔ 2 ≤ paths.count path) ∧ reported.Nodup ∧
        reported.Pairwise (ReachesBefore 2 paths)) ∧
    ((duplicatePaths entries).Pairwise (ReachesBefore 1 paths) ↔
      ∀ first second, 2 ≤ paths.count first → 2 ≤ paths.count second →
        ReachesBefore 2 paths first second → ReachesBefore 1 paths first second) := by
  intro paths
  have members (path : String) : path ∈ duplicatePaths entries ↔ 2 ≤ paths.count path := by
    simp [duplicatePaths, duplicates, mem_duplicates_go_iff, paths, Nat.lt_iff_add_one_le]
  have nodup : (duplicatePaths entries).Nodup := nodup_duplicates_go [] paths
  have order : (duplicatePaths entries).Pairwise (ReachesBefore 2 paths) :=
    pairwise_duplicates_go [] paths
  refine ⟨fun reported => ⟨?_, ?_⟩, ?_, ?_⟩
  · rintro rfl
    exact ⟨members, nodup, order⟩
  · rintro ⟨same, single, ordered⟩
    refine eq_of_pairwise_reachesBefore ?_ ordered order
    exact (List.perm_ext_iff_of_nodup single nodup).mpr fun path =>
      (same path).trans (members path).symm
  · intro seen first second repeats also
    exact agree_of_pairwise order seen ((members first).mpr repeats) ((members second).mpr also)
  · intro uncrossed
    exact order.imp_of_mem fun one other reaches =>
      uncrossed _ _ ((members _).mp one) ((members _).mp other) reaches

/-- Two paths that cross: the first is seen first and repeated last. -/
def crossedEntries : List Entry :=
  [⟨"Author", none, true⟩, ⟨"Book", none, true⟩, ⟨"Book", none, true⟩, ⟨"Author", none, true⟩]

/-- The path that is seen first is reported last. -/
theorem duplicatePaths_crossedEntries :
    duplicatePaths crossedEntries = ["Book", "Author"] ∧
      ReachesBefore 1 (crossedEntries.map Entry.relativePath) "Author" "Book" ∧
      ¬ (duplicatePaths crossedEntries).Pairwise
        (ReachesBefore 1 (crossedEntries.map Entry.relativePath)) := by
  have reported : duplicatePaths crossedEntries = ["Book", "Author"] := by decide
  have seen : ReachesBefore 1 (crossedEntries.map Entry.relativePath) "Author" "Book" :=
    ⟨1, by decide, by decide⟩
  refine ⟨reported, seen, ?_⟩
  rw [reported]
  simp [seen.not_swap]

end RecordRegistry
