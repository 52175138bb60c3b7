/-
# File systems that hold the same

A file system lists its locations in some order, and nothing that is read from it depends on that
order.  Every reading is stated here once for two file systems that answer alike at every location.
-/

import RecordRegistry.Proofs.File.Tree

namespace RecordRegistry

namespace FileSystem

variable {first second : FileSystem} {location : Location} {node : FileNode}

/-- Two file systems hold the same at every location. -/
def Alike (first second : FileSystem) : Prop :=
  ∀ location, first.node? location = second.node? location

/-- Where locations are listed once, what is found for a location is what is listed for it. -/
theorem lookup_eq_some_iff_mem {nodes : List (Location × FileNode)}
    (distinct : (nodes.map Prod.fst).Nodup) :
    nodes.lookup location = some node ↔ (location, node) ∈ nodes := by
  induction nodes with
  | nil => simp
  | cons entry nodes ih =>
      obtain ⟨place, stored⟩ := entry
      rw [List.map_cons, List.nodup_cons] at distinct
      rw [List.lookup_cons, List.mem_cons, Prod.mk.injEq]
      by_cases same : location = place
      · subst same
        have unlisted : (location, node) ∉ nodes :=
          fun listed => distinct.1 (List.mem_map.mpr ⟨_, listed, rfl⟩)
        simp [unlisted, eq_comm]
      · have skipped : (location == place) = false := by simpa using same
        simpa [skipped, same] using ih distinct.2

/-- Listing the locations in another order changes nothing. -/
theorem alike_of_perm (distinct : (first.nodes.map Prod.fst).Nodup)
    (reordered : first.nodes.Perm second.nodes) : first.Alike second := by
  have distinctToo := (reordered.map Prod.fst).nodup distinct
  have found (location : Location) :
      first.nodes.lookup location = second.nodes.lookup location := by
    refine Option.ext fun node => ?_
    rw [lookup_eq_some_iff_mem distinct, lookup_eq_some_iff_mem distinctToo, reordered.mem_iff]
  intro location
  rw [node?, node?, rootMode, rootMode, found, found]

namespace Alike

variable (same : first.Alike second)

include same

theorem symm : second.Alike first := fun location => (same location).symm

theorem mem_names {name : Bytes} {directory : Location} :
    name ∈ first.names directory ↔ name ∈ second.names directory := by
  rw [FileSystem.mem_names, FileSystem.mem_names, same]

/-- A tree is one in whatever order its locations are listed, as long as each is listed once. -/
theorem isTree (tree : first.IsTree) (distinct : (second.nodes.map Prod.fst).Nodup) :
    second.IsTree where
  distinct := distinct
  named name outer present := tree.named name outer (by rwa [same])
  inDirectory name outer present := by
    rw [HoldsDirectory, ← same]
    exact tree.inDirectory name outer (by rwa [same])

theorem advance (throughLast : Bool) (pieces : List Bytes) (here : Location) :
    first.advance throughLast here pieces = second.advance throughLast here pieces := by
  induction pieces generalizing here with
  | nil => rfl
  | cons piece rest ih => simp only [FileSystem.advance, same here, same (piece :: here), ih]

theorem follow (throughLast : Bool) (limit : Nat) (here : Location) (pieces : List Bytes) :
    first.follow throughLast limit here pieces = second.follow throughLast limit here pieces := by
  induction limit generalizing here pieces with
  | zero =>
      unfold FileSystem.follow
      rw [same.advance]
  | succ limit ih =>
      unfold FileSystem.follow
      rw [same.advance]
      simp only [ih]

theorem find (here : Location) (path : FilePath) : first.find here path = second.find here path := by
  simp only [FileSystem.find, FileSystem.locate, same.follow, same _]

theorem readText (here : Location) (path : FilePath) :
    first.readText here path = second.readText here path := by
  simp only [FileSystem.readText, FileSystem.read, same.find]

theorem target? (here : Location) (path : FilePath) :
    first.target? here path = second.target? here path := by
  simp only [FileSystem.target?, same.find]

end Alike

end FileSystem

end RecordRegistry
