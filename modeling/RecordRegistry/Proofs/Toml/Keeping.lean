/-
# Texts that stay in a configuration

Once a table of a document has been opened and gives a name a text, nothing that follows can change
this: a further assignment or header that would do so is an error.  What is read line by line keeps
the text, first in the table that is open, and later in the table where it has been put.
-/

import RecordRegistry.Proofs.Toml.Lines
import RecordRegistry.Proofs.Toml.Tables

namespace RecordRegistry.Toml

open Members (GivesAll GivesIn)
open Reader (Opens)

namespace Draft

variable {draft next : Draft} {header : Header} {members result : Members} {node : Node}
  {table : String} {given : String → Option String}

/-- What makes room for the table of a header, in the table to which the names before the last one
lead. -/
def take (header : Header) : Edit Members := do
  let members ← get
  let repeated := Cause.duplicateKey (Written.name header.key.text)
    (.inTable (header.path.map Key.text))
  match header.isShared, members.find? header.key.text with
  | _, none => return []
  | true, some (.tables _) => return []
  | false, some (.table _ .implied content) =>
    set (members.remove header.key.text)
    return content
  | _, _ => throw repeated

/-- What puts a finished table into the table to which the names before the last one of its header
lead. -/
def put (header : Header) (table : Node) : Edit Unit := do
  let members ← get
  match header.isShared, members.find? header.key.text with
  | true, some (.tables elements) =>
    set (members.replace header.key.text (.tables (elements ++ [table])))
  | true, _ => set (members.add header.key (.tables [table]))
  | false, _ => set (members.add header.key table)

theorem claim_eq_within :
    claim header = Edit.within .header (fun _ => take header) [] header.path .opened :=
  rfl

theorem place_eq_within :
    place header node = Edit.within .header (fun _ => put header node) [] header.path .opened :=
  rfl

/-- There is only room for a table where there is no value and no table with a header of its own. -/
theorem take_eq_ok {content : Members} (taken : (take header).run members = .ok (content, result)) :
    (∀ span scalar, members.find? header.key.text ≠ some (.scalar span scalar)) ∧
      (∀ span content, members.find? header.key.text ≠ some (.table span .opened content)) ∧
      (result = members ∨ result = members.remove header.key.text) := by
  unfold take at taken
  rw [Edit.run_get_bind] at taken
  split at taken
  · next found =>
      obtain ⟨⟨⟩⟩ := taken
      simp [found]
  · next tables _ found =>
      obtain ⟨⟨⟩⟩ := taken
      simp [found]
  · next span content _ found =>
      obtain ⟨_, _, isSet, returned⟩ := Edit.bind_eq_ok_iff.mp taken
      obtain ⟨⟨⟩⟩ := returned
      obtain rfl := Edit.run_set_eq_ok_iff.mp isSet
      simp [found]
  · exact absurd taken Edit.run_throw_ne_ok

/-- The table of a header of its own comes behind what is there. -/
theorem put_of_single (single : header.isShared = false) :
    (put header node).run members = .ok ((), members.add header.key node) := by
  unfold put
  rw [Edit.run_get_bind]
  split
  · next shared _ => rw [single] at shared; contradiction
  · next shared _ => rw [single] at shared; contradiction
  · rfl

theorem put_eq_ok {outcome : Unit}
    (placed : (put header node).run members = .ok (outcome, result)) :
    ∃ other, result = members.add header.key other ∨
      result = members.replace header.key.text other := by
  unfold put at placed
  rw [Edit.run_get_bind] at placed
  split at placed
  · exact ⟨_, .inr (Edit.run_set_eq_ok_iff.mp placed)⟩
  · exact ⟨_, .inl (Edit.run_set_eq_ok_iff.mp placed)⟩
  · exact ⟨_, .inl (Edit.run_set_eq_ok_iff.mp placed)⟩

/-- A header that opens neither a certain table nor, in this table, one that has a given name. -/
structure Spares (header : Header) (table : String) (given : String → Option String) : Prop where
  outside : header.path = [] → header.key.text ≠ table
  inside {key : Key} : header.path = [key] → key.text = table → given header.key.text = none

theorem spares_of_claim {content : Members} (gives : GivesIn members table given)
    (claimed : (claim header).run members = .ok (content, result)) : Spares header table given := by
  obtain ⟨span, inside, found, gives⟩ := gives
  rw [claim_eq_within] at claimed
  constructor
  · intro noPath same
    rw [noPath] at claimed
    exact (take_eq_ok claimed).2.1 span inside (same ▸ found)
  · intro key single same
    by_contra named
    obtain ⟨value, isGiven⟩ := Option.ne_none_iff_exists'.mp named
    rw [single] at claimed
    obtain ⟨span, there⟩ := (gives _ _ isGiven).find?
    rcases Edit.within_cons_eq_ok claimed with
      ⟨free, -⟩ | ⟨_, _, _, _, led, taken, -⟩ | ⟨_, _, led, -⟩
    · rw [same, found] at free
      contradiction
    · rw [same, found] at led
      obtain ⟨rfl, rfl, rfl⟩ : _ ∧ _ ∧ _ := by simpa using led
      exact (take_eq_ok taken).1 span _ there
    · rw [same, found] at led
      simp at led

theorem givesIn_claim {content : Members} (gives : GivesIn members table given)
    (claimed : (claim header).run members = .ok (content, result)) :
    GivesIn result table given := by
  have spares := spares_of_claim gives claimed
  rw [claim_eq_within] at claimed
  refine gives.within claimed (fun noPath => ?_)
    fun key content altered single same gives taken => ?_
  · rw [noPath] at claimed
    rcases (take_eq_ok claimed).2.2 with rfl | rfl
    · exact gives
    · exact gives.remove (spares.outside noPath)
  · rcases (take_eq_ok taken).2.2 with rfl | rfl
    · exact gives
    · exact gives.remove (spares.inside single same)

theorem givesIn_place {outcome : Unit} (gives : GivesIn members table given)
    (spares : Spares header table given)
    (placed : (place header node).run members = .ok (outcome, result)) :
    GivesIn result table given := by
  rw [place_eq_within] at placed
  refine gives.within placed (fun noPath => ?_)
    fun key content altered single same gives changed => ?_
  · rw [noPath] at placed
    obtain ⟨_, rfl | rfl⟩ := put_eq_ok placed
    · exact gives.add (spares.outside noPath)
    · exact gives.replace (spares.outside noPath)
  · obtain ⟨_, rfl | rfl⟩ := put_eq_ok changed
    · exact gives.add (spares.inside single same)
    · exact gives.replace (spares.inside single same)

/-- A draft keeps a text: in the table that is open, or in one of the complete tables. -/
inductive Keeps (table : String) (given : String → Option String) (draft : Draft) : Prop
  | opened {header : Header} : draft.header = some header → Opens table header →
    draft.complete.find? table = none → GivesAll draft.members given → Keeps table given draft
  | complete {header : Header} : draft.header = some header → Spares header table given →
    GivesIn draft.complete table given → Keeps table given draft

theorem placed_of_finish (isOpen : draft.header = some header)
    (finished : draft.finish = .ok members) :
    ∃ outcome, (place header (.table (some draft.span) .opened draft.members)).run draft.complete =
      .ok (outcome, members) := by
  unfold Draft.finish at finished
  rw [isOpen] at finished
  change Prod.snd <$> (place header _).run draft.complete = _ at finished
  cases placed :
      (place header (.table (some draft.span) .opened draft.members)).run draft.complete with
  | error cause =>
      rw [placed] at finished
      cases finished
  | ok result =>
      rw [placed] at finished
      exact ⟨result.1, by rw [← Except.ok.inj finished]⟩

namespace Keeps

theorem finish (keeps : Keeps table given draft) (finished : draft.finish = .ok members) :
    GivesIn members table given := by
  rcases keeps with ⟨isOpen, ⟨noPath, named, single⟩, free, gives⟩ | ⟨isOpen, spares, gives⟩
  · obtain ⟨_, placed⟩ := placed_of_finish isOpen finished
    rw [place_eq_within, noPath] at placed
    obtain ⟨-, rfl⟩ := Prod.mk.inj (Except.ok.inj ((put_of_single single).symm.trans placed))
    exact ⟨_, _, named ▸ Members.find?_add_self (named ▸ free), gives⟩
  · obtain ⟨_, placed⟩ := placed_of_finish isOpen finished
    exact givesIn_place gives spares placed

theorem openTable (keeps : Keeps table given draft) (opened : draft.openTable header = .ok next) :
    Keeps table given next := by
  obtain ⟨members, finished, opened⟩ := bind_eq_ok_iff.mp opened
  obtain ⟨⟨content, complete⟩, claimed, opened⟩ := bind_eq_ok_iff.mp opened
  obtain rfl := Except.ok.inj opened
  have gives := keeps.finish finished
  exact .complete rfl (spares_of_claim gives claimed) (givesIn_claim gives claimed)

theorem assign {assignment : Assignment} (keeps : Keeps table given draft)
    (assigned : draft.assign assignment = .ok next) : Keeps table given next := by
  obtain ⟨⟨_, members⟩, changed, assigned⟩ := bind_eq_ok_iff.mp assigned
  obtain rfl := Except.ok.inj assigned
  rcases keeps with ⟨isOpen, opens, free, gives⟩ | ⟨isOpen, spares, gives⟩
  · refine .opened isOpen opens free ?_
    obtain ⟨path, key, node⟩ := assignment
    cases path with
    | nil =>
        obtain ⟨-, free, rfl⟩ := Edit.add_eq_ok_iff.mp changed
        refine gives.add (Option.eq_none_iff_forall_ne_some.mpr fun value isGiven => ?_)
        obtain ⟨span, found⟩ := (gives _ _ isGiven).find?
        rw [free] at found
        contradiction
    | cons first path => exact gives.within changed
  · exact .complete isOpen spares gives

end Keeps

/-- One line keeps the text, whatever it is. -/
theorem Keeps.line? (keeps : Keeps table given draft) :
    (Reader.line? draft).Yields fun next? => ∀ next ∈ next?, Keeps table given next := by
  have onward {next : Draft} (keeps : Keeps table given next) :
      Reader.Yields (do Reader.blanks; return some next)
        fun next? => ∀ next ∈ next?, Keeps table given next :=
    Reader.yields_bind fun _ => Reader.yields_pure (by simpa using keeps)
  refine Reader.yields_bind fun character => ?_
  split
  · exact Reader.yields_pure (by simp)
  · exact Reader.yields_bind fun _ => Reader.yields_bind fun _ => onward keeps
  · exact Reader.yields_bind fun _ => onward keeps
  · exact Reader.yields_bind fun _ => onward keeps
  · have opens : (Reader.header draft).Yields (Keeps table given) := by
      apply Reader.Yields.named
      refine Reader.yields_bind fun source => ?_
      split
      · rintro _ _ _ ⟨⟩
      · exact Reader.yields_refined fun header next => keeps.openTable
      · exact Reader.yields_refined fun header next => keeps.openTable
    exact opens.bind fun next => onward
  · have assigns : (Reader.assignmentLine draft).Yields (Keeps table given) :=
      Reader.yields_refined fun assignment next => keeps.assign
    exact assigns.bind fun next => onward

/-- Any number of lines keep the text. -/
theorem Keeps.iterateUpTo (keeps : Keeps table given draft) (count : Nat) :
    (Reader.iterateUpTo Reader.line? count draft).Yields (Keeps table given) := by
  induction count generalizing draft with
  | zero => exact Reader.yields_pure keeps
  | succ count ih =>
      refine keeps.line?.bind fun next? kept => ?_
      cases next? with
      | none => exact Reader.yields_pure keeps
      | some next => exact ih (kept next rfl)

end Draft

end RecordRegistry.Toml
