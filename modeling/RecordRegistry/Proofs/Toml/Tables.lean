/-
# Changes of tables

A change that succeeds has gone along its path: every name on the way was free, or stood for a
table, or for several tables of which the last one was changed.  What stands for something else is
never replaced.
-/

import Mathlib
import RecordRegistry.Proofs.Results
import RecordRegistry.Toml.Document

namespace RecordRegistry.Toml

namespace Edit

variable {α β : Type} {members result content : Members} {value : α} {key : Key} {node : Node}

theorem bind_eq_ok_iff {first : Edit α} {next : α → Edit β} {value : β} :
    (first >>= next).run members = .ok (value, result) ↔
      ∃ one middle, first.run members = .ok (one, middle) ∧
        (next one).run middle = .ok (value, result) := by
  rw [StateT.run_bind, RecordRegistry.bind_eq_ok_iff, Prod.exists]

theorem run_get_bind {next : Members → Edit α} :
    ((get : Edit Members) >>= next).run members = (next members).run members :=
  rfl

theorem run_set_eq_ok_iff {changed : Members} {value : PUnit} :
    (set changed : Edit PUnit).run members = .ok (value, result) ↔ result = changed := by
  constructor
  · rintro ⟨⟩
    rfl
  · rintro rfl
    rfl

theorem run_throw_ne_ok {cause : Cause} :
    (throw cause : Edit α).run members ≠ .ok (value, result) := by
  rintro ⟨⟩

theorem run_lift_eq_ok_iff {outcome : Except Cause α} :
    (liftM outcome : Edit α).run members = .ok (value, result) ↔
      outcome = .ok value ∧ result = members := by
  cases outcome with
  | error cause =>
      constructor
      · rintro ⟨⟩
      · rintro ⟨⟨⟩, -⟩
  | ok other =>
      constructor
      · rintro ⟨⟩
        exact ⟨rfl, rfl⟩
      · rintro ⟨⟨⟩, rfl⟩
        rfl

theorem add_eq_ok_iff {isDotted : Bool} {occurrence : Occurrence} {kind : TableKind}
    {value : Unit} :
    (add isDotted key node occurrence kind).run members = .ok (value, result) ↔
      isDotted = decide (kind = .dotted) ∧ members.find? key.text = none ∧
        result = members.add key node := by
  unfold add
  rw [run_get_bind]
  by_cases same : isDotted = decide (kind = .dotted)
  · cases found : members.find? key.text with
    | none =>
        rw [if_neg (by simpa using same)]
        exact run_set_eq_ok_iff.trans (by simp [same])
    | some there =>
        rw [if_neg (by simpa using same)]
        constructor
        · intro added
          exact absurd added run_throw_ne_ok
        · simp
  · rw [if_pos (by simpa using same)]
    constructor
    · intro added
      exact absurd added run_throw_ne_ok
    · exact fun sound => absurd sound.1 same

/-- Along a path, a name that is free becomes a table; one that stands for a table, or for several
of which the last one counts, keeps doing so; and any other is an error. -/
theorem within_cons_eq_ok {route : Route} {change : TableKind → Edit α} {before : List String}
    {path : List Key} {kind : TableKind}
    (changed : (within route change before (key :: path) kind).run members = .ok (value, result)) :
    (members.find? key.text = none ∧
      ∃ table, result = members.add key (.table none route.made table)) ∨
    (∃ span kind table altered, members.find? key.text = some (.table span kind table) ∧
      (within route change (before ++ [key.text]) path kind).run table = .ok (value, altered) ∧
      result = members.replace key.text (.table span kind altered)) ∨
    (∃ tables altered, members.find? key.text = some (.tables tables) ∧
      result = members.replace key.text (.tables altered)) := by
  unfold within at changed
  rw [run_get_bind] at changed
  split at changed
  · next free =>
      obtain ⟨⟨_, table⟩, _, -, onward⟩ := bind_eq_ok_iff.mp changed
      obtain ⟨_, _, isSet, returned⟩ := bind_eq_ok_iff.mp onward
      obtain ⟨⟨⟩⟩ := returned
      exact .inl ⟨free, table, run_set_eq_ok_iff.mp isSet⟩
  · next span kind table found =>
      split at changed
      · exact absurd changed run_throw_ne_ok
      · obtain ⟨⟨_, altered⟩, _, lifted, onward⟩ := bind_eq_ok_iff.mp changed
        obtain ⟨inner, rfl⟩ := run_lift_eq_ok_iff.mp lifted
        obtain ⟨_, _, isSet, returned⟩ := bind_eq_ok_iff.mp onward
        obtain ⟨⟨⟩⟩ := returned
        exact .inr (.inl ⟨span, kind, table, altered, found, inner, run_set_eq_ok_iff.mp isSet⟩)
  · next tables found =>
      split at changed
      · obtain ⟨⟨_, altered⟩, _, -, onward⟩ := bind_eq_ok_iff.mp changed
        obtain ⟨_, _, isSet, returned⟩ := bind_eq_ok_iff.mp onward
        obtain ⟨⟨⟩⟩ := returned
        exact .inr (.inr ⟨tables, _, found, run_set_eq_ok_iff.mp isSet⟩)
      · exact absurd changed run_throw_ne_ok
  · exact absurd changed run_throw_ne_ok
  · exact absurd changed run_throw_ne_ok

end Edit

namespace Members

variable {members : Members} {key : Key} {node : Node} {table name value : String}
  {given : String → Option String}

/-- A table gives a name a text, and nothing else. -/
structure Gives (members : Members) (name value : String) : Prop where
  present : ∃ member ∈ members, member.1.text = name
  only : ∀ member ∈ members, member.1.text = name → ∃ span, member.2 = .scalar span (.text value)

/-- A table gives names their texts. -/
def GivesAll (members : Members) (given : String → Option String) : Prop :=
  ∀ name value, given name = some value → Gives members name value

/-- A table of the document gives names their texts. It has been opened by a header of its own. -/
def GivesIn (members : Members) (table : String) (given : String → Option String) : Prop :=
  ∃ span content, members.find? table = some (.table span .opened content) ∧ GivesAll content given

theorem find?_add_of_ne (differs : key.text ≠ name) :
    (members.add key node).find? name = members.find? name := by
  simp [find?, add, List.find?_append, differs]

theorem find?_add_self (free : members.find? key.text = none) :
    (members.add key node).find? key.text = some node := by
  unfold find? at free
  rw [Option.map_eq_none_iff] at free
  simp [find?, add, List.find?_append, free]

theorem find?_remove_of_ne {other : String} (differs : other ≠ name) :
    (members.remove other).find? name = members.find? name := by
  unfold find? remove
  rw [List.find?_filter]
  congr 2
  funext member
  by_cases same : member.1.text = name <;> simp [same, differs.symm]

theorem find?_replace_of_ne {other : String} (differs : other ≠ name) :
    (members.replace other node).find? name = members.find? name := by
  induction members with
  | nil => rfl
  | cons member members ih =>
      unfold find? replace at ih ⊢
      by_cases same : member.1.text = name
      · simp [same, differs.symm]
      · by_cases isOther : member.1.text = other <;> simp_all

theorem find?_replace_self :
    (members.replace name node).find? name = (members.find? name).map fun _ => node := by
  induction members with
  | nil => rfl
  | cons member members ih =>
      by_cases same : member.1.text = name
      · simp [find?, replace, same]
      · have onward (rest : Members) : find? (member :: rest) name = find? rest name := by
          simp [find?, same]
        have kept : replace (member :: members) name node =
            member :: replace members name node := by
          simp [replace, same]
        rw [kept, onward, onward, ih]

namespace Gives

theorem find? (gives : Gives members name value) :
    ∃ span, members.find? name = some (.scalar span (.text value)) := by
  obtain ⟨⟨member, isIn, named⟩, only⟩ := gives
  have isFound : (List.find? (fun member => decide (member.1.text = name)) members).isSome :=
    List.find?_isSome.mpr ⟨member, isIn, by simp [named]⟩
  obtain ⟨first, found⟩ := Option.isSome_iff_exists.mp isFound
  have firstNamed : first.1.text = name := by simpa using List.find?_some found
  obtain ⟨span, isText⟩ := only first (List.mem_of_find?_eq_some found) firstNamed
  exact ⟨span, by rw [Members.find?, found, Option.map_some, isText]⟩

theorem add (gives : Gives members name value) (differs : key.text ≠ name) :
    Gives (members.add key node) name value where
  present := by
    obtain ⟨member, isIn, named⟩ := gives.present
    exact ⟨member, List.mem_append_left _ isIn, named⟩
  only member isIn named := by
    rcases List.mem_append.mp isIn with before | added
    · exact gives.only member before named
    · obtain rfl := List.mem_singleton.mp added
      exact absurd named differs

theorem remove {other : String} (gives : Gives members name value) (differs : other ≠ name) :
    Gives (members.remove other) name value where
  present := by
    obtain ⟨member, isIn, named⟩ := gives.present
    exact ⟨member, List.mem_filter.mpr ⟨isIn, by simp [named, differs.symm]⟩, named⟩
  only member isIn := gives.only member (List.mem_filter.mp isIn).1

theorem replace {other : String} (gives : Gives members name value) (differs : other ≠ name) :
    Gives (members.replace other node) name value where
  present := by
    obtain ⟨member, isIn, named⟩ := gives.present
    exact ⟨member, List.mem_map.mpr ⟨member, isIn, by simp [named, differs.symm]⟩, named⟩
  only member isIn named := by
    obtain ⟨before, wasIn, rfl⟩ := List.mem_map.mp isIn
    by_cases changed : before.1.text = other
    · rw [if_pos changed] at named
      exact absurd (changed.symm.trans named) differs
    · rw [if_neg changed] at named ⊢
      exact gives.only before wasIn named

/-- A change along a path that leads out of the table never meets the name, since it stands for no
table. -/
theorem within {α : Type} {route : Route} {change : TableKind → Edit α} {before : List String}
    {path : List Key} {kind : TableKind} {outcome : α} {result : Members}
    (gives : Gives members name value)
    (changed :
      (Edit.within route change before (key :: path) kind).run members = .ok (outcome, result)) :
    Gives result name value := by
  have differs (noText : ∀ span, members.find? key.text ≠ some (.scalar span (.text value))) :
      key.text ≠ name := by
    rintro same
    obtain ⟨span, found⟩ := gives.find?
    exact noText span (same ▸ found)
  rcases Edit.within_cons_eq_ok changed with ⟨free, _, rfl⟩ | ⟨_, _, _, _, found, -, rfl⟩ |
    ⟨_, _, found, rfl⟩
  · exact gives.add (differs (by simp [free]))
  · exact gives.replace (differs (by simp [found]))
  · exact gives.replace (differs (by simp [found]))

end Gives

namespace GivesAll

theorem ne_of_spared {other : String} (spared : given other = none)
    (isGiven : given name = some value) :
    other ≠ name := by
  rintro rfl
  rw [spared] at isGiven
  contradiction

theorem add (gives : GivesAll members given) (spared : given key.text = none) :
    GivesAll (members.add key node) given :=
  fun name value isGiven => (gives name value isGiven).add (ne_of_spared spared isGiven)

theorem remove {other : String} (gives : GivesAll members given) (spared : given other = none) :
    GivesAll (members.remove other) given :=
  fun name value isGiven => (gives name value isGiven).remove (ne_of_spared spared isGiven)

theorem replace {other : String} (gives : GivesAll members given) (spared : given other = none) :
    GivesAll (members.replace other node) given :=
  fun name value isGiven => (gives name value isGiven).replace (ne_of_spared spared isGiven)

theorem within {α : Type} {route : Route} {change : TableKind → Edit α} {before : List String}
    {path : List Key} {kind : TableKind} {outcome : α} {result : Members}
    (gives : GivesAll members given)
    (changed :
      (Edit.within route change before (key :: path) kind).run members = .ok (outcome, result)) :
    GivesAll result given :=
  fun name value isGiven => (gives name value isGiven).within changed

end GivesAll

namespace GivesIn

theorem add (gives : GivesIn members table given) (differs : key.text ≠ table) :
    GivesIn (members.add key node) table given := by
  obtain ⟨span, content, found, inside⟩ := gives
  exact ⟨span, content, by rw [find?_add_of_ne differs, found], inside⟩

theorem remove {other : String} (gives : GivesIn members table given) (differs : other ≠ table) :
    GivesIn (members.remove other) table given := by
  obtain ⟨span, content, found, inside⟩ := gives
  exact ⟨span, content, by rw [find?_remove_of_ne differs, found], inside⟩

theorem replace {other : String} (gives : GivesIn members table given) (differs : other ≠ table) :
    GivesIn (members.replace other node) table given := by
  obtain ⟨span, content, found, inside⟩ := gives
  exact ⟨span, content, by rw [find?_replace_of_ne differs, found], inside⟩

/-- A change along a path is one of the document itself, one of the table that gives the texts, or
one that meets neither. -/
theorem within {α : Type} {change : TableKind → Edit α} {before : List String} {path : List Key}
    {kind : TableKind} {outcome : α} {result : Members} (gives : GivesIn members table given)
    (changed : (Edit.within .header change before path kind).run members = .ok (outcome, result))
    (here : path = [] → GivesIn result table given)
    (inside : ∀ key content altered, path = [key] → key.text = table → GivesAll content given →
      (change .opened).run content = .ok (outcome, altered) → GivesAll altered given) :
    GivesIn result table given := by
  cases path with
  | nil => exact here rfl
  | cons key path =>
      by_cases same : key.text = table
      · obtain ⟨span, content, found, gives⟩ := gives
        rcases Edit.within_cons_eq_ok changed with
          ⟨free, -⟩ | ⟨_, _, _, altered, there, inner, rfl⟩ | ⟨_, _, there, -⟩
        · rw [same, found] at free
          contradiction
        · rw [same, found] at there
          obtain ⟨rfl, rfl, rfl⟩ : _ ∧ _ ∧ _ := by simpa using there
          refine ⟨span, altered, by rw [same, find?_replace_self, found, Option.map_some], ?_⟩
          cases path with
          | nil => exact inside key content altered rfl same gives inner
          | cons key path => exact gives.within inner
        · rw [same, found] at there
          simp at there
      · rcases Edit.within_cons_eq_ok changed with ⟨-, _, rfl⟩ | ⟨_, _, _, _, -, -, rfl⟩ |
          ⟨_, _, -, rfl⟩
        · exact gives.add same
        · exact gives.replace same
        · exact gives.replace same

end GivesIn

end Members

end RecordRegistry.Toml
