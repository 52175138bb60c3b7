/-
# Where paths lead

Following a path is stated as a relation that counts the links on the way, so that a path can be
cut in two and followed piece by piece.  The relation is what the bounded search computes.  It only
looks at which locations hold directories and links; a file system that keeps those, and may hold
more, leads every path to the same location.
-/

import RecordRegistry.Proofs.Results
import RecordRegistry.Proofs.File.Tree

namespace RecordRegistry

namespace FileSystem

variable {files before after : FileSystem} {here there middle : Location}
  {pieces first second : List Bytes} {links more : Nat} {path : FilePath}

/-- Pieces lead from one location to another through the given number of links. -/
inductive Leads (files : FileSystem) : Location → List Bytes → Nat → Location → Prop
  | arrived (here : Location) : Leads files here [] 0 here
  | silent {here there : Location} {piece : Bytes} {rest : List Bytes} {links : Nat}
      (inside : files.HoldsDirectory here) (unspoken : FilePath.isSilent piece = true)
      (onward : Leads files here rest links there) : Leads files here (piece :: rest) links there
  | parent {here there : Location} {rest : List Bytes} {links : Nat}
      (inside : files.HoldsDirectory here)
      (onward : Leads files here.tail rest links there) :
      Leads files here (FilePath.parentPiece :: rest) links there
  | name {here there : Location} {piece : Bytes} {rest : List Bytes} {links : Nat}
      (inside : files.HoldsDirectory here) (spoken : FilePath.isSilent piece = false)
      (notParent : piece ≠ FilePath.parentPiece) (short : piece.length ≤ nameLimit)
      (notLink : ∀ target, files.node? (piece :: here) ≠ some (.link target))
      (onward : Leads files (piece :: here) rest links there) :
      Leads files here (piece :: rest) links there
  | link {here there : Location} {piece : Bytes} {rest : List Bytes} {target : FilePath}
      {links : Nat} (inside : files.HoldsDirectory here)
      (spoken : FilePath.isSilent piece = false) (notParent : piece ≠ FilePath.parentPiece)
      (short : piece.length ≤ nameLimit)
      (isLink : files.node? (piece :: here) = some (.link target))
      (onward : Leads files (start here target) (target.pieces ++ rest) links there) :
      Leads files here (piece :: rest) (links + 1) there

@[simp] theorem isSilent_parentPiece : FilePath.isSilent FilePath.parentPiece = false := by
  decide

/-- The search only depends on how far it comes before the first link. -/
private theorem follow_congr {elsewhere : Location} {others : List Bytes} {throughLast : Bool}
    (same : files.advance throughLast here pieces = files.advance throughLast elsewhere others)
    (limit : Nat) :
    files.follow throughLast limit here pieces =
      files.follow throughLast limit elsewhere others := by
  unfold follow
  rw [same]

/-- A link ends the walk from a directory; anything else, or nothing, is walked on from. -/
private theorem advance_cons (inside : files.HoldsDirectory here) {piece : Bytes}
    {rest : List Bytes} {throughLast : Bool} (through : rest ≠ [] ∨ throughLast = true)
    (unspoken : ¬ FilePath.isSilent piece) (isParent : piece ≠ FilePath.parentPiece)
    (long : ¬ nameLimit < piece.length) :
    files.advance throughLast here (piece :: rest) =
      match files.node? (piece :: here) with
      | some (.link target) => .ok (.link here target rest)
      | _ => files.advance throughLast (piece :: here) rest := by
  have followed : (decide (rest = []) && !throughLast) = false := by
    obtain some | all := through
    · simp [some]
    · simp [all]
  obtain ⟨mode, inside⟩ := inside
  rw [advance, inside]
  cases files.node? (piece :: here) with
  | none => simp [unspoken, isParent, long]
  | some node => cases node <;> simp [unspoken, isParent, long, followed]

/-- The search from a directory, piece by piece.  A link is followed if it is not the end, or if the
end is to be followed, too. -/
theorem follow_cons (inside : files.HoldsDirectory here) (piece : Bytes)
    (rest : List Bytes) (limit : Nat) {throughLast : Bool}
    (through : rest ≠ [] ∨ throughLast = true) :
    files.follow throughLast limit here (piece :: rest) =
      if FilePath.isSilent piece then files.follow throughLast limit here rest
      else if piece = FilePath.parentPiece then files.follow throughLast limit here.tail rest
      else if nameLimit < piece.length then .error .nameTooLong
      else
        match files.node? (piece :: here), limit with
        | some (.link _), 0 => .error .tooManyLinks
        | some (.link target), limit + 1 =>
          files.follow throughLast limit (start here target) (target.pieces ++ rest)
        | _, _ => files.follow throughLast limit (piece :: here) rest := by
  obtain ⟨mode, stored⟩ := id inside
  by_cases unspoken : FilePath.isSilent piece
  · rw [if_pos unspoken]
    exact follow_congr (by rw [advance, stored]; simp [unspoken]) limit
  rw [if_neg unspoken]
  by_cases isParent : piece = FilePath.parentPiece
  · rw [if_pos isParent]
    exact follow_congr (by rw [advance, stored]; simp [isParent]) limit
  rw [if_neg isParent]
  by_cases long : nameLimit < piece.length
  · rw [if_pos long]
    unfold follow
    rw [advance, stored]
    simp [unspoken, isParent, long]
  rw [if_neg long]
  have walk := advance_cons inside through unspoken isParent long
  clear stored
  cases stored : files.node? (piece :: here) with
  | none => exact follow_congr (by rw [walk, stored]) limit
  | some node =>
      cases node with
      | file mode content => exact follow_congr (by rw [walk, stored]) limit
      | directory mode => exact follow_congr (by rw [walk, stored]) limit
      | link target =>
          conv_lhs => unfold follow
          rw [walk, stored]
          cases limit <;> rfl

theorem follow_nil (limit : Nat) : files.follow true limit here [] = .ok here := by
  unfold follow
  simp [advance]

/-- Nothing leads on from what is no directory. -/
theorem node?_of_follow_cons {piece : Bytes} {rest : List Bytes} {limit : Nat}
    (found : files.follow true limit here (piece :: rest) = .ok there) :
    files.HoldsDirectory here := by
  unfold follow at found
  rw [advance] at found
  cases stored : files.node? here with
  | none => simp [stored] at found
  | some node =>
      cases node with
      | directory mode => exact ⟨mode, stored⟩
      | file mode content => simp [stored] at found
      | link target => simp [stored] at found

/-- A path that leads through few enough links is found. -/
theorem Leads.follow (leads : files.Leads here pieces links there) :
    ∀ limit, links ≤ limit → files.follow true limit here pieces = .ok there := by
  induction leads with
  | arrived => exact fun limit _ => follow_nil limit
  | silent inside unspoken _ ih =>
      intro limit enough
      rw [follow_cons inside _ _ _ (.inr rfl), if_pos unspoken]
      exact ih limit enough
  | parent inside _ ih =>
      intro limit enough
      rw [follow_cons inside _ _ _ (.inr rfl), if_neg (by simp), if_pos rfl]
      exact ih limit enough
  | @name here there piece rest links inside spoken notParent short notLink _ ih =>
      intro limit enough
      rw [follow_cons inside _ _ _ (.inr rfl), if_neg (by simp [spoken]), if_neg notParent,
        if_neg (Nat.not_lt.mpr short)]
      have found := ih limit enough
      cases stored : files.node? (piece :: here) with
      | none => simpa using found
      | some node =>
          cases node with
          | link target => exact absurd stored (notLink target)
          | file mode content => simpa using found
          | directory mode => simpa using found
  | link inside spoken notParent short isLink _ ih =>
      intro limit enough
      obtain ⟨limit, rfl⟩ := Nat.exists_eq_add_of_le' (Nat.lt_of_lt_of_le (Nat.succ_pos _) enough)
      rw [follow_cons inside _ _ _ (.inr rfl), if_neg (by simp [spoken]), if_neg notParent,
        if_neg (Nat.not_lt.mpr short), isLink]
      exact ih limit (Nat.le_of_succ_le_succ enough)

/-- A search that does not follow the end does so only behind the directories on the way. -/
theorem Leads.follow_append (leads : files.Leads here pieces links there) {rest : List Bytes}
    (some : rest ≠ []) (limit : Nat) :
    files.follow false (links + limit) here (pieces ++ rest) =
      files.follow false limit there rest := by
  induction leads with
  | arrived => simp
  | silent inside unspoken _ ih =>
      rw [List.cons_append, follow_cons inside _ _ _ (.inl (by simp [some])), if_pos unspoken, ih]
  | parent inside _ ih =>
      rw [List.cons_append, follow_cons inside _ _ _ (.inl (by simp [some])), if_neg (by simp),
        if_pos rfl, ih]
  | @name here there piece pieces links inside spoken notParent short notLink _ ih =>
      rw [List.cons_append, follow_cons inside _ _ _ (.inl (by simp [some])),
        if_neg (by simp [spoken]), if_neg notParent, if_neg (Nat.not_lt.mpr short), ← ih]
      cases stored : files.node? (piece :: here) with
      | none => rfl
      | some node =>
          cases node with
          | link target => exact absurd stored (notLink target)
          | file mode content => rfl
          | directory mode => rfl
  | link inside spoken notParent short isLink _ ih =>
      rw [List.cons_append, follow_cons inside _ _ _ (.inl (by simp [some])),
        if_neg (by simp [spoken]), if_neg notParent, if_neg (Nat.not_lt.mpr short), isLink,
        Nat.add_right_comm, ← ih, List.append_assoc]

/-- How a search that arrives goes on from its first piece. -/
inductive Turn (files : FileSystem) (limit : Nat) (here : Location) (piece : Bytes)
    (rest : List Bytes) (there : Location) : Prop
  | silent (unspoken : FilePath.isSilent piece = true)
      (onward : files.follow true limit here rest = .ok there)
  | parent (isParent : piece = FilePath.parentPiece)
      (onward : files.follow true limit here.tail rest = .ok there)
  | name (spoken : FilePath.isSilent piece = false) (notParent : piece ≠ FilePath.parentPiece)
      (short : piece.length ≤ nameLimit)
      (notLink : ∀ target, files.node? (piece :: here) ≠ some (.link target))
      (onward : files.follow true limit (piece :: here) rest = .ok there)
  | link {target : FilePath} {smaller : Nat} (spoken : FilePath.isSilent piece = false)
      (notParent : piece ≠ FilePath.parentPiece) (short : piece.length ≤ nameLimit)
      (isLink : files.node? (piece :: here) = some (.link target)) (fewer : limit = smaller + 1)
      (onward : files.follow true smaller (start here target) (target.pieces ++ rest) = .ok there)

theorem turn_of_follow {piece : Bytes} {rest : List Bytes} {limit : Nat}
    (found : files.follow true limit here (piece :: rest) = .ok there) :
    Turn files limit here piece rest there := by
  rw [follow_cons (node?_of_follow_cons found) _ _ _ (.inr rfl)] at found
  split at found
  · next unspoken => exact .silent unspoken found
  · next spoken =>
      have spoken : FilePath.isSilent piece = false := by simpa using spoken
      split at found
      · next isParent => exact .parent isParent found
      · next notParent =>
          split at found
          · cases found
          · next short =>
              have short := Nat.not_lt.mp short
              split at found
              · cases found
              · next isLink => exact .link spoken notParent short isLink rfl found
              · next left _ _ atLast earlier =>
                  refine .name spoken notParent short (fun target isLink => ?_) found
                  cases left with
                  | zero => exact atLast target isLink rfl
                  | succ smaller => exact earlier target smaller isLink rfl

/-- One round of the search, between two links: the pieces are walked through until they end or
the next link leads on with a smaller limit. -/
private theorem exists_leads_of_follow_round (bound : Nat)
    (onward : ∀ smaller, bound = smaller + 1 → ∀ pieces here there,
      files.follow true smaller here pieces = .ok there →
        ∃ links ≤ smaller, files.Leads here pieces links there)
    (pieces : List Bytes) : ∀ here there, files.follow true bound here pieces = .ok there →
      ∃ links ≤ bound, files.Leads here pieces links there := by
  induction pieces with
  | nil =>
      intro here there found
      rw [follow_nil, Except.ok.injEq] at found
      subst found
      exact ⟨0, Nat.zero_le _, .arrived here⟩
  | cons piece rest ih =>
      intro here there found
      have inside := node?_of_follow_cons found
      cases turn_of_follow found with
      | silent unspoken walk =>
          obtain ⟨links, few, leads⟩ := ih _ _ walk
          exact ⟨links, few, .silent inside unspoken leads⟩
      | parent isParent walk =>
          subst isParent
          obtain ⟨links, few, leads⟩ := ih _ _ walk
          exact ⟨links, few, .parent inside leads⟩
      | name spoken notParent short notLink walk =>
          obtain ⟨links, few, leads⟩ := ih _ _ walk
          exact ⟨links, few, .name inside spoken notParent short notLink leads⟩
      | @link target smaller spoken notParent short isLink fewer walk =>
          subst fewer
          obtain ⟨links, few, leads⟩ := onward smaller rfl _ _ _ walk
          exact ⟨links + 1, Nat.succ_le_succ few,
            .link inside spoken notParent short isLink leads⟩

/-- Whatever the search finds is led to through few enough links. -/
theorem exists_leads_of_follow {limit : Nat}
    (found : files.follow true limit here pieces = .ok there) :
    ∃ links ≤ limit, files.Leads here pieces links there := by
  induction limit generalizing here there pieces with
  | zero =>
      exact exists_leads_of_follow_round 0 (fun smaller impossible => by simp at impossible)
        pieces here there found
  | succ limit ih =>
      refine exists_leads_of_follow_round (limit + 1) ?_ pieces here there found
      intro smaller same pieces here there found
      obtain rfl := Nat.succ.inj same
      exact ih found

theorem follow_eq_ok_iff {limit : Nat} :
    files.follow true limit here pieces = .ok there ↔
      ∃ links ≤ limit, files.Leads here pieces links there :=
  ⟨exists_leads_of_follow, fun ⟨_, few, leads⟩ => leads.follow _ few⟩

theorem Leads.append (leads : files.Leads here first links middle)
    (onward : files.Leads middle second more there) :
    files.Leads here (first ++ second) (links + more) there := by
  induction leads with
  | arrived => simpa using onward
  | silent inside unspoken _ ih => exact .silent inside unspoken (ih onward)
  | parent inside _ ih => exact .parent inside (ih onward)
  | name inside spoken notParent short notLink _ ih =>
      exact .name inside spoken notParent short notLink (ih onward)
  | @link here there piece rest target links inside spoken notParent short isLink _ ih =>
      have joined := ih onward
      rw [List.append_assoc] at joined
      rw [Nat.add_right_comm]
      exact .link inside spoken notParent short isLink joined

theorem Leads.split (leads : files.Leads here pieces links there) :
    ∀ first second, pieces = first ++ second →
      ∃ early late middle, files.Leads here first early middle ∧
        files.Leads middle second late there ∧ links = early + late := by
  induction leads with
  | arrived here =>
      intro first second cut
      obtain ⟨rfl, rfl⟩ := List.append_eq_nil_iff.mp cut.symm
      exact ⟨0, 0, here, .arrived here, .arrived here, rfl⟩
  | @silent here there piece rest links inside unspoken onward ih =>
      intro first second cut
      obtain ⟨rfl, rfl⟩ | ⟨first, rfl, rfl⟩ := List.cons_eq_append_iff.mp cut
      · exact ⟨0, links, here, .arrived here, .silent inside unspoken onward, by simp⟩
      · obtain ⟨early, late, middle, toMiddle, fromMiddle, count⟩ := ih first second rfl
        exact ⟨early, late, middle, .silent inside unspoken toMiddle, fromMiddle, count⟩
  | @parent here there rest links inside onward ih =>
      intro first second cut
      obtain ⟨rfl, rfl⟩ | ⟨first, rfl, rfl⟩ := List.cons_eq_append_iff.mp cut
      · exact ⟨0, links, here, .arrived here, .parent inside onward, by simp⟩
      · obtain ⟨early, late, middle, toMiddle, fromMiddle, count⟩ := ih first second rfl
        exact ⟨early, late, middle, .parent inside toMiddle, fromMiddle, count⟩
  | @name here there piece rest links inside spoken notParent short notLink onward ih =>
      intro first second cut
      obtain ⟨rfl, rfl⟩ | ⟨first, rfl, rfl⟩ := List.cons_eq_append_iff.mp cut
      · exact ⟨0, links, here, .arrived here,
          .name inside spoken notParent short notLink onward, by simp⟩
      · obtain ⟨early, late, middle, toMiddle, fromMiddle, count⟩ := ih first second rfl
        exact ⟨early, late, middle, .name inside spoken notParent short notLink toMiddle,
          fromMiddle, count⟩
  | @link here there piece rest target links inside spoken notParent short isLink onward ih =>
      intro first second cut
      obtain ⟨rfl, rfl⟩ | ⟨first, rfl, rfl⟩ := List.cons_eq_append_iff.mp cut
      · exact ⟨0, links + 1, here, .arrived here,
          .link inside spoken notParent short isLink onward, by simp⟩
      · obtain ⟨early, late, middle, toMiddle, fromMiddle, count⟩ :=
          ih (target.pieces ++ first) second (by simp)
        exact ⟨early + 1, late, middle, .link inside spoken notParent short isLink toMiddle,
          fromMiddle, by omega⟩

/-- A path leads to one location only, through a fixed number of links. -/
theorem Leads.unique {elsewhere : Location} (leads : files.Leads here pieces links there)
    (again : files.Leads here pieces more elsewhere) : there = elsewhere := by
  have found := leads.follow (links + more) (by omega)
  rw [again.follow (links + more) (by omega)] at found
  exact (Except.ok.inj found).symm

/-- A file system in which every directory and every link of another one is still there, and no
link has come. -/
structure Extends (before after : FileSystem) : Prop where
  directory : ∀ location mode, before.node? location = some (.directory mode) →
    after.node? location = some (.directory mode)
  link : ∀ location target, before.node? location = some (.link target) ↔
    after.node? location = some (.link target)

namespace Extends

theorem refl (files : FileSystem) : files.Extends files := ⟨fun _ _ => id, fun _ _ => .rfl⟩

theorem trans {last : FileSystem} (first : before.Extends after) (second : after.Extends last) :
    before.Extends last where
  directory location mode stored :=
    second.directory location mode (first.directory location mode stored)
  link location target := (first.link location target).trans (second.link location target)

theorem holdsDirectory (grown : before.Extends after) (inside : before.HoldsDirectory here) :
    after.HoldsDirectory here :=
  inside.imp (grown.directory here)

theorem leads (grown : before.Extends after) (leads : before.Leads here pieces links there) :
    after.Leads here pieces links there := by
  induction leads with
  | arrived here => exact .arrived here
  | silent inside unspoken _ ih => exact .silent (grown.holdsDirectory inside) unspoken ih
  | parent inside _ ih => exact .parent (grown.holdsDirectory inside) ih
  | name inside spoken notParent short notLink _ ih =>
      refine .name (grown.holdsDirectory inside) spoken notParent short ?_ ih
      exact fun target isLink => notLink target ((grown.link _ target).mpr isLink)
  | link inside spoken notParent short isLink _ ih =>
      exact .link (grown.holdsDirectory inside) spoken notParent short
        ((grown.link _ _).mp isLink) ih

theorem follow (grown : before.Extends after) {limit : Nat}
    (found : before.follow true limit here pieces = .ok there) :
    after.follow true limit here pieces = .ok there := by
  obtain ⟨links, few, leads⟩ := exists_leads_of_follow found
  exact (grown.leads leads).follow limit few

end Extends

theorem locate_eq_ok_iff :
    files.locate here path true = .ok there ↔
      acceptPath path = .ok () ∧
        ∃ links ≤ linkLimit, files.Leads (start here path) path.pieces links there := by
  rw [← follow_eq_ok_iff, locate]
  cases acceptPath path <;> simp

theorem find_eq_ok_iff {node : FileNode} :
    files.find here path = .ok (there, node) ↔
      files.locate here path true = .ok there ∧ files.node? there = some node := by
  rw [find]
  cases files.locate here path true with
  | error fault => simp
  | ok location =>
      simp only [ok_bind, Except.ok.injEq]
      cases stored : files.node? location with
      | none =>
          simp only [throw_eq_error, reduceCtorEq, false_iff]
          rintro ⟨rfl, present⟩
          simp [stored] at present
      | some found =>
          simp only [pure_eq_ok, Except.ok.injEq, Prod.mk.injEq]
          constructor
          · rintro ⟨rfl, rfl⟩
            exact ⟨rfl, stored⟩
          · rintro ⟨rfl, present⟩
            exact ⟨rfl, by simpa [stored] using present⟩

/-- Whatever leads to something starts from something. -/
theorem Leads.present (leads : files.Leads here pieces links there)
    (arrives : files.node? there ≠ none) : files.node? here ≠ none := by
  cases leads with
  | arrived => exact arrives
  | silent inside => exact inside.present
  | parent inside => exact inside.present
  | name inside => exact inside.present
  | link inside => exact inside.present

theorem HoldsDirectory.keep (inside : before.HoldsDirectory here)
    (kept : ∀ location node, before.node? location = some node →
      after.node? location = some node) : after.HoldsDirectory here :=
  inside.imp fun mode => kept here (.directory mode)

/-- Where all that was there is still there, whatever has led to something leads to it.  Other paths
may lead elsewhere, since links may have come. -/
theorem Leads.keep
    (kept : ∀ location node, before.node? location = some node → after.node? location = some node)
    (leads : before.Leads here pieces links there) (arrives : before.node? there ≠ none) :
    after.Leads here pieces links there := by
  induction leads with
  | arrived here => exact .arrived here
  | silent inside unspoken _ ih => exact .silent (inside.keep kept) unspoken (ih arrives)
  | parent inside _ ih => exact .parent (inside.keep kept) (ih arrives)
  | @name here there piece rest links inside spoken notParent short notLink onward ih =>
      refine .name (inside.keep kept) spoken notParent short ?_ (ih arrives)
      intro target isLink
      obtain ⟨node, stored⟩ := Option.ne_none_iff_exists'.mp (onward.present arrives)
      obtain rfl := Option.some.inj (isLink.symm.trans (kept _ _ stored))
      exact notLink target stored
  | link inside spoken notParent short isLink _ ih =>
      exact .link (inside.keep kept) spoken notParent short (kept _ _ isLink) (ih arrives)

theorem find_of_kept
    (kept : ∀ location node, before.node? location = some node → after.node? location = some node)
    {entry : Location × FileNode} (found : before.find here path = .ok entry) :
    after.find here path = .ok entry := by
  obtain ⟨there, node⟩ := entry
  obtain ⟨leads, stored⟩ := find_eq_ok_iff.mp found
  obtain ⟨accepted, links, few, leads⟩ := locate_eq_ok_iff.mp leads
  refine find_eq_ok_iff.mpr ⟨locate_eq_ok_iff.mpr ⟨accepted, links, few, ?_⟩, kept _ _ stored⟩
  exact leads.keep kept (by simp [stored])

theorem Extends.locate (grown : before.Extends after)
    (found : before.locate here path true = .ok there) :
    after.locate here path true = .ok there := by
  rw [locate_eq_ok_iff] at found ⊢
  obtain ⟨accepted, links, few, leads⟩ := found
  exact ⟨accepted, links, few, grown.leads leads⟩

end FileSystem

end RecordRegistry
