/-
# Documents that configure settings

A document gives some of the settings if it is the table `registry` with one line for each of them.
Written in this way, every setting is read back, whatever its text is, and those that are not given
have their defaults.  Other names in the table, and other tables, make no difference.
-/

import RecordRegistry.Proofs.Settings.Configuring
import RecordRegistry.Proofs.Toml.Keeping

namespace RecordRegistry

open Toml (Node Members Key Draft Header)
open Toml.Reader

namespace Configuration

/-- The line that gives a setting. -/
def line (name value : String) : String :=
  name ++ " = " ++ String.ofList (Toml.Written.value value.toList) ++ "\n"

/-- The settings that are given, in their order. -/
def entries (given : String → Option String) : List (String × String) :=
  names.filterMap fun name => (given name).map (name, ·)

/-- The document with the lines of the settings that are given. -/
def document (given : String → Option String) : String :=
  "[registry]\n" ++ String.join ((entries given).map fun entry => line entry.1 entry.2)

/-- The settings that are given, and the defaults for the others. -/
def filled (given : String → Option String) : Settings where
  source := (given "source_dir").getD Settings.default.source
  output := (given "output_file").getD Settings.default.output
  naming := ⟨(given "namespace").getD Settings.default.naming.package,
    (given "collection").getD Settings.default.naming.collection⟩

variable {given : String → Option String} {draft : Draft} {name value text : String}
  {members : Members}

theorem text?_eq_some_iff {node : Node} :
    text? node = some value ↔ ∃ span, node = .scalar span (.text value) := by
  unfold text?
  split <;> simp_all

theorem text_eq_document (settings : Settings) :
    settings.text = document fun name => some (settings.named name) := by
  have all : entries (fun name => some (settings.named name)) = [("source_dir", settings.source),
      ("output_file", settings.output), ("namespace", settings.naming.package),
      ("collection", settings.naming.collection)] :=
    rfl
  rw [document, all]
  simp only [List.map_cons, List.map_nil, String.join, List.foldl_cons, List.foldl_nil,
    String.empty_append, ← String.append_assoc]
  rfl

/-- What has been read of a document when some of its lines have been read. -/
structure Configuring (draft : Draft) (held : List (String × String)) : Prop where
  complete : draft.complete = []
  opened : ∃ header, draft.header = some header ∧ Opens "registry" header
  members : draft.members.map (fun member => (member.1.text, text? member.2)) =
    held.map fun entry => (entry.1, some entry.2)

theorem configuring_openTable {header : Header} (opens : Opens "registry" header) :
    ∃ next, Draft.empty.openTable header = .ok next ∧ Configuring next [] := by
  obtain ⟨noPath, named, single⟩ := opens
  obtain ⟨path, key, isShared, span⟩ := header
  subst noPath single
  exact ⟨_, rfl, rfl, ⟨_, rfl, rfl, named, rfl⟩, rfl⟩

theorem Configuring.assign {held : List (String × String)} (configuring : Configuring draft held)
    (new : name ∉ held.map Prod.fst) {assignment : Toml.Assignment}
    (gives : Gives name value assignment) :
    ∃ next, draft.assign assignment = .ok next ∧ Configuring next (held ++ [(name, value)]) := by
  obtain ⟨noPath, named, span, isText⟩ := gives
  obtain ⟨path, key, node⟩ := assignment
  subst noPath isText
  have absent : draft.members.find? key.text = none := by
    have texts : draft.members.map (·.1.text) = held.map Prod.fst := by
      simpa [Function.comp_def] using congrArg (List.map Prod.fst) configuring.members
    rw [Members.find?, Option.map_eq_none_iff, List.find?_eq_none]
    intro member isIn same
    refine new (texts ▸ List.mem_map.mpr ⟨member, isIn, ?_⟩)
    rw [← named]
    exact of_decide_eq_true same
  have added (occurrence : Toml.Occurrence) :
      (Toml.Edit.assign .dottedKey [] key (.scalar span (.text value)) occurrence .opened).run
        draft.members = .ok ((), draft.members.add key (.scalar span (.text value))) :=
    Toml.Edit.add_eq_ok_iff.mpr ⟨rfl, absent, rfl⟩
  refine ⟨{ draft with
    members := draft.members.add key (.scalar span (.text value))
    span := ⟨draft.span.start, span.stop⟩ }, ?_, configuring.complete, configuring.opened, ?_⟩
  · rw [Draft.assign]
    dsimp only
    rw [added]
    rfl
  · have named : key.text = name := named
    rw [Members.add, List.map_append, List.map_append, configuring.members]
    simp [text?, named]

/-- A step on a line is the first of all steps. -/
theorem iterateUpTo_of_finds {good : Draft → Prop} {before after : List Char}
    (found : Finds (line? draft) before (fun next? => ∃ next, next? = some next ∧ good next) after)
    (offset : Nat) : ∃ next stop, good next ∧ ∀ count,
      iterateUpTo line? (count + 1) draft ⟨before, offset⟩ =
        iterateUpTo line? count next ⟨after, stop⟩ := by
  obtain ⟨_, stop, read, next, rfl, isGood⟩ := found offset
  refine ⟨next, stop, isGood, fun count => ?_⟩
  change (line? draft ⟨before, offset⟩ >>= fun result => _) = _
  rw [read]
  rfl

theorem toList_line : (line name value).toList =
    name.toList ++ ([' ', '=', ' '] ++ (Toml.Written.value value.toList ++ ['\n'])) := by
  simp [line]

/-- The lines of some settings. -/
def lines (entries : List (String × String)) : List Char :=
  entries.flatMap fun entry => (line entry.1 entry.2).toList

theorem dropWhile_lines (bare : IsBareName name.toList) {more : List (String × String)}
    {after : List Char} : (lines ((name, value) :: more) ++ after).dropWhile Toml.isBlankInLine =
      name.toList ++ ([' ', '=', ' '] ++ (Toml.Written.value value.toList ++
        '\n' :: (lines more ++ after))) := by
  have parts : lines ((name, value) :: more) ++ after =
      name.toList ++ ([' ', '=', ' '] ++ (Toml.Written.value value.toList ++
        '\n' :: (lines more ++ after))) := by
    simp [lines, toList_line]
  obtain ⟨filled, members⟩ := bare
  obtain ⟨first, rest, starts⟩ := List.exists_cons_of_ne_nil filled
  have noBlank := not_isBlankInLine_of_isBare (members first (starts ▸ List.mem_cons_self))
  rw [parts, starts, List.cons_append, List.dropWhile_cons_of_neg noBlank]

theorem exists_iterateUpTo {held more : List (String × String)}
    (configuring : Configuring draft held)
    (bare : ∀ entry ∈ more, IsBareName entry.1.toList)
    (different : ((held ++ more).map Prod.fst).Nodup) (after : List Char) (offset : Nat) :
    ∃ next stop, Configuring next (held ++ more) ∧ ∀ count,
      iterateUpTo line? (count + more.length) draft
        ⟨(lines more ++ after).dropWhile Toml.isBlankInLine, offset⟩ =
        iterateUpTo line? count next ⟨after.dropWhile Toml.isBlankInLine, stop⟩ := by
  induction more generalizing draft held offset with
  | nil => exact ⟨draft, offset, by simpa using configuring, fun _ => rfl⟩
  | cons entry more ih =>
      obtain ⟨name, value⟩ := entry
      obtain ⟨isBare, bare⟩ := List.forall_mem_cons.mp bare
      have new : name ∉ held.map Prod.fst := by
        rw [List.map_append, List.nodup_append] at different
        exact fun isHeld => different.2.2 name isHeld name (by simp) rfl
      have read : Finds (line? draft) (name.toList ++ ([' ', '=', ' '] ++
          (Toml.Written.value value.toList ++ '\n' :: (lines more ++ after))))
          (fun next? => ∃ next, next? = some next ∧ Configuring next (held ++ [(name, value)]))
          ((lines more ++ after).dropWhile Toml.isBlankInLine) :=
        finds_assignmentLine isBare
          (by simpa using fun assignment gives => configuring.assign new gives)
      obtain ⟨next, stop, onward, step⟩ := iterateUpTo_of_finds read offset
      obtain ⟨last, final, configured, steps⟩ := ih onward bare (by simpa using different) stop
      refine ⟨last, final, by simpa using configured, fun count => ?_⟩
      rw [dropWhile_lines isBare, List.length_cons, ← Nat.add_assoc, step, steps]

theorem isBareName_of_mem_names (known : name ∈ names) : IsBareName name.toList := by
  have each : names.all fun name => !name.toList.isEmpty && name.toList.all Toml.isBare := by
    decide +kernel
  exact isBareName_of_all (List.all_eq_true.mp each name known)

theorem mem_entries_iff {entry : String × String} :
    entry ∈ entries given ↔ entry.1 ∈ names ∧ given entry.1 = some entry.2 := by
  obtain ⟨name, value⟩ := entry
  simp [entries]

theorem nodup_entries : ((entries given).map Prod.fst).Nodup := by
  rw [entries, List.map_filterMap]
  refine List.Nodup.filterMap ?_ (by decide)
  intro name other shared isIn isInOther
  simp only [Option.map_map, Option.mem_def, Option.map_eq_some_iff,
    Function.comp_apply] at isIn isInOther
  obtain ⟨⟨_, -, rfl⟩, _, -, same⟩ := And.intro isIn isInOther
  exact same.symm

theorem toList_document : (document given).toList =
    '[' :: ("registry".toList ++ ']' :: '\n' :: lines (entries given)) := by
  simp [document, lines, List.flatMap_map]

theorem length_le_lines (more : List (String × String)) : more.length ≤ (lines more).length := by
  induction more with
  | nil => exact le_rfl
  | cons entry more ih =>
      have parts : lines (entry :: more) = (line entry.1 entry.2).toList ++ lines more := rfl
      rw [parts, toList_line]
      simp only [List.length_cons, List.length_append]
      omega

/-- A document is read up to its end, with the settings in the open table. -/
theorem exists_document (given : String → Option String) (more : String) :
    ∃ draft stop count, Configuring draft (entries given) ∧
      Toml.Reader.document (.ofText (document given ++ more)) = (do
        let draft ← iterateUpTo line? count draft
        match draft.finish with
        | .ok members => return members
        | .error cause => failAt (← get).offset (some cause))
        ⟨more.toList.dropWhile Toml.isBlankInLine, stop⟩ := by
  obtain ⟨text, isText⟩ : ∃ text, (document given ++ more).toList = '[' :: text := by
    rw [String.toList_append, toList_document]
    exact ⟨_, rfl⟩
  have parts : '[' :: text = '[' :: ("registry".toList ++ ']' :: '\n' ::
      (lines (entries given) ++ more.toList)) := by
    rw [← isText, String.toList_append, toList_document]
    simp
  have noMark : ¬ ['\ufeff'] <+: '[' :: text := by
    rintro ⟨rest, same⟩
    exact absurd (List.cons.inj same).1 (by decide)
  obtain ⟨_, first, marked, -⟩ := (finds_accept_false noMark).discard 0
  have noBlank : Takes blanks ('[' :: text) ('[' :: text) := takes_blanks
  obtain ⟨_, second, blank, -⟩ := noBlank first
  have header : Finds (line? .empty) ('[' :: text)
      (fun next? => ∃ next, next? = some next ∧ Configuring next [])
      ((lines (entries given) ++ more.toList).dropWhile Toml.isBlankInLine) := by
    rw [parts]
    exact finds_header (isBareName_of_all (by decide +kernel)) fun header opens =>
      configuring_openTable opens
  obtain ⟨next, third, opened, step⟩ := iterateUpTo_of_finds header second
  obtain ⟨draft, stop, configuring, steps⟩ := exists_iterateUpTo opened
    (fun entry isIn => isBareName_of_mem_names (mem_entries_iff.mp isIn).1) nodup_entries
      more.toList third
  refine ⟨draft, stop, ('[' :: text).length - (entries given).length, configuring, ?_⟩
  have enough : (entries given).length ≤ ('[' :: text).length := by
    rw [parts]
    have := length_le_lines (entries given)
    simp only [List.length_cons, List.length_append]
    omega
  have iterated : iterateUpTo line? (('[' :: text).length + 1) .empty ⟨'[' :: text, second⟩ =
      iterateUpTo line? (('[' :: text).length - (entries given).length) draft
        ⟨more.toList.dropWhile Toml.isBlankInLine, stop⟩ := by
    rw [step, ← steps, Nat.sub_add_cancel enough]
  unfold Toml.Reader.document
  rw [Toml.Source.ofText, isText, bind_apply marked, bind_apply blank, get_bind_apply]
  exact bind_apply_congr iterated _

/-- The document that is read has the table of the settings, and nothing else. -/
theorem exists_parse_document (given : String → Option String) :
    ∃ key span content, Toml.parse (document given) = .ok [(key, .table span .opened content)] ∧
      key.text = "registry" ∧ content.map (fun member => (member.1.text, text? member.2)) =
        (entries given).map fun entry => (entry.1, some entry.2) := by
  obtain ⟨draft, stop, count, ⟨complete, ⟨header, isOpen, noPath, named, single⟩, members⟩, read⟩ :=
    exists_document given ""
  have ended : iterateUpTo line? count draft ⟨[], stop⟩ = .ok (draft, ⟨[], stop⟩) := by
    cases count <;> rfl
  have placed : (Draft.place header (.table (some draft.span) .opened draft.members)).run [] =
      .ok ((), [(header.key, .table (some draft.span) .opened draft.members)]) := by
    rw [Draft.place_eq_within, noPath]
    exact Draft.put_of_single single
  have finished : draft.finish =
      .ok [(header.key, .table (some draft.span) .opened draft.members)] := by
    rw [Draft.finish, isOpen, complete]
    dsimp only
    rw [placed]
    rfl
  refine ⟨header.key, some draft.span, draft.members, ?_, named, members⟩
  rw [String.append_empty] at read
  refine Toml.parse_eq_ok_iff.mpr ⟨⟨[], stop⟩, ?_⟩
  rw [read, String.toList_empty, List.dropWhile_nil, bind_apply ended, finished]
  rfl

/-- The table of the settings in a document. -/
def table (members : Members) : Members :=
  match members.find? "registry" with
  | some (.table _ _ content) => content
  | _ => []

/-- A document has a table of settings, in which each setting that is given stands with its text,
and none that is not given. Of anything else nothing is said. -/
structure Tells (given : String → Option String) (members : Members) : Prop where
  isTable : ∃ span kind, members.find? "registry" = some (.table span kind (table members))
  texts : ∀ member ∈ table members, member.1.text ∈ names →
    ∃ value, given member.1.text = some value ∧ text? member.2 = some value
  present : ∀ name ∈ names, (given name).isSome → ∃ member ∈ table members, member.1.text = name

/-- Settings are equal if each of them is. -/
theorem eq_of_named {first second : Settings}
    (each : ∀ name ∈ names, first.named name = second.named name) : first = second := by
  obtain ⟨source, output, package, collection⟩ := first
  obtain ⟨_, _, _, _⟩ := second
  simpa [names, Settings.named] using each

theorem named_filled (known : name ∈ names) :
    (filled given).named name = (given name).getD (Settings.default.named name) := by
  revert name
  simp [names, Settings.named, filled]

theorem given?_of_tells (tells : Tells given members) (known : name ∈ names)
    {span : Option Toml.Span} {kind : Toml.TableKind} :
    given? name (.table span kind (table members)) = given name := by
  have each (member : Key × Node) (isIn : member ∈ table members) :
      says? name (member.1.text, member.2) = if member.1.text = name then given name else none := by
    by_cases named : member.1.text = name
    · obtain ⟨value, isGiven, isText⟩ := tells.texts member isIn (by rwa [named])
      rw [says?, if_pos named, if_pos named, isText, ← named, isGiven]
    · rw [says?, if_neg named, if_neg named]
  change (table members).reverse.findSome? (fun member => says? name (member.1.text, member.2)) = _
  cases isGiven : given name with
  | none =>
      refine List.findSome?_eq_none_iff.mpr fun member isIn => ?_
      rw [each member (List.mem_reverse.mp isIn), isGiven, ite_self]
  | some value =>
      obtain ⟨member, isIn, named⟩ := tells.present name known (by rw [isGiven]; rfl)
      cases found : (table members).reverse.findSome? fun member =>
          says? name (member.1.text, member.2) with
      | none =>
          have silent := List.findSome?_eq_none_iff.mp found member (List.mem_reverse.mpr isIn)
          rw [each member isIn, if_pos named, isGiven] at silent
          contradiction
      | some other =>
          obtain ⟨last, isLast, told⟩ := List.exists_of_findSome?_eq_some found
          rw [each last (List.mem_reverse.mp isLast)] at told
          split at told
          · rw [← told, isGiven]
          · contradiction

/-- A text is taken where a setting is, and everything else is passed over. -/
theorem exists_takeAll (tells : Tells given members) (key : Key) (span : Option Toml.Span)
    (kind : Toml.TableKind) :
    ∃ settings, takeAll key (.table span kind (table members)) = .ok settings := by
  have each (settings : Settings) (member : Key × Node) (isIn : member ∈ table members) :
      ∃ next, takeMember settings member = .ok next := by
    unfold takeMember
    split
    · next known =>
        obtain ⟨value, -, isText⟩ := tells.texts member isIn (List.contains_iff_mem.mp known)
        obtain ⟨span, isText⟩ := text?_eq_some_iff.mp isText
        exact ⟨_, by rw [isText]; rfl⟩
    · exact ⟨settings, rfl⟩
  have all (content : Members)
      (each : ∀ settings, ∀ member ∈ content, ∃ next, takeMember settings member = .ok next)
      (settings : Settings) : ∃ next, content.foldlM takeMember settings = .ok next := by
    induction content generalizing settings with
    | nil => exact ⟨settings, rfl⟩
    | cons member content ih =>
        obtain ⟨next, taken⟩ := each settings member List.mem_cons_self
        have later := fun settings member isIn =>
          each settings member (List.mem_cons_of_mem _ isIn)
        obtain ⟨last, folded⟩ := ih later next
        exact ⟨last, by rw [List.foldlM_cons, taken]; exact folded⟩
  exact all _ each _

/-- The settings are those that the document gives, whatever else is in it. -/
theorem parse_of_tells (parsed : Toml.parse text = .ok members) (tells : Tells given members) :
    Settings.parse text = .ok (filled given) := by
  obtain ⟨span, kind, found⟩ := tells.isTable
  obtain ⟨⟨key, _⟩, isFound, rfl⟩ := Option.map_eq_some_iff.mp found
  obtain ⟨settings, taken⟩ := exists_takeAll tells key span kind
  have same : settings = filled given := by
    refine eq_of_named fun name known => ?_
    rw [named_of_takeAll known taken, given?_of_tells tells known, named_filled known]
  refine bind_eq_ok_iff.mpr ⟨members, mapError_eq_ok_iff.mpr parsed, ?_⟩
  rw [isFound, ← same]
  exact taken

theorem tells_of_document (given : String → Option String) :
    ∃ members, Toml.parse (document given) = .ok members ∧ Tells given members := by
  obtain ⟨key, span, content, parsed, named, texts⟩ := exists_parse_document given
  have found : Members.find? [(key, .table span .opened content)] "registry" =
      some (.table span .opened content) := by
    simp [Members.find?, named]
  have isTable : table [(key, .table span .opened content)] = content := by
    rw [table, found]
  refine ⟨_, parsed, ⟨⟨span, .opened, by rw [isTable, found]⟩, ?_, ?_⟩⟩
  · intro member isIn known
    rw [isTable] at isIn
    have told : (member.1.text, text? member.2) ∈
        (entries given).map fun entry => (entry.1, some entry.2) :=
      texts ▸ List.mem_map.mpr ⟨member, isIn, rfl⟩
    obtain ⟨⟨name, value⟩, isEntry, same⟩ := List.mem_map.mp told
    obtain ⟨named, isText⟩ := Prod.mk.inj same
    exact ⟨value, named ▸ (mem_entries_iff.mp isEntry).2, isText.symm⟩
  · intro name known isGiven
    obtain ⟨value, isGiven⟩ := Option.isSome_iff_exists.mp isGiven
    have told : (name, some value) ∈ content.map fun member => (member.1.text, text? member.2) :=
      texts ▸ List.mem_map.mpr ⟨(name, value), mem_entries_iff.mpr ⟨known, isGiven⟩, rfl⟩
    obtain ⟨member, isIn, same⟩ := List.mem_map.mp told
    exact ⟨member, isTable.symm ▸ isIn, (Prod.mk.inj same).1⟩

/-- The settings that are given among all names that may be. -/
def chosen (given : String → Option String) (name : String) : Option String :=
  if name ∈ names then given name else none

theorem chosen_eq_some_iff : chosen given name = some value ↔ (name, value) ∈ entries given := by
  rw [mem_entries_iff, chosen]
  split <;> simp_all

/-- The open table of a document keeps the settings that are given. -/
theorem Configuring.keeps (configuring : Configuring draft (entries given)) :
    draft.Keeps "registry" (chosen given) := by
  obtain ⟨complete, ⟨header, isOpen, opens⟩, members⟩ := configuring
  refine .opened isOpen opens (by rw [complete]; rfl) fun name value isGiven => ?_
  have isEntry := chosen_eq_some_iff.mp isGiven
  have told : (name, some value) ∈
      draft.members.map fun member => (member.1.text, text? member.2) :=
    members ▸ List.mem_map.mpr ⟨(name, value), isEntry, rfl⟩
  obtain ⟨member, isIn, same⟩ := List.mem_map.mp told
  refine ⟨⟨member, isIn, (Prod.mk.inj same).1⟩, fun other isIn named => ?_⟩
  have told : (other.1.text, text? other.2) ∈
      (entries given).map fun entry => (entry.1, some entry.2) :=
    members ▸ List.mem_map.mpr ⟨other, isIn, rfl⟩
  obtain ⟨⟨_, second⟩, isOther, same⟩ := List.mem_map.mp told
  obtain ⟨rfl, isText⟩ := Prod.mk.inj same
  have sameValue : some second = some value :=
    (mem_entries_iff.mp isOther).2.symm.trans (named ▸ (mem_entries_iff.mp isEntry).2)
  exact text?_eq_some_iff.mp (isText.symm.trans sameValue)

/-- Whatever follows a document, its settings stay in the table. -/
theorem givesIn_of_append {more : String}
    (parsed : Toml.parse (document given ++ more) = .ok members) :
    Members.GivesIn members "registry" (chosen given) := by
  obtain ⟨draft, stop, count, configuring, read⟩ := exists_document given more
  have kept : Yields (do
      let draft ← iterateUpTo line? count draft
      match draft.finish with
      | .ok members => return members
      | .error cause => failAt (← get).offset (some cause))
      fun members => Members.GivesIn members "registry" (chosen given) := by
    refine (configuring.keeps.iterateUpTo count).bind fun last keeps => ?_
    split
    · next finished => exact yields_pure (keeps.finish finished)
    · rintro _ _ _ ⟨⟩
  obtain ⟨rest, finished⟩ := Toml.parse_eq_ok_iff.mp parsed
  exact kept _ members rest (read.symm.trans finished)

theorem tells_of_append {more : String} (parsed : Toml.parse (document given ++ more) = .ok members)
    (unknown : ∀ member ∈ table members, member.1.text ∈ names → (given member.1.text).isSome) :
    Tells given members := by
  obtain ⟨span, content, found, gives⟩ := givesIn_of_append parsed
  have isTable : table members = content := by
    rw [table, found]
  have isChosen {name value : String} (known : name ∈ names) (isGiven : given name = some value) :
      chosen given name = some value :=
    chosen_eq_some_iff.mpr (mem_entries_iff.mpr ⟨known, isGiven⟩)
  refine ⟨⟨span, .opened, by rw [isTable, found]⟩, fun member isIn known => ?_,
    fun name known isGiven => ?_⟩
  · obtain ⟨value, isGiven⟩ := Option.isSome_iff_exists.mp (unknown member isIn known)
    obtain ⟨span, isText⟩ := (gives _ _ (isChosen known isGiven)).only member (isTable ▸ isIn) rfl
    exact ⟨value, isGiven, text?_eq_some_iff.mpr ⟨span, isText⟩⟩
  · obtain ⟨value, isGiven⟩ := Option.isSome_iff_exists.mp isGiven
    exact isTable ▸ (gives _ _ (isChosen known isGiven)).present

theorem parse_document (given : String → Option String) :
    Settings.parse (document given) = .ok (filled given) := by
  obtain ⟨members, parsed, tells⟩ := tells_of_document given
  exact parse_of_tells parsed tells

/-- What is written for settings is a document that gives all of them. -/
theorem parse_text (settings : Settings) : Settings.parse settings.text = .ok settings := by
  rw [text_eq_document, parse_document]
  refine congrArg Except.ok (eq_of_named fun name known => ?_)
  rw [named_filled known, Option.getD_some]

/-- What is written for settings is read as these settings. A document that gives only some of them
is read as those, with the defaults for the others; and so is every text in which they are given and
the others are not, whatever else it says, and in particular every text that a document begins. -/
theorem parse_text_and_document :
    (∀ settings : Settings, Settings.parse settings.text = .ok settings) ∧
    ∀ given, Settings.parse (document given) = .ok (filled given) ∧
      (∀ text members, Toml.parse text = .ok members → Tells given members →
        Settings.parse text = .ok (filled given)) ∧
      ∀ more members, Toml.parse (document given ++ more) = .ok members →
        (∀ member ∈ table members, member.1.text ∈ names → (given member.1.text).isSome) →
          Settings.parse (document given ++ more) = .ok (filled given) :=
  ⟨parse_text, fun given => ⟨parse_document given, fun _ _ => parse_of_tells,
    fun _ _ parsed unknown => parse_of_tells parsed (tells_of_append parsed unknown)⟩⟩

/-- One setting, whose text has quotes of both kinds, a backslash and two lines. -/
def givenPackage (name : String) : Option String :=
  if name = "namespace" then some "it's \x22\\\x22\r\n#" else none

/-- A further name in the table of the settings, and other tables. -/
def furtherText : String :=
  "extra = [1, \x7b a.b = 2 \x7d]\n\n[registry.more]\n[[other]] # 1\nnamespace = 'x'\n"

theorem parse_text_and_document_furtherText :
    ∃ members, Toml.parse (document givenPackage ++ furtherText) = .ok members ∧
      Tells givenPackage members ∧
      (table members).map (·.1.text) = ["namespace", "extra", "more"] ∧
      Settings.parse (document givenPackage ++ furtherText) =
        .ok ⟨"src/entity", "src/entity/models.rs", ⟨"it's \x22\\\x22\r\n#", "models"⟩⟩ := by
  have read : (Toml.parse (document givenPackage ++ furtherText)).toOption.map
      (fun members => (table members).map (·.1.text)) = some ["namespace", "extra", "more"] := by
    decide +kernel
  obtain ⟨members, parsed, texts⟩ := Option.map_eq_some_iff.mp read
  rw [toOption_eq_some_iff] at parsed
  have unknown : ∀ member ∈ table members, member.1.text ∈ names →
      (givenPackage member.1.text).isSome := by
    intro member isIn known
    have isText : member.1.text ∈ ["namespace", "extra", "more"] :=
      texts ▸ List.mem_map.mpr ⟨member, isIn, rfl⟩
    have each : ∀ name ∈ ["namespace", "extra", "more"], name ∈ names →
        (givenPackage name).isSome := by
      decide
    exact each _ isText known
  obtain ⟨-, -, appended⟩ := parse_text_and_document.2 givenPackage
  exact ⟨members, parsed, tells_of_append parsed unknown, texts,
    appended furtherText members parsed unknown⟩

end Configuration

end RecordRegistry
