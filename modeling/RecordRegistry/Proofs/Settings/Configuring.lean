/-
# What a configuration says about each setting

A text that configures settings is a document whose table `registry` says something about some of
them.  Each setting has the text that the document gives to its name, and its default otherwise,
whatever is said about the others.
-/

import RecordRegistry.Project
import RecordRegistry.Proofs.Results

namespace RecordRegistry

/-- The setting of the given name. -/
def Settings.named (settings : Settings) (name : String) : String :=
  if name = "source_dir" then settings.source
  else if name = "output_file" then settings.output
  else if name = "namespace" then settings.naming.package
  else settings.naming.collection

namespace Configuration

open Toml (Node Members Key Span)

variable {settings result : Settings} {name other value text : String}

/-- The text that a node is, if it is one. -/
def text? : Node → Option String
  | .scalar _ (.text value) => some value
  | _ => none

/-- What an entry of a table says about a name. -/
def says? (name : String) (entry : String × Node) : Option String :=
  if entry.1 = name then text? entry.2 else none

/-- What the table of the settings says about one of them: the last word counts. Elements of an
array stand for the settings in their order. -/
def given? (name : String) : Node → Option String
  | .table _ _ members => members.reverse.findSome? fun member => says? name (member.1.text, member.2)
  | .array _ elements | .tables elements => (names.zip elements).reverse.findSome? (says? name)
  | .scalar _ _ => none

/-- What a document says about a setting. -/
def written? (text name : String) : Option String :=
  match Toml.parse text with
  | .ok members => (members.find? "registry").bind (given? name)
  | .error _ => none

theorem named_update (known : other ∈ names) :
    (update settings name value).named other = if name = other then value else settings.named other := by
  have cases : other = "source_dir" ∨ other = "output_file" ∨ other = "namespace" ∨
      other = "collection" := by simpa [names] using known
  unfold update Settings.named
  rcases cases with rfl | rfl | rfl | rfl <;> split_ifs <;> simp_all

/-- Taking a setting gives it the text of the node and leaves the others. -/
theorem named_of_take {place : Span} {node : Node} (known : other ∈ names)
    (taken : take place settings name node = .ok result) :
    result.named other = (says? other (name, node)).getD (settings.named other) := by
  unfold take at taken
  split at taken
  · obtain rfl := Except.ok.inj taken
    by_cases same : name = other <;> simp [named_update known, says?, text?, same]
  · cases taken

theorem named_of_takeMember {member : Key × Node} (known : other ∈ names)
    (taken : takeMember settings member = .ok result) :
    result.named other = (says? other (member.1.text, member.2)).getD (settings.named other) := by
  unfold takeMember at taken
  split at taken
  · exact named_of_take known taken
  · next unknown =>
      obtain rfl := Except.ok.inj taken
      have different : member.1.text ≠ other := by
        rintro rfl
        exact unknown (List.contains_iff_mem.mpr known)
      simp [says?, different]

/-- Where every step gives a setting what its element says, the last element that says something
decides. -/
theorem named_of_foldlM {α : Type} {step : Settings → α → Except ConfigurationError Settings}
    {gives : α → Option String} {list : List α}
    (each : ∀ before element after, step before element = .ok after →
      after.named other = (gives element).getD (before.named other))
    (folded : list.foldlM step settings = .ok result) :
    result.named other = (list.reverse.findSome? gives).getD (settings.named other) := by
  induction list generalizing settings with
  | nil =>
      obtain rfl := Except.ok.inj folded
      rfl
  | cons element list ih =>
      rw [List.foldlM_cons] at folded
      obtain ⟨middle, first, onward⟩ := bind_eq_ok_iff.mp folded
      rw [ih onward, each _ _ _ first, List.reverse_cons, List.findSome?_append]
      cases list.reverse.findSome? gives <;> simp

theorem named_of_takeAll {key : Key} {node : Node} (known : name ∈ names)
    (taken : takeAll key node = .ok result) :
    result.named name = (given? name node).getD (Settings.default.named name) := by
  have ordered {elements : List Node} (folded : (names.zip elements).foldlM
      (fun settings named => take key.span settings named.1 named.2) Settings.default =
        .ok result) :
      result.named name = ((names.zip elements).reverse.findSome? (says? name)).getD
        (Settings.default.named name) :=
    named_of_foldlM (fun _ _ _ taken => named_of_take known taken) folded
  unfold takeAll at taken
  split at taken
  · exact named_of_foldlM (fun _ _ _ taken => named_of_takeMember known taken) taken
  · obtain rfl := Except.ok.inj taken
    rfl
  · exact ordered taken
  · exact ordered taken
  · cases taken

/-- A setting has the text that the document gives it, or its default. -/
theorem named_of_parse (known : name ∈ names) (parsed : Settings.parse text = .ok settings) :
    settings.named name = (written? text name).getD (Settings.default.named name) := by
  obtain ⟨members, read, taken⟩ := bind_eq_ok_iff.mp parsed
  simp only [written?, mapError_eq_ok_iff.mp read, Members.find?]
  split at taken
  · next found => simpa [found] using named_of_takeAll known taken
  · next missing =>
      obtain rfl := Except.ok.inj taken
      simp [missing]

end Configuration

namespace Project

variable {files : FileSystem} {here : Location} {root : FilePath} {project : Project} {name : String}

/-- What the configuration in a project says about a setting, if there is a configuration. -/
def written? (files : FileSystem) (here : Location) (root : FilePath) (name : String) :
    Option String :=
  if files.isPresent here (configurationAt root) then
    match files.readText here (configurationAt root) with
    | .ok text => Configuration.written? text name
    | .error _ => none
  else none

/-- A project has the settings that its configuration gives it, and the defaults otherwise. -/
theorem named_of_load (known : name ∈ Configuration.names)
    (loaded : load files here root = .ok project) :
    project.settings.named name =
      (written? files here root name).getD (Settings.default.named name) := by
  revert loaded
  simp only [load, written?]
  split
  · intro loaded
    obtain ⟨text, read, loaded⟩ := bind_eq_ok_iff.mp loaded
    obtain ⟨settings, parsed, loaded⟩ := bind_eq_ok_iff.mp loaded
    rw [mapError_eq_ok_iff.mp read, ← Except.ok.inj loaded]
    exact Configuration.named_of_parse known (mapError_eq_ok_iff.mp parsed)
  · intro loaded
    rw [← Except.ok.inj loaded]
    rfl

end Project

end RecordRegistry
