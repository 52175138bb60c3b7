/-
# Reports as JSON

What the commands report is written as objects whose members have names of their own, and each part
of a report can be read back from its object: by the name of the member, wherever the member stands.
Which of the reports an object is is told by the members that only that report has.
-/

import RecordRegistry.Command.Generate
import RecordRegistry.Command.Scan
import RecordRegistry.Proofs.Text.Utf8

namespace RecordRegistry

namespace JsonValue

/-- The value of the member of an object that has the name. -/
def get? (name : String) : JsonValue → Option JsonValue
  | .object members => members.lookup name
  | _ => none

def asBoolean? : JsonValue → Option Bool
  | .boolean value => some value
  | _ => none

def asNumber? : JsonValue → Option Nat
  | .number value => some value
  | _ => none

def asText? : JsonValue → Option String
  | .text value => some value
  | _ => none

/-- A text, or the null that stands for none. -/
def asTextOrNull? : JsonValue → Option (Option String)
  | .text value => some (some value)
  | .null => some none
  | _ => none

/-- An array whose elements are all of one kind. -/
def asListOf? {Part : Type} (part? : JsonValue → Option Part) : JsonValue → Option (List Part)
  | .array elements => elements.mapM part?
  | _ => none

@[simp] theorem asTextOrNull?_ofText? (text? : Option String) :
    asTextOrNull? (ofText? text?) = some text? := by
  cases text? <;> rfl

theorem asListOf?_map {Part : Type} {json : Part → JsonValue} {part? : JsonValue → Option Part}
    (inverse : ∀ part, part? (json part) = some part) (parts : List Part) :
    asListOf? part? (.array (parts.map json)) = some parts := by
  rw [asListOf?]
  induction parts with
  | nil => rfl
  | cons part parts ih => simp [ih, inverse]

@[simp] theorem asListOf?_ofTexts (texts : List String) :
    asListOf? asText? (ofTexts texts) = some texts :=
  @asListOf?_map _ JsonValue.text _ (fun _ => rfl) texts

end JsonValue

open JsonValue

namespace Shape

def ofText? (word : String) : Option Shape :=
  [Shape.record, Shape.alias, Shape.interface, Shape.other].find? fun shape => shape.text = word

@[simp] theorem ofText?_text (shape : Shape) : ofText? shape.text = some shape := by
  cases shape <;> rfl

end Shape

namespace WriteOutcome

def ofText? (word : String) : Option WriteOutcome :=
  [written, unchanged].find? fun outcome => outcome.text = word

@[simp] theorem ofText?_text (outcome : WriteOutcome) : ofText? outcome.text = some outcome := by
  cases outcome <;> rfl

end WriteOutcome

namespace Declaration

/-- The declaration that an object describes. -/
def ofJson? (value : JsonValue) : Option Declaration := do
  let name ← asText? (← value.get? "name")
  let module ← asTextOrNull? (← value.get? "module")
  let shape ← Shape.ofText? (← asText? (← value.get? "shape"))
  let place ← value.get? "position"
  let file ← asText? (← place.get? "file")
  let line ← asNumber? (← place.get? "line")
  let column ← asNumber? (← place.get? "column")
  return ⟨name, module, shape, ⟨file, ⟨line, column⟩⟩⟩

@[simp] theorem ofJson?_json (declaration : Declaration) :
    ofJson? declaration.json = some declaration := by
  simp [ofJson?, json, get?, asText?, asNumber?, List.lookup_cons]

end Declaration

namespace Entry

/-- The entry that an object describes. -/
def ofJson? (value : JsonValue) : Option Entry := do
  let name ← asText? (← value.get? "name")
  let module ← asTextOrNull? (← value.get? "module")
  let selected ← asBoolean? (← value.get? "selected")
  return ⟨name, module, selected⟩

@[simp] theorem ofJson?_json (entry : Entry) : ofJson? entry.json = some entry := by
  simp [ofJson?, json, get?, asText?, asBoolean?, List.lookup_cons]

end Entry

namespace Report

/-- The report that an object describes. -/
def ofJson? (value : JsonValue) : Option Report := do
  let output ← asText? (← value.get? "output_file")
  let files ← asNumber? (← value.get? "files")
  let declarations ← asNumber? (← value.get? "declarations")
  let entries ← asListOf? Entry.ofJson? (← value.get? "entries")
  let outcome ← WriteOutcome.ofText? (← asText? (← value.get? "outcome"))
  return ⟨.ofString output, files, declarations, entries, outcome⟩

end Report

namespace Freshness

/-- The comparison that an object describes. -/
def ofJson? (value : JsonValue) : Option Freshness := do
  let status ← asText? (← value.get? "status")
  if status = upToDate.text then return upToDate
  else if status = missing.text then return missing
  else
    let onDisk ← asListOf? asText? (← value.get? "on_disk")
    let expected ← asListOf? asText? (← value.get? "expected")
    if status = (stale onDisk expected).text then return stale onDisk expected else none

end Freshness

/-- What a command reports. -/
inductive Reported
  /-- The number of files, the declarations in them, and the paths that are duplicates. -/
  | listing (files : Nat) (declarations : List Declaration) (duplicates : List String)
  | run (report : Report)
  | comparison (freshness : Freshness)
  deriving DecidableEq, Repr

namespace Reported

/-- What a listing reports of a plan. -/
def ofPlan (plan : Plan) : Reported :=
  listing plan.files.length plan.declarations plan.duplicates

/-- What is reported, as JSON; none if there is a path in it that is no text. -/
def json? : Reported → Option JsonValue
  | listing files declarations duplicates =>
    some (.object
      [("files", .number files), ("declarations", .array (declarations.map Declaration.json)),
        ("duplicates", .ofTexts duplicates)])
  | run report => (GenerateCommand.display report).json
  | comparison freshness => some (GenerateCommand.freshnessJson freshness)

/-- What an object reports. A comparison has a status, and a run has an outcome. -/
def ofJson? (value : JsonValue) : Option Reported :=
  if (value.get? "status").isSome then comparison <$> Freshness.ofJson? value
  else if (value.get? "outcome").isSome then run <$> Report.ofJson? value
  else do
    let files ← asNumber? (← value.get? "files")
    let declarations ← asListOf? Declaration.ofJson? (← value.get? "declarations")
    let duplicates ← asListOf? asText? (← value.get? "duplicates")
    return listing files declarations duplicates

theorem json?_ofPlan (plan : Plan) : (ofPlan plan).json? = (ScanCommand.display plan).json := rfl

/-- Reading the object for a report yields the report. -/
theorem ofJson?_of_json? {reported : Reported} {value : JsonValue}
    (written : reported.json? = some value) : ofJson? value = some reported := by
  cases reported with
  | listing files declarations duplicates =>
      obtain rfl := Option.some.inj written
      simp [ofJson?, get?, asNumber?, List.lookup_cons,
        asListOf?_map Declaration.ofJson?_json]
  | run report =>
      obtain ⟨output, isText, rfl⟩ := Option.map_eq_some_iff.mp written
      have path : FilePath.ofString output = report.output := by
        rw [FilePath.ofString, Utf8.encode_of_decode? isText]
      simp [ofJson?, Report.ofJson?, get?, asNumber?, asText?, List.lookup_cons, path,
        asListOf?_map Entry.ofJson?_json]
  | comparison freshness =>
      obtain rfl := Option.some.inj written
      cases freshness with
      | upToDate => rfl
      | missing => rfl
      | stale onDisk expected =>
          simp [ofJson?, Freshness.ofJson?, GenerateCommand.freshnessJson, get?, asText?,
            List.lookup_cons, Freshness.text]

end Reported

end RecordRegistry
