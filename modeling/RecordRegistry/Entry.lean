/-
# Registry entries

Every declaration becomes one entry, and an entry is selected if its declaration is a record.
Entries name types by their path in the package; a path that two entries share is a duplicate.
-/

import RecordRegistry.Declaration

namespace RecordRegistry

/-- A type as a registry sees it. -/
structure Entry where
  name : String
  module : Option String
  selected : Bool
  deriving DecidableEq, Repr

namespace Entry

/-- The path of the type in its package. -/
def relativePath (entry : Entry) : String :=
  match entry.module with
  | some module => module ++ "::" ++ entry.name
  | none => entry.name

end Entry

namespace Declaration

/-- The entry for a declaration. -/
def entry (declaration : Declaration) : Entry :=
  ⟨declaration.name, declaration.module, declaration.shape = .record⟩

end Declaration

/-- One entry for each declaration, in order. -/
def entries (declarations : List Declaration) : List Entry := declarations.map Declaration.entry

/-- The entries of the records, in order. Duplicates are kept. -/
def selectedEntries (declarations : List Declaration) : List Entry :=
  (entries declarations).filter Entry.selected

/-- The paths that occur more than once, each where it occurs for the second time. -/
def duplicates (paths : List String) : List String :=
  go [] paths
where
  go (before : List String) : List String → List String
    | [] => []
    | path :: rest =>
      if before.count path = 1 then path :: go (path :: before) rest
      else go (path :: before) rest

/-- The paths that more than one entry has. -/
def duplicatePaths (entries : List Entry) : List String :=
  duplicates (entries.map Entry.relativePath)

end RecordRegistry
