import QualityGate.Json.Decode

/-!
# Configuration units

A configuration unit is a named set of files whose manifest guards the stages that depend on it.
It may have a context artifact, a generated document that describes it.
-/

namespace QualityGate

/-- A configuration unit. -/
structure ConfigUnit where
  id : String
  /-- Globs of the files of the unit. -/
  files : List String
  /-- The path of the context artifact. -/
  context : Option String
  /-- Sections that the artifact may have once. -/
  sections : List String
  deriving DecidableEq, Repr

namespace ConfigUnit

/-- The sections of an artifact when a unit names none. -/
def defaultSections : List String := ["Why", "Where", "What", "How"]

/-- A unit without an artifact. -/
def ofFiles (id : String) (files : List String) : ConfigUnit := ⟨id, files, none, defaultSections⟩

/-- The unit as a record. -/
def toJson (unit : ConfigUnit) : Json :=
  .obj ([("id", .str unit.id), ("files", .strs unit.files)]
    ++ Json.optMember "context" .str unit.context ++ [("sections", .strs unit.sections)])

/-- Read a unit. -/
def ofJson? (dialect : Json.Dialect) (json : Json) : Option ConfigUnit := do
  match ← Json.fields? dialect ["id", "files", "context", "sections"] json with
  | [id, files, context, sections] =>
    some {
      id := ← Json.required Json.string? id
      files := ← Json.required (Json.list? Json.string?) files
      context := ← Json.orElse none (Json.nullable? Json.string?) context
      sections := ← Json.orElse defaultSections (Json.list? Json.string?) sections }
  | _ => none

end ConfigUnit

end QualityGate
