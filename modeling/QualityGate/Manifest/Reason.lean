import QualityGate.Digest.Algorithm
import QualityGate.Json.Decode

/-!
# Reasons for distrust

Why a unit can no longer be trusted, as far as its manifest or its context artifact shows.
-/

namespace QualityGate

/-- Why a unit, or the artifact that describes it, can no longer be trusted. -/
inductive DriftReason where
  /-- There is no manifest. -/
  | missing
  /-- The manifest makes no sense. -/
  | malformed (detail : String)
  | algorithmMismatch (stored expected : Algorithm)
  | unreadable (path error : String)
  | filesAdded (paths : List String)
  | filesRemoved (paths : List String)
  | contentChanged (paths : List String)
  /-- The artifact has a section more than once. -/
  | duplicateSection (title : String) (count : Nat)
  /-- The artifact has more than one stamp. -/
  | duplicateStamp (count : Nat)
  /-- The artifact has the stamp of other contents. -/
  | staleArtifact (recorded live : String)
  deriving DecidableEq, Repr

/-- What a comparison of a manifest with the files says. -/
inductive DriftStatus where
  | ok
  | drift (reasons : List DriftReason)
  deriving DecidableEq, Repr

namespace DriftReason

/-- A list of paths in a sentence. -/
def listed (paths : List String) : String := ", ".intercalate paths

/-- The reason as text. -/
def text : DriftReason → String
  | missing => "no manifest"
  | malformed detail => s!"malformed manifest: {detail}"
  | algorithmMismatch stored expected =>
    s!"algorithm mismatch: stored {stored.name}, expected {expected.name}"
  | unreadable path error => s!"cannot read {path}: {error}"
  | filesAdded paths => "files added: " ++ listed paths
  | filesRemoved paths => "files removed: " ++ listed paths
  | contentChanged paths => "content changed: " ++ listed paths
  | duplicateSection title count => s!"section '{title}' appears {count} times"
  | duplicateStamp count => s!"{count} manifest stamps in artifact"
  | staleArtifact recorded live => s!"artifact stamped {recorded}, live digest is {live}"

/-- A record of this kind. -/
def record (kind : String) (members : List (String × Json)) : Json :=
  .obj (("kind", .str kind) :: members)

/-- The reason as a record. -/
def toJson : DriftReason → Json
  | missing => record "missing" []
  | malformed detail => record "malformed" [("detail", .str detail)]
  | algorithmMismatch stored expected =>
    record "algorithm_mismatch" [("stored", .str stored.name), ("expected", .str expected.name)]
  | unreadable path error => record "unreadable" [("path", .str path), ("error", .str error)]
  | filesAdded paths => record "files_added" [("paths", .strs paths)]
  | filesRemoved paths => record "files_removed" [("paths", .strs paths)]
  | contentChanged paths => record "content_changed" [("paths", .strs paths)]
  | duplicateSection title count =>
    record "duplicate_section" [("section", .str title), ("count", .nat count)]
  | duplicateStamp count => record "duplicate_manifest" [("count", .nat count)]
  | staleArtifact recorded live =>
    record "stale_artifact" [("recorded", .str recorded), ("live", .str live)]

/-- Read the only field of a record. -/
def one? (name : String) (read : Json → Option α) (json : Json) : Option α := do
  match ← Json.fields? .json [name] json with
  | [a] => Json.required read a
  | _ => none

/-- Read the two fields of a record. -/
def two? (first second : String) (read : Json → Option α) (json : Json) : Option (α × α) := do
  match ← Json.fields? .json [first, second] json with
  | [a, b] => some (← Json.required read a, ← Json.required read b)
  | _ => none

/-- Read a section with its count. -/
def section? (json : Json) : Option DriftReason := do
  match ← Json.fields? .json ["section", "count"] json with
  | [title, count] =>
    some (.duplicateSection (← Json.required Json.string? title) (← Json.required Json.nat? count))
  | _ => none

/-- Read a reason. -/
def ofJson? (json : Json) : Option DriftReason := do
  let (kind, fields) ← Json.tagged? "kind" json
  let paths := one? "paths" (Json.list? Json.string?) fields
  match kind with
  | "missing" => (Json.noFields? fields).map fun _ => missing
  | "malformed" => (one? "detail" Json.string? fields).map malformed
  | "algorithm_mismatch" =>
    (two? "stored" "expected" (Json.choice? .json Algorithm.names) fields).map fun (a, b) =>
      algorithmMismatch a b
  | "unreadable" =>
    (two? "path" "error" Json.string? fields).map fun (a, b) => unreadable a b
  | "files_added" => paths.map filesAdded
  | "files_removed" => paths.map filesRemoved
  | "content_changed" => paths.map contentChanged
  | "duplicate_section" => section? fields
  | "duplicate_manifest" => (one? "count" Json.nat? fields).map duplicateStamp
  | "stale_artifact" =>
    (two? "recorded" "live" Json.string? fields).map fun (a, b) => staleArtifact a b
  | _ => none

end DriftReason

namespace DriftStatus

/-- Whether the manifest still holds. -/
def isOk : DriftStatus → Bool
  | ok => true
  | drift _ => false

/-- Why the manifest does not hold. -/
def reasons : DriftStatus → List DriftReason
  | ok => []
  | drift reasons => reasons

end DriftStatus

end QualityGate
