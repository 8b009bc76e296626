import QualityGate.Output.Ink
import QualityGate.Unit.Status

/-!
# The outcomes of operations on units

What was generated, how the units stand, and what is stored for one of them.
-/

namespace QualityGate

/-- A manifest that was generated. -/
structure GeneratedManifest where
  unit : String
  unitDigest : String
  /-- The number of files. -/
  files : Nat
  deriving DecidableEq, Repr

/-- The generated manifests for people. -/
def GeneratedManifest.human (generated : List GeneratedManifest) : String :=
  unlines (generated.map fun m => s!"Generated {m.unit} ({m.files} file(s)) {m.unitDigest}")

/-- The generated manifests as a record. -/
def GeneratedManifest.toJson (generated : List GeneratedManifest) : Json :=
  .obj [("generated", .arr (generated.map fun m => .obj [("unit", .str m.unit),
    ("unit_digest", .str m.unitDigest), ("files", .nat m.files)]))]

/-- A unit that was checked. -/
structure UnitCheck where
  unit : String
  status : UnitStatus
  /-- The manifest and the artifact were deleted. -/
  expired : Bool
  deriving DecidableEq, Repr

/-- The outcome of checking units. -/
structure UnitCheckResult where
  passed : Bool
  units : List UnitCheck
  deriving DecidableEq, Repr

namespace UnitCheckResult

/-- The lines about a unit. -/
def unitLines (color : Bool) (check : UnitCheck) : List String :=
  match check.status with
  | .fresh =>
    let word := Ink.green.paint color "FRESH"
    [s!"  {word}  {check.unit}"]
  | .expired reasons =>
    let word := Ink.boldRed.paint color "EXPIRED"
    let note := if check.expired then " (deleted)" else ""
    s!"  {word}  {check.unit}{note}" :: reasons.map fun reason => s!"           {reason.text}"

/-- The outcome for people. -/
def human (color : Bool) (result : UnitCheckResult) : String :=
  if result.units.isEmpty then "No configuration units declared.\n"
  else
    let expired := (result.units.filter fun check => ! check.status.isFresh).length
    unlines (result.units.flatMap (unitLines color)) ++ (if expired = 0 then "" else
      s!"\n{expired} expired unit(s). Regenerate with: qualities manifest generate --all\n")

/-- The outcome as a record. -/
def toJson (result : UnitCheckResult) : Json := .obj [
  ("passed", .bool result.passed),
  ("units", .arr (result.units.map fun check =>
    .obj (("unit", .str check.unit) :: check.status.members
      ++ [("expired", .bool check.expired)])))]

end UnitCheckResult

/-- What is stored for a unit. -/
structure StoredManifest where
  unit : String
  manifest : Option Manifest
  /-- Why what is stored makes no sense. -/
  problem : Option String
  deriving DecidableEq, Repr

namespace StoredManifest

/-- What is stored, for people. -/
def human (stored : StoredManifest) : String :=
  match stored.manifest, stored.problem with
  | none, some problem => s!"{stored.unit}: {problem}\n"
  | none, none => s!"{stored.unit}: no manifest\n"
  | some manifest, _ =>
    unlines ([s!"Unit:      {manifest.unit}", s!"Algorithm: {manifest.algorithm.name}",
      s!"Generated: {Time.offsetText manifest.generatedAt}",
      s!"Digest:    {manifest.unitDigest}", "Files:"]
      ++ manifest.files.map fun entry => s!"  {entry.digest}  {entry.path}")

/-- What is stored, as a record. -/
def toJson (stored : StoredManifest) : Json :=
  .obj ([("unit", .str stored.unit), ("manifest", Json.opt Manifest.toJson stored.manifest)]
    ++ Json.optMember "problem" .str stored.problem)

end StoredManifest

end QualityGate
