import QualityGate.Manifest.Artifact
import QualityGate.Manifest.Drift

/-!
# The status of a unit

A unit is fresh when its stored manifest agrees with its files and its artifact is sound.  The stamp
of the artifact is compared only while the manifest itself holds, because otherwise there is no
digest to compare it with.  A manifest that was stored for another unit makes no sense for this one.
-/

namespace QualityGate

/-- Whether a unit can still be trusted. -/
inductive UnitStatus where
  | fresh
  | expired (reasons : List DriftReason)
  deriving DecidableEq, Repr

/-- What the status of a unit is judged from. -/
structure UnitEvidence where
  unit : String
  /-- The text of the stored manifest. -/
  stored : Option String
  /-- The files of the unit as they are now. -/
  files : List String
  /-- The text of the artifact. -/
  artifact : Option String
  /-- The sections that the artifact may have once. -/
  sections : List String
  deriving DecidableEq, Repr

namespace UnitStatus

/-- Whether the unit is fresh. -/
def isFresh : UnitStatus → Bool
  | fresh => true
  | expired _ => false

/-- The status for some reasons: fresh when there are none. -/
def ofReasons : List DriftReason → UnitStatus
  | [] => fresh
  | reasons => expired reasons

/-- The members of the status as a record. -/
def members : UnitStatus → List (String × Json)
  | fresh => [("status", .str "fresh")]
  | expired reasons =>
    [("status", .str "expired"), ("reasons", .arr (reasons.map DriftReason.toJson))]

end UnitStatus

namespace UnitEvidence

/-- What the manifest says, and its digest if it holds. -/
def drift (evidence : UnitEvidence) (read : Reader) (algorithm : Algorithm) :
    DriftStatus × Option String :=
  match evidence.stored.map Manifest.parse with
  | none => (.drift [.missing], none)
  | some (.error problem) => (.drift [.malformed problem.message], none)
  | some (.ok manifest) =>
    if manifest.unit ≠ evidence.unit then
      (.drift [.malformed s!"manifest belongs to unit {manifest.unit}"], none)
    else match manifest.checkDrift evidence.files read algorithm with
      | .ok => (.ok, some manifest.unitDigest)
      | .drift reasons => (.drift reasons, none)

/-- The status that the evidence supports. -/
def status (evidence : UnitEvidence) (read : Reader) (algorithm : Algorithm) : UnitStatus :=
  let (drift, live) := evidence.drift read algorithm
  let artifact := match evidence.artifact with
    | some text => Artifact.check text evidence.sections live
    | none => []
  .ofReasons (drift.reasons ++ artifact)

end UnitEvidence

end QualityGate
