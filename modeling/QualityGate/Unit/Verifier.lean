import QualityGate.Port.Basic
import QualityGate.Unit.Basic
import QualityGate.Unit.Status

/-!
# Operations on units

A verifier generates, judges and expires the units of a project.  As a gate it also expires: a unit
that is found not to be fresh loses its manifest and its artifact, and stays expired until it is
generated again.
-/

namespace QualityGate

/-- The units of a project and the ports that they live behind. -/
structure UnitVerifier (σ : Type) where
  units : List ConfigUnit
  workspace : Workspace σ
  /-- The contents of the project as they are at the moment. -/
  contents : StateM σ Reader
  manifests : ManifestStore σ
  artifacts : ArtifactStore σ
  algorithm : Algorithm

/-- An operation on a unit. -/
abbrev UnitM (σ : Type) : Type → Type := ExceptT ManifestError (StateM σ)

/-- An operation of a port as one on a unit; of an error only what failed is kept. -/
def UnitM.ofPort (operation : PortM σ α) : UnitM σ α :=
  ExceptT.adapt (fun error => .store error.message) operation

namespace UnitVerifier

variable {σ : Type}

/-- The unit with this name. -/
def unit (verifier : UnitVerifier σ) (id : String) : Except ManifestError ConfigUnit :=
  match verifier.units.find? (·.id == id) with
  | some unit => .ok unit
  | none => .error (.unknownUnit id)

/-- The files of a unit as they are now. -/
def liveFiles (verifier : UnitVerifier σ) (unit : ConfigUnit) : UnitM σ (List String) :=
  .ofPort (verifier.workspace.listMatching unit.files)

/-- The text of the artifact of a unit, if it has one and it exists. -/
def artifactText (verifier : UnitVerifier σ) (unit : ConfigUnit) : UnitM σ (Option String) :=
  match unit.context with
  | some path => .ofPort (verifier.artifacts.read path)
  | none => return none

/-- Write the artifact of a unit again with a stamp for this digest, if it exists. -/
def restamp (verifier : UnitVerifier σ) (unit : ConfigUnit) (digest : String) : UnitM σ Unit := do
  match unit.context, ← verifier.artifactText unit with
  | some path, some text => .ofPort (verifier.artifacts.write path (Artifact.stamp text digest))
  | _, _ => return

/-- Compute and store the manifest of a unit, and stamp its artifact. -/
def generate (verifier : UnitVerifier σ) (id : String) (now : Time.Instant) :
    UnitM σ Manifest := do
  let unit ← verifier.unit id
  let files ← verifier.liveFiles unit
  let read ← verifier.contents
  let manifest ← Manifest.compute read id files verifier.algorithm now
  UnitM.ofPort (verifier.manifests.save manifest)
  verifier.restamp unit manifest.unitDigest
  return manifest

/-- The status of a unit.  Nothing is changed. -/
def status (verifier : UnitVerifier σ) (id : String) : UnitM σ UnitStatus := do
  let unit ← verifier.unit id
  let files ← verifier.liveFiles unit
  let stored ← UnitM.ofPort (verifier.manifests.load id)
  let artifact ← verifier.artifactText unit
  let evidence : UnitEvidence := ⟨id, stored, files, artifact, unit.sections⟩
  return evidence.status (← verifier.contents) verifier.algorithm

/-- Delete the manifest and the artifact of a unit. -/
def expire (verifier : UnitVerifier σ) (id : String) : UnitM σ Unit := do
  let unit ← verifier.unit id
  UnitM.ofPort (verifier.manifests.expire id)
  match unit.context with
  | some path => UnitM.ofPort (verifier.artifacts.remove path)
  | none => return

/-- Judge a unit, and expire it unless it is fresh.  A unit that cannot be judged counts as
malformed; that it cannot be expired changes nothing about the judgement. -/
def verify (verifier : UnitVerifier σ) (id : String) : StateM σ DriftStatus := do
  let status := match ← (verifier.status id).run with
    | .ok status => status
    | .error error => .expired [.malformed error.message]
  match status with
  | .fresh => return .ok
  | .expired reasons =>
    let _ ← (verifier.expire id).run
    return .drift reasons

/-- The verifier as a gate. -/
def gate (verifier : UnitVerifier σ) : DriftGate σ := ⟨verifier.verify⟩

end UnitVerifier

end QualityGate
