import QualityGate.Port.Basic
import QualityGate.Scope.Decision
import QualityGate.Scope.Selection

/-!
# Gathering evidence

A probe asks the ports for the evidence that decisions are made from, and decides nothing.  A port
that fails leaves a gap in the evidence: changes that are not known, or a marker that is not there.
-/

namespace QualityGate

/-- Where evidence comes from. -/
structure ScopeProbe (σ : Type) where
  diff : DiffProvider σ
  workspace : Workspace σ
  baseline : BaselineStore σ

namespace ScopeProbe

variable {σ : Type}

/-- The changed paths, if they are known. -/
def changedPaths (probe : ScopeProbe σ) : StateM σ (Option (List String)) := do
  return (← probe.diff.changedPaths.run).toOption

/-- The paths that are files. -/
def existing (workspace : Workspace σ) (paths : List String) : StateM σ (List String) :=
  paths.filterM workspace.fileExists

/-- The changed paths that still are files, if the changes are known. -/
def changedFiles (probe : ScopeProbe σ) : StateM σ (Option (List String)) := do
  match ← probe.changedPaths with
  | some paths => return some (← existing probe.workspace paths)
  | none => return none

/-- The instant that the stored marker denotes, if it denotes one. -/
def marker (probe : ScopeProbe σ) : StateM σ (Option Time.Instant) := do
  match ← probe.baseline.load.run with
  | .ok (some text) => return Time.ofMarker? (Text.trimmed text)
  | _ => return none

/-- The evidence about a suite when the changes are these. -/
def gatherWith (probe : ScopeProbe σ) (suite : SecondarySuite)
    (changed : Option (List String)) : StateM σ ScopeEvidence := do
  let marker ← probe.marker
  let newer ← match marker with
    | some since => probe.workspace.anyModifiedAfter suite.trackedPrefixes since
    | none => pure none
  return {
    suiteDirExists := ← probe.workspace.dirExists suite.dir
    changedPaths := changed
    lastVerifiedAt := marker.map Time.offsetText
    anyNewer := newer }

/-- The evidence about a suite. -/
def gather (probe : ScopeProbe σ) (suite : SecondarySuite) : StateM σ ScopeEvidence := do
  probe.gatherWith suite (← probe.changedPaths)

end ScopeProbe

end QualityGate
