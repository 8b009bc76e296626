import QualityGate.Output.Ink
import QualityGate.Scope.Decision

/-!
# The scope of the next run

Whether the secondary suite would run, and what the lint stages would look at.  Two smaller outcomes
stand beside it: the marker of the last verification, and a plain message.
-/

namespace QualityGate

/-- What a lint stage would look at; no files mean the whole tree. -/
structure NarrowedStage where
  stage : String
  files : Option (List String)
  deriving DecidableEq, Repr

/-- The scope of the next run. -/
structure ScopeResult where
  /-- The evidence about the secondary suite and the decision, if there is a suite. -/
  secondary : Option (ScopeEvidence × ScopeDecision)
  narrowed : List NarrowedStage
  deriving DecidableEq, Repr

namespace ScopeResult

/-- The lines about the secondary suite. -/
def suiteLines (color : Bool) : Option (ScopeEvidence × ScopeDecision) → List String
  | none => ["No secondary suite configured."]
  | some (evidence, decision) =>
    let verdict :=
      if decision.runs then Ink.green.paint color "run" else Ink.yellow.paint color "skip"
    let changed := match evidence.changedPaths with
      | some paths => toString paths.length
      | none => "unavailable"
    [s!"Secondary suite: {verdict} ({decision.reason.text})",
      s!"  changed paths: {changed}",
      "  last verified: " ++ evidence.lastVerifiedAt.getD "never"]

/-- The lines about a lint stage. -/
def stageLines (stage : NarrowedStage) : List String :=
  match stage.files with
  | some files => s!"{stage.stage}: {files.length} changed file(s)" :: files.map ("  " ++ ·)
  | none => [s!"{stage.stage}: full tree"]

/-- The scope for people. -/
def human (color : Bool) (result : ScopeResult) : String :=
  unlines (suiteLines color result.secondary ++ result.narrowed.flatMap stageLines)

/-- The scope as a record. -/
def toJson (result : ScopeResult) : Json := .obj [
  ("secondary", Json.opt (fun (evidence, decision) => .obj [
    ("inputs", ScopeEvidence.toJson evidence), ("decision", ScopeDecision.toJson decision)])
    result.secondary),
  ("narrowed", .arr (result.narrowed.map fun stage =>
    .obj [("stage", .str stage.stage), ("files", Json.opt .strs stage.files)]))]

end ScopeResult

/-- The marker of the last verification. -/
structure BaselineResult where
  lastVerified : Option String
  /-- It was set just now. -/
  marked : Bool
  deriving DecidableEq, Repr

namespace BaselineResult

/-- The marker for people. -/
def human (result : BaselineResult) : String :=
  match result.lastVerified, result.marked with
  | some marker, true => s!"Marked verified at {marker}\n"
  | some marker, false => s!"Last verified: {marker}\n"
  | none, _ => "Never verified.\n"

/-- The marker as a record. -/
def toJson (result : BaselineResult) : Json := .obj [
  ("last_verified", Json.opt .str result.lastVerified), ("marked", .bool result.marked)]

end BaselineResult

/-- A plain message. -/
structure OperationResult where
  success : Bool
  message : String
  deriving DecidableEq, Repr

/-- The message as a record. -/
def OperationResult.toJson (result : OperationResult) : Json :=
  .obj [("success", .bool result.success), ("message", .str result.message)]

end QualityGate
