import QualityGate.Run.Outcome

/-!
# Reports of runs

A stage is pending until its turn comes, runs, and ends in one of three ways.  The report of a run
has an entry for every selected stage, in the order of execution; stages that a gate run never
reached stay pending.
-/

namespace QualityGate

/-- Where a stage stands. -/
inductive StageStatus where
  | pending
  | running
  | succeeded
  | failed (failure : Failure)
  /-- Something that the stage requires is not there. -/
  | skipped (reason : String)
  deriving DecidableEq, Repr

/-- What happened to a stage. -/
structure StageReport where
  stageId : String
  status : StageStatus
  /-- The results of its processes: its own, then that of the secondary suite. -/
  results : List ProcessResult
  /-- The files that the stage was narrowed to. -/
  narrowedTo : Option (List String)
  deriving DecidableEq, Repr

/-- What happened in a run. -/
structure RunReport where
  /-- No stage failed. -/
  success : Bool
  stages : List StageReport
  durationMs : Nat
  deriving DecidableEq, Repr

namespace StageStatus

/-- Whether the stage is done with. -/
def isTerminal : StageStatus → Bool
  | pending | running => false
  | succeeded | failed _ | skipped _ => true

/-- Whether the stage failed. -/
def isFailed : StageStatus → Bool
  | failed _ => true
  | _ => false

/-- Why the stage failed, if it did. -/
def failure? : StageStatus → Option Failure
  | failed failure => some failure
  | _ => none

/-- A word for the status. -/
def label : StageStatus → String
  | pending => "pending"
  | running => "running"
  | succeeded => "passed"
  | failed _ => "FAILED"
  | skipped _ => "skipped"

/-- The status as a record. -/
def toJson : StageStatus → Json
  | pending => .obj [("state", .str "pending")]
  | running => .obj [("state", .str "running")]
  | succeeded => .obj [("state", .str "succeeded")]
  | failed failure => .obj [("state", .str "failed"), ("failure", failure.toJson)]
  | skipped reason => .obj [("state", .str "skipped"), ("reason", .str reason)]

/-- Read a status. -/
def ofJson? (json : Json) : Option StageStatus := do
  let (state, fields) ← Json.tagged? "state" json
  match state with
  | "pending" => (Json.noFields? fields).map fun _ => pending
  | "running" => (Json.noFields? fields).map fun _ => running
  | "succeeded" => (Json.noFields? fields).map fun _ => succeeded
  | "failed" => (Termination.field? "failure" (Json.required Failure.ofJson?) fields).map failed
  | "skipped" => (Termination.field? "reason" (Json.required Json.string?) fields).map skipped
  | _ => none

end StageStatus

namespace StageReport

/-- A stage that has not been reached. -/
def pending (stageId : String) : StageReport := ⟨stageId, .pending, [], none⟩

/-- The first result that is a failure. -/
def failingResult? (report : StageReport) : Option ProcessResult :=
  report.results.find? fun result => ! result.passed

/-- The report as a record. -/
def toJson (report : StageReport) : Json :=
  .obj ([("stage_id", .str report.stageId), ("status", report.status.toJson),
    ("results", .arr (report.results.map ProcessResult.toJson))]
    ++ Json.optMember "narrowed_to" .strs report.narrowedTo)

/-- Read a report. -/
def ofJson? (json : Json) : Option StageReport := do
  match ← Json.fields? .json ["stage_id", "status", "results", "narrowed_to"] json with
  | [stageId, status, results, narrowedTo] =>
    some {
      stageId := ← Json.required Json.string? stageId
      status := ← Json.required StageStatus.ofJson? status
      results := ← Json.required (Json.list? ProcessResult.ofJson?) results
      narrowedTo := ← Json.orElse none (Json.nullable? (Json.list? Json.string?)) narrowedTo }
  | _ => none

end StageReport

namespace RunReport

/-- The results of all processes, in the order in which they were produced. -/
def results (report : RunReport) : List ProcessResult := report.stages.flatMap (·.results)

/-- The first stage that failed. -/
def firstFailure? (report : RunReport) : Option StageReport :=
  report.stages.find? (·.status.isFailed)

/-- The number of stages that succeeded. -/
def passedCount (report : RunReport) : Nat :=
  (report.stages.filter (·.status == .succeeded)).length

/-- The number of stages that failed. -/
def failedCount (report : RunReport) : Nat :=
  (report.stages.filter (·.status.isFailed)).length

/-- The members of the report as a record. -/
def members (report : RunReport) : List (String × Json) := [
  ("success", .bool report.success), ("stages", .arr (report.stages.map StageReport.toJson)),
  ("duration_ms", .nat report.durationMs)]

/-- The report as a record. -/
def toJson (report : RunReport) : Json := .obj report.members

/-- Read a report. -/
def ofJson? (json : Json) : Option RunReport := do
  match ← Json.fields? .json ["success", "stages", "duration_ms"] json with
  | [success, stages, durationMs] =>
    some {
      success := ← Json.required Json.bool? success
      stages := ← Json.required (Json.list? StageReport.ofJson?) stages
      durationMs := ← Json.required Json.nat? durationMs }
  | _ => none

end RunReport

end QualityGate
