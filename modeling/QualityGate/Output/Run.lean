import QualityGate.Output.Ink
import QualityGate.Run.Report
import QualityGate.Stage.Basic

/-!
# The outcome of a run

A line for every stage, then the failures with the output of the processes that failed, then one
line with the verdict.
-/

namespace QualityGate

/-- The outcome of a run. -/
structure RunResult where
  scope : RunScope
  report : RunReport
  deriving DecidableEq, Repr

namespace RunResult

/-- The word in front of a stage. -/
def tag (color : Bool) : StageStatus → String
  | .succeeded => Ink.green.paint color "PASS"
  | .failed _ => Ink.boldRed.paint color "FAIL"
  | .skipped _ => Ink.yellow.paint color "SKIP"
  | .pending | .running => Ink.dimmed.paint color "----"

/-- The time that the processes of a stage took, in a 64-bit count of milliseconds. -/
def elapsedMs (stage : StageReport) : Nat :=
  stage.results.foldl (fun total result => total + result.durationMs) 0 % UInt64.size

/-- A stage in a few words. -/
def stageLine (stage : StageReport) : String :=
  match stage.status, stage.narrowedTo with
  | .skipped reason, _ => s!"{stage.stageId} ({reason})"
  | .pending, _ | .running, _ => s!"{stage.stageId} (not run)"
  | _, some files => s!"{stage.stageId} ({elapsedMs stage}ms, {files.length} changed file(s))"
  | _, none => s!"{stage.stageId} ({elapsedMs stage}ms)"

/-- The captured output of a process under a heading, ended by a line break. -/
def captured (heading text : String) : String :=
  if text.isEmpty then ""
  else s!"--- {heading} ---\n{text}" ++ (if text.endsWith "\n" then "" else "\n")

/-- A failed stage with what its process left. -/
def failureText (color : Bool) (stage : StageReport) : String :=
  match stage.status.failure? with
  | none => ""
  | some failure =>
    let heading := Ink.boldRed.paint color "Failed stage"
    let process := match stage.failingResult? with
      | some result =>
        s!"  exit code: {result.exitCode}\n" ++ captured "stdout" result.stdout
          ++ captured "stderr" result.stderr
      | none => ""
    s!"\n{heading} {stage.stageId}: {failure.text}\n" ++ process

/-- The line with the verdict. -/
def summaryLine (color : Bool) (result : RunResult) : String :=
  let report := result.report
  match report.firstFailure? with
  | none =>
    let word := Ink.boldGreen.paint color "PASS"
    s!"{word}: {report.passedCount} stage(s) passed in {report.durationMs}ms"
  | some failed =>
    if ! result.scope.isGate then
      let word := Ink.boldYellow.paint color "DIAG"
      s!"{word}: {report.failedCount} of {report.stages.length} stage(s) failed"
        ++ " (diagnostics, not blocking)"
    else
      let reason := (failed.status.failure?.map Failure.text).getD ""
      let word := Ink.boldRed.paint color "FAIL"
      s!"{word}: stage {failed.stageId} {reason}"

/-- The outcome for people. -/
def human (color : Bool) (result : RunResult) : String :=
  let stages := result.report.stages
  s!"Running {stages.length} stage(s) ({result.scope.name})\n\n"
    ++ unlines (stages.map fun stage => s!"  {tag color stage.status}  {stageLine stage}")
    ++ String.join (stages.map (failureText color))
    ++ s!"\n{summaryLine color result}\n"

/-- The outcome as a record. -/
def toJson (result : RunResult) : Json :=
  .obj (("scope", .str result.scope.name) :: result.report.members)

end RunResult

end QualityGate
