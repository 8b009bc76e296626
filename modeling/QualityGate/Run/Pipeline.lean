import QualityGate.Run.Report
import QualityGate.Scope.Probe
import QualityGate.Stage.Basic

/-!
# Running the pipeline

The selected stages run one after the other, each at most once.  For every stage, in this order:

1. when it requires files and there are none, it is skipped;
2. when the configuration unit that it depends on has drifted, it fails without a process;
3. a lint stage may be narrowed to changed files;
4. its process runs;
5. after a test stage that has passed, the secondary suite may run, and when that passes the
   marker of the last verification is set.

A gate run stops at the first stage that fails.  The changes are asked for at most once in a run, so
they are kept in a cache that goes through the stages with the state of the ports.
-/

namespace QualityGate

/-- What a run works with. -/
structure RunContext (σ : Type) where
  runner : Runner σ
  workspace : Workspace σ
  diff : DiffProvider σ
  baseline : BaselineStore σ
  drift : DriftGate σ
  clock : Clock σ
  secondary : Option SecondarySuite
  /-- The limit of stages without their own, in seconds. -/
  defaultTimeoutSecs : Nat
  fileScope : FileScope

/-- The changed paths once they have been asked for; `some none` when they are not known. -/
abbrev DiffCache := Option (Option (List String))

/-- A step of a run. -/
abbrev RunM (σ : Type) : Type → Type := StateT DiffCache (StateM σ)

/-- The stages that take part in a run. -/
def selectStages (stages : List Stage) (scope : RunScope) : List Stage :=
  stages.filter (·.includedIn scope)

namespace RunContext

variable {σ : Type}

/-- The source of evidence. -/
def probe (ctx : RunContext σ) : ScopeProbe σ := ⟨ctx.diff, ctx.workspace, ctx.baseline⟩

/-- The changed paths, if they are known. -/
def changedPaths (ctx : RunContext σ) : RunM σ (Option (List String)) := do
  match ← get with
  | some known => return known
  | none =>
    let known ← liftM (m := StateM σ) ctx.probe.changedPaths
    set (some known)
    return known

/-- What a stage looks at. -/
def selection (ctx : RunContext σ) (stage : Stage) : RunM σ FileSelection := do
  if stage.kind ≠ .lint ∨ ctx.fileScope = .full then return .fullTree
  else match Glob.ofStrings stage.files with
    | .error _ => return .fullTree
    | .ok globs =>
      match ← ctx.changedPaths with
      | none => return .narrow ctx.fileScope none globs
      | some paths =>
        let existing ← liftM (m := StateM σ) (ScopeProbe.existing ctx.workspace paths)
        return .narrow ctx.fileScope (some existing) globs

/-- Run one process: the result, if it could be started, and the failure, if it is one. -/
def execute (ctx : RunContext σ) (invocation : Invocation) :
    StateM σ (List ProcessResult × Option Failure) := do
  match ← (ctx.runner.execute invocation).run with
  | .ok result => return ([result], result.failure?)
  | .error error => return ([], some (.spawnFailed error.chain))

/-- The process of the suite after a stage. -/
def suiteInvocation (ctx : RunContext σ) (stage : Stage) (suite : SecondarySuite) : Invocation where
  stageId := SecondarySuite.stageId stage.id
  command := suite.command
  args := suite.args
  cwd := ctx.workspace.root
  limitMs := suite.timeoutSecs.getD ctx.defaultTimeoutSecs * 1000

/-- Run the suite after a stage, and set the marker when it passes; that the marker cannot be set
changes nothing. -/
def runSuite (ctx : RunContext σ) (stage : Stage) (suite : SecondarySuite) :
    StateM σ (List ProcessResult × Option Failure) := do
  let (results, failure) ← ctx.execute (ctx.suiteInvocation stage suite)
  if failure.isNone then
    let _ ← (ctx.baseline.save (← ctx.clock.now)).run
  return (results, failure)

/-- Run the suite after a stage if the evidence says so. -/
def runSecondary (ctx : RunContext σ) (stage : Stage) (suite : SecondarySuite) :
    RunM σ (List ProcessResult × Option Failure) := do
  let changed ← ctx.changedPaths
  let evidence ← liftM (m := StateM σ) (ctx.probe.gatherWith suite changed)
  if (evidence.decide suite).runs then liftM (m := StateM σ) (ctx.runSuite stage suite)
  else return ([], none)

/-- The suite that may run after a stage. -/
def suiteAfter? (ctx : RunContext σ) (stage : Stage) : Option SecondarySuite :=
  if stage.kind = .test then ctx.secondary else none

/-- The process of a stage. -/
def invocation (ctx : RunContext σ) (stage : Stage) (selection : FileSelection) : Invocation where
  stageId := stage.id
  command := stage.command
  args := stage.args ++ selection.files?.getD stage.targets
  cwd := ctx.workspace.root
  limitMs := stage.limitSecs ctx.defaultTimeoutSecs * 1000

/-- The status of a stage whose processes have run. -/
def statusFor : Option Failure → StageStatus
  | some failure => .failed failure
  | none => .succeeded

/-- Run the processes of a stage. -/
def runProcesses (ctx : RunContext σ) (stage : Stage) : RunM σ StageReport := do
  let selection ← ctx.selection stage
  let (own, failure) ← liftM (m := StateM σ) (ctx.execute (ctx.invocation stage selection))
  let (others, failure) ← match failure, ctx.suiteAfter? stage with
    | none, some suite => ctx.runSecondary stage suite
    | failure, _ => pure ([], failure)
  return ⟨stage.id, statusFor failure, own ++ others, selection.files?⟩

/-- Whether what a stage requires is not there. -/
def lacksRequired (ctx : RunContext σ) (stage : Stage) : StateM σ Bool := do
  if stage.requires.isEmpty then return false
  else return ! (← ctx.workspace.anyMatches stage.requires)

/-- What the gate says about the unit of a stage. -/
def driftOf (ctx : RunContext σ) (stage : Stage) : StateM σ DriftStatus :=
  if stage.hasUnit then ctx.drift.verify stage.unit else return .ok

/-- Run a stage. -/
def runStage (ctx : RunContext σ) (stage : Stage) : RunM σ StageReport := do
  if ← liftM (m := StateM σ) (ctx.lacksRequired stage) then
    return { StageReport.pending stage.id with
      status := .skipped ("no files match " ++ ", ".intercalate stage.requires) }
  else match ← liftM (m := StateM σ) (ctx.driftOf stage) with
    | .drift reasons =>
      return { StageReport.pending stage.id with status := .failed (.drift stage.unit reasons) }
    | .ok => ctx.runProcesses stage

/-- Run stages in order; a gate stops at the first one that fails. -/
def runStages (ctx : RunContext σ) (scope : RunScope) : List Stage → RunM σ (List StageReport)
  | [] => return []
  | stage :: rest => do
    let report ← ctx.runStage stage
    if report.status.isFailed && scope.isGate then
      return report :: rest.map fun stage => .pending stage.id
    else return report :: (← ctx.runStages scope rest)

/-- Run the selected stages of a project. -/
def run (ctx : RunContext σ) (stages : List Stage) (scope : RunScope) : StateM σ RunReport := do
  let start ← ctx.clock.ticksMs
  let (reports, _) ← (ctx.runStages scope (selectStages stages scope)).run none
  let stop ← ctx.clock.ticksMs
  return ⟨! reports.any (·.status.isFailed), reports, stop - start⟩

end RunContext

end QualityGate
