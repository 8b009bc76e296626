import QualityGate.Proofs.Run.Account
import QualityGate.Proofs.Run.Invariant

/-!
# The gate before a stage

A stage that depends on a unit starts a process only after the drift gate has been asked about the
unit and has answered that it can be trusted.

* `RunContext.gateState` – the state in which a stage asks the gate.
* `RunContext.stageTrace` – the calls of a stage that begins in a state.
* `executions_stageTrace_ne_nil_iff` – when a single stage starts a process, in any state.
* `Accounts.trusted_of_executions` – the trust of the gate, read off the account of a stage.
* `RunContext.Withholds` – in a whole run the stages of a unit start no process.

### What is load-bearing

Between the questions of a stage about what it requires and the gate there is no other call, so the
state in which the gate is asked is the one that the first of the two questions leaves.
-/

namespace QualityGate

variable {σ τ : Type}

/-- A stage that passed its guards starts a process. -/
theorem StageCourse.executions_ne_nil {ctx : RunContext σ} {stage : Stage} {cache : DiffCache}
    {report : StageReport} {called : List PortCall}
    (course : StageCourse ctx stage cache report
      (requiredCalls stage ++ trustedCalls stage ++ called)) :
    executions (requiredCalls stage ++ trustedCalls stage ++ called) ≠ [] := by
  cases course.accounts with
  | skipped demands only reports => simp [requiredCalls, demands] at only
  | drifted reasons depends only reports =>
    rw [List.append_assoc] at only
    simp [trustedCalls, depends] at only
  | invoked selects decides inOrder decided processes =>
    rw [processes]
    nofun

namespace RunContext

/-- A step that does not look at the cache. -/
theorem run_liftM_bind {α β : Type} (m : StateM τ α) (f : α → RunM τ β) (cache : DiffCache)
    (state : τ) : ((liftM m >>= f : RunM τ β).run cache).run state =
      ((f (m.run state).1).run cache).run (m.run state).2 := rfl

/-- A stage first asks for what it requires, then the gate, and only then runs its processes. -/
theorem run_runStage (ctx : RunContext τ) (stage : Stage) (cache : DiffCache) (state : τ) :
    (((ctx.runStage stage).run cache).run state).2 =
      match (ctx.lacksRequired stage).run state with
      | (true, next) => next
      | (false, next) =>
        match (ctx.driftOf stage).run next with
        | (.drift _, last) => last
        | (.ok, last) => (((ctx.runProcesses stage).run cache).run last).2 := by
  unfold runStage
  rw [run_liftM_bind]
  obtain ⟨lacks, next⟩ := (ctx.lacksRequired stage).run state
  cases lacks with
  | true => rfl
  | false =>
    show (((liftM (ctx.driftOf stage) >>= _ : RunM τ StageReport).run cache).run next).2 = _
    rw [run_liftM_bind]
    simp only
    obtain ⟨status, last⟩ := (ctx.driftOf stage).run next
    cases status <;> rfl

/-- The state in which a stage asks the gate. -/
def gateState (ctx : RunContext σ) (stage : Stage) (state : σ) : σ :=
  ((ctx.lacksRequired stage).run state).2

/-- The calls of a stage that begins in a state, with this in the cache. -/
def stageTrace (ctx : RunContext σ) (stage : Stage) (cache : DiffCache) (state : σ) :
    List PortCall :=
  (((ctx.recorded.runStage stage).run cache).run (state, [])).2.2

/-- A stage that depends on a unit starts a process exactly when what it requires is there and the
gate trusts the unit. -/
theorem executions_stageTrace_ne_nil_iff {ctx : RunContext σ} {stage : Stage} {cache : DiffCache}
    {state : σ} (depends : stage.hasUnit = true) :
    executions (ctx.stageTrace stage cache state) ≠ [] ↔
      ((ctx.lacksRequired stage).run state).1 = false ∧
        ((ctx.drift.verify stage.unit).run (ctx.gateState stage state)).1 = .ok := by
  obtain ⟨asked, questions, lacks⟩ := ctx.recorded_lacksRequired stage state []
  rw [List.nil_append] at questions
  rw [stageTrace, run_runStage, questions, gateState]
  rcases lacks with ⟨lacks, -, rfl⟩ | ⟨has, rfl⟩
  · rw [lacks]
    exact ⟨fun starts => absurd rfl starts, nofun⟩
  · rw [has]
    have asks : ctx.driftOf stage = ctx.drift.verify stage.unit := if_pos depends
    rw [← asks]
    obtain ⟨guarded, gate, ⟨reasons, drifted, -, rfl⟩ | ⟨trusted, rfl⟩⟩ :=
      ctx.recorded_driftOf stage ((ctx.lacksRequired stage).run state).2 (requiredCalls stage)
    · simp only [gate, drifted]
      rw [executions_append, executions_requiredCalls]
      exact ⟨fun starts => absurd rfl starts, nofun⟩
    · simp only [gate, trusted]
      obtain ⟨called, processes, -, course⟩ := ctx.recorded_runProcesses cache stage
        ((ctx.driftOf stage).run ((ctx.lacksRequired stage).run state).2).2
        (requiredCalls stage ++ trustedCalls stage)
      rw [processes]
      exact ⟨fun _ => ⟨trivial, trivial⟩, fun _ => course.executions_ne_nil⟩

end RunContext

/-- A stage whose account has a process was trusted by the gate. -/
theorem Accounts.trusted_of_executions {ctx : RunContext σ} {stage : Stage} {cache : DiffCache}
    {report : StageReport} {calls : List PortCall}
    (accounts : Accounts ctx stage cache report calls) (depends : stage.hasUnit = true)
    (starts : executions calls ≠ []) : .verify stage.unit .ok ∈ calls := by
  cases accounts with
  | skipped demands only reports =>
    rw [only] at starts
    exact absurd rfl starts
  | drifted reasons depends only reports =>
    rw [only, executions_append, executions_requiredCalls] at starts
    exact absurd rfl starts
  | invoked selects decides inOrder =>
    rw [inOrder]
    simp [trustedCalls, depends]

/-- In a run the gate does not trust a unit, and no stage of the unit starts a process. -/
structure RunContext.Withholds (ctx : RunContext σ) (stages : List Stage) (scope : RunScope)
    (state : σ) (u : String) : Prop where
  /-- The gate is only ever told of drift. -/
  distrusts : ∀ answer, .verify u answer ∈ ctx.trace stages scope state →
    ∃ reasons, answer = .drift reasons
  /-- The calls of the run are those of the stages that are reached, and among those of a stage of
  the unit there is no process. -/
  idle : ∃ segments start stop,
    ctx.trace stages scope state = .ticks start :: (segments.flatten ++ [.ticks stop]) ∧
    RunCourse ctx scope none (selectStages stages scope)
      ((ctx.run stages scope).run state).1.stages segments ∧
    ∀ (i : Nat) (stage : Stage) (calls : List PortCall),
      (selectStages stages scope)[i]? = some stage → segments[i]? = some calls →
        stage.unit = u → executions calls = []

/-- A run in which the gate never answers that a unit can be trusted. -/
theorem RunContext.withholds_of_untrusted {ctx : RunContext σ} {stages : List Stage}
    {scope : RunScope} {state : σ} {u : String} (named : Text.isBlankString u = false)
    (untrusted : .verify u .ok ∉ ctx.trace stages scope state) :
    ctx.Withholds stages scope state u where
  distrusts := by
    intro answer asked
    cases answer with
    | ok => exact absurd asked untrusted
    | drift reasons => exact ⟨reasons, rfl⟩
  idle := by
    obtain ⟨segments, start, stop, shape, course, -⟩ := ctx.exists_course_of_run stages scope state
    refine ⟨segments, start, stop, shape, course, fun i stage calls selected reached unit => ?_⟩
    obtain ⟨other, report, same, -, accounts⟩ := course.accounts reached
    rw [selected] at same
    obtain rfl := Option.some.inj same
    have depends : stage.hasUnit = true := by rw [Stage.hasUnit, unit, named]; rfl
    refine Decidable.byContradiction fun starts => untrusted ?_
    have trusted := accounts.trusted_of_executions depends starts
    rw [unit] at trusted
    rw [shape]
    have inRun : .verify u .ok ∈ segments.flatten :=
      List.mem_flatten_of_mem (List.mem_of_getElem? reached) trusted
    exact List.mem_cons_of_mem _ (List.mem_append_left _ inRun)

end QualityGate
