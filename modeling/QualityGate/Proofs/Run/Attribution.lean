import Mathlib.Data.List.Nodup
import Mathlib.Data.List.Pairwise
import QualityGate.Project.Memory
import QualityGate.Proofs.Config.Validation
import QualityGate.Proofs.Run.Account
import QualityGate.Proofs.Run.Passage

/-!
# Which process a result belongs to

A report names each of its results, and a reader finds the process by this name.  A stage runs under
its own name, and the suite after it under a name that is made from that of the stage.  Validation
keeps the names of stages apart and does not know of the names that are made.

* `Stage.processIds` – the names under which the processes of a stage are reported.
* `run_stageIds_sublist` – whatever the ports answer, a run has results under no other names, each
  at most once and in this order, provided the runner names its results as it was told.
* `Config.attributable_iff` – the results of every run of a validated configuration have different
  names, exactly when no stage has the name that is made for the suite after another one
  (`Config.TakesSuiteId`).
* `suite_id_taken` – a validated configuration in which one has.

### What is load-bearing

That nothing else spoils it is the first half; that every such stage does is the second.  The second
needs a run in which all processes run (`RunContext.smooth`): a report that leaves one of them out
says nothing about its name.
-/

namespace QualityGate

variable {σ : Type} {ctx : RunContext σ} {scope : RunScope}

/-! ### Names of processes -/

/-- The names under which the processes of a stage are reported. -/
def Stage.processIds (secondary : Option SecondarySuite) (stage : Stage) : List String :=
  if stage.kind = .test ∧ secondary.isSome then [stage.id, SecondarySuite.stageId stage.id]
  else [stage.id]

namespace SecondarySuite

theorem stageId_injective : Function.Injective stageId :=
  fun _ _ same => String.append_left_inj _ |>.mp same

theorem stageId_ne (parent : String) : stageId parent ≠ parent := by
  intro same
  have lengths := congrArg String.length same
  rw [stageId, String.length_append] at lengths
  exact absurd (Nat.left_eq_add.mp lengths.symm) (by decide)

end SecondarySuite

namespace Stage

variable {secondary : Option SecondarySuite} {stage other : Stage} {stages : List Stage}

theorem mem_processIds_iff {id : String} :
    id ∈ stage.processIds secondary ↔ id = stage.id ∨
      (stage.kind = .test ∧ secondary.isSome) ∧ id = SecondarySuite.stageId stage.id := by
  unfold processIds
  split
  next suite => simp [suite]
  next plain => simp [plain]

theorem nodup_processIds (secondary : Option SecondarySuite) (stage : Stage) :
    (stage.processIds secondary).Nodup := by
  unfold processIds
  split
  · simpa using (SecondarySuite.stageId_ne stage.id).symm
  · exact List.nodup_singleton _

/-- The names of the processes of some stages differ when those of the stages do and none of these
is made for a suite. -/
theorem nodup_flatMap_processIds_iff (distinct : (stages.map (·.id)).Nodup) :
    (stages.flatMap (processIds secondary)).Nodup ↔
      ∀ parent ∈ stages, ∀ stage ∈ stages, parent.kind = .test → secondary.isSome →
        stage.id ≠ SecondarySuite.stageId parent.id := by
  rw [List.nodup_flatMap, and_iff_right fun stage _ => nodup_processIds secondary stage]
  constructor
  · intro apart parent memParent stage memStage test suite same
    have different : stage ≠ parent := by
      rintro rfl
      exact SecondarySuite.stageId_ne stage.id same.symm
    have symmetric : Std.Symm (Function.onFun List.Disjoint (processIds secondary)) :=
      ⟨fun _ _ => List.disjoint_symm⟩
    exact apart.forall memStage memParent different (mem_processIds_iff.mpr (Or.inl rfl))
      (mem_processIds_iff.mpr (Or.inr ⟨⟨test, suite⟩, same⟩))
  · intro free
    refine (List.pairwise_map.mp distinct).imp_of_mem fun {a b} memA memB different => ?_
    intro id inA inB
    rcases mem_processIds_iff.mp inA with rfl | ⟨⟨test, suite⟩, rfl⟩
    · rcases mem_processIds_iff.mp inB with same | ⟨⟨test, suite⟩, same⟩
      · exact different same
      · exact free b memB a memA test suite same
    · rcases mem_processIds_iff.mp inB with same | ⟨-, same⟩
      · exact free a memA b memB test suite same.symm
      · exact different (SecondarySuite.stageId_injective same)

end Stage

/-! ### Names of results -/

/-- The runner names its results as it was told. -/
def Runner.Labels (runner : Runner σ) : Prop :=
  ∀ invocation before result after,
    (runner.execute invocation).run.run before = (.ok result, after) →
      result.stageId = invocation.stageId

/-- A scripted process is reported under the name of its invocation. -/
theorem MemoryProject.labels_runner : MemoryProject.runner.Labels := by
  intro invocation before result after run
  unfold MemoryProject.runner at run
  rw [PortM.run_lift_bind, PortM.run_get_bind] at run
  dsimp only at run
  split at run
  · cases run
  · cases run
    rfl

/-- The processes of a stage that ran are some of those that it may have, in order. -/
theorem StageCourse.stageIds_sublist {stage : Stage} {cache : DiffCache} {report : StageReport}
    {calls : List PortCall} (course : StageCourse ctx stage cache report calls) :
    ((executions calls).map (·.1.stageId)).Sublist (stage.processIds ctx.secondary) := by
  cases course.accounts with
  | skipped demands only reports =>
    rw [only]
    exact List.nil_sublist _
  | drifted reasons depends only reports =>
    rw [only, executions_append, executions_requiredCalls]
    exact List.nil_sublist _
  | @invoked selection looked own due asked ending suites selects decides inOrder decided processes
      runs =>
    have ids : suites.map (·.1.stageId) =
        due.toList.map fun _ => SecondarySuite.stageId stage.id := by
      have named := congrArg (List.map Invocation.stageId) runs
      rw [List.map_map, List.map_map] at named
      exact named
    rw [processes, List.map_cons, ids]
    cases isDue : due with
    | none => exact List.singleton_sublist.mpr (Stage.mem_processIds_iff.mpr (Or.inl rfl))
    | some suite =>
      obtain ⟨test, configured, -⟩ := decides.of_due isDue
      rw [Stage.processIds, if_pos ⟨test, by rw [configured]; rfl⟩]
      exact List.Sublist.refl _

theorem RunCourse.stageIds_sublist {cache : DiffCache} {stages : List Stage}
    {reports : List StageReport} {segments : List (List PortCall)}
    (course : RunCourse ctx scope cache stages reports segments) :
    ((segments.flatMap executions).map (·.1.stageId)).Sublist
      (stages.flatMap (Stage.processIds ctx.secondary)) := by
  induction course with
  | done => exact List.nil_sublist _
  | stopped course failed gate =>
    rw [List.flatMap_cons, List.flatMap_cons, List.flatMap_nil, List.append_nil]
    exact course.stageIds_sublist.trans (List.sublist_append_left _ _)
  | next course goes later ih =>
    rw [List.flatMap_cons, List.flatMap_cons, List.map_append]
    exact course.stageIds_sublist.append ih

/-- What a runner hands out under the names that it was told, it hands out for these processes. -/
theorem map_stageId_handedOut_sublist {processes : List Execution}
    (labelled : ∀ process ∈ processes, ∀ result, process.2 = .ok result →
      result.stageId = process.1.stageId) :
    ((handedOut processes).map (·.stageId)).Sublist (processes.map (·.1.stageId)) := by
  induction processes with
  | nil => exact List.nil_sublist _
  | cons process processes ih =>
    obtain ⟨first, others⟩ := List.forall_mem_cons.mp labelled
    rw [handedOut, List.flatMap_cons, List.map_append, List.map_cons]
    cases answer : process.2 with
    | error error => exact (ih others).cons _
    | ok result =>
      show (result.stageId :: _).Sublist _
      rw [first result answer]
      exact (ih others).cons_cons _

/-- **Results are named after processes.**  The results of a run have names of processes of the
selected stages, in this order, and no more of them than there are processes. -/
theorem RunContext.run_stageIds_sublist (ctx : RunContext σ) (labels : ctx.runner.Labels)
    (stages : List Stage) (scope : RunScope) (state : σ) :
    (((ctx.run stages scope).run state).1.results.map (·.stageId)).Sublist
      ((selectStages stages scope).flatMap (Stage.processIds ctx.secondary)) := by
  obtain ⟨segments, start, stop, shape, course, -⟩ := ctx.exists_course_of_run stages scope state
  have processes : executions (ctx.trace stages scope state) = segments.flatMap executions := by
    rw [shape]
    simp
  have labelled : ∀ process ∈ segments.flatMap executions, ∀ result, process.2 = .ok result →
      result.stageId = process.1.stageId := by
    intro process mem result handed
    rw [← processes, mem_executions_iff, handed] at mem
    obtain ⟨before, after, made⟩ := (ctx.passage_run stages scope state).exists_makes mem
    cases made with
    | execute run => exact labels _ _ _ _ run
  rw [RunReport.results, course.results_eq]
  exact (map_stageId_handedOut_sublist labelled).trans course.stageIds_sublist

/-! ### A run in which every process runs -/

/-- An answer that stands in the way of no process: whatever a stage requires is there, its unit can
be trusted, processes pass under their names, and the suite is there and has no marker. -/
def PortCall.IsSmooth : PortCall → Prop
  | execute invocation answer =>
    ∃ result, answer = .ok result ∧ result.passed = true ∧ result.stageId = invocation.stageId
  | anyMatches _ answer => answer = true
  | verify _ answer => answer = .ok
  | dirExists _ answer => answer = true
  | loadMarker answer => markerOf answer = none
  | _ => True

section Smooth

variable {stage : Stage} {cache : DiffCache} {calls : List PortCall}

/-- A process that passes under its name. -/
theorem PortCall.IsSmooth.passes {invocation : Invocation}
    {answer : Except PortError ProcessResult} (smooth : (execute invocation answer).IsSmooth) :
    failureOf answer = none ∧ (resultsOf answer).map (·.stageId) = [invocation.stageId] := by
  obtain ⟨result, rfl, passed, named⟩ := smooth
  exact ⟨failureOf_eq_none_iff.mpr ⟨result, rfl, passed⟩, congrArg ([·]) named⟩

/-- Without a marker the suite runs. -/
theorem Gathers.runs_of_smooth {suite : SecondarySuite} {changed : Option (List String)}
    {evidence : ScopeEvidence} (gathers : Gathers suite changed evidence calls)
    (smooth : ∀ call ∈ calls, call.IsSmooth) : (evidence.decide suite).runs = true := by
  cases gathers with
  | unmarked present missing =>
    have there : present = true := smooth (.dirExists suite.dir present) (by simp)
    rw [there, ScopeEvidence.decide]
    cases ScopeEvidence.touchesTracked _ suite <;> rfl
  | marked newer present found =>
    have missing := smooth (.loadMarker _) List.mem_cons_self
    rw [PortCall.IsSmooth, found] at missing
    cases missing

theorem SuiteCourse.stageIds_of_smooth {suite : SecondarySuite}
    {out : List ProcessResult × Option Failure}
    (follows : SuiteCourse ctx stage suite cache out calls)
    (smooth : ∀ call ∈ calls, call.IsSmooth) :
    out.1.map (·.stageId) = [SecondarySuite.stageId stage.id] ∧ out.2 = none := by
  cases follows with
  | declined asks gathers decision =>
    have runs := gathers.runs_of_smooth fun call mem => smooth call (List.mem_append_right _ mem)
    rw [runs] at decision
    cases decision
  | @failed _ _ _ _ answer _ asks gathers decision outcome =>
    have passes := (smooth (.execute (ctx.suiteInvocation stage suite) answer) (by simp)).passes
    rw [passes.1] at outcome
    cases outcome
  | @passed _ _ _ _ answer instant saved asks gathers decision outcome =>
    have passes := (smooth (.execute (ctx.suiteInvocation stage suite) answer) (by simp)).passes
    exact ⟨passes.2, rfl⟩

/-- A stage that nothing stands in the way of passes, and reports all its processes. -/
theorem StageCourse.stageIds_of_smooth {report : StageReport}
    (course : StageCourse ctx stage cache report calls)
    (smooth : ∀ call ∈ calls, call.IsSmooth) :
    report.results.map (·.stageId) = stage.processIds ctx.secondary ∧
      report.status.isFailed = false := by
  cases course with
  | skipped demands => cases smooth (.anyMatches stage.requires false) List.mem_cons_self
  | drifted reasons depends => cases smooth (.verify stage.unit (.drift reasons)) (by simp)
  | @alone selection _ answer selects last =>
    have passes := (smooth (.execute (ctx.invocation stage selection) answer) (by simp)).passes
    refine ⟨?_, by rw [passes.1]; rfl⟩
    have plain : ¬ (stage.kind = .test ∧ ctx.secondary.isSome) := by
      rintro ⟨test, suite⟩
      rcases last with fails | none
      · exact fails passes.1
      · rw [RunContext.suiteAfter?, if_pos test] at none
        rw [none] at suite
        cases suite
    rw [Stage.processIds, if_neg plain]
    exact passes.2
  | @withSuite selection _ answer _ _ _ after selects passed configured follows =>
    have passes := (smooth (.execute (ctx.invocation stage selection) answer) (by simp)).passes
    obtain ⟨named, rfl⟩ := follows.stageIds_of_smooth fun call mem =>
      smooth call (List.mem_append_right _ mem)
    obtain ⟨test, secondary⟩ := RunContext.suiteAfter?_eq_some_iff.mp configured
    refine ⟨?_, rfl⟩
    rw [Stage.processIds, if_pos ⟨test, by rw [secondary]; rfl⟩, List.map_append, passes.2, named]
    rfl

theorem RunCourse.stageIds_of_smooth {stages : List Stage} {reports : List StageReport}
    {segments : List (List PortCall)}
    (course : RunCourse ctx scope cache stages reports segments)
    (smooth : ∀ calls ∈ segments, ∀ call ∈ calls, call.IsSmooth) :
    (reports.flatMap (·.results)).map (·.stageId)
      = stages.flatMap (Stage.processIds ctx.secondary) := by
  induction course with
  | done => rfl
  | stopped course failed gate =>
    have fine := (course.stageIds_of_smooth (smooth _ List.mem_cons_self)).2
    rw [fine] at failed
    cases failed
  | next course goes later ih =>
    obtain ⟨first, others⟩ := List.forall_mem_cons.mp smooth
    rw [List.flatMap_cons, List.flatMap_cons, List.map_append, ih others,
      (course.stageIds_of_smooth first).1]

end Smooth

/-- Ports that stand in the way of no process. -/
def RunContext.smooth (secondary : Option SecondarySuite) : RunContext Unit where
  runner := { execute invocation := pure ⟨invocation.stageId, 0, .exited 0, "", "", 0⟩ }
  workspace := {
    root := ""
    dirExists _ := pure true
    fileExists _ := pure true
    anyMatches _ := pure true
    listMatching _ := pure []
    anyModifiedAfter _ _ := pure none }
  diff := { changedPaths := pure [] }
  baseline := { load := pure none, save _ := pure () }
  drift := { verify _ := pure .ok }
  clock := { now := pure ⟨0, 0⟩, ticksMs := pure 0 }
  secondary := secondary
  defaultTimeoutSecs := 0
  fileScope := .full

namespace RunContext

variable {secondary : Option SecondarySuite}

theorem labels_smooth : (smooth secondary).runner.Labels := by
  rintro invocation ⟨⟩ result after run
  cases run
  rfl

theorem isSmooth_of_makes_smooth {before after : Unit} {call : PortCall}
    (made : (smooth secondary).Makes before call after) : call.IsSmooth := by
  cases made with
  | execute run | anyMatches run | verify run | dirExists run | loadMarker run =>
    cases run
    simp [PortCall.IsSmooth, ProcessResult.passed, markerOf]
  | _ => trivial

/-- Such a run reports every process of every selected stage. -/
theorem stageIds_smooth (stages : List Stage) (scope : RunScope) :
    (((smooth secondary).run stages scope).run ()).1.results.map (·.stageId)
      = (selectStages stages scope).flatMap (Stage.processIds secondary) := by
  obtain ⟨segments, start, stop, shape, course, -⟩ :=
    (smooth secondary).exists_course_of_run stages scope ()
  refine course.stageIds_of_smooth fun calls segment call mem => ?_
  have made : call ∈ (smooth secondary).trace stages scope () := by
    rw [shape]
    simp only [List.mem_cons, List.mem_append, List.mem_flatten]
    exact Or.inr (Or.inl ⟨calls, segment, mem⟩)
  obtain ⟨before, after, made⟩ := ((smooth secondary).passage_run stages scope ()).exists_makes made
  exact isSmooth_of_makes_smooth made

end RunContext

/-! ### Validated configurations -/

namespace Config

/-- A stage has the name that is made for the suite after another stage, and both take part in the
run. -/
structure TakesSuiteId (config : Config) (scope : RunScope) (stage parent : Stage) : Prop where
  stageSelected : stage ∈ selectStages config.stages scope
  parentSelected : parent ∈ selectStages config.stages scope
  test : parent.kind = .test
  suite : config.secondary.isSome
  same : stage.id = SecondarySuite.stageId parent.id

/-- The results of every run have different names, whatever the ports answer, provided the runner
names its results as it was told. -/
def Attributable (config : Config) (scope : RunScope) : Prop :=
  ∀ (σ : Type) (ctx : RunContext σ) (state : σ), ctx.secondary = config.secondary →
    ctx.runner.Labels →
      (((ctx.run config.stages scope).run state).1.results.map (·.stageId)).Nodup

variable {config : Config}

theorem nodup_stageIds_of_validate (valid : config.validate = .ok ()) :
    (config.stages.map (·.id)).Nodup :=
  (checkStages_eq_ok_iff.mp (validate_eq_ok_iff.mp valid).2.1).2.2

/-- **When results can be attributed.**  The results of every run of a validated configuration have
different names exactly when no selected stage has the name that is made for the suite after
another one. -/
theorem attributable_iff (valid : config.validate = .ok ()) (scope : RunScope) :
    config.Attributable scope ↔ ∀ stage parent, ¬ config.TakesSuiteId scope stage parent := by
  have distinct : ((selectStages config.stages scope).map (·.id)).Nodup :=
    (nodup_stageIds_of_validate valid).sublist (List.filter_sublist.map _)
  have names :
      ((selectStages config.stages scope).flatMap (Stage.processIds config.secondary)).Nodup ↔ _ :=
    Stage.nodup_flatMap_processIds_iff distinct
  constructor
  · intro attributable stage parent taken
    have apart := attributable Unit (.smooth config.secondary) () rfl RunContext.labels_smooth
    rw [RunContext.stageIds_smooth, names] at apart
    exact apart parent taken.parentSelected stage taken.stageSelected taken.test taken.suite
      taken.same
  · intro free σ ctx state configured labels
    refine List.Nodup.sublist (ctx.run_stageIds_sublist labels config.stages scope state) ?_
    rw [configured, names]
    intro parent memParent stage memStage test suite same
    exact free stage parent ⟨memStage, memParent, test, suite, same⟩

/-- A test with a suite, and a stage whose name depends on this one. -/
def withSuiteAnd (id : String) : Config where
  project := { sources := [] }
  stages := [{ id := "test", command := "true", kind := .test }, { id := id, command := "true" }]
  secondary := some { dir := "suite", command := "true" }

theorem attributable_withSuiteAnd_lint :
    (withSuiteAnd "lint").validate = .ok () ∧ (withSuiteAnd "lint").Attributable .ci := by
  refine ⟨by rfl, (attributable_iff (by rfl) .ci).mpr ?_⟩
  rintro stage parent ⟨memStage, memParent, -, -, same⟩
  have ids : stage.id = "test" ∨ stage.id = "lint" := by
    simpa [withSuiteAnd, selectStages, Stage.includedIn] using
      List.mem_map_of_mem (f := Stage.id) memStage
  have parents : parent.id = "test" ∨ parent.id = "lint" := by
    simpa [withSuiteAnd, selectStages, Stage.includedIn] using
      List.mem_map_of_mem (f := Stage.id) memParent
  rcases ids with id | id <;> rcases parents with parentId | parentId <;>
    rw [id, parentId] at same <;> exact absurd same (by decide)

/-- **A name is taken.**  Validation accepts a stage with the name that is made for the suite after
the test, and a run reports two processes under this name. -/
theorem suite_id_taken :
    (withSuiteAnd "test:secondary").validate = .ok () ∧
      ¬ (withSuiteAnd "test:secondary").Attributable .ci ∧
      ((((MemoryProject.context MemoryProject.scriptedGate (withSuiteAnd "test:secondary").secondary
        600 .full).run (withSuiteAnd "test:secondary").stages .ci).run
          { dirs := ["suite"] }).1.results.map (·.stageId))
        = ["test", "test:secondary", "test:secondary"] := by
  have valid : (withSuiteAnd "test:secondary").validate = .ok () := by rfl
  refine ⟨valid, fun attributable => ?_, by rfl⟩
  have twice := attributable MemoryProject (MemoryProject.context MemoryProject.scriptedGate
    (withSuiteAnd "test:secondary").secondary 600 .full) { dirs := ["suite"] } rfl
    MemoryProject.labels_runner
  exact absurd twice (by decide +kernel)

end Config

end QualityGate
