import QualityGate.Proofs.Run.Recording

/-!
# The course of a run

What a run does, call by call, and what it reports for it.  Every function of the pipeline has one
lemma, which says that the function follows its *course*: a predicate over the answer it gives and
the calls it makes.  The course of a stage has one constructor for every way in which a stage can
end, and the course of a run has one for every way in which the list of stages can go on.

* `StageCourse`: a stage is skipped, or has drifted, or its process runs, alone or followed by the
  secondary suite.
* `RunCourse`: every stage follows its course, each with what is known of the changes when its turn
  comes, until there is none left or a gate stops.
* `recorded_run`: every run follows its course, whatever the ports answer.

### What is load-bearing

A course determines the calls down to their order and the report down to every field.  Whatever is
to be said of runs is a case analysis of the courses, and no later proof looks at the pipeline.
-/

namespace QualityGate

variable {σ : Type}

/-! ### What answers mean -/

/-- The results that the runner hands out. -/
def resultsOf (answer : Except PortError ProcessResult) : List ProcessResult :=
  answer.toOption.toList

/-- The failure that an answer of the runner amounts to, if any. -/
def failureOf : Except PortError ProcessResult → Option Failure
  | .ok result => result.failure?
  | .error error => some (.spawnFailed error.chain)

/-- The instant of a stored marker, if it denotes one. -/
def markerOf : Except PortError (Option String) → Option Time.Instant
  | .ok (some text) => Time.ofMarker? (Text.trimmed text)
  | _ => none

/-- The paths whose answer is that they are files. -/
def keptPaths (paths : List String) (answers : List Bool) : List String :=
  ((paths.zip answers).filter (·.2)).map (·.1)

/-! ### Courses -/

/-- What is known of the changes: what the cache holds, or else the answer to a call. -/
inductive AsksChanges : DiffCache → Option (List String) → List PortCall → Prop where
  | remembered (known : Option (List String)) : AsksChanges (some known) known []
  | asked (answer : Except PortError (List String)) :
    AsksChanges none answer.toOption [.changedPaths answer]

/-- The evidence about a suite and the calls that it comes from. -/
inductive Gathers (suite : SecondarySuite) (changed : Option (List String)) :
    ScopeEvidence → List PortCall → Prop where
  | unmarked {answer} (present : Bool) (missing : markerOf answer = none) :
    Gathers suite changed ⟨present, changed, none, none⟩
      [.loadMarker answer, .dirExists suite.dir present]
  | marked {answer since} (newer : Option Bool) (present : Bool)
      (found : markerOf answer = some since) :
    Gathers suite changed ⟨present, changed, some (Time.offsetText since), newer⟩
      [.loadMarker answer, .anyModifiedAfter suite.trackedPrefixes since newer,
        .dirExists suite.dir present]

/-- What a stage looks at and the calls that decide it. -/
inductive Selects (ctx : RunContext σ) (stage : Stage) (cache : DiffCache) :
    FileSelection → List PortCall → Prop where
  | wholeTree (unnarrowed : stage.kind ≠ .lint ∨ ctx.fileScope = .full ∨
      ∃ problem, Glob.ofStrings stage.files = .error problem) :
    Selects ctx stage cache .fullTree []
  | unknown {globs asked} (lint : stage.kind = .lint) (narrows : ctx.fileScope ≠ .full)
      (compiled : Glob.ofStrings stage.files = .ok globs) (asks : AsksChanges cache none asked) :
    Selects ctx stage cache (.narrow ctx.fileScope none globs) asked
  | known {globs asked paths answers} (lint : stage.kind = .lint)
      (narrows : ctx.fileScope ≠ .full) (compiled : Glob.ofStrings stage.files = .ok globs)
      (asks : AsksChanges cache (some paths) asked) (all : answers.length = paths.length) :
    Selects ctx stage cache (.narrow ctx.fileScope (some (keptPaths paths answers)) globs)
      (asked ++ List.zipWith .fileExists paths answers)

/-- What happens after the process of a stage has passed when there is a suite for it: the results
and the failure of the suite, and the calls. -/
inductive SuiteCourse (ctx : RunContext σ) (stage : Stage) (suite : SecondarySuite)
    (cache : DiffCache) : List ProcessResult × Option Failure → List PortCall → Prop where
  /-- The evidence speaks against the suite. -/
  | declined {changed evidence asked gathered} (asks : AsksChanges cache changed asked)
      (gathers : Gathers suite changed evidence gathered)
      (decision : (evidence.decide suite).runs = false) :
    SuiteCourse ctx stage suite cache ([], none) (asked ++ gathered)
  /-- The suite runs and fails. -/
  | failed {changed evidence asked gathered answer failure} (asks : AsksChanges cache changed asked)
      (gathers : Gathers suite changed evidence gathered)
      (decision : (evidence.decide suite).runs = true) (outcome : failureOf answer = some failure) :
    SuiteCourse ctx stage suite cache (resultsOf answer, some failure)
      (asked ++ gathered ++ [.execute (ctx.suiteInvocation stage suite) answer])
  /-- The suite runs and passes, and the marker is set. -/
  | passed {changed evidence asked gathered answer} (instant : Time.Instant)
      (saved : Except PortError Unit) (asks : AsksChanges cache changed asked)
      (gathers : Gathers suite changed evidence gathered)
      (decision : (evidence.decide suite).runs = true) (outcome : failureOf answer = none) :
    SuiteCourse ctx stage suite cache (resultsOf answer, none)
      (asked ++ gathered ++ [.execute (ctx.suiteInvocation stage suite) answer, .now instant,
        .saveMarker instant saved])

/-- The calls of a stage that has what it requires. -/
def requiredCalls (stage : Stage) : List PortCall :=
  if stage.requires = [] then [] else [.anyMatches stage.requires true]

/-- The calls of a stage whose unit can be trusted. -/
def trustedCalls (stage : Stage) : List PortCall :=
  if stage.hasUnit then [.verify stage.unit .ok] else []

/-- What happens to a stage: its report and its calls. -/
inductive StageCourse (ctx : RunContext σ) (stage : Stage) (cache : DiffCache) :
    StageReport → List PortCall → Prop where
  /-- What the stage requires is not there. -/
  | skipped (demands : stage.requires ≠ []) :
    StageCourse ctx stage cache
      ⟨stage.id, .skipped ("no files match " ++ ", ".intercalate stage.requires), [], none⟩
      [.anyMatches stage.requires false]
  /-- The unit of the stage has drifted. -/
  | drifted (reasons : List DriftReason) (depends : stage.hasUnit = true) :
    StageCourse ctx stage cache ⟨stage.id, .failed (.drift stage.unit reasons), [], none⟩
      (requiredCalls stage ++ [.verify stage.unit (.drift reasons)])
  /-- The process of the stage runs, and no suite comes after it. -/
  | alone {selection looked answer} (selects : Selects ctx stage cache selection looked)
      (last : failureOf answer ≠ none ∨ ctx.suiteAfter? stage = none) :
    StageCourse ctx stage cache
      ⟨stage.id, RunContext.statusFor (failureOf answer), resultsOf answer, selection.files?⟩
      (requiredCalls stage ++ trustedCalls stage ++ looked
        ++ [.execute (ctx.invocation stage selection) answer])
  /-- The process of the stage passes, and a suite comes after it. -/
  | withSuite {selection looked answer suite results failure after}
      (selects : Selects ctx stage cache selection looked) (passed : failureOf answer = none)
      (configured : ctx.suiteAfter? stage = some suite)
      (follows : SuiteCourse ctx stage suite (remember cache looked) (results, failure) after) :
    StageCourse ctx stage cache
      ⟨stage.id, RunContext.statusFor failure, resultsOf answer ++ results, selection.files?⟩
      (requiredCalls stage ++ trustedCalls stage ++ looked
        ++ [.execute (ctx.invocation stage selection) answer] ++ after)

/-- What happens to some stages: their reports, and the calls of those that are reached. -/
inductive RunCourse (ctx : RunContext σ) (scope : RunScope) :
    DiffCache → List Stage → List StageReport → List (List PortCall) → Prop where
  | done {cache} : RunCourse ctx scope cache [] [] []
  /-- A gate stops at a stage that fails. -/
  | stopped {cache stage rest report calls} (course : StageCourse ctx stage cache report calls)
      (failed : report.status.isFailed = true) (gate : scope.isGate = true) :
    RunCourse ctx scope cache (stage :: rest)
      (report :: rest.map fun later => .pending later.id) [calls]
  /-- The stages after a stage run with what its calls leave in the cache. -/
  | next {cache stage rest report calls reports segments}
      (course : StageCourse ctx stage cache report calls)
      (goes : (report.status.isFailed && scope.isGate) = false)
      (later : RunCourse ctx scope (remember cache calls) rest reports segments) :
    RunCourse ctx scope cache (stage :: rest) (report :: reports) (calls :: segments)

/-! ### Processes -/

namespace RunContext

variable (ctx : RunContext σ)

theorem recorded_execute (invocation : Invocation) :
    Records (ctx.execute invocation) (ctx.recorded.execute invocation) fun out calls =>
      ∃ answer, out = (resultsOf answer, failureOf answer) ∧
        calls = [.execute invocation answer] := by
  refine (Records.recording (.execute invocation) _).bind ?_
  rintro answer _ rfl
  cases answer with
  | ok result => exact Records.pure ⟨.ok result, rfl, rfl⟩
  | error error => exact Records.pure ⟨.error error, rfl, rfl⟩

/-- The marker is set exactly after a suite that passes. -/
theorem recorded_runSuite (stage : Stage) (suite : SecondarySuite) :
    Records (ctx.runSuite stage suite) (ctx.recorded.runSuite stage suite) fun out calls =>
      ∃ answer, out = (resultsOf answer, failureOf answer) ∧
        (failureOf answer ≠ none ∧
            calls = [.execute (ctx.suiteInvocation stage suite) answer] ∨
          failureOf answer = none ∧ ∃ instant saved,
            calls = [.execute (ctx.suiteInvocation stage suite) answer, .now instant,
              .saveMarker instant saved]) := by
  refine (ctx.recorded_execute (ctx.suiteInvocation stage suite)).bind ?_
  rintro _ _ ⟨answer, rfl, rfl⟩
  cases outcome : failureOf answer with
  | some failure =>
    exact Records.pure ⟨answer, by rw [outcome], Or.inl ⟨by rw [outcome]; nofun, rfl⟩⟩
  | none =>
    refine (Records.recording PortCall.now ctx.clock.now).bind ?_
    rintro instant _ rfl
    refine (Records.recording (.saveMarker instant) (ctx.baseline.save instant).run).bind ?_
    rintro saved _ rfl
    exact Records.pure ⟨answer, by rw [outcome], Or.inr ⟨outcome, instant, saved, rfl⟩⟩

/-! ### Questions -/

theorem recorded_lacksRequired (stage : Stage) :
    Records (ctx.lacksRequired stage) (ctx.recorded.lacksRequired stage) fun lacks calls =>
      lacks = true ∧ stage.requires ≠ [] ∧ calls = [.anyMatches stage.requires false] ∨
        lacks = false ∧ calls = requiredCalls stage := by
  unfold lacksRequired requiredCalls
  cases demands : stage.requires with
  | nil => exact Records.pure (Or.inr ⟨rfl, rfl⟩)
  | cons glob globs =>
    refine (Records.recording (.anyMatches (glob :: globs)) _).bind ?_
    rintro answer _ rfl
    cases answer with
    | false => exact Records.pure (Or.inl ⟨rfl, by simp, rfl⟩)
    | true => exact Records.pure (Or.inr ⟨rfl, rfl⟩)

theorem recorded_driftOf (stage : Stage) :
    Records (ctx.driftOf stage) (ctx.recorded.driftOf stage) fun status calls =>
      (∃ reasons, status = .drift reasons ∧ stage.hasUnit = true ∧
        calls = [.verify stage.unit (.drift reasons)]) ∨
        status = .ok ∧ calls = trustedCalls stage := by
  unfold driftOf trustedCalls
  cases depends : stage.hasUnit with
  | false => exact Records.pure (Or.inr ⟨rfl, rfl⟩)
  | true =>
    refine (Records.recording (.verify stage.unit) (ctx.drift.verify stage.unit)).weaken ?_
    rintro status _ rfl
    cases status with
    | ok => exact Or.inr ⟨rfl, rfl⟩
    | drift reasons => exact Or.inl ⟨reasons, rfl, rfl, rfl⟩

/-- The probe asks the port. -/
theorem recorded_probeChangedPaths :
    Records ctx.probe.changedPaths ctx.recorded.probe.changedPaths (AsksChanges none) := by
  refine (Records.recording .changedPaths ctx.diff.changedPaths.run).bind ?_
  rintro answer _ rfl
  exact Records.pure (.asked answer)

/-- The port is asked once; afterwards the cache answers. -/
theorem recorded_changedPaths (cache : DiffCache) :
    RunRecords cache ctx.changedPaths ctx.recorded.changedPaths (AsksChanges cache) := by
  cases cache with
  | some known => exact RunRecords.pure (.remembered known)
  | none =>
    show Records (ctx.probe.changedPaths >>= fun known => pure (known, some known))
      (ctx.recorded.probe.changedPaths >>= fun known => pure (known, some known)) _
    refine ctx.recorded_probeChangedPaths.bind fun known calls asked => Records.pure ?_
    cases asked with
    | asked answer => exact ⟨rfl, .asked answer⟩

/-- The files are asked for one by one; the kept ones pile up in reverse. -/
theorem recorded_existing_onto (paths kept : List String) :
    Records (paths.filterAuxM ctx.workspace.fileExists kept)
      (paths.filterAuxM ctx.recorded.workspace.fileExists kept) fun existing calls =>
        ∃ answers : List Bool, answers.length = paths.length ∧
          existing = (keptPaths paths answers).reverse ++ kept ∧
          calls = List.zipWith .fileExists paths answers := by
  induction paths generalizing kept with
  | nil => exact Records.pure ⟨[], rfl, rfl, rfl⟩
  | cons path paths ih =>
    refine (Records.recording (.fileExists path) (ctx.workspace.fileExists path)).bind ?_
    rintro answer _ rfl
    refine (ih (cond answer (path :: kept) kept)).weaken ?_
    rintro _ _ ⟨answers, all, rfl, rfl⟩
    refine ⟨answer :: answers, by simp [all], ?_, by simp⟩
    cases answer <;> simp [keptPaths]

theorem recorded_existing (paths : List String) :
    Records (ScopeProbe.existing ctx.workspace paths)
      (ScopeProbe.existing ctx.recorded.workspace paths) fun existing calls =>
        ∃ answers : List Bool, answers.length = paths.length ∧
          existing = keptPaths paths answers ∧ calls = List.zipWith .fileExists paths answers := by
  refine (ctx.recorded_existing_onto paths []).bind ?_
  rintro _ _ ⟨answers, all, rfl, rfl⟩
  exact Records.pure ⟨answers, all, by simp, by simp⟩

theorem recorded_gatherWith (suite : SecondarySuite) (changed : Option (List String)) :
    Records (ctx.probe.gatherWith suite changed) (ctx.recorded.probe.gatherWith suite changed)
      (Gathers suite changed) := by
  have marks : Records ctx.probe.marker ctx.recorded.probe.marker fun marker calls =>
      ∃ answer, marker = markerOf answer ∧ calls = [.loadMarker answer] := by
    refine (Records.recording .loadMarker ctx.baseline.load.run).bind ?_
    rintro answer _ rfl
    cases answer with
    | error error => exact Records.pure ⟨.error error, rfl, rfl⟩
    | ok stored =>
      cases stored with
      | none => exact Records.pure ⟨.ok none, rfl, rfl⟩
      | some text => exact Records.pure ⟨.ok (some text), rfl, rfl⟩
  refine marks.bind ?_
  rintro _ _ ⟨answer, rfl, rfl⟩
  cases found : markerOf answer with
  | none =>
    refine Records.pure_bind ?_
    refine (Records.recording (.dirExists suite.dir) (ctx.workspace.dirExists suite.dir)).bind ?_
    rintro present _ rfl
    exact Records.pure (.unmarked present found)
  | some since =>
    refine (Records.recording (.anyModifiedAfter suite.trackedPrefixes since)
      (ctx.workspace.anyModifiedAfter suite.trackedPrefixes since)).bind ?_
    rintro newer _ rfl
    refine (Records.recording (.dirExists suite.dir) (ctx.workspace.dirExists suite.dir)).bind ?_
    rintro present _ rfl
    exact Records.pure (.marked newer present found)

/-! ### Stages -/

theorem unasked_requiredCalls (stage : Stage) :
    ∀ call ∈ requiredCalls stage, call.changes? = none := by
  unfold requiredCalls
  split <;> simp [PortCall.changes?]

theorem unasked_trustedCalls (stage : Stage) :
    ∀ call ∈ trustedCalls stage, call.changes? = none := by
  unfold trustedCalls
  split <;> simp [PortCall.changes?]

theorem unasked_fileExists {paths : List String} {answers : List Bool} {call : PortCall}
    (mem : call ∈ List.zipWith .fileExists paths answers) : call.changes? = none := by
  rw [← List.map_uncurry_zip_eq_zipWith, List.mem_map] at mem
  obtain ⟨_, -, rfl⟩ := mem
  rfl

theorem unasked_of_gathers {suite : SecondarySuite} {changed : Option (List String)}
    {evidence : ScopeEvidence} {calls : List PortCall}
    (gathers : Gathers suite changed evidence calls) :
    ∀ call ∈ calls, call.changes? = none := by
  cases gathers <;> simp [PortCall.changes?]

theorem recorded_selection (cache : DiffCache) (stage : Stage) :
    RunRecords cache (ctx.selection stage) (ctx.recorded.selection stage)
      (Selects ctx stage cache) := by
  unfold selection
  rw [recorded_fileScope]
  by_cases unnarrowed : stage.kind ≠ .lint ∨ ctx.fileScope = .full
  · rw [if_pos unnarrowed, if_pos unnarrowed]
    exact RunRecords.pure (.wholeTree (unnarrowed.imp_right Or.inl))
  · rw [if_neg unnarrowed, if_neg unnarrowed]
    obtain ⟨other, narrows⟩ := not_or.mp unnarrowed
    have lint : stage.kind = .lint := Decidable.not_not.mp other
    cases compiled : Glob.ofStrings stage.files with
    | error problem => exact RunRecords.pure (.wholeTree (Or.inr (Or.inr ⟨problem, compiled⟩)))
    | ok globs =>
      refine (ctx.recorded_changedPaths cache).bind fun known asked asks => ?_
      cases known with
      | none =>
        refine RunRecords.pure ?_
        rw [List.append_nil]
        exact .unknown lint narrows compiled asks
      | some paths =>
        refine (RunRecords.lift (ctx.recorded_existing paths) ?_).bind ?_
        · rintro _ _ ⟨answers, -, -, rfl⟩ call mem
          exact unasked_fileExists mem
        · rintro _ _ ⟨answers, all, rfl, rfl⟩
          refine RunRecords.pure ?_
          rw [List.append_nil]
          exact .known lint narrows compiled asks all

theorem recorded_runSecondary (cache : DiffCache) (stage : Stage) (suite : SecondarySuite) :
    RunRecords cache (ctx.runSecondary stage suite) (ctx.recorded.runSecondary stage suite)
      (SuiteCourse ctx stage suite cache) := by
  refine (ctx.recorded_changedPaths cache).bind fun changed asked asks => ?_
  refine (RunRecords.lift (ctx.recorded_gatherWith suite changed)
    fun _ _ gathers => unasked_of_gathers gathers).bind fun evidence gathered gathers => ?_
  cases decision : (evidence.decide suite).runs with
  | false =>
    refine RunRecords.pure ?_
    rw [List.append_nil]
    exact .declined asks gathers decision
  | true =>
    refine (RunRecords.lift (ctx.recorded_runSuite stage suite) ?_).weaken ?_
    · rintro _ _ ⟨answer, -, ⟨-, rfl⟩ | ⟨-, instant, saved, rfl⟩⟩ <;> simp [PortCall.changes?]
    · rintro _ _ ⟨answer, rfl, ⟨outcome, rfl⟩ | ⟨outcome, instant, saved, rfl⟩⟩
      · obtain ⟨failure, outcome⟩ := Option.ne_none_iff_exists'.mp outcome
        rw [outcome, ← List.append_assoc]
        exact .failed asks gathers decision outcome
      · rw [outcome, ← List.append_assoc]
        exact .passed instant saved asks gathers decision outcome

theorem recorded_runProcesses (cache : DiffCache) (stage : Stage) :
    RunRecords cache (ctx.runProcesses stage) (ctx.recorded.runProcesses stage) fun report calls =>
      StageCourse ctx stage cache report (requiredCalls stage ++ trustedCalls stage ++ calls) := by
  unfold runProcesses
  rw [recorded_suiteAfter?]
  refine (ctx.recorded_selection cache stage).bind fun selection looked selects => ?_
  refine (RunRecords.lift (ctx.recorded_execute (ctx.invocation stage selection)) ?_).bind ?_
  · rintro _ _ ⟨answer, -, rfl⟩
    simp [PortCall.changes?]
  · rintro _ _ ⟨answer, rfl, rfl⟩
    -- Nothing is called after the process unless a suite follows.
    have alone (last : failureOf answer ≠ none ∨ ctx.suiteAfter? stage = none) :
        StageCourse ctx stage cache ⟨stage.id, statusFor (failureOf answer),
            resultsOf answer ++ [], selection.files?⟩
          (requiredCalls stage ++ trustedCalls stage ++ (looked ++
            ([.execute (ctx.invocation stage selection) answer] ++ []))) := by
      rw [List.append_nil, List.append_nil, ← List.append_assoc]
      exact .alone selects last
    cases outcome : failureOf answer with
    | some failure =>
      refine RunRecords.pure_bind (RunRecords.pure ?_)
      rw [outcome] at alone
      exact alone (Or.inl nofun)
    | none =>
      cases configured : ctx.suiteAfter? stage with
      | none =>
        refine RunRecords.pure_bind (RunRecords.pure ?_)
        rw [outcome] at alone
        exact alone (Or.inr configured)
      | some suite =>
        refine (ctx.recorded_runSecondary _ stage suite).bind ?_
        rintro ⟨results, failure⟩ after follows
        refine RunRecords.pure ?_
        -- The process itself leaves the cache alone.
        rw [remember_of_unasked (by simp [PortCall.changes?])] at follows
        rw [List.append_nil, ← List.append_assoc, ← List.append_assoc]
        exact .withSuite selects outcome configured follows

/-- **A stage follows its course**, whatever the ports answer. -/
theorem recorded_runStage (cache : DiffCache) (stage : Stage) :
    RunRecords cache (ctx.runStage stage) (ctx.recorded.runStage stage)
      (StageCourse ctx stage cache) := by
  refine (RunRecords.lift (ctx.recorded_lacksRequired stage) ?_).bind ?_
  · rintro _ _ (⟨-, -, rfl⟩ | ⟨-, rfl⟩)
    · simp [PortCall.changes?]
    · exact unasked_requiredCalls stage
  · rintro _ before (⟨rfl, demands, rfl⟩ | ⟨rfl, rfl⟩)
    · exact RunRecords.pure (.skipped demands)
    · refine (RunRecords.lift (ctx.recorded_driftOf stage) ?_).bind ?_
      · rintro _ _ (⟨reasons, -, -, rfl⟩ | ⟨-, rfl⟩)
        · simp [PortCall.changes?]
        · exact unasked_trustedCalls stage
      · rintro _ _ (⟨reasons, rfl, depends, rfl⟩ | ⟨rfl, rfl⟩)
        · refine RunRecords.pure ?_
          rw [List.append_nil]
          exact .drifted reasons depends
        · rw [remember_of_unasked (unasked_requiredCalls stage),
            remember_of_unasked (unasked_trustedCalls stage)]
          refine (ctx.recorded_runProcesses cache stage).weaken fun report calls course => ?_
          rw [← List.append_assoc]
          exact course

/-! ### Runs -/

theorem recorded_runStages (cache : DiffCache) (scope : RunScope) (stages : List Stage) :
    RunRecords cache (ctx.runStages scope stages) (ctx.recorded.runStages scope stages)
      fun reports calls => ∃ segments, calls = segments.flatten ∧
        RunCourse ctx scope cache stages reports segments := by
  induction stages generalizing cache with
  | nil => exact RunRecords.pure ⟨[], rfl, .done⟩
  | cons stage rest ih =>
    -- The stages after this one start with what its calls leave in the cache.
    refine (ctx.recorded_runStage cache stage).bind fun report calls course => ?_
    cases goes : report.status.isFailed && scope.isGate with
    | true =>
      rw [if_pos rfl, if_pos rfl]
      rw [Bool.and_eq_true] at goes
      exact RunRecords.pure ⟨[calls], by simp, .stopped course goes.1 goes.2⟩
    | false =>
      rw [if_neg Bool.false_ne_true, if_neg Bool.false_ne_true]
      refine (ih (remember cache calls)).bind ?_
      rintro reports _ ⟨segments, rfl, later⟩
      exact RunRecords.pure ⟨calls :: segments, by simp, .next course goes later⟩

/-- **A run follows its course.**  Between two looks at the clock the selected stages follow theirs;
the report has their reports, and the run is a success when none of them failed. -/
theorem recorded_run (stages : List Stage) (scope : RunScope) :
    Records (ctx.run stages scope) (ctx.recorded.run stages scope) fun report calls =>
      ∃ segments start stop,
        calls = .ticks start :: (segments.flatten ++ [.ticks stop]) ∧
        RunCourse ctx scope none (selectStages stages scope) report.stages segments ∧
        report.success = ! report.stages.any (·.status.isFailed) ∧
        report.durationMs = stop - start := by
  refine (Records.recording PortCall.ticks ctx.clock.ticksMs).bind ?_
  rintro start _ rfl
  refine Records.bind (ctx.recorded_runStages none scope (selectStages stages scope)) ?_
  rintro ⟨reports, _⟩ _ ⟨-, segments, rfl, course⟩
  refine (Records.recording PortCall.ticks ctx.clock.ticksMs).bind ?_
  rintro stop _ rfl
  refine Records.pure ⟨segments, start, stop, by simp, course, rfl, rfl⟩

end RunContext

end QualityGate
