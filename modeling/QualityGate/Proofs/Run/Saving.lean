import QualityGate.Proofs.Run.Marker
import QualityGate.Proofs.Run.Unison

/-!
# The marker is saved on proof

The marker of the last verification lets later runs leave the suite out, so it must not be there
without a suite that passed.  Whether it could be saved, on the other hand, is nobody's business: the
suite did pass.

* `SavesOnProof` – the marker is saved at the end of the calls of a stage, directly after a process
  of the suite that passed, or it is not saved and no process of the suite passed.
* `RunContext.savingWith` – the context with another way to save the marker.
* `run_saves_on_proof` – a run saves the marker on proof in the calls of every stage that it reaches
  and nowhere else.  The same run with another way to save it goes the same way until another port
  answers differently, and all the way when saving leaves the ports as it did.

### What is load-bearing

The processes of the suite are those that run for a stage after its own, so they are told apart by
their place and not by their names.
-/

namespace QualityGate

variable {σ : Type} {ctx : RunContext σ} {stage : Stage} {suite : SecondarySuite}
  {cache : DiffCache}

/-! ### Saving after a stage -/

/-- The calls of a stage and its report, as far as the marker goes. -/
inductive SavesOnProof (ctx : RunContext σ) (stage : Stage) (report : StageReport)
    (calls : List PortCall) : Prop where
  /-- Of the processes after the stage's own none passes, and the marker is not saved. -/
  | unproved (suites : ∀ process ∈ (executions calls).tail, ¬ Passes process.2)
      (unsaved : ∀ call ∈ calls, call.isSave = false)
  /-- The stage's own process passes, and then that of the suite does.  The marker is saved next, once
  and as the last call.  However that is answered, the stage has succeeded. -/
  | proved {before : List PortCall} {process : Execution} {suite : SecondarySuite}
      {answer : Except PortError ProcessResult} {instant : Time.Instant}
      {saved : Except PortError Unit} (configured : ctx.suiteAfter? stage = some suite)
      (ends : calls = before ++ [.execute (ctx.suiteInvocation stage suite) answer, .now instant,
        .saveMarker instant saved])
      (own : executions before = [process]) (passed : Passes process.2) (passes : Passes answer)
      (unsaved : ∀ call ∈ before, call.isSave = false) (succeeded : report.status = .succeeded)

/-- Before the process of a stage ends, nothing is saved and no other process runs. -/
theorem calls_to_own {selection : FileSelection} {looked : List PortCall}
    (selects : Selects ctx stage cache selection looked)
    (answer : Except PortError ProcessResult) :
    let calls := requiredCalls stage ++ trustedCalls stage ++ looked
      ++ [.execute (ctx.invocation stage selection) answer]
    executions calls = [(ctx.invocation stage selection, answer)] ∧
      ∀ call ∈ calls, call.isSave = false := by
  intro calls
  constructor
  · show executions (_ ++ _ ++ _ ++ _) = _
    rw [List.append_assoc, executions_admitted, executions_append,
      executions_of_isQuestion selects.isQuestion]
    rfl
  · intro call mem
    simp only [calls, List.mem_append, List.mem_singleton] at mem
    rcases mem with ((required | trusted) | looked) | rfl
    · exact isSave_requiredCalls stage call required
    · exact isSave_trustedCalls stage call trusted
    · exact PortCall.isSave_of_isQuestion (selects.isQuestion call looked)
    · rfl

/-- The suite saves the marker at its end if it passes, and not at all if it does not. -/
theorem SuiteCourse.saves_cases {out : List ProcessResult × Option Failure} {calls : List PortCall}
    (course : SuiteCourse ctx stage suite cache out calls) :
    (∀ process ∈ executions calls, ¬ Passes process.2) ∧ (∀ call ∈ calls, call.isSave = false) ∨
      ∃ questions answer instant saved,
        calls = questions ++ [.execute (ctx.suiteInvocation stage suite) answer, .now instant,
          .saveMarker instant saved] ∧
        (∀ call ∈ questions, call.isQuestion = true) ∧ Passes answer ∧ out.2 = none := by
  have questions {changed : Option (List String)} {evidence : ScopeEvidence}
      {asked gathered : List PortCall} (asks : AsksChanges cache changed asked)
      (gathers : Gathers suite changed evidence gathered) :
      ∀ call ∈ asked ++ gathered, call.isQuestion = true :=
    List.forall_mem_append.mpr ⟨asks.isQuestion, gathers.isQuestion⟩
  cases course with
  | declined asks gathers decision =>
    refine Or.inl ⟨?_, fun call mem => PortCall.isSave_of_isQuestion (questions asks gathers call mem)⟩
    rw [executions_of_isQuestion (questions asks gathers)]
    exact List.forall_mem_nil _
  | failed asks gathers decision outcome =>
    refine Or.inl ⟨?_, List.forall_mem_append.mpr ⟨fun call mem =>
      PortCall.isSave_of_isQuestion (questions asks gathers call mem), by simp [PortCall.isSave]⟩⟩
    rw [executions_append, executions_of_isQuestion (questions asks gathers)]
    intro process mem passes
    obtain rfl := List.mem_singleton.mp mem
    rw [failureOf_eq_none_iff.mpr passes] at outcome
    cases outcome
  | passed instant saved asks gathers decision outcome =>
    exact Or.inr ⟨_, _, instant, saved, rfl, questions asks gathers,
      failureOf_eq_none_iff.mp outcome, rfl⟩

/-- A stage that follows its course saves the marker on proof. -/
theorem StageCourse.savesOnProof {report : StageReport} {calls : List PortCall}
    (course : StageCourse ctx stage cache report calls) :
    SavesOnProof ctx stage report calls := by
  cases course with
  | skipped demands => exact .unproved (List.forall_mem_nil _) (by simp [PortCall.isSave])
  | drifted reasons depends =>
    refine .unproved ?_ (List.forall_mem_append.mpr
      ⟨isSave_requiredCalls stage, by simp [PortCall.isSave]⟩)
    rw [executions_append, executions_requiredCalls]
    exact List.forall_mem_nil _
  | @alone selection looked answer selects last =>
    obtain ⟨only, unsaved⟩ := calls_to_own selects answer
    refine .unproved ?_ unsaved
    rw [only]
    exact List.forall_mem_nil _
  | @withSuite selection looked answer suite results failure after selects passed configured
      follows =>
    obtain ⟨own, unsaved⟩ := calls_to_own selects answer
    rcases follows.saves_cases with ⟨suites, nothing⟩ | ⟨questions, last, instant, saved, rfl,
      asked, passes, fine⟩
    · refine .unproved ?_ (List.forall_mem_append.mpr ⟨unsaved, nothing⟩)
      rw [executions_append, own]
      exact suites
    · obtain rfl : failure = none := fine
      have alone : executions (requiredCalls stage ++ trustedCalls stage ++ looked
          ++ [.execute (ctx.invocation stage selection) answer] ++ questions)
            = [(ctx.invocation stage selection, answer)] := by
        rw [executions_append, own, executions_of_isQuestion asked]
        rfl
      refine .proved configured (List.append_assoc _ questions _).symm alone
        (failureOf_eq_none_iff.mp passed) passes (List.forall_mem_append.mpr ⟨unsaved, ?_⟩) rfl
      exact fun call mem => PortCall.isSave_of_isQuestion (asked call mem)

/-! ### Another way to save -/

namespace RunContext

/-- The context with another way to save the marker. -/
def savingWith (ctx : RunContext σ) (save : Time.Instant → PortM σ Unit) : RunContext σ :=
  { ctx with baseline := { ctx.baseline with save := save } }

theorem sameSettings_savingWith (ctx : RunContext σ) (save : Time.Instant → PortM σ Unit) :
    ctx.SameSettings (ctx.savingWith save) := ⟨rfl, rfl, rfl, rfl⟩

section Leaves

variable {save : Time.Instant → PortM σ Unit}
  (leaves : ∀ instant before, ((save instant).run.run before).2 =
    ((ctx.baseline.save instant).run.run before).2)
include leaves

theorem runSuite_savingWith (stage : Stage) (suite : SecondarySuite) :
    (ctx.savingWith save).runSuite stage suite = ctx.runSuite stage suite := by
  unfold runSuite
  show ctx.execute (ctx.suiteInvocation stage suite) >>= _ = _
  refine congrArg (ctx.execute (ctx.suiteInvocation stage suite) >>= ·) ?_
  funext (results, failure)
  cases failure with
  | some failure => rfl
  | none =>
    refine congrArg (ctx.clock.now >>= ·) ?_
    funext instant before
    exact congrArg (fun after => ((results, none), after)) (leaves instant before)

theorem runStage_savingWith (stage : Stage) :
    (ctx.savingWith save).runStage stage = ctx.runStage stage := by
  have suites (suite : SecondarySuite) :
      (ctx.savingWith save).runSecondary stage suite = ctx.runSecondary stage suite := by
    unfold runSecondary
    rw [runSuite_savingWith leaves]
    rfl
  have processes : (ctx.savingWith save).runProcesses stage = ctx.runProcesses stage := by
    unfold runProcesses
    simp only [suites]
    rfl
  unfold runStage
  rw [processes]
  rfl

theorem runStages_savingWith (scope : RunScope) (stages : List Stage) :
    (ctx.savingWith save).runStages scope stages = ctx.runStages scope stages := by
  induction stages with
  | nil => rfl
  | cons stage rest ih => rw [runStages, runStages, ih, runStage_savingWith leaves]

/-- When saving leaves the ports as it did, a run is what it was. -/
theorem run_savingWith (stages : List Stage) (scope : RunScope) :
    (ctx.savingWith save).run stages scope = ctx.run stages scope := by
  unfold run
  rw [runStages_savingWith leaves]
  rfl

end Leaves

/-- **The marker is saved on proof, and a run takes no notice of how that ends.**  The calls of a run
are those of the stages that it reaches, between two looks at the clock, and in those of each stage
the marker is saved on proof.  When it is saved in another way, and perhaps cannot be, then after any
number of stages the reports are the same and the calls are alike, unless another port has answered
the same call differently before.  When saving leaves the ports in the same states, nothing
changes. -/
theorem run_saves_on_proof (ctx : RunContext σ) (stages : List Stage) (scope : RunScope)
    (state : σ) :
    let selected := selectStages stages scope
    let report := ((ctx.run stages scope).run state).1
    let segments := ctx.segments stages scope state
    (∃ start stop,
      ctx.trace stages scope state = .ticks start :: (segments.flatten ++ [.ticks stop])) ∧
    (∀ (i : Nat) (calls : List PortCall), segments[i]? = some calls →
      ∃ stage stageReport, selected[i]? = some stage ∧ report.stages[i]? = some stageReport ∧
        SavesOnProof ctx stage stageReport calls) ∧
    ∀ save : Time.Instant → PortM σ Unit,
      let other := ctx.savingWith save
      (∀ k : Nat,
        let calls := (segments.take k).flatten
        let calls' := ((other.segments stages scope state).take k).flatten
        report.stages.take k = ((other.run stages scope).run state).1.stages.take k ∧
            List.Forall₂ PortCall.Alike calls calls' ∨
          Parts calls calls') ∧
      ((∀ instant before, ((save instant).run.run before).2 =
          ((ctx.baseline.save instant).run.run before).2) →
        other.run stages scope = ctx.run stages scope) := by
  intro selected report segments
  obtain ⟨shape, course⟩ := ctx.trace_eq_segments stages scope state
  refine ⟨shape, ?_, fun save => ⟨fun k => ?_, fun leaves => run_savingWith leaves stages scope⟩⟩
  · intro i calls reached
    obtain ⟨stage, stageReport, isSelected, reported, ofStage⟩ := course.courses reached
    exact ⟨stage, stageReport, isSelected, reported, ofStage.savesOnProof⟩
  · exact segments_unison (ctx.sameSettings_savingWith save) stages scope state state k

end RunContext

end QualityGate
