import QualityGate.Proofs.Run.Account
import QualityGate.Proofs.Run.Passage
import QualityGate.Proofs.Time.Order
import QualityGate.Proofs.Time.Rfc3339

/-!
# What the marker of the last verification covers

The marker tells later runs from when on a change is unverified.  A file that is edited while the
suite runs may be too late for it, so the marker should be no later than the start of the process.
The clock is read after the process has ended, though.

* `RunContext.Verification` – a suite that passes, from the state in which its process is started to
  the one in which the clock is read.
* `RunContext.exists_verification` – every marker that a run saves is the reading at the end of a
  verification.
* `RunContext.HidesNoEdit` – every edit after an instant is reported by a later check against the
  marker.
* `RunContext.markers_hide_no_edit_iff` – the markers of a run hide no edit exactly when no time
  passes between the start of a process and the reading; for markers that are kept to the second,
  exactly when no second begins in between.
* `TimedProject.edit_hidden` – an edit while the suite runs that no later check reports.

### What is load-bearing

What happens at a position of a run is known in two ways: the course of the run says which calls
stand before a marker, and the passage through states says when these calls were made.
-/

namespace QualityGate

variable {σ : Type} {ctx : RunContext σ} {scope : RunScope} {stages : List Stage}

/-! ### Markers among the calls -/

/-- Wherever a marker is saved among some calls, the suite after one of the stages has just passed,
and the marker is what the clock was read to show then. -/
def Marked (ctx : RunContext σ) (stages : List Stage) (calls : List PortCall) : Prop :=
  ∀ earlier instant saved later, calls = earlier ++ .saveMarker instant saved :: later →
    ∃ stage ∈ stages, ∃ suite first answer, ctx.suiteAfter? stage = some suite ∧ Passes answer ∧
      earlier = first ++ [.execute (ctx.suiteInvocation stage suite) answer, .now instant]

/-- Whether a call saves a marker. -/
def PortCall.isSave : PortCall → Bool
  | saveMarker .. => true
  | _ => false

namespace Marked

theorem of_no_save {calls : List PortCall} (silent : ∀ call ∈ calls, call.isSave = false) :
    Marked ctx stages calls := by
  rintro earlier instant saved later rfl
  cases silent (.saveMarker instant saved) (by simp)

theorem append {first second : List PortCall} (before : Marked ctx stages first)
    (after : Marked ctx stages second) : Marked ctx stages (first ++ second) := by
  intro earlier instant saved later shape
  obtain ⟨between, rfl, rest⟩ | ⟨between, rfl, rest⟩ := List.append_eq_append_iff.mp shape
  · obtain ⟨stage, mem, suite, start, answer, configured, passes, rfl⟩ := after _ _ _ _ rest
    exact ⟨stage, mem, suite, first ++ start, answer, configured, passes, by simp⟩
  · cases between with
    | nil =>
      -- A marker at the very start of the second part would have no suite before it.
      obtain ⟨_, _, _, _, _, _, _, impossible⟩ := after [] _ _ _ rest.symm
      exact absurd impossible (by simp)
    | cons call between =>
      obtain ⟨rfl, rfl⟩ := List.cons.inj rest
      exact before _ _ _ _ rfl

theorem of_mem {stage : Stage} {calls : List PortCall} (marked : Marked ctx [stage] calls)
    (mem : stage ∈ stages) : Marked ctx stages calls := by
  intro earlier instant saved later shape
  obtain ⟨_, same, rest⟩ := marked _ _ _ _ shape
  obtain rfl := List.mem_singleton.mp same
  exact ⟨_, mem, rest⟩

/-- Of the calls of a suite that passes the last one saves a marker. -/
theorem verified {stage : Stage} {suite : SecondarySuite} {answer : Except PortError ProcessResult}
    (configured : ctx.suiteAfter? stage = some suite) (passes : Passes answer)
    (instant : Time.Instant) (saved : Except PortError Unit) :
    Marked ctx [stage] [.execute (ctx.suiteInvocation stage suite) answer, .now instant,
      .saveMarker instant saved] := by
  rintro earlier instant' saved' later shape
  -- There are two calls before the only one that saves.
  rcases earlier with _ | ⟨first, _ | ⟨second, _ | ⟨third, rest⟩⟩⟩
  · cases shape
  · cases shape
  · cases shape
    exact ⟨stage, List.mem_singleton_self stage, suite, [], answer, configured, passes, rfl⟩
  · simp at shape

end Marked

theorem PortCall.isSave_of_isQuestion {call : PortCall} (question : call.isQuestion = true) :
    call.isSave = false := by
  cases call <;> first | rfl | cases question

theorem isSave_requiredCalls (stage : Stage) :
    ∀ call ∈ requiredCalls stage, call.isSave = false := by
  unfold requiredCalls
  split <;> simp [PortCall.isSave]

theorem isSave_trustedCalls (stage : Stage) :
    ∀ call ∈ trustedCalls stage, call.isSave = false := by
  unfold trustedCalls
  split <;> simp [PortCall.isSave]

/-- The calls of a suite have at most one marker, at their end. -/
theorem SuiteCourse.marked {stage : Stage} {suite : SecondarySuite} {cache : DiffCache}
    {out : List ProcessResult × Option Failure} {calls : List PortCall}
    (course : SuiteCourse ctx stage suite cache out calls)
    (configured : ctx.suiteAfter? stage = some suite) : Marked ctx [stage] calls := by
  have questions {known : Option (List String)} {evidence : ScopeEvidence}
      {asked gathered : List PortCall} (asks : AsksChanges cache known asked)
      (gathers : Gathers suite known evidence gathered) :
      Marked ctx [stage] (asked ++ gathered) :=
    .of_no_save fun call mem => PortCall.isSave_of_isQuestion <|
      (List.mem_append.mp mem).elim (asks.isQuestion call) (gathers.isQuestion call)
  cases course with
  | declined asks gathers decision => exact questions asks gathers
  | failed asks gathers decision outcome =>
    exact (questions asks gathers).append (.of_no_save (by simp [PortCall.isSave]))
  | passed instant saved asks gathers decision outcome =>
    exact (questions asks gathers).append
      (.verified configured (failureOf_eq_none_iff.mp outcome) instant saved)

theorem StageCourse.marked {stage : Stage} {cache : DiffCache} {report : StageReport}
    {calls : List PortCall} (course : StageCourse ctx stage cache report calls) :
    Marked ctx [stage] calls := by
  have required : Marked ctx [stage] (requiredCalls stage) :=
    .of_no_save (isSave_requiredCalls stage)
  have trusted : Marked ctx [stage] (trustedCalls stage) := .of_no_save (isSave_trustedCalls stage)
  have looks {selection : FileSelection} {looked : List PortCall}
      (selects : Selects ctx stage cache selection looked) : Marked ctx [stage] looked :=
    .of_no_save fun call mem => PortCall.isSave_of_isQuestion (selects.isQuestion call mem)
  have single (call : PortCall) (silent : call.isSave = false) : Marked ctx [stage] [call] :=
    .of_no_save (by simpa using silent)
  cases course with
  | skipped demands => exact single _ rfl
  | drifted reasons depends => exact required.append (single _ rfl)
  | alone selects last =>
    exact ((required.append trusted).append (looks selects)).append (single _ rfl)
  | withSuite selects passed configured follows =>
    exact (((required.append trusted).append (looks selects)).append (single _ rfl)).append
      (follows.marked configured)

theorem RunCourse.marked {cache : DiffCache} {reports : List StageReport}
    {segments : List (List PortCall)} (course : RunCourse ctx scope cache stages reports segments) :
    Marked ctx stages segments.flatten := by
  induction course with
  | done => exact .of_no_save (by simp)
  | stopped course failed gate => simpa using course.marked.of_mem List.mem_cons_self
  | next course goes later ih =>
    refine (course.marked.of_mem List.mem_cons_self).append fun _ _ _ _ shape => ?_
    obtain ⟨stage, mem, rest⟩ := ih _ _ _ _ shape
    exact ⟨stage, List.mem_cons_of_mem _ mem, rest⟩

/-- A run saves a marker after a suite that has passed and nowhere else. -/
theorem RunContext.marked_trace (ctx : RunContext σ) (stages : List Stage) (scope : RunScope)
    (state : σ) : Marked ctx (selectStages stages scope) (ctx.trace stages scope state) := by
  obtain ⟨segments, start, stop, shape, course, -⟩ := ctx.exists_course_of_run stages scope state
  have edge (answer : Nat) : Marked ctx (selectStages stages scope) [.ticks answer] :=
    .of_no_save (by simp [PortCall.isSave])
  rw [shape]
  exact (edge start).append (course.marked.append (edge stop))

/-! ### Verifications -/

namespace RunContext

/-- A suite that passes after a stage, and the reading of the clock that follows. -/
structure Verification (ctx : RunContext σ) where
  stage : Stage
  suite : SecondarySuite
  configured : ctx.suiteAfter? stage = some suite
  /-- The state in which the process is started. -/
  begun : σ
  answer : Except PortError ProcessResult
  passes : Passes answer
  /-- The state that the process leaves. -/
  ended : σ
  runs : ctx.Makes begun (.execute (ctx.suiteInvocation stage suite) answer) ended
  instant : Time.Instant
  /-- The state after the reading. -/
  read : σ
  reads : ctx.Makes ended (.now instant) read

/-- The calls of a verification. -/
def Verification.calls (verification : ctx.Verification) : List PortCall :=
  [.execute (ctx.suiteInvocation verification.stage verification.suite) verification.answer,
    .now verification.instant]

/-- A run from a state makes these calls, then those of the verification, and saves the reading. -/
structure Marks (ctx : RunContext σ) (stages : List Stage) (scope : RunScope) (state : σ)
    (earlier : List PortCall) (verification : ctx.Verification) : Prop where
  selected : verification.stage ∈ selectStages stages scope
  begins : ctx.Passage state earlier verification.begun
  saves : ∃ saved later, ctx.trace stages scope state =
    earlier ++ verification.calls ++ .saveMarker verification.instant saved :: later

/-- Every marker that a run saves is the reading at the end of a verification. -/
theorem exists_verification {state : σ} {earlier later : List PortCall} {instant : Time.Instant}
    {saved : Except PortError Unit}
    (shape : ctx.trace stages scope state = earlier ++ .saveMarker instant saved :: later) :
    ∃ first verification, ctx.Marks stages scope state first verification ∧
      verification.instant = instant ∧ earlier = first ++ verification.calls := by
  obtain ⟨stage, selected, suite, first, answer, configured, passes, rfl⟩ :=
    ctx.marked_trace stages scope state _ _ _ _ shape
  have passage := ctx.passage_run stages scope state
  rw [shape, List.append_assoc, passage_append_iff] at passage
  obtain ⟨begun, begins, later⟩ := passage
  obtain ⟨ended, runs, later⟩ := passage_cons_iff.mp later
  obtain ⟨read, reads, -⟩ := passage_cons_iff.mp later
  exact ⟨first, ⟨stage, suite, configured, begun, answer, passes, ended, runs, instant, read,
    reads⟩, ⟨selected, begins, saved, _, shape⟩, rfl, rfl⟩

/-! ### Time -/

/-- The states have a time that never goes back, and the clock shows the time. -/
structure Timed (ctx : RunContext σ) (time : σ → Time.Instant) : Prop where
  forward {before : σ} {call : PortCall} {after : σ} :
    ctx.Makes before call after → time before ≤ time after
  shows {before : σ} {instant : Time.Instant} {after : σ} :
    ctx.Makes before (.now instant) after → time before ≤ instant ∧ instant ≤ time after

/-- Whether there are newer files is judged by the instants at which the files of the subtrees were
modified. -/
structure Dated (ctx : RunContext σ) (modified : σ → List String → List Time.Instant) : Prop where
  judges {before : σ} {subtrees : List String} {since : Time.Instant} {answer : Option Bool}
    {after : σ} : ctx.Makes before (.anyModifiedAfter subtrees since answer) after →
      answer = some ((modified before subtrees).any (·.isAfter since))

/-- The clock is read after the process, so its reading is no earlier than the start. -/
theorem Verification.begun_le {time : σ → Time.Instant} (timed : ctx.Timed time)
    (verification : ctx.Verification) : time verification.begun ≤ verification.instant :=
  (timed.forward verification.runs).trans (timed.shows verification.reads).1

/-- A marker hides no edit after an instant: it is no later, every edit after the instant is after
the marker, and whenever a file that the suite tracks has such an edit, a check against the marker
reports newer files. -/
structure HidesNoEdit (ctx : RunContext σ) (modified : σ → List String → List Time.Instant)
    (suite : SecondarySuite) (start marker : Time.Instant) : Prop where
  notLater : marker ≤ start
  newer (edit : Time.Instant) : start < edit → marker < edit
  reported {edit : Time.Instant} {state : σ} {answer : Option Bool} {next : σ} : start < edit →
    edit ∈ modified state suite.trackedPrefixes →
    ctx.Makes state (.anyModifiedAfter suite.trackedPrefixes marker answer) next →
      answer = some true

variable {time : σ → Time.Instant} {modified : σ → List String → List Time.Instant}
  {suite : SecondarySuite} {start marker : Time.Instant}

theorem hidesNoEdit_iff (dated : ctx.Dated modified) :
    ctx.HidesNoEdit modified suite start marker ↔ marker ≤ start := by
  refine ⟨HidesNoEdit.notLater, fun notLater => ⟨notLater, fun _ => notLater.trans_lt, ?_⟩⟩
  intro edit state answer next late tracked check
  rw [dated.judges check, Option.some.injEq, Time.Instant.any_isAfter_iff]
  exact ⟨edit, tracked, notLater.trans_lt late⟩

/-- The markers of a run, of which this is kept, hide no edit after the start of the process that
they stand for. -/
def MarkersHideNoEdit (ctx : RunContext σ) (time : σ → Time.Instant)
    (modified : σ → List String → List Time.Instant) (kept : Time.Instant → Time.Instant)
    (stages : List Stage) (scope : RunScope) (state : σ) : Prop :=
  ∀ earlier verification, ctx.Marks stages scope state earlier verification →
    ctx.HidesNoEdit modified verification.suite (time verification.begun)
      (kept verification.instant)

/-- **The markers of a run hide no edit exactly when no time passes between the start of the process
and the reading of the clock**, which comes after the process.  When the whole seconds of a marker
are kept, both have to fall into the same second. -/
theorem markers_hide_no_edit_iff (timed : ctx.Timed time) (dated : ctx.Dated modified)
    (stages : List Stage) (scope : RunScope) (state : σ) :
    (∀ earlier instant saved later,
      ctx.trace stages scope state = earlier ++ .saveMarker instant saved :: later →
        ∃ first verification, ctx.Marks stages scope state first verification ∧
          verification.instant = instant ∧ earlier = first ++ verification.calls) ∧
      (∀ earlier verification, ctx.Marks stages scope state earlier verification →
        time verification.begun ≤ time verification.ended ∧
          time verification.ended ≤ verification.instant) ∧
      (ctx.MarkersHideNoEdit time modified id stages scope state ↔
        ∀ earlier verification, ctx.Marks stages scope state earlier verification →
          verification.instant = time verification.begun) ∧
      (ctx.MarkersHideNoEdit time modified Time.Instant.whole stages scope state ↔
        ∀ earlier verification, ctx.Marks stages scope state earlier verification →
          verification.instant.seconds = (time verification.begun).seconds) := by
  refine ⟨fun _ _ _ _ => exists_verification, fun _ verification _ =>
    ⟨timed.forward verification.runs, (timed.shows verification.reads).1⟩, ?_, ?_⟩
  · refine forall₃_congr fun _ verification _ => ?_
    rw [hidesNoEdit_iff dated, id]
    exact (verification.begun_le timed).ge_iff_eq.trans eq_comm
  · refine forall₃_congr fun _ verification _ => ?_
    rw [hidesNoEdit_iff dated]
    exact Time.Instant.whole_le_iff (verification.begun_le timed)

theorem Passage.time_le (timed : ctx.Timed time) {before after : σ} {calls : List PortCall}
    (passage : ctx.Passage before calls after) : time before ≤ time after := by
  induction passage with
  | nil state => exact le_rfl
  | cons made later ih => exact (timed.forward made).trans ih

end RunContext

/-! ### An edit while the suite runs -/

/-- A project as far as time goes. -/
structure TimedProject where
  now : Time.Instant
  /-- When its files were modified. -/
  modified : List Time.Instant := []
  marker : Option String := none

namespace TimedProject

/-- A test, which the suite follows. -/
def test : Stage where
  id := "test"
  command := "true"
  kind := .test

def suite : SecondarySuite where
  dir := "suite"
  command := "check"

/-- What a run works with when every process takes some milliseconds and passes, and a file is
edited half way through. -/
def context (ms : Nat) : RunContext TimedProject where
  runner :=
    { execute := fun invocation => do
        modify fun project => { project with
          now := project.now.plusMillis ms
          modified := project.now.plusMillis (ms / 2) :: project.modified }
        return ⟨invocation.stageId, 0, .exited 0, "", "", ms⟩ }
  workspace :=
    { root := "/project"
      dirExists := fun _ => return true
      fileExists := fun _ => return true
      anyMatches := fun _ => return true
      listMatching := fun _ => return []
      anyModifiedAfter := fun _ since => return some ((← get).modified.any (·.isAfter since)) }
  diff := ⟨throw ⟨"not a git repository", []⟩⟩
  baseline :=
    { load := return (← get).marker
      save := fun instant =>
        modify fun project => { project with marker := some (Time.secondsText instant ++ "\n") } }
  drift := ⟨fun _ => return .ok⟩
  clock := { now := return (← get).now, ticksMs := return 0 }
  secondary := some suite
  defaultTimeoutSecs := 600
  fileScope := .full

theorem timed_context (ms : Nat) : (context ms).Timed now where
  forward := by
    rintro before call after made
    cases made with
    | execute run =>
      cases run
      exact before.now.le_plusMillis ms
    | _ run =>
      cases run
      exact le_rfl
  shows := by
    rintro before instant after made
    cases made with
    | now run =>
      cases run
      exact ⟨le_rfl, le_rfl⟩

theorem dated_context (ms : Nat) : (context ms).Dated fun project _ => project.modified where
  judges := by
    rintro before subtrees since answer after made
    cases made with
    | anyModifiedAfter run =>
      cases run
      rfl

/-- The run of the test at the start of 1970, when every process takes a tenth of a second, hides no
edit: the suite is started and the marker is read in the first second. -/
theorem markers_hide_no_edit_within_second :
    (context 100).Timed now ∧ ((context 100).Dated fun project _ => project.modified) ∧
      (context 100).MarkersHideNoEdit now (fun project _ => project.modified) Time.Instant.whole
        [test] .ci ⟨⟨0, 0⟩, [], none⟩ := by
  refine ⟨timed_context 100, dated_context 100,
    (RunContext.markers_hide_no_edit_iff (timed_context 100) (dated_context 100) [test] .ci
      ⟨⟨0, 0⟩, [], none⟩).2.2.2.mpr fun earlier verification marks => ?_⟩
  have start : (⟨0, 0⟩ : Time.Instant) ≤ now verification.begun :=
    marks.begins.time_le (timed_context 100)
  have later := verification.begun_le (timed_context 100)
  have read : verification.instant = ⟨0, 200000000⟩ := by
    obtain ⟨saved, rest, shape⟩ := marks.saves
    have mem : .now verification.instant ∈ (context 100).trace [test] .ci ⟨⟨0, 0⟩, [], none⟩ := by
      rw [shape]
      simp [RunContext.Verification.calls]
    have calls : (context 100).trace [test] .ci ⟨⟨0, 0⟩, [], none⟩ = [.ticks 0,
        .execute ((context 100).invocation test .fullTree)
          (.ok ⟨"test", 0, .exited 0, "", "", 100⟩),
        .changedPaths (.error ⟨"not a git repository", []⟩), .loadMarker (.ok none),
        .dirExists "suite" true,
        .execute ((context 100).suiteInvocation test suite)
          (.ok ⟨"test:secondary", 0, .exited 0, "", "", 100⟩),
        .now ⟨0, 200000000⟩, .saveMarker ⟨0, 200000000⟩ (.ok ()), .ticks 0] := rfl
    rw [calls] at mem
    simpa using mem
  rw [read] at later ⊢
  rw [Time.Instant.le_iff] at start later
  dsimp only at start later ⊢
  omega

/-- The suite after the test when every process takes two seconds. -/
def lateVerification : (context 2000).Verification where
  stage := test
  suite := suite
  configured := rfl
  begun := ⟨⟨2, 0⟩, [⟨1, 0⟩], none⟩
  answer := .ok ⟨"test:secondary", 0, .exited 0, "", "", 2000⟩
  passes := ⟨_, rfl, rfl⟩
  ended := ⟨⟨4, 0⟩, [⟨3, 0⟩, ⟨1, 0⟩], none⟩
  runs := .execute rfl
  instant := ⟨4, 0⟩
  read := ⟨⟨4, 0⟩, [⟨3, 0⟩, ⟨1, 0⟩], none⟩
  reads := .now rfl

theorem marks_lateVerification :
    (context 2000).Marks [test] .ci ⟨⟨0, 0⟩, [], none⟩ [.ticks 0,
      .execute ((context 2000).invocation test .fullTree)
        (.ok ⟨"test", 0, .exited 0, "", "", 2000⟩),
      .changedPaths (.error ⟨"not a git repository", []⟩), .loadMarker (.ok none),
      .dirExists "suite" true] lateVerification where
  selected := by decide
  begins := .cons (.ticks rfl) <| .cons (.execute rfl) <| .cons (.changedPaths rfl) <|
    .cons (.loadMarker rfl) <| .cons (.dirExists rfl) <| .nil _
  saves := ⟨.ok (), [.ticks 0], rfl⟩

/-- **An edit is hidden.**  The suite is started after two seconds and takes two more.  A file is
edited in between, and the marker says that the suite passed after that: the next check finds
nothing that would have to be verified. -/
theorem edit_hidden :
    (context 2000).Timed now ∧ ((context 2000).Dated fun project _ => project.modified) ∧
      ¬ (context 2000).MarkersHideNoEdit now (fun project _ => project.modified) id [test] .ci
        ⟨⟨0, 0⟩, [], none⟩ ∧
      ¬ (context 2000).MarkersHideNoEdit now (fun project _ => project.modified)
        Time.Instant.whole [test] .ci ⟨⟨0, 0⟩, [], none⟩ ∧
      let after := (((context 2000).run [test] .ci).run ⟨⟨0, 0⟩, [], none⟩).2
      after.modified = [⟨3, 0⟩, ⟨1, 0⟩] ∧ now lateVerification.begun = ⟨2, 0⟩ ∧
        after.marker = some "1970-01-01T00:00:04Z\n" ∧
        (((context 2000).probe.gather suite).run after).1.decide suite = ⟨false, .upToDate⟩ := by
  refine ⟨timed_context 2000, dated_context 2000, fun hides => ?_, fun hides => ?_, rfl, rfl, rfl,
    rfl⟩
  · exact absurd (hides _ _ marks_lateVerification).notLater (by decide)
  · exact absurd (hides _ _ marks_lateVerification).notLater (by decide)

end TimedProject

end QualityGate
