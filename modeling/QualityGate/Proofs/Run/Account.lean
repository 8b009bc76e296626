import QualityGate.Proofs.Run.Prefix

/-!
# The report is an account of the processes

A report is read by people who did not watch the run, so it has to say what the runner was asked to
do and what it answered, no more and no less.

* `executions` are the processes among the calls of a run, with the answers of the runner.
* `DecidesSuite` says whether the suite runs after the process of a stage, and what has to be asked
  to find that out.
* `Accounts` says of a report of a stage that it is an account of calls: what was asked and which
  processes ran in its case, that its results are what the runner handed out, and that its status is
  the outcome of the last process.
* `run_account` says it of a whole run: its processes are those of the stages that are reached, one
  stage after the other, and each of these stages has an account.

### What is load-bearing

The calls of a stage between its processes are questions (`isQuestion`), and all of them are named.
An account that only judged the answers that are there would let a run leave the suite out by not
asking.
-/

namespace QualityGate

variable {σ : Type} {ctx : RunContext σ} {stage : Stage} {suite : SecondarySuite}
  {cache : DiffCache}

/-! ### Processes among the calls -/

/-- A process that the runner was asked for, with its answer. -/
abbrev Execution := Invocation × Except PortError ProcessResult

/-- The process that a call asks for. -/
def PortCall.execution? : PortCall → Option Execution
  | execute invocation answer => some (invocation, answer)
  | _ => none

/-- The processes among some calls, in order. -/
def executions (calls : List PortCall) : List Execution := calls.filterMap PortCall.execution?

/-- The results that the runner handed out for some processes. -/
def handedOut (processes : List Execution) : List ProcessResult :=
  processes.flatMap fun process => resultsOf process.2

@[simp] theorem executions_nil : executions [] = [] := rfl

@[simp] theorem executions_append (before after : List PortCall) :
    executions (before ++ after) = executions before ++ executions after :=
  List.filterMap_append

@[simp] theorem executions_execute (invocation : Invocation)
    (answer : Except PortError ProcessResult) (calls : List PortCall) :
    executions (.execute invocation answer :: calls) = (invocation, answer) :: executions calls :=
  rfl

@[simp] theorem executions_ticks (answer : Nat) (calls : List PortCall) :
    executions (.ticks answer :: calls) = executions calls := rfl

@[simp] theorem executions_flatten (segments : List (List PortCall)) :
    executions segments.flatten = segments.flatMap executions := by
  rw [executions, List.filterMap_flatten, List.flatMap_def]
  rfl

/-- The processes among some calls are those that the calls ask for. -/
theorem mem_executions_iff {calls : List PortCall} {process : Execution} :
    process ∈ executions calls ↔ .execute process.1 process.2 ∈ calls := by
  rw [executions, List.mem_filterMap]
  constructor
  · rintro ⟨call, mem, found⟩
    cases call with
    | execute invocation answer =>
      obtain rfl := Option.some.inj found
      exact mem
    | _ => cases found
  · exact fun mem => ⟨_, mem, rfl⟩

/-- The runner answers with a result that passed. -/
def Passes (answer : Except PortError ProcessResult) : Prop :=
  ∃ result, answer = .ok result ∧ result.passed = true

theorem ProcessResult.failure?_eq_none_iff {result : ProcessResult} :
    result.failure? = none ↔ result.passed = true := by
  unfold failure? passed
  cases result.termination with
  | exited code => by_cases zero : code = 0 <;> simp [zero]
  | signaled signal => simp
  | timedOut limit => simp

theorem failureOf_eq_none_iff {answer : Except PortError ProcessResult} :
    failureOf answer = none ↔ Passes answer := by
  cases answer with
  | error error => exact ⟨nofun, fun ⟨_, same, _⟩ => nomatch same⟩
  | ok result =>
    rw [failureOf, ProcessResult.failure?_eq_none_iff]
    refine ⟨fun passed => ⟨result, rfl, passed⟩, ?_⟩
    rintro ⟨_, ⟨rfl⟩, passed⟩
    exact passed

/-! ### Questions -/

/-- Whether a call only looks something up: files, changes, or the marker. -/
def PortCall.isQuestion : PortCall → Bool
  | dirExists .. | fileExists .. | anyModifiedAfter .. | changedPaths .. | loadMarker .. => true
  | _ => false

theorem executions_of_isQuestion {calls : List PortCall}
    (questions : ∀ call ∈ calls, call.isQuestion = true) : executions calls = [] := by
  refine List.filterMap_eq_nil_iff.mpr fun call mem => ?_
  have question := questions call mem
  cases call <;> first | rfl | cases question

theorem AsksChanges.isQuestion {known : Option (List String)} {calls : List PortCall}
    (asks : AsksChanges cache known calls) : ∀ call ∈ calls, call.isQuestion = true := by
  cases asks <;> simp [PortCall.isQuestion]

theorem Gathers.isQuestion {changed : Option (List String)} {evidence : ScopeEvidence}
    {calls : List PortCall} (gathers : Gathers suite changed evidence calls) :
    ∀ call ∈ calls, call.isQuestion = true := by
  cases gathers <;> simp [PortCall.isQuestion]

theorem Selects.isQuestion {selection : FileSelection} {calls : List PortCall}
    (selects : Selects ctx stage cache selection calls) :
    ∀ call ∈ calls, call.isQuestion = true := by
  cases selects with
  | wholeTree unnarrowed => nofun
  | unknown lint narrows compiled asks => exact asks.isQuestion
  | known lint narrows compiled asks all =>
    intro call mem
    rcases List.mem_append.mp mem with asked | looked
    · exact asks.isQuestion call asked
    · rw [← List.map_uncurry_zip_eq_zipWith, List.mem_map] at looked
      obtain ⟨_, -, rfl⟩ := looked
      rfl

@[simp] theorem executions_requiredCalls (stage : Stage) :
    executions (requiredCalls stage) = [] := by
  unfold requiredCalls
  split <;> rfl

@[simp] theorem executions_trustedCalls (stage : Stage) :
    executions (trustedCalls stage) = [] := by
  unfold trustedCalls
  split <;> rfl

/-! ### Accounts of stages -/

/-- Whether a call asks for what a stage requires or whether its unit is trusted. -/
def PortCall.isGuard : PortCall → Bool
  | anyMatches .. | verify .. => true
  | _ => false

/-- The suite that runs after the process of a stage has been answered, if one does, and the calls
that decide it. -/
inductive DecidesSuite (ctx : RunContext σ) (stage : Stage) (cache : DiffCache)
    (own : Except PortError ProcessResult) : Option SecondarySuite → List PortCall → Prop where
  /-- No suite comes after the stage, or its process did not pass: nothing is asked. -/
  | unasked (without : stage.kind ≠ .test ∨ ctx.secondary = none ∨ ¬ Passes own) :
    DecidesSuite ctx stage cache own none []
  /-- The process of a test stage passed, and there is a suite: the changes are asked for unless they
  are known, then the rest of the evidence, and the evidence decides. -/
  | asked {suite changed evidence asked gathered due} (test : stage.kind = .test)
      (configured : ctx.secondary = some suite) (passes : Passes own)
      (asks : AsksChanges cache changed asked) (gathers : Gathers suite changed evidence gathered)
      (decision : due = if (evidence.decide suite).runs then some suite else none) :
    DecidesSuite ctx stage cache own due (asked ++ gathered)

/-- A report of a stage as an account of the calls that were made for the stage, when this was known
of the changes. -/
inductive Accounts (ctx : RunContext σ) (stage : Stage) (cache : DiffCache) (report : StageReport)
    (calls : List PortCall) : Prop where
  /-- What the stage requires is not there: nothing else is asked, and nothing runs. -/
  | skipped (demands : stage.requires ≠ []) (only : calls = [.anyMatches stage.requires false])
      (reports : report =
        ⟨stage.id, .skipped ("no files match " ++ ", ".intercalate stage.requires), [], none⟩)
  /-- The unit of the stage has drifted: nothing else is asked, and nothing runs. -/
  | drifted (reasons : List DriftReason) (depends : stage.hasUnit = true)
      (only : calls = requiredCalls stage ++ [.verify stage.unit (.drift reasons)])
      (reports : report = ⟨stage.id, .failed (.drift stage.unit reasons), [], none⟩)
  /-- The process of the stage runs, and that of the suite when it is due.  Before the process the
  stage asks what it looks at, and after it whether the suite is due; what comes then asks nothing
  more. -/
  | invoked {selection : FileSelection} {looked : List PortCall}
      {own : Except PortError ProcessResult} {due : Option SecondarySuite}
      {asked ending : List PortCall} {suites : List Execution}
      (selects : Selects ctx stage cache selection looked)
      (decides : DecidesSuite ctx stage (remember cache looked) own due asked)
      (inOrder : calls = requiredCalls stage ++ trustedCalls stage ++ looked
        ++ .execute (ctx.invocation stage selection) own :: (asked ++ ending))
      (decided : ∀ call ∈ ending, call.isQuestion = false ∧ call.isGuard = false)
      (processes : executions calls = (ctx.invocation stage selection, own) :: suites)
      (runs : suites.map (·.1) = due.toList.map (ctx.suiteInvocation stage))
      (named : report.stageId = stage.id) (narrowed : report.narrowedTo = selection.files?)
      (results : report.results = handedOut (executions calls))
      (succeeded : report.status = .succeeded ↔ ∀ process ∈ executions calls, Passes process.2)
      (failed : report.status ≠ .succeeded → ∃ last failure,
        (executions calls).getLast? = some last ∧ failureOf last.2 = some failure ∧
          report.status = .failed failure)
      (failing : ∀ result, report.failingResult? = some result ↔ ∃ last,
        (executions calls).getLast? = some last ∧ last.2 = .ok result ∧ result.passed = false)

/-- The results are those that the runner handed out, also when there are none. -/
theorem Accounts.results_eq {report : StageReport} {calls : List PortCall}
    (accounts : Accounts ctx stage cache report calls) :
    report.results = handedOut (executions calls) := by
  cases accounts with
  | skipped demands only reports =>
    rw [reports, only]
    rfl
  | drifted reasons depends only reports =>
    rw [reports, only, executions_append, executions_requiredCalls]
    rfl
  | invoked selects decides inOrder decided processes runs named narrowed results => exact results

/-- When every process but the last passed, the first failing result is that of the last. -/
theorem find?_handedOut {front : List Execution} {last : Execution} {result : ProcessResult}
    (passes : ∀ process ∈ front, Passes process.2) :
    (handedOut (front ++ [last])).find? (! ·.passed) = some result ↔
      ∃ process, (front ++ [last]).getLast? = some process ∧ process.2 = .ok result ∧
        result.passed = false := by
  have skip : (handedOut front).find? (! ·.passed) = none := by
    rw [List.find?_eq_none]
    intro other mem
    obtain ⟨process, mem, handed⟩ := List.mem_flatMap.mp mem
    obtain ⟨passing, same, passed⟩ := passes process mem
    rw [same] at handed
    rw [List.mem_singleton.mp handed, passed]
    decide
  have ends : (handedOut (front ++ [last])).find? (! ·.passed)
      = (resultsOf last.2).find? (! ·.passed) := by
    rw [handedOut, List.flatMap_append, List.find?_append, ← handedOut, skip]
    simp
  have only : (∃ process, (front ++ [last]).getLast? = some process ∧ process.2 = .ok result ∧
      result.passed = false) ↔ last.2 = .ok result ∧ result.passed = false := by
    simp
  rw [ends, only]
  cases last.2 with
  | error error => simp [resultsOf, Except.toOption]
  | ok other =>
    have found : (resultsOf (.ok other)).find? (! ·.passed)
        = if other.passed then none else some other := by
      cases passed : other.passed <;> simp [resultsOf, Except.toOption, passed]
    rw [found, Except.ok.injEq]
    cases passed : other.passed with
    | false =>
      simp only [Bool.false_eq_true, if_false, Option.some.injEq]
      exact ⟨fun same => ⟨same, same ▸ passed⟩, fun same => same.1⟩
    | true =>
      simp only [if_true, reduceCtorEq, false_iff, not_and]
      rintro rfl
      rw [passed]
      nofun

theorem RunContext.statusFor_eq_succeeded_iff {failure : Option Failure} :
    statusFor failure = .succeeded ↔ failure = none := by
  cases failure <;> simp [statusFor]

/-- The report of a stage whose processes ran one after the other as long as they passed. -/
theorem Accounts.of_processes {report : StageReport} {calls : List PortCall}
    {selection : FileSelection} {looked asked ending : List PortCall}
    {own : Except PortError ProcessResult} {due : Option SecondarySuite}
    {suites front : List Execution} {last : Execution}
    (selects : Selects ctx stage cache selection looked)
    (decides : DecidesSuite ctx stage (remember cache looked) own due asked)
    (inOrder : calls = requiredCalls stage ++ trustedCalls stage ++ looked
      ++ .execute (ctx.invocation stage selection) own :: (asked ++ ending))
    (decided : ∀ call ∈ ending, call.isQuestion = false ∧ call.isGuard = false)
    (processes : executions calls = (ctx.invocation stage selection, own) :: suites)
    (runs : suites.map (·.1) = due.toList.map (ctx.suiteInvocation stage))
    (ends : (ctx.invocation stage selection, own) :: suites = front ++ [last])
    (passes : ∀ process ∈ front, Passes process.2)
    (named : report.stageId = stage.id) (narrowed : report.narrowedTo = selection.files?)
    (status : report.status = RunContext.statusFor (failureOf last.2))
    (results : report.results = handedOut (executions calls)) :
    Accounts ctx stage cache report calls := by
  refine .invoked selects decides inOrder decided processes runs named narrowed results ?_ ?_ ?_
  · rw [status, RunContext.statusFor_eq_succeeded_iff, failureOf_eq_none_iff, processes, ends]
    refine ⟨fun passed process mem => ?_, fun all => all last (by simp)⟩
    rcases List.mem_append.mp mem with mem | mem
    · exact passes process mem
    · rw [List.mem_singleton.mp mem]
      exact passed
  · intro fails
    cases outcome : failureOf last.2 with
    | none =>
      rw [status, outcome] at fails
      exact absurd rfl fails
    | some failure =>
      refine ⟨last, failure, ?_, outcome, by rw [status, outcome]; rfl⟩
      rw [processes, ends, List.getLast?_concat]
  · intro result
    rw [StageReport.failingResult?, results, processes, ends, find?_handedOut passes]

/-- A suite runs after a test stage that passed when it is configured. -/
theorem DecidesSuite.of_due {own : Except PortError ProcessResult} {due : Option SecondarySuite}
    {asked : List PortCall} (decides : DecidesSuite ctx stage cache own due asked)
    (runs : due = some suite) :
    stage.kind = .test ∧ ctx.secondary = some suite ∧ Passes own := by
  cases decides with
  | unasked without => cases runs
  | asked test configured passes asks gathers decision =>
    rw [runs, eq_comm, Option.ite_none_right_eq_some] at decision
    obtain ⟨-, ⟨⟩⟩ := decision
    exact ⟨test, configured, passes⟩

theorem DecidesSuite.isQuestion {own : Except PortError ProcessResult}
    {due : Option SecondarySuite} {asked : List PortCall}
    (decides : DecidesSuite ctx stage cache own due asked) :
    ∀ call ∈ asked, call.isQuestion = true := by
  cases decides with
  | unasked without => nofun
  | asked test configured passes asks gathers decision =>
    exact List.forall_mem_append.mpr ⟨asks.isQuestion, gathers.isQuestion⟩

theorem RunContext.suiteAfter?_eq_some_iff :
    ctx.suiteAfter? stage = some suite ↔ stage.kind = .test ∧ ctx.secondary = some suite := by
  unfold suiteAfter?
  by_cases test : stage.kind = .test <;> simp [test]

@[simp] theorem executions_admitted (stage : Stage) (calls : List PortCall) :
    executions (requiredCalls stage ++ trustedCalls stage ++ calls) = executions calls := by
  simp

section Processes

variable {selection : FileSelection} {looked asked : List PortCall}
  {own : Except PortError ProcessResult} (selects : Selects ctx stage cache selection looked)
include selects

/-- The process of a stage is the first one, whatever comes after it. -/
theorem executions_started (later : List PortCall) :
    executions (requiredCalls stage ++ trustedCalls stage ++ looked
      ++ .execute (ctx.invocation stage selection) own :: later) =
        (ctx.invocation stage selection, own) :: executions later := by
  rw [List.append_assoc, executions_admitted, executions_append,
    executions_of_isQuestion selects.isQuestion, List.nil_append, executions_execute]

/-- The account of a stage after whose process no suite runs. -/
theorem accounts_alone
    (decides : DecidesSuite ctx stage (remember cache looked) own none asked) :
    Accounts ctx stage cache
      ⟨stage.id, RunContext.statusFor (failureOf own), resultsOf own, selection.files?⟩
      (requiredCalls stage ++ trustedCalls stage ++ looked
        ++ .execute (ctx.invocation stage selection) own :: asked) := by
  have processes : executions (requiredCalls stage ++ trustedCalls stage ++ looked
      ++ .execute (ctx.invocation stage selection) own :: asked) =
        [(ctx.invocation stage selection, own)] := by
    rw [executions_started selects, executions_of_isQuestion decides.isQuestion]
  refine .of_processes selects decides (by rw [List.append_nil]) (List.forall_mem_nil _) processes
    rfl (List.nil_append _).symm (List.forall_mem_nil _) rfl rfl rfl ?_
  rw [processes]
  simp [handedOut]

/-- The account of a stage after whose process the suite runs. -/
theorem accounts_followed {answer : Except PortError ProcessResult} {marks : List PortCall}
    (decides : DecidesSuite ctx stage (remember cache looked) own (some suite) asked)
    (passes : Passes own) (marking : ∀ call ∈ marks, call.isQuestion = false ∧
      call.isGuard = false ∧ call.execution? = none) :
    Accounts ctx stage cache
      ⟨stage.id, RunContext.statusFor (failureOf answer), resultsOf own ++ resultsOf answer,
        selection.files?⟩
      (requiredCalls stage ++ trustedCalls stage ++ looked
        ++ .execute (ctx.invocation stage selection) own ::
          (asked ++ .execute (ctx.suiteInvocation stage suite) answer :: marks)) := by
  have silent : executions marks = [] :=
    List.filterMap_eq_nil_iff.mpr fun call mem => (marking call mem).2.2
  have processes : executions (requiredCalls stage ++ trustedCalls stage ++ looked
      ++ .execute (ctx.invocation stage selection) own ::
        (asked ++ .execute (ctx.suiteInvocation stage suite) answer :: marks)) =
          [(ctx.invocation stage selection, own)] ++
            [(ctx.suiteInvocation stage suite, answer)] := by
    rw [executions_started selects, executions_append, executions_of_isQuestion decides.isQuestion,
      List.nil_append, executions_execute, silent]
    rfl
  refine .of_processes selects decides rfl ?_ processes rfl rfl
    (List.forall_mem_singleton.mpr passes) rfl rfl rfl ?_
  · exact List.forall_mem_cons.mpr ⟨⟨rfl, rfl⟩,
      fun call mem => ⟨(marking call mem).1, (marking call mem).2.1⟩⟩
  · rw [processes]
    simp [handedOut]

end Processes

/-- **The report of a stage is an account of its calls.** -/
theorem StageCourse.accounts {report : StageReport} {calls : List PortCall}
    (course : StageCourse ctx stage cache report calls) :
    Accounts ctx stage cache report calls := by
  cases course with
  | skipped demands => exact .skipped demands rfl rfl
  | drifted reasons depends => exact .drifted reasons depends rfl rfl
  | alone selects last =>
    refine accounts_alone selects (.unasked ?_)
    rcases last with fails | missing
    · exact Or.inr (Or.inr fun passes => fails (failureOf_eq_none_iff.mpr passes))
    · by_cases test : stage.kind = .test
      · rw [RunContext.suiteAfter?, if_pos test] at missing
        exact Or.inr (Or.inl missing)
      · exact Or.inl test
  | withSuite selects passed configured follows =>
    obtain ⟨test, secondary⟩ := RunContext.suiteAfter?_eq_some_iff.mp configured
    have passes := failureOf_eq_none_iff.mp passed
    rw [List.append_assoc, List.singleton_append]
    cases follows with
    | declined asks gathers decision =>
      rw [List.append_nil, ← passed]
      exact accounts_alone selects (.asked test secondary passes asks gathers (by simp [decision]))
    | failed asks gathers decision outcome =>
      rw [← outcome]
      refine accounts_followed selects ?_ passes nofun
      exact .asked test secondary passes asks gathers (by simp [decision])
    | passed instant saved asks gathers decision outcome =>
      rw [← outcome]
      refine accounts_followed selects ?_ passes ?_
      · exact .asked test secondary passes asks gathers (by simp [decision])
      · simp [PortCall.isQuestion, PortCall.isGuard, PortCall.execution?]

/-- A process that runs for a stage is its own or that of the suite. -/
theorem Accounts.invocation_cases {report : StageReport} {calls : List PortCall}
    (accounts : Accounts ctx stage cache report calls) {process : Execution}
    (mem : process ∈ executions calls) :
    (∃ selection, process.1 = ctx.invocation stage selection) ∨
      ∃ suite, ctx.secondary = some suite ∧ process.1 = ctx.suiteInvocation stage suite := by
  cases accounts with
  | skipped demands only reports =>
    rw [only] at mem
    cases mem
  | drifted reasons depends only reports =>
    rw [only, executions_append, executions_requiredCalls] at mem
    cases mem
  | invoked selects decides inOrder decided processes runs =>
    rw [processes] at mem
    rcases List.mem_cons.mp mem with rfl | after
    · exact Or.inl ⟨_, rfl⟩
    · have invoked := List.mem_map_of_mem (f := Prod.fst) after
      rw [runs] at invoked
      obtain ⟨suite, due, same⟩ := List.mem_map.mp invoked
      exact Or.inr ⟨suite, (decides.of_due (Option.mem_toList.mp due)).2.1, same.symm⟩

/-! ### Accounts of runs -/

namespace RunCourse

variable {scope : RunScope} {stages : List Stage} {reports : List StageReport}
  {segments : List (List PortCall)}

/-- Every stage that is reached follows its course, with what the calls before it leave in the
cache. -/
theorem courses (course : RunCourse ctx scope cache stages reports segments) {i : Nat}
    {calls : List PortCall} (reached : segments[i]? = some calls) :
    ∃ stage report, stages[i]? = some stage ∧ reports[i]? = some report ∧
      StageCourse ctx stage (remember cache (segments.take i).flatten) report calls := by
  induction course generalizing i with
  | done => cases reached
  | stopped course failed gate =>
    cases i with
    | zero =>
      obtain rfl := Option.some.inj reached
      refine ⟨_, _, rfl, rfl, ?_⟩
      rw [List.take_zero, List.flatten_nil, remember_nil]
      exact course
    | succ i => cases reached
  | next course goes later ih =>
    cases i with
    | zero =>
      obtain rfl := Option.some.inj reached
      refine ⟨_, _, rfl, rfl, ?_⟩
      rw [List.take_zero, List.flatten_nil, remember_nil]
      exact course
    | succ i =>
      obtain ⟨stage, report, selected, reported, course⟩ := ih reached
      refine ⟨stage, report, selected, reported, ?_⟩
      rw [List.take_succ_cons, List.flatten_cons, remember_append]
      exact course

/-- Every stage that is reached has an account of its calls. -/
theorem accounts (course : RunCourse ctx scope cache stages reports segments) {i : Nat}
    {calls : List PortCall} (reached : segments[i]? = some calls) :
    ∃ stage report, stages[i]? = some stage ∧ reports[i]? = some report ∧
      Accounts ctx stage (remember cache (segments.take i).flatten) report calls := by
  obtain ⟨stage, report, selected, reported, course⟩ := course.courses reached
  exact ⟨stage, report, selected, reported, course.accounts⟩

/-- All stages are reached, unless a gate stopped at the last one that was. -/
theorem reached (course : RunCourse ctx scope cache stages reports segments) :
    segments.length = stages.length ∨
      scope.isGate = true ∧ ∃ k report, segments.length = k + 1 ∧ reports[k]? = some report ∧
        report.status.isFailed = true := by
  induction course with
  | done => exact Or.inl rfl
  | stopped course failed gate => exact Or.inr ⟨gate, 0, _, rfl, rfl, failed⟩
  | next course goes later ih =>
    rcases ih with all | ⟨gate, k, report, length, reported, failed⟩
    · exact Or.inl (congrArg (· + 1) all)
    · exact Or.inr ⟨gate, k + 1, report, congrArg (· + 1) length, reported, failed⟩

theorem pending (course : RunCourse ctx scope cache stages reports segments) :
    reports.drop segments.length
      = (stages.drop segments.length).map fun stage => .pending stage.id := by
  induction course with
  | done => rfl
  | stopped course failed gate => rfl
  | next course goes later ih => exact ih

theorem pending_of_unreached (course : RunCourse ctx scope cache stages reports segments) {i : Nat}
    (selected : stages[i]? = some stage) (unreached : segments[i]? = none) :
    reports[i]? = some (.pending stage.id) := by
  have beyond : segments.length + (i - segments.length) = i :=
    Nat.add_sub_cancel' (List.getElem?_eq_none_iff.mp unreached)
  have later := congrArg (·[i - segments.length]?) course.pending
  simpa only [List.getElem?_drop, List.getElem?_map, beyond, selected, Option.map_some] using later

theorem length_le (course : RunCourse ctx scope cache stages reports segments) :
    segments.length ≤ stages.length := by
  induction course with
  | done => exact Nat.le_refl 0
  | stopped course failed gate => exact Nat.succ_le_succ (Nat.zero_le _)
  | next course goes later ih => exact Nat.succ_le_succ ih

theorem results_eq (course : RunCourse ctx scope cache stages reports segments) :
    reports.flatMap (·.results) = handedOut (segments.flatMap executions) := by
  induction course with
  | done => rfl
  | stopped course failed gate =>
    rw [List.flatMap_cons, List.flatMap_map, course.accounts.results_eq]
    simp [StageReport.pending]
  | next course goes later ih =>
    rw [List.flatMap_cons, List.flatMap_cons, course.accounts.results_eq, ih, handedOut, handedOut,
      handedOut, List.flatMap_append]

/-- Every process is that of a stage, or of the suite after one. -/
theorem invocation_cases (course : RunCourse ctx scope cache stages reports segments)
    {process : Execution} (mem : process ∈ segments.flatMap executions) :
    ∃ stage ∈ stages, (∃ selection, process.1 = ctx.invocation stage selection) ∨
      ∃ suite, ctx.secondary = some suite ∧ process.1 = ctx.suiteInvocation stage suite := by
  obtain ⟨calls, segment, mem⟩ := List.mem_flatMap.mp mem
  obtain ⟨i, reached⟩ := List.mem_iff_getElem?.mp segment
  obtain ⟨stage, report, selected, -, accounts⟩ := course.accounts reached
  exact ⟨stage, List.mem_of_getElem? selected, accounts.invocation_cases mem⟩

end RunCourse

/-- Every process of a run is that of a stage that takes part, or of the suite after one. -/
theorem RunContext.invocation_cases (ctx : RunContext σ) {stages : List Stage} {scope : RunScope}
    {state : σ} {invocation : Invocation} {answer : Except PortError ProcessResult}
    (made : .execute invocation answer ∈ ctx.trace stages scope state) :
    ∃ stage ∈ selectStages stages scope,
      (∃ selection, invocation = ctx.invocation stage selection) ∨
      ∃ suite, ctx.secondary = some suite ∧ invocation = ctx.suiteInvocation stage suite := by
  obtain ⟨segments, start, stop, shape, course, -⟩ := ctx.exists_course_of_run stages scope state
  have mem : (invocation, answer) ∈ executions (ctx.trace stages scope state) :=
    mem_executions_iff.mpr made
  rw [shape] at mem
  have found : (invocation, answer) ∈ segments.flatMap executions := by simpa using mem
  exact course.invocation_cases found

end QualityGate
