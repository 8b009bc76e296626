import Mathlib.Data.List.Flatten
import QualityGate.Proofs.Project.Memory
import QualityGate.Proofs.Run.Account
import QualityGate.Proofs.Run.Passage
import QualityGate.Proofs.Scope.Preview

/-!
# Narrowed runs

In changed-only mode lint stages look at what has changed.  This module says what a run makes of the
answers of its ports when these stay the same, and that showing the scope makes the same of them.

* `PortCall.AnswersAs` – a call about the changes or a file has a given answer.
* `Selects.eq_narrowing` – with given answers, what a lint stage looks at does not depend on when it
  asks.
* `RunContext.length_askings_trace` – the changes are asked for at most once in a run.
* `Config.RunsNarrowed` – what a run does for a stage and reports of it, as far as narrowing goes.
* `Config.run_narrows` – every stage of a run is narrowed so, and the scope shows the same.

### What is load-bearing

The cache holds nothing or the answer to a call, so a stage gets the same changes from the cache as
it would get by asking (`remember_of_answers`).  That nothing is asked twice is a property of the
calls and the cache together (`AsksOnce`), which is composed along a run.
-/

namespace QualityGate

variable {σ : Type} {ctx : RunContext σ} {stage : Stage} {cache : DiffCache}
  {diff : Option (List String)} {isFile : String → Bool}

/-! ### Answers that stay the same -/

/-- A call that asks for the changes or for a file has this answer. -/
def PortCall.AnswersAs (diff : Option (List String)) (isFile : String → Bool) : PortCall → Prop
  | .changedPaths answer => answer.toOption = diff
  | .fileExists path answer => answer = isFile path
  | _ => True

theorem PortCall.AnswersAs.changes_eq {call : PortCall} (answers : call.AnswersAs diff isFile)
    {known : Option (List String)} (asks : call.changes? = some known) : known = diff := by
  cases call with
  | changedPaths answer =>
    obtain rfl := Option.some.inj asks
    exact answers
  | _ => cases asks

/-- The cache holds nothing or the changes. -/
theorem remember_of_answers {calls : List PortCall}
    (answers : ∀ call ∈ calls, call.AnswersAs diff isFile) {known : Option (List String)}
    (holds : remember none calls = some known) : known = diff := by
  rw [remember, Option.none_or] at holds
  obtain ⟨call, mem, asks⟩ := List.exists_of_findSome?_eq_some holds
  exact (answers call mem).changes_eq asks

theorem AsksChanges.eq_of_answers {known : Option (List String)} {asked : List PortCall}
    (asks : AsksChanges cache known asked) (answers : ∀ call ∈ asked, call.AnswersAs diff isFile)
    (holds : ∀ known, cache = some known → known = diff) : known = diff := by
  cases asks with
  | remembered known => exact holds known rfl
  | asked answer => exact answers _ (List.mem_singleton_self _)

/-- The kept paths are those that are files. -/
theorem keptPaths_of_answers {paths : List String} {kept : List Bool}
    (all : kept.length = paths.length)
    (answers : ∀ call ∈ List.zipWith PortCall.fileExists paths kept,
      call.AnswersAs diff isFile) :
    keptPaths paths kept = paths.filter isFile := by
  induction paths generalizing kept with
  | nil => rfl
  | cons path paths ih =>
    cases kept with
    | nil => cases all
    | cons answer kept =>
      rw [List.zipWith_cons_cons, List.forall_mem_cons] at answers
      obtain ⟨rfl, others⟩ := answers
      have rest := ih (Nat.succ.inj all) others
      rw [keptPaths] at rest ⊢
      rw [List.zip_cons_cons, List.filter_cons, List.filter_cons, ← rest]
      split <;> rfl

/-! ### What a stage looks at -/

namespace Selects

variable {selection : FileSelection} {looked : List PortCall}

/-- A stage that is not to be narrowed looks at the whole tree. -/
theorem eq_fullTree (selects : Selects ctx stage cache selection looked)
    (unnarrowed : stage.kind ≠ .lint ∨ ctx.fileScope = .full) : selection = .fullTree := by
  cases selects with
  | wholeTree => rfl
  | unknown lint narrows => exact absurd (unnarrowed.resolve_left (not_not.mpr lint)) narrows
  | known lint narrows => exact absurd (unnarrowed.resolve_left (not_not.mpr lint)) narrows

/-- In changed-only mode a lint stage looks at what these answers say. -/
theorem eq_narrowing (selects : Selects ctx stage cache selection looked)
    (lint : stage.kind = .lint) (mode : ctx.fileScope = .changedOnly) {globs : List Glob}
    (compiled : Glob.ofStrings stage.files = .ok globs)
    (answers : ∀ call ∈ looked, call.AnswersAs diff isFile)
    (holds : ∀ known, cache = some known → known = diff) :
    selection = stage.narrowing diff isFile := by
  rw [Stage.narrowing_eq compiled]
  cases selects with
  | wholeTree unnarrowed =>
    rcases unnarrowed with other | full | ⟨problem, fails⟩
    · exact absurd lint other
    · rw [mode] at full
      cases full
    · rw [compiled] at fails
      cases fails
  | unknown _ _ compiled' asks =>
    obtain rfl := Except.ok.inj (compiled'.symm.trans compiled)
    rw [mode, ← asks.eq_of_answers answers holds]
    rfl
  | known _ _ compiled' asks all =>
    obtain rfl := Except.ok.inj (compiled'.symm.trans compiled)
    rw [List.forall_mem_append] at answers
    rw [mode, ← asks.eq_of_answers answers.1 holds, keptPaths_of_answers all answers.2]
    rfl

end Selects

/-! ### The changes are asked for once -/

/-- The calls that ask for the changes. -/
def askings (calls : List PortCall) : List PortCall := calls.filter (·.changes?.isSome)

/-- The changes are asked for at most once, and not when the cache holds them. -/
def AsksOnce (cache : DiffCache) (calls : List PortCall) : Prop :=
  (askings calls).length + (if cache.isSome then 1 else 0) ≤ 1

theorem isSome_remember_iff {calls : List PortCall} :
    (remember cache calls).isSome = true ↔ cache.isSome = true ∨ askings calls ≠ [] := by
  rw [remember, Option.isSome_or, Bool.or_eq_true, List.findSome?_isSome_iff, askings, ne_eq,
    List.filter_eq_nil_iff]
  simp [Option.isSome_iff_ne_none]

namespace AsksOnce

theorem of_unasked {calls : List PortCall} (unasked : ∀ call ∈ calls, call.changes? = none) :
    AsksOnce cache calls := by
  have nothing : askings calls = [] :=
    List.filter_eq_nil_iff.mpr fun call mem => by rw [unasked call mem]; decide
  rw [AsksOnce, nothing]
  split <;> decide

theorem append {first second : List PortCall} (before : AsksOnce cache first)
    (after : AsksOnce (remember cache first) second) : AsksOnce cache (first ++ second) := by
  have held : (remember cache first).isSome = true ↔ cache.isSome = true ∨ askings first ≠ [] :=
    isSome_remember_iff
  rw [AsksOnce] at *
  rw [askings, List.filter_append, List.length_append, ← askings, ← askings]
  -- Either the first part asks and the cache holds the answer afterwards, or it leaves the cache.
  by_cases asked : askings first = []
  · rw [or_iff_left (not_not.mpr asked)] at held
    simp only [held] at after
    rwa [asked, List.length_nil, Nat.zero_add]
  · rw [if_pos (held.mpr (Or.inr asked))] at after
    omega

theorem of_asksChanges {known : Option (List String)} {asked : List PortCall}
    (asks : AsksChanges cache known asked) : AsksOnce cache asked := by
  cases asks with
  | remembered known => exact of_unasked nofun
  | asked answer => exact Nat.le_refl 1

theorem of_selects {selection : FileSelection} {looked : List PortCall}
    (selects : Selects ctx stage cache selection looked) : AsksOnce cache looked := by
  cases selects with
  | wholeTree unnarrowed => exact of_unasked nofun
  | unknown lint narrows compiled asks => exact of_asksChanges asks
  | known lint narrows compiled asks all =>
    exact (of_asksChanges asks).append (of_unasked fun _ mem => RunContext.unasked_fileExists mem)

/-- Gathering evidence and running the suite ask for nothing but the changes. -/
theorem of_suiteCourse {suite : SecondarySuite} {out : List ProcessResult × Option Failure}
    {calls : List PortCall} (course : SuiteCourse ctx stage suite cache out calls) :
    AsksOnce cache calls := by
  have gathering {changed : Option (List String)} {evidence : ScopeEvidence}
      {asked gathered : List PortCall} (asks : AsksChanges cache changed asked)
      (gathers : Gathers suite changed evidence gathered) : AsksOnce cache (asked ++ gathered) :=
    (of_asksChanges asks).append (of_unasked (RunContext.unasked_of_gathers gathers))
  cases course with
  | declined asks gathers decision => exact gathering asks gathers
  | failed asks gathers decision outcome =>
    exact (gathering asks gathers).append (of_unasked (by simp [PortCall.changes?]))
  | passed instant saved asks gathers decision outcome =>
    exact (gathering asks gathers).append (of_unasked (by simp [PortCall.changes?]))

theorem of_stageCourse {report : StageReport} {calls : List PortCall}
    (course : StageCourse ctx stage cache report calls) : AsksOnce cache calls := by
  have guards : ∀ call ∈ requiredCalls stage ++ trustedCalls stage, call.changes? = none :=
    List.forall_mem_append.mpr
      ⟨RunContext.unasked_requiredCalls stage, RunContext.unasked_trustedCalls stage⟩
  have looks {selection : FileSelection} {looked : List PortCall}
      {answer : Except PortError ProcessResult}
      (selects : Selects ctx stage cache selection looked) :
      AsksOnce cache (requiredCalls stage ++ trustedCalls stage ++ looked
        ++ [.execute (ctx.invocation stage selection) answer]) := by
    refine AsksOnce.append (AsksOnce.append (of_unasked guards) ?_)
      (of_unasked (by simp [PortCall.changes?]))
    rw [remember_of_unasked guards]
    exact of_selects selects
  cases course with
  | skipped demands => exact of_unasked (by simp [PortCall.changes?])
  | drifted reasons depends =>
    exact (of_unasked (RunContext.unasked_requiredCalls stage)).append
      (of_unasked (by simp [PortCall.changes?]))
  | alone selects last => exact looks selects
  | withSuite selects passed configured follows =>
    refine (looks selects).append ?_
    rw [remember_append, remember_append, remember_of_unasked guards,
      remember_of_unasked (by simp [PortCall.changes?] :
        ∀ call ∈ [PortCall.execute _ _], call.changes? = none)]
    exact of_suiteCourse follows

theorem of_runCourse {scope : RunScope} {stages : List Stage} {reports : List StageReport}
    {segments : List (List PortCall)}
    (course : RunCourse ctx scope cache stages reports segments) :
    AsksOnce cache segments.flatten := by
  induction course with
  | done => exact of_unasked nofun
  | stopped course failed gate =>
    rw [List.flatten_cons, List.flatten_nil, List.append_nil]
    exact of_stageCourse course
  | next course goes later ih =>
    rw [List.flatten_cons]
    exact (of_stageCourse course).append ih

end AsksOnce

/-- The changes are asked for at most once in a run. -/
theorem RunContext.length_askings_trace (ctx : RunContext σ) (stages : List Stage)
    (scope : RunScope) (state : σ) : (askings (ctx.trace stages scope state)).length ≤ 1 := by
  obtain ⟨⟨start, stop, shape⟩, course⟩ := ctx.trace_eq_segments stages scope state
  have ticks : askings (ctx.trace stages scope state) =
      askings (ctx.segments stages scope state).flatten := by
    rw [shape]
    simp [askings, PortCall.changes?]
  rw [ticks]
  exact AsksOnce.of_runCourse course

/-! ### Runs -/

/-- A process is the one of a stage, on the files that its report names or else on its targets. -/
structure StartsOn (stage : Stage) (files : Option (List String)) (process : Invocation)
    (report : StageReport) : Prop where
  stageId : process.stageId = stage.id
  command : process.command = stage.command
  args : process.args = stage.args ++ files.getD stage.targets
  narrowedTo : report.narrowedTo = files

/-- What a run does for a stage and reports of it, as far as narrowing goes, when these are the changes
and these paths are files. -/
inductive Config.RunsNarrowed (config : Config) (ctx : RunContext σ) (diff : Option (List String))
    (isFile : String → Bool) (stage : Stage) (report : StageReport) (calls : List PortCall) :
    Prop where
  /-- No process is started, and no files are reported. -/
  | idle (nothing : executions calls = []) (unnarrowed : report.narrowedTo = none)
  /-- The first process is that of the stage.  In changed-only mode a lint stage is started on the
  files that it is narrowed to, and the scope shows the same; any other stage is started on its
  targets.  Whatever else is started for the stage is the suite. -/
  | started {process : Execution} {others : List Execution} {files : Option (List String)}
      (processes : executions calls = process :: others)
      (starts : StartsOn stage files process.1 report)
      (narrowed : stage.kind = .lint → ctx.fileScope = .changedOnly →
        stage.Narrowed isFile diff files ∧
          ∀ (project : Command.LoadedProject) (host : Host), project.config = config →
            project.AnswersAs host diff isFile → ∃ shown, project.Shows host shown ∧
              shown.narrowed.filter (·.stage = stage.id) = [⟨stage.id, files⟩])
      (unnarrowed : stage.kind ≠ .lint ∨ ctx.fileScope = .full → files = none)
      (suites : ∀ other ∈ others, ∃ suite, ctx.secondary = some suite ∧
        other.1 = ctx.suiteInvocation stage suite)

namespace Config

variable {config : Config}

theorem exists_ofStrings_files (valid : config.validate = .ok ())
    (declared : stage ∈ config.stages) : ∃ globs, Glob.ofStrings stage.files = .ok globs := by
  refine exists_ofStrings_of_mem_globLists valid (List.mem_append_right _ ?_)
  exact List.mem_flatMap.mpr ⟨stage, declared, List.mem_cons_self⟩

/-- The stage is the only one with its name. -/
theorem filter_id_eq (valid : config.validate = .ok ()) {stages : List Stage}
    (part : stages.Sublist config.stages) (mem : stage ∈ stages) :
    stages.filter (·.id = stage.id) = [stage] := by
  have ids : (stages.map (·.id)).Nodup :=
    (checkStages_eq_ok_iff.mp (validate_eq_ok_iff.mp valid).2.1).2.2.sublist (part.map _)
  refine List.perm_singleton.mp ((List.perm_ext_iff_of_nodup (ids.of_map.filter _)
    (List.nodup_singleton stage)).mpr fun other => ?_)
  rw [List.mem_filter, List.mem_singleton, decide_eq_true_eq]
  constructor
  · rintro ⟨otherMem, same⟩
    exact List.inj_on_of_nodup_map ids otherMem mem same
  · rintro rfl
    exact ⟨mem, rfl⟩

/-- The scope that is shown has one line for a lint stage. -/
theorem exists_shown (valid : config.validate = .ok ()) (declared : stage ∈ config.stages)
    (lint : stage.kind = .lint) {project : Command.LoadedProject} {host : Host}
    (same : project.config = config) (answers : project.AnswersAs host diff isFile) :
    ∃ shown, project.Shows host shown ∧ shown.narrowed.filter (·.stage = stage.id) =
      [⟨stage.id, (stage.narrowing diff isFile).files?⟩] := by
  subst same
  obtain ⟨shown, shows, narrowed⟩ :=
    Command.LoadedProject.shows_narrowed answers fun _ => exists_ofStrings_files valid
  have mem : stage ∈ project.config.stages.filter (·.kind = .lint) :=
    List.mem_filter.mpr ⟨declared, decide_eq_true lint⟩
  refine ⟨shown, shows, ?_⟩
  rw [narrowed, List.filter_map]
  exact congrArg _ (filter_id_eq valid List.filter_sublist mem)

/-- A stage that is reached is narrowed by the answers to its own calls and to those before it. -/
theorem runsNarrowed_of_course (valid : config.validate = .ok ())
    (declared : stage ∈ config.stages) {report : StageReport} {calls : List PortCall}
    (course : StageCourse ctx stage cache report calls)
    (answers : ∀ call ∈ calls, call.AnswersAs diff isFile)
    (holds : ∀ known, cache = some known → known = diff) :
    config.RunsNarrowed ctx diff isFile stage report calls := by
  cases course.accounts with
  | skipped demands only reports => exact .idle (by rw [only]; rfl) (by rw [reports])
  | drifted reasons depends only reports =>
    refine .idle ?_ (by rw [reports])
    rw [only, executions_append, executions_requiredCalls]
    rfl
  | @invoked selection looked own due asked ending suites selects decides inOrder decided processes
      runs named narrowedTo =>
    have starts : StartsOn stage selection.files? (ctx.invocation stage selection) report :=
      ⟨rfl, rfl, rfl, narrowedTo⟩
    refine .started processes starts (fun lint mode => ?_) (fun unnarrowed => ?_)
      fun other mem => ?_
    · obtain ⟨globs, compiled⟩ := exists_ofStrings_files valid declared
      have looks : ∀ call ∈ looked, call.AnswersAs diff isFile := by
        intro call mem
        exact answers call (by rw [inOrder]; simp [mem])
      rw [selects.eq_narrowing lint mode compiled looks holds]
      exact ⟨stage.narrowed_narrowing compiled, fun project host same shown =>
        exists_shown valid declared lint same shown⟩
    · rw [selects.eq_fullTree unnarrowed]
      rfl
    · have invoked : other.1 ∈ due.toList.map (ctx.suiteInvocation stage) := by
        rw [← runs]
        exact List.mem_map_of_mem mem
      obtain ⟨suite, isDue, same⟩ := List.mem_map.mp invoked
      exact ⟨suite, (decides.of_due (Option.mem_toList.mp isDue)).2.1, same.symm⟩

/-- **Narrowing is sound, and it is what the scope shows.**  The calls of a run are those of the
stages that it reaches, stage by stage.  When the configuration is validated and the changes and the
files stay the same during the run, every selected stage is narrowed as they say, also if it is not
reached, and the changes are asked for at most once. -/
theorem run_narrows (valid : config.validate = .ok ()) (ctx : RunContext σ) (scope : RunScope)
    (state : σ)
    (answers : ∀ call ∈ ctx.trace config.stages scope state, call.AnswersAs diff isFile) :
    let selected := selectStages config.stages scope
    let report := ((ctx.run config.stages scope).run state).1
    let segments := ctx.segments config.stages scope state
    (∃ start stop,
      ctx.trace config.stages scope state = .ticks start :: (segments.flatten ++ [.ticks stop])) ∧
    segments.length ≤ selected.length ∧
    (∀ (i : Nat) (stage : Stage), selected[i]? = some stage → ∃ stageReport,
      report.stages[i]? = some stageReport ∧
        config.RunsNarrowed ctx diff isFile stage stageReport (segments[i]?.getD [])) ∧
    (askings (ctx.trace config.stages scope state)).length ≤ 1 := by
  intro selected report segments
  obtain ⟨⟨start, stop, shape⟩, course⟩ := ctx.trace_eq_segments config.stages scope state
  refine ⟨⟨start, stop, shape⟩, course.length_le, fun i stage isSelected => ?_,
    ctx.length_askings_trace config.stages scope state⟩
  have inRun {call : PortCall} (mem : call ∈ segments.flatten) : call.AnswersAs diff isFile :=
    answers call (by rw [shape]; simp [segments, mem])
  cases reached : segments[i]? with
  | none =>
    exact ⟨_, course.pending_of_unreached isSelected reached, .idle rfl rfl⟩
  | some calls =>
    obtain ⟨other, stageReport, same, reported, ofStage⟩ := course.courses reached
    obtain rfl := Option.some.inj (isSelected.symm.trans same)
    refine ⟨stageReport, reported, ?_⟩
    refine runsNarrowed_of_course valid (List.mem_of_mem_filter (List.mem_of_getElem? isSelected))
      ofStage (fun call mem => inRun ?_) fun known holds => ?_
    · exact List.mem_flatten_of_mem (List.mem_of_getElem? reached) mem
    · refine remember_of_answers (fun call mem => inRun ?_) holds
      exact (List.take_sublist i segments).flatten.subset mem

end Config

/-! ### A project in memory -/

/-- Processes of a project in memory change no files, so the answers stay the same. -/
theorem MemoryProject.answersAs_of_mem_trace (project : MemoryProject) (stages : List Stage)
    (scope : RunScope) (secondary : Option SecondarySuite) (defaultTimeoutSecs : Nat)
    (fileScope : FileScope) {call : PortCall}
    (made : call ∈ (context scriptedGate secondary defaultTimeoutSecs fileScope).trace stages scope
      project) :
    call.AnswersAs project.diff fun path => (project.files.lookup path).isSome := by
  let seen (project : MemoryProject) := (project.files, project.diff)
  have ports := leaves_context seen (fun _ _ _ => rfl) scriptedGate secondary defaultTimeoutSecs
    fileScope (seen project)
  have gate (unit : String) : Keeps (fun state => seen state = seen project)
      (scriptedGate.verify unit) := by
    refine Keeps.bind (fun _ same => same) fun _ => Keeps.bind (fun _ same => same) fun state => ?_
    split <;> exact Keeps.pure _
  have passage := (context scriptedGate secondary defaultTimeoutSecs fileScope).passage_run stages
    scope project
  obtain ⟨state, next, same, made⟩ := passage.exists_makes_of_keeps ports gate rfl made
  obtain ⟨files, diff⟩ := Prod.mk.inj same
  cases made with
  | fileExists run =>
    obtain ⟨rfl, -⟩ := Prod.mk.inj run
    rw [PortCall.AnswersAs, ← files]
  | changedPaths run =>
    obtain ⟨rfl, -⟩ := Prod.mk.inj run
    rw [PortCall.AnswersAs, ← diff]
    obtain ⟨⟩ := state
    dsimp only
    split <;> rfl
  | _ => trivial

namespace Config

/-- A lint stage with globs and targets. -/
def lint : Stage where
  id := "lint"
  command := "eslint"
  args := ["--quiet"]
  kind := .lint
  files := ["*.ts"]
  targets := ["src"]

/-- Three lint stages that look at different files, and a test with a suite. -/
def narrowable : Config where
  stages := [lint,
    { id := "prose", command := "vale", kind := .lint, files := ["*.md"] },
    { id := "clippy", command := "cargo", kind := .lint, files := ["*.rs"], targets := ["crate"] },
    { id := "test", command := "npm", args := ["test"], kind := .test, targets := ["unit"] }]
  secondary := some { dir := "suite", command := "sh", args := ["all.sh"] }

/-- Of three changed paths one is gone. -/
def edited : MemoryProject where
  files := [("a.ts", []), ("b.md", [])]
  dirs := ["suite"]
  diff := some ["gone.ts", "b.md", "a.ts"]

/-- Two stages are narrowed, each to its own file, and two are not: for one nothing has changed, and
the other is no lint stage. -/
theorem run_narrows_edited :
    let ctx := MemoryProject.context MemoryProject.scriptedGate narrowable.secondary 60 .changedOnly
    let isFile := fun path => (edited.files.lookup path).isSome
    let report := ((ctx.run narrowable.stages .preflight).run edited).1
    let segments := ctx.segments narrowable.stages .preflight edited
    (executions (ctx.trace narrowable.stages .preflight edited)).map (·.1.args) =
      [["--quiet", "a.ts"], ["b.md"], ["crate"], ["test", "unit"], ["all.sh"]] ∧
    report.stages.map (·.narrowedTo) = [some ["a.ts"], some ["b.md"], none, none] ∧
    ∀ (i : Nat) (stage : Stage), narrowable.stages[i]? = some stage → ∃ stageReport,
      report.stages[i]? = some stageReport ∧
        narrowable.RunsNarrowed ctx edited.diff isFile stage stageReport
          (segments[i]?.getD []) := by
  intro ctx isFile report segments
  have valid : narrowable.validate = .ok () := by decide +kernel
  have answers : ∀ call ∈ ctx.trace narrowable.stages .preflight edited,
      call.AnswersAs edited.diff isFile := fun _ =>
    MemoryProject.answersAs_of_mem_trace edited narrowable.stages .preflight narrowable.secondary
      60 .changedOnly
  have narrows := (run_narrows valid ctx .preflight edited answers).2.2.1
  have all : selectStages narrowable.stages .preflight = narrowable.stages := by decide
  rw [all] at narrows
  exact ⟨by decide +kernel, by decide +kernel, narrows⟩

end Config

end QualityGate
