import QualityGate.Proofs.Project.Directory
import QualityGate.Proofs.Scope.Selection

/-!
# The scope of the next run

Showing the scope asks the same questions as a run and changes nothing.

* `LoadedProject.AnswersAs` – what the project answers about changes and files on a host.
* `LoadedProject.Shows` – what is shown as the scope.
* `LoadedProject.shows_narrowed` – for every lint stage the scope shows what changed-only mode makes
  of the answers.

### What is load-bearing

None of the questions changes the host (`run_gatherWith`), so the answers to all of them are those
that the host gives at the start.
-/

namespace QualityGate

variable {τ α β : Type}

/-! ### Reading -/

/-- What comes after a step that goes through. -/
theorem PortM.run_bind_of_ok {m : PortM τ α} {f : α → PortM τ β} {state next : τ} {a : α}
    (runs : m.run.run state = (.ok a, next)) :
    ((m >>= f).run).run state = (f a).run.run next := by
  rw [ExceptT.run_bind, StateT.run_bind, runs]
  rfl

/-- Steps that go through and change nothing can be taken one after the other. -/
theorem PortM.run_mapM_of_ok {f : α → PortM τ β} {g : α → β} {state : τ} {items : List α}
    (runs : ∀ item ∈ items, (f item).run.run state = (.ok (g item), state)) :
    (items.mapM f).run.run state = (.ok (items.map g), state) := by
  induction items with
  | nil => rfl
  | cons item items ih =>
    obtain ⟨first, others⟩ := List.forall_mem_cons.mp runs
    rw [List.mapM_cons, run_bind_of_ok first, run_bind_of_ok (ih others)]
    rfl

/-- A question that changes nothing can be asked of one item after the other. -/
theorem run_filterAuxM {ask : α → StateM τ Bool} {p : α → Bool} {state : τ}
    (runs : ∀ item, (ask item).run state = (p item, state)) (items kept : List α) :
    (items.filterAuxM ask kept).run state = ((items.filter p).reverse ++ kept, state) := by
  induction items generalizing kept with
  | nil => rfl
  | cons item items ih =>
    rw [List.filterAuxM, StateT.run_bind, runs]
    show (items.filterAuxM ask (cond (p item) (item :: kept) kept)).run state = _
    rw [ih, List.filter_cons]
    cases p item <;> simp

theorem run_filterM {ask : α → StateM τ Bool} {p : α → Bool} {state : τ}
    (runs : ∀ item, (ask item).run state = (p item, state)) (items : List α) :
    (items.filterM ask).run state = (items.filter p, state) := by
  rw [List.filterM, StateT.run_bind, run_filterAuxM runs]
  show (((items.filter p).reverse ++ []).reverse, state) = _
  rw [List.append_nil, List.reverse_reverse]

/-! ### Questions to a host -/

namespace Command.LoadedProject

variable {project : LoadedProject} {host : Host} {diff : Option (List String)}
  {isFile : String → Bool}

/-- What the project answers about changes and files on a host. -/
structure AnswersAs (project : LoadedProject) (host : Host) (diff : Option (List String))
    (isFile : String → Bool) : Prop where
  changes : (project.diff.changedPaths.run.run host).1.toOption = diff
  files : ∀ path, ((project.directory.workspace.fileExists path).run host).1 = isFile path

/-- Asking for the changes leaves the host as it is. -/
theorem AnswersAs.run_changedPaths (answers : project.AnswersAs host diff isFile) :
    project.probe.changedPaths.run host = (diff, host) := by
  have keeps : Keeps (· = host) project.diff.changedPaths.run :=
    project.directory.keeps_changedPaths _
  exact Prod.ext answers.changes (keeps host rfl)

/-- Asking for files leaves the host as it is. -/
theorem AnswersAs.run_existing (answers : project.AnswersAs host diff isFile)
    (paths : List String) :
    (ScopeProbe.existing project.directory.workspace paths).run host =
      (paths.filter isFile, host) :=
  run_filterM (fun path => Prod.ext (answers.files path) rfl) paths

/-- Gathering evidence leaves the host as it is. -/
theorem run_gatherWith (suite : SecondarySuite) (changed : Option (List String)) :
    ((project.probe.gatherWith suite changed).run host).2 = host := by
  have keeps : Keeps (· = host) (project.probe.gatherWith suite changed) :=
    ScopeProbe.keeps_gatherWith (Host.keeps_readFile? _) (fun _ _ _ same => same)
      (fun _ _ same => same) suite changed
  exact keeps host rfl

/-- What is shown as the scope in changed-only mode. -/
def Shows (project : LoadedProject) (host : Host) (result : ScopeResult) : Prop :=
  ∀ json, ((project.showScope json true).run.run host).1 =
    .ok (.ofResult json true result.toJson (result.human false))

/-- The lint stages are shown with what changed-only mode makes of the answers. -/
theorem shows_narrowed (answers : project.AnswersAs host diff isFile)
    (compiles : ∀ stage ∈ project.config.stages,
      ∃ globs, Glob.ofStrings stage.files = .ok globs) :
    ∃ result, project.Shows host result ∧
      result.narrowed = (project.config.stages.filter (·.kind = .lint)).map fun stage =>
        ⟨stage.id, (stage.narrowing diff isFile).files?⟩ := by
  have changed : (liftM (m := StateM Host) project.probe.changedPaths :
      PortM Host (Option (List String))).run.run host = (.ok diff, host) := by
    show (Except.ok (project.probe.changedPaths.run host).1,
      (project.probe.changedPaths.run host).2) = _
    rw [answers.run_changedPaths]
  have secondary : ∃ shown, (project.config.secondary.mapM fun suite => do
      let evidence : ScopeEvidence ← liftM (m := StateM Host) (project.probe.gatherWith suite diff)
      return (evidence, evidence.decide suite) : PortM Host _).run.run host =
        (.ok shown, host) := by
    cases project.config.secondary with
    | none => exact ⟨none, rfl⟩
    | some suite => exact ⟨_, Prod.ext rfl (run_gatherWith suite diff)⟩
  have existing : (diff.mapM fun paths => liftM (m := StateM Host)
      (ScopeProbe.existing project.directory.workspace paths) :
        PortM Host _).run.run host = (.ok (diff.map (·.filter isFile)), host) := by
    cases diff with
    | none => rfl
    | some paths =>
      show (Except.ok (some ((ScopeProbe.existing project.directory.workspace paths).run host).1),
        ((ScopeProbe.existing project.directory.workspace paths).run host).2) = _
      rw [answers.run_existing]
      rfl
  have narrowed : ((project.config.stages.filter (·.kind = .lint)).mapM fun stage => do
      let globs ← settled ofGlobError (Glob.ofStrings stage.files)
      let files := (FileSelection.narrow .changedOnly (diff.map (·.filter isFile)) globs).files?
      return (⟨stage.id, files⟩ : NarrowedStage) : PortM Host _).run.run host =
        (.ok ((project.config.stages.filter (·.kind = .lint)).map fun stage =>
          ⟨stage.id, (stage.narrowing diff isFile).files?⟩), host) := by
    refine PortM.run_mapM_of_ok fun stage mem => ?_
    obtain ⟨globs, compiled⟩ := compiles stage (List.mem_of_mem_filter mem)
    rw [compiled, Stage.narrowing_eq compiled]
    rfl
  obtain ⟨shown, secondary⟩ := secondary
  refine ⟨⟨shown, _⟩, fun json => ?_, rfl⟩
  rw [showScope, PortM.run_bind_of_ok changed, PortM.run_bind_of_ok secondary,
    PortM.run_bind_of_ok existing, if_pos rfl, PortM.run_bind_of_ok narrowed]
  rfl

end Command.LoadedProject

end QualityGate
