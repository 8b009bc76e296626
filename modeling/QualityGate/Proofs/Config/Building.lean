import Mathlib.Data.List.Forall2
import QualityGate.Project.Directory
import QualityGate.Proofs.Config.Validation
import QualityGate.Proofs.Results
import QualityGate.Proofs.Run.Account
import QualityGate.Proofs.Run.Invariant

/-!
# A validated configuration can be built

Validation looks at a configuration once.  Whatever is made from its parts later on is made without
looking again: a rule set for a locale, the globs of a stage, a listing, the process of a stage.  So
each of these later constructions has to be matched by a check.

* `RuleSet.exists_build` – rules that were checked one by one build a rule set in every
  locale.
* `Config.globLists` – all lists of globs of a configuration; every one of them compiles
  (`exists_ofStrings_of_mem_globLists`).
* `Config.Buildable` – what everything downstream relies on.
* `buildable_of_validate` – validation gives all of it.

### What is load-bearing

A locale leaves rules out, and a rule that is left out is not looked at.  Validation therefore
checks the rules of every locale, and the rules of one are a sublist of those.
-/

namespace QualityGate

variable {σ : Type}

/-! ### Rules -/

namespace Rule

variable {spec : RuleSpec} {rule : Rule}

theorem id_of_ofClaim {source : String} (built : ofClaim spec source = .ok rule) :
    rule.id = spec.id := by
  obtain ⟨claim, compiled, restricted⟩ := exists_of_bind_eq_ok built
  obtain ⟨matcher, -, grouped⟩ := exists_of_bind_eq_ok compiled
  obtain ⟨_, listed, ⟨⟩⟩ := exists_of_bind_eq_ok restricted
  obtain ⟨files, -, ⟨⟩⟩ := exists_of_bind_eq_ok listed
  split at grouped
  · cases grouped
  · cases grouped
    rfl

theorem id_of_ofMatcher (built : ofMatcher spec = .ok rule) : rule.id = spec.id := by
  unfold ofMatcher at built
  -- The matcher is made in two ways, and what is made of it does not depend on the way.
  split at built
  all_goals
    obtain ⟨matcher, -, built⟩ := exists_of_bind_eq_ok built
    obtain ⟨files, -, built⟩ := exists_of_bind_eq_ok built
    obtain ⟨exempt, -, ⟨⟩⟩ := exists_of_bind_eq_ok built
    rfl

/-- A rule has the name of its specification. -/
theorem id_of_ofSpec (built : ofSpec spec = .ok rule) : rule.id = spec.id := by
  unfold ofSpec at built
  split at built
  · cases built
  · split at built
    · cases built
    · split at built
      · exact id_of_ofClaim built
      · exact id_of_ofMatcher built

end Rule

/-- The specifications of the rules that a locale does not leave out. -/
def Locale.enabled (locale : Locale) (specs : List RuleSpec) : List RuleSpec :=
  specs.filter fun spec => locale.enables spec.locales

/-- A rule is built from a specification under its name. -/
def Rule.BuiltFrom (spec : RuleSpec) (rule : Rule) : Prop :=
  Rule.ofSpec spec = .ok rule ∧ rule.id = spec.id

/-- Rules that are ready one by one build a rule set in every locale, one rule for each of those
that the locale does not leave out. -/
theorem RuleSet.exists_build {specs : List RuleSpec}
    (ready : ∀ spec ∈ specs, ∃ rule, Rule.ofSpec spec = .ok rule) (locale : Locale) :
    ∃ set, build specs locale = .ok set ∧
      List.Forall₂ Rule.BuiltFrom (locale.enabled specs) set.rules := by
  have enabled : ∀ spec ∈ locale.enabled specs, ∃ rule, Rule.ofSpec spec = .ok rule :=
    fun spec mem => ready spec (List.mem_of_mem_filter mem)
  obtain ⟨rules, built, made⟩ := exists_mapM_eq_ok enabled
  refine ⟨⟨rules⟩, ?_, made.imp fun _ _ made => ⟨made, Rule.id_of_ofSpec made⟩⟩
  rw [Locale.enabled] at built
  rw [build, built]
  rfl

/-- Rules that are built from specifications have their names. -/
theorem Rule.map_id_eq {specs : List RuleSpec} {rules : List Rule}
    (built : List.Forall₂ Rule.BuiltFrom specs rules) :
    rules.map (·.id) = specs.map (·.id) := by
  induction built with
  | nil => rfl
  | cons made _ ih => exact congrArg₂ List.cons made.2 ih

/-! ### Globs -/

/-- What a stage looks at when its globs are these. -/
def RunContext.selectionWith (ctx : RunContext σ) (stage : Stage) (globs : List Glob) :
    RunM σ FileSelection := do
  if stage.kind ≠ .lint ∨ ctx.fileScope = .full then return .fullTree
  else match ← ctx.changedPaths with
    | none => return .narrow ctx.fileScope none globs
    | some paths =>
      let existing ← liftM (m := StateM σ) (ScopeProbe.existing ctx.workspace paths)
      return .narrow ctx.fileScope (some existing) globs

/-- With globs that compile a stage is narrowed by them. -/
theorem RunContext.selection_eq (ctx : RunContext σ) {stage : Stage} {globs : List Glob}
    (compiled : Glob.ofStrings stage.files = .ok globs) :
    ctx.selection stage = ctx.selectionWith stage globs := by
  rw [selection, compiled]
  rfl

/-- With globs that compile a directory is listed exactly when its files are found. -/
theorem ProjectDirectory.exists_listMatching_iff (project : ProjectDirectory) {globs : List String}
    {compiled : List Glob} (compiles : Glob.ofStrings globs = .ok compiled) (host : Host) :
    (∃ listed, ((project.listMatching globs).run.run host).1 = .ok listed) ↔
      ∃ files, project.files host.disk = .ok files := by
  unfold listMatching
  rw [compiles]
  dsimp only
  rw [PortM.run_get_bind]
  cases project.files host.disk with
  | error cause => exact ⟨nofun, nofun⟩
  | ok files => exact ⟨fun _ => ⟨files, rfl⟩, fun _ => ⟨_, rfl⟩⟩

namespace Config

/-- All lists of globs of a configuration. -/
def globLists (config : Config) : List (List String) :=
  config.project.sources :: config.units.map (·.files)
    ++ config.stages.flatMap fun stage => [stage.files, stage.requires]

variable {config : Config}

theorem exists_ofStrings_of_mem_globLists (valid : config.validate = .ok ()) {globs : List String}
    (mem : globs ∈ config.globLists) : ∃ compiled, Glob.ofStrings globs = .ok compiled := by
  obtain ⟨units, stages, -, -, sources⟩ := validate_eq_ok_iff.mp valid
  simp only [globLists, List.mem_append, List.mem_cons, List.mem_map, List.mem_flatMap,
    List.not_mem_nil, or_false] at mem
  rcases mem with (rfl | ⟨unit, declared, rfl⟩) | ⟨stage, declared, files | requires⟩
  · exact checkGlobs_eq_ok_iff.mp sources
  · exact checkGlobs_eq_ok_iff.mp ((checkUnits_eq_ok_iff.mp units).1 unit declared)
  · obtain ⟨-, -, compiles, -⟩ :=
      checkStage_eq_ok_iff.mp ((checkStages_eq_ok_iff.mp stages).1 stage declared)
    rw [files]
    exact checkGlobs_eq_ok_iff.mp compiles
  · obtain ⟨-, -, -, compiles⟩ :=
      checkStage_eq_ok_iff.mp ((checkStages_eq_ok_iff.mp stages).1 stage declared)
    rw [requires]
    exact checkGlobs_eq_ok_iff.mp compiles

/-! ### Everything downstream -/

/-- What is made from a configuration without looking at it again can be made. -/
structure Buildable (config : Config) : Prop where
  /-- There is a rule set for every locale: one rule for each specification that the locale does not
  leave out, in order and under the name of the specification, and the names are different. -/
  rules (locale : Locale) :
    ∃ set, RuleSet.build config.rules locale = .ok set ∧
      List.Forall₂ Rule.BuiltFrom (locale.enabled config.rules) set.rules ∧
      (set.rules.map (·.id)).Nodup
  /-- All globs compile. -/
  globs : ∀ globs ∈ config.globLists, ∃ compiled, Glob.ofStrings globs = .ok compiled
  /-- In every run a stage is narrowed by its globs, which are never ignored. -/
  narrows : ∀ stage ∈ config.stages, ∃ compiled, Glob.ofStrings stage.files = .ok compiled ∧
    ∀ (σ : Type) (ctx : RunContext σ), ctx.selection stage = ctx.selectionWith stage compiled
  /-- No listing of a directory fails for a glob: it fails only when the files are not found. -/
  lists : ∀ globs ∈ config.globLists, ∀ (project : ProjectDirectory) (host : Host),
    (∃ listed, ((project.listMatching globs).run.run host).1 = .ok listed) ↔
      ∃ files, project.files host.disk = .ok files
  stageIds : (config.stages.map (·.id)).Nodup
  /-- The names of units differ even without regard to case. -/
  unitIds : (config.units.map (foldedId ·.id)).Nodup
  /-- Every process of every run has something to run. -/
  commands (σ : Type) (ctx : RunContext σ) (scope : RunScope) (state : σ)
    (invocation : Invocation) (answer : Except PortError ProcessResult) :
    ctx.secondary = config.secondary →
      .execute invocation answer ∈ ctx.trace config.stages scope state →
        Text.isBlankString invocation.command = false

theorem command_of_mem_trace (valid : config.validate = .ok ()) {ctx : RunContext σ}
    {scope : RunScope} {state : σ} {invocation : Invocation}
    {answer : Except PortError ProcessResult} (configured : ctx.secondary = config.secondary)
    (made : .execute invocation answer ∈ ctx.trace config.stages scope state) :
    Text.isBlankString invocation.command = false := by
  obtain ⟨-, stages, secondary, -, -⟩ := validate_eq_ok_iff.mp valid
  obtain ⟨stage, selected, ⟨selection, rfl⟩ | ⟨suite, some, rfl⟩⟩ := ctx.invocation_cases made
  · have declared := List.mem_of_mem_filter selected
    exact (checkStage_eq_ok_iff.mp ((checkStages_eq_ok_iff.mp stages).1 stage declared)).1
  · exact checkSecondary_eq_ok_iff.mp secondary suite (configured.symm.trans some)

/-- **A validated configuration can be built.** -/
theorem buildable_of_validate (valid : config.validate = .ok ()) : config.Buildable where
  rules locale := by
    obtain ⟨ready, -, distinct⟩ := checkRules_eq_ok_iff.mp (validate_eq_ok_iff.mp valid).2.2.2.1
    obtain ⟨set, built, made⟩ := RuleSet.exists_build ready locale
    refine ⟨set, built, made, ?_⟩
    rw [Rule.map_id_eq made]
    exact distinct.sublist (List.filter_sublist.map _)
  globs _ mem := exists_ofStrings_of_mem_globLists valid mem
  narrows stage declared := by
    have mem : stage.files ∈ config.globLists :=
      List.mem_append_right _ (List.mem_flatMap.mpr ⟨stage, declared, List.mem_cons_self⟩)
    obtain ⟨compiled, compiles⟩ := exists_ofStrings_of_mem_globLists valid mem
    exact ⟨compiled, compiles, fun σ ctx => ctx.selection_eq compiles⟩
  lists globs mem project host := by
    obtain ⟨compiled, compiles⟩ := exists_ofStrings_of_mem_globLists valid mem
    exact project.exists_listMatching_iff compiles host
  stageIds := (checkStages_eq_ok_iff.mp (validate_eq_ok_iff.mp valid).2.1).2.2
  unitIds := (checkUnits_eq_ok_iff.mp (validate_eq_ok_iff.mp valid).1).2.2
  commands _ _ _ _ _ _ configured made := command_of_mem_trace valid configured made

/-- A configuration with something of everything. -/
def various : Config where
  project := { sources := ["src/**/*.ts"] }
  stages := [
    { id := "lint", command := "eslint", kind := .lint, unit := "style",
      files := ["*.ts", "lib/"] },
    { id := "test", command := "npm", args := ["test"], kind := .test, requires := ["tests"] }]
  secondary := some { dir := "suite", command := "sh" }
  rules := [
    { id := "todo", message := "left over", terms := ["TODO"], locales := ["de"] },
    { id := "claim", message := "claimed twice", claim := some "owns (a)", files := ["src"] }]
  units := [.ofFiles "Style" [".eslintrc"], .ofFiles "docs" ["docs/*.md"]]

theorem buildable_various : various.validate = .ok () ∧ various.Buildable := by
  have valid : various.validate = .ok () := by decide +kernel
  exact ⟨valid, buildable_of_validate valid⟩

end Config

end QualityGate
