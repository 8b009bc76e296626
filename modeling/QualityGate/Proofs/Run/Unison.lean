import Mathlib.Data.List.Forall2
import QualityGate.Proofs.Run.Gate

/-!
# Runs in unison

A run knows nothing of the world but what its ports answer.  So two runs in the same settings make
the same calls until they are answered differently, and one answer is not even listened to: whether
the marker could be saved.

* `PortCall.Alike` – two calls are the same, up to what saving the marker is answered.
* `Parts` – after calls that are alike, the same call is answered differently in two lists.
* `Together` – two computations that are written down give the same answer and make calls that are
  alike, unless they part.
* `segments_unison` – after any number of stages two runs have reported the same and made calls that
  are alike, unless they have parted.

### What is load-bearing

Computations that have parted may do anything afterwards, but they never take a call back.  That is
why `Together` speaks of new calls behind old ones, and why it composes (`Together.bind`).
-/

namespace QualityGate

variable {σ τ α β : Type}

/-! ### Calls side by side -/

namespace PortCall

/-- Two calls ask a port the same. -/
inductive AsksLike : PortCall → PortCall → Prop where
  | dirExists (path : String) (a b : Bool) : AsksLike (.dirExists path a) (.dirExists path b)
  | fileExists (path : String) (a b : Bool) : AsksLike (.fileExists path a) (.fileExists path b)
  | anyMatches (globs : List String) (a b : Bool) :
    AsksLike (.anyMatches globs a) (.anyMatches globs b)
  | listMatching (globs : List String) (a b : Except PortError (List String)) :
    AsksLike (.listMatching globs a) (.listMatching globs b)
  | anyModifiedAfter (subtrees : List String) (since : Time.Instant) (a b : Option Bool) :
    AsksLike (.anyModifiedAfter subtrees since a) (.anyModifiedAfter subtrees since b)
  | changedPaths (a b : Except PortError (List String)) :
    AsksLike (.changedPaths a) (.changedPaths b)
  | loadMarker (a b : Except PortError (Option String)) : AsksLike (.loadMarker a) (.loadMarker b)
  | saveMarker (instant : Time.Instant) (a b : Except PortError Unit) :
    AsksLike (.saveMarker instant a) (.saveMarker instant b)
  | execute (invocation : Invocation) (a b : Except PortError ProcessResult) :
    AsksLike (.execute invocation a) (.execute invocation b)
  | verify (unit : String) (a b : DriftStatus) : AsksLike (.verify unit a) (.verify unit b)
  | now (a b : Time.Instant) : AsksLike (.now a) (.now b)
  | ticks (a b : Nat) : AsksLike (.ticks a) (.ticks b)

/-- Two calls are the same, up to whether the marker could be saved. -/
inductive Alike : PortCall → PortCall → Prop where
  | same (call : PortCall) : Alike call call
  | saved (instant : Time.Instant) (a b : Except PortError Unit) :
    Alike (.saveMarker instant a) (.saveMarker instant b)

end PortCall

/-- After calls that are alike the same call is answered differently, and what it is answered
matters. -/
inductive Parts : List PortCall → List PortCall → Prop where
  | intro {before before' after after' : List PortCall} {call call' : PortCall}
    (unison : List.Forall₂ PortCall.Alike before before') (asked : call.AsksLike call')
    (differs : ¬ call.Alike call') : Parts (before ++ call :: after) (before' ++ call' :: after')

theorem Parts.single {call call' : PortCall} (asked : call.AsksLike call')
    (differs : ¬ call.Alike call') : Parts [call] [call'] := by
  show Parts ([] ++ [call]) ([] ++ [call'])
  exact .intro .nil asked differs

/-- Lists of calls that have parted stay apart. -/
theorem Parts.append {first first' : List PortCall} (parts : Parts first first')
    (later later' : List PortCall) : Parts (first ++ later) (first' ++ later') := by
  obtain ⟨unison, asked, differs⟩ := parts
  simp only [List.append_assoc, List.cons_append]
  exact .intro unison asked differs

/-- Lists of calls that part may have calls before them that are alike. -/
theorem Parts.prepend {before before' later later' : List PortCall}
    (unison : List.Forall₂ PortCall.Alike before before') (parts : Parts later later') :
    Parts (before ++ later) (before' ++ later') := by
  obtain ⟨unison', asked, differs⟩ := parts
  simp only [← List.append_assoc]
  exact .intro (List.rel_append unison unison') asked differs

/-! ### Computations side by side -/

/-- Two computations that are written down give the same answer and make calls that are alike,
unless they part. -/
def Together (m : StateM (Recorded σ) α) (m' : StateM (Recorded τ) α) : Prop :=
  ∀ state calls state' calls', ∃ new new',
    (m.run (state, calls)).2.2 = calls ++ new ∧ (m'.run (state', calls')).2.2 = calls' ++ new' ∧
      ((m.run (state, calls)).1 = (m'.run (state', calls')).1 ∧
          List.Forall₂ PortCall.Alike new new' ∨
        Parts new new')

namespace Together

variable {m : StateM (Recorded σ) α} {m' : StateM (Recorded τ) α} {f : α → StateM (Recorded σ) β}
  {f' : α → StateM (Recorded τ) β}

theorem pure (a : α) : Together (pure a : StateM (Recorded σ) α) (pure a : StateM (Recorded τ) α) :=
  fun _ _ _ _ => ⟨[], [], (List.append_nil _).symm, (List.append_nil _).symm, Or.inl ⟨rfl, .nil⟩⟩

/-- A port is asked the same on both sides, and its answer matters. -/
theorem recording {call : α → PortCall} {operation : StateM σ α} {operation' : StateM τ α}
    (asked : ∀ a b, (call a).AsksLike (call b)) (matters : ∀ {a b}, (call a).Alike (call b) → a = b) :
    Together (recording call operation) (recording call operation') := by
  intro state calls state' calls'
  refine ⟨[call (operation.run state).1], [call (operation'.run state').1], rfl, rfl, ?_⟩
  by_cases same : (operation.run state).1 = (operation'.run state').1
  · refine Or.inl ⟨same, ?_⟩
    rw [same]
    exact .cons (.same _) .nil
  · exact Or.inr (.single (asked _ _) fun alike => same (matters alike))

/-- Whether the marker could be saved does not matter when it is not looked at. -/
theorem saving (instant : Time.Instant) {operation : StateM σ (Except PortError Unit)}
    {operation' : StateM τ (Except PortError Unit)} (a : α) :
    Together (QualityGate.recording (.saveMarker instant) operation >>= fun _ => Pure.pure a)
      (QualityGate.recording (.saveMarker instant) operation' >>= fun _ => Pure.pure a) := by
  intro state calls state' calls'
  exact ⟨_, _, rfl, rfl, Or.inl ⟨rfl, .cons (.saved instant _ _) .nil⟩⟩

/-- Of two computations one after the other the second ones have to go together for every answer of
the first: when the first ones part, nothing is known of what comes after them but that it adds its
calls to theirs. -/
theorem bind (head : Together m m') (tail : ∀ a, Together (f a) (f' a)) :
    Together (m >>= f) (m' >>= f') := by
  intro state calls state' calls'
  obtain ⟨new, new', made, made', goes⟩ := head state calls state' calls'
  have run : (m >>= f).run (state, calls)
      = (f (m.run (state, calls)).1).run (m.run (state, calls)).2 := rfl
  have run' : (m' >>= f').run (state', calls')
      = (f' (m'.run (state', calls')).1).run (m'.run (state', calls')).2 := rfl
  rw [run, run']
  generalize m.run (state, calls) = out at *
  generalize m'.run (state', calls') = out' at *
  obtain ⟨a, next, before⟩ := out
  obtain ⟨a', next', before'⟩ := out'
  obtain rfl : before = calls ++ new := made
  obtain rfl : before' = calls' ++ new' := made'
  rcases goes with ⟨rfl, unison⟩ | parts
  · obtain ⟨later, later', made, made', goes⟩ := tail a next (calls ++ new) next' (calls' ++ new')
    refine ⟨new ++ later, new' ++ later', made.trans (List.append_assoc _ _ _),
      made'.trans (List.append_assoc _ _ _), ?_⟩
    exact goes.imp (fun ⟨same, after⟩ => ⟨same, List.rel_append unison after⟩)
      fun parts => parts.prepend unison
  · obtain ⟨later, -, made, -, -⟩ := tail a next (calls ++ new) next' (calls' ++ new')
    obtain ⟨-, later', -, made', -⟩ := tail a' next (calls ++ new) next' (calls' ++ new')
    exact ⟨new ++ later, new' ++ later', made.trans (List.append_assoc _ _ _),
      made'.trans (List.append_assoc _ _ _), Or.inr (parts.append later later')⟩

end Together

/-- Two steps of a run go together, whatever the cache holds. -/
def RunTogether (m : RunM (Recorded σ) α) (m' : RunM (Recorded τ) α) : Prop :=
  ∀ cache, Together (m.run cache) (m'.run cache)

namespace RunTogether

variable {m : RunM (Recorded σ) α} {m' : RunM (Recorded τ) α} {f : α → RunM (Recorded σ) β}
  {f' : α → RunM (Recorded τ) β}

theorem pure (a : α) : RunTogether (pure a : RunM (Recorded σ) α) (pure a : RunM (Recorded τ) α) :=
  fun cache => Together.pure (a, cache)

theorem bind (head : RunTogether m m') (tail : ∀ a, RunTogether (f a) (f' a)) :
    RunTogether (m >>= f) (m' >>= f') :=
  fun cache => (head cache).bind fun out => tail out.1 out.2

theorem lift {m : StateM (Recorded σ) α} {m' : StateM (Recorded τ) α} (together : Together m m') :
    RunTogether (liftM m : RunM (Recorded σ) α) (liftM m' : RunM (Recorded τ) α) := by
  intro cache
  show Together (m >>= fun a => Pure.pure (a, cache)) (m' >>= fun a => Pure.pure (a, cache))
  exact together.bind fun a => Together.pure (a, cache)

end RunTogether

/-! ### Stages side by side -/

namespace RunContext

/-- Two contexts with the same settings, whatever their ports are. -/
structure SameSettings (ctx : RunContext σ) (other : RunContext τ) : Prop where
  root : other.workspace.root = ctx.workspace.root
  secondary : other.secondary = ctx.secondary
  defaultTimeoutSecs : other.defaultTimeoutSecs = ctx.defaultTimeoutSecs
  fileScope : other.fileScope = ctx.fileScope

variable (ctx : RunContext σ) (other : RunContext τ)

theorem together_execute (invocation : Invocation) :
    Together (ctx.recorded.execute invocation) (other.recorded.execute invocation) := by
  refine (Together.recording (.execute invocation) fun | .same _ => rfl).bind fun answer => ?_
  cases answer <;> exact Together.pure _

theorem together_lacksRequired (stage : Stage) :
    Together (ctx.recorded.lacksRequired stage) (other.recorded.lacksRequired stage) := by
  unfold lacksRequired
  split
  · exact Together.pure _
  · exact (Together.recording (.anyMatches _) fun | .same _ => rfl).bind fun _ => Together.pure _

theorem together_driftOf (stage : Stage) :
    Together (ctx.recorded.driftOf stage) (other.recorded.driftOf stage) := by
  unfold driftOf
  split
  · exact Together.recording (.verify stage.unit) fun | .same _ => rfl
  · exact Together.pure _

theorem together_changedPaths :
    RunTogether ctx.recorded.changedPaths other.recorded.changedPaths := by
  intro cache
  cases cache with
  | some known => exact Together.pure _
  | none =>
    show Together (ctx.recorded.probe.changedPaths >>= fun known => pure (known, some known))
      (other.recorded.probe.changedPaths >>= fun known => pure (known, some known))
    have asks : Together ctx.recorded.probe.changedPaths other.recorded.probe.changedPaths :=
      (Together.recording .changedPaths fun | .same _ => rfl).bind fun _ => Together.pure _
    exact asks.bind fun known => Together.pure _

theorem together_existing_onto (paths kept : List String) :
    Together (paths.filterAuxM ctx.recorded.workspace.fileExists kept)
      (paths.filterAuxM other.recorded.workspace.fileExists kept) := by
  induction paths generalizing kept with
  | nil => exact Together.pure _
  | cons path paths ih =>
    exact (Together.recording (.fileExists path) fun | .same _ => rfl).bind fun answer => ih _

theorem together_existing (paths : List String) :
    Together (ScopeProbe.existing ctx.recorded.workspace paths)
      (ScopeProbe.existing other.recorded.workspace paths) :=
  (ctx.together_existing_onto other paths []).bind fun _ => Together.pure _

theorem together_gatherWith (suite : SecondarySuite) (changed : Option (List String)) :
    Together (ctx.recorded.probe.gatherWith suite changed)
      (other.recorded.probe.gatherWith suite changed) := by
  have marks : Together ctx.recorded.probe.marker other.recorded.probe.marker := by
    refine (Together.recording .loadMarker fun | .same _ => rfl).bind fun answer => ?_
    split <;> exact Together.pure _
  have present (path : String) : Together (ctx.recorded.workspace.dirExists path)
      (other.recorded.workspace.dirExists path) :=
    Together.recording (.dirExists path) fun | .same _ => rfl
  refine marks.bind fun marker => ?_
  cases marker with
  | none => exact (Together.pure none).bind fun _ => (present suite.dir).bind fun _ => Together.pure _
  | some since =>
    refine (Together.recording (.anyModifiedAfter _ since) fun | .same _ => rfl).bind fun newer => ?_
    exact (present suite.dir).bind fun _ => Together.pure _

section Settings

variable {ctx : RunContext σ} {other : RunContext τ} (same : ctx.SameSettings other)
include same

theorem suiteInvocation_eq (stage : Stage) (suite : SecondarySuite) :
    other.recorded.suiteInvocation stage suite = ctx.recorded.suiteInvocation stage suite := by
  simp only [suiteInvocation, recorded, same.root, same.defaultTimeoutSecs]

theorem invocation_eq (stage : Stage) (selection : FileSelection) :
    other.recorded.invocation stage selection = ctx.recorded.invocation stage selection := by
  simp only [invocation, recorded, same.root, same.defaultTimeoutSecs]

theorem suiteAfter?_eq (stage : Stage) :
    other.recorded.suiteAfter? stage = ctx.recorded.suiteAfter? stage := by
  simp only [suiteAfter?, recorded, same.secondary]

theorem together_runSuite (stage : Stage) (suite : SecondarySuite) :
    Together (ctx.recorded.runSuite stage suite) (other.recorded.runSuite stage suite) := by
  unfold runSuite
  rw [suiteInvocation_eq same]
  refine (ctx.together_execute other _).bind fun (results, failure) => ?_
  cases failure with
  | some failure => exact Together.pure _
  | none =>
    exact (Together.recording .now fun | .same _ => rfl).bind fun instant =>
      Together.saving instant (results, none)

theorem together_selection (stage : Stage) :
    RunTogether (ctx.recorded.selection stage) (other.recorded.selection stage) := by
  unfold selection
  rw [recorded_fileScope, recorded_fileScope, same.fileScope]
  split
  · exact RunTogether.pure _
  · split
    · exact RunTogether.pure _
    · refine (ctx.together_changedPaths other).bind fun known => ?_
      cases known with
      | none => exact RunTogether.pure _
      | some paths =>
        exact (RunTogether.lift (ctx.together_existing other paths)).bind fun _ =>
          RunTogether.pure _

theorem together_runSecondary (stage : Stage) (suite : SecondarySuite) :
    RunTogether (ctx.recorded.runSecondary stage suite)
      (other.recorded.runSecondary stage suite) := by
  refine (ctx.together_changedPaths other).bind fun changed => ?_
  refine (RunTogether.lift (ctx.together_gatherWith other suite changed)).bind fun evidence => ?_
  split
  · exact RunTogether.lift (together_runSuite same stage suite)
  · exact RunTogether.pure _

theorem together_runProcesses (stage : Stage) :
    RunTogether (ctx.recorded.runProcesses stage) (other.recorded.runProcesses stage) := by
  unfold runProcesses
  rw [suiteAfter?_eq same]
  refine (together_selection same stage).bind fun selection => ?_
  rw [invocation_eq same]
  refine (RunTogether.lift (ctx.together_execute other _)).bind fun (own, failure) => ?_
  cases failure with
  | some failure => exact (RunTogether.pure ([], some failure)).bind fun _ => RunTogether.pure _
  | none =>
    cases ctx.recorded.suiteAfter? stage with
    | none => exact (RunTogether.pure ([], none)).bind fun _ => RunTogether.pure _
    | some suite =>
      exact (together_runSecondary same stage suite).bind fun _ => RunTogether.pure _

/-- A stage goes together with the same stage in other circumstances. -/
theorem together_runStage (stage : Stage) :
    RunTogether (ctx.recorded.runStage stage) (other.recorded.runStage stage) := by
  refine (RunTogether.lift (ctx.together_lacksRequired other stage)).bind fun lacks => ?_
  split
  · exact RunTogether.pure _
  · refine (RunTogether.lift (ctx.together_driftOf other stage)).bind fun status => ?_
    cases status with
    | drift reasons => exact RunTogether.pure _
    | ok => exact together_runProcesses same stage

end Settings

/-! ### Runs side by side -/

section Settings

variable {ctx : RunContext σ} {other : RunContext τ} (same : ctx.SameSettings other)
include same

/-- A stage in two circumstances, with the same in the cache. -/
theorem stage_unison (stage : Stage) (cache : DiffCache) (recorded : Recorded σ)
    (recorded' : Recorded τ) :
    let out := ((ctx.recorded.runStage stage).run cache).run recorded
    let out' := ((other.recorded.runStage stage).run cache).run recorded'
    let new := out.2.2.drop recorded.2.length
    let new' := out'.2.2.drop recorded'.2.length
    out.1 = out'.1 ∧ List.Forall₂ PortCall.Alike new new' ∨ Parts new new' := by
  intro out out' new new'
  obtain ⟨calls, calls', made, made', goes⟩ :=
    together_runStage same stage cache recorded.1 recorded.2 recorded'.1 recorded'.2
  have added : new = calls := (congrArg (List.drop recorded.2.length) made).trans List.drop_left
  have added' : new' = calls' := (congrArg (List.drop recorded'.2.length) made').trans List.drop_left
  rw [added, added']
  exact goes

theorem segmentsFrom_unison (scope : RunScope) (stages : List Stage) (cache : DiffCache)
    (recorded : Recorded σ) (recorded' : Recorded τ) (k : Nat) :
    let reports := (((ctx.recorded.runStages scope stages).run cache).run recorded).1.1
    let reports' := (((other.recorded.runStages scope stages).run cache).run recorded').1.1
    let calls := ((ctx.segmentsFrom scope stages cache recorded).take k).flatten
    let calls' := ((other.segmentsFrom scope stages cache recorded').take k).flatten
    reports.take k = reports'.take k ∧ List.Forall₂ PortCall.Alike calls calls' ∨
      Parts calls calls' := by
  dsimp only
  induction stages generalizing cache recorded recorded' k with
  | nil => exact Or.inl ⟨rfl, by simp [segmentsFrom]⟩
  | cons stage rest ih =>
    cases k with
    | zero => exact Or.inl ⟨rfl, .nil⟩
    | succ k =>
      rw [run_runStages_cons, run_runStages_cons, segmentsFrom, segmentsFrom]
      simp only [List.take_succ_cons, List.flatten_cons]
      have unison := stage_unison same stage cache recorded recorded'
      dsimp only at unison
      generalize ((ctx.recorded.runStage stage).run cache).run recorded = out at *
      generalize ((other.recorded.runStage stage).run cache).run recorded' = out' at *
      rcases unison with ⟨equal, unison⟩ | parts
      · -- The reports are the same, so either both runs go on or both stop.
        rw [← equal]
        split
        · exact Or.inl ⟨rfl, by simpa using unison⟩
        · rcases ih out.1.2 out.2 out'.2 k with ⟨reports, later⟩ | parts
          · refine Or.inl ⟨?_, List.rel_append unison later⟩
            rw [List.take_succ_cons, List.take_succ_cons, reports]
          · exact Or.inr (parts.prepend unison)
      · exact Or.inr (parts.append _ _)

/-- **Two runs in the same settings go together until an answer that matters parts them.**  After
any number of stages they have reported the same and made calls that are alike, unless they have
parted. -/
theorem segments_unison (stages : List Stage) (scope : RunScope) (state : σ) (state' : τ) (k : Nat) :
    let reports := ((ctx.run stages scope).run state).1.stages
    let reports' := ((other.run stages scope).run state').1.stages
    let calls := ((ctx.segments stages scope state).take k).flatten
    let calls' := ((other.segments stages scope state').take k).flatten
    reports.take k = reports'.take k ∧ List.Forall₂ PortCall.Alike calls calls' ∨
      Parts calls calls' := by
  have stagesOf {ρ : Type} (ctx : RunContext ρ) (state : ρ) :
      (((ctx.recorded.runStages scope (selectStages stages scope)).run none).run
        (ctx.recorded.clock.ticksMs.run (state, [])).2).1.1 =
          ((ctx.run stages scope).run state).1.stages :=
    congrArg (fun result => result.1.stages) (ctx.run_recorded stages scope state)
  have unison := segmentsFrom_unison same scope (selectStages stages scope) none
    (ctx.recorded.clock.ticksMs.run (state, [])).2 (other.recorded.clock.ticksMs.run (state', [])).2 k
  rw [stagesOf, stagesOf] at unison
  exact unison

end Settings

end RunContext

end QualityGate
