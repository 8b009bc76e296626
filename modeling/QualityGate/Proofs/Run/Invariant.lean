import QualityGate.Proofs.Run.Recording

/-!
# Invariants of a run

A run changes the state of its ports only by calling them.  So whatever every port keeps is kept by
a run, whatever the ports answer (`keeps_run`).

* `Keeps` – a computation keeps an invariant of its state.
* `RunContext.PortsKeep` – every port of a context does, but for the drift gate, which is part of
  the project's own code and is judged apart.
* `RunContext.Leaves` – the ports leave something that can be observed of the state as it is.
* `keeps_recorded_run` – a recorded run keeps an invariant of the state together with a property of
  every call.

### What is load-bearing

The state is any state, so an invariant may also be one of the calls that were made so far, when
these are written down next to the state.
-/

namespace QualityGate

variable {τ α β : Type} {inv : τ → Prop}

/-- What comes after a look at the state. -/
theorem PortM.run_get_bind (f : τ → PortM τ α) (state : τ) :
    ((get >>= f : PortM τ α).run).run state = (f state).run.run state := rfl

/-- What comes after a step that cannot fail. -/
theorem PortM.run_lift_bind (m : StateM τ α) (f : α → PortM τ β) (state : τ) :
    ((liftM m >>= f : PortM τ β).run).run state = (f (m.run state).1).run.run (m.run state).2 := rfl

/-- A computation keeps what holds of the state. -/
def Keeps (inv : τ → Prop) (m : StateM τ α) : Prop := ∀ state, inv state → inv (m.run state).2

namespace Keeps

theorem pure (a : α) : Keeps inv (pure a : StateM τ α) := fun _ holds => holds

theorem bind {m : StateM τ α} {f : α → StateM τ β} (first : Keeps inv m)
    (later : ∀ a, Keeps inv (f a)) : Keeps inv (m >>= f) :=
  fun state holds => later _ _ (first state holds)

/-- A step that fails ends the computation, and what it kept stays kept. -/
theorem bindExcept {ε : Type} {m : ExceptT ε (StateM τ) α} {f : α → ExceptT ε (StateM τ) β}
    (first : Keeps inv m.run) (later : ∀ a, Keeps inv (f a).run) : Keeps inv (m >>= f).run := by
  rw [ExceptT.run_bind]
  refine first.bind fun answer => ?_
  cases answer with
  | error error => exact Keeps.pure _
  | ok a => exact later a

end Keeps

/-- A step of a run keeps what holds of the state of the ports, whatever the cache holds. -/
def RunKeeps (inv : τ → Prop) (m : RunM τ α) : Prop := ∀ cache, Keeps inv (m.run cache)

namespace RunKeeps

theorem pure (a : α) : RunKeeps inv (pure a : RunM τ α) := fun _ => Keeps.pure _

theorem bind {m : RunM τ α} {f : α → RunM τ β} (first : RunKeeps inv m)
    (later : ∀ a, RunKeeps inv (f a)) : RunKeeps inv (m >>= f) :=
  fun cache => (first cache).bind fun out => later out.1 out.2

theorem lift {m : StateM τ α} (keeps : Keeps inv m) : RunKeeps inv (liftM m : RunM τ α) := by
  intro cache
  show Keeps inv (m >>= fun a => Pure.pure (a, cache))
  exact keeps.bind fun a => Keeps.pure _

end RunKeeps

/-- Gathering evidence keeps what the ports keep that are asked for it. -/
theorem ScopeProbe.keeps_gatherWith {probe : ScopeProbe τ}
    (loadMarker : Keeps inv probe.baseline.load.run)
    (anyModifiedAfter : ∀ subtrees since,
      Keeps inv (probe.workspace.anyModifiedAfter subtrees since))
    (dirExists : ∀ path, Keeps inv (probe.workspace.dirExists path)) (suite : SecondarySuite)
    (changed : Option (List String)) : Keeps inv (probe.gatherWith suite changed) := by
  have marks : Keeps inv probe.marker := by
    refine loadMarker.bind fun answer => ?_
    split <;> exact Keeps.pure _
  refine marks.bind fun marker => ?_
  cases marker with
  | none =>
    refine (Keeps.pure none).bind fun newer => ?_
    exact (dirExists suite.dir).bind fun present => Keeps.pure _
  | some since =>
    refine (anyModifiedAfter suite.trackedPrefixes since).bind fun newer => ?_
    exact (dirExists suite.dir).bind fun present => Keeps.pure _

/-- Every port of a context but the drift gate keeps what holds of the state. -/
structure RunContext.PortsKeep (ctx : RunContext τ) (inv : τ → Prop) : Prop where
  execute (invocation : Invocation) : Keeps inv (ctx.runner.execute invocation).run
  dirExists (path : String) : Keeps inv (ctx.workspace.dirExists path)
  fileExists (path : String) : Keeps inv (ctx.workspace.fileExists path)
  anyMatches (globs : List String) : Keeps inv (ctx.workspace.anyMatches globs)
  anyModifiedAfter (subtrees : List String) (since : Time.Instant) :
    Keeps inv (ctx.workspace.anyModifiedAfter subtrees since)
  changedPaths : Keeps inv ctx.diff.changedPaths.run
  loadMarker : Keeps inv ctx.baseline.load.run
  saveMarker (instant : Time.Instant) : Keeps inv (ctx.baseline.save instant).run
  now : Keeps inv ctx.clock.now
  ticks : Keeps inv ctx.clock.ticksMs

/-- Every port of a context but the drift gate leaves what is observed of the state as it is. -/
def RunContext.Leaves (ctx : RunContext τ) (observe : τ → β) : Prop :=
  ∀ value, ctx.PortsKeep fun state => observe state = value

namespace RunContext.PortsKeep

variable {ctx : RunContext τ}

section Parts

variable (ports : ctx.PortsKeep inv)
include ports

theorem keeps_changedPaths : RunKeeps inv ctx.changedPaths := by
  intro cache
  cases cache with
  | some known => exact Keeps.pure _
  | none =>
    show Keeps inv (ctx.probe.changedPaths >>= fun known => pure (known, some known))
    exact (ports.changedPaths.bind fun answer => Keeps.pure _).bind fun known => Keeps.pure _

theorem keeps_existing_onto (paths kept : List String) :
    Keeps inv (paths.filterAuxM ctx.workspace.fileExists kept) := by
  induction paths generalizing kept with
  | nil => exact Keeps.pure _
  | cons path paths ih => exact (ports.fileExists path).bind fun answer => ih _

theorem keeps_existing (paths : List String) :
    Keeps inv (ScopeProbe.existing ctx.workspace paths) :=
  (ports.keeps_existing_onto paths []).bind fun _ => Keeps.pure _

theorem keeps_selection (stage : Stage) : RunKeeps inv (ctx.selection stage) := by
  unfold RunContext.selection
  split
  · exact RunKeeps.pure _
  · split
    · exact RunKeeps.pure _
    · refine ports.keeps_changedPaths.bind fun known => ?_
      cases known with
      | none => exact RunKeeps.pure _
      | some paths =>
        exact (RunKeeps.lift (ports.keeps_existing paths)).bind fun existing => RunKeeps.pure _

theorem keeps_execute (invocation : Invocation) : Keeps inv (ctx.execute invocation) := by
  refine (ports.execute invocation).bind fun answer => ?_
  cases answer <;> exact Keeps.pure _

theorem keeps_runSuite (stage : Stage) (suite : SecondarySuite) :
    Keeps inv (ctx.runSuite stage suite) := by
  refine (ports.keeps_execute _).bind fun (results, failure) => ?_
  cases failure with
  | some failure => exact Keeps.pure _
  | none =>
    exact ports.now.bind fun instant => (ports.saveMarker instant).bind fun saved => Keeps.pure _

theorem keeps_gatherWith (suite : SecondarySuite) (changed : Option (List String)) :
    Keeps inv (ctx.probe.gatherWith suite changed) :=
  ScopeProbe.keeps_gatherWith ports.loadMarker ports.anyModifiedAfter ports.dirExists suite changed

theorem keeps_runSecondary (stage : Stage) (suite : SecondarySuite) :
    RunKeeps inv (ctx.runSecondary stage suite) := by
  refine ports.keeps_changedPaths.bind fun changed => ?_
  refine (RunKeeps.lift (ports.keeps_gatherWith suite changed)).bind fun evidence => ?_
  split
  · exact RunKeeps.lift (ports.keeps_runSuite stage suite)
  · exact RunKeeps.pure _

theorem keeps_runProcesses (stage : Stage) : RunKeeps inv (ctx.runProcesses stage) := by
  refine (ports.keeps_selection stage).bind fun selection => ?_
  refine (RunKeeps.lift (ports.keeps_execute _)).bind fun (own, failure) => ?_
  cases failure with
  | some failure => exact (RunKeeps.pure ([], some failure)).bind fun out => RunKeeps.pure _
  | none =>
    cases ctx.suiteAfter? stage with
    | none => exact (RunKeeps.pure ([], none)).bind fun out => RunKeeps.pure _
    | some suite => exact (ports.keeps_runSecondary stage suite).bind fun out => RunKeeps.pure _

theorem keeps_lacksRequired (stage : Stage) : Keeps inv (ctx.lacksRequired stage) := by
  unfold RunContext.lacksRequired
  split
  · exact Keeps.pure _
  · exact (ports.anyMatches stage.requires).bind fun answer => Keeps.pure _

end Parts

section Whole

variable (ports : ctx.PortsKeep inv) (gate : ∀ unit, Keeps inv (ctx.drift.verify unit))
include ports gate

theorem keeps_runStage (stage : Stage) : RunKeeps inv (ctx.runStage stage) := by
  have asks : Keeps inv (ctx.driftOf stage) := by
    unfold RunContext.driftOf
    split
    · exact gate stage.unit
    · exact Keeps.pure _
  refine (RunKeeps.lift (ports.keeps_lacksRequired stage)).bind fun lacks => ?_
  split
  · exact RunKeeps.pure _
  · refine (RunKeeps.lift asks).bind fun status => ?_
    cases status with
    | drift reasons => exact RunKeeps.pure _
    | ok => exact ports.keeps_runProcesses stage

theorem keeps_runStages (scope : RunScope) (stages : List Stage) :
    RunKeeps inv (ctx.runStages scope stages) := by
  induction stages with
  | nil => exact RunKeeps.pure _
  | cons stage rest ih =>
    refine (ports.keeps_runStage gate stage).bind fun report => ?_
    split
    · exact RunKeeps.pure _
    · exact ih.bind fun reports => RunKeeps.pure _

/-- **A run keeps what its ports keep.** -/
theorem keeps_run (stages : List Stage) (scope : RunScope) : Keeps inv (ctx.run stages scope) := by
  refine ports.ticks.bind fun start => ?_
  refine (ports.keeps_runStages gate scope (selectStages stages scope) none).bind fun out => ?_
  exact ports.ticks.bind fun stop => Keeps.pure _

end Whole

end RunContext.PortsKeep

/-! ### Recorded runs -/

/-- What holds of the state, and of every call that was made so far. -/
def Throughout (inv : τ → Prop) (good : PortCall → Prop) (recorded : Recorded τ) : Prop :=
  inv recorded.1 ∧ ∀ call ∈ recorded.2, good call

variable {good : PortCall → Prop}

theorem keeps_recording {call : α → PortCall} {operation : StateM τ α}
    (keeps : Keeps inv operation)
    (fine : ∀ state, inv state → good (call (operation.run state).1)) :
    Keeps (Throughout inv good) (recording call operation) := by
  rintro ⟨state, calls⟩ ⟨holds, before⟩
  refine ⟨keeps state holds, fun new mem => ?_⟩
  rcases List.mem_append.mp mem with earlier | last
  · exact before new earlier
  · rw [List.mem_singleton.mp last]
    exact fine state holds

/-- Whether a call asks the drift gate. -/
def PortCall.asksGate : PortCall → Bool
  | verify .. => true
  | _ => false

/-- A recorded run keeps what the ports keep, and every call is good when those of the gate are. -/
theorem RunContext.keeps_recorded_run {ctx : RunContext τ} (ports : ctx.PortsKeep inv)
    (gate : ∀ unit, Keeps inv (ctx.drift.verify unit))
    (fine : ∀ unit state, inv state → good (.verify unit ((ctx.drift.verify unit).run state).1))
    (others : ∀ call : PortCall, call.asksGate = false → good call) (stages : List Stage)
    (scope : RunScope) : Keeps (Throughout inv good) (ctx.recorded.run stages scope) := by
  have other {α : Type} {call : α → PortCall} {operation : StateM τ α}
      (keeps : Keeps inv operation) (silent : ∀ answer, (call answer).asksGate = false) :
      Keeps (Throughout inv good) (recording call operation) :=
    keeps_recording keeps fun _ _ => others _ (silent _)
  have recorded : ctx.recorded.PortsKeep (Throughout inv good) :=
    { execute := fun invocation => other (ports.execute invocation) fun _ => rfl
      dirExists := fun path => other (ports.dirExists path) fun _ => rfl
      fileExists := fun path => other (ports.fileExists path) fun _ => rfl
      anyMatches := fun globs => other (ports.anyMatches globs) fun _ => rfl
      anyModifiedAfter := fun subtrees since =>
        other (ports.anyModifiedAfter subtrees since) fun _ => rfl
      changedPaths := other ports.changedPaths fun _ => rfl
      loadMarker := other ports.loadMarker fun _ => rfl
      saveMarker := fun instant => other (ports.saveMarker instant) fun _ => rfl
      now := other ports.now fun _ => rfl
      ticks := other ports.ticks fun _ => rfl }
  exact recorded.keeps_run (fun unit => keeps_recording (gate unit) (fine unit)) stages scope

end QualityGate
