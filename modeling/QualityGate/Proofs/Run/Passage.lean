import QualityGate.Proofs.Run.Invariant
import QualityGate.Proofs.Run.Prefix

/-!
# The passage of a run through states

The list of calls of a run says what was answered, but not in which states.  Between the state in
which a run starts and the one that it leaves, every call takes the ports from one state to the
next.

* `RunContext.Makes` – a call is what a port answers in a state, and leads to another state.
* `RunContext.Passage` – calls made one after the other, each in the state that the one before it
  left.
* `passage_run` – the calls of a run are a passage from its first state to its last one.

### What is load-bearing

A passage splits wherever its calls do (`passage_append_iff`), so what happens between two calls of
a run is a passage again.
-/

namespace QualityGate

variable {σ α : Type}

/-- In a state a port answers as the call says, and leaves another state behind. -/
inductive RunContext.Makes (ctx : RunContext σ) : σ → PortCall → σ → Prop where
  | dirExists {before path answer after}
      (run : (ctx.workspace.dirExists path).run before = (answer, after)) :
    Makes ctx before (.dirExists path answer) after
  | fileExists {before path answer after}
      (run : (ctx.workspace.fileExists path).run before = (answer, after)) :
    Makes ctx before (.fileExists path answer) after
  | anyMatches {before globs answer after}
      (run : (ctx.workspace.anyMatches globs).run before = (answer, after)) :
    Makes ctx before (.anyMatches globs answer) after
  | anyModifiedAfter {before subtrees since answer after}
      (run : (ctx.workspace.anyModifiedAfter subtrees since).run before = (answer, after)) :
    Makes ctx before (.anyModifiedAfter subtrees since answer) after
  | changedPaths {before answer after}
      (run : ctx.diff.changedPaths.run.run before = (answer, after)) :
    Makes ctx before (.changedPaths answer) after
  | loadMarker {before answer after} (run : ctx.baseline.load.run.run before = (answer, after)) :
    Makes ctx before (.loadMarker answer) after
  | saveMarker {before instant answer after}
      (run : (ctx.baseline.save instant).run.run before = (answer, after)) :
    Makes ctx before (.saveMarker instant answer) after
  | execute {before invocation answer after}
      (run : (ctx.runner.execute invocation).run.run before = (answer, after)) :
    Makes ctx before (.execute invocation answer) after
  | verify {before unit answer after}
      (run : (ctx.drift.verify unit).run before = (answer, after)) :
    Makes ctx before (.verify unit answer) after
  | now {before answer after} (run : ctx.clock.now.run before = (answer, after)) :
    Makes ctx before (.now answer) after
  | ticks {before answer after} (run : ctx.clock.ticksMs.run before = (answer, after)) :
    Makes ctx before (.ticks answer) after

/-- Calls that are made one after the other. -/
inductive RunContext.Passage (ctx : RunContext σ) : σ → List PortCall → σ → Prop where
  | nil (state : σ) : Passage ctx state [] state
  | cons {before call middle calls after} (made : ctx.Makes before call middle)
      (later : Passage ctx middle calls after) : Passage ctx before (call :: calls) after

namespace RunContext

variable {ctx : RunContext σ} {before after : σ} {call : PortCall} {calls : List PortCall}

theorem passage_nil_iff : ctx.Passage before [] after ↔ before = after := by
  refine ⟨?_, ?_⟩
  · rintro ⟨⟩
    rfl
  · rintro rfl
    exact .nil before

theorem passage_cons_iff :
    ctx.Passage before (call :: calls) after ↔
      ∃ middle, ctx.Makes before call middle ∧ ctx.Passage middle calls after := by
  refine ⟨?_, fun ⟨middle, made, later⟩ => .cons made later⟩
  rintro (_ | ⟨made, later⟩)
  exact ⟨_, made, later⟩

/-- A passage splits wherever its calls do. -/
theorem passage_append_iff {first second : List PortCall} :
    ctx.Passage before (first ++ second) after ↔
      ∃ middle, ctx.Passage before first middle ∧ ctx.Passage middle second after := by
  induction first generalizing before with
  | nil => simp [passage_nil_iff]
  | cons call first ih =>
    simp only [List.cons_append, passage_cons_iff, ih]
    constructor
    · rintro ⟨next, made, middle, earlier, later⟩
      exact ⟨middle, ⟨next, made, earlier⟩, later⟩
    · rintro ⟨middle, ⟨next, made, earlier⟩, later⟩
      exact ⟨next, made, middle, earlier, later⟩

theorem Passage.snoc {middle : σ} (passage : ctx.Passage before calls middle)
    (made : ctx.Makes middle call after) : ctx.Passage before (calls ++ [call]) after :=
  passage_append_iff.mpr ⟨middle, passage, .cons made (.nil after)⟩

/-- Every call of a passage is made in some state. -/
theorem Passage.exists_makes (passage : ctx.Passage before calls after) (mem : call ∈ calls) :
    ∃ state next, ctx.Makes state call next := by
  obtain ⟨first, second, rfl⟩ := List.append_of_mem mem
  obtain ⟨state, -, later⟩ := passage_append_iff.mp passage
  obtain ⟨next, made, -⟩ := passage_cons_iff.mp later
  exact ⟨state, next, made⟩

/-- What every port and the drift gate keep, a call keeps. -/
theorem Makes.keeps {inv : σ → Prop} (made : ctx.Makes before call after)
    (ports : ctx.PortsKeep inv) (verify : ∀ unit, Keeps inv (ctx.drift.verify unit))
    (holds : inv before) : inv after := by
  have kept {β : Type} {answer : β} {operation : StateM σ β} (keeps : Keeps inv operation)
      (run : operation.run before = (answer, after)) : inv after := by
    have next := keeps before holds
    rwa [run] at next
  cases made with
  | dirExists run => exact kept (ports.dirExists _) run
  | fileExists run => exact kept (ports.fileExists _) run
  | anyMatches run => exact kept (ports.anyMatches _) run
  | anyModifiedAfter run => exact kept (ports.anyModifiedAfter _ _) run
  | changedPaths run => exact kept ports.changedPaths run
  | loadMarker run => exact kept ports.loadMarker run
  | saveMarker run => exact kept (ports.saveMarker _) run
  | execute run => exact kept (ports.execute _) run
  | verify run => exact kept (verify _) run
  | now run => exact kept ports.now run
  | ticks run => exact kept ports.ticks run

/-- What the ports and the gate keep holds in every state in which a call is made. -/
theorem Passage.exists_makes_of_keeps {inv : σ → Prop} (passage : ctx.Passage before calls after)
    (ports : ctx.PortsKeep inv) (verify : ∀ unit, Keeps inv (ctx.drift.verify unit))
    (holds : inv before) (mem : call ∈ calls) :
    ∃ state next, inv state ∧ ctx.Makes state call next := by
  induction passage with
  | nil => cases mem
  | cons made later ih =>
    rcases List.mem_cons.mp mem with rfl | mem
    · exact ⟨_, _, holds, made⟩
    · exact ih (made.keeps ports verify holds) mem

/-! ### Runs -/

/-- One operation more that is written down is one step more of the passage. -/
theorem keeps_passage {start : σ} {call : α → PortCall} {operation : StateM σ α}
    (makes : ∀ {before answer after}, operation.run before = (answer, after) →
      ctx.Makes before (call answer) after) :
    Keeps (fun recorded => ctx.Passage start recorded.2 recorded.1) (recording call operation) :=
  fun _ passage => passage.snoc (makes rfl)

/-- **The calls of a run are a passage** from the state in which it starts to the one that it
leaves. -/
theorem passage_run (ctx : RunContext σ) (stages : List Stage) (scope : RunScope) (state : σ) :
    ctx.Passage state (ctx.trace stages scope state) ((ctx.run stages scope).run state).2 := by
  have ports : ctx.recorded.PortsKeep fun recorded => ctx.Passage state recorded.2 recorded.1 :=
    { execute := fun _ => keeps_passage .execute
      dirExists := fun _ => keeps_passage .dirExists
      fileExists := fun _ => keeps_passage .fileExists
      anyMatches := fun _ => keeps_passage .anyMatches
      anyModifiedAfter := fun _ _ => keeps_passage .anyModifiedAfter
      changedPaths := keeps_passage .changedPaths
      loadMarker := keeps_passage .loadMarker
      saveMarker := fun _ => keeps_passage .saveMarker
      now := keeps_passage .now
      ticks := keeps_passage .ticks }
  have kept := ports.keeps_run (fun _ => keeps_passage .verify) stages scope (state, [])
    (.nil state)
  rw [run_recorded] at kept
  exact kept

end RunContext

end QualityGate
