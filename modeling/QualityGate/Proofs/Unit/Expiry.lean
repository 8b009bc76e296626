import Mathlib.Logic.Relation
import QualityGate.Proofs.Run.Gate
import QualityGate.Proofs.Unit.Generation

/-!
# An expired unit stays expired

Once the gate has found that a unit has drifted and its manifest could be deleted, the gate does not
trust the unit again until it is generated.

* `UnitVerifier.Step` – what may happen to a project that is not the generation of a unit: any
  unit is judged, verified or expired, another one is generated, anything but the stored manifests
  is edited, or there is a whole run.
* `UnitVerifier.Later` – any number of such steps.
* `expired_until_generated` – neither a run nor the gate on its own trusts an expired unit, and a
  stage with a unit only ever starts a process when its unit is fresh.

### What is load-bearing

The invariant is that there is no manifest for the unit (`Absent`).  Every step keeps it
(`absent_step`), so everything that follows later does (`absent_of_later`).
-/

namespace QualityGate

variable {σ : Type}

namespace UnitVerifier

/-- The gate has found that a unit has drifted, and its manifest could be deleted. -/
structure Expired (verifier : UnitVerifier σ) (u : String) (state : σ) : Prop where
  declared : ∃ unit, verifier.unit u = .ok unit
  named : Text.isBlankString u = false
  drifted : ∃ reasons, ((verifier.verify u).run state).1 = .drift reasons
  deleted : ((verifier.manifests.expire u).run.run
    ((verifier.status u).run.run state).2).1 = .ok ()

/-- A run with the verifier as its gate, whose other ports leave the stored manifests alone. -/
structure Guards (verifier : UnitVerifier σ) (stored : σ → String → Option String)
    (ctx : RunContext σ) : Prop where
  gate : ctx.drift = verifier.gate
  leaves : ctx.Leaves stored

/-- What may happen without the generation of a unit. -/
inductive Step (verifier : UnitVerifier σ) (stored : σ → String → Option String) (u : String) :
    σ → σ → Prop where
  | status (id : String) (state : σ) :
    Step verifier stored u state ((verifier.status id).run.run state).2
  | verify (id : String) (state : σ) :
    Step verifier stored u state ((verifier.verify id).run state).2
  | expire (id : String) (state : σ) :
    Step verifier stored u state ((verifier.expire id).run.run state).2
  | generate {id : String} (other : id ≠ u) (now : Time.Instant) (state : σ) :
    Step verifier stored u state ((verifier.generate id now).run.run state).2
  /-- Files and artifacts are edited, or anything else but the stored manifests changes. -/
  | edit {state next : σ} (untouched : stored next = stored state) :
    Step verifier stored u state next
  | run {ctx : RunContext σ} (guards : verifier.Guards stored ctx) (stages : List Stage)
    (scope : RunScope) (state : σ) :
    Step verifier stored u state ((ctx.run stages scope).run state).2

/-- What may have happened later without the generation of a unit. -/
abbrev Later (verifier : UnitVerifier σ) (stored : σ → String → Option String) (u : String) :
    σ → σ → Prop :=
  Relation.ReflTransGen (verifier.Step stored u)

variable {verifier : UnitVerifier σ} {stored : σ → String → Option String} {u : String}
  {ctx : RunContext σ}

/-- Ports that leave the stored manifests alone keep that one of them is missing. -/
theorem portsKeep_absent (leaves : ctx.Leaves stored) : ctx.PortsKeep (Absent stored u) := by
  have keeps {α : Type} {operation : StateM σ α}
      (same : ∀ contents, Keeps (fun state => stored state = contents) operation) :
      Keeps (Absent stored u) operation :=
    keeps_absent fun state => same (stored state) state rfl
  exact {
    execute := fun invocation => keeps fun contents => (leaves contents).execute invocation
    dirExists := fun path => keeps fun contents => (leaves contents).dirExists path
    fileExists := fun path => keeps fun contents => (leaves contents).fileExists path
    anyMatches := fun globs => keeps fun contents => (leaves contents).anyMatches globs
    anyModifiedAfter := fun subtrees since =>
      keeps fun contents => (leaves contents).anyModifiedAfter subtrees since
    changedPaths := keeps fun contents => (leaves contents).changedPaths
    loadMarker := keeps fun contents => (leaves contents).loadMarker
    saveMarker := fun instant => keeps fun contents => (leaves contents).saveMarker instant
    now := keeps fun contents => (leaves contents).now
    ticks := keeps fun contents => (leaves contents).ticks }

namespace Keyed

variable (keyed : verifier.Keyed stored)
include keyed

theorem absent_run (guards : verifier.Guards stored ctx) (stages : List Stage) (scope : RunScope) :
    Keeps (Absent stored u) (ctx.run stages scope) := by
  refine (portsKeep_absent guards.leaves).keeps_run (fun unit => ?_) stages scope
  rw [guards.gate]
  exact keyed.portsKeep.keeps_verify unit

/-- Nothing that may happen stores a manifest for the unit. -/
theorem absent_step {state next : σ} (step : verifier.Step stored u state next)
    (absent : Absent stored u state) : Absent stored u next := by
  cases step with
  | status id => exact keyed.portsKeep.keeps_status id state absent
  | verify id => exact keyed.portsKeep.keeps_verify id state absent
  | expire id => exact keyed.portsKeep.keeps_expire id state absent
  | generate other now => exact keyed.absent_generate other now state absent
  | edit untouched => rwa [Absent, untouched]
  | run guards stages scope => exact keyed.absent_run guards stages scope state absent

theorem absent_of_later {state later : σ} (steps : verifier.Later stored u state later)
    (absent : Absent stored u state) : Absent stored u later := by
  induction steps with
  | refl => exact absent
  | tail _ step ih => exact keyed.absent_step step ih

/-- While there is no manifest for a unit, a run does not trust it. -/
theorem withholds (guards : verifier.Guards stored ctx) (named : Text.isBlankString u = false)
    (stages : List Stage) (scope : RunScope) {state : σ} (absent : Absent stored u state) :
    ctx.Withholds stages scope state u := by
  refine RunContext.withholds_of_untrusted named fun asked => ?_
  have gateKeeps (unit : String) : Keeps (Absent stored u) (ctx.drift.verify unit) := by
    rw [guards.gate]
    exact keyed.portsKeep.keeps_verify unit
  have distrusts (unit : String) (state : σ) (absent : Absent stored u state) :
      PortCall.verify unit ((ctx.drift.verify unit).run state).1 ≠ .verify u .ok := by
    intro same
    obtain ⟨rfl, answer⟩ := PortCall.verify.inj same
    rw [guards.gate] at answer
    exact keyed.verify_ne_ok absent answer
  have others (call : PortCall) (other : call.asksGate = false) : call ≠ .verify u .ok := by
    rintro rfl
    cases other
  have throughout := RunContext.keeps_recorded_run (portsKeep_absent guards.leaves) gateKeeps
    distrusts others stages scope (state, []) ⟨absent, nofun⟩
  exact throughout.2 _ asked rfl

end Keyed

/-- **An expired unit stays expired until it is generated.**  Whatever happens after the gate has
expired a unit, short of its generation, the gate does not trust it again, neither on its own nor in
a run, and in a run no stage of the unit starts a process.  And whatever has happened before, a
stage that depends on a unit starts a process only when the unit was fresh in the state in which the
gate was asked. -/
theorem expired_until_generated (verifier : UnitVerifier σ) :
    (∀ (stored : σ → String → Option String) (u : String) (state later : σ),
      verifier.Keyed stored → verifier.Expired u state →
      verifier.Later stored u ((verifier.verify u).run state).2 later →
        (∃ reasons, ((verifier.verify u).run later).1 = .drift reasons) ∧
        ∀ (ctx : RunContext σ) (stages : List Stage) (scope : RunScope),
          verifier.Guards stored ctx → ctx.Withholds stages scope later u) ∧
    ∀ (ctx : RunContext σ) (stage : Stage) (cache : DiffCache) (state : σ),
      ctx.drift = verifier.gate → stage.hasUnit = true →
      executions (ctx.stageTrace stage cache state) ≠ [] →
        ((verifier.status stage.unit).run.run (ctx.gateState stage state)).1 = .ok .fresh := by
  refine ⟨fun stored u state later keyed expired steps => ?_, ?_⟩
  · obtain ⟨⟨unit, declared⟩, named, ⟨reasons, drifted⟩, deleted⟩ := expired
    have gone := keyed.absent_of_verify declared (by rw [drifted]; nofun) deleted
    have absent := keyed.absent_of_later steps gone
    refine ⟨?_, fun ctx stages scope guards => keyed.withholds guards named stages scope absent⟩
    cases answer : ((verifier.verify u).run later).1 with
    | ok => exact absurd answer (keyed.verify_ne_ok absent)
    | drift reasons => exact ⟨reasons, rfl⟩
  · intro ctx stage cache state gate depends starts
    obtain ⟨-, trusted⟩ := (RunContext.executions_stageTrace_ne_nil_iff depends).mp starts
    rw [gate] at trusted
    exact verify_eq_ok_iff.mp trusted

/-- A project whose manifest for a unit makes no sense. -/
def spoilt : MemoryProject where
  files := [("a", [])]
  manifests := [("u", "no manifest")]

/-- The operations on that unit, and on another one with the same file. -/
def spoiltUnits : UnitVerifier MemoryProject :=
  MemoryProject.verifier [.ofFiles "u" ["a"], .ofFiles "v" ["a"]] .sha256

/-- A run with these operations as its gate. -/
def spoiltContext : RunContext MemoryProject :=
  MemoryProject.context spoiltUnits.gate none 60 .full

/-- A stage that depends on the unit. -/
def spoiltStage : Stage where
  id := "check"
  command := "check"
  unit := "u"

/-- The project after the unit has been generated. -/
def regenerated : MemoryProject := ((spoiltUnits.generate "u" ⟨0, 0⟩).run.run spoilt).2

/-- After the unit has been generated the stage starts its process. -/
theorem executions_regenerated :
    executions (spoiltContext.stageTrace spoiltStage none regenerated) ≠ [] := by
  have named : Text.isBlankString "u" = false := by decide +kernel
  have works : ((spoiltUnits.generate "u" ⟨0, 0⟩).run.run spoilt).1.isOk = true := by
    decide +kernel
  obtain ⟨manifest, generated⟩ : ∃ manifest,
      (spoiltUnits.generate "u" ⟨0, 0⟩).run.run spoilt = (.ok manifest, regenerated) := by
    rw [regenerated]
    cases answer : ((spoiltUnits.generate "u" ⟨0, 0⟩).run.run spoilt).1 with
    | error error => rw [answer] at works; cases works
    | ok manifest => exact ⟨manifest, Prod.ext answer rfl⟩
  have maps : spoiltUnits.MapLike _ := MemoryProject.mapLike_verifier _ _
  obtain ⟨unit, files, last, declared, listed, judged⟩ :=
    maps.run_status_of_generate ⟨rfl, rfl⟩ named ⟨by decide, by decide, by decide⟩ generated
  obtain rfl : ConfigUnit.ofFiles "u" ["a"] = unit := Except.ok.inj declared
  have trusted : ((spoiltUnits.verify "u").run regenerated).1 = .ok := by
    rw [verify_eq_ok_iff, judged]
    rfl
  exact (RunContext.executions_stageTrace_ne_nil_iff (by decide +kernel)).mpr ⟨rfl, trusted⟩

/-- The unit stays expired while its file is edited, the other unit is generated and the gate runs.
Once it has been generated itself, the stage starts its process, so the unit was fresh. -/
theorem expired_until_generated_spoilt :
    (∃ later, spoiltUnits.Expired "u" spoilt ∧
      spoiltUnits.Later MemoryProject.stored "u" ((spoiltUnits.verify "u").run spoilt).2 later ∧
      later.files = [("a", [10])] ∧ later.manifests.map (·.1) = ["v"] ∧
      (∃ reasons, ((spoiltUnits.verify "u").run later).1 = .drift reasons) ∧
      spoiltContext.Withholds [spoiltStage] .diagnostics later "u") ∧
    executions (spoiltContext.stageTrace spoiltStage none regenerated) ≠ [] ∧
      ((spoiltUnits.status "u").run.run (spoiltContext.gateState spoiltStage regenerated)).1
        = .ok .fresh := by
  obtain ⟨stays, onlyFresh⟩ := expired_until_generated spoiltUnits
  refine ⟨?_, executions_regenerated,
    onlyFresh spoiltContext spoiltStage none _ rfl (by decide +kernel) executions_regenerated⟩
  have expired : spoiltUnits.Expired "u" spoilt :=
    ⟨⟨_, rfl⟩, by decide +kernel, ⟨_, rfl⟩, rfl⟩
  have keyed : spoiltUnits.Keyed MemoryProject.stored := MemoryProject.keyed_verifier _ _
  have guards : spoiltUnits.Guards MemoryProject.stored spoiltContext :=
    ⟨rfl, MemoryProject.leaves_context _ (fun _ _ _ => rfl) _ _ _ _⟩
  let first := ((spoiltUnits.verify "u").run spoilt).2
  let edited : MemoryProject := { first with files := [("a", [10])] }
  let generated := ((spoiltUnits.generate "v" ⟨0, 0⟩).run.run edited).2
  have edit : spoiltUnits.Step MemoryProject.stored "u" first edited := .edit rfl
  have steps : spoiltUnits.Later MemoryProject.stored "u" first
      ((spoiltContext.run [spoiltStage] .ci).run generated).2 :=
    ((Relation.ReflTransGen.single edit).tail (.generate (by decide) ⟨0, 0⟩ edited)).tail
      (.run guards [spoiltStage] .ci generated)
  obtain ⟨drifts, withholds⟩ := stays _ _ _ _ keyed expired steps
  refine ⟨_, expired, steps, ?_, ?_, drifts, withholds _ _ _ guards⟩
  · decide +kernel
  · decide +kernel

end UnitVerifier

end QualityGate
