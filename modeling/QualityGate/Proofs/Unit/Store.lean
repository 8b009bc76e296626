import QualityGate.Proofs.Manifest.Freshness
import QualityGate.Proofs.Unit.Operations

/-!
# Units without a manifest

What the operations of a verifier do to the stored manifests when any port may fail.

* `UnitVerifier.Keyed` – the store has one entry for a unit, its operations touch no other entry,
  and nothing else touches the store.
* `Keyed.portsKeep`, `Keyed.absent_generate` – a unit without a manifest stays without one, unless
  it is generated itself.
* `Keyed.verify_ne_ok` – the gate does not trust it.

### What is load-bearing

A port that fails may still have done its work or not, so the laws say what an operation can have
done at most.  Only two answers are relied on: a manifest that is loaded is the stored one, and one
that is reported as deleted is gone.
-/

namespace QualityGate

variable {σ : Type}

/-- The stored manifests are kept by unit, and touched by the operations of the store alone. -/
structure UnitVerifier.Keyed (verifier : UnitVerifier σ) (stored : σ → String → Option String) :
    Prop where
  list (globs : List String) (state : σ) :
    stored ((verifier.workspace.listMatching globs).run.run state).2 = stored state
  contents (state : σ) : stored (verifier.contents.run state).2 = stored state
  read (path : String) (state : σ) :
    stored ((verifier.artifacts.read path).run.run state).2 = stored state
  write (path text : String) (state : σ) :
    stored ((verifier.artifacts.write path text).run.run state).2 = stored state
  remove (path : String) (state : σ) :
    stored ((verifier.artifacts.remove path).run.run state).2 = stored state
  load (unit : String) (state : σ) :
    stored ((verifier.manifests.load unit).run.run state).2 = stored state
  /-- What is loaded is what is stored. -/
  loaded (unit : String) (state : σ) (raw : Option String) :
    ((verifier.manifests.load unit).run.run state).1 = .ok raw → raw = stored state unit
  save (manifest : Manifest) (state : σ) (other : String) : other ≠ manifest.unit →
    stored ((verifier.manifests.save manifest).run.run state).2 other = stored state other
  expire (unit : String) (state : σ) (other : String) : other ≠ unit →
    stored ((verifier.manifests.expire unit).run.run state).2 other = stored state other
  /-- Deleting writes nothing. -/
  expireOwn (unit : String) (state : σ) : stored state unit = none →
    stored ((verifier.manifests.expire unit).run.run state).2 unit = none
  /-- What is reported as deleted is gone. -/
  expired (unit : String) (state : σ) :
    ((verifier.manifests.expire unit).run.run state).1 = .ok () →
      stored ((verifier.manifests.expire unit).run.run state).2 unit = none

/-- A unit without a stored manifest is expired. -/
theorem UnitEvidence.status_ne_fresh_of_stored_eq_none {evidence : UnitEvidence}
    (missing : evidence.stored = none) (read : Reader) (algorithm : Algorithm) :
    evidence.status read algorithm ≠ .fresh := by
  have drift : evidence.drift read algorithm = (.drift [.missing], none) := by
    rw [UnitEvidence.drift, missing]
    rfl
  rw [UnitEvidence.status, drift]
  nofun

namespace UnitVerifier

variable {verifier : UnitVerifier σ} {stored : σ → String → Option String} {u : String}

/-- There is no manifest for the unit. -/
def Absent (stored : σ → String → Option String) (u : String) (state : σ) : Prop :=
  stored state u = none

/-! ### What the gate does -/

/-- Judging a unit, and expiring it unless it is fresh. -/
theorem run_verify (verifier : UnitVerifier σ) (id : String) (state : σ) :
    (verifier.verify id).run state =
      match (verifier.status id).run.run state with
      | (.ok .fresh, next) => (.ok, next)
      | (.ok (.expired reasons), next) =>
        (.drift reasons, ((verifier.expire id).run.run next).2)
      | (.error error, next) =>
        (.drift [.malformed error.message], ((verifier.expire id).run.run next).2) := by
  unfold verify
  rw [StateT.run_bind]
  obtain ⟨answer, next⟩ := (verifier.status id).run.run state
  cases answer with
  | error error => rfl
  | ok status => cases status <;> rfl

/-- The gate trusts exactly the units that are fresh. -/
theorem verify_eq_ok_iff {id : String} {state : σ} :
    ((verifier.verify id).run state).1 = .ok ↔
      ((verifier.status id).run.run state).1 = .ok .fresh := by
  rw [run_verify]
  split
  · next judged => simp [judged]
  · next judged => simp [judged]
  · next judged => simp [judged]

/-- A unit that is not trusted is expired. -/
theorem run_verify_of_ne_ok {id : String} {state : σ}
    (drifted : ((verifier.verify id).run state).1 ≠ .ok) :
    ((verifier.verify id).run state).2 =
      ((verifier.expire id).run.run ((verifier.status id).run.run state).2).2 := by
  rw [run_verify] at drifted ⊢
  split
  · next judged =>
    rw [judged] at drifted
    exact absurd rfl drifted
  · next judged => rw [judged]
  · next judged => rw [judged]

/-! ### What is kept -/

/-- What leaves the store alone stores nothing for the unit. -/
theorem keeps_absent {α : Type} {operation : StateM σ α}
    (same : ∀ state, stored (operation.run state).2 = stored state) :
    Keeps (Absent stored u) operation := by
  intro state absent
  rw [Absent, same]
  exact absent

namespace Keyed

variable (keyed : verifier.Keyed stored)
include keyed

theorem absent_expire_store (id : String) :
    Keeps (Absent stored u) (verifier.manifests.expire id).run := by
  intro state absent
  by_cases same : u = id
  · subst same
    exact keyed.expireOwn u state absent
  · exact (keyed.expire id state u same).trans absent

/-- Judging and expiring units stores nothing. -/
theorem portsKeep : verifier.PortsKeep (Absent stored u) where
  list globs := keeps_absent (keyed.list globs)
  contents := keeps_absent keyed.contents
  read path := keeps_absent (keyed.read path)
  remove path := keeps_absent (keyed.remove path)
  load unit := keeps_absent (keyed.load unit)
  expire := keyed.absent_expire_store

theorem absent_restamp (unit : ConfigUnit) (digest : String) :
    Keeps (Absent stored u) (verifier.restamp unit digest).run := by
  refine Keeps.bindExcept (keyed.portsKeep.keeps_artifactText unit) fun text => ?_
  split
  · exact UnitM.keeps_ofPort (keeps_absent (keyed.write _ _))
  · exact UnitM.keeps_pure _

/-- Generating another unit stores nothing for this one. -/
theorem absent_generate {id : String} (other : id ≠ u) (now : Time.Instant) :
    Keeps (Absent stored u) (verifier.generate id now).run := by
  refine UnitM.keeps_liftExcept_bind fun unit declared => ?_
  refine Keeps.bindExcept (keyed.portsKeep.keeps_liveFiles unit) fun files => ?_
  refine Keeps.bindExcept (UnitM.keeps_liftState (keeps_absent keyed.contents)) fun read => ?_
  refine UnitM.keeps_liftExcept_bind fun manifest computed => ?_
  refine Keeps.bindExcept (UnitM.keeps_ofPort fun state absent => ?_) fun _ => ?_
  · have named : manifest.unit = id := by
      obtain ⟨-, -, rfl⟩ := Manifest.compute_eq_ok_iff.mp computed
      rfl
    rw [Absent, keyed.save manifest state u (by rw [named]; exact other.symm)]
    exact absent
  · exact Keeps.bindExcept (keyed.absent_restamp unit _) fun _ => UnitM.keeps_pure _

/-- A unit without a manifest is not fresh, whatever fails. -/
theorem status_ne_fresh {state : σ} (absent : Absent stored u state) :
    ((verifier.status u).run.run state).1 ≠ .ok .fresh := by
  intro fresh
  have judged : (verifier.status u).run.run state
      = (.ok .fresh, ((verifier.status u).run.run state).2) := Prod.ext fresh rfl
  rw [status] at judged
  obtain ⟨unit, first, declared, judged⟩ := UnitM.run_bind_eq_ok_iff.mp judged
  rw [UnitM.run_liftExcept] at declared
  obtain ⟨-, rfl⟩ := Prod.mk.inj declared
  obtain ⟨files, second, listed, judged⟩ := UnitM.run_bind_eq_ok_iff.mp judged
  have stillAbsent : Absent stored u second := by
    have kept := keyed.portsKeep.keeps_liveFiles unit state absent
    rwa [listed] at kept
  obtain ⟨raw, third, loaded, judged⟩ := UnitM.run_bind_eq_ok_iff.mp judged
  have nothing : raw = none := by
    have answer := congrArg Prod.fst loaded
    rw [UnitM.run_ofPort] at answer
    exact (keyed.loaded u second raw (mapError_eq_ok_iff.mp answer)).trans stillAbsent
  obtain ⟨text, fourth, -, judged⟩ := UnitM.run_bind_eq_ok_iff.mp judged
  obtain ⟨read, fifth, -, judged⟩ := UnitM.run_bind_eq_ok_iff.mp judged
  have result := congrArg Prod.fst judged
  rw [nothing] at result
  exact UnitEvidence.status_ne_fresh_of_stored_eq_none rfl read verifier.algorithm
    (Except.ok.inj result)

/-- The gate does not trust a unit without a manifest. -/
theorem verify_ne_ok {state : σ} (absent : Absent stored u state) :
    ((verifier.verify u).run state).1 ≠ .ok :=
  fun trusted => keyed.status_ne_fresh absent (verify_eq_ok_iff.mp trusted)

/-- A unit that is not trusted has no manifest any more when that could be deleted. -/
theorem absent_of_verify {unit : ConfigUnit} {state : σ} (declared : verifier.unit u = .ok unit)
    (drifted : ((verifier.verify u).run state).1 ≠ .ok)
    (deleted : ((verifier.manifests.expire u).run.run
      ((verifier.status u).run.run state).2).1 = .ok ()) :
    Absent stored u ((verifier.verify u).run state).2 := by
  rw [run_verify_of_ne_ok drifted]
  obtain ⟨next, judged⟩ : ∃ next, ((verifier.status u).run.run state).2 = next := ⟨_, rfl⟩
  rw [judged] at deleted ⊢
  have gone := keyed.expired u next deleted
  have step : (UnitM.ofPort (verifier.manifests.expire u)).run.run next =
      (.ok (), ((verifier.manifests.expire u).run.run next).2) := by
    rw [UnitM.run_ofPort, deleted]
    rfl
  rw [UnitVerifier.expire, UnitM.run_bind_ok (by rw [UnitM.run_liftExcept, declared]),
    UnitM.run_bind_ok step]
  split
  · rw [UnitM.run_ofPort, Absent, keyed.remove]
    exact gone
  · exact gone

end Keyed

end UnitVerifier

end QualityGate
