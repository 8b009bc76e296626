import QualityGate.Proofs.Manifest.Freshness
import QualityGate.Proofs.Unit.Operations

/-!
# The course of a generation

A generation lists the files of its unit, computes a manifest from their contents, saves it and
stamps the artifact, in this order.

* `UnitVerifier.Computes` – it has got as far as the manifest, and nothing is saved yet.
* `generate_eq_ok_iff` – one that goes through computes, saves and stamps.
-/

namespace QualityGate

variable {σ : Type}

namespace UnitVerifier

variable {verifier : UnitVerifier σ} {id : String} {now : Time.Instant} {state next : σ}

/-- From a state, the generation of a unit computes this manifest; the state is then the last
one. -/
inductive Computes (verifier : UnitVerifier σ) (id : String) (now : Time.Instant) (state : σ) :
    ConfigUnit → Manifest → σ → Prop where
  | mk {unit : ConfigUnit} {files : List String} {listed : σ} {read : Reader} {looked : σ}
      {manifest : Manifest}
      (declared : verifier.unit id = .ok unit)
      (lists : (verifier.liveFiles unit).run.run state = (.ok files, listed))
      (reads : verifier.contents.run listed = (read, looked))
      (computes : Manifest.compute read id files verifier.algorithm now = .ok manifest) :
      Computes verifier id now state unit manifest looked

/-- The manifest of a unit carries its name. -/
theorem Computes.unit_eq {unit : ConfigUnit} {manifest : Manifest} {looked : σ}
    (computes : verifier.Computes id now state unit manifest looked) : manifest.unit = id := by
  obtain ⟨-, -, -, computes⟩ := computes
  obtain ⟨-, -, rfl⟩ := Manifest.compute_eq_ok_iff.mp computes
  rfl

/-- What is left of a generation when the manifest is computed. -/
theorem Computes.run_generate {unit : ConfigUnit} {manifest : Manifest} {looked : σ}
    (computes : verifier.Computes id now state unit manifest looked) :
    (verifier.generate id now).run.run state =
      (do
        UnitM.ofPort (verifier.manifests.save manifest)
        verifier.restamp unit manifest.unitDigest
        return manifest : UnitM σ Manifest).run.run looked := by
  obtain ⟨declared, lists, reads, computed⟩ := computes
  rw [generate, UnitM.run_bind_ok (by rw [UnitM.run_liftExcept, declared]),
    UnitM.run_bind_ok lists, UnitM.run_bind_ok (by rw [UnitM.run_liftState, reads]),
    UnitM.run_bind_ok (by rw [UnitM.run_liftExcept, computed])]

/-- A generation that goes through computes a manifest, saves it, and stamps the artifact. -/
theorem generate_eq_ok_iff {manifest : Manifest} :
    (verifier.generate id now).run.run state = (.ok manifest, next) ↔
      ∃ unit looked saved, verifier.Computes id now state unit manifest looked ∧
        (verifier.manifests.save manifest).run.run looked = (.ok (), saved) ∧
        (verifier.restamp unit manifest.unitDigest).run.run saved = (.ok (), next) := by
  constructor
  · intro goes
    rw [generate] at goes
    obtain ⟨unit, first, found, goes⟩ := UnitM.run_bind_eq_ok_iff.mp goes
    obtain ⟨declared, rfl⟩ := UnitM.run_liftExcept_eq_ok_iff.mp found
    obtain ⟨files, listed, lists, goes⟩ := UnitM.run_bind_eq_ok_iff.mp goes
    obtain ⟨read, looked, reads, goes⟩ := UnitM.run_bind_eq_ok_iff.mp goes
    rw [UnitM.run_liftState] at reads
    obtain ⟨rfl, rfl⟩ := reads
    obtain ⟨computed, third, answered, goes⟩ := UnitM.run_bind_eq_ok_iff.mp goes
    obtain ⟨computes, rfl⟩ := UnitM.run_liftExcept_eq_ok_iff.mp answered
    obtain ⟨⟨⟩, saved, saves, goes⟩ := UnitM.run_bind_eq_ok_iff.mp goes
    obtain ⟨⟨⟩, last, stamps, goes⟩ := UnitM.run_bind_eq_ok_iff.mp goes
    cases goes
    exact ⟨unit, _, saved, ⟨declared, lists, rfl, computes⟩, UnitM.run_ofPort_eq_ok_iff.mp saves,
      stamps⟩
  · rintro ⟨unit, looked, saved, computes, saves, stamps⟩
    rw [computes.run_generate, UnitM.run_bind_ok (UnitM.run_ofPort_eq_ok_iff.mpr saves),
      UnitM.run_bind_ok stamps, UnitM.run_pure]

end UnitVerifier

end QualityGate
