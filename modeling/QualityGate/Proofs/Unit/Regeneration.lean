import QualityGate.Proofs.Manifest.Restamping
import QualityGate.Proofs.Unit.Generation

/-!
# Generating a unit again

When nothing about a unit has changed since it was generated, generating it again stores the same
digest.  Its artifact is left as it is exactly if the stamp that the first generation wrote did not
leave a line that ends with a carriage return (`run_regenerate`).
-/

namespace QualityGate

variable {σ : Type}

/-- The digest of a manifest does not depend on the time at which it is computed. -/
theorem Manifest.compute_later {read : Reader} {unit : String} {files : List String}
    {algorithm : Algorithm} {now : Time.Instant} {manifest : Manifest}
    (computes : compute read unit files algorithm now = .ok manifest) (later : Time.Instant) :
    compute read unit files algorithm later = .ok { manifest with generatedAt := later } := by
  obtain ⟨nonempty, readable, rfl⟩ := compute_eq_ok_iff.mp computes
  exact compute_eq_ok_iff.mpr ⟨nonempty, readable, rfl⟩

namespace UnitVerifier.MapLike

variable {verifier : UnitVerifier σ} {Shows : σ → ProjectView → Prop} {state : σ}
  {view : ProjectView}

/-- **When generating a unit again leaves its artifact alone.**  The second generation succeeds with
the digest of the first one, and the artifact stays as it is exactly if no line that the first stamp
kept ends with a return. -/
theorem run_regenerate (maps : verifier.MapLike Shows) (shown : Shows state view) {id : String}
    {now : Time.Instant} {manifest : Manifest} {next : σ}
    (generated : (verifier.generate id now).run.run state = (.ok manifest, next))
    (later : Time.Instant) :
    ∃ unit between again last after, verifier.unit id = .ok unit ∧ Shows next between ∧
      (verifier.generate id later).run.run next = (.ok again, last) ∧
      again.unitDigest = manifest.unitDigest ∧ Shows last after ∧
      (after.artifact unit = between.artifact unit ↔ ∀ text ∈ view.artifact unit,
        ∀ line ∈ Artifact.keptLines text.toList, line.getLast? ≠ some '\r') := by
  obtain ⟨unit, files, raw, declared, listed, computes, -, shown⟩ :=
    maps.run_generate shown generated
  obtain ⟨last, again, outcome⟩ := maps.run_generate_eq_computed shown declared later
  have sameId := id_of_unit_eq_ok declared
  subst sameId
  have computed : (view.generated unit manifest.unitDigest raw).computed verifier unit later =
      .ok { manifest with generatedAt := later } := by
    have recomputed := Manifest.compute_later computes later
    simp only [ProjectView.computed, ProjectView.generated, listed]
    exact recomputed
  rw [computed] at again outcome
  rcases outcome with ⟨⟨error, fails⟩, -⟩ | ⟨_, raw', same, -, shownLast⟩
  · cases fails
  · cases same
    refine ⟨unit, _, _, last, _, declared, shown, again, rfl, shownLast, ?_⟩
    have solid := Manifest.solid_of_compute computes
    rw [ProjectView.artifact_generated, ProjectView.artifact_generated]
    cases view.artifact unit with
    | none => simp
    | some text =>
      have stamped := Artifact.stampChars_stampChars_eq_iff solid text.toList
        manifest.unitDigest.toList
      simpa [Artifact.stamp, String.ofList_inj] using stamped

end UnitVerifier.MapLike

end QualityGate
