import Mathlib.Tactic.Tauto
import QualityGate.Manifest.Validation
import QualityGate.Proofs.Text.Order

/-!
# Sound manifests

Validation looks for the first thing that is wrong with a manifest.  That it finds nothing means
that the manifest is *sound*: it names a unit and at least one file, its paths are in normal form
and different, its digests have the right form, and the unit digest is the one of its entries
(`problem?_eq_none_iff`).
-/

namespace QualityGate.Manifest

/-- An entry that may stand in a manifest. -/
structure SoundEntry (algorithm : Algorithm) (entry : ManifestEntry) : Prop where
  /-- The path is in normal form. -/
  normal : Path.normalize entry.path = entry.path
  nonempty : entry.path ≠ ""
  /-- The digest has the form of one. -/
  digest : algorithm.isDigest entry.digest = true

/-- A manifest in which nothing is wrong. -/
structure Sound (manifest : Manifest) : Prop where
  unit : Text.isBlankString manifest.unit = false
  nonempty : manifest.files ≠ []
  entries : ∀ entry ∈ manifest.files, SoundEntry manifest.algorithm entry
  /-- No path stands twice. -/
  distinct : (manifest.files.map (·.path)).Nodup
  unitDigestForm : manifest.algorithm.isDigest manifest.unitDigest = true
  /-- The unit digest follows from the entries. -/
  unitDigest : ManifestEntry.unitDigest manifest.algorithm manifest.files = manifest.unitDigest

/-- A check reports nothing exactly when its condition fails and the checks after it report
nothing. -/
theorem check_eq_none_iff {condition : Prop} [Decidable condition] {problem : ManifestProblem}
    {rest : Option ManifestProblem} :
    (if condition then some problem else rest) = none ↔ ¬ condition ∧ rest = none := by
  split <;> simp_all

/-- The check of the entries goes through exactly when each is sound and its path is new. -/
theorem entryProblem?_eq_none_iff {algorithm : Algorithm} {seen : List String}
    {entries : List ManifestEntry} :
    entryProblem? algorithm seen entries = none ↔
      (∀ entry ∈ entries, SoundEntry algorithm entry) ∧
        (∀ entry ∈ entries, entry.path ∉ seen) ∧ (entries.map (·.path)).Nodup := by
  induction entries generalizing seen with
  | nil => simp [entryProblem?]
  | cons entry entries ih =>
    rw [entryProblem?, check_eq_none_iff, check_eq_none_iff, check_eq_none_iff, ih,
      List.map_cons, List.nodup_cons, List.forall_mem_cons, List.forall_mem_cons]
    have sound : SoundEntry algorithm entry ↔ ¬ (Path.normalize entry.path ≠ entry.path ∨
        entry.path.isEmpty = true) ∧ ¬ (! algorithm.isDigest entry.digest) = true := by
      refine ⟨fun h => ⟨by simp [h.normal, h.nonempty], by simp [h.digest]⟩, fun h => ?_⟩
      simp only [not_or, ne_eq, Decidable.not_not, Bool.not_eq_true, Bool.not_eq_false'] at h
      exact ⟨h.1.1, by simpa using h.1.2, h.2⟩
    rw [sound, Text.forall_notMem_cons_iff, List.contains_iff_mem]
    tauto

/-- Validation accepts exactly the sound manifests. -/
theorem problem?_eq_none_iff {manifest : Manifest} : manifest.problem? = none ↔ manifest.Sound := by
  rw [problem?, check_eq_none_iff, check_eq_none_iff]
  cases checked : entryProblem? manifest.algorithm [] manifest.files with
  | some problem =>
    -- A problem with an entry is reported, and a sound manifest has none.
    refine ⟨fun accepted => (nomatch accepted.2.2), fun sound => ?_⟩
    have passes : entryProblem? manifest.algorithm [] manifest.files = none :=
      entryProblem?_eq_none_iff.mpr ⟨sound.entries, by simp, sound.distinct⟩
    rw [checked] at passes
    cases passes
  | none =>
    obtain ⟨entries, -, distinct⟩ := entryProblem?_eq_none_iff.mp checked
    simp only [check_eq_none_iff]
    constructor
    · rintro ⟨unit, nonempty, form, digest, -⟩
      exact ⟨by simpa using unit, by simpa using nonempty, entries, distinct, by simpa using form,
        by simpa using digest⟩
    · intro sound
      exact ⟨by simp [sound.unit], by simp [sound.nonempty], by simp [sound.unitDigestForm],
        by simp [sound.unitDigest], trivial⟩

end QualityGate.Manifest
