import QualityGate.Proofs.Digest.Form
import QualityGate.Proofs.Manifest.Artifact
import QualityGate.Proofs.Project.Memory

/-!
# Generating a unit makes it fresh

After a unit has been generated, nothing is wrong with it but the sections that its artifact had
more than once before (`status_of_generate`).

### What is load-bearing

* The manifest that was computed is sound, it is read back from what the store keeps for it, and it
  is accepted for the files it was computed from.
* The artifact carries the digest of that manifest in its only stamp, and its titles are what they
  were.
* The status tells the sections of an artifact apart from everything else
  (`DriftReason.isDuplicateSection`), because nothing that is said of a manifest is about sections.
-/

namespace QualityGate

variable {σ : Type}

/-- Why a unit is expired. -/
def UnitStatus.reasons : UnitStatus → List DriftReason
  | fresh => []
  | expired reasons => reasons

@[simp] theorem UnitStatus.reasons_ofReasons (reasons : List DriftReason) :
    (UnitStatus.ofReasons reasons).reasons = reasons := by
  cases reasons <;> rfl

/-! ### Reasons about sections -/

namespace Manifest

theorem noSections_unreadableOf (read : Reader) (paths : List String) :
    NoSections (unreadableOf read paths) := by
  refine noSections_iff.mpr fun reason mem => ?_
  obtain ⟨path, -, found⟩ := List.mem_filterMap.mp mem
  split at found
  · cases found
  · cases found
    rfl

theorem noSections_aboutPaths {reason : List String → DriftReason} (paths : List String)
    (other : (reason paths).isDuplicateSection = false) : NoSections (aboutPaths reason paths) := by
  unfold aboutPaths
  split
  · rfl
  · simp [NoSections, other]

theorem noSections_differences (stored : List ManifestEntry) (live : List String)
    (entries : List ManifestEntry) : NoSections (differences stored live entries) :=
  ((noSections_aboutPaths _ rfl).append (noSections_aboutPaths _ rfl)).append
    (noSections_aboutPaths _ rfl)

/-- The digest of a manifest that was computed has no blanks. -/
theorem solid_of_compute {read : Reader} {unit : String} {files : List String}
    {algorithm : Algorithm} {now : Time.Instant} {manifest : Manifest}
    (computes : compute read unit files algorithm now = .ok manifest) :
    ∀ c ∈ manifest.unitDigest.toList, Text.isBlank c = false := by
  obtain ⟨-, -, rfl⟩ := compute_eq_ok_iff.mp computes
  intro c mem
  exact Algorithm.isBlank_of_isDigest (Algorithm.isDigest_digest _ _) mem

/-- Nothing that a comparison finds is about sections. -/
theorem noSections_checkDrift (stored : Manifest) (files : List String) (read : Reader)
    (expected : Algorithm) : NoSections (stored.checkDrift files read expected).reasons := by
  unfold checkDrift
  split
  · rfl
  · split
    · rfl
    · simp only
      split
      · rfl
      · split
        · rfl
        · exact (noSections_unreadableOf _ _).append (noSections_differences _ _ _)

end Manifest

theorem UnitEvidence.noSections_drift (evidence : UnitEvidence) (read : Reader)
    (algorithm : Algorithm) : NoSections (evidence.drift read algorithm).1.reasons := by
  unfold UnitEvidence.drift
  split
  · rfl
  · rfl
  · next manifest _ =>
    split
    · rfl
    · have reasons := manifest.noSections_checkDrift evidence.files read algorithm
      split
      · rfl
      · next found => rwa [found] at reasons

/-! ### The status of a generated unit -/

/-- What a status says of sections is what the artifact shows. -/
theorem UnitEvidence.filter_reasons_status (evidence : UnitEvidence) (read : Reader)
    (algorithm : Algorithm) :
    (evidence.status read algorithm).reasons.filter DriftReason.isDuplicateSection =
      evidence.artifact.elim [] fun text =>
        Artifact.duplicateSections text.toList evidence.sections := by
  rw [UnitEvidence.status, UnitStatus.reasons_ofReasons, List.filter_append,
    evidence.noSections_drift]
  cases evidence.artifact with
  | none => rfl
  | some text => exact Artifact.filter_check text evidence.sections _

/-- A stored manifest that is accepted gives its digest. -/
theorem UnitEvidence.drift_of_accepted {evidence : UnitEvidence} {read : Reader}
    {algorithm : Algorithm} {raw : String} {manifest : Manifest}
    (stored : evidence.stored = some raw) (parsed : Manifest.parse raw = .ok manifest)
    (same : manifest.unit = evidence.unit)
    (accepted : manifest.checkDrift evidence.files read algorithm = .ok) :
    evidence.drift read algorithm = (.ok, some manifest.unitDigest) := by
  rw [UnitEvidence.drift, stored, Option.map_some, parsed]
  simp [same, accepted]

theorem ProjectView.artifact_generated (view : ProjectView) (unit : ConfigUnit)
    (digest raw : String) :
    (view.generated unit digest raw).artifact unit =
      (view.artifact unit).map fun text => Artifact.stamp text digest := by
  unfold ProjectView.generated
  cases context : unit.context with
  | none => simp [ProjectView.artifact, context]
  | some path => cases known : view.artifacts path <;> simp [ProjectView.artifact, context, known]

/-- The manifest of a unit that has just been generated is accepted. -/
theorem ProjectView.drift_generated {view : ProjectView} {verifier : UnitVerifier σ}
    {unit : ConfigUnit} {files : List String} {now : Time.Instant} {manifest : Manifest}
    {raw : String} (named : Text.isBlankString unit.id = false) (ordinary : now.Ordinary)
    (computes : Manifest.compute view.contents unit.id files verifier.algorithm now = .ok manifest)
    (stored : manifest.StoredText raw) (artifact : Option String) (sections : List String) :
    UnitEvidence.drift ⟨unit.id, (view.generated unit manifest.unitDigest raw).manifests unit.id,
      files, artifact, sections⟩ view.contents verifier.algorithm =
        (.ok, some manifest.unitDigest) := by
  obtain ⟨nonempty, readable, same⟩ := Manifest.compute_eq_ok_iff.mp computes
  have sound : manifest.Sound := same ▸ Manifest.sound_ofReadable named nonempty readable
  have accepted : manifest.checkDrift files view.contents verifier.algorithm = .ok :=
    same ▸ Manifest.checkDrift_ofReadable named nonempty readable fun _ _ => Iff.rfl
  have unitName : manifest.unit = unit.id := same ▸ rfl
  have instant : manifest.generatedAt.Ordinary := same ▸ ordinary
  have read := Manifest.parse_of_storedText sound instant stored
  have known : (view.generated unit manifest.unitDigest raw).manifests unit.id = Option.some raw :=
    Function.update_self ..
  rw [known]
  exact UnitEvidence.drift_of_accepted rfl read unitName accepted

/-- What is left to be said of a unit that has just been generated. -/
theorem ProjectView.statusOf_generated {view : ProjectView} {verifier : UnitVerifier σ}
    {unit : ConfigUnit} {files : List String} {now : Time.Instant} {manifest : Manifest}
    {raw : String} (named : Text.isBlankString unit.id = false) (ordinary : now.Ordinary)
    (computes : Manifest.compute view.contents unit.id files verifier.algorithm now = .ok manifest)
    (stored : manifest.StoredText raw) :
    (view.generated unit manifest.unitDigest raw).statusOf verifier unit files =
      .ofReasons ((view.artifact unit).elim [] fun text =>
        Artifact.duplicateSections text.toList unit.sections) := by
  have drift := ProjectView.drift_generated named ordinary computes stored
    ((view.artifact unit).map fun text => Artifact.stamp text manifest.unitDigest) unit.sections
  rw [ProjectView.statusOf, ProjectView.artifact_generated]
  unfold UnitEvidence.status
  simp only [ProjectView.generated] at drift ⊢
  rw [drift]
  cases view.artifact unit with
  | none => rfl
  | some text =>
    exact congrArg UnitStatus.ofReasons
      (Artifact.check_stamp (Manifest.solid_of_compute computes) unit.sections)

/-- The status after a unit has been generated, in terms of what was shown before. -/
theorem UnitVerifier.MapLike.run_status_of_generate {verifier : UnitVerifier σ}
    {Shows : σ → ProjectView → Prop} (maps : verifier.MapLike Shows) {state : σ}
    {view : ProjectView} (shown : Shows state view) {id : String}
    (named : Text.isBlankString id = false) {now : Time.Instant} (ordinary : now.Ordinary)
    {manifest : Manifest} {next : σ}
    (generated : (verifier.generate id now).run.run state = (.ok manifest, next)) :
    ∃ unit files last, verifier.unit id = .ok unit ∧ view.files unit.files = .ok files ∧
      (verifier.status id).run.run next =
        (.ok (.ofReasons ((view.artifact unit).elim [] fun text =>
          Artifact.duplicateSections text.toList unit.sections)), last) := by
  obtain ⟨unit, files, raw, declared, listed, computes, stored, shownNext⟩ :=
    maps.run_generate shown generated
  obtain ⟨last, after, -⟩ := maps.run_status shownNext declared listed
  have sameId := id_of_unit_eq_ok declared
  subst sameId
  rw [ProjectView.statusOf_generated named ordinary computes stored] at after
  exact ⟨unit, files, last, declared, listed, after⟩

/-- **Generating a unit makes it fresh.**  When the ports do not fail and behave as maps, and a unit
with a name is generated at an ordinary instant, then what its status reports next is what it
reported before of sections that occur more than once in the artifact, and nothing else. -/
theorem UnitVerifier.status_of_generate {verifier : UnitVerifier σ}
    {Shows : σ → ProjectView → Prop} (maps : verifier.MapLike Shows) {state : σ}
    {view : ProjectView} (shown : Shows state view) {id : String}
    (named : Text.isBlankString id = false) {now : Time.Instant} (ordinary : now.Ordinary)
    {manifest : Manifest} {next : σ}
    (generated : (verifier.generate id now).run.run state = (.ok manifest, next)) :
    ∃ before other last,
      (verifier.status id).run.run state = (.ok before, other) ∧
      (verifier.status id).run.run next =
        (.ok (.ofReasons (before.reasons.filter DriftReason.isDuplicateSection)), last) := by
  obtain ⟨unit, files, last, declared, listed, after⟩ :=
    maps.run_status_of_generate shown named ordinary generated
  obtain ⟨other, before, -⟩ := maps.run_status shown declared listed
  refine ⟨view.statusOf verifier unit files, other, last, before, ?_⟩
  rw [after, ProjectView.statusOf, UnitEvidence.filter_reasons_status]

/-- A project with an empty file, and an artifact with two stamps and a section that occurs
twice. -/
def twiceStamped : MemoryProject where
  files := [("a", [])]
  artifacts := [("notes", "# Why\n<!-- qualities:manifest x -->\r\n## Why\n"
    ++ "<!-- qualities:manifest y -->\n\n")]

/-- The operations on a unit with that file and that artifact. -/
def twiceStampedUnits : UnitVerifier MemoryProject :=
  MemoryProject.verifier [⟨"u", ["a"], some "notes", ["Why"]⟩] .sha256

/-- The stamps are gone after the unit has been generated, and the section is still reported. -/
theorem status_of_generate_twiceStamped :
    Text.isBlankString "u" = false ∧ (⟨0, 0⟩ : Time.Instant).Ordinary ∧
      ∃ manifest next last,
        (twiceStampedUnits.generate "u" ⟨0, 0⟩).run.run twiceStamped = (.ok manifest, next) ∧
        (twiceStampedUnits.status "u").run.run next
          = (.ok (.expired [.duplicateSection "Why" 2]), last) := by
  have named : Text.isBlankString "u" = false := by decide +kernel
  have ordinary : (⟨0, 0⟩ : Time.Instant).Ordinary := ⟨by decide, by decide, by decide⟩
  have works : ((twiceStampedUnits.generate "u" ⟨0, 0⟩).run.run twiceStamped).1.isOk = true := by
    decide +kernel
  have judged : ((twiceStampedUnits.status "u").run.run twiceStamped).1.toOption =
      some (.expired [.missing, .duplicateSection "Why" 2, .duplicateStamp 2]) := by
    decide +kernel
  cases generated : (twiceStampedUnits.generate "u" ⟨0, 0⟩).run.run twiceStamped with
  | mk answer next =>
    rw [generated] at works
    cases answer with
    | error error => cases works
    | ok manifest =>
      have maps : twiceStampedUnits.MapLike _ := MemoryProject.mapLike_verifier _ _
      obtain ⟨before, other, last, earlier, later⟩ :=
        UnitVerifier.status_of_generate maps ⟨rfl, rfl⟩ named ordinary generated
      rw [earlier] at judged
      cases judged
      exact ⟨named, ordinary, manifest, next, last, rfl, later⟩

end QualityGate
