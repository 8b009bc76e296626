import QualityGate.Proofs.Project.Memory
import QualityGate.Proofs.Unit.Course

/-!
# Interrupted generation

A generation calls one port after the other, and any of them may fail.

* `UnitVerifier.FailsEarly`, `UnitVerifier.FailsLate` – the steps at which a generation can fail,
  before its manifest is stored and afterwards.
* `generate_eq_error_iff` – a generation fails at one of these steps, and in no other way.
* `UnitVerifier.FailsClean` – a port that fails changes nothing, and each of the two stores is
  touched by its own operations alone.
* `generate_interrupted` – what a generation that fails leaves behind, step by step.
* `generation_not_atomic` – it does not leave everything as it was.

### What is load-bearing

The manifest is saved before the artifact is read.  So the artifact is left as it was by every
failure, and the manifest by every one but that of the artifact.
-/

namespace QualityGate

variable {σ : Type}

namespace UnitVerifier

variable {verifier : UnitVerifier σ} {id : String} {now : Time.Instant} {state next : σ}

/-! ### A generation that fails -/

/-- The artifact at a path could not be read, or not be written again with a stamp. -/
inductive ArtifactFails (verifier : UnitVerifier σ) (path digest : String) (state : σ) :
    PortError → σ → Prop where
  | read {failure : PortError} {last : σ}
      (fails : (verifier.artifacts.read path).run.run state = (.error failure, last)) :
      ArtifactFails verifier path digest state failure last
  | write {text : String} {found : σ} {failure : PortError} {last : σ}
      (reads : (verifier.artifacts.read path).run.run state = (.ok (some text), found))
      (fails : (verifier.artifacts.write path (Artifact.stamp text digest)).run.run found
        = (.error failure, last)) :
      ArtifactFails verifier path digest state failure last

/-- Only an artifact that a unit has can fail to be stamped. -/
theorem restamp_eq_error_iff {unit : ConfigUnit} {digest : String} {error : ManifestError} :
    (verifier.restamp unit digest).run.run state = (.error error, next) ↔
      ∃ path failure, unit.context = some path ∧ error = .store failure.message ∧
        verifier.ArtifactFails path digest state failure next := by
  unfold restamp artifactText
  cases context : unit.context with
  | none => exact ⟨nofun, fun ⟨_, _, missing, _⟩ => nomatch missing⟩
  | some path =>
    dsimp only
    constructor
    · intro fails
      refine ⟨path, ?_⟩
      rcases UnitM.run_bind_eq_error_iff.mp fails with early | ⟨text?, found, looked, later⟩
      · obtain ⟨failure, rfl, unread⟩ := UnitM.run_ofPort_eq_error_iff.mp early
        exact ⟨failure, rfl, rfl, .read unread⟩
      · have reads := UnitM.run_ofPort_eq_ok_iff.mp looked
        cases text? with
        | none => cases later
        | some text =>
          obtain ⟨failure, rfl, unwritten⟩ := UnitM.run_ofPort_eq_error_iff.mp later
          exact ⟨failure, rfl, rfl, .write reads unwritten⟩
    · rintro ⟨_, failure, ⟨⟩, rfl, fails⟩
      cases fails with
      | read unread =>
        exact UnitM.run_bind_eq_error_iff.mpr
          (Or.inl (UnitM.run_ofPort_eq_error_iff.mpr ⟨failure, rfl, unread⟩))
      | write reads unwritten =>
        rw [UnitM.run_bind_ok (UnitM.run_ofPort_eq_ok_iff.mpr reads)]
        exact UnitM.run_ofPort_eq_error_iff.mpr ⟨failure, rfl, unwritten⟩

/-- The steps at which a generation can fail before its manifest is stored, with what it then answers
and the state that is then the last one. -/
inductive FailsEarly (verifier : UnitVerifier σ) (id : String) (now : Time.Instant) (state : σ) :
    ManifestError → σ → Prop where
  /-- There is no such unit. -/
  | undeclared {error : ManifestError} (unknown : verifier.unit id = .error error) :
    FailsEarly verifier id now state error state
  /-- The files of the unit cannot be listed. -/
  | unlisted {unit : ConfigUnit} {failure : PortError} {next : σ}
      (declared : verifier.unit id = .ok unit)
      (fails : (verifier.workspace.listMatching unit.files).run.run state
        = (.error failure, next)) :
    FailsEarly verifier id now state (.store failure.message) next
  /-- The manifest cannot be computed, for instance because a file cannot be read. -/
  | uncomputed {unit : ConfigUnit} {files : List String} {listed : σ} {read : Reader} {looked : σ}
      {error : ManifestError} (declared : verifier.unit id = .ok unit)
      (lists : (verifier.workspace.listMatching unit.files).run.run state = (.ok files, listed))
      (reads : verifier.contents.run listed = (read, looked))
      (fails : Manifest.compute read id files verifier.algorithm now = .error error) :
    FailsEarly verifier id now state error looked
  /-- The manifest cannot be saved. -/
  | unsaved {unit : ConfigUnit} {manifest : Manifest} {looked : σ} {failure : PortError} {next : σ}
      (computes : verifier.Computes id now state unit manifest looked)
      (fails : (verifier.manifests.save manifest).run.run looked = (.error failure, next)) :
    FailsEarly verifier id now state (.store failure.message) next

/-- The steps at which a generation can fail after it has stored this manifest: those that read and
write the artifact of the unit. -/
inductive FailsLate (verifier : UnitVerifier σ) (id : String) (now : Time.Instant) (state : σ) :
    Manifest → ManifestError → σ → Prop where
  | intro {unit : ConfigUnit} {manifest : Manifest} {looked saved : σ} {path : String}
      {failure : PortError} {next : σ}
      (computes : verifier.Computes id now state unit manifest looked)
      (saves : (verifier.manifests.save manifest).run.run looked = (.ok (), saved))
      (context : unit.context = some path)
      (unstamped : verifier.ArtifactFails path manifest.unitDigest saved failure next) :
    FailsLate verifier id now state manifest (.store failure.message) next

/-- A generation fails at one of these steps. -/
theorem generate_eq_error_iff {error : ManifestError} :
    (verifier.generate id now).run.run state = (.error error, next) ↔
      verifier.FailsEarly id now state error next ∨
        ∃ manifest, verifier.FailsLate id now state manifest error next := by
  constructor
  · intro fails
    rw [generate] at fails
    rcases UnitM.run_bind_eq_error_iff.mp fails with first | ⟨unit, _, found, fails⟩
    · obtain ⟨unknown, rfl⟩ := UnitM.run_liftExcept_eq_error_iff.mp first
      exact Or.inl (.undeclared unknown)
    obtain ⟨declared, rfl⟩ := UnitM.run_liftExcept_eq_ok_iff.mp found
    rcases UnitM.run_bind_eq_error_iff.mp fails with second | ⟨files, listed, lists, fails⟩
    · obtain ⟨failure, rfl, unlisted⟩ := UnitM.run_ofPort_eq_error_iff.mp second
      exact Or.inl (.unlisted declared unlisted)
    rcases UnitM.run_bind_eq_error_iff.mp fails with third | ⟨read, looked, reads, fails⟩
    · rw [UnitM.run_liftState] at third
      cases third
    have reads := UnitM.run_liftState_eq_ok_iff.mp reads
    rcases UnitM.run_bind_eq_error_iff.mp fails with fourth | ⟨manifest, _, found, fails⟩
    · obtain ⟨uncomputed, rfl⟩ := UnitM.run_liftExcept_eq_error_iff.mp fourth
      exact Or.inl (.uncomputed declared (UnitM.run_ofPort_eq_ok_iff.mp lists) reads uncomputed)
    obtain ⟨computed, rfl⟩ := UnitM.run_liftExcept_eq_ok_iff.mp found
    have computes : verifier.Computes id now state unit manifest looked :=
      ⟨declared, lists, reads, computed⟩
    rcases UnitM.run_bind_eq_error_iff.mp fails with fifth | ⟨⟨⟩, saved, saves, fails⟩
    · obtain ⟨failure, rfl, unsaved⟩ := UnitM.run_ofPort_eq_error_iff.mp fifth
      exact Or.inl (.unsaved computes unsaved)
    -- From here on the manifest is stored.
    rcases UnitM.run_bind_eq_error_iff.mp fails with last | ⟨⟨⟩, _, -, fails⟩
    · obtain ⟨path, failure, context, rfl, unstamped⟩ := restamp_eq_error_iff.mp last
      exact Or.inr ⟨manifest,
        .intro computes (UnitM.run_ofPort_eq_ok_iff.mp saves) context unstamped⟩
    · cases fails
  · rintro (early | ⟨manifest, late⟩)
    · cases early with
      | undeclared unknown =>
        exact UnitM.run_bind_eq_error_iff.mpr
          (Or.inl (UnitM.run_liftExcept_eq_error_iff.mpr ⟨unknown, rfl⟩))
      | unlisted declared fails =>
        rw [generate, UnitM.run_bind_ok (UnitM.run_liftExcept_eq_ok_iff.mpr ⟨declared, rfl⟩)]
        exact UnitM.run_bind_eq_error_iff.mpr
          (Or.inl (UnitM.run_ofPort_eq_error_iff.mpr ⟨_, rfl, fails⟩))
      | @uncomputed unit files listed _ _ _ declared lists reads fails =>
        have lists : (verifier.liveFiles unit).run.run state = (.ok files, listed) :=
          UnitM.run_ofPort_eq_ok_iff.mpr lists
        rw [generate, UnitM.run_bind_ok (UnitM.run_liftExcept_eq_ok_iff.mpr ⟨declared, rfl⟩),
          UnitM.run_bind_ok lists, UnitM.run_bind_ok (UnitM.run_liftState_eq_ok_iff.mpr reads)]
        exact UnitM.run_bind_eq_error_iff.mpr
          (Or.inl (UnitM.run_liftExcept_eq_error_iff.mpr ⟨fails, rfl⟩))
      | unsaved computes fails =>
        rw [computes.run_generate]
        exact UnitM.run_bind_eq_error_iff.mpr
          (Or.inl (UnitM.run_ofPort_eq_error_iff.mpr ⟨_, rfl, fails⟩))
    · cases late with
      | intro computes saves context unstamped =>
        rw [computes.run_generate, UnitM.run_bind_ok (UnitM.run_ofPort_eq_ok_iff.mpr saves)]
        exact UnitM.run_bind_eq_error_iff.mpr
          (Or.inl (restamp_eq_error_iff.mpr ⟨_, _, context, rfl, unstamped⟩))

end UnitVerifier

/-! ### What is left behind -/

/-- What the two stores of a project hold. -/
structure Stores where
  manifests : String → Option String
  artifacts : String → Option String

namespace UnitVerifier

/-- A port that fails changes nothing in the stores, and each store is touched by its own operations
alone. -/
structure FailsClean (verifier : UnitVerifier σ) (stores : σ → Stores) : Prop where
  list (globs : List String) (state : σ) :
    stores ((verifier.workspace.listMatching globs).run.run state).2 = stores state
  contents (state : σ) : stores (verifier.contents.run state).2 = stores state
  saveFails {manifest : Manifest} {state next : σ} {failure : PortError} :
    (verifier.manifests.save manifest).run.run state = (.error failure, next) →
      stores next = stores state
  /-- A manifest is stored as a text. -/
  save {manifest : Manifest} {state next : σ} :
    (verifier.manifests.save manifest).run.run state = (.ok (), next) →
      ∃ raw, manifest.StoredText raw ∧ stores next = { stores state with
        manifests := Function.update (stores state).manifests manifest.unit (some raw) }
  read (path : String) (state : σ) :
    stores ((verifier.artifacts.read path).run.run state).2 = stores state
  writeFails {path text : String} {state next : σ} {failure : PortError} :
    (verifier.artifacts.write path text).run.run state = (.error failure, next) →
      stores next = stores state
  write {path text : String} {state next : σ} :
    (verifier.artifacts.write path text).run.run state = (.ok (), next) →
      stores next = { stores state with
        artifacts := Function.update (stores state).artifacts path (some text) }

/-- A generation that fails leaves both stores as they were. -/
def Atomic (verifier : UnitVerifier σ) (stores : σ → Stores) : Prop :=
  ∀ (id : String) (now : Time.Instant) (state next : σ) (error : ManifestError),
    (verifier.generate id now).run.run state = (.error error, next) → stores next = stores state

namespace FailsClean

variable {verifier : UnitVerifier σ} {stores : σ → Stores} (clean : verifier.FailsClean stores)
  {id : String} {now : Time.Instant} {state next : σ}
include clean

theorem stores_listed {globs : List String} {answer : Except PortError (List String)}
    (lists : (verifier.workspace.listMatching globs).run.run state = (answer, next)) :
    stores next = stores state := by
  have left := clean.list globs state
  rwa [lists] at left

theorem stores_looked {read : Reader} (reads : verifier.contents.run state = (read, next)) :
    stores next = stores state := by
  have left := clean.contents state
  rwa [reads] at left

theorem stores_found {path : String} {answer : Except PortError (Option String)}
    (reads : (verifier.artifacts.read path).run.run state = (answer, next)) :
    stores next = stores state := by
  have left := clean.read path state
  rwa [reads] at left

theorem stores_computes {unit : ConfigUnit} {manifest : Manifest}
    (computes : verifier.Computes id now state unit manifest next) :
    stores next = stores state := by
  cases computes with
  | mk declared lists reads computes =>
    exact (clean.stores_looked reads).trans
      (clean.stores_listed (UnitM.run_ofPort_eq_ok_iff.mp lists))

theorem stores_artifactFails {path digest : String} {failure : PortError}
    (fails : verifier.ArtifactFails path digest state failure next) :
    stores next = stores state := by
  cases fails with
  | read fails => exact clean.stores_found fails
  | write reads fails => exact (clean.writeFails fails).trans (clean.stores_found reads)

theorem stores_failsEarly {error : ManifestError}
    (early : verifier.FailsEarly id now state error next) : stores next = stores state := by
  cases early with
  | undeclared unknown => rfl
  | unlisted declared fails => exact clean.stores_listed fails
  | uncomputed declared lists reads fails =>
    exact (clean.stores_looked reads).trans (clean.stores_listed lists)
  | unsaved computes fails => exact (clean.saveFails fails).trans (clean.stores_computes computes)

theorem stores_failsLate {manifest : Manifest} {error : ManifestError}
    (late : verifier.FailsLate id now state manifest error next) :
    ∃ raw, manifest.StoredText raw ∧ stores next = { stores state with
      manifests := Function.update (stores state).manifests id (some raw) } := by
  cases late with
  | intro computes saves context unstamped =>
    obtain ⟨raw, stored, contents⟩ := clean.save saves
    refine ⟨raw, stored, (clean.stores_artifactFails unstamped).trans ?_⟩
    rw [contents, clean.stores_computes computes, computes.unit_eq]

end FailsClean

/-- **What an interrupted generation leaves behind.**  A generation fails at one of its steps.  When
ports that fail change nothing, a failure before the manifest is stored leaves both stores as they
were.  The failures that are left are those to read and to write the artifact of the unit: after
these the manifest that was computed is stored, and nothing else has changed. -/
theorem generate_interrupted {verifier : UnitVerifier σ} {stores : σ → Stores}
    (clean : verifier.FailsClean stores) (id : String) (now : Time.Instant) (state next : σ)
    (error : ManifestError) :
    ((verifier.generate id now).run.run state = (.error error, next) ↔
      verifier.FailsEarly id now state error next ∨
        ∃ manifest, verifier.FailsLate id now state manifest error next) ∧
    (verifier.FailsEarly id now state error next → stores next = stores state) ∧
    ∀ manifest, verifier.FailsLate id now state manifest error next →
      ∃ raw, manifest.StoredText raw ∧ stores next = { stores state with
        manifests := Function.update (stores state).manifests id (some raw) } :=
  ⟨generate_eq_error_iff, clean.stores_failsEarly, fun _ => clean.stores_failsLate⟩

end UnitVerifier

namespace MemoryProject

/-- The stores of a project in memory. -/
def stores (project : MemoryProject) : Stores where
  manifests unit := project.manifests.lookup unit
  artifacts path := project.artifacts.lookup path

/-- Ports of a project in memory that are made to fail change nothing. -/
theorem failsClean_verifier (units : List ConfigUnit) (algorithm : Algorithm) :
    (verifier units algorithm).FailsClean stores where
  list globs project := listMatching_leaves stores globs project
  contents project := rfl
  saveFails := by
    intro manifest project next failure fails
    rcases run_save_cases project manifest with ⟨error, unsaved⟩ | saves
    · cases unsaved.symm.trans fails
      rfl
    · cases saves.symm.trans fails
  save := by
    intro manifest project next saves
    rcases run_save_cases project manifest with ⟨error, unsaved⟩ | saved
    · cases unsaved.symm.trans saves
    · cases saved.symm.trans saves
      refine ⟨_, .compact, ?_⟩
      exact congrArg (Stores.mk · project.stores.artifacts)
        (lookup_put manifest.unit _ project.manifests)
  read path project := guarded_leaves rfl
  writeFails := by
    intro path text project next failure fails
    rcases run_guarded_cases project "artifacts.write" _ with ⟨error, unwritten⟩ | writes
    · cases unwritten.symm.trans fails
      rfl
    · cases writes.symm.trans fails
  write := by
    intro path text project next writes
    rcases run_guarded_cases project "artifacts.write" _ with ⟨error, unwritten⟩ | written
    · cases unwritten.symm.trans writes
    · cases written.symm.trans writes
      exact congrArg (Stores.mk project.stores.manifests) (lookup_put path text project.artifacts)

end MemoryProject

/-! ### An artifact that cannot be written -/

/-- A project with an artifact that cannot be written. -/
def unwritable : MemoryProject where
  files := [("a", [])]
  artifacts := [("notes", "Why")]
  broken := ["artifacts.write"]

/-- The operations on the unit of that artifact. -/
def unwritableUnits : UnitVerifier MemoryProject :=
  MemoryProject.verifier [{ ConfigUnit.ofFiles "u" ["a"] with context := some "notes" }] .sha256

namespace UnitVerifier

/-- Its generation fails, for the artifact was not written. -/
theorem generate_unwritable :
    ∃ next, (unwritableUnits.generate "u" ⟨0, 0⟩).run.run unwritable
      = (.error (.store "artifacts.write failed"), next) := by
  have fails : ((unwritableUnits.generate "u" ⟨0, 0⟩).run.run unwritable).1
      = .error (.store "artifacts.write failed") := by decide +kernel
  exact ⟨_, Prod.ext fails rfl⟩

/-- A manifest is stored nevertheless. -/
theorem stored_unwritable :
    (MemoryProject.stores ((unwritableUnits.generate "u" ⟨0, 0⟩).run.run unwritable).2).manifests "u"
      ≠ none := by
  decide +kernel

/-- The generation of that unit stores a manifest, and leaves the artifact without its stamp. -/
theorem generate_interrupted_unwritable :
    unwritableUnits.FailsClean MemoryProject.stores ∧
      ∃ next manifest raw,
        (unwritableUnits.generate "u" ⟨0, 0⟩).run.run unwritable
          = (.error (.store "artifacts.write failed"), next) ∧
        unwritableUnits.FailsLate "u" ⟨0, 0⟩ unwritable manifest
          (.store "artifacts.write failed") next ∧
        manifest.StoredText raw ∧
        MemoryProject.stores next = { unwritable.stores with
          manifests := Function.update unwritable.stores.manifests "u" (some raw) } := by
  have clean : unwritableUnits.FailsClean MemoryProject.stores :=
    MemoryProject.failsClean_verifier _ _
  obtain ⟨next, fails⟩ := generate_unwritable
  obtain ⟨steps, before, after⟩ := generate_interrupted clean "u" ⟨0, 0⟩ unwritable next
    (.store "artifacts.write failed")
  rcases steps.mp fails with early | ⟨manifest, late⟩
  · have stored := stored_unwritable
    rw [fails, before early] at stored
    exact absurd rfl stored
  · obtain ⟨raw, text, left⟩ := after manifest late
    exact ⟨clean, next, manifest, raw, fails, late, text, left⟩

/-- A generation that fails may have stored a manifest. -/
theorem generation_not_atomic :
    unwritableUnits.FailsClean MemoryProject.stores ∧
      ¬ unwritableUnits.Atomic MemoryProject.stores := by
  refine ⟨MemoryProject.failsClean_verifier _ _, ?_⟩
  intro atomic
  obtain ⟨next, fails⟩ := generate_unwritable
  have stored := stored_unwritable
  rw [fails, atomic _ _ _ _ _ fails] at stored
  exact stored rfl

end UnitVerifier

end QualityGate
