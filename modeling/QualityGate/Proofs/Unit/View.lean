import Mathlib.Logic.Function.Basic
import QualityGate.Proofs.Manifest.Storage
import QualityGate.Proofs.Unit.Operations

/-!
# Ports that behave as maps

A verifier whose ports do not fail and behave as maps is described by what it sees of the project.

* `ProjectView` – the files, their contents, the stored manifests and the artifacts.
* `MapLike` – every port answers from the view.  Only saving a manifest and writing an artifact
  change it, each at one key, and neither touches the files: artifacts are kept apart from them.
* `run_status` and `run_generate` – what the operations answer, in terms of the view alone.

### What is load-bearing

The state itself may change with every call.  What stays is that it shows a view, so all that is
said of the operations is said of views.
-/

namespace QualityGate

/-- What a verifier sees of a project. -/
structure ProjectView where
  /-- The files that match any of some globs, unless those make no sense. -/
  files : List String → Except PortError (List String)
  contents : Reader
  manifests : String → Option String
  artifacts : String → Option String

variable {σ : Type}

/-- The ports of a verifier do not fail and behave as maps, in every state that shows a view. -/
structure UnitVerifier.MapLike (verifier : UnitVerifier σ) (Shows : σ → ProjectView → Prop) :
    Prop where
  list {state view} (shown : Shows state view) (globs : List String) :
    ∃ next, (verifier.workspace.listMatching globs).run.run state = (view.files globs, next) ∧
      Shows next view
  contents {state view} (shown : Shows state view) :
    ∃ next, verifier.contents.run state = (view.contents, next) ∧ Shows next view
  load {state view} (shown : Shows state view) (unit : String) :
    ∃ next, (verifier.manifests.load unit).run.run state = (.ok (view.manifests unit), next) ∧
      Shows next view
  /-- A manifest is stored as a text. -/
  save {state view} (shown : Shows state view) (manifest : Manifest) :
    ∃ raw next, manifest.StoredText raw ∧
      (verifier.manifests.save manifest).run.run state = (.ok (), next) ∧
      Shows next { view with
        manifests := Function.update view.manifests manifest.unit (some raw) }
  read {state view} (shown : Shows state view) (path : String) :
    ∃ next, (verifier.artifacts.read path).run.run state = (.ok (view.artifacts path), next) ∧
      Shows next view
  write {state view} (shown : Shows state view) (path text : String) :
    ∃ next, (verifier.artifacts.write path text).run.run state = (.ok (), next) ∧
      Shows next { view with artifacts := Function.update view.artifacts path (some text) }

namespace ProjectView

/-- The artifact of a unit. -/
def artifact (view : ProjectView) (unit : ConfigUnit) : Option String :=
  unit.context.bind view.artifacts

/-- The status of a unit, when its files are these. -/
def statusOf (view : ProjectView) (verifier : UnitVerifier σ) (unit : ConfigUnit)
    (files : List String) : UnitStatus :=
  UnitEvidence.status ⟨unit.id, view.manifests unit.id, files, view.artifact unit, unit.sections⟩
    view.contents verifier.algorithm

/-- What the status of a unit answers. -/
def answer (view : ProjectView) (verifier : UnitVerifier σ) (unit : ConfigUnit) :
    Except ManifestError UnitStatus :=
  ((view.files unit.files).mapError fun error => .store error.message).map
    (view.statusOf verifier unit)

/-- The manifest that is computed for a unit. -/
def computed (view : ProjectView) (verifier : UnitVerifier σ) (unit : ConfigUnit)
    (now : Time.Instant) : Except ManifestError Manifest :=
  ((view.files unit.files).mapError fun error => .store error.message).bind fun files =>
    Manifest.compute view.contents unit.id files verifier.algorithm now

/-- The view with a manifest of a unit and a stamp for it. -/
def generated (view : ProjectView) (unit : ConfigUnit) (digest raw : String) : ProjectView where
  files := view.files
  contents := view.contents
  manifests := Function.update view.manifests unit.id (some raw)
  artifacts :=
    match unit.context, view.artifact unit with
    | some path, some text =>
      Function.update view.artifacts path (some (Artifact.stamp text digest))
    | _, _ => view.artifacts

end ProjectView

namespace UnitVerifier

variable {verifier : UnitVerifier σ} {Shows : σ → ProjectView → Prop} {state : σ}
  {view : ProjectView} {id : String} {unit : ConfigUnit}

/-- A declared unit is found under its own name. -/
theorem id_of_unit_eq_ok (declared : verifier.unit id = .ok unit) : unit.id = id := by
  unfold UnitVerifier.unit at declared
  split at declared
  · next found =>
    cases declared
    simpa using List.find?_some found
  · cases declared

namespace MapLike

variable (maps : verifier.MapLike Shows) (shown : Shows state view)
include maps shown

theorem run_liveFiles (unit : ConfigUnit) :
    ∃ next, (verifier.liveFiles unit).run.run state =
        ((view.files unit.files).mapError fun error => .store error.message, next) ∧
      Shows next view := by
  obtain ⟨next, step, shown⟩ := maps.list shown unit.files
  exact ⟨next, by rw [liveFiles, UnitM.run_ofPort, step], shown⟩

theorem run_artifactText (unit : ConfigUnit) :
    ∃ next, (verifier.artifactText unit).run.run state = (.ok (view.artifact unit), next) ∧
      Shows next view := by
  unfold artifactText ProjectView.artifact
  cases unit.context with
  | none => exact ⟨state, rfl, shown⟩
  | some path =>
    obtain ⟨next, step, shown⟩ := maps.read shown path
    exact ⟨next, by rw [UnitM.run_ofPort, step]; rfl, shown⟩

theorem run_restamp (unit : ConfigUnit) (digest : String) :
    ∃ next, (verifier.restamp unit digest).run.run state = (.ok (), next) ∧
      Shows next { view with artifacts := (view.generated unit digest "").artifacts } := by
  obtain ⟨mid, step, shown⟩ := maps.run_artifactText shown unit
  rw [restamp, UnitM.run_bind_ok step]
  unfold ProjectView.generated
  cases unit.context with
  | none => exact ⟨mid, rfl, shown⟩
  | some path =>
    cases view.artifact unit with
    | none => exact ⟨mid, rfl, shown⟩
    | some text =>
      obtain ⟨next, written, shown⟩ := maps.write shown path (Artifact.stamp text digest)
      exact ⟨next, by simp only [UnitM.run_ofPort, written]; rfl, shown⟩

/-- The status of a unit follows from the view. -/
theorem run_status_eq_answer (declared : verifier.unit id = .ok unit) :
    ∃ next, (verifier.status id).run.run state = (view.answer verifier unit, next) ∧
      Shows next view := by
  obtain ⟨afterList, list, shown⟩ := maps.run_liveFiles shown unit
  rw [status, UnitM.run_bind_ok (by rw [UnitM.run_liftExcept, declared])]
  unfold ProjectView.answer
  cases listed : view.files unit.files with
  | error error =>
    rw [listed] at list
    refine ⟨afterList, ?_, shown⟩
    rw [UnitM.run_bind, list]
    rfl
  | ok files =>
    rw [listed] at list
    obtain ⟨afterLoad, load, shown⟩ := maps.load shown id
    obtain ⟨afterRead, read, shown⟩ := maps.run_artifactText shown unit
    obtain ⟨last, contents, shown⟩ := maps.contents shown
    refine ⟨last, ?_, shown⟩
    rw [UnitM.run_bind_ok list, UnitM.run_bind_ok (UnitM.run_ofPort_eq_ok_iff.mpr load),
      UnitM.run_bind_ok read, UnitM.run_bind_ok (by rw [UnitM.run_liftState, contents]),
      UnitM.run_pure, ← id_of_unit_eq_ok declared]
    rfl

/-- The status of a unit whose files can be listed. -/
theorem run_status (declared : verifier.unit id = .ok unit) {files : List String}
    (listed : view.files unit.files = .ok files) :
    ∃ next, (verifier.status id).run.run state = (.ok (view.statusOf verifier unit files), next) ∧
      Shows next view := by
  obtain ⟨next, step, shown⟩ := maps.run_status_eq_answer shown declared
  rw [ProjectView.answer, listed] at step
  exact ⟨next, step, shown⟩

/-- What is generated follows from the view, and so does what it shows afterwards: nothing changes
unless there is a manifest. -/
theorem run_generate_eq_computed (declared : verifier.unit id = .ok unit) (now : Time.Instant) :
    ∃ next, (verifier.generate id now).run.run state = (view.computed verifier unit now, next) ∧
      ((∃ error, view.computed verifier unit now = .error error) ∧ Shows next view ∨
        ∃ manifest raw, view.computed verifier unit now = .ok manifest ∧
          manifest.StoredText raw ∧ Shows next (view.generated unit manifest.unitDigest raw)) := by
  have sameId := id_of_unit_eq_ok declared
  subst sameId
  obtain ⟨afterList, list, shown⟩ := maps.run_liveFiles shown unit
  rw [generate, UnitM.run_bind_ok (by rw [UnitM.run_liftExcept, declared])]
  unfold ProjectView.computed
  cases listed : view.files unit.files with
  | error error =>
    rw [listed] at list
    refine ⟨afterList, ?_, Or.inl ⟨⟨_, rfl⟩, shown⟩⟩
    rw [UnitM.run_bind, list]
    rfl
  | ok files =>
    rw [listed] at list
    obtain ⟨afterRead, contents, shown⟩ := maps.contents shown
    rw [UnitM.run_bind_ok list, UnitM.run_bind_ok (by rw [UnitM.run_liftState, contents])]
    cases computes : Manifest.compute view.contents unit.id files verifier.algorithm now with
    | error error =>
      refine ⟨afterRead, ?_, Or.inl ⟨⟨_, computes⟩, shown⟩⟩
      rw [UnitM.run_bind, UnitM.run_liftExcept]
      exact congrArg (·, afterRead) computes.symm
    | ok manifest =>
      have named : manifest.unit = unit.id := by
        obtain ⟨-, -, rfl⟩ := Manifest.compute_eq_ok_iff.mp computes
        rfl
      obtain ⟨raw, saved, stored, save, shown⟩ := maps.save shown manifest
      obtain ⟨last, stamps, shown⟩ := maps.run_restamp shown unit manifest.unitDigest
      rw [named] at shown
      refine ⟨last, ?_, Or.inr ⟨manifest, raw, computes, stored, shown⟩⟩
      rw [UnitM.run_bind_ok (UnitM.run_liftExcept _ _),
        UnitM.run_bind_ok (UnitM.run_ofPort_eq_ok_iff.mpr save), UnitM.run_bind_ok stamps,
        UnitM.run_pure]
      exact congrArg (·, last) computes.symm

/-- What has been generated was computed, and it is shown afterwards. -/
theorem run_generate {now : Time.Instant} {manifest : Manifest} {next : σ}
    (generated : (verifier.generate id now).run.run state = (.ok manifest, next)) :
    ∃ unit files raw, verifier.unit id = .ok unit ∧ view.files unit.files = .ok files ∧
      Manifest.compute view.contents id files verifier.algorithm now = .ok manifest ∧
      manifest.StoredText raw ∧ Shows next (view.generated unit manifest.unitDigest raw) := by
  obtain ⟨unit, first, found, -⟩ := UnitM.run_bind_eq_ok_iff.mp generated
  obtain ⟨declared, rfl⟩ := UnitM.run_liftExcept_eq_ok_iff.mp found
  obtain ⟨last, step, outcome⟩ := maps.run_generate_eq_computed shown declared now
  obtain ⟨computed, rfl⟩ := Prod.mk.inj (generated.symm.trans step)
  rcases outcome with ⟨⟨error, fails⟩, -⟩ | ⟨other, raw, same, stored, shown⟩
  · cases computed.trans fails
  · obtain rfl := Except.ok.inj (computed.trans same)
    rw [ProjectView.computed] at computed
    cases listed : view.files unit.files with
    | error error =>
      rw [listed] at computed
      cases computed
    | ok files =>
      rw [listed] at computed
      rw [id_of_unit_eq_ok declared] at computed
      exact ⟨unit, files, raw, declared, listed, computed.symm, stored, shown⟩

end MapLike

end UnitVerifier

end QualityGate
