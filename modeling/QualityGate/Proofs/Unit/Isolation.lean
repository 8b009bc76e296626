import QualityGate.Proofs.Config.References
import QualityGate.Proofs.Unit.Generation

/-!
# Units that share an artifact

What is done to one unit should not show in the status of another one.  Manifests are kept apart by
the names of the units, which validation tells apart; the paths of the artifacts are not looked at.

* `UnitVerifier.Isolated` – whatever is generated, judged and expired under one name, the status
  under another name stays what it was.
* `ProjectView.Apart` – two units have no artifact in common, or one that is in order for the second
  unit and stays in order when it is stamped for the first.
* `isolated_iff` – units of a validated configuration are isolated exactly when they are apart.
* `shared_artifact_not_isolated` – two units that share an artifact and are not.

### What is load-bearing

An operation on a unit leads to a view that differs from the one before at the manifest of the unit
and at its artifact, and an artifact that is there afterwards is the one from before or its stamped
form (`ProjectView.Touched`).  Stamping twice is stamping with a digest that is computed from the
same files, so being apart is an invariant.
-/

namespace QualityGate

variable {σ : Type}

/-- An operation that may change a unit. -/
inductive UnitOperation where
  | generate (now : Time.Instant)
  | verify
  | expire
  deriving DecidableEq, Repr

namespace UnitVerifier

/-- Perform an operation on a unit, whatever it answers. -/
def perform (verifier : UnitVerifier σ) (id : String) : UnitOperation → StateM σ Unit
  | .generate now => do let _ ← (verifier.generate id now).run
  | .verify => do let _ ← verifier.verify id
  | .expire => do let _ ← (verifier.expire id).run

/-- Perform some operations on a unit, one after the other. -/
def performAll (verifier : UnitVerifier σ) (id : String) : List UnitOperation → StateM σ Unit
  | [] => return
  | operation :: operations => do
    verifier.perform id operation
    verifier.performAll id operations

/-- Whatever is done to a unit does not show in the status of another one. -/
def Isolated (verifier : UnitVerifier σ) (u v : String) (state : σ) : Prop :=
  ∀ operations : List UnitOperation,
    ((verifier.status v).run.run ((verifier.performAll u operations).run state).2).1 =
      ((verifier.status v).run.run state).1

/-- Ports that behave as maps, also when something is deleted. -/
structure MapStores (verifier : UnitVerifier σ) (Shows : σ → ProjectView → Prop) : Prop
    extends verifier.MapLike Shows where
  expire {state view} (shown : Shows state view) (unit : String) :
    ∃ next, (verifier.manifests.expire unit).run.run state = (.ok (), next) ∧
      Shows next { view with manifests := Function.update view.manifests unit none }
  remove {state view} (shown : Shows state view) (path : String) :
    ∃ next, (verifier.artifacts.remove path).run.run state = (.ok (), next) ∧
      Shows next { view with artifacts := Function.update view.artifacts path none }

theorem run_performAll_cons (verifier : UnitVerifier σ) (id : String) (operation : UnitOperation)
    (operations : List UnitOperation) (state : σ) :
    (verifier.performAll id (operation :: operations)).run state =
      (verifier.performAll id operations).run ((verifier.perform id operation).run state).2 := rfl

end UnitVerifier

namespace ProjectView

/-- The view without the manifest and the artifact of a unit. -/
def expired (view : ProjectView) (unit : ConfigUnit) : ProjectView where
  files := view.files
  contents := view.contents
  manifests := Function.update view.manifests unit.id none
  artifacts :=
    match unit.context with
    | some path => Function.update view.artifacts path none
    | none => view.artifacts

/-- The digest of the stored manifest of a unit, if that is accepted for these files. -/
def trusted (view : ProjectView) (verifier : UnitVerifier σ) (unit : ConfigUnit)
    (files : List String) : Option String :=
  (UnitEvidence.drift ⟨unit.id, view.manifests unit.id, files, none, []⟩ view.contents
    verifier.algorithm).2

/-- What is wrong with the artifact of a unit, when its files are these. -/
def artifactReasons (view : ProjectView) (verifier : UnitVerifier σ) (unit : ConfigUnit)
    (files : List String) : List DriftReason :=
  (view.artifact unit).elim [] fun text =>
    Artifact.check text unit.sections (view.trusted verifier unit files)

/-- If two units have an artifact in common, nothing is wrong with it for the second one, and it may
be stamped for the first one. -/
def Apart (view : ProjectView) (verifier : UnitVerifier σ) (u v : ConfigUnit) : Prop :=
  ∀ (path text : String) (files : List String), u.context = some path → v.context = some path →
    view.artifacts path = some text → view.files v.files = .ok files →
      Artifact.check text v.sections (view.trusted verifier v files) = [] ∧
        ∀ (now : Time.Instant) (manifest : Manifest),
          view.computed verifier u now = .ok manifest →
          ∀ digest, view.trusted verifier v files = some digest → digest = manifest.unitDigest

/-- What an operation on a unit may make of a view. -/
inductive Touched (view : ProjectView) (verifier : UnitVerifier σ) (unit : ConfigUnit) :
    ProjectView → Prop where
  | left : Touched view verifier unit view
  | generated {now : Time.Instant} {manifest : Manifest} {raw : String}
      (computed : view.computed verifier unit now = .ok manifest) :
      Touched view verifier unit (view.generated unit manifest.unitDigest raw)
  | expired : Touched view verifier unit (view.expired unit)

section Status

variable {view next : ProjectView} {verifier : UnitVerifier σ} {u v : ConfigUnit}

/-- The status of a unit is about its manifest and about its artifact. -/
theorem statusOf_eq (view : ProjectView) (verifier : UnitVerifier σ) (unit : ConfigUnit)
    (files : List String) :
    view.statusOf verifier unit files =
      .ofReasons ((UnitEvidence.drift ⟨unit.id, view.manifests unit.id, files, none, []⟩
        view.contents verifier.algorithm).1.reasons ++ view.artifactReasons verifier unit files) := by
  rw [statusOf, UnitEvidence.status, artifactReasons]
  cases view.artifact unit <;> rfl

/-- The manifest that is computed has a digest without blanks. -/
theorem solid_of_computed {now : Time.Instant} {manifest : Manifest}
    (computed : view.computed verifier u now = .ok manifest) :
    ∀ c ∈ manifest.unitDigest.toList, Text.isBlank c = false := by
  unfold ProjectView.computed at computed
  cases listed : view.files u.files with
  | error error =>
    rw [listed] at computed
    cases computed
  | ok files =>
    rw [listed] at computed
    exact Manifest.solid_of_compute computed

namespace Touched

variable (touched : view.Touched verifier u next)
include touched

theorem files_eq : next.files = view.files := by
  cases touched <;> rfl

theorem contents_eq : next.contents = view.contents := by
  cases touched <;> rfl

theorem manifests_eq {id : String} (other : id ≠ u.id) :
    next.manifests id = view.manifests id := by
  cases touched with
  | left => rfl
  | generated computed => exact Function.update_of_ne other _ _
  | expired => exact Function.update_of_ne other _ _

theorem artifacts_eq {path : String} (other : u.context ≠ some path) :
    next.artifacts path = view.artifacts path := by
  cases touched with
  | left => rfl
  | generated computed =>
    unfold ProjectView.generated
    cases context : u.context with
    | none => rfl
    | some own =>
      have apart : path ≠ own := by
        rintro rfl
        exact other context
      cases view.artifact u with
      | none => rfl
      | some text => exact Function.update_of_ne apart _ _
  | expired =>
    unfold ProjectView.expired
    cases context : u.context with
    | none => rfl
    | some own =>
      have apart : path ≠ own := by
        rintro rfl
        exact other context
      exact Function.update_of_ne apart _ _

/-- The artifact of the unit is left, stamped or removed. -/
theorem artifacts_cases {path : String} (context : u.context = some path) :
    next.artifacts path = view.artifacts path ∨ next.artifacts path = none ∨
      ∃ text now manifest, view.artifacts path = some text ∧
        view.computed verifier u now = .ok manifest ∧
        next.artifacts path = some (Artifact.stamp text manifest.unitDigest) := by
  cases touched with
  | left => exact Or.inl rfl
  | @generated now manifest raw computed =>
    have artifact : view.artifact u = view.artifacts path := by rw [ProjectView.artifact, context]; rfl
    unfold ProjectView.generated
    rw [context, artifact]
    dsimp only
    cases known : view.artifacts path with
    | none => exact Or.inl known
    | some text =>
      exact Or.inr (Or.inr ⟨text, now, manifest, rfl, computed, Function.update_self ..⟩)
  | expired =>
    unfold ProjectView.expired
    rw [context]
    exact Or.inr (Or.inl (Function.update_self ..))

theorem trusted_eq (other : v.id ≠ u.id) (files : List String) :
    next.trusted verifier v files = view.trusted verifier v files := by
  rw [trusted, touched.manifests_eq other, touched.contents_eq, trusted]

theorem computed_eq (now : Time.Instant) :
    next.computed verifier u now = view.computed verifier u now := by
  rw [computed, touched.files_eq, touched.contents_eq, computed]

/-- Nothing is wrong with a common artifact of units that are apart, before and after. -/
theorem check_eq_nil (apart : view.Apart verifier u v) {path text : String} {files : List String}
    (mine : u.context = some path) (its : v.context = some path)
    (listed : view.files v.files = .ok files) (found : next.artifacts path = some text) :
    Artifact.check text v.sections (view.trusted verifier v files) = [] := by
  rcases touched.artifacts_cases mine with same | gone | ⟨before, now, manifest, known, computed, stamped⟩
  · exact (apart path text files mine its (same ▸ found) listed).1
  · rw [gone] at found
    cases found
  · obtain ⟨sound, stampable⟩ := apart path before files mine its known listed
    obtain rfl := Option.some.inj (stamped.symm.trans found)
    have sections : Artifact.duplicateSections before.toList v.sections = [] :=
      (List.append_eq_nil_iff.mp sound).1
    rw [Artifact.check_stamp_eq (solid_of_computed computed), sections, List.nil_append,
      Artifact.stampReasons_singleton_eq_nil_iff]
    exact stampable now manifest computed

/-- Units that are apart stay apart. -/
theorem apart (other : v.id ≠ u.id) (apart : view.Apart verifier u v) : next.Apart verifier u v := by
  intro path text files mine its found listed
  rw [touched.files_eq] at listed
  rw [touched.trusted_eq other]
  refine ⟨touched.check_eq_nil apart mine its listed found, ?_⟩
  intro now manifest computed
  rw [touched.computed_eq] at computed
  rcases touched.artifacts_cases mine with same | gone | ⟨before, -, -, known, -, -⟩
  · exact (apart path text files mine its (same ▸ found) listed).2 now manifest computed
  · rw [gone] at found
    cases found
  · exact (apart path before files mine its known listed).2 now manifest computed

/-- What is wrong with the artifact of the one does not depend on what is done to the other. -/
theorem artifactReasons_eq (other : v.id ≠ u.id) (apart : view.Apart verifier u v)
    {files : List String} (listed : view.files v.files = .ok files) :
    next.artifactReasons verifier v files = view.artifactReasons verifier v files := by
  unfold artifactReasons
  rw [touched.trusted_eq other]
  unfold artifact
  cases its : v.context with
  | none => rfl
  | some path =>
    by_cases mine : u.context = some path
    · -- Before and after there is no artifact, or nothing is wrong with it.
      have quiet (shown : ProjectView) (touched : view.Touched verifier u shown) :
          ((shown.artifacts path).elim [] fun text =>
            Artifact.check text v.sections (view.trusted verifier v files)) = [] := by
        cases found : shown.artifacts path with
        | none => rfl
        | some text => exact touched.check_eq_nil apart mine its listed found
      exact (quiet next touched).trans (quiet view .left).symm
    · rw [Option.bind_some, Option.bind_some, touched.artifacts_eq mine]

/-- The status of the one does not depend on what is done to the other. -/
theorem answer_eq (other : v.id ≠ u.id) (apart : view.Apart verifier u v) :
    next.answer verifier v = view.answer verifier v := by
  unfold answer
  rw [touched.files_eq]
  cases listed : view.files v.files with
  | error error => rfl
  | ok files =>
    refine congrArg Except.ok ?_
    rw [statusOf_eq, statusOf_eq, touched.manifests_eq other, touched.contents_eq,
      touched.artifactReasons_eq other apart listed]

end Touched

/-- Two views in which a unit has the same status say the same of its artifact, when they say the
same of its manifest. -/
theorem artifactReasons_eq_of_answer_eq (touched : view.Touched verifier u next)
    (other : v.id ≠ u.id) {files : List String} (listed : view.files v.files = .ok files)
    (same : next.answer verifier v = view.answer verifier v) :
    next.artifactReasons verifier v files = view.artifactReasons verifier v files := by
  unfold answer at same
  rw [touched.files_eq, listed] at same
  have statuses := congrArg UnitStatus.reasons (Except.ok.inj same)
  rw [statusOf_eq, statusOf_eq, UnitStatus.reasons_ofReasons, UnitStatus.reasons_ofReasons,
    touched.manifests_eq other, touched.contents_eq] at statuses
  exact List.append_cancel_left statuses

/-- Units are apart when neither the removal of the artifact of the one nor a stamp shows in the
status of the other. -/
theorem apart_of_answer_eq (other : v.id ≠ u.id)
    (expired : (view.expired u).answer verifier v = view.answer verifier v)
    (generated : ∀ (now : Time.Instant) (manifest : Manifest),
      view.computed verifier u now = .ok manifest →
      ∃ raw, (view.generated u manifest.unitDigest raw).answer verifier v = view.answer verifier v) :
    view.Apart verifier u v := by
  intro path text files mine its found listed
  have before : view.artifactReasons verifier v files =
      Artifact.check text v.sections (view.trusted verifier v files) := by
    rw [artifactReasons, artifact, its, Option.bind_some, found, Option.elim_some]
  have sound : Artifact.check text v.sections (view.trusted verifier v files) = [] := by
    have removed : (view.expired u).artifactReasons verifier v files = [] := by
      have gone : (view.expired u).artifacts path = none := by
        unfold ProjectView.expired
        rw [mine]
        exact Function.update_self ..
      rw [artifactReasons, artifact, its, Option.bind_some, gone, Option.elim_none]
    have same := artifactReasons_eq_of_answer_eq .expired other listed expired
    rw [← before, ← same, removed]
  refine ⟨sound, ?_⟩
  intro now manifest computed
  obtain ⟨raw, unseen⟩ := generated now manifest computed
  have touched : view.Touched verifier u (view.generated u manifest.unitDigest raw) :=
    .generated computed
  have stamped : (view.generated u manifest.unitDigest raw).artifacts path =
      some (Artifact.stamp text manifest.unitDigest) := by
    have artifact : view.artifact u = some text := by
      rw [ProjectView.artifact, mine, Option.bind_some, found]
    unfold ProjectView.generated
    rw [mine, artifact]
    exact Function.update_self ..
  have same := artifactReasons_eq_of_answer_eq touched other listed unseen
  rw [before, sound, artifactReasons, artifact, its, Option.bind_some, stamped, Option.elim_some,
    Artifact.check_stamp_eq (solid_of_computed computed), touched.trusted_eq other] at same
  exact Artifact.stampReasons_singleton_eq_nil_iff.mp (List.append_eq_nil_iff.mp same).2

end Status

end ProjectView

namespace UnitVerifier

variable {verifier : UnitVerifier σ} {Shows : σ → ProjectView → Prop} {state : σ}
  {view : ProjectView} {u v : ConfigUnit}

/-- A unit of a validated configuration is found under its name. -/
theorem unit_of_validate {config : Config} (valid : config.validate = .ok ())
    (declares : verifier.units = config.units) (mem : u ∈ config.units) :
    verifier.unit u.id = .ok u := by
  obtain ⟨found, declared⟩ := exists_unit_eq_ok_iff.mpr ⟨u, declares ▸ mem, rfl⟩
  have memFound : found ∈ config.units := by
    unfold UnitVerifier.unit at declared
    split at declared
    · next known =>
      cases declared
      rw [← declares]
      exact List.mem_of_find?_eq_some known
    · cases declared
  have same : found = u :=
    Config.eq_of_foldedId_eq valid memFound mem (by rw [id_of_unit_eq_ok declared])
  rw [declared, same]

namespace MapStores

variable (stores : verifier.MapStores Shows) (declared : verifier.unit u.id = .ok u)
include stores declared

/-- Expiring a unit deletes its manifest and its artifact. -/
theorem run_expire (shown : Shows state view) :
    ∃ next, (verifier.expire u.id).run.run state = (.ok (), next) ∧ Shows next (view.expired u) := by
  obtain ⟨mid, deleted, shown⟩ := stores.expire shown u.id
  rw [UnitVerifier.expire, UnitM.run_bind_ok (by rw [UnitM.run_liftExcept, declared]),
    UnitM.run_bind_ok (UnitM.run_ofPort_eq_ok_iff.mpr deleted)]
  unfold ProjectView.expired
  cases u.context with
  | none => exact ⟨mid, rfl, shown⟩
  | some path =>
    obtain ⟨next, removed, shown⟩ := stores.remove shown path
    exact ⟨next, UnitM.run_ofPort_eq_ok_iff.mpr removed, shown⟩

/-- Every operation on a unit touches that unit alone. -/
theorem touched_perform (operation : UnitOperation) (shown : Shows state view) :
    ∃ next, Shows ((verifier.perform u.id operation).run state).2 next ∧
      view.Touched verifier u next := by
  cases operation with
  | generate now =>
    obtain ⟨last, step, outcome⟩ := stores.run_generate_eq_computed shown declared now
    have final : ((verifier.perform u.id (.generate now)).run state).2 = last :=
      congrArg Prod.snd step
    rw [final]
    rcases outcome with ⟨-, shown⟩ | ⟨manifest, raw, computed, -, shown⟩
    · exact ⟨view, shown, .left⟩
    · exact ⟨_, shown, .generated computed⟩
  | expire =>
    obtain ⟨last, step, shown⟩ := stores.run_expire declared shown
    have final : ((verifier.perform u.id .expire).run state).2 = last := congrArg Prod.snd step
    rw [final]
    exact ⟨_, shown, .expired⟩
  | verify =>
    obtain ⟨mid, judged, shown⟩ := stores.run_status_eq_answer shown declared
    obtain ⟨last, step, removed⟩ := stores.run_expire declared shown
    have final : ((verifier.perform u.id .verify).run state).2 =
        ((verifier.verify u.id).run state).2 := rfl
    rw [final, run_verify, judged]
    -- The unit is left when it is fresh, and expired otherwise.
    cases view.answer verifier u with
    | error error =>
      dsimp only
      rw [step]
      exact ⟨_, removed, .expired⟩
    | ok status =>
      cases status with
      | fresh => exact ⟨view, shown, .left⟩
      | expired reasons =>
        dsimp only
        rw [step]
        exact ⟨_, removed, .expired⟩

/-- Operations on a unit do not show in the status of one that is apart from it. -/
theorem answer_performAll (other : v.id ≠ u.id) (operations : List UnitOperation)
    (shown : Shows state view) (apart : view.Apart verifier u v) :
    ∃ next, Shows ((verifier.performAll u.id operations).run state).2 next ∧
      next.answer verifier v = view.answer verifier v := by
  induction operations generalizing state view with
  | nil => exact ⟨view, shown, rfl⟩
  | cons operation operations ih =>
    obtain ⟨mid, shown, touched⟩ := stores.touched_perform declared operation shown
    obtain ⟨next, shown, same⟩ := ih shown (touched.apart other apart)
    rw [run_performAll_cons]
    exact ⟨next, shown, same.trans (touched.answer_eq other apart)⟩

omit declared in
/-- What the status of a unit answers in a state that shows a view. -/
theorem answer_status (declaredV : verifier.unit v.id = .ok v) (shown : Shows state view) :
    ((verifier.status v.id).run.run state).1 = view.answer verifier v := by
  obtain ⟨_, judged, -⟩ := stores.run_status_eq_answer shown declaredV
  rw [judged]

/-- Isolated units are apart. -/
theorem apart_of_isolated (declaredV : verifier.unit v.id = .ok v) (other : v.id ≠ u.id)
    (shown : Shows state view) (isolated : verifier.Isolated u.id v.id state) :
    view.Apart verifier u v := by
  rw [Isolated, stores.answer_status declaredV shown] at isolated
  refine ProjectView.apart_of_answer_eq other ?_ ?_
  · obtain ⟨last, step, gone⟩ := stores.run_expire declared shown
    have final : ((verifier.performAll u.id [.expire]).run state).2 = last :=
      congrArg Prod.snd step
    have unseen := isolated [.expire]
    rwa [final, stores.answer_status declaredV gone] at unseen
  · intro now manifest computed
    obtain ⟨last, step, outcome⟩ := stores.run_generate_eq_computed shown declared now
    rcases outcome with ⟨⟨error, fails⟩, -⟩ | ⟨other, raw, same, -, generated⟩
    · cases fails.symm.trans computed
    · obtain rfl := Except.ok.inj (same.symm.trans computed)
      have final : ((verifier.performAll u.id [.generate now]).run state).2 = last :=
        congrArg Prod.snd step
      have unseen := isolated [.generate now]
      rw [final, stores.answer_status declaredV generated] at unseen
      exact ⟨raw, unseen⟩

/-- Units that are apart are isolated. -/
theorem isolated_of_apart (declaredV : verifier.unit v.id = .ok v) (other : v.id ≠ u.id)
    (shown : Shows state view) (apart : view.Apart verifier u v) :
    verifier.Isolated u.id v.id state := by
  intro operations
  obtain ⟨next, after, same⟩ := stores.answer_performAll declared other operations shown apart
  rw [stores.answer_status declaredV after, same, stores.answer_status declaredV shown]

end MapStores

/-- **When units are isolated.**  When the ports do not fail and behave as maps, two units of a
validated configuration are isolated exactly when they are apart: whatever is done to the first one
does not show in the status of the second one, if they have no artifact in common, or one with which
nothing is wrong for the second and that may be stamped for the first. -/
theorem isolated_iff {config : Config} (valid : config.validate = .ok ())
    (declares : verifier.units = config.units) (stores : verifier.MapStores Shows)
    (memU : u ∈ config.units) (memV : v ∈ config.units) (different : u.id ≠ v.id)
    (shown : Shows state view) :
    verifier.Isolated u.id v.id state ↔ view.Apart verifier u v := by
  have declaredU := unit_of_validate valid declares memU
  have declaredV := unit_of_validate valid declares memV
  constructor
  · exact stores.apart_of_isolated declaredU declaredV different.symm shown
  · exact stores.isolated_of_apart declaredU declaredV different.symm shown

end UnitVerifier

/-- The stores of a project in memory in which nothing is broken behave as maps. -/
theorem MemoryProject.mapStores_verifier (units : List ConfigUnit) (algorithm : Algorithm) :
    (verifier units algorithm).MapStores fun project view =>
      project.broken = [] ∧ project.view = view where
  toMapLike := mapLike_verifier units algorithm
  expire := by
    rintro project _ ⟨works, rfl⟩ unit
    refine ⟨_, run_guarded works _ _, works, ?_⟩
    exact congrArg (fun manifests => { project.view with manifests := manifests })
      (lookup_delete unit project.manifests)
  remove := by
    rintro project _ ⟨works, rfl⟩ path
    refine ⟨_, run_guarded works _ _, works, ?_⟩
    exact congrArg (fun artifacts => { project.view with artifacts := artifacts })
      (lookup_delete path project.artifacts)

/-! ### Two units and their artifacts -/

/-- The unit of the file `a`, with this artifact. -/
def unitOfA (context : String) : ConfigUnit :=
  { ConfigUnit.ofFiles "u" ["a"] with context := some context }

/-- The unit of the file `b`. -/
def unitOfB : ConfigUnit := { ConfigUnit.ofFiles "v" ["b"] with context := some "notes" }

/-- A configuration with both units. -/
def unitsOfAB (context : String) : Config where
  project := { sources := [] }
  units := [unitOfA context, unitOfB]

/-- The operations on both units. -/
def verifierOfAB (context : String) : UnitVerifier MemoryProject :=
  MemoryProject.verifier (unitsOfAB context).units .sha256

/-- A project with both files and the artifact of the second unit. -/
def projectOfAB : MemoryProject where
  files := [("a", []), ("b", [10])]
  artifacts := [("notes", "Why")]

namespace UnitVerifier

theorem mapStores_verifierOfAB (context : String) :
    (verifierOfAB context).MapStores fun project view =>
      project.broken = [] ∧ project.view = view :=
  MemoryProject.mapStores_verifier _ _

/-- Two units with artifacts of their own are isolated. -/
theorem isolated_own_artifacts :
    (unitsOfAB "others").validate = .ok () ∧ unitOfA "others" ∈ (unitsOfAB "others").units ∧
      unitOfB ∈ (unitsOfAB "others").units ∧ (unitOfA "others").id ≠ unitOfB.id ∧
      (verifierOfAB "others").Isolated "u" "v" projectOfAB := by
  have memU : unitOfA "others" ∈ (unitsOfAB "others").units := List.mem_cons_self
  have memV : unitOfB ∈ (unitsOfAB "others").units := List.mem_cons_of_mem _ List.mem_cons_self
  have different : (unitOfA "others").id ≠ unitOfB.id := by decide
  have apart : projectOfAB.view.Apart (verifierOfAB "others") (unitOfA "others") unitOfB := by
    intro path text files mine its
    cases mine
    exact absurd its (by decide)
  have valid : (unitsOfAB "others").validate = .ok () := by decide +kernel
  refine ⟨valid, memU, memV, different, ?_⟩
  exact (isolated_iff valid rfl (mapStores_verifierOfAB _) memU memV different ⟨rfl, rfl⟩).mpr apart

theorem paths_projectOfAB : projectOfAB.paths = ["a", "b"] :=
  List.mergeSort_of_pairwise (by decide)

theorem files_projectOfAB {name : String} {globs : List Glob} {files : List String}
    (compiles : Glob.ofStrings [name] = .ok globs)
    (matched : ["a", "b"].filter (Glob.anyAdmits globs) = files) :
    projectOfAB.view.files [name] = .ok files := by
  simp only [MemoryProject.view, compiles, paths_projectOfAB, matched]

/-- The manifests that are computed for the two units have different digests. -/
theorem exists_computed_projectOfAB :
    ∃ manifestA manifestB,
      Manifest.compute projectOfAB.view.contents "u" ["a"] .sha256 ⟨0, 0⟩ = .ok manifestA ∧
      Manifest.compute projectOfAB.view.contents "v" ["b"] .sha256 ⟨0, 0⟩ = .ok manifestB ∧
      manifestB.unitDigest ≠ manifestA.unitDigest := by
  have differ :
      (Manifest.compute projectOfAB.view.contents "v" ["b"] .sha256 ⟨0, 0⟩).map (·.unitDigest) ≠
        (Manifest.compute projectOfAB.view.contents "u" ["a"] .sha256 ⟨0, 0⟩).map (·.unitDigest) := by
    decide +kernel
  have works : (Manifest.compute projectOfAB.view.contents "u" ["a"] .sha256 ⟨0, 0⟩).isOk &&
      (Manifest.compute projectOfAB.view.contents "v" ["b"] .sha256 ⟨0, 0⟩).isOk = true := by
    decide +kernel
  cases first : Manifest.compute projectOfAB.view.contents "u" ["a"] .sha256 ⟨0, 0⟩ with
  | error error =>
    rw [first] at works
    cases works
  | ok manifestA =>
    cases second : Manifest.compute projectOfAB.view.contents "v" ["b"] .sha256 ⟨0, 0⟩ with
    | error error =>
      rw [first, second] at works
      cases works
    | ok manifestB =>
      rw [first, second] at differ
      exact ⟨manifestA, manifestB, rfl, rfl, fun same => differ (congrArg Except.ok same)⟩

/-- **A shared artifact.**  Two units of a validated configuration share an artifact.  After the
second one has been generated it is fresh, and it does not stay so when the first one is generated,
which stamps the artifact for its own manifest. -/
theorem shared_artifact_not_isolated :
    (unitsOfAB "notes").validate = .ok () ∧ unitOfA "notes" ∈ (unitsOfAB "notes").units ∧
      unitOfB ∈ (unitsOfAB "notes").units ∧ (unitOfA "notes").id ≠ unitOfB.id ∧
      (verifierOfAB "notes").MapStores (fun project view =>
        project.broken = [] ∧ project.view = view) ∧
      ∃ generated : MemoryProject, generated.broken = [] ∧
        (((verifierOfAB "notes").status "v").run.run generated).1 = .ok .fresh ∧
        ¬ (verifierOfAB "notes").Isolated "u" "v" generated := by
  have stores := mapStores_verifierOfAB "notes"
  refine ⟨by decide +kernel, List.mem_cons_self, List.mem_cons_of_mem _ List.mem_cons_self,
    by decide, stores, ?_⟩
  have filesA : projectOfAB.view.files ["a"] = .ok ["a"] :=
    files_projectOfAB rfl (by decide +kernel)
  have filesB : projectOfAB.view.files ["b"] = .ok ["b"] :=
    files_projectOfAB rfl (by decide +kernel)
  obtain ⟨manifestA, manifestB, computesA, computesB, differ⟩ := exists_computed_projectOfAB
  have computedA : projectOfAB.view.computed (verifierOfAB "notes") (unitOfA "notes") ⟨0, 0⟩
      = .ok manifestA := by
    show Except.bind (Except.mapError _ (projectOfAB.view.files ["a"])) _ = _
    rw [filesA]
    exact computesA
  have computedB : projectOfAB.view.computed (verifierOfAB "notes") unitOfB ⟨0, 0⟩
      = .ok manifestB := by
    show Except.bind (Except.mapError _ (projectOfAB.view.files ["b"])) _ = _
    rw [filesB]
    exact computesB
  have declaredA : (verifierOfAB "notes").unit (unitOfA "notes").id = .ok (unitOfA "notes") := rfl
  have declaredB : (verifierOfAB "notes").unit unitOfB.id = .ok unitOfB := rfl
  have works : projectOfAB.broken = [] ∧ projectOfAB.view = projectOfAB.view := ⟨rfl, rfl⟩
  obtain ⟨generated, -, outcome⟩ := stores.run_generate_eq_computed works declaredB ⟨0, 0⟩
  rcases outcome with ⟨⟨error, fails⟩, -⟩ | ⟨other, raw, same, stored, shown⟩
  · cases fails.symm.trans computedB
  obtain rfl := Except.ok.inj (same.symm.trans computedB)
  have named : Text.isBlankString "v" = false := by decide +kernel
  have ordinary : (⟨0, 0⟩ : Time.Instant).Ordinary := ⟨by decide, by decide, by decide⟩
  refine ⟨generated, shown.1, ?_, ?_⟩
  · obtain ⟨_, judged, -⟩ := stores.run_status shown declaredB filesB
    change (((verifierOfAB "notes").status unitOfB.id).run.run generated).1 = _
    rw [judged, ProjectView.statusOf_generated named ordinary computesB stored]
    exact congrArg Except.ok (by decide +kernel)
  · intro isolated
    have apart := stores.apart_of_isolated declaredA declaredB (by decide) shown isolated
    have stamped : (projectOfAB.view.generated unitOfB other.unitDigest raw).artifacts "notes" =
        some (Artifact.stamp "Why" other.unitDigest) := by
      have artifact : projectOfAB.view.artifact unitOfB = some "Why" := by decide +kernel
      have after := ProjectView.artifact_generated projectOfAB.view unitOfB other.unitDigest raw
      rw [artifact, Option.map_some] at after
      exact after
    have trusted : (projectOfAB.view.generated unitOfB other.unitDigest raw).trusted
        (verifierOfAB "notes") unitOfB ["b"] = some other.unitDigest :=
      congrArg Prod.snd (ProjectView.drift_generated named ordinary computesB stored none [])
    exact differ ((apart "notes" _ ["b"] rfl rfl stamped filesB).2 ⟨0, 0⟩ manifestA computedA _ trusted)

end UnitVerifier

end QualityGate
