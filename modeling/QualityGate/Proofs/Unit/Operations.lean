import QualityGate.Proofs.Results
import QualityGate.Proofs.Run.Invariant
import QualityGate.Unit.Verifier

/-!
# Running operations on units

What an operation on a unit answers, and in which state it leaves the ports, step by step.  An error
ends the operation, but what the ports have done before it stays done, so an operation keeps what
each of its steps keeps; judging and expiring a unit keep what their ports keep
(`UnitVerifier.PortsKeep`).
-/

namespace QualityGate

namespace UnitM

variable {σ α β : Type}

theorem run_pure (a : α) (state : σ) : (pure a : UnitM σ α).run.run state = (.ok a, state) := rfl

theorem run_bind (x : UnitM σ α) (f : α → UnitM σ β) (state : σ) :
    (x >>= f).run.run state =
      match x.run.run state with
      | (.ok a, next) => (f a).run.run next
      | (.error error, next) => (.error error, next) := by
  rw [ExceptT.run_bind, StateT.run_bind]
  obtain ⟨answer, next⟩ := x.run.run state
  cases answer <;> rfl

/-- What comes after a step that goes through. -/
theorem run_bind_ok {x : UnitM σ α} {f : α → UnitM σ β} {state next : σ} {a : α}
    (step : x.run.run state = (.ok a, next)) :
    (x >>= f).run.run state = (f a).run.run next := by
  rw [run_bind, step]

/-- An operation that goes through does so step by step. -/
theorem run_bind_eq_ok_iff {x : UnitM σ α} {f : α → UnitM σ β} {state last : σ} {b : β} :
    (x >>= f).run.run state = (.ok b, last) ↔
      ∃ a next, x.run.run state = (.ok a, next) ∧ (f a).run.run next = (.ok b, last) := by
  rw [run_bind]
  obtain ⟨answer, next⟩ := x.run.run state
  cases answer with
  | error error => exact ⟨nofun, fun ⟨_, _, step, _⟩ => nomatch step⟩
  | ok a =>
    refine ⟨fun rest => ⟨a, next, rfl, rest⟩, fun ⟨_, _, step, rest⟩ => ?_⟩
    cases step
    exact rest

/-- An operation that fails does so at once, or after a step that goes through. -/
theorem run_bind_eq_error_iff {x : UnitM σ α} {f : α → UnitM σ β} {state last : σ}
    {error : ManifestError} :
    (x >>= f).run.run state = (.error error, last) ↔
      x.run.run state = (.error error, last) ∨
        ∃ a next, x.run.run state = (.ok a, next) ∧ (f a).run.run next = (.error error, last) := by
  rw [run_bind]
  obtain ⟨answer, next⟩ := x.run.run state
  cases answer with
  | error other =>
    constructor
    · intro fails
      cases fails
      exact Or.inl rfl
    · rintro (fails | ⟨_, _, step, _⟩)
      · cases fails
        rfl
      · cases step
  | ok a =>
    constructor
    · intro later
      exact Or.inr ⟨a, next, rfl, later⟩
    · rintro (fails | ⟨_, _, step, later⟩)
      · cases fails
      · cases step
        exact later

/-- An answer that needs no port. -/
theorem run_liftExcept (answer : Except ManifestError α) (state : σ) :
    (liftM answer : UnitM σ α).run.run state = (answer, state) := by
  cases answer <;> rfl

theorem run_liftExcept_eq_ok_iff {answer : Except ManifestError α} {state next : σ} {a : α} :
    (liftM answer : UnitM σ α).run.run state = (.ok a, next) ↔ answer = .ok a ∧ state = next := by
  rw [run_liftExcept, Prod.mk.injEq]

theorem run_liftExcept_eq_error_iff {answer : Except ManifestError α} {state next : σ}
    {error : ManifestError} :
    (liftM answer : UnitM σ α).run.run state = (.error error, next) ↔
      answer = .error error ∧ state = next := by
  rw [run_liftExcept, Prod.mk.injEq]

/-- An operation that cannot fail. -/
theorem run_liftState (operation : StateM σ α) (state : σ) :
    (liftM operation : UnitM σ α).run.run state =
      (.ok (operation.run state).1, (operation.run state).2) := rfl

theorem run_liftState_eq_ok_iff {operation : StateM σ α} {state next : σ} {a : α} :
    (liftM operation : UnitM σ α).run.run state = (.ok a, next) ↔
      operation.run state = (a, next) := by
  rw [run_liftState, Prod.mk.injEq, Except.ok.injEq, ← Prod.mk.injEq]
  exact Iff.rfl

/-- An operation of a port. -/
theorem run_ofPort (operation : PortM σ α) (state : σ) :
    (ofPort operation).run.run state =
      ((operation.run.run state).1.mapError fun error => .store error.message,
        (operation.run.run state).2) := by
  rfl

theorem run_ofPort_eq_ok_iff {operation : PortM σ α} {state next : σ} {a : α} :
    (ofPort operation).run.run state = (.ok a, next) ↔
      operation.run.run state = (.ok a, next) := by
  rw [run_ofPort, Prod.mk.injEq, mapError_eq_ok_iff, ← Prod.mk.injEq]
  exact Iff.rfl

/-- Of an error of a port only what failed is kept. -/
theorem run_ofPort_eq_error_iff {operation : PortM σ α} {state next : σ} {error : ManifestError} :
    (ofPort operation).run.run state = (.error error, next) ↔
      ∃ failure, error = .store failure.message ∧
        operation.run.run state = (.error failure, next) := by
  rw [run_ofPort]
  obtain ⟨answer, last⟩ := operation.run.run state
  cases answer with
  | error failure =>
    constructor
    · intro fails
      cases fails
      exact ⟨failure, rfl, rfl⟩
    · rintro ⟨_, rfl, same⟩
      cases same
      rfl
  | ok a =>
    constructor
    · intro fails
      cases fails
    · rintro ⟨_, _, same⟩
      cases same

/-! ### What operations keep -/

section Keeps

variable {inv : σ → Prop}

theorem keeps_pure (a : α) : Keeps inv (pure a : UnitM σ α).run := fun _ holds => holds

theorem keeps_liftState {operation : StateM σ α} (keeps : Keeps inv operation) :
    Keeps inv (liftM operation : UnitM σ α).run := keeps

theorem keeps_ofPort {operation : PortM σ α} (keeps : Keeps inv operation.run) :
    Keeps inv (ofPort operation).run := keeps

/-- What comes after an answer that needs no port may be judged by the answer. -/
theorem keeps_liftExcept_bind {answer : Except ManifestError α} {f : α → UnitM σ β}
    (later : ∀ a, answer = .ok a → Keeps inv (f a).run) :
    Keeps inv (liftM answer >>= f : UnitM σ β).run := by
  cases answer with
  | error error => exact fun _ holds => holds
  | ok a => exact later a rfl

end Keeps

end UnitM

namespace UnitVerifier

variable {σ : Type} {verifier : UnitVerifier σ} {inv : σ → Prop}

/-- The ports that a unit is judged and expired with keep what holds of the state. -/
structure PortsKeep (verifier : UnitVerifier σ) (inv : σ → Prop) : Prop where
  list (globs : List String) : Keeps inv (verifier.workspace.listMatching globs).run
  contents : Keeps inv verifier.contents
  read (path : String) : Keeps inv (verifier.artifacts.read path).run
  remove (path : String) : Keeps inv (verifier.artifacts.remove path).run
  load (unit : String) : Keeps inv (verifier.manifests.load unit).run
  expire (unit : String) : Keeps inv (verifier.manifests.expire unit).run

namespace PortsKeep

variable (ports : verifier.PortsKeep inv)
include ports

theorem keeps_liveFiles (unit : ConfigUnit) : Keeps inv (verifier.liveFiles unit).run :=
  UnitM.keeps_ofPort (ports.list unit.files)

theorem keeps_artifactText (unit : ConfigUnit) : Keeps inv (verifier.artifactText unit).run := by
  unfold artifactText
  split
  · exact UnitM.keeps_ofPort (ports.read _)
  · exact UnitM.keeps_pure _

theorem keeps_status (id : String) : Keeps inv (verifier.status id).run := by
  refine UnitM.keeps_liftExcept_bind fun unit declared => ?_
  refine Keeps.bindExcept (ports.keeps_liveFiles unit) fun files => ?_
  refine Keeps.bindExcept (UnitM.keeps_ofPort (ports.load id)) fun raw => ?_
  refine Keeps.bindExcept (ports.keeps_artifactText unit) fun text => ?_
  exact Keeps.bindExcept (UnitM.keeps_liftState ports.contents) fun read => UnitM.keeps_pure _

theorem keeps_expire (id : String) : Keeps inv (verifier.expire id).run := by
  refine UnitM.keeps_liftExcept_bind fun unit declared => ?_
  refine Keeps.bindExcept (UnitM.keeps_ofPort (ports.expire id)) fun _ => ?_
  split
  · exact UnitM.keeps_ofPort (ports.remove _)
  · exact UnitM.keeps_pure _

theorem keeps_verify (id : String) : Keeps inv (verifier.verify id) := by
  refine (ports.keeps_status id).bind fun answer => ?_
  cases answer with
  | error error => exact (ports.keeps_expire id).bind fun _ => Keeps.pure _
  | ok status =>
    cases status with
    | fresh => exact Keeps.pure _
    | expired reasons => exact (ports.keeps_expire id).bind fun _ => Keeps.pure _

end PortsKeep

end UnitVerifier

end QualityGate
