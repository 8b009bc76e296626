import Mathlib.Data.List.Nodup
import QualityGate.Project.Memory
import QualityGate.Proofs.Config.Validation

/-!
# References to units

A stage names the unit that it depends on twice: validation asks whether there is such a unit, and
when the stage runs the gate looks it up.  The first compares the name with the names of the units
in lower case, the second with the names as they are.

* `ResolvesAlike` is what one expects of the two: what validation accepts is found, and what would
  be found is not reported as unknown.
* `resolvesAlike_iff` says when the expectation is met: exactly when every unit that the outcome of
  the validation turns on (`TurnsOn`) has a name in lower case.  In particular it is met when all
  units have (`resolvesAlike_of_lowercase`).
* `capitals_resolve_apart` is a pair of configurations for which it is not.

### What is load-bearing

Accepted names of units differ without regard to case (`eq_of_foldedId_eq`), so a name in lower case
stands for at most one unit.
-/

namespace QualityGate

variable {σ : Type}

/-! ### The lookup when a stage runs -/

/-- The lookup succeeds exactly for the names of declared units. -/
theorem UnitVerifier.exists_unit_eq_ok_iff {verifier : UnitVerifier σ} {id : String} :
    (∃ unit, verifier.unit id = .ok unit) ↔ ∃ unit ∈ verifier.units, unit.id = id := by
  unfold UnitVerifier.unit
  cases found : verifier.units.find? (·.id == id) with
  | some unit =>
    have same : unit.id = id := by simpa using List.find?_some found
    exact ⟨fun _ => ⟨unit, List.mem_of_find?_eq_some found, same⟩, fun _ => ⟨unit, rfl⟩⟩
  | none =>
    rw [List.find?_eq_none] at found
    refine ⟨nofun, fun ⟨unit, mem, same⟩ => ?_⟩
    exact absurd (by simpa using same) (found unit mem)

namespace Config

variable {config : Config}

/-- What one expects of the references of a configuration.  The verifier stands for the ports; the
units are those of the configuration. -/
structure ResolvesAlike (config : Config) (verifier : UnitVerifier σ) : Prop where
  /-- The unit of every stage that is accepted is found. -/
  found : config.validate = .ok () → ∀ stage ∈ config.stages, stage.hasUnit = true →
    ∃ unit, { verifier with units := config.units }.unit stage.unit = .ok unit
  /-- A stage that names a declared unit is not reported. -/
  known : ∀ stage ∈ config.stages, (∃ unit ∈ config.units, unit.id = stage.unit) →
    config.validate ≠ .error (.unknownUnit stage.id stage.unit)

/-- The outcome of the validation turns on whether this unit is the one that the stage names. -/
inductive TurnsOn (config : Config) (stage : Stage) (unit : ConfigUnit) : Prop where
  /-- The stage was accepted because of the unit. -/
  | accepted (valid : config.validate = .ok ()) (folded : foldedId unit.id = stage.unit)
  /-- The stage is reported although it names the unit. -/
  | reported (unknown : config.validate = .error (.unknownUnit stage.id stage.unit))
      (exact : unit.id = stage.unit)

/-- A validated configuration has at most one unit for a name in lower case. -/
theorem eq_of_foldedId_eq (valid : config.validate = .ok ()) {a b : ConfigUnit}
    (memA : a ∈ config.units) (memB : b ∈ config.units) (same : foldedId a.id = foldedId b.id) :
    a = b :=
  List.inj_on_of_nodup_map (checkUnits_eq_ok_iff.mp (validate_eq_ok_iff.mp valid).1).2.2
    memA memB same

/-- A stage is accepted because of some unit. -/
theorem exists_foldedId_eq (valid : config.validate = .ok ()) {stage : Stage}
    (mem : stage ∈ config.stages) (depends : stage.hasUnit = true) :
    ∃ unit ∈ config.units, foldedId unit.id = stage.unit :=
  (checkStage_eq_ok_iff.mp
    ((checkStages_eq_ok_iff.mp (validate_eq_ok_iff.mp valid).2.1).1 stage mem)).2.1 depends

/-- When the units that the outcome turns on are in lower case, both comparisons are the same. -/
theorem resolvesAlike_of_turnsOn {verifier : UnitVerifier σ}
    (lowercase : ∀ stage ∈ config.stages, stage.hasUnit = true → ∀ unit ∈ config.units,
      config.TurnsOn stage unit → foldedId unit.id = unit.id) :
    config.ResolvesAlike verifier where
  found valid stage mem depends := by
    obtain ⟨unit, declared, folded⟩ := exists_foldedId_eq valid mem depends
    have lower := lowercase stage mem depends unit declared (.accepted valid folded)
    exact UnitVerifier.exists_unit_eq_ok_iff.mpr ⟨unit, declared, lower.symm.trans folded⟩
  known := by
    rintro stage mem ⟨unit, declared, exact⟩ unknown
    obtain ⟨other, -, -, same, depends, missing⟩ := exists_of_validate_eq_unknownUnit unknown
    -- The stage that was reported may be another one, but it names the same unit.
    rw [Stage.hasUnit, same] at depends
    have lower := lowercase stage mem depends unit declared (.reported unknown exact)
    exact missing unit declared (lower.trans (exact.trans same.symm))

/-- **When references resolve alike.**  What validation says of the references of a configuration is
what the lookup will say, exactly when every unit that the outcome turns on has a name in lower
case. -/
theorem resolvesAlike_iff {verifier : UnitVerifier σ} :
    config.ResolvesAlike verifier ↔
      ∀ stage ∈ config.stages, stage.hasUnit = true → ∀ unit ∈ config.units,
        config.TurnsOn stage unit → foldedId unit.id = unit.id := by
  refine ⟨fun alike stage mem depends unit declared turns => ?_, resolvesAlike_of_turnsOn⟩
  cases turns with
  | accepted valid folded =>
    obtain ⟨other, declared', exact⟩ :=
      UnitVerifier.exists_unit_eq_ok_iff.mp (alike.found valid stage mem depends)
    -- The unit that is found folds to the same name as the one that was accepted.
    have same : unit = other := by
      refine eq_of_foldedId_eq valid declared declared' ?_
      rw [exact, ← folded, foldedId_foldedId]
    rw [folded, ← exact, same]
  | reported unknown exact => exact absurd unknown (alike.known stage mem ⟨unit, declared, exact⟩)

/-- Capitals are the only obstacle. -/
theorem resolvesAlike_of_lowercase {verifier : UnitVerifier σ}
    (lowercase : ∀ unit ∈ config.units, foldedId unit.id = unit.id) :
    config.ResolvesAlike verifier :=
  resolvesAlike_of_turnsOn fun _ _ _ unit declared _ => lowercase unit declared

/-! ### A name with a capital -/

/-- A configuration with the unit `Policy` and a stage that names its unit in this way. -/
def naming (unit : String) : Config where
  project := { sources := [] }
  stages := [{ id := "policy", command := "check", unit := unit }]
  units := [.ofFiles "Policy" []]

/-- **Capitals resolve apart.**  The stage that names the unit in lower case is accepted, and its
unit is never found; the stage that names the unit as it is declared is reported. -/
theorem capitals_resolve_apart :
    ((naming "policy").validate = .ok () ∧
      ¬ (naming "policy").ResolvesAlike (MemoryProject.verifier [] .sha256)) ∧
    ((naming "Policy").validate = .error (.unknownUnit "policy" "Policy") ∧
      ¬ (naming "Policy").ResolvesAlike (MemoryProject.verifier [] .sha256)) := by
  refine ⟨⟨by rfl, fun alike => ?_⟩, ⟨by rfl, fun alike => ?_⟩⟩
  · obtain ⟨unit, found⟩ := alike.found (by rfl) _ List.mem_cons_self (by rfl)
    cases found
  · exact alike.known _ List.mem_cons_self ⟨_, List.mem_cons_self, by rfl⟩ (by rfl)

end Config

end QualityGate
