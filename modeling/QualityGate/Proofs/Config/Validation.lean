import QualityGate.Config.Validation
import QualityGate.Proofs.Text.Order

/-!
# What validation accepts and what it reports

Validation is a chain of checks of which the first failure counts.  Two things follow for the chain
as a whole:

* `validate_eq_ok_iff`: a configuration is accepted exactly when every link of the chain accepts it.
  What the links for units, stages and rules accept does not depend on the order in which they look
  at things (`checkUnits_eq_ok_iff`, `checkStages_eq_ok_iff`, `checkRules_eq_ok_iff`).
* `exists_of_validate_eq_unknownUnit`: an unknown unit is reported for a stage of the configuration,
  and only if no declared unit has the name that the stage gives, once in lower case.
-/

namespace QualityGate

/-! ### Case -/

theorem toNat_toLower (c : Char) :
    c.toLower.toNat =
      if 0x41 ≤ c.toNat ∧ c.toNat ≤ 0x5A then c.toNat + 0x20 else c.toNat := by
  by_cases capital : 0x41 ≤ c.toNat ∧ c.toNat ≤ 0x5A
  · have inside : c.val ≥ 'A'.val ∧ c.val ≤ 'Z'.val :=
      ⟨UInt32.le_iff_toNat_le.mpr capital.1, UInt32.le_iff_toNat_le.mpr capital.2⟩
    have small : c.val.toNat + 0x20 < 2 ^ 32 := by
      have last : c.val.toNat ≤ 0x5A := capital.2
      omega
    have lower : c.toLower = ⟨c.val + 0x20, _⟩ := dif_pos inside
    rw [lower, if_pos capital]
    exact (UInt32.toNat_add _ _).trans (Nat.mod_eq_of_lt small)
  · have outside : ¬ (c.val ≥ 'A'.val ∧ c.val ≤ 'Z'.val) := by
      rintro ⟨first, last⟩
      exact capital ⟨UInt32.le_iff_toNat_le.mp first, UInt32.le_iff_toNat_le.mp last⟩
    have same : c.toLower = c := dif_neg outside
    rw [same, if_neg capital]

theorem toLower_toLower (c : Char) : c.toLower.toLower = c.toLower := by
  have lower : ¬ (0x41 ≤ c.toLower.toNat ∧ c.toLower.toNat ≤ 0x5A) := by
    rw [toNat_toLower]
    split <;> omega
  rw [← Char.toNat_inj, toNat_toLower c.toLower, if_neg lower]

namespace Config

variable {units : List ConfigUnit} {stages : List Stage} {earlier : List String}

/-! ### One check after the other -/

theorem bind_eq_ok_iff {first second : Except ConfigError Unit} :
    (first >>= fun _ => second) = .ok () ↔ first = .ok () ∧ second = .ok () := by
  cases first with
  | error problem => exact ⟨nofun, nofun⟩
  | ok => exact ⟨fun passes => ⟨rfl, passes⟩, fun passes => passes.2⟩

theorem bind_eq_error_iff {first second : Except ConfigError Unit} {problem : ConfigError} :
    (first >>= fun _ => second) = .error problem ↔
      first = .error problem ∨ first = .ok () ∧ second = .error problem := by
  cases first with
  | error other =>
    refine ⟨Or.inl, fun fails => ?_⟩
    rcases fails with same | ⟨same, -⟩
    · exact same
    · cases same
  | ok =>
    refine ⟨fun fails => Or.inr ⟨rfl, fails⟩, fun fails => ?_⟩
    rcases fails with same | ⟨-, fails⟩
    · cases same
    · exact fails

/-! ### Units -/

@[simp] theorem foldedId_foldedId (id : String) : foldedId (foldedId id) = foldedId id := by
  rw [foldedId, foldedId, String.toList_ofList, List.map_map]
  exact congrArg String.ofList (List.map_congr_left fun c _ => toLower_toLower c)

/-- Units are accepted when their globs compile and their names differ without regard to case. -/
theorem checkUnits_eq_ok_iff :
    checkUnits earlier units = .ok () ↔
      (∀ unit ∈ units, checkGlobs unit.id unit.files = .ok ()) ∧
        (∀ unit ∈ units, foldedId unit.id ∉ earlier.map foldedId) ∧
        (units.map (foldedId ·.id)).Nodup := by
  induction units generalizing earlier with
  | nil => simp [checkUnits]
  | cons unit units ih =>
    rw [checkUnits]
    cases clash : earlier.find? fun id => foldedId id == foldedId unit.id with
    | some first =>
      have same : foldedId first = foldedId unit.id := by simpa using List.find?_some clash
      refine ⟨nofun, fun ⟨_, fresh, _⟩ => ?_⟩
      refine absurd (List.mem_map.mpr ⟨first, ?_, same⟩) (fresh unit List.mem_cons_self)
      exact List.mem_of_find?_eq_some clash
    | none =>
      have fresh : foldedId unit.id ∉ earlier.map foldedId := by simpa using clash
      simp only [bind_eq_ok_iff, ih, List.map_cons, Text.forall_notMem_cons_iff,
        List.forall_mem_cons, List.nodup_cons]
      constructor
      · rintro ⟨globs, others, ⟨apart, new⟩, distinct⟩
        exact ⟨⟨globs, others⟩, ⟨fresh, apart⟩, new, distinct⟩
      · rintro ⟨⟨globs, others⟩, ⟨-, apart⟩, new, distinct⟩
        exact ⟨globs, others, ⟨apart, new⟩, distinct⟩

/-! ### Stages -/

theorem checkStage_eq (units : List ConfigUnit) (stage : Stage) :
    checkStage units stage =
      if Text.isBlankString stage.command then .error (.emptyCommand stage.id)
      else if stage.hasUnit && ! units.any (foldedId ·.id == stage.unit) then
        .error (.unknownUnit stage.id stage.unit)
      else checkGlobs stage.id stage.files >>= fun _ => checkGlobs stage.id stage.requires := by
  unfold checkStage
  split
  · rfl
  · split <;> rfl

/-- What is checked of a stage by itself. -/
theorem checkStage_eq_ok_iff {stage : Stage} :
    checkStage units stage = .ok () ↔
      Text.isBlankString stage.command = false ∧
        (stage.hasUnit = true → ∃ unit ∈ units, foldedId unit.id = stage.unit) ∧
        checkGlobs stage.id stage.files = .ok () ∧ checkGlobs stage.id stage.requires = .ok () := by
  have declared : (stage.hasUnit && ! units.any (foldedId ·.id == stage.unit)) = false ↔
      (stage.hasUnit = true → ∃ unit ∈ units, foldedId unit.id = stage.unit) := by
    cases stage.hasUnit <;> simp
  rw [checkStage_eq, ← declared]
  cases Text.isBlankString stage.command with
  | true => simp
  | false =>
    cases stage.hasUnit && ! units.any (foldedId ·.id == stage.unit) with
    | true => simp
    | false => simp [bind_eq_ok_iff]

/-- Stages are accepted when each is by itself and their names differ. -/
theorem checkStages_eq_ok_iff :
    checkStages units earlier stages = .ok () ↔
      (∀ stage ∈ stages, checkStage units stage = .ok ()) ∧
        (∀ stage ∈ stages, stage.id ∉ earlier) ∧ (stages.map (·.id)).Nodup := by
  induction stages generalizing earlier with
  | nil => simp [checkStages]
  | cons stage stages ih =>
    rw [checkStages]
    by_cases known : stage.id ∈ earlier
    · rw [if_pos (List.contains_iff_mem.mpr known)]
      refine ⟨nofun, fun ⟨_, fresh, _⟩ => ?_⟩
      exact absurd known (fresh stage List.mem_cons_self)
    · rw [if_neg (mt List.contains_iff_mem.mp known)]
      simp only [bind_eq_ok_iff, ih, List.map_cons, Text.forall_notMem_cons_iff,
        List.forall_mem_cons, List.nodup_cons]
      constructor
      · rintro ⟨passes, others, ⟨apart, new⟩, distinct⟩
        exact ⟨⟨passes, others⟩, ⟨known, apart⟩, new, distinct⟩
      · rintro ⟨⟨passes, others⟩, ⟨-, apart⟩, new, distinct⟩
        exact ⟨passes, others, ⟨apart, new⟩, distinct⟩

/-! ### Globs, the secondary suite and rules -/

theorem checkGlobs_eq_ok_iff {owner : String} {globs : List String} :
    checkGlobs owner globs = .ok () ↔ ∃ compiled, Glob.ofStrings globs = .ok compiled := by
  unfold checkGlobs
  cases Glob.ofStrings globs <;> simp

theorem checkSecondary_eq_ok_iff {secondary : Option SecondarySuite} :
    checkSecondary secondary = .ok () ↔
      ∀ suite, secondary = some suite → Text.isBlankString suite.command = false := by
  cases secondary with
  | none => simp [checkSecondary]
  | some suite => cases blank : Text.isBlankString suite.command <;> simp [checkSecondary, blank]

/-- Rules are accepted when each is one and their names differ. -/
theorem checkRules_eq_ok_iff {specs : List RuleSpec} :
    checkRules earlier specs = .ok () ↔
      (∀ spec ∈ specs, ∃ rule, Rule.ofSpec spec = .ok rule) ∧
        (∀ spec ∈ specs, spec.id ∉ earlier) ∧ (specs.map (·.id)).Nodup := by
  induction specs generalizing earlier with
  | nil => simp [checkRules]
  | cons spec specs ih =>
    rw [checkRules]
    by_cases known : spec.id ∈ earlier
    · rw [if_pos (List.contains_iff_mem.mpr known)]
      refine ⟨nofun, fun ⟨_, fresh, _⟩ => ?_⟩
      exact absurd known (fresh spec List.mem_cons_self)
    · rw [if_neg (mt List.contains_iff_mem.mp known)]
      cases built : Rule.ofSpec spec with
      | error cause =>
        refine ⟨nofun, fun ⟨rules, _, _⟩ => ?_⟩
        obtain ⟨rule, ready⟩ := rules spec List.mem_cons_self
        rw [built] at ready
        cases ready
      | ok rule =>
        simp only [ih, List.map_cons, Text.forall_notMem_cons_iff, List.forall_mem_cons,
          List.nodup_cons]
        constructor
        · rintro ⟨others, ⟨apart, new⟩, distinct⟩
          exact ⟨⟨⟨rule, built⟩, others⟩, ⟨known, apart⟩, new, distinct⟩
        · rintro ⟨⟨-, others⟩, ⟨-, apart⟩, new, distinct⟩
          exact ⟨others, ⟨apart, new⟩, distinct⟩

/-! ### The whole chain -/

theorem validate_eq_ok_iff {config : Config} :
    config.validate = .ok () ↔
      checkUnits [] config.units = .ok () ∧ checkStages config.units [] config.stages = .ok () ∧
        checkSecondary config.secondary = .ok () ∧ checkRules [] config.rules = .ok () ∧
        checkGlobs "project.sources" config.project.sources = .ok () := by
  simp only [validate, bind_eq_ok_iff]

/-! ### Unknown units -/

theorem checkGlobs_ne_unknownUnit (owner : String) (globs : List String) (stage unit : String) :
    checkGlobs owner globs ≠ .error (.unknownUnit stage unit) := by
  unfold checkGlobs
  split <;> simp

theorem checkUnits_ne_unknownUnit (stage unit : String) :
    checkUnits earlier units ≠ .error (.unknownUnit stage unit) := by
  induction units generalizing earlier with
  | nil => simp [checkUnits]
  | cons first units ih =>
    rw [checkUnits]
    split
    · split <;> simp
    · rw [ne_eq, bind_eq_error_iff, not_or, not_and]
      exact ⟨checkGlobs_ne_unknownUnit _ _ _ _, fun _ => ih⟩

theorem checkSecondary_ne_unknownUnit (suite : Option SecondarySuite) (stage unit : String) :
    checkSecondary suite ≠ .error (.unknownUnit stage unit) := by
  unfold checkSecondary
  split
  · split <;> simp
  · simp

theorem checkRules_ne_unknownUnit (specs : List RuleSpec) (stage unit : String) :
    checkRules earlier specs ≠ .error (.unknownUnit stage unit) := by
  induction specs generalizing earlier with
  | nil => simp [checkRules]
  | cons spec specs ih =>
    rw [checkRules]
    split
    · simp
    · split
      · simp
      · exact ih

/-- A stage reports an unknown unit only under its own name and that of its unit, and only when no
declared unit has that name in lower case. -/
theorem checkStage_eq_unknownUnit {stage : Stage} {id name : String}
    (reported : checkStage units stage = .error (.unknownUnit id name)) :
    stage.id = id ∧ stage.unit = name ∧ stage.hasUnit = true ∧
      ∀ unit ∈ units, foldedId unit.id ≠ stage.unit := by
  rw [checkStage_eq] at reported
  split at reported
  · cases reported
  · split at reported
    · next unknown =>
      cases reported
      simpa using unknown
    · rw [bind_eq_error_iff] at reported
      rcases reported with reported | ⟨-, reported⟩
      · exact absurd reported (checkGlobs_ne_unknownUnit _ _ _ _)
      · exact absurd reported (checkGlobs_ne_unknownUnit _ _ _ _)

theorem exists_of_checkStages_eq_unknownUnit {id name : String}
    (reported : checkStages units earlier stages = .error (.unknownUnit id name)) :
    ∃ stage ∈ stages, stage.id = id ∧ stage.unit = name ∧ stage.hasUnit = true ∧
      ∀ unit ∈ units, foldedId unit.id ≠ stage.unit := by
  induction stages generalizing earlier with
  | nil => cases reported
  | cons stage stages ih =>
    rw [checkStages] at reported
    split at reported
    · cases reported
    · rcases bind_eq_error_iff.mp reported with here | ⟨-, later⟩
      · exact ⟨stage, List.mem_cons_self, checkStage_eq_unknownUnit here⟩
      · obtain ⟨other, mem, facts⟩ := ih later
        exact ⟨other, List.mem_cons_of_mem _ mem, facts⟩

theorem exists_of_validate_eq_unknownUnit {config : Config} {id name : String}
    (reported : config.validate = .error (.unknownUnit id name)) :
    ∃ stage ∈ config.stages, stage.id = id ∧ stage.unit = name ∧ stage.hasUnit = true ∧
      ∀ unit ∈ config.units, foldedId unit.id ≠ stage.unit := by
  simp only [validate, bind_eq_error_iff] at reported
  rcases reported with units | ⟨-, stages | ⟨-, suite | ⟨-, rules | ⟨-, globs⟩⟩⟩⟩
  · exact absurd units (checkUnits_ne_unknownUnit _ _)
  · exact exists_of_checkStages_eq_unknownUnit stages
  · exact absurd suite (checkSecondary_ne_unknownUnit _ _ _)
  · exact absurd rules (checkRules_ne_unknownUnit _ _ _)
  · exact absurd globs (checkGlobs_ne_unknownUnit _ _ _ _)

end Config

end QualityGate
