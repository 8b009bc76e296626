import QualityGate.Rule.Check

/-!
# What a pattern rule reports of a file

A pattern rule looks at a file line by line, and the runs of a line are all that it looks at.

* `PatternRule.mem_scanFile_iff` – a line is reported for the first match in the first of its runs
  that has one.
* `PatternRule.pairwise_scanFile` – lines are reported in order, each at most once.
-/

namespace QualityGate

open QualityGate.Source

/-- The runs of a region on a line; lines count from one. -/
def SourceFile.runsOn (file : SourceFile) (region : Region) : Nat → List Run
  | 0 => []
  | line + 1 => (file.scanned.lineRuns region).getD line []

namespace PatternRule

variable {rule : PatternRule} {file : SourceFile}

/-- What a rule reports for a line. -/
def violation (rule : PatternRule) (path : String) (line : Nat) (m : Regex.Match) : Violation where
  ruleId := rule.id
  file := path
  line := line
  message := rule.message
  snippet := some (String.ofList m.matched)

/-- Nothing is reported where there are no runs. -/
theorem lineMatch?_nil (rule : PatternRule) : rule.lineMatch? [] = none := by
  rw [lineMatch?]
  split <;> rfl

/-- **What is reported of a file**: the lines in whose runs there is a match. -/
theorem mem_scanFile_iff {v : Violation} :
    v ∈ rule.scanFile file ↔ ∃ line m,
      rule.lineMatch? (file.runsOn rule.region line) = some m ∧
        v = rule.violation file.path line m := by
  rw [scanFile, List.mem_filterMap]
  constructor
  · rintro ⟨⟨runs, line⟩, listed, reported⟩
    obtain ⟨m, found, rfl⟩ := Option.map_eq_some_iff.mp reported
    obtain ⟨positive, here⟩ := List.mem_zipIdx_iff_le_and_getElem?_sub.mp listed
    obtain ⟨index, rfl⟩ := Nat.exists_eq_add_of_le' positive
    rw [Nat.add_sub_cancel] at here
    refine ⟨index + 1, m, ?_, ?_⟩
    · rw [SourceFile.runsOn, List.getD_eq_getElem?_getD, here]
      exact found
    · simp [violation, Violation.onLine]
  · rintro ⟨line, m, found, rfl⟩
    cases line with
    | zero =>
      rw [SourceFile.runsOn, lineMatch?_nil] at found
      cases found
    | succ index =>
      rw [SourceFile.runsOn, List.getD_eq_getElem?_getD] at found
      cases here : (file.scanned.lineRuns rule.region)[index]? with
      | none =>
        rw [here, Option.getD_none, lineMatch?_nil] at found
        cases found
      | some runs =>
        rw [here, Option.getD_some] at found
        refine ⟨(runs, index + 1), ?_, ?_⟩
        · exact List.mem_zipIdx_iff_le_and_getElem?_sub.mpr ⟨Nat.le_add_left _ _, here⟩
        · simp [found, violation, Violation.onLine]

/-- Lines are reported in order, each at most once. -/
theorem pairwise_scanFile (rule : PatternRule) (file : SourceFile) :
    (rule.scanFile file).Pairwise fun v w => v.line < w.line := by
  have numbers : ((file.scanned.lineRuns rule.region).zipIdx 1).Pairwise fun a b => a.2 < b.2 := by
    rw [← List.pairwise_map, List.zipIdx_map_snd]
    exact List.pairwise_lt_range' 1
  rw [scanFile, List.pairwise_filterMap]
  refine numbers.imp_of_mem fun listed _ less v first w second => ?_
  obtain ⟨_, -, rfl⟩ := Option.map_eq_some_iff.mp first
  obtain ⟨_, -, rfl⟩ := Option.map_eq_some_iff.mp second
  -- There is no line zero.
  have positive := List.le_snd_of_mem_zipIdx listed
  simp only [Violation.onLine]
  omega

end PatternRule

end QualityGate
