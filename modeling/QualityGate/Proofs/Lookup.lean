import Mathlib.Data.List.Nodup

/-!
# Looking up keys

An association list is read from its front, so what stands at one key is of no account at another
(`lookup_filter_ne`), and an entry counts when no other one has its key (`lookup_of_mem`).
-/

namespace QualityGate

variable {κ α : Type} [BEq κ] [LawfulBEq κ]

/-- Without the entries at a key, there is at any other key what there was. -/
theorem lookup_filter_ne {key other : κ} (different : other ≠ key) (entries : List (κ × α)) :
    (entries.filter (·.1 != key)).lookup other = entries.lookup other := by
  induction entries with
  | nil => rfl
  | cons entry entries ih =>
    obtain ⟨name, value⟩ := entry
    by_cases removed : name = key
    · subst removed
      have notIt : (other == name) = false := by simpa using different
      rw [List.filter_cons_of_neg (by simp), List.lookup_cons, notIt, ih]
    · rw [List.filter_cons_of_pos (by simpa using removed), List.lookup_cons, List.lookup_cons, ih]

/-- The value of an entry that is the only one at its key. -/
theorem lookup_of_mem {entries : List (κ × α)} {key : κ} {value : α}
    (distinct : (entries.map (·.1)).Nodup) (mem : (key, value) ∈ entries) :
    entries.lookup key = some value := by
  induction entries with
  | nil => cases mem
  | cons first entries ih =>
    obtain ⟨other, given⟩ := first
    obtain ⟨fresh, distinct⟩ := List.nodup_cons.mp distinct
    obtain same | later := List.mem_cons.mp mem
    · cases same
      rw [List.lookup_cons_self]
    · have notIt : (key == other) = false := by
        refine beq_false_of_ne ?_
        rintro rfl
        exact fresh (List.mem_map.mpr ⟨_, later, rfl⟩)
      rw [List.lookup_cons, notIt]
      exact ih distinct later

end QualityGate
