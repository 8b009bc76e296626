import Mathlib.Data.List.Lex
import QualityGate.Path

/-!
# The order of paths

Paths are compared component by component.  The comparison is the lexicographic order of their keys,
and two paths have one key exactly when they have the same components (`key_eq_iff`).
-/

namespace QualityGate.Path

/-- Comparing lists item by item decides their lexicographic order. -/
theorem compare_eq_lt_iff {α : Type} [LT α] [Ord α] [Std.LawfulEqOrd α]
    (items : ∀ a b : α, compare a b = .lt ↔ a < b) (as bs : List α) :
    compare as bs = .lt ↔ as < bs := by
  induction as generalizing bs with
  | nil => cases bs <;> simp
  | cons a as ih =>
    cases bs with
    | nil => simp
    | cons b bs =>
      rw [List.compare_cons_cons, Ordering.then_eq_lt, List.cons_lt_cons_iff, items, ih,
        Std.compare_eq_iff_eq]

theorem order_eq_lt_iff {a b : String} : order a b = .lt ↔ key a < key b :=
  compare_eq_lt_iff (compare_eq_lt_iff fun _ _ => Nat.compare_eq_lt) _ _

theorem order_eq_eq_iff {a b : String} : order a b = .eq ↔ key a = key b :=
  Std.compare_eq_iff_eq

theorem Component.key_injective : Function.Injective Component.key := by
  have texts {a b : List Char} (same : a.map Char.toNat = b.map Char.toNat) : a = b :=
    List.map_injective_iff.mpr (fun _ _ => Char.toNat_inj.mp) same
  intro a b same
  cases a <;> cases b
  case name.name => exact congrArg Component.name (texts (List.cons.inj same).2)
  all_goals first | rfl | cases same

/-- Paths have one key exactly when they have the same components. -/
theorem key_eq_iff {a b : String} : key a = key b ↔ components a.toList = components b.toList :=
  (List.map_injective_iff.mpr Component.key_injective).eq_iff

end QualityGate.Path
