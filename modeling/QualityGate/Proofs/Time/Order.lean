import Mathlib.Data.Int.Order.Basic
import Mathlib.Data.Prod.Lex
import Mathlib.Order.Basic
import QualityGate.Time.Instant

/-!
# The order of instants

Instants are ordered by their seconds and then by their fraction, which is what
`Instant.isAfter` compares.
-/

namespace QualityGate.Time.Instant

variable {a b : Instant}

/-- The seconds of an instant and then its fraction. -/
def key (instant : Instant) : ℤ ×ₗ ℕ := toLex (instant.seconds, instant.nanos)

theorem key_injective : Function.Injective key := by
  rintro ⟨seconds, nanos⟩ ⟨seconds', nanos'⟩ same
  simpa [key] using same

/-- The later of two instants is the greater. -/
instance : LinearOrder Instant := LinearOrder.lift' key key_injective

theorem lt_iff : a < b ↔ a.seconds < b.seconds ∨ a.seconds = b.seconds ∧ a.nanos < b.nanos :=
  Prod.Lex.lt_iff

theorem le_iff : a ≤ b ↔ a.seconds < b.seconds ∨ a.seconds = b.seconds ∧ a.nanos ≤ b.nanos :=
  Prod.Lex.le_iff

theorem isAfter_iff : a.isAfter b = true ↔ b < a := by
  rw [lt_iff, isAfter, Bool.or_eq_true, Bool.and_eq_true, decide_eq_true_eq, decide_eq_true_eq,
    beq_iff_eq, eq_comm]

/-- Whether any of some instants is later than another. -/
theorem any_isAfter_iff {instants : List Instant} {since : Instant} :
    instants.any (·.isAfter since) = true ↔ ∃ instant ∈ instants, since < instant := by
  simp only [List.any_eq_true, isAfter_iff]

/-- Time that passes does not lead back. -/
theorem le_plusMillis (instant : Instant) (ms : Nat) : instant ≤ instant.plusMillis ms := by
  rw [le_iff]
  simp only [plusMillis, nanosPerSecond]
  omega

/-- The instant without its fraction. -/
def whole (instant : Instant) : Instant := ⟨instant.seconds, 0⟩

theorem whole_le (instant : Instant) : instant.whole ≤ instant :=
  le_iff.mpr (Or.inr ⟨rfl, Nat.zero_le _⟩)

/-- Without its fraction an instant is no later than an earlier one exactly when both fall into the
same second. -/
theorem whole_le_iff (early : a ≤ b) : b.whole ≤ a ↔ b.seconds = a.seconds := by
  rw [le_iff] at early ⊢
  simp only [whole, Nat.zero_le, and_true]
  omega

end QualityGate.Time.Instant
