import Mathlib.Algebra.Group.Nat.Defs
import QualityGate.Json.Parser
import QualityGate.Time.Rfc3339

/-!
# Decimal digits

Numbers are written with the digits that the library gives them, and read by taking the longest run
of digits.  So a number is read back when what follows it is no digit (`takeWhile_isDigit_append`).
-/

namespace QualityGate

/-- The digits of a number. -/
abbrev digitsOf (n : Nat) : List Char := Nat.toDigits 10 n

theorem toList_toString_nat (n : Nat) : (toString n).toList = digitsOf n := by
  rw [Nat.toString_eq_ofList_toDigits, String.toList_ofList]

theorem isDigit_of_mem_digitsOf {n : Nat} {c : Char} (mem : c ∈ digitsOf n) : c.isDigit = true :=
  Nat.isDigit_of_mem_toDigits (by decide) (by decide) mem

theorem ne_of_isDigit {c d : Char} (digit : c.isDigit = true) (noDigit : d.isDigit = false) :
    c ≠ d := by
  rintro rfl
  rw [digit] at noDigit
  contradiction

theorem Text.isBlank_of_isDigit {c : Char} (digit : c.isDigit = true) : Text.isBlank c = false := by
  have bounds : 48 ≤ c.toNat ∧ c.toNat ≤ 57 := Char.isDigit_iff_toNat.mp digit
  simp [Text.isBlank]
  omega

theorem exists_digitsOf_eq_cons (n : Nat) :
    ∃ c rest, digitsOf n = c :: rest ∧ c.isDigit = true := by
  obtain ⟨c, rest, begins⟩ := List.exists_cons_of_ne_nil (Nat.toDigits_ne_nil (n := n) (b := 10))
  have mem : c ∈ digitsOf n := by
    rw [digitsOf, begins]
    exact List.mem_cons_self
  exact ⟨c, rest, begins, isDigit_of_mem_digitsOf mem⟩

/-- A number other than zero does not begin with a zero. -/
theorem exists_digitsOf_eq_cons_of_pos {n : Nat} (positive : 0 < n) :
    ∃ c rest, digitsOf n = c :: rest ∧ c ≠ '0' := by
  by_cases small : n < 10
  · refine ⟨n.digitChar, [], Nat.toDigits_of_lt_base small, ?_⟩
    have all : ∀ m : Fin 10, m.val ≠ 0 → m.val.digitChar ≠ '0' := by decide
    exact all ⟨n, small⟩ (by simpa using Nat.ne_of_gt positive)
  · obtain ⟨c, rest, digits, nonzero⟩ := exists_digitsOf_eq_cons_of_pos (n := n / 10) (by omega)
    refine ⟨c, rest ++ [(n % 10).digitChar], ?_, nonzero⟩
    rw [digitsOf, Nat.toDigits_of_base_le (by decide) (by omega)]
    exact congrArg (· ++ [(n % 10).digitChar]) digits

/-- So many digits are worth less than a one with so many zeros. -/
theorem ofDigitChars_lt {digits : List Char} (all : ∀ c ∈ digits, c.isDigit = true) :
    Nat.ofDigitChars 10 digits 0 < 10 ^ digits.length := by
  induction digits with
  | nil => simp
  | cons c digits ih =>
    obtain ⟨first, others⟩ := List.forall_mem_cons.mp all
    have bounds : 48 ≤ c.toNat ∧ c.toNat ≤ 57 := Char.isDigit_iff_toNat.mp first
    have rest := ih others
    have value : c.toNat - '0'.toNat ≤ 9 := by
      have zero : '0'.toNat = 48 := rfl
      omega
    rw [Nat.ofDigitChars_cons, Nat.mul_zero, Nat.zero_add, Nat.ofDigitChars_eq_ofDigitChars_zero,
      List.length_cons, Nat.pow_succ]
    have leading := Nat.mul_le_mul_left (10 ^ digits.length) value
    omega

/-- What follows does not go on with a digit. -/
def NoDigit (rest : List Char) : Prop := ∀ c ∈ rest.head?, c.isDigit = false

theorem takeWhile_isDigit_append {digits rest : List Char}
    (all : ∀ c ∈ digits, c.isDigit = true) (ends : NoDigit rest) :
    (digits ++ rest).takeWhile Char.isDigit = digits ∧
      (digits ++ rest).dropWhile Char.isDigit = rest := by
  rw [List.takeWhile_append_of_pos all, List.dropWhile_append_of_pos all]
  cases rest with
  | nil => simp
  | cons c rest =>
    have other := ends c rfl
    simp [other]

/-- The value of digits does not depend on where they stand. -/
theorem Json.decimal_eq (digits : List Char) :
    Json.decimal digits = Nat.ofDigitChars 10 digits 0 := by
  unfold Json.decimal Nat.ofDigitChars
  congr 1
  funext sum c
  rw [Nat.mul_comm]
  rfl

theorem Time.decimal_eq (digits : List Char) : Time.decimal digits = Nat.ofDigitChars 10 digits 0 :=
  Json.decimal_eq digits

end QualityGate
