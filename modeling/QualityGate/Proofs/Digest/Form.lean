import QualityGate.Digest.Algorithm

/-!
# The form of digests

Every digest has the form that is demanded of a stored one: the right number of hexadecimal digits,
all in lower case (`isDigest_digest`).
-/

namespace QualityGate

open QualityGate.Text

@[simp] theorem Sha2.length_bigEndian (count n : Nat) :
    (Sha2.Variant.bigEndian count n).length = count := by
  induction count with
  | zero => rfl
  | succ count ih => rw [Sha2.Variant.bigEndian, List.length_cons, ih]

/-- Eight words make a digest. -/
theorem Sha2.length_digest (v : Sha2.Variant) (message : List UInt8) :
    (v.digest message).length = 8 * v.wordBytes := by
  simp [Sha2.Variant.digest]
  omega

@[simp] theorem Text.length_hex (bytes : Bytes) : (hex bytes).length = 2 * bytes.length := by
  induction bytes with
  | nil => rfl
  | cons byte bytes ih =>
    rw [hex_cons, List.length_append, ih, hexOfByte, List.length_cons]
    simp
    omega

namespace Algorithm

theorem isDigestChar_hexDigit {n : Nat} (bound : n < 16) : isDigestChar (hexDigit n) = true := by
  have all : ∀ m : Fin 16, isDigestChar (hexDigit m.val) = true := by decide
  exact all ⟨n, bound⟩

theorem isDigestChar_of_mem_hex {bytes : Bytes} {c : Char} (mem : c ∈ hex bytes) :
    isDigestChar c = true := by
  obtain ⟨byte, -, digit⟩ := List.mem_flatMap.mp mem
  have bound : byte.toNat < 256 := byte.toNat_lt
  rw [hexOfByte, List.mem_cons, List.mem_singleton] at digit
  rcases digit with rfl | rfl
  · exact isDigestChar_hexDigit (by omega)
  · exact isDigestChar_hexDigit (by omega)

/-- A digest has the form of one. -/
theorem isDigest_digest (algorithm : Algorithm) (bytes : Bytes) :
    algorithm.isDigest (algorithm.digest bytes) = true := by
  rw [isDigest, digest, Bool.and_eq_true, beq_iff_eq, List.all_eq_true, String.length_ofList,
    String.toList_ofList, length_hex, Sha2.length_digest]
  refine ⟨?_, fun c mem => isDigestChar_of_mem_hex mem⟩
  cases algorithm <;> rfl

/-- There are no blanks in what has the form of a digest. -/
theorem isBlank_of_isDigest {algorithm : Algorithm} {text : String}
    (form : algorithm.isDigest text = true) {c : Char} (mem : c ∈ text.toList) :
    isBlank c = false := by
  rw [isDigest, Bool.and_eq_true, List.all_eq_true] at form
  have digit := form.2 c mem
  rw [isDigestChar, Bool.or_eq_true, Bool.and_eq_true, decide_eq_true_eq, decide_eq_true_eq,
    Char.isDigit_iff_toNat, Char.le_def, Char.le_def, UInt32.le_iff_toNat_le,
    UInt32.le_iff_toNat_le] at digit
  have bounds : 48 ≤ c.toNat ∧ c.toNat ≤ 57 ∨ 97 ≤ c.toNat ∧ c.toNat ≤ 102 := digit
  simp [isBlank]
  omega

end Algorithm

end QualityGate
