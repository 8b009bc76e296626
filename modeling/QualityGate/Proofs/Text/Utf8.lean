import QualityGate.Text.Utf8

/-!
# Texts and their bytes

The bytes of a text are those of its characters, one after the other, and they can be cut back into
characters, so no two texts have the same bytes (`encode_injective`).  The first byte of a character
grows with its code point, and so do the bytes after it among those with the same first byte, so
texts are ordered like their bytes (`encode_lt_encode_iff`).
-/

namespace QualityGate.Text.Utf8

theorem toByteArray_encode (text : List Char) : (encode text).toByteArray = text.utf8Encode := rfl

theorem encode_injective {s t : List Char} (same : encode s = encode t) : s = t := by
  have bytes : s.utf8Encode = t.utf8Encode := by
    rw [← toByteArray_encode, ← toByteArray_encode, same]
  have decoded := List.utf8Decode?_utf8Encode (l := s)
  rw [bytes, List.utf8Decode?_utf8Encode] at decoded
  exact (List.toArray_inj (Option.some.inj decoded)).symm

/-- The character with the lesser code point has the lesser bytes, whatever follows. -/
theorem utf8EncodeChar_append_lt {c d : Char} (less : c < d) (s t : Bytes) :
    String.utf8EncodeChar c ++ s < String.utf8EncodeChar d ++ t := by
  have order : c.val.toNat < d.val.toNat := less
  have range : d.val.toNat < 0x110000 := by
    have valid := d.valid
    simp only [UInt32.isValidChar, Nat.isValidChar] at valid
    omega
  simp only [String.utf8EncodeChar]
  generalize c.val.toNat = m at *
  generalize d.val.toNat = n at *
  -- One case for each pair of lengths; the bytes are digits of the code points.
  repeat' split
  all_goals
    simp only [List.cons_append, List.nil_append, List.cons_lt_cons_iff, UInt8.lt_iff_toNat_lt,
      ← UInt8.toNat_inj, UInt8.toNat_ofNat', Nat.reducePow]
    simp (disch := omega) only [Nat.mod_eq_of_lt]
    omega

theorem utf8EncodeChar_ne_nil (c : Char) : String.utf8EncodeChar c ≠ [] := by
  simp only [String.utf8EncodeChar]
  repeat' split
  all_goals exact List.cons_ne_nil _ _

theorem length_encode_pos {text : List Char} (nonempty : text ≠ []) :
    0 < (encode text).length := by
  obtain ⟨c, rest, rfl⟩ := List.exists_cons_of_ne_nil nonempty
  rw [encode_cons, List.length_append]
  have first := List.length_pos_iff.mpr (utf8EncodeChar_ne_nil c)
  omega

theorem encode_lt_encode {s t : List Char} (less : s < t) : encode s < encode t := by
  induction s generalizing t with
  | nil =>
    cases t with
    | nil => exact absurd less (List.not_lt_nil [])
    | cons d t =>
      obtain ⟨first, rest, bytes⟩ := List.exists_cons_of_ne_nil (utf8EncodeChar_ne_nil d)
      rw [encode_cons, bytes]
      exact List.nil_lt_cons _ _
  | cons c s ih =>
    cases t with
    | nil => exact absurd less (List.not_lt_nil _)
    | cons d t =>
      rw [encode_cons, encode_cons]
      rcases List.cons_lt_cons_iff.mp less with first | ⟨rfl, later⟩
      · exact utf8EncodeChar_append_lt first _ _
      · exact List.append_left_lt (ih later)

/-- Texts are ordered like their bytes. -/
theorem encode_lt_encode_iff {s t : List Char} : encode s < encode t ↔ s < t := by
  refine ⟨fun less => ?_, encode_lt_encode⟩
  rcases Std.lt_trichotomy s t with ordered | rfl | swapped
  · exact ordered
  · exact absurd less (List.lt_irrefl _)
  · exact absurd (encode_lt_encode swapped) (List.lt_asymm less)

end QualityGate.Text.Utf8

namespace QualityGate.Text

/-- Strings are ordered like their bytes. -/
theorem bytesOf_lt_bytesOf_iff {a b : String} : bytesOf a < bytesOf b ↔ a < b :=
  Utf8.encode_lt_encode_iff.trans String.lt_iff.symm

end QualityGate.Text
