import QualityGate.Proofs.Text.Decoding

/-!
# Where characters begin

The byte that begins a character is no continuation byte, and every other byte of it is one
(`exists_utf8EncodeChar_eq_cons`).  So bytes that are cut before a byte of the first kind are those
of two texts, and a text whose bytes occur among those of another text occurs in that text
(`exists_append_of_encode_eq`).  The offsets between characters are the boundaries
(`isBoundary_encode_append`).

The byte of an ASCII character is in no other character (`mem_utf8EncodeChar_iff`), so it can be
counted and looked for in the bytes (`count_encode`), and the bytes of all other characters are
above ASCII (`le_of_mem_utf8EncodeChar`).
-/

namespace QualityGate.Text.Utf8

theorem isTail_ofNat {n : Nat} (small : n < 256) :
    isTail (UInt8.ofNat n) = true ↔ 0x80 ≤ n ∧ n ≤ 0xBF := by
  rw [isTail, Bool.and_eq_true, decide_eq_true_iff, decide_eq_true_iff]
  exact and_congr (ofNat_le_ofNat_iff (m := 0x80) (by decide) small)
    (ofNat_le_ofNat_iff (n := 0xBF) small (by decide))

/-- The first byte of a character is no continuation byte, and all others are. -/
theorem exists_utf8EncodeChar_eq_cons (c : Char) :
    ∃ first tail, String.utf8EncodeChar c = first :: tail ∧ isTail first = false ∧
      ∀ b ∈ tail, isTail b = true := by
  have range : c.val.toNat < 0x110000 := by
    have valid := c.valid
    simp only [UInt32.isValidChar, Nat.isValidChar] at valid
    omega
  simp only [String.utf8EncodeChar]
  generalize c.val.toNat = n at *
  have begins {m : Nat} (small : m < 256) (outside : m < 0x80 ∨ 0xBF < m) :
      isTail (UInt8.ofNat m) = false := by
    rw [Bool.eq_false_iff, ne_eq, isTail_ofNat small]
    omega
  have continues {m : Nat} (small : m < 64) : isTail (UInt8.ofNat (m + 128)) = true :=
    (isTail_ofNat (by omega)).mpr (by omega)
  split_ifs
  all_goals
    refine ⟨_, _, rfl, begins (by omega) (by omega), ?_⟩
    simp only [List.forall_mem_cons, List.not_mem_nil, false_implies, implies_true, and_true]
  · exact continues (by omega)
  · exact ⟨continues (by omega), continues (by omega)⟩
  · exact ⟨continues (by omega), continues (by omega), continues (by omega)⟩

/-- The bytes of a text do not begin with a continuation byte. -/
theorem isTail_of_mem_head?_encode {text : List Char} {b : UInt8}
    (first : b ∈ (encode text).head?) : isTail b = false := by
  cases text with
  | nil => cases first
  | cons c text =>
    obtain ⟨a, tail, bytes, begins, -⟩ := exists_utf8EncodeChar_eq_cons c
    rw [encode_cons, bytes] at first
    cases first
    exact begins

/-- The bytes of a text that are cut before a byte that begins a character are the bytes of two
texts. -/
theorem exists_append_of_head? {text : List Char} {front back : Bytes}
    (cut : encode text = front ++ back) (begins : ∀ b ∈ back.head?, isTail b = false) :
    ∃ before after, text = before ++ after ∧ encode before = front ∧ encode after = back := by
  induction text generalizing front with
  | nil =>
    obtain ⟨rfl, rfl⟩ := List.nil_eq_append_iff.mp cut
    exact ⟨[], [], rfl, rfl, rfl⟩
  | cons c text ih =>
    cases front with
    | nil => exact ⟨[], c :: text, rfl, rfl, cut⟩
    | cons a front =>
      rw [encode_cons] at cut
      rcases List.append_eq_append_iff.mp cut with ⟨more, whole, later⟩ | ⟨more, inside, later⟩
      · obtain ⟨before, after, rfl, first, last⟩ := ih later
        refine ⟨c :: before, after, rfl, ?_, last⟩
        rw [encode_cons, first, whole]
      · cases more with
        | nil =>
          refine ⟨[c], text, rfl, ?_, ?_⟩
          · rw [encode_cons, inside, encode_nil, List.append_nil, List.append_nil]
          · rw [later, List.nil_append]
        | cons b more =>
          -- The cut would be inside the first character, before a continuation byte.
          obtain ⟨first, tail, bytes, -, continues⟩ := exists_utf8EncodeChar_eq_cons c
          have inTail : b ∈ tail := by
            rw [bytes, List.cons_append, List.cons.injEq] at inside
            rw [inside.2]
            exact List.mem_append_right _ List.mem_cons_self
          have beginsB := begins b (by rw [later]; rfl)
          rw [continues b inTail] at beginsB
          cases beginsB

/-- **A text among bytes.**  Where the bytes of a text occur among those of another one, the text
occurs. -/
theorem exists_append_of_encode_eq {text piece : List Char} {front back : Bytes}
    (nonempty : piece ≠ []) (occurs : encode text = front ++ (encode piece ++ back)) :
    ∃ before after, text = before ++ (piece ++ after) ∧ encode before = front ∧
      encode after = back := by
  have begins : ∀ b ∈ (encode piece ++ back).head?, isTail b = false := by
    intro b first
    obtain ⟨c, piece, rfl⟩ := List.exists_cons_of_ne_nil nonempty
    have begins : b ∈ (encode (c :: piece)).head? := by
      obtain ⟨a, tail, bytes, -⟩ := exists_utf8EncodeChar_eq_cons c
      rw [encode_cons, bytes] at first ⊢
      exact first
    exact isTail_of_mem_head?_encode begins
  obtain ⟨before, rest, rfl, rfl, later⟩ := exists_append_of_head? occurs begins
  have read := chunks_encode rest
  rw [later, chunks_encode_append] at read
  obtain ⟨found, after, rfl, same, wellFormed⟩ := List.append_eq_map_iff.mp read
  obtain rfl : found = piece := List.map_injective_iff.mpr (fun _ _ => Option.some.inj) same
  exact ⟨before, after, rfl, rfl, encode_of_chunks_eq wellFormed.symm⟩

/-- Of two beginnings of a text, the one with fewer bytes is a beginning of the other. -/
theorem exists_eq_append_of_length_le {done rest before after : List Char}
    (same : done ++ rest = before ++ after)
    (less : (encode done).length ≤ (encode before).length) :
    ∃ kept, before = done ++ kept ∧ rest = kept ++ after := by
  rcases List.append_eq_append_iff.mp same with ⟨kept, first, last⟩ | ⟨more, first, last⟩
  · exact ⟨kept, first, last⟩
  · have nothing : more = [] := by
      by_contra nonempty
      have some := length_encode_pos nonempty
      rw [first, encode_append, List.length_append] at less
      omega
    subst nothing
    exact ⟨[], by rw [first, List.append_nil, List.append_nil], last.symm⟩

/-- The offsets between characters are boundaries. -/
theorem isBoundary_encode_append (before after : List Char) :
    isBoundary (encode (before ++ after)) (encode before).length = true := by
  rw [isBoundary, encode_append]
  cases after with
  | nil => simp
  | cons c after =>
    obtain ⟨first, tail, bytes, begins, -⟩ := exists_utf8EncodeChar_eq_cons c
    simp [bytes, begins]

/-- A text is cut at a boundary. -/
theorem exists_append_of_isBoundary {text : List Char} {offset : Nat}
    (boundary : isBoundary (encode text) offset = true) :
    ∃ before after, text = before ++ after ∧ encode before = (encode text).take offset := by
  have begins : ∀ b ∈ ((encode text).drop offset).head?, isTail b = false := by
    intro b first
    rw [isBoundary, Bool.or_eq_true, Bool.or_eq_true, decide_eq_true_iff, decide_eq_true_iff]
      at boundary
    rcases boundary with (rfl | rfl) | begins
    · exact isTail_of_mem_head?_encode first
    · rw [List.drop_length] at first
      cases first
    · rw [List.head?_drop, Option.mem_def] at first
      rw [first] at begins
      simpa using begins
  obtain ⟨before, after, split, bytes, -⟩ :=
    exists_append_of_head? (List.take_append_drop offset _).symm begins
  exact ⟨before, after, split, bytes⟩

/-- The bytes between two boundaries. -/
theorem slice?_encode_append (before piece after : List Char) :
    slice? (encode (before ++ (piece ++ after))) (encode before).length
      (encode (before ++ piece)).length = some (encode piece) := by
  have ordered : (encode before).length ≤ (encode (before ++ piece)).length := by simp
  have stop := isBoundary_encode_append (before ++ piece) after
  rw [List.append_assoc] at stop
  rw [slice?, if_pos ⟨ordered, isBoundary_encode_append _ _, stop⟩]
  rw [← List.append_assoc, encode_append (before ++ piece), List.take_left, encode_append,
    List.drop_left]

/-! ### ASCII characters -/

section Ascii

variable {d : Char} (ascii : d.val.toNat < 0x80)
include ascii

theorem utf8EncodeChar_of_ascii : String.utf8EncodeChar d = [UInt8.ofNat d.val.toNat] := by
  simp only [String.utf8EncodeChar]
  rw [if_pos (by omega)]

/-- The byte of an ASCII character is in no other character. -/
theorem mem_utf8EncodeChar_iff {c : Char} :
    UInt8.ofNat d.val.toNat ∈ String.utf8EncodeChar c ↔ c = d := by
  refine ⟨fun mem => ?_, ?_⟩
  · have range : c.val.toNat < 0x110000 := by
      have valid := c.valid
      simp only [UInt32.isValidChar, Nat.isValidChar] at valid
      omega
    have same : c.val.toNat = d.val.toNat := by
      simp only [String.utf8EncodeChar] at mem
      generalize c.val.toNat = m at *
      generalize d.val.toNat = n at *
      split_ifs at mem
      all_goals
        simp only [List.mem_cons, List.not_mem_nil, or_false, ← UInt8.toNat_inj,
          UInt8.toNat_ofNat'] at mem
        omega
    exact Char.ext (UInt32.toNat_inj.mp same)
  · rintro rfl
    rw [utf8EncodeChar_of_ascii ascii]
    exact List.mem_singleton_self _

/-- An ASCII character is as often in a text as its byte is in the bytes. -/
theorem count_encode (text : List Char) :
    (encode text).count (UInt8.ofNat d.val.toNat) = text.count d := by
  induction text with
  | nil => rfl
  | cons c text ih =>
    rw [encode_cons, List.count_append, ih, List.count_cons]
    by_cases same : c = d
    · rw [same, utf8EncodeChar_of_ascii ascii, List.count_singleton_self]
      simp [Nat.add_comm]
    · rw [List.count_eq_zero_of_not_mem (mt (mem_utf8EncodeChar_iff ascii).mp same)]
      simp [same]

/-- A text whose last byte is that of an ASCII character ends in this character. -/
theorem getLast?_of_getLast?_encode {text : List Char}
    (last : (encode text).getLast? = some (UInt8.ofNat d.val.toNat)) : text.getLast? = some d := by
  rcases List.eq_nil_or_concat' text with rfl | ⟨front, c, rfl⟩
  · cases last
  · have bytes : encode (front ++ [c]) = encode front ++ String.utf8EncodeChar c := by simp
    rw [bytes, List.getLast?_append_of_ne_nil _ (utf8EncodeChar_ne_nil c)] at last
    have same := (mem_utf8EncodeChar_iff ascii).mp (List.mem_of_getLast? last)
    rw [same, List.getLast?_concat]

end Ascii

/-- All bytes of a character that is not ASCII are above ASCII. -/
theorem le_of_mem_utf8EncodeChar {c : Char} (wide : 0x80 ≤ c.val.toNat) {b : UInt8}
    (mem : b ∈ String.utf8EncodeChar c) : 0x80 ≤ b := by
  by_contra below
  have small : b.toNat < 0x80 := UInt8.lt_iff_toNat_lt.mp (UInt8.not_le.mp below)
  -- The byte would be that of an ASCII character, which is in no other character.
  have value : (Char.ofNat b.toNat).val.toNat = b.toNat := by
    rw [Char.ofNat, dif_pos (by simp only [Nat.isValidChar]; omega)]
    rfl
  have same : c = Char.ofNat b.toNat := by
    have ascii : (Char.ofNat b.toNat).val.toNat < 0x80 := by
      rw [value]
      exact small
    refine (mem_utf8EncodeChar_iff ascii).mp ?_
    rwa [value, UInt8.ofNat_toNat]
  rw [same, value] at wide
  omega

end QualityGate.Text.Utf8
