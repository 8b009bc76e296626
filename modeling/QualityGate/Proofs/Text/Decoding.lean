import Mathlib.Data.List.Basic
import Mathlib.Tactic.SplitIfs
import QualityGate.Proofs.Text.Utf8

/-!
# Decoding what was encoded

Bytes are read as a text exactly when they are the bytes of that text (`decode?_eq_some_iff`), and
then the lenient reading is the same (`decodeLossy_encode`).

### What is load-bearing

A first byte demands a number of continuation bytes, and a range for the first of them
(`demand_ofNat`).  These are the bytes of a character exactly: what is put together from them has
them as its bytes (`utf8EncodeChar_assemble`), and the bytes of every character are of this kind
(`exists_demand_of_wide`).
-/

namespace QualityGate.Text

namespace Utf8

/-! ### What a first byte demands -/

theorem toNat_ofNat {n : Nat} (small : n < 256) : (UInt8.ofNat n).toNat = n :=
  UInt8.toNat_ofNat_of_lt' small

theorem ofNat_le_ofNat_iff {m n : Nat} (smallM : m < 256) (smallN : n < 256) :
    UInt8.ofNat m ≤ UInt8.ofNat n ↔ m ≤ n := by
  rw [UInt8.le_iff_toNat_le, toNat_ofNat smallM, toNat_ofNat smallN]

theorem ofNat_lt_ofNat_iff {m n : Nat} (smallM : m < 256) (smallN : n < 256) :
    UInt8.ofNat m < UInt8.ofNat n ↔ m < n := by
  rw [UInt8.lt_iff_toNat_lt, toNat_ofNat smallM, toNat_ofNat smallN]

/-- What the first byte with this number demands. -/
theorem demand_ofNat {n : Nat} (small : n < 256) :
    demand (UInt8.ofNat n) =
      if n < 0xC2 then none
      else if n < 0xE0 then some (1, 0x80, 0xBF)
      else if n < 0xF0 then
        some (2, UInt8.ofNat (if n = 0xE0 then 0xA0 else 0x80),
          UInt8.ofNat (if n = 0xED then 0x9F else 0xBF))
      else if n < 0xF5 then
        some (3, UInt8.ofNat (if n = 0xF0 then 0x90 else 0x80),
          UInt8.ofNat (if n = 0xF4 then 0x8F else 0xBF))
      else none := by
  have all : ∀ v : Fin 256, demand (UInt8.ofNat v) =
      if v.val < 0xC2 then none
      else if v.val < 0xE0 then some (1, 0x80, 0xBF)
      else if v.val < 0xF0 then
        some (2, UInt8.ofNat (if v.val = 0xE0 then 0xA0 else 0x80),
          UInt8.ofNat (if v.val = 0xED then 0x9F else 0xBF))
      else if v.val < 0xF5 then
        some (3, UInt8.ofNat (if v.val = 0xF0 then 0x90 else 0x80),
          UInt8.ofNat (if v.val = 0xF4 then 0x8F else 0xBF))
      else none := by decide +kernel
  exact all ⟨n, small⟩

/-- The continuation bytes that were found come first. -/
theorem tails_prefix (count : Nat) (low high : UInt8) (bytes : Bytes) :
    tails count low high bytes <+: bytes := by
  fun_induction tails count low high bytes with
  | case1 => exact List.nil_prefix
  | case2 => exact List.nil_prefix
  | case3 n low high b rest inRange ih => exact List.cons_prefix_cons.mpr ⟨rfl, ih⟩
  | case4 => exact List.nil_prefix

/-- The first continuation byte that was found, and the others. -/
theorem tails_eq_cons {count : Nat} {low high a : UInt8} {bytes more : Bytes}
    (found : tails (count + 1) low high bytes = a :: more) :
    low ≤ a ∧ a ≤ high ∧ ∃ rest, tails count 0x80 0xBF rest = more := by
  cases bytes with
  | nil => cases found
  | cons b rest =>
    rw [tails] at found
    split at found
    · next inRange =>
      obtain ⟨rfl, same⟩ := List.cons.inj found
      exact ⟨inRange.1, inRange.2, rest, same⟩
    · cases found

theorem tails_cons {count : Nat} {low high b : UInt8} (least : low ≤ b) (most : b ≤ high)
    (rest : Bytes) : tails (count + 1) low high (b :: rest) = b :: tails count 0x80 0xBF rest :=
  if_pos ⟨least, most⟩

/-! ### Characters -/

theorem ofNat_eq_of_toNat_eq {n : Nat} {b : UInt8} (same : b.toNat = n) : UInt8.ofNat n = b := by
  rw [← same, UInt8.ofNat_toNat]

/-- The bytes of a character by its code point. -/
theorem utf8EncodeChar_ofNat {n : Nat} (valid : n.isValidChar) :
    String.utf8EncodeChar (Char.ofNat n) =
      if n ≤ 0x7F then [UInt8.ofNat n]
      else if n ≤ 0x7FF then [UInt8.ofNat (n / 64 % 32 + 192), UInt8.ofNat (n % 64 + 128)]
      else if n ≤ 0xFFFF then [UInt8.ofNat (n / 4096 % 16 + 224), UInt8.ofNat (n / 64 % 64 + 128),
        UInt8.ofNat (n % 64 + 128)]
      else [UInt8.ofNat (n / 262144 % 8 + 240), UInt8.ofNat (n / 4096 % 64 + 128),
        UInt8.ofNat (n / 64 % 64 + 128), UInt8.ofNat (n % 64 + 128)] := by
  have value : (Char.ofNat n).val.toNat = n := by
    rw [Char.ofNat, dif_pos valid]
    rfl
  rw [String.utf8EncodeChar, value]

theorem utf8EncodeChar_one {first : UInt8} (ascii : first.toNat < 0x80) :
    String.utf8EncodeChar (Char.ofNat first.toNat) = [first] := by
  rw [utf8EncodeChar_ofNat (by simp only [Nat.isValidChar]; omega), if_pos (by omega),
    ofNat_eq_of_toNat_eq rfl]

section Digits

variable {first a b c : UInt8} (least : 0x80 ≤ a.toNat) (most : a.toNat ≤ 0xBF)
include least most

theorem utf8EncodeChar_two (above : 0xC2 ≤ first.toNat) (below : first.toNat < 0xE0) :
    String.utf8EncodeChar (Char.ofNat (first.toNat % 0x20 * 0x40 + a.toNat % 0x40))
      = [first, a] := by
  rw [utf8EncodeChar_ofNat (by simp only [Nat.isValidChar]; omega), if_neg (by omega),
    if_pos (by omega), ofNat_eq_of_toNat_eq (b := first) (by omega),
    ofNat_eq_of_toNat_eq (b := a) (by omega)]

variable (leastB : 0x80 ≤ b.toNat) (mostB : b.toNat ≤ 0xBF)
include leastB mostB

/-- Of three bytes the first two are not those of a shorter form or of a surrogate. -/
theorem utf8EncodeChar_three (above : 0xE0 ≤ first.toNat) (below : first.toNat < 0xF0)
    (long : first.toNat = 0xE0 → 0xA0 ≤ a.toNat) (real : first.toNat = 0xED → a.toNat ≤ 0x9F) :
    String.utf8EncodeChar (Char.ofNat
      ((first.toNat % 0x10 * 0x40 + a.toNat % 0x40) * 0x40 + b.toNat % 0x40)) = [first, a, b] := by
  rw [utf8EncodeChar_ofNat (by simp only [Nat.isValidChar]; omega), if_neg (by omega),
    if_neg (by omega), if_pos (by omega), ofNat_eq_of_toNat_eq (b := first) (by omega),
    ofNat_eq_of_toNat_eq (b := a) (by omega), ofNat_eq_of_toNat_eq (b := b) (by omega)]

/-- Of four bytes the first two are not those of a shorter form or of a number that is too large. -/
theorem utf8EncodeChar_four (leastC : 0x80 ≤ c.toNat) (mostC : c.toNat ≤ 0xBF)
    (above : 0xF0 ≤ first.toNat) (below : first.toNat < 0xF5)
    (long : first.toNat = 0xF0 → 0x90 ≤ a.toNat) (real : first.toNat = 0xF4 → a.toNat ≤ 0x8F) :
    String.utf8EncodeChar (Char.ofNat (((first.toNat % 0x08 * 0x40 + a.toNat % 0x40) * 0x40
      + b.toNat % 0x40) * 0x40 + c.toNat % 0x40)) = [first, a, b, c] := by
  rw [utf8EncodeChar_ofNat (by simp only [Nat.isValidChar]; omega), if_neg (by omega),
    if_neg (by omega), if_neg (by omega), ofNat_eq_of_toNat_eq (b := first) (by omega),
    ofNat_eq_of_toNat_eq (b := a) (by omega), ofNat_eq_of_toNat_eq (b := b) (by omega),
    ofNat_eq_of_toNat_eq (b := c) (by omega)]

end Digits

/-- What a first byte demands, in numbers. -/
theorem demand_cases {first low high : UInt8} {count : Nat}
    (demanded : demand first = some (count, low, high)) :
    (0x80 ≤ low.toNat ∧ high.toNat ≤ 0xBF) ∧
      (count = 1 ∧ 0xC2 ≤ first.toNat ∧ first.toNat < 0xE0 ∨
        count = 2 ∧ 0xE0 ≤ first.toNat ∧ first.toNat < 0xF0 ∧
          (first.toNat = 0xE0 → 0xA0 ≤ low.toNat) ∧ (first.toNat = 0xED → high.toNat ≤ 0x9F) ∨
        count = 3 ∧ 0xF0 ≤ first.toNat ∧ first.toNat < 0xF5 ∧
          (first.toNat = 0xF0 → 0x90 ≤ low.toNat) ∧ (first.toNat = 0xF4 → high.toNat ≤ 0x8F)) := by
  rw [← UInt8.ofNat_toNat (x := first), demand_ofNat first.toNat_lt] at demanded
  split_ifs at demanded
  all_goals
    obtain ⟨rfl, rfl, rfl⟩ := by simpa only [Option.some.injEq, Prod.mk.injEq] using demanded
    simp only [UInt8.reduceToNat, UInt8.reduceOfNat, true_and]
    omega

/-- A character that is put together from bytes in order has these bytes. -/
theorem utf8EncodeChar_assemble {first low high : UInt8} {count : Nat} {bytes : Bytes}
    (demanded : demand first = some (count, low, high))
    (complete : (tails count low high bytes).length = count) :
    String.utf8EncodeChar (assemble first (tails count low high bytes))
      = first :: tails count low high bytes := by
  have within {a : UInt8} (least : (0x80 : UInt8) ≤ a) (most : a ≤ 0xBF) :
      0x80 ≤ a.toNat ∧ a.toNat ≤ 0xBF :=
    ⟨UInt8.le_iff_toNat_le.mp least, UInt8.le_iff_toNat_le.mp most⟩
  obtain ⟨⟨bottom, top⟩, cases_⟩ := demand_cases demanded
  rcases cases_ with ⟨rfl, above, below⟩ | ⟨rfl, above, below, long, real⟩ | ⟨rfl, above, below, long, real⟩
  · obtain ⟨a, found⟩ := List.length_eq_one_iff.mp complete
    obtain ⟨least, most, -⟩ := tails_eq_cons found
    rw [UInt8.le_iff_toNat_le] at least most
    rw [found]
    exact utf8EncodeChar_two (by omega) (by omega) above below
  · obtain ⟨a, b, found⟩ := List.length_eq_two.mp complete
    obtain ⟨least, most, rest, later⟩ := tails_eq_cons found
    obtain ⟨leastB, mostB, -⟩ := tails_eq_cons later
    rw [UInt8.le_iff_toNat_le] at least most
    obtain ⟨leastB, mostB⟩ := within leastB mostB
    rw [found]
    exact utf8EncodeChar_three (by omega) (by omega) leastB mostB above below (by omega) (by omega)
  · obtain ⟨a, b, c, found⟩ := List.length_eq_three.mp complete
    obtain ⟨least, most, rest, later⟩ := tails_eq_cons found
    obtain ⟨leastB, mostB, rest, last⟩ := tails_eq_cons later
    obtain ⟨leastC, mostC, -⟩ := tails_eq_cons last
    rw [UInt8.le_iff_toNat_le] at least most
    obtain ⟨leastB, mostB⟩ := within leastB mostB
    obtain ⟨leastC, mostC⟩ := within leastC mostC
    rw [found]
    exact utf8EncodeChar_four (by omega) (by omega) leastB mostB leastC mostC above below (by omega)
      (by omega)

/-- The bytes of a character above ASCII are what its first byte demands. -/
theorem exists_demand_of_wide {c : Char} (wide : 0x7F < c.val.toNat) :
    ∃ first tail count low high, String.utf8EncodeChar c = first :: tail ∧ ¬ first < 0x80 ∧
      demand first = some (count, low, high) ∧ tail.length = count ∧
      ∀ rest, tails count low high (tail ++ rest) = tail := by
  have valid := c.valid
  simp only [UInt32.isValidChar, Nat.isValidChar] at valid
  unfold String.utf8EncodeChar
  generalize c.val.toNat = n at *
  have big {m : Nat} (above : 0x80 ≤ m) (small : m < 256) : ¬ UInt8.ofNat m < 0x80 :=
    fun less => absurd ((ofNat_lt_ofNat_iff (n := 0x80) small (by decide)).mp less) (by omega)
  have least {m : Nat} (small : m < 64) : (0x80 : UInt8) ≤ UInt8.ofNat (m + 128) :=
    (ofNat_le_ofNat_iff (m := 0x80) (by decide) (by omega)).mpr (by omega)
  have most {m : Nat} (small : m < 64) : UInt8.ofNat (m + 128) ≤ 0xBF :=
    (ofNat_le_ofNat_iff (n := 0xBF) (by omega) (by decide)).mpr (by omega)
  dsimp only
  rw [if_neg (by omega)]
  -- Only the second byte may have a narrower range than the others.
  by_cases two : n ≤ 0x7FF
  · have demanded := demand_ofNat (by omega : n / 64 % 32 + 192 < 256)
    rw [if_neg (by omega), if_pos (by omega)] at demanded
    rw [if_pos two]
    refine ⟨_, _, _, _, _, rfl, big (by omega) (by omega), demanded, rfl, fun rest => ?_⟩
    rw [List.singleton_append, tails_cons (least (by omega)) (most (by omega))]
    rfl
  rw [if_neg two]
  by_cases three : n ≤ 0xFFFF
  · have demanded := demand_ofNat (by omega : n / 4096 % 16 + 224 < 256)
    rw [if_neg (by omega), if_neg (by omega), if_pos (by omega)] at demanded
    rw [if_pos three]
    refine ⟨_, _, _, _, _, rfl, big (by omega) (by omega), demanded, rfl, fun rest => ?_⟩
    have leastA : UInt8.ofNat (if n / 4096 % 16 + 224 = 0xE0 then 0xA0 else 0x80) ≤
        UInt8.ofNat (n / 64 % 64 + 128) :=
      (ofNat_le_ofNat_iff (by split <;> decide) (by omega)).mpr (by split <;> omega)
    have mostA : UInt8.ofNat (n / 64 % 64 + 128) ≤
        UInt8.ofNat (if n / 4096 % 16 + 224 = 0xED then 0x9F else 0xBF) :=
      (ofNat_le_ofNat_iff (by omega) (by split <;> decide)).mpr (by split <;> omega)
    rw [List.cons_append, tails_cons leastA mostA, List.singleton_append,
      tails_cons (least (by omega)) (most (by omega))]
    rfl
  · have demanded := demand_ofNat (by omega : n / 262144 % 8 + 240 < 256)
    rw [if_neg (by omega), if_neg (by omega), if_neg (by omega), if_pos (by omega)] at demanded
    rw [if_neg three]
    refine ⟨_, _, _, _, _, rfl, big (by omega) (by omega), demanded, rfl, fun rest => ?_⟩
    have leastA : UInt8.ofNat (if n / 262144 % 8 + 240 = 0xF0 then 0x90 else 0x80) ≤
        UInt8.ofNat (n / 4096 % 64 + 128) :=
      (ofNat_le_ofNat_iff (by split <;> decide) (by omega)).mpr (by split <;> omega)
    have mostA : UInt8.ofNat (n / 4096 % 64 + 128) ≤
        UInt8.ofNat (if n / 262144 % 8 + 240 = 0xF4 then 0x8F else 0xBF) :=
      (ofNat_le_ofNat_iff (by omega) (by split <;> decide)).mpr (by split <;> omega)
    rw [List.cons_append, tails_cons leastA mostA, List.cons_append,
      tails_cons (least (by omega)) (most (by omega)), List.singleton_append,
      tails_cons (least (by omega)) (most (by omega))]
    rfl

/-! ### Texts -/

/-- The bytes of a character are read as that character. -/
theorem chunks_utf8EncodeChar_append (c : Char) (rest : Bytes) :
    chunks (String.utf8EncodeChar c ++ rest) = some c :: chunks rest := by
  by_cases wide : 0x7F < c.val.toNat
  · obtain ⟨first, tail, count, low, high, bytes, big, demanded, complete, found⟩ :=
      exists_demand_of_wide wide
    have whole := found []
    rw [List.append_nil] at whole
    have assembled := utf8EncodeChar_assemble demanded ((congrArg List.length whole).trans complete)
    -- Characters with the same bytes are the same.
    have same : assemble first tail = c := by
      rw [whole, ← bytes] at assembled
      have single : encode [assemble first tail] = encode [c] := by simpa using assembled
      exact List.singleton_inj.mp (encode_injective single)
    rw [bytes, List.cons_append, chunks, if_neg big, demanded]
    simp only [found, complete, if_true, same]
    rw [← complete, List.drop_left]
  · have small : c.val.toNat ≤ 0x7F := by omega
    have byte : (UInt8.ofNat c.val.toNat).toNat = c.val.toNat :=
      UInt8.toNat_ofNat_of_lt' (Nat.lt_of_le_of_lt small (by decide))
    have ascii : UInt8.ofNat c.val.toNat < 0x80 := by
      rw [UInt8.lt_iff_toNat_lt, byte]
      exact Nat.lt_succ_of_le small
    have bytes : String.utf8EncodeChar c = [UInt8.ofNat c.val.toNat] := if_pos small
    rw [bytes, List.singleton_append, chunks, if_pos ascii, byte]
    exact congrArg (some · :: chunks rest) c.ofNat_toNat

/-- The bytes of a text are read as that text, whatever follows. -/
theorem chunks_encode_append (text : List Char) (rest : Bytes) :
    chunks (encode text ++ rest) = text.map some ++ chunks rest := by
  induction text with
  | nil => rfl
  | cons c text ih =>
    rw [encode_cons, List.append_assoc, chunks_utf8EncodeChar_append, ih, List.map_cons,
      List.cons_append]

theorem chunks_encode (text : List Char) : chunks (encode text) = text.map some := by
  have read := chunks_encode_append text []
  rwa [List.append_nil, chunks, List.append_nil] at read

/-- The lenient reading of the bytes of a text. -/
theorem decodeLossy_encode (text : List Char) : decodeLossy (encode text) = text := by
  rw [decodeLossy, chunks_encode, List.map_map]
  exact List.map_id text

/-- Bytes that consist of characters are the bytes of those characters. -/
theorem encode_of_chunks_eq {bytes : Bytes} {text : List Char}
    (wellFormed : chunks bytes = text.map some) : encode text = bytes := by
  fun_induction chunks bytes generalizing text with
  | case1 => rw [List.map_eq_nil_iff.mp wellFormed.symm, encode_nil]
  | case2 first rest ascii ih =>
    obtain ⟨c, text, rfl, same, later⟩ := List.map_eq_cons_iff.mp wellFormed.symm
    rw [encode_cons, ih later.symm, Option.some.inj same,
      utf8EncodeChar_one (UInt8.lt_iff_toNat_lt.mp ascii), List.singleton_append]
  | case3 first rest big none ih =>
    obtain ⟨c, text, rfl, same, -⟩ := List.map_eq_cons_iff.mp wellFormed.symm
    cases same
  | case4 first rest big count low high demanded found chunk =>
    rename_i ih
    obtain ⟨c, text, rfl, same, later⟩ := List.map_eq_cons_iff.mp wellFormed.symm
    obtain ⟨more, split⟩ := tails_prefix count low high rest
    by_cases complete : found.length = count
    · have assembled := utf8EncodeChar_assemble demanded complete
      have dropped : rest.drop found.length = more := by
        rw [← split]
        exact List.drop_left
      obtain rfl : c = assemble first found := Option.some.inj (same.trans (if_pos complete))
      rw [encode_cons, ih later.symm, assembled, dropped, List.cons_append, split]
    · cases same.trans (if_neg complete)

theorem mapM_id_eq_some_iff {chunks : List (Option Char)} {text : List Char} :
    chunks.mapM id = some text ↔ chunks = text.map some := by
  induction chunks generalizing text with
  | nil => cases text <;> simp
  | cons chunk chunks ih =>
    rw [List.mapM_cons, id]
    cases chunk with
    | none => cases text <;> simp
    | some c =>
      rw [Option.bind_eq_bind, Option.bind_some, Option.bind_eq_bind, Option.bind_eq_some_iff]
      constructor
      · rintro ⟨rest, later, same⟩
        obtain rfl := Option.some.inj same
        rw [List.map_cons, ih.mp later]
      · intro same
        obtain ⟨d, rest, rfl, first, later⟩ := List.map_eq_cons_iff.mp same.symm
        obtain rfl := Option.some.inj first
        exact ⟨rest, ih.mpr later.symm, rfl⟩

/-- **Reading and writing.**  Bytes are read as a text exactly when they are its bytes. -/
theorem decode?_eq_some_iff {bytes : Bytes} {text : List Char} :
    decode? bytes = some text ↔ encode text = bytes := by
  rw [decode?, mapM_id_eq_some_iff]
  constructor
  · exact encode_of_chunks_eq
  · rintro rfl
    exact chunks_encode text

end Utf8

/-- Bytes are read as a string exactly when they are its bytes. -/
theorem stringOf?_eq_some_iff {bytes : Bytes} {text : String} :
    stringOf? bytes = some text ↔ bytesOf text = bytes := by
  rw [stringOf?, Option.map_eq_some_iff, bytesOf]
  constructor
  · rintro ⟨chars, decoded, rfl⟩
    rw [String.toList_ofList]
    exact Utf8.decode?_eq_some_iff.mp decoded
  · intro same
    exact ⟨text.toList, Utf8.decode?_eq_some_iff.mpr same, String.ofList_toList⟩

end QualityGate.Text
