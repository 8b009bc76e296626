import QualityGate.Text.Utf8

/-!
# Hexadecimal

Digits are written in lower case and read in either case.  A byte is always two digits, so bytes are
read back from what was written (`bytesOfHex?_hex`).
-/

namespace QualityGate.Text

/-- A digit. -/
def hexDigit (n : Nat) : Char := if n < 10 then Char.ofNat (48 + n) else Char.ofNat (87 + n)

/-- The value of a digit. -/
def hexValue? (c : Char) : Option Nat :=
  if '0' ≤ c ∧ c ≤ '9' then some (c.toNat - 48)
  else if 'a' ≤ c ∧ c ≤ 'f' then some (c.toNat - 87)
  else if 'A' ≤ c ∧ c ≤ 'F' then some (c.toNat - 55)
  else none

/-- The digits of a byte. -/
def hexOfByte (byte : UInt8) : List Char :=
  [hexDigit (byte.toNat / 16), hexDigit (byte.toNat % 16)]

/-- The digits of some bytes. -/
def hex (bytes : Bytes) : List Char := bytes.flatMap hexOfByte

/-- The bytes of some digits. -/
def bytesOfHex? : List Char → Option Bytes
  | [] => some []
  | [_] => none
  | high :: low :: rest => do
    let high ← hexValue? high
    let low ← hexValue? low
    let bytes ← bytesOfHex? rest
    return UInt8.ofNat (high * 16 + low) :: bytes

theorem hexValue?_hexDigit {n : Nat} (h : n < 16) : hexValue? (hexDigit n) = some n := by
  have all : ∀ m : Fin 16, hexValue? (hexDigit m.val) = some m.val := by decide
  exact all ⟨n, h⟩

@[simp] theorem hex_nil : hex [] = [] := rfl

@[simp] theorem hex_cons (byte : UInt8) (bytes : Bytes) :
    hex (byte :: bytes) = hexOfByte byte ++ hex bytes := by
  simp [hex]

theorem bytesOfHex?_hex (bytes : Bytes) : bytesOfHex? (hex bytes) = some bytes := by
  induction bytes with
  | nil => rfl
  | cons byte bytes ih =>
    have bound : byte.toNat < 256 := byte.toNat_lt
    have high : byte.toNat / 16 < 16 := by omega
    have low : byte.toNat % 16 < 16 := by omega
    have whole : UInt8.ofNat (byte.toNat / 16 * 16 + byte.toNat % 16) = byte := by
      rw [Nat.div_add_mod']
      exact UInt8.ofNat_toNat
    rw [hex_cons]
    simp only [hexOfByte, List.cons_append, List.nil_append, bytesOfHex?,
      hexValue?_hexDigit high, hexValue?_hexDigit low, ih, whole, Option.bind_eq_bind,
      Option.bind_some, pure]

end QualityGate.Text
