/-!
# UTF-8

Source files arrive as bytes and leave as bytes, while every rule is about characters.  This
module is the only crossing between the two.

A byte string is first cut into *chunks*: a well-formed character, or a maximal ill-formed piece.
Both readings of a byte string are then one line each: the strict one succeeds when every chunk is
a character, the lenient one puts U+FFFD in the place of every ill-formed piece.
-/

namespace QualityGate.Text

/-- File contents. -/
abbrev Bytes := List UInt8

namespace Utf8

/-- The bytes of a text. -/
def encode (text : List Char) : Bytes :=
  text.flatMap String.utf8EncodeChar

@[simp] theorem encode_nil : encode [] = [] := rfl

@[simp] theorem encode_cons (c : Char) (text : List Char) :
    encode (c :: text) = String.utf8EncodeChar c ++ encode text := by
  simp [encode]

@[simp] theorem encode_append (s t : List Char) : encode (s ++ t) = encode s ++ encode t := by
  simp [encode]

/-- A continuation byte, `10xxxxxx`. -/
def isTail (b : UInt8) : Bool := 0x80 ≤ b && b ≤ 0xBF

/-- What a first byte above ASCII demands: the number of continuation bytes and the range of the
first of them, which is narrower where a longer form or a surrogate would begin. -/
def demand (first : UInt8) : Option (Nat × UInt8 × UInt8) :=
  if first < 0xC2 then none
  else if first < 0xE0 then some (1, 0x80, 0xBF)
  else if first = 0xE0 then some (2, 0xA0, 0xBF)
  else if first = 0xED then some (2, 0x80, 0x9F)
  else if first < 0xF0 then some (2, 0x80, 0xBF)
  else if first = 0xF0 then some (3, 0x90, 0xBF)
  else if first < 0xF4 then some (3, 0x80, 0xBF)
  else if first = 0xF4 then some (3, 0x80, 0x8F)
  else none

/-- The continuation bytes that follow a first byte, as far as they are in order: at most
`count`, the first within `low` to `high`. -/
def tails : Nat → UInt8 → UInt8 → Bytes → Bytes
  | 0, _, _, _ => []
  | _, _, _, [] => []
  | n + 1, low, high, b :: rest =>
    if low ≤ b ∧ b ≤ high then b :: tails n 0x80 0xBF rest else []

/-- The character with this first byte and these continuation bytes. -/
def assemble (first : UInt8) (rest : Bytes) : Char :=
  let payload := match rest.length with
    | 1 => first.toNat % 0x20
    | 2 => first.toNat % 0x10
    | _ => first.toNat % 0x08
  Char.ofNat (rest.foldl (fun acc b => acc * 0x40 + b.toNat % 0x40) payload)

/-- The bytes as characters (`some`) and maximal ill-formed pieces (`none`). -/
def chunks : Bytes → List (Option Char)
  | [] => []
  | first :: rest =>
    if first < 0x80 then some (Char.ofNat first.toNat) :: chunks rest
    else match demand first with
      | none => none :: chunks rest
      | some (count, low, high) =>
        let found := tails count low high rest
        let chunk := if found.length = count then some (assemble first found) else none
        chunk :: chunks (rest.drop found.length)
termination_by bytes => bytes.length
decreasing_by all_goals grind

/-- The text of well-formed bytes. -/
def decode? (bytes : Bytes) : Option (List Char) :=
  (chunks bytes).mapM id

/-- The text of any bytes, with U+FFFD for every ill-formed piece. -/
def decodeLossy (bytes : Bytes) : List Char :=
  (chunks bytes).map (·.getD '\uFFFD')

/-- Whether a character of well-formed bytes begins at an offset, or they end there. -/
def isBoundary (bytes : Bytes) (offset : Nat) : Bool :=
  offset = 0 || offset = bytes.length || bytes[offset]?.any (! isTail ·)

/-- The bytes between two offsets, unless one of them lies inside a character. -/
def slice? (bytes : Bytes) (start stop : Nat) : Option Bytes :=
  if start ≤ stop ∧ isBoundary bytes start ∧ isBoundary bytes stop then
    some ((bytes.take stop).drop start)
  else none

end Utf8

/-- The bytes of a string. -/
def bytesOf (text : String) : Bytes := Utf8.encode text.toList

/-- The string of well-formed bytes. -/
def stringOf? (bytes : Bytes) : Option String := (Utf8.decode? bytes).map String.ofList

/-- The string of any bytes, with U+FFFD for every ill-formed piece. -/
def stringLossy (bytes : Bytes) : String := String.ofList (Utf8.decodeLossy bytes)

end QualityGate.Text
