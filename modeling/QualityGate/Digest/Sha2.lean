/-!
# The SHA-2 family

SHA-256 and SHA-512 are one algorithm at two word sizes.  They differ in the number of rounds, in
their rotation amounts, and in how much they use of the same fractional parts: the constants are
the first bits of cube roots and square roots of primes, so the shorter ones are the upper halves
of the longer ones.
-/

namespace QualityGate.Sha2

/-- One member of the family. -/
structure Variant where
  /-- The bits of a word, a multiple of eight. -/
  width : Nat
  rounds : Nat
  /-- Two rotations and one shift, in the message schedule. -/
  smallSigma0 : Nat × Nat × Nat
  smallSigma1 : Nat × Nat × Nat
  /-- Three rotations, in the rounds. -/
  bigSigma0 : Nat × Nat × Nat
  bigSigma1 : Nat × Nat × Nat

/-- The first 64 bits of the fractional parts of the cube roots of the first 80 primes. -/
def cubeRoots : List Nat := [
  0x428A2F98D728AE22, 0x7137449123EF65CD, 0xB5C0FBCFEC4D3B2F, 0xE9B5DBA58189DBBC,
  0x3956C25BF348B538, 0x59F111F1B605D019, 0x923F82A4AF194F9B, 0xAB1C5ED5DA6D8118,
  0xD807AA98A3030242, 0x12835B0145706FBE, 0x243185BE4EE4B28C, 0x550C7DC3D5FFB4E2,
  0x72BE5D74F27B896F, 0x80DEB1FE3B1696B1, 0x9BDC06A725C71235, 0xC19BF174CF692694,
  0xE49B69C19EF14AD2, 0xEFBE4786384F25E3, 0x0FC19DC68B8CD5B5, 0x240CA1CC77AC9C65,
  0x2DE92C6F592B0275, 0x4A7484AA6EA6E483, 0x5CB0A9DCBD41FBD4, 0x76F988DA831153B5,
  0x983E5152EE66DFAB, 0xA831C66D2DB43210, 0xB00327C898FB213F, 0xBF597FC7BEEF0EE4,
  0xC6E00BF33DA88FC2, 0xD5A79147930AA725, 0x06CA6351E003826F, 0x142929670A0E6E70,
  0x27B70A8546D22FFC, 0x2E1B21385C26C926, 0x4D2C6DFC5AC42AED, 0x53380D139D95B3DF,
  0x650A73548BAF63DE, 0x766A0ABB3C77B2A8, 0x81C2C92E47EDAEE6, 0x92722C851482353B,
  0xA2BFE8A14CF10364, 0xA81A664BBC423001, 0xC24B8B70D0F89791, 0xC76C51A30654BE30,
  0xD192E819D6EF5218, 0xD69906245565A910, 0xF40E35855771202A, 0x106AA07032BBD1B8,
  0x19A4C116B8D2D0C8, 0x1E376C085141AB53, 0x2748774CDF8EEB99, 0x34B0BCB5E19B48A8,
  0x391C0CB3C5C95A63, 0x4ED8AA4AE3418ACB, 0x5B9CCA4F7763E373, 0x682E6FF3D6B2B8A3,
  0x748F82EE5DEFB2FC, 0x78A5636F43172F60, 0x84C87814A1F0AB72, 0x8CC702081A6439EC,
  0x90BEFFFA23631E28, 0xA4506CEBDE82BDE9, 0xBEF9A3F7B2C67915, 0xC67178F2E372532B,
  0xCA273ECEEA26619C, 0xD186B8C721C0C207, 0xEADA7DD6CDE0EB1E, 0xF57D4F7FEE6ED178,
  0x06F067AA72176FBA, 0x0A637DC5A2C898A6, 0x113F9804BEF90DAE, 0x1B710B35131C471B,
  0x28DB77F523047D84, 0x32CAAB7B40C72493, 0x3C9EBE0A15C9BEBC, 0x431D67C49C100D4C,
  0x4CC5D4BECB3E42B6, 0x597F299CFC657E2A, 0x5FCB6FAB3AD6FAEC, 0x6C44198C4A475817]

/-- The first 64 bits of the fractional parts of the square roots of the first eight primes. -/
def squareRoots : List Nat := [
  0x6A09E667F3BCC908, 0xBB67AE8584CAA73B, 0x3C6EF372FE94F82B, 0xA54FF53A5F1D36F1,
  0x510E527FADE682D1, 0x9B05688C2B3E6C1F, 0x1F83D9ABFB41BD6B, 0x5BE0CD19137E2179]

/-- Thirty-two bits a word. -/
def sha256 : Variant where
  width := 32
  rounds := 64
  smallSigma0 := (7, 18, 3)
  smallSigma1 := (17, 19, 10)
  bigSigma0 := (2, 13, 22)
  bigSigma1 := (6, 11, 25)

/-- Sixty-four bits a word. -/
def sha512 : Variant where
  width := 64
  rounds := 80
  smallSigma0 := (1, 8, 7)
  smallSigma1 := (19, 61, 6)
  bigSigma0 := (28, 34, 39)
  bigSigma1 := (14, 18, 41)

namespace Variant

/-- A word of a variant. -/
abbrev Word (v : Variant) : Type := BitVec v.width

/-- The first bits of a fractional part that has 64. -/
def leading (v : Variant) (fraction : Nat) : v.Word :=
  BitVec.ofNat v.width (fraction >>> (64 - v.width))

/-- Two rotations and a shift, combined. -/
def scheduleMix {v : Variant} (amounts : Nat × Nat × Nat) (x : v.Word) : v.Word :=
  x.rotateRight amounts.1 ^^^ x.rotateRight amounts.2.1 ^^^ (x >>> amounts.2.2)

/-- Three rotations, combined. -/
def roundMix {v : Variant} (amounts : Nat × Nat × Nat) (x : v.Word) : v.Word :=
  x.rotateRight amounts.1 ^^^ x.rotateRight amounts.2.1 ^^^ x.rotateRight amounts.2.2

/-- The working words. -/
structure State (v : Variant) where
  a : v.Word
  b : v.Word
  c : v.Word
  d : v.Word
  e : v.Word
  f : v.Word
  g : v.Word
  h : v.Word

/-- The state in front of the first block. -/
def initial (v : Variant) : v.State :=
  let word (i : Nat) := v.leading (squareRoots.getD i 0)
  ⟨word 0, word 1, word 2, word 3, word 4, word 5, word 6, word 7⟩

/-- One round with the sum of a schedule word and a round constant. -/
def round (v : Variant) (s : v.State) (input : v.Word) : v.State :=
  let choice := (s.e &&& s.f) ^^^ (~~~s.e &&& s.g)
  let majority := (s.a &&& s.b) ^^^ (s.a &&& s.c) ^^^ (s.b &&& s.c)
  let first := s.h + roundMix v.bigSigma1 s.e + choice + input
  let second := roundMix v.bigSigma0 s.a + majority
  ⟨first + second, s.a, s.b, s.c, s.d + first, s.e, s.f, s.g⟩

/-- The schedule with `n` more words; it is kept backwards, the latest word first. -/
def extend (v : Variant) : Nat → List v.Word → List v.Word
  | 0, latest => latest
  | n + 1, latest =>
    let word (back : Nat) := latest.getD (back - 1) 0
    extend v n ((scheduleMix v.smallSigma1 (word 2) + word 7 + scheduleMix v.smallSigma0 (word 15)
      + word 16) :: latest)

/-- Take in a block of sixteen words. -/
def compress (v : Variant) (s : v.State) (block : List v.Word) : v.State :=
  let schedule := (v.extend (v.rounds - 16) block.reverse).reverse
  let inputs := List.zipWith (fun word constant => word + v.leading constant) schedule cubeRoots
  let t := inputs.foldl v.round s
  ⟨s.a + t.a, s.b + t.b, s.c + t.c, s.d + t.d, s.e + t.e, s.f + t.f, s.g + t.g, s.h + t.h⟩

/-- A number as `count` bytes, the most significant first. -/
def bigEndian : Nat → Nat → List UInt8
  | 0, _ => []
  | count + 1, n => UInt8.ofNat (n >>> (8 * count)) :: bigEndian count n

/-- The bytes of a word. -/
def wordBytes (v : Variant) : Nat := v.width / 8

/-- The message, a one bit, zeros, and the number of bits of the message in two words: a whole
number of blocks. -/
def padded (v : Variant) (message : List UInt8) : List UInt8 :=
  let block := 16 * v.wordBytes
  let used := message.length + 1 + 2 * v.wordBytes
  message ++ (0x80 :: List.replicate ((block - used % block) % block) 0)
    ++ bigEndian (2 * v.wordBytes) (8 * message.length)

/-- Cut a list into pieces of `size + 1`; what is left over at the end is dropped. -/
def pieces (size : Nat) : Nat → List α → List (List α)
  | 0, _ => []
  | fuel + 1, items =>
    match items.drop size with
    | [] => []
    | _ :: rest => items.take (size + 1) :: pieces size fuel rest

/-- The word that some bytes denote, the most significant first. -/
def wordOf (v : Variant) (bytes : List UInt8) : v.Word :=
  BitVec.ofNat v.width (bytes.foldl (fun acc b => acc * 256 + b.toNat) 0)

/-- The blocks of a padded message. -/
def blocks (v : Variant) (bytes : List UInt8) : List (List v.Word) :=
  pieces 15 bytes.length ((pieces (v.wordBytes - 1) bytes.length bytes).map v.wordOf)

/-- The digest of a message. -/
def digest (v : Variant) (message : List UInt8) : List UInt8 :=
  let s := (v.blocks (v.padded message)).foldl v.compress v.initial
  [s.a, s.b, s.c, s.d, s.e, s.f, s.g, s.h].flatMap fun word => bigEndian v.wordBytes word.toNat

end Variant

end QualityGate.Sha2
