import QualityGate.Digest.Sha2
import QualityGate.Text.Hexadecimal
import QualityGate.Unicode.Casing

/-!
# Content digests

A digest is written in hexadecimal, in lower case, so two digests of one algorithm are equal
exactly when their texts are.
-/

namespace QualityGate

open QualityGate.Text (Bytes)

/-- The algorithm that contents are digested with. -/
inductive Algorithm where
  | sha256
  | sha512
  deriving DecidableEq, Repr

namespace Algorithm

/-- The member of the SHA-2 family. -/
def variant : Algorithm → Sha2.Variant
  | sha256 => Sha2.sha256
  | sha512 => Sha2.sha512

/-- The name of the algorithm. -/
def name : Algorithm → String
  | sha256 => "sha256"
  | sha512 => "sha512"

/-- The algorithms with their names. -/
def names : List (String × Algorithm) := [("sha256", sha256), ("sha512", sha512)]

/-- The algorithm that a text names in any case, or why there is none. -/
def ofText (text : String) : Except String Algorithm :=
  match names.lookup (Unicode.lowercase text) with
  | some algorithm => .ok algorithm
  | none => .error s!"Invalid digest algorithm: {text}. Use: sha256, sha512"

/-- The number of hexadecimal digits of a digest. -/
def hexLength : Algorithm → Nat
  | sha256 => 64
  | sha512 => 128

/-- The digest of some bytes. -/
def digest (algorithm : Algorithm) (bytes : Bytes) : String :=
  String.ofList (Text.hex (algorithm.variant.digest bytes))

/-- A digit of a digest. -/
def isDigestChar (c : Char) : Bool := c.isDigit || ('a' ≤ c && c ≤ 'f')

/-- Whether a text has the form of a digest. -/
def isDigest (algorithm : Algorithm) (text : String) : Bool :=
  text.length == algorithm.hexLength && text.toList.all isDigestChar

end Algorithm

end QualityGate
