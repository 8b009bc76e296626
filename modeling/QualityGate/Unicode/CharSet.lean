/-!
# Sets of characters

A set of characters is a list of ranges of code points, in increasing order and with a gap between
any two.  `ofRanges` brings any list of ranges into this form; the other operations are built on it
and on `complement`, so the form is kept everywhere.
-/

namespace QualityGate.Unicode

/-- A set of code points as increasing ranges, both ends included. -/
structure CharSet where
  ranges : List (Nat × Nat)
  deriving DecidableEq, Repr, Inhabited

namespace CharSet

/-- The last code point. -/
def last : Nat := 0x10FFFF

/-- Join ranges that overlap or touch; the ranges are ordered by their lower end. -/
def merge : List (Nat × Nat) → List (Nat × Nat)
  | [] => []
  | [r] => [r]
  | (lo, hi) :: (lo', hi') :: rest =>
    if lo' ≤ hi + 1 then merge ((lo, max hi hi') :: rest)
    else (lo, hi) :: merge ((lo', hi') :: rest)
termination_by ranges => ranges.length

/-- The set that these ranges cover. -/
def ofRanges (ranges : List (Nat × Nat)) : CharSet :=
  ⟨merge (ranges.mergeSort fun a b => a.1 ≤ b.1)⟩

/-- No character. -/
def empty : CharSet := ⟨[]⟩

/-- Every character. -/
def full : CharSet := ⟨[(0, last)]⟩

/-- One character. -/
def single (c : Char) : CharSet := ⟨[(c.toNat, c.toNat)]⟩

/-- Whether increasing ranges cover a code point. -/
def covers : List (Nat × Nat) → Nat → Bool
  | [], _ => false
  | (lo, hi) :: rest, n => if n < lo then false else n ≤ hi || covers rest n

/-- Whether a character is in the set. -/
def contains (set : CharSet) (c : Char) : Bool := covers set.ranges c.toNat

/-- The gaps between increasing ranges from a code point on. -/
def gaps : Nat → List (Nat × Nat) → List (Nat × Nat)
  | start, [] => if start ≤ last then [(start, last)] else []
  | start, (lo, hi) :: rest =>
    if start < lo then (start, lo - 1) :: gaps (hi + 1) rest else gaps (hi + 1) rest

/-- The characters outside the set. -/
def complement (set : CharSet) : CharSet := ⟨gaps 0 set.ranges⟩

/-- The characters in one set or the other. -/
def union (a b : CharSet) : CharSet := ofRanges (a.ranges ++ b.ranges)

/-- The characters in both sets. -/
def inter (a b : CharSet) : CharSet := (a.complement.union b.complement).complement

/-- The characters of the first set that are not in the second. -/
def diff (a b : CharSet) : CharSet := a.inter b.complement

/-- The characters in exactly one of the sets. -/
def symmDiff (a b : CharSet) : CharSet := (a.union b).diff (a.inter b)

/-- The set or its complement. -/
def negatedIf (negated : Bool) (set : CharSet) : CharSet :=
  if negated then set.complement else set

/-- Whether every character of the set is ASCII. -/
def isAscii (set : CharSet) : Bool := set.ranges.all fun (_, hi) => hi < 0x80

/-- The value of hexadecimal digits in upper case. -/
def hex (digits : List Char) : Nat :=
  digits.foldl (fun acc d => acc * 16 + (if d.isDigit then d.toNat - 48 else d.toNat - 55)) 0

/-- A range written `41-5A`, or a single code point. -/
def readRange (word : List Char) : Nat × Nat :=
  let lo := hex (word.takeWhile (· ≠ '-'))
  match word.dropWhile (· ≠ '-') with
  | _ :: hi => (lo, hex hi)
  | [] => (lo, lo)

/-- The words of a table, which blanks and line breaks separate. -/
def tableWords (text : List Char) : List (List Char) :=
  let (word, words) := text.foldr (fun c (word, words) =>
    if c = ' ' ∨ c = '\n' then ([], if word.isEmpty then words else word :: words) else (c :: word, words))
    (([], []) : List Char × List (List Char))
  if word.isEmpty then words else word :: words

/-- The set that a table of increasing ranges in hexadecimal describes. -/
def ofTable (table : String) : CharSet := ⟨(tableWords table.toList).map readRange⟩

end CharSet

end QualityGate.Unicode
