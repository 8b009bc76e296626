import QualityGate.Unicode.CharSet

/-!
# Regular expressions

The expressions that a pattern denotes once its flags are resolved: a set already holds both cases
where case is ignored, and `.` is already the set of characters that it accepts.

Alternatives and repetitions are ordered.  The first alternative is tried first; a greedy repetition
tries one more round before it stops, a lazy one the other way round.
-/

namespace QualityGate

open QualityGate.Unicode (CharSet)

/-- A condition on a position, which takes no characters. -/
inductive Regex.Look where
  | textStart
  | textEnd
  | lineStart
  | lineEnd
  | lineStartCrlf
  | lineEndCrlf
  | wordBoundary
  | notWordBoundary
  | wordStart
  | wordEnd
  | wordStartHalf
  | wordEndHalf
  deriving DecidableEq, Repr

/-- A regular expression. -/
inductive Regex.Expr where
  /-- No characters. -/
  | empty
  /-- One character of a set. -/
  | set (chars : CharSet)
  /-- No characters, where a condition holds.  Word characters are those of `word`. -/
  | look (kind : Look) (word : CharSet)
  /-- What the body takes, remembered under a number. -/
  | group (index : Nat) (body : Expr)
  | seq (first second : Expr)
  | alt (first second : Expr)
  /-- At least `min` rounds and at most `max`. -/
  | rep (min : Nat) (max : Option Nat) (greedy : Bool) (body : Expr)
  deriving Repr, Inhabited

namespace Regex.Expr

/-- One character. -/
def char (c : Char) : Expr := .set (.single c)

/-- One expression after the other. -/
def seqs : List Expr → Expr
  | [] => .empty
  | [e] => e
  | e :: es => .seq e (seqs es)

/-- One expression or another. -/
def alts : List Expr → Expr
  | [] => .set .empty
  | [e] => e
  | e :: es => .alt e (alts es)

/-- Whether the expression may take no characters. -/
def canBeEmpty : Expr → Bool
  | .empty | .look _ _ => true
  | .set chars => chars.ranges.isEmpty
  | .group _ body => body.canBeEmpty
  | .seq a b => a.canBeEmpty && b.canBeEmpty
  | .alt a b => a.canBeEmpty || b.canBeEmpty
  | .rep min _ _ body => min == 0 || body.canBeEmpty

/-- Whether the expression never takes a character. -/
def isAlwaysEmpty : Expr → Bool
  | .empty | .look _ _ => true
  | .set _ => false
  | .group _ body => body.isAlwaysEmpty
  | .seq a b | .alt a b => a.isAlwaysEmpty && b.isAlwaysEmpty
  | .rep _ max _ body => max == some 0 || body.isAlwaysEmpty

/-- A repetition in its simplest form.  More rounds of what takes no characters change nothing, no
rounds are the empty expression, and one round is the body. -/
def repeated (min : Nat) (max : Option Nat) (greedy : Bool) (body : Expr) : Expr :=
  let (min, max) :=
    if body.isAlwaysEmpty then (Nat.min min 1, some (max.elim 1 (Nat.min 1))) else (min, max)
  if min = 0 ∧ max = some 0 then .empty
  else if min = 1 ∧ max = some 1 then body
  else .rep min max greedy body

/-- One more than the highest group number; group 0 is the whole match. -/
def groupCount : Expr → Nat
  | .empty | .look _ _ | .set _ => 1
  | .group index body => max (index + 1) body.groupCount
  | .seq a b | .alt a b => max a.groupCount b.groupCount
  | .rep _ _ _ body => body.groupCount

/-- An estimate of the bytes that a compiled expression takes; the limit is on this size.

What is estimated is the memory of an automaton that takes a text byte by byte and in which
repetitions are written out: so much for every part of the expression, and for every range of a set
more when it goes beyond ASCII, where a character is several bytes and takes several states.  How
many states ranges can share is not looked at, so close to the limit an expression may be called
too large that is not, and the other way round. -/
def cost : Expr → Nat
  | .empty => 32
  | .look _ _ => 32
  | .set chars => chars.ranges.foldl (fun acc (_, hi) => acc + if hi < 0x80 then 8 else 64) 32
  | .group _ body => 64 + body.cost
  | .seq a b => a.cost + b.cost
  | .alt a b => 32 + a.cost + b.cost
  | .rep min max _ body =>
    32 + (match max with
      | some max => max
      | none => Nat.max min 1) * (body.cost + 32)

/-- The size that a compiled expression may not exceed. -/
def sizeLimit : Nat := 10 * 1024 * 1024

end Regex.Expr

end QualityGate
