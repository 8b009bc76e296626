import QualityGate.Regex.Expr

/-!
# Programs

An expression compiles to a list of instructions, each of which names its successors.  The order of
the two successors of a `split` is the order of preference, so preference is a matter of the
program alone and the search needs no knowledge of expressions.

Code is built from its end: compiling an expression needs the instruction that follows it.  A round
of a loop whose body may take no characters is entered through a second `split`, so that a round
that took nothing leads out of the loop.
-/

namespace QualityGate.Regex

open QualityGate.Unicode (CharSet)

/-- An instruction. -/
inductive Inst where
  /-- The match is complete. -/
  | accept
  /-- Take one character of a set. -/
  | char (chars : CharSet) (next : Nat)
  /-- Try the first successor, then the second. -/
  | split (first second : Nat)
  /-- Remember the position in a slot. -/
  | save (slot next : Nat)
  /-- Go on where a condition holds. -/
  | look (kind : Look) (word : CharSet) (next : Nat)
  deriving Repr, Inhabited

/-- Instructions, addressed by their index. -/
abbrev Code := Array Inst

/-- A branch into a body or past it, in the order that greed asks for. -/
def Inst.branch (greedy : Bool) (body past : Nat) : Inst :=
  if greedy then .split body past else .split past body

/-- Add an instruction; its index comes first. -/
def Code.add (code : Code) (inst : Inst) : Nat × Code := (code.size, code.push inst)

/-- Put `n` copies of a piece of code in front of an instruction. -/
def Code.copies (piece : Nat → Code → Nat × Code) : Nat → Nat → Code → Nat × Code
  | 0, next, code => (next, code)
  | n + 1, next, code =>
    let (entry, code) := piece next code
    copies piece n entry code

/-- At most `n` rounds of a piece, each of which may leave for `past`. -/
def Code.optional (piece : Nat → Code → Nat × Code) (greedy : Bool) (past : Nat) :
    Nat → Nat → Code → Nat × Code
  | 0, next, code => (next, code)
  | n + 1, next, code =>
    let (entry, code) := piece next code
    let (entry, code) := code.add (.branch greedy entry past)
    optional piece greedy past n entry code

/-- A piece that is repeated as long as it may; the entry is that of the piece. -/
def Code.loop (piece : Nat → Code → Nat × Code) (greedy : Bool) (past : Nat) (code : Code) :
    Nat × Nat × Code :=
  let (again, code) := code.add .accept
  let (entry, code) := piece again code
  (entry, again, code.set! again (.branch greedy entry past))

/-- Put the code of an expression in front of an instruction. -/
def Expr.compile : Expr → Nat → Code → Nat × Code
  | .empty, next, code => (next, code)
  | .set chars, next, code => code.add (.char chars next)
  | .look kind word, next, code => code.add (.look kind word next)
  | .group index body, next, code =>
    let (stop, code) := code.add (.save (2 * index + 1) next)
    let (entry, code) := body.compile stop code
    code.add (.save (2 * index) entry)
  | .seq a b, next, code =>
    let (entry, code) := b.compile next code
    a.compile entry code
  | .alt a b, next, code =>
    let (second, code) := b.compile next code
    let (first, code) := a.compile next code
    code.add (.split first second)
  | .rep min (some max) greedy body, next, code =>
    let (entry, code) :=
      Code.optional (fun next code => body.compile next code) greedy next (max - min) next code
    Code.copies (fun next code => body.compile next code) min entry code
  | .rep 0 none greedy body, next, code =>
    let (entry, again, code) :=
      Code.loop (fun next code => body.compile next code) greedy next code
    if body.canBeEmpty then code.add (.branch greedy entry next) else (again, code)
  | .rep (n + 1) none greedy body, next, code =>
    let (entry, _, code) :=
      Code.loop (fun next code => body.compile next code) greedy next code
    Code.copies (fun next code => body.compile next code) n entry code

/-- A compiled expression. -/
structure Program where
  code : Code
  start : Nat
  /-- The number of groups, the whole match included. -/
  groups : Nat

/-- The program of an expression; group 0 is the whole match. -/
def Expr.program (e : Expr) : Program :=
  let (start, code) := (Expr.group 0 e).compile 0 #[.accept]
  { code := code, start := start, groups := e.groupCount }

end QualityGate.Regex
