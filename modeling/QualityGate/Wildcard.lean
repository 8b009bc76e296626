import QualityGate.Glob

/-!
# Wildcards

Patterns for names as shells and lists of ignored files have them.  A pattern is a list of pieces: a
piece of a glob, or a set of characters in brackets.  A `!` or a `^` at the start of a set turns it
around, a `-` between two characters makes a range, and a closing bracket at the start stands for
itself.
-/

namespace QualityGate.Wildcard

/-- A piece of a pattern. -/
inductive Piece where
  | glob (token : Glob.Token)
  /-- One character that is, or is not, within one of some ranges. -/
  | set (negated : Bool) (ranges : List (Char × Char))
  deriving DecidableEq, Repr

/-- The ranges of a set up to its closing bracket, and the rest of the pattern. -/
def ranges? : Nat → List Char → Option (List (Char × Char) × List Char)
  | 0, _ => none
  | _, [] => none
  | fuel + 1, first :: rest =>
    match first, rest with
    | '\\', c :: rest => continueSet fuel c rest
    | c, rest => continueSet fuel c rest
where
  /-- Go on after a character. -/
  continueSet (fuel : Nat) (c : Char) (rest : List Char) :
      Option (List (Char × Char) × List Char) :=
    match rest with
    | ']' :: rest => some ([(c, c)], rest)
    | '-' :: ']' :: rest => some ([(c, c), ('-', '-')], rest)
    | '-' :: d :: ']' :: rest => some ([(c, d)], rest)
    | '-' :: d :: rest => (ranges? fuel rest).map fun (ranges, rest) => ((c, d) :: ranges, rest)
    | rest => (ranges? fuel rest).map fun (ranges, rest) => ((c, c) :: ranges, rest)

/-- The set after an opening bracket, and the rest of the pattern; without a closing bracket there
is no set. -/
def set? (text : List Char) : Option (Piece × List Char) :=
  let (negated, body) := match text with
    | '!' :: body | '^' :: body => (true, body)
    | body => (false, body)
  (ranges? (body.length + 1) body).map fun (ranges, rest) => (.set negated ranges, rest)

/-- The pieces of a pattern, of which so many characters are looked at. -/
def pieces : Nat → List Char → List Piece
  | 0, _ => []
  | _, [] => []
  | fuel + 1, '*' :: rest => .glob .withinName :: pieces fuel rest
  | fuel + 1, '?' :: rest => .glob .one :: pieces fuel rest
  | fuel + 1, '\\' :: c :: rest => .glob (.char c) :: pieces fuel rest
  | fuel + 1, '[' :: rest =>
    match set? rest with
    | some (set, rest) => set :: pieces fuel rest
    | none => .glob (.char '[') :: pieces fuel rest
  | fuel + 1, c :: rest => .glob (.char c) :: pieces fuel rest

/-- The pieces of a pattern. -/
def ofText (text : List Char) : List Piece := pieces (text.length + 1) text

/-- What may be left of a text after a piece.  The characters that a `*`, a `?` or a set may stand
for are those of `wide`. -/
def Piece.rests (wide : Char → Bool) : Piece → List Char → List (List Char)
  | .glob .withinName, text => Glob.restsWhile wide text
  | .glob .one, c :: text => if wide c then [text] else []
  | .glob token, text => token.rests text
  | .set negated ranges, c :: text =>
    if wide c ∧ (ranges.any fun (low, high) => low ≤ c && c ≤ high) ≠ negated then [text] else []
  | .set _ _, [] => []

/-- Whether some pieces match a text. -/
def fits (wide : Char → Bool) (pieces : List Piece) (text : List Char) : Bool :=
  (pieces.foldl (fun texts piece => (texts.flatMap (piece.rests wide)).eraseDups) [text]).any
    List.isEmpty

/-- Whether some pieces match a path, in which they do not stand for slashes. -/
def fitsPath (pieces : List Piece) (path : List Char) : Bool := fits (· ≠ '/') pieces path

end QualityGate.Wildcard
