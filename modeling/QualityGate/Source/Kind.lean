import QualityGate.Text.Utf8

/-!
# What each byte of a source file is

One pass from left to right decides whether a byte is executable code, part of a comment, or part
of a literal.  The pass looks at bytes: every delimiter is ASCII, and no byte of a longer character
is, so a step never begins inside a character.

The pass never fails.  A comment or literal without its closing delimiter reaches to the end of the
text.  A template literal is one piece of text: code inside `${…}` is not looked for.

The pass is written down twice.  `kindsFrom` reads a list byte by byte and says what the modes mean.
`sweep?` is what runs: it goes through the text in place, writes the kinds into an array, and skips a
block comment as a whole.  It has no result if it ever uses a place outside of the text.
-/

namespace QualityGate.Source

open QualityGate.Text (Bytes)

/-- What a byte belongs to. -/
inductive Kind where
  | code
  | comment
  | literal
  deriving DecidableEq, Repr

/-- Where the pass stands between two bytes. -/
inductive Mode where
  /-- In executable code. -/
  | normal
  /-- After `//`, until the end of the line. -/
  | lineComment
  /-- After `/*`, until `*/`. -/
  | blockComment
  /-- After this quote, until the same quote. -/
  | quoted (quote : UInt8)
  deriving DecidableEq, Repr

/-- The byte `/`. -/
def slash : UInt8 := 0x2F
/-- The byte `*`. -/
def star : UInt8 := 0x2A
/-- The byte `\`. -/
def backslash : UInt8 := 0x5C
/-- The line break. -/
def newline : UInt8 := 0x0A
/-- The blank that stands in for hidden bytes. -/
def space : UInt8 := 0x20

/-- The three quotes: two for strings, and the backtick for template literals. -/
def isQuote (b : UInt8) : Bool := b == 0x27 || b == 0x22 || b == 0x60

/-- The kind of every byte that is read from a given place on. -/
def kindsFrom : Mode → Bytes → List Kind
  | _, [] => []
  | .normal, a :: b :: rest =>
    if a = slash ∧ b = slash then .comment :: .comment :: kindsFrom .lineComment rest
    else if a = slash ∧ b = star then .comment :: .comment :: kindsFrom .blockComment rest
    else if isQuote a then .literal :: kindsFrom (.quoted a) (b :: rest)
    else .code :: kindsFrom .normal (b :: rest)
  | .normal, [a] => [if isQuote a then .literal else .code]
  | .lineComment, a :: rest =>
    if a = newline then .code :: kindsFrom .normal rest
    else .comment :: kindsFrom .lineComment rest
  | .blockComment, a :: b :: rest =>
    if a = star ∧ b = slash then .comment :: .comment :: kindsFrom .normal rest
    else .comment :: kindsFrom .blockComment (b :: rest)
  | .blockComment, [_] => [.comment]
  | .quoted quote, a :: b :: rest =>
    if a = backslash then .literal :: .literal :: kindsFrom (.quoted quote) rest
    else .literal :: kindsFrom (if a = quote then .normal else .quoted quote) (b :: rest)
  | .quoted _, [_] => [.literal]

@[simp] theorem kindsFrom_nil (mode : Mode) : kindsFrom mode [] = [] := by
  cases mode <;> rfl

/-- Every byte has one kind. -/
@[simp] theorem length_kindsFrom (mode : Mode) (bytes : Bytes) :
    (kindsFrom mode bytes).length = bytes.length := by
  fun_induction kindsFrom mode bytes <;> simp_all

/-! ### In place -/

/-- Give so many places, from one on, this kind.  Outside of the array there is no place. -/
def mark? (kind : Kind) : Nat → Nat → Array Kind → Option (Array Kind)
  | _, 0, kinds => some kinds
  | place, count + 1, kinds =>
    if inside : place < kinds.size then mark? kind (place + 1) count (kinds.set place kind)
    else none

/-- The first place, from one on, where `*/` stands. -/
def closing? (bytes : Array UInt8) (place : Nat) : Option Nat :=
  if inside : place + 1 < bytes.size then
    if bytes[place] = star ∧ bytes[place + 1] = slash then some place
    else closing? bytes (place + 1)
  else none
termination_by bytes.size - place

/-- The place after a comment of which the rest begins at this place. -/
def commentEnd (bytes : Array UInt8) (place : Nat) : Nat :=
  match closing? bytes place with
  | some close => close + 2
  | none => bytes.size

theorem le_of_closing?_eq_some {bytes : Array UInt8} {place close : Nat}
    (found : closing? bytes place = some close) : place ≤ close := by
  fun_induction closing? bytes place with
  | case1 place inside closes => exact Nat.le_of_eq (Option.some.inj found)
  | case2 place inside other ih => exact Nat.le_of_succ_le (ih found)
  | case3 place outside => cases found

/-- Skipping a comment goes forward. -/
theorem lt_commentEnd {bytes : Array UInt8} {place : Nat} (inside : place < bytes.size) :
    place < commentEnd bytes place := by
  unfold commentEnd
  split
  · next close found =>
    have ahead := le_of_closing?_eq_some found
    omega
  · exact inside

/-- The pass in place, from this place on; the places before it have their kinds, all others are
code until a kind is written. -/
def sweep? (bytes : Array UInt8) (mode : Mode) (place : Nat) (kinds : Array Kind) :
    Option (Array Kind) :=
  if inside : place < bytes.size then
    let byte := bytes[place]
    match mode with
    | .normal =>
      if byte = slash ∧ bytes[place + 1]? = some slash then
        (mark? .comment place 2 kinds).bind (sweep? bytes .lineComment (place + 2))
      else if byte = slash ∧ bytes[place + 1]? = some star then
        (mark? .comment place 2 kinds).bind (sweep? bytes .blockComment (place + 2))
      else if isQuote byte then
        (mark? .literal place 1 kinds).bind (sweep? bytes (.quoted byte) (place + 1))
      else sweep? bytes .normal (place + 1) kinds
    | .lineComment =>
      if byte = newline then sweep? bytes .normal (place + 1) kinds
      else (mark? .comment place 1 kinds).bind (sweep? bytes .lineComment (place + 1))
    | .blockComment =>
      have forward := lt_commentEnd inside
      let stop := commentEnd bytes place
      (mark? .comment place (stop - place) kinds).bind (sweep? bytes .normal stop)
    | .quoted quote =>
      if byte = backslash then
        -- The byte after a backslash is part of the literal, if there is one.
        let count := if place + 1 < bytes.size then 2 else 1
        (mark? .literal place count kinds).bind (sweep? bytes (.quoted quote) (place + 2))
      else
        (mark? .literal place 1 kinds).bind
          (sweep? bytes (if byte = quote then .normal else .quoted quote) (place + 1))
  else some kinds
termination_by bytes.size - place

/-- The kind of every byte of a text.  The pass always has a result. -/
def kinds (bytes : Bytes) : List Kind :=
  ((sweep? bytes.toArray .normal 0 (Array.replicate bytes.length .code)).getD #[]).toList

end QualityGate.Source
