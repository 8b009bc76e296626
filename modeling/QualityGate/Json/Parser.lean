import QualityGate.Json.Basic
import QualityGate.Text.Hexadecimal

/-!
# Reading JSON

The grammar of RFC 8259 over a list of characters; every reader returns what it has left of the
text.  Blanks may stand around any value, also after the last one, and nothing else may.

A nested value is shorter than the text it stands in, so the length of the text bounds the depth of
the recursion and `parse?` needs no limit of its own.
-/

namespace QualityGate.Json

/-- The blanks of JSON. -/
def isSpace (c : Char) : Bool := c == ' ' || c == '\t' || c == '\n' || c == '\r'

/-- The text after its leading blanks. -/
def skipSpace (text : List Char) : List Char := text.dropWhile isSpace

/-- Four hexadecimal digits. -/
def hex4? : List Char → Option (Nat × List Char)
  | a :: b :: c :: d :: rest => do
    let a ← Text.hexValue? a
    let b ← Text.hexValue? b
    let c ← Text.hexValue? c
    let d ← Text.hexValue? d
    some (((a * 16 + b) * 16 + c) * 16 + d, rest)
  | _ => none

/-- The character that stands for itself after a backslash, or for a control character. -/
def shortEscape? : Char → Option Char
  | '"' => some '"'
  | '\\' => some '\\'
  | '/' => some '/'
  | 'b' => some '\x08'
  | 'f' => some '\x0c'
  | 'n' => some '\n'
  | 'r' => some '\r'
  | 't' => some '\t'
  | _ => none

/-- A piece of a string literal: a character, or a 16-bit unit written as `\u`. -/
inductive Piece where
  | char (c : Char)
  | unit (value : Nat)

/-- The pieces of a string literal after its opening quote, and what follows its closing one. -/
def pieces? : Nat → List Char → Option (List Piece × List Char)
  | 0, _ => none
  | _, [] => none
  | _ + 1, '"' :: rest => some ([], rest)
  | fuel + 1, '\\' :: 'u' :: rest => do
    let (value, rest) ← hex4? rest
    let (more, rest) ← pieces? fuel rest
    some (.unit value :: more, rest)
  | fuel + 1, '\\' :: c :: rest => do
    let c ← shortEscape? c
    let (more, rest) ← pieces? fuel rest
    some (.char c :: more, rest)
  | fuel + 1, c :: rest =>
    if c.toNat < 0x20 ∨ c = '\\' then none
    else do
      let (more, rest) ← pieces? fuel rest
      some (.char c :: more, rest)

/-- The text of the pieces, unless half of a surrogate pair stands alone. -/
def assemble? : List Piece → Option (List Char)
  | [] => some []
  | .char c :: rest => (assemble? rest).map (c :: ·)
  | .unit high :: .unit low :: rest =>
    if 0xD800 ≤ high ∧ high < 0xDC00 then
      if 0xDC00 ≤ low ∧ low < 0xE000 then
        (assemble? rest).map
          (Char.ofNat (0x10000 + (high - 0xD800) * 0x400 + (low - 0xDC00)) :: ·)
      else none
    else if 0xDC00 ≤ high ∧ high < 0xE000 then none
    else (assemble? (.unit low :: rest)).map (Char.ofNat high :: ·)
  | .unit value :: rest =>
    if 0xD800 ≤ value ∧ value < 0xE000 then none
    else (assemble? rest).map (Char.ofNat value :: ·)

/-- A string literal after its opening quote: its text, if it has one, and the rest. -/
def literal? (text : List Char) : Option (Option String × List Char) := do
  let (pieces, rest) ← pieces? (text.length + 1) text
  some ((assemble? pieces).map String.ofList, rest)

/-- The decimal digits at the start of a text, and the rest. -/
def digits (text : List Char) : List Char × List Char :=
  (text.takeWhile Char.isDigit, text.dropWhile Char.isDigit)

/-- The value of decimal digits. -/
def decimal (ds : List Char) : Nat := ds.foldl (fun acc d => acc * 10 + (d.toNat - 48)) 0

/-- The fraction of a number, if there is one: the rest, and whether one was read. -/
def fraction? : List Char → Option (Bool × List Char)
  | '.' :: rest =>
    match digits rest with
    | ([], _) => none
    | (_, rest) => some (true, rest)
  | text => some (false, text)

/-- The exponent of a number, if there is one: the rest, and whether one was read. -/
def exponent? : List Char → Option (Bool × List Char)
  | e :: rest =>
    if e = 'e' ∨ e = 'E' then
      let rest := match rest with
        | '+' :: r | '-' :: r => r
        | r => r
      match digits rest with
      | ([], _) => none
      | (_, rest) => some (true, rest)
    else some (false, e :: rest)
  | [] => some (false, [])

/-- An integer literal as a value: within 64 bits, and zero without a sign. -/
def integer (negative : Bool) (magnitude : Nat) : Json :=
  if negative then
    if 0 < magnitude ∧ 2 * magnitude ≤ UInt64.size then .int (-magnitude) else .real
  else if magnitude < UInt64.size then .int magnitude
  else .real

/-- A number without its sign. -/
def number? (negative : Bool) (text : List Char) : Option (Json × List Char) := do
  let (whole, rest) := digits text
  match whole with
  | [] => none
  | '0' :: _ :: _ => none
  | _ =>
    let (hasFraction, rest) ← fraction? rest
    let (hasExponent, rest) ← exponent? rest
    if hasFraction || hasExponent then some (.real, rest)
    else some (integer negative (decimal whole), rest)

/-- What follows a word that stands at the start of a text. -/
def word? : List Char → List Char → Option (List Char)
  | [], rest => some rest
  | w :: word, c :: rest => if w = c then word? word rest else none
  | _, [] => none

/-- An object, which has no value of its own if one of its keys has none. -/
def object (members : List (Option String × Json)) : Json :=
  match members.mapM fun (name, value) => name.map (·, value) with
  | some members => .obj members
  | none => .garbled

mutual

/-- A value at the start of a text without leading blanks. -/
def value? : Nat → List Char → Option (Json × List Char)
  | 0, _ => none
  | fuel + 1, text =>
    match text with
    | '[' :: rest =>
      match skipSpace rest with
      | ']' :: rest => some (.arr [], rest)
      | rest => do
        let (items, rest) ← items? fuel rest
        some (.arr items, rest)
    | '{' :: rest =>
      match skipSpace rest with
      | '}' :: rest => some (.obj [], rest)
      | rest => do
        let (members, rest) ← members? fuel rest
        some (object members, rest)
    | '"' :: rest => do
      let (text, rest) ← literal? rest
      some ((text.map .str).getD .garbled, rest)
    | '-' :: rest => number? true rest
    | 't' :: rest => (word? ['r', 'u', 'e'] rest).map (.bool true, ·)
    | 'f' :: rest => (word? ['a', 'l', 's', 'e'] rest).map (.bool false, ·)
    | 'n' :: rest => (word? ['u', 'l', 'l'] rest).map (.null, ·)
    | text => number? false text

/-- One or more items, up to the closing bracket. -/
def items? : Nat → List Char → Option (List Json × List Char)
  | 0, _ => none
  | fuel + 1, text => do
    let (item, rest) ← value? fuel text
    match skipSpace rest with
    | ',' :: rest =>
      let (items, rest) ← items? fuel (skipSpace rest)
      some (item :: items, rest)
    | ']' :: rest => some ([item], rest)
    | _ => none

/-- One or more members, up to the closing brace. -/
def members? : Nat → List Char → Option (List (Option String × Json) × List Char)
  | 0, _ => none
  | fuel + 1, text => do
    let '"' :: rest := text | none
    let (name, rest) ← literal? rest
    let ':' :: rest := skipSpace rest | none
    let (value, rest) ← value? fuel (skipSpace rest)
    match skipSpace rest with
    | ',' :: rest =>
      let (members, rest) ← members? fuel (skipSpace rest)
      some ((name, value) :: members, rest)
    | '}' :: rest => some ([(name, value)], rest)
    | _ => none

end

/-- The value that a whole text denotes. -/
def parseChars? (text : List Char) : Option Json :=
  match value? (2 * text.length + 2) (skipSpace text) with
  | some (value, rest) => if (skipSpace rest).isEmpty then some value else none
  | none => none

/-- The value that a whole string denotes. -/
def parse? (text : String) : Option Json := parseChars? text.toList

end QualityGate.Json
