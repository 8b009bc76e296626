import QualityGate.Json.Parser

/-!
# TOML strings

The four kinds of strings, the escapes of two of them, and what may stand between two items: blanks,
line breaks and comments.  Every reader returns what it has left of the text.

Line breaks inside a string of several lines are kept as they are written.
-/

namespace QualityGate.Toml

/-- A blank. -/
def isBlank (c : Char) : Bool := c == ' ' || c == '\t'

/-- The text after its leading blanks. -/
def skipBlanks (text : List Char) : List Char := text.dropWhile isBlank

/-- A character that may stand in comments and strings: no control character but the tab. -/
def isPlain (c : Char) : Bool := c == '\t' || (0x20 ≤ c.toNat && c.toNat != 0x7F)

/-- The text after a line break. -/
def lineBreak? : List Char → Option (List Char)
  | '\n' :: rest => some rest
  | '\r' :: '\n' :: rest => some rest
  | _ => none

/-- The text after the comment that it may start with, up to the line break. -/
def skipComment? : List Char → Option (List Char)
  | '#' :: rest =>
    let body := rest.takeWhile fun c => c != '\n' && c != '\r'
    if body.all isPlain then some (rest.drop body.length) else none
  | text => some text

/-- The text after blanks, line breaks and comments. -/
def skipGaps? : Nat → List Char → Option (List Char)
  | 0, text => some text
  | fuel + 1, text => do
    let text ← skipComment? (skipBlanks text)
    match lineBreak? text with
    | some rest => skipGaps? fuel rest
    | none => some text

/-- A character that is written as so many hexadecimal digits. -/
def code? (count : Nat) (text : List Char) : Option (Char × List Char) := do
  let digits ← (text.take count).mapM Text.hexValue?
  let n := digits.foldl (fun acc d => acc * 16 + d) 0
  if digits.length = count ∧ n.isValidChar then some (Char.ofNat n, text.drop count) else none

/-- An escape after its backslash. -/
def escape? : List Char → Option (Char × List Char)
  | 'b' :: rest => some ('\x08', rest)
  | 't' :: rest => some ('\t', rest)
  | 'n' :: rest => some ('\n', rest)
  | 'f' :: rest => some ('\x0c', rest)
  | 'r' :: rest => some ('\r', rest)
  | 'e' :: rest => some ('\x1b', rest)
  | '"' :: rest => some ('"', rest)
  | '\\' :: rest => some ('\\', rest)
  | 'x' :: rest => code? 2 rest
  | 'u' :: rest => code? 4 rest
  | 'U' :: rest => code? 8 rest
  | _ => none

/-- A string in double quotes, after the first of them. -/
def basic? : Nat → List Char → Option (List Char × List Char)
  | 0, _ => none
  | _, [] => none
  | _ + 1, '"' :: rest => some ([], rest)
  | fuel + 1, '\\' :: rest => do
    let (c, rest) ← escape? rest
    let (more, rest) ← basic? fuel rest
    some (c :: more, rest)
  | fuel + 1, c :: rest => do
    if ! isPlain c then none
    else
      let (more, rest) ← basic? fuel rest
      some (c :: more, rest)

/-- A string in single quotes, after the first of them.  It has no escapes. -/
def literal? (text : List Char) : Option (List Char × List Char) :=
  let body := text.takeWhile (· ≠ '\'')
  match text.drop body.length with
  | [] => none
  | _ :: rest => if body.all isPlain then some (body, rest) else none

/-- The text after a backslash that joins lines: blanks, a line break, and everything blank after
it. -/
def joined? (text : List Char) : Option (List Char) :=
  (lineBreak? (skipBlanks text)).map fun rest =>
    rest.dropWhile fun c => isBlank c || c == '\n' || c == '\r'

/-- A string of several lines, after the quotes and the line break it starts with.  Up to two quotes
may stand right before the three that end it. -/
def lines? (quote : Char) (escapes : Bool) : Nat → List Char → Option (List Char × List Char)
  | 0, _ => none
  | _, [] => none
  | fuel + 1, c :: rest =>
    if c = quote ∧ rest.take 2 = [quote, quote] then
      let kept := ((rest.drop 2).takeWhile (· == quote)).take 2
      some (kept, rest.drop (2 + kept.length))
    else if c = '\\' ∧ escapes then
      match joined? rest with
      | some rest => lines? quote escapes fuel rest
      | none => do
        let (c, rest) ← escape? rest
        let (more, rest) ← lines? quote escapes fuel rest
        some (c :: more, rest)
    else if isPlain c ∨ c = '\n' ∨ (c = '\r' ∧ rest.head? = some '\n') then do
      let (more, rest) ← lines? quote escapes fuel rest
      some (c :: more, rest)
    else none

/-- The text without the line break that it starts with. -/
def dropFirstBreak (text : List Char) : List Char := (lineBreak? text).getD text

/-- A string of any kind. -/
def string? (text : List Char) : Option (List Char × List Char) :=
  match text with
  | '"' :: '"' :: '"' :: rest => lines? '"' true (rest.length + 1) (dropFirstBreak rest)
  | '\'' :: '\'' :: '\'' :: rest => lines? '\'' false (rest.length + 1) (dropFirstBreak rest)
  | '"' :: rest => basic? (rest.length + 1) rest
  | '\'' :: rest => literal? rest
  | _ => none

end QualityGate.Toml
