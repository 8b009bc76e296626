/-!
# White space and trimming

A blank is a character with the Unicode property `White_Space`.  Trimming removes blanks from the
ends of a text; the prefix and suffix functions below remove a fixed text instead, once or as often
as it occurs.
-/

namespace QualityGate.Text

/-- The Unicode property `White_Space`. -/
def isBlank (c : Char) : Bool :=
  let n := c.toNat
  (9 ≤ n && n ≤ 13) || n == 0x20 || n == 0x85 || n == 0xA0 || n == 0x1680
    || (0x2000 ≤ n && n ≤ 0x200A) || n == 0x2028 || n == 0x2029 || n == 0x202F || n == 0x205F
    || n == 0x3000

/-- The text without the blanks at its start. -/
def trimStart (text : List Char) : List Char := text.dropWhile isBlank

/-- The text without its longest tail of characters that satisfy `p`. -/
def dropWhileEnd (p : Char → Bool) (text : List Char) : List Char :=
  (text.reverse.dropWhile p).reverse

/-- The text without the blanks at its end. -/
def trimEnd (text : List Char) : List Char := dropWhileEnd isBlank text

/-- The text without the blanks at its two ends. -/
def trim (text : List Char) : List Char := trimEnd (trimStart text)

/-- Nothing but blanks. -/
def isAllBlank (text : List Char) : Bool := text.all isBlank

/-- What follows `front` in a text that starts with it. -/
def stripPrefix? : List Char → List Char → Option (List Char)
  | [], text => some text
  | _ :: _, [] => none
  | f :: front, c :: text => if f = c then stripPrefix? front text else none

@[simp] theorem stripPrefix?_nil (text : List Char) : stripPrefix? [] text = some text := rfl

theorem stripPrefix?_eq_some_iff {front text rest : List Char} :
    stripPrefix? front text = some rest ↔ text = front ++ rest := by
  induction front generalizing text with
  | nil => simp [stripPrefix?, eq_comm]
  | cons f front ih =>
    cases text with
    | nil => simp [stripPrefix?]
    | cons c text =>
      by_cases h : f = c
      · simp [stripPrefix?, h, ih]
      · simp [stripPrefix?, h, Ne.symm h]

/-- What precedes `back` in a text that ends with it. -/
def stripSuffix? (back text : List Char) : Option (List Char) :=
  (stripPrefix? back.reverse text.reverse).map List.reverse

theorem stripSuffix?_eq_some_iff {back text rest : List Char} :
    stripSuffix? back text = some rest ↔ text = rest ++ back := by
  simp only [stripSuffix?, Option.map_eq_some_iff, stripPrefix?_eq_some_iff]
  constructor
  · rintro ⟨r, h, rfl⟩
    simpa using congrArg List.reverse h
  · rintro rfl
    exact ⟨rest.reverse, by simp, by simp⟩

/-- The text before the first occurrence of `sep`, and the text after it. -/
def cutAt? (sep : List Char) : List Char → Option (List Char × List Char)
  | [] => if sep.isEmpty then some ([], []) else none
  | c :: text =>
    match stripPrefix? sep (c :: text) with
    | some rest => some ([], rest)
    | none => (cutAt? sep text).map fun (before, rest) => (c :: before, rest)

/-- The text without any leading repetitions of `./`. -/
def dropCurrentDir : List Char → List Char
  | '.' :: '/' :: rest => dropCurrentDir rest
  | text => text

/-- Trimming of a string. -/
def trimmed (text : String) : String := String.ofList (trim text.toList)

/-- A string with nothing but blanks. -/
def isBlankString (text : String) : Bool := isAllBlank text.toList

end QualityGate.Text
