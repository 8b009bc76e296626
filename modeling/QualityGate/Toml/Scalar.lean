import QualityGate.Toml.Text

/-!
# TOML numbers, dates and truth values

A value without quotes is a word, and the word alone decides what it is.  A date may be followed by
a blank and a time, which then belong to the word.

Numbers without a fraction are kept up to 128 bits; longer ones, and fractions that no double can
hold, are refused.  Dates only have to exist: nothing here reads one, so a date is a table with one
member of a name that no record uses.
-/

namespace QualityGate.Toml

/-- A character of a word. -/
def isWordChar (c : Char) : Bool :=
  c.isAlphanum || c == '_' || c == '+' || c == '-' || c == '.' || c == ':'

/-- Digits, between which single underscores may stand. -/
def group? (isDigit : Char → Bool) : List Char → Option (List Char)
  | [] => none
  | [c] => if isDigit c then some [c] else none
  | c :: '_' :: rest => if isDigit c then (group? isDigit rest).map (c :: ·) else none
  | c :: rest => if isDigit c then (group? isDigit rest).map (c :: ·) else none

/-- The value of digits in a base. -/
def valueIn (base : Nat) (digits : List Char) : Nat :=
  digits.foldl (fun acc d => acc * base + (Text.hexValue? d).getD 0) 0

/-- A whole number, unless it is too long. -/
def integer? (value : Int) : Option Json :=
  if -Int.ofNat (1 <<< 127) ≤ value ∧ value < Int.ofNat (1 <<< 128) then some (.int value)
  else none

/-- A whole number in another base. -/
def based? (base : Nat) (isDigit : Char → Bool) (word : List Char) : Option Json := do
  integer? (valueIn base (← group? isDigit word))

/-- Decimal digits without superfluous zeros in front. -/
def decimal? (word : List Char) : Option (List Char) :=
  match group? Char.isDigit word with
  | some ('0' :: _ :: _) => none
  | digits => digits

/-- A fraction `digits * 10 ^ exponent`, unless it is beyond every double. -/
def real? (digits : List Char) (exponent : Int) : Option Json :=
  let digits := digits.dropWhile (· == '0')
  let size := digits.length + exponent
  let limit := 1 <<< 1024 - 1 <<< 970
  let fits :=
    if digits.isEmpty ∨ size < 300 then true
    else if 310 < size then false
    else if 0 ≤ exponent then decide (valueIn 10 digits * Nat.pow 10 exponent.toNat < limit)
    else decide (valueIn 10 digits < limit * Nat.pow 10 (-exponent).toNat)
  if fits then some .real else none

/-- An exponent after its letter. -/
def exponent? (word : List Char) : Option Int :=
  match word with
  | '-' :: digits => (group? Char.isDigit digits).map fun ds => -(valueIn 10 ds : Int)
  | '+' :: digits => (group? Char.isDigit digits).map fun ds => (valueIn 10 ds : Int)
  | digits => (group? Char.isDigit digits).map fun ds => (valueIn 10 ds : Int)

/-- A fraction, with a point or an exponent or both. -/
def fraction? (word : List Char) : Option Json := do
  let isExponent (c : Char) := c == 'e' || c == 'E'
  let mantissa := word.takeWhile fun c => ! isExponent c
  let exponent ← match word.dropWhile fun c => ! isExponent c with
    | [] => some 0
    | _ :: rest => exponent? rest
  let whole ← decimal? (mantissa.takeWhile (· ≠ '.'))
  match mantissa.dropWhile (· ≠ '.') with
  | [] => real? whole exponent
  | _ :: rest =>
    let fraction ← group? Char.isDigit rest
    real? (whole ++ fraction) (exponent - fraction.length)

/-- A number without its sign. -/
def magnitude? (negative : Bool) (word : List Char) : Option Json :=
  if word = "inf".toList ∨ word = "nan".toList then some .real
  else if word.all fun c => c.isDigit || c == '_' then do
    let value : Int := valueIn 10 (← decimal? word)
    integer? (if negative then -value else value)
  else fraction? word

/-- A number. -/
def number? : List Char → Option Json
  | '+' :: word => magnitude? false word
  | '-' :: word => magnitude? true word
  | '0' :: 'x' :: word => based? 16 (fun c => (Text.hexValue? c).isSome) word
  | '0' :: 'o' :: word => based? 8 (fun c => '0' ≤ c && c ≤ '7') word
  | '0' :: 'b' :: word => based? 2 (fun c => c == '0' || c == '1') word
  | word => magnitude? false word

/-- Exactly so many digits. -/
def digits? (count : Nat) (text : List Char) : Option (Nat × List Char) :=
  let digits := text.take count
  if digits.length = count ∧ digits.all Char.isDigit then
    some (valueIn 10 digits, text.drop count)
  else none

/-- The days of a month. -/
def monthDays (year month : Nat) : Nat :=
  if month = 2 then
    if year % 4 = 0 ∧ (year % 100 ≠ 0 ∨ year % 400 = 0) then 29 else 28
  else if month = 4 ∨ month = 6 ∨ month = 9 ∨ month = 11 then 30
  else 31

/-- The text after a date. -/
def date? (text : List Char) : Option (List Char) := do
  let (year, rest) ← digits? 4 text
  match rest with
  | '-' :: rest =>
    let (month, rest) ← digits? 2 rest
    match rest with
    | '-' :: rest =>
      let (day, rest) ← digits? 2 rest
      if 1 ≤ month ∧ month ≤ 12 ∧ 1 ≤ day ∧ day ≤ monthDays year month then some rest else none
    | _ => none
  | _ => none

/-- The text after the seconds of a time, which may be left out. -/
def seconds? : List Char → Option (List Char)
  | ':' :: rest => do
    let (second, rest) ← digits? 2 rest
    if 60 < second then none
    else match rest with
      | '.' :: rest =>
        let after := rest.dropWhile Char.isDigit
        if after.length < rest.length then some after else none
      | rest => some rest
  | rest => some rest

/-- The text after a time. -/
def time? (text : List Char) : Option (List Char) := do
  let (hour, rest) ← digits? 2 text
  match rest with
  | ':' :: rest =>
    let (minute, rest) ← digits? 2 rest
    if 23 < hour ∨ 59 < minute then none else seconds? rest
  | _ => none

/-- Whether a text is an offset or nothing. -/
def isOffset : List Char → Bool
  | [] => true
  | ['Z'] | ['z'] => true
  | c :: rest =>
    (c == '+' || c == '-') && (do
      let (hours, rest) ← digits? 2 rest
      match rest with
      | ':' :: rest =>
        let (minutes, rest) ← digits? 2 rest
        some (decide (hours * 60 + minutes ≤ 24 * 60) && rest.isEmpty)
      | _ => none).getD false

/-- Whether a word is a date, a time, or both. -/
def isDateTime (word : List Char) : Bool :=
  match date? word with
  | some [] => true
  | some (c :: rest) =>
    (c == 'T' || c == 't' || c == ' ') && (time? rest).any isOffset
  | none => time? word == some []

/-- The value of a word. -/
def word? (word : List Char) : Option Json :=
  if word = "true".toList then some (.bool true)
  else if word = "false".toList then some (.bool false)
  else if isDateTime word then some (.obj [("$datetime", .str (String.ofList word))])
  else number? word

/-- A value without quotes. -/
def scalar? (text : List Char) : Option (Json × List Char) := do
  let word := text.takeWhile isWordChar
  let rest := text.dropWhile isWordChar
  let (word, rest) := match date? word, rest with
    | some [], ' ' :: c :: more =>
      if c.isDigit then
        (word ++ ' ' :: (c :: more).takeWhile isWordChar, (c :: more).dropWhile isWordChar)
      else (word, rest)
    | _, _ => (word, rest)
  some (← word? word, rest)

end QualityGate.Toml
