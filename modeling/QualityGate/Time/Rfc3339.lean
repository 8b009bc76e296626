import QualityGate.Text.Blank
import QualityGate.Time.Instant

/-!
# Written instants

Instants are written in the form of RFC 3339, `2025-01-01T00:00:00Z`, with no digits of a fraction
or with three, six or nine, whichever is the shortest exact form.  A year outside of 0 to 9999 has a
sign.

They are read in two ways.  A *marker* has to follow the form: fixed widths, nothing around it, at
least one digit of a fraction, an offset with a colon.  A *document* may also have blanks between
the parts, fewer digits, a sign before the year, and `UTC` for the offset.  Digits of a fraction
after the ninth are skipped in both.
-/

namespace QualityGate.Time

/-- A number with at least `width` digits. -/
def padded (width n : Nat) : List Char :=
  let digits := (toString n).toList
  List.replicate (width - digits.length) '0' ++ digits

/-- A year: four digits, or a sign and at least four. -/
def yearText (year : Int) : List Char :=
  if 0 ≤ year ∧ year ≤ 9999 then padded 4 year.toNat
  else (if year < 0 then '-' else '+') :: padded 4 year.natAbs

/-- The fraction of a second with its point, in the shortest exact form of three, six or nine
digits. -/
def fractionText (nanos : Nat) : List Char :=
  if nanos = 0 then []
  else if nanos % 1000000 = 0 then '.' :: padded 3 (nanos / 1000000)
  else if nanos % 1000 = 0 then '.' :: padded 6 (nanos / 1000)
  else '.' :: padded 9 nanos

/-- An instant up to its whole seconds, and the fraction that is left. -/
def wholeText (instant : Instant) : List Char × Nat :=
  let date := instant.date
  let second := instant.secondOfDay
  let leap := if nanosPerSecond ≤ instant.nanos then 1 else 0
  (yearText date.year ++ '-' :: padded 2 date.month ++ '-' :: padded 2 date.day
    ++ 'T' :: padded 2 (second / 3600) ++ ':' :: padded 2 (second / 60 % 60)
    ++ ':' :: padded 2 (second % 60 + leap),
   instant.nanos - leap * nanosPerSecond)

/-- An instant with its fraction and with this text for the offset. -/
def textWith (offset : String) (instant : Instant) : String :=
  let (whole, nanos) := wholeText instant
  String.ofList (whole ++ fractionText nanos ++ offset.toList)

/-- An instant as documents have it. -/
def documentText (instant : Instant) : String := textWith "Z" instant

/-- An instant with its offset in figures. -/
def offsetText (instant : Instant) : String := textWith "+00:00" instant

/-- An instant to the second. -/
def secondsText (instant : Instant) : String :=
  String.ofList ((wholeText instant).1 ++ ['Z'])

/-! ## Reading -/

/-- A reader takes something from the start of a text and leaves the rest. -/
abbrev Reader (α : Type) := List Char → Option (α × List Char)

/-- The value of decimal digits. -/
def decimal (digits : List Char) : Nat :=
  digits.foldl (fun acc d => acc * 10 + (d.toNat - 48)) 0

/-- A number of `least` to `most` digits. -/
def number? (least : Nat) (most : Option Nat) : Reader Nat := fun text =>
  let digits := text.takeWhile Char.isDigit
  let digits := match most with
    | some most => digits.take most
    | none => digits
  if digits.length < least then none else some (decimal digits, text.drop digits.length)

/-- One character. -/
def char? (c : Char) : List Char → Option (List Char)
  | d :: rest => if c = d then some rest else none
  | [] => none

/-- The letter or the blank between date and time. -/
def separator? : List Char → Option (List Char)
  | c :: rest => if c = 'T' ∨ c = 't' ∨ c = ' ' then some rest else none
  | [] => none

/-- The fraction in nanoseconds, if there is a point. -/
def fraction? : Reader Nat
  | '.' :: text => do
    let digits := (text.takeWhile Char.isDigit).take 9
    if digits.isEmpty then none
    else some (decimal digits * Nat.pow 10 (9 - digits.length), text.dropWhile Char.isDigit)
  | text => some (0, text)

/-- Minutes of an offset. -/
def offsetMinutes? (sign : Int) (hours : Nat) (text : List Char) : Option (Int × List Char) := do
  let (minutes, rest) ← number? 2 (some 2) text
  if 59 < minutes then none else some (sign * (hours * 60 + minutes), rest)

/-- An offset in minutes: `Z`, or a sign, hours and minutes with what `between` takes. -/
def offset? (between : List Char → Option (List Char)) : Reader Int
  | [] => none
  | c :: text =>
    if c = 'Z' ∨ c = 'z' then some (0, text)
    else if c = '+' ∨ c = '-' ∨ c = '\u2212' then do
      let (hours, rest) ← number? 2 (some 2) text
      offsetMinutes? (if c = '+' then 1 else -1) hours (← between rest)
    else none

/-- The instant of a local date and time at an offset of so many minutes. -/
def instant? (year : Int) (month day hour minute second nanos : Nat) (offset : Int) :
    Option Instant :=
  let date : Date := ⟨year, month, day⟩
  if date.isValid && hour < 24 && minute < 60 && second ≤ 60 && offset.natAbs < 24 * 60 then
    let localTime := Instant.ofParts date hour minute second nanos
    let instant : Instant := ⟨localTime.seconds - offset * 60, localTime.nanos⟩
    if yearRange.1 ≤ instant.date.year ∧ instant.date.year ≤ yearRange.2 then some instant
    else none
  else none

/-- Read an instant of fixed form. -/
def ofMarker? (text : String) : Option Instant := do
  let (year, rest) ← number? 4 (some 4) text.toList
  let (month, rest) ← number? 2 (some 2) (← char? '-' rest)
  let (day, rest) ← number? 2 (some 2) (← char? '-' rest)
  let (hour, rest) ← number? 2 (some 2) (← separator? rest)
  let (minute, rest) ← number? 2 (some 2) (← char? ':' rest)
  let (second, rest) ← number? 2 (some 2) (← char? ':' rest)
  let (nanos, rest) ← fraction? rest
  let (offset, rest) ← offset? (char? ':') rest
  if rest.isEmpty then instant? year month day hour minute second nanos offset else none

/-- A number of one or two digits after blanks. -/
def looseNumber? : Reader Nat := fun text => number? 1 (some 2) (Text.trimStart text)

/-- A year after blanks: up to four digits, or a sign and any number of them. -/
def looseYear? : Reader Int := fun text =>
  match Text.trimStart text with
  | '-' :: rest => (number? 1 none rest).map fun (n, rest) => (-n, rest)
  | '+' :: rest => (number? 1 none rest).map fun (n, rest) => (n, rest)
  | rest => (number? 1 (some 4) rest).map fun (n, rest) => (n, rest)

/-- One character after blanks. -/
def looseChar? (c : Char) (text : List Char) : Option (List Char) :=
  char? c (Text.trimStart text)

/-- An offset after blanks, or `UTC`. -/
def looseOffset? : Reader Int := fun text =>
  let text := Text.trimStart text
  if (text.take 3).map Char.toUpper == ['U', 'T', 'C'] then some (0, text.drop 3)
  else offset? (fun rest => some (rest.dropWhile fun c => c == ':' || Text.isBlank c)) text

/-- Read an instant as documents may write it. -/
def ofDocument? (text : String) : Option Instant := do
  let (year, rest) ← looseYear? text.toList
  let (month, rest) ← looseNumber? (← looseChar? '-' rest)
  let (day, rest) ← looseNumber? (← looseChar? '-' rest)
  let (hour, rest) ← looseNumber? (← separator? rest)
  let (minute, rest) ← looseNumber? (← looseChar? ':' rest)
  let (second, rest) ← looseNumber? (← looseChar? ':' rest)
  let (nanos, rest) ← fraction? rest
  let (offset, rest) ← looseOffset? rest
  if Text.isAllBlank rest then instant? year month day hour minute second nanos offset else none

end QualityGate.Time
