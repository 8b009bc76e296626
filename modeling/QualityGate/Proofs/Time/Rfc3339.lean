import Mathlib.Algebra.Group.Nat.Defs
import Mathlib.Tactic.SplitIfs
import QualityGate.Proofs.Text.Digits
import QualityGate.Proofs.Text.Trim
import QualityGate.Proofs.Time.Calendar
import QualityGate.Time.Rfc3339

/-!
# Instants in documents and markers

An ordinary instant, in a year of four digits and not in a leap second, is read back from its text
in a document (`ofDocument?_documentText`).  The text of a marker is read part by part
(`ofMarker?_partsText`).

### What is load-bearing

* `number?_padded` – a number is read from its digits when it has no more of them than its width and
  no digit follows.  Every part of the text is such a number, and a sign, a point or the offset
  follows each.
* `Instant.ofParts_date` – the parts of an instant make up the instant again, because its date
  counts its day.
-/

namespace QualityGate.Time

/-- An instant in a year of four digits that is not in a leap second. -/
structure Instant.Ordinary (instant : Instant) : Prop where
  year_nonneg : 0 ≤ instant.date.year
  year_le : instant.date.year ≤ 9999
  nanos_lt : instant.nanos < nanosPerSecond

/-! ### Numbers -/

theorem isDigit_of_mem_padded {width n : Nat} {c : Char} (mem : c ∈ padded width n) :
    c.isDigit = true := by
  rw [padded, toList_toString_nat, List.mem_append] at mem
  rcases mem with zero | digit
  · rw [List.eq_of_mem_replicate zero]
    rfl
  · exact isDigit_of_mem_digitsOf digit

theorem exists_padded_eq_cons (width n : Nat) :
    ∃ c rest, padded width n = c :: rest ∧ c.isDigit = true := by
  obtain ⟨c, rest, begins⟩ : ∃ c rest, padded width n = c :: rest := by
    obtain ⟨c, rest, digits, -⟩ := exists_digitsOf_eq_cons n
    refine List.exists_cons_of_ne_nil fun empty => ?_
    rw [padded, toList_toString_nat, digits] at empty
    exact List.cons_ne_nil _ _ (List.append_eq_nil_iff.mp empty).2
  exact ⟨c, rest, begins, isDigit_of_mem_padded (begins ▸ List.mem_cons_self)⟩

theorem decimal_padded (width n : Nat) : decimal (padded width n) = n := by
  rw [padded, toList_toString_nat, decimal_eq, Nat.ofDigitChars_append,
    Nat.ofDigitChars_replicate_zero, Nat.mul_zero, Nat.ofDigitChars_ten_toDigits]

theorem length_padded {width n : Nat} (positive : 0 < width) (fits : n < 10 ^ width) :
    (padded width n).length = width := by
  have short : (digitsOf n).length ≤ width :=
    (Nat.length_toDigits_le_iff (by decide) positive).mpr fits
  rw [padded, toList_toString_nat, List.length_append, List.length_replicate]
  omega

/-- The digits of a number are taken as a whole. -/
theorem takeWhile_padded {width n : Nat} {rest : List Char} (ends : NoDigit rest) :
    (padded width n ++ rest).takeWhile Char.isDigit = padded width n ∧
      (padded width n ++ rest).dropWhile Char.isDigit = rest :=
  takeWhile_isDigit_append (fun _ => isDigit_of_mem_padded) ends

/-- A number of fixed width is read when no digit follows. -/
theorem number?_padded {least width n : Nat} {most : Option Nat} {rest : List Char}
    (positive : 0 < width) (fits : n < 10 ^ width) (wide : least ≤ width)
    (narrow : ∀ bound ∈ most, width ≤ bound) (ends : NoDigit rest) :
    number? least most (padded width n ++ rest) = some (n, rest) := by
  have length := length_padded positive fits
  unfold number?
  rw [(takeWhile_padded ends).1]
  cases most with
  | none =>
    simp only [length, Nat.not_lt.mpr wide, if_false, decimal_padded, List.drop_left' length]
  | some bound =>
    have whole : (padded width n).take bound = padded width n :=
      List.take_of_length_le (by rw [length]; exact narrow bound rfl)
    simp only [whole, length, Nat.not_lt.mpr wide, if_false, decimal_padded,
      List.drop_left' length]

/-! ### Parts -/

theorem trimStart_padded (width n : Nat) (rest : List Char) :
    Text.trimStart (padded width n ++ rest) = padded width n ++ rest := by
  obtain ⟨c, more, begins, digit⟩ := exists_padded_eq_cons width n
  rw [begins]
  exact Text.trimStart_cons (Text.isBlank_of_isDigit digit) _

/-- A number of two digits is read when no digit follows. -/
theorem looseNumber?_padded {n : Nat} (fits : n < 100) {rest : List Char} (ends : NoDigit rest) :
    looseNumber? (padded 2 n ++ rest) = some (n, rest) := by
  rw [looseNumber?, trimStart_padded]
  exact number?_padded (by decide) fits (by decide) (by simp) ends

theorem looseChar?_cons {c : Char} (solid : Text.isBlank c = false) (rest : List Char) :
    looseChar? c (c :: rest) = some rest := by
  rw [looseChar?, Text.trimStart_cons solid]
  simp [char?]

theorem looseYear?_padded {n : Nat} (fits : n < 10000) {rest : List Char} (ends : NoDigit rest) :
    looseYear? (padded 4 n ++ rest) = some ((n : Int), rest) := by
  obtain ⟨c, more, begins, digit⟩ := exists_padded_eq_cons 4 n
  have read : number? 1 (some 4) (padded 4 n ++ rest) = some (n, rest) :=
    number?_padded (by decide) fits (by decide) (by simp) ends
  rw [looseYear?, trimStart_padded]
  rw [begins, List.cons_append] at read ⊢
  split
  · next same => exact absurd (List.cons.inj same).1 (ne_of_isDigit digit rfl)
  · next same => exact absurd (List.cons.inj same).1 (ne_of_isDigit digit rfl)
  · rw [read]; rfl

/-- Digits after a point are read as that many places. -/
theorem fraction?_padded {width n : Nat} (positive : 0 < width) (fits : n < 10 ^ width)
    (narrow : width ≤ 9) {rest : List Char} (ends : NoDigit rest) :
    fraction? ('.' :: (padded width n ++ rest)) = some (n * 10 ^ (9 - width), rest) := by
  have length := length_padded positive fits
  have whole : (padded width n).take 9 = padded width n := List.take_of_length_le (by omega)
  obtain ⟨c, more, begins, -⟩ := exists_padded_eq_cons width n
  have some_digit : (padded width n).isEmpty = false := by
    rw [begins]
    rfl
  unfold fraction?
  simp only [takeWhile_padded ends, whole, length, some_digit, decimal_padded]
  rfl

/-- The fraction of an instant is read. -/
theorem fraction?_fractionText {nanos : Nat} (fits : nanos < nanosPerSecond) {rest : List Char}
    (ends : NoDigit rest) (noPoint : ∀ more, rest ≠ '.' :: more) :
    fraction? (fractionText nanos ++ rest) = some (nanos, rest) := by
  rw [nanosPerSecond] at fits
  unfold fractionText
  split_ifs with zero millis micros
  · rw [List.nil_append, fraction?, zero]
    exact noPoint
  · rw [List.cons_append, fraction?_padded (by decide) (by omega) (by decide) ends]
    simp
    omega
  · rw [List.cons_append, fraction?_padded (by decide) (by omega) (by decide) ends]
    simp
    omega
  · rw [List.cons_append, fraction?_padded (by decide) (by omega) (by decide) ends]
    simp

/-! ### Instants -/

theorem Instant.natCast_secondOfDay (instant : Instant) :
    (instant.secondOfDay : Int) = instant.seconds % 86400 := by
  simp only [Instant.secondOfDay, secondsPerDay]
  omega

/-- The parts of an instant make it up again. -/
theorem Instant.ofParts_date (instant : Instant) :
    Instant.ofParts instant.date (instant.secondOfDay / 3600) (instant.secondOfDay / 60 % 60)
      (instant.secondOfDay % 60) instant.nanos = instant := by
  have noLeap : instant.secondOfDay % 60 ≠ 60 := by omega
  have day : instant.date.toDays = instant.seconds / 86400 := toDays_ofDays _
  have inDay := instant.natCast_secondOfDay
  have whole : instant.seconds / 86400 * 86400 +
      ((instant.secondOfDay / 3600 * 3600 + instant.secondOfDay / 60 % 60 * 60 +
        (instant.secondOfDay % 60 - 0) : Nat) : Int) = instant.seconds := by omega
  simp only [Instant.ofParts, noLeap, if_false, day, secondsPerDay, whole, Nat.zero_mul,
    Nat.add_zero]

theorem Instant.Ordinary.year_mem {instant : Instant} (ordinary : instant.Ordinary) :
    yearRange.1 ≤ instant.date.year ∧ instant.date.year ≤ yearRange.2 :=
  ⟨Int.le_trans (by decide) ordinary.year_nonneg, Int.le_trans ordinary.year_le (by decide)⟩

theorem Instant.inCalendar_date (instant : Instant) : instant.date.InCalendar :=
  inCalendar_ofDays _

theorem Instant.Ordinary.isValid_date {instant : Instant} (ordinary : instant.Ordinary) :
    instant.date.isValid = true :=
  Date.isValid_iff.mpr ⟨ordinary.year_mem, instant.inCalendar_date⟩

/-- An ordinary instant is the instant of its parts. -/
theorem instant?_date {instant : Instant} (ordinary : instant.Ordinary) :
    instant? instant.date.year instant.date.month instant.date.day (instant.secondOfDay / 3600)
      (instant.secondOfDay / 60 % 60) (instant.secondOfDay % 60) instant.nanos 0 =
      some instant := by
  have inDay := instant.natCast_secondOfDay
  have hour : instant.secondOfDay / 3600 < 24 := by omega
  have minute : instant.secondOfDay / 60 % 60 < 60 := Nat.mod_lt _ (by decide)
  have second : instant.secondOfDay % 60 ≤ 60 := Nat.le_of_lt (Nat.mod_lt _ (by decide))
  have same := instant.ofParts_date
  simp [instant?, same, ordinary.isValid_date, ordinary.year_mem, hour, minute, second]

theorem noDigit_cons {c : Char} (other : c.isDigit = false) (rest : List Char) :
    NoDigit (c :: rest) := by
  intro d first
  cases first
  exact other

/-- A date in a year of four digits, a time of day to the second, and what follows. -/
def partsText (date : Date) (separator : Char) (hour minute second : Nat) (rest : List Char) :
    List Char :=
  padded 4 date.year.toNat ++ '-' :: (padded 2 date.month ++ '-' :: (padded 2 date.day ++
    separator :: (padded 2 hour ++ ':' :: (padded 2 minute ++ ':' :: (padded 2 second ++ rest)))))

theorem partsText_append (date : Date) (separator : Char) (hour minute second : Nat)
    (front back : List Char) :
    partsText date separator hour minute second (front ++ back) =
      partsText date separator hour minute second front ++ back := by
  simp [partsText]

/-- The text of an ordinary instant up to its whole seconds, and what follows. -/
theorem wholeText_append {instant : Instant} (ordinary : instant.Ordinary) (rest : List Char) :
    (wholeText instant).1 ++ rest =
      partsText instant.date 'T' (instant.secondOfDay / 3600) (instant.secondOfDay / 60 % 60)
        (instant.secondOfDay % 60) rest := by
  have year : yearText instant.date.year = padded 4 instant.date.year.toNat :=
    if_pos ⟨ordinary.year_nonneg, ordinary.year_le⟩
  have noLeap : ¬ nanosPerSecond ≤ instant.nanos := Nat.not_le.mpr ordinary.nanos_lt
  simp [wholeText, partsText, year, noLeap]

/-- The text of an ordinary instant with its offset. -/
theorem toList_textWith {instant : Instant} (ordinary : instant.Ordinary) (offset : String) :
    (textWith offset instant).toList =
      partsText instant.date 'T' (instant.secondOfDay / 3600) (instant.secondOfDay / 60 % 60)
        (instant.secondOfDay % 60) (fractionText instant.nanos ++ offset.toList) := by
  have nanos : (wholeText instant).2 = instant.nanos := by
    simp [wholeText, Nat.not_le.mpr ordinary.nanos_lt]
  rw [← wholeText_append ordinary, ← nanos, textWith]
  simp

/-- The last part of a text is the offset. -/
theorem noDigit_fractionText (nanos : Nat) : NoDigit (fractionText nanos ++ ['Z']) := by
  unfold fractionText
  split_ifs <;> exact noDigit_cons rfl _

/-- An ordinary instant is read back from a document. -/
theorem ofDocument?_documentText {instant : Instant} (ordinary : instant.Ordinary) :
    ofDocument? (documentText instant) = some instant := by
  have low := ordinary.year_nonneg
  have high := ordinary.year_le
  have inDay := instant.natCast_secondOfDay
  have yearValue : (instant.date.year.toNat : Int) = instant.date.year := by omega
  obtain ⟨monthFits, dayFits⟩ := instant.inCalendar_date.two_digits
  have year (rest : List Char) := looseYear?_padded (n := instant.date.year.toNat) (by omega)
    (noDigit_cons (c := '-') rfl rest)
  have month (rest : List Char) := looseNumber?_padded monthFits (noDigit_cons (c := '-') rfl rest)
  have day (rest : List Char) := looseNumber?_padded dayFits (noDigit_cons (c := 'T') rfl rest)
  have hour (rest : List Char) := looseNumber?_padded (n := instant.secondOfDay / 3600) (by omega)
    (noDigit_cons (c := ':') rfl rest)
  have minute (rest : List Char) := looseNumber?_padded (n := instant.secondOfDay / 60 % 60)
    (by omega) (noDigit_cons (c := ':') rfl rest)
  have second := looseNumber?_padded (n := instant.secondOfDay % 60) (by omega)
    (noDigit_fractionText instant.nanos)
  have fraction : fraction? (fractionText instant.nanos ++ ['Z']) = some (instant.nanos, ['Z']) :=
    fraction?_fractionText ordinary.nanos_lt (noDigit_cons rfl _) nofun
  have dash (rest : List Char) : looseChar? '-' ('-' :: rest) = some rest :=
    looseChar?_cons rfl rest
  have separator (rest : List Char) : separator? ('T' :: rest) = some rest := rfl
  have colon (rest : List Char) : looseChar? ':' (':' :: rest) = some rest :=
    looseChar?_cons rfl rest
  have offset : looseOffset? ['Z'] = some (0, []) := rfl
  unfold ofDocument?
  rw [documentText, toList_textWith ordinary, partsText]
  -- The parts are read one after the other.
  refine Option.bind_eq_some_iff.mpr ⟨_, year _, ?_⟩
  refine Option.bind_eq_some_iff.mpr ⟨_, dash _, ?_⟩
  refine Option.bind_eq_some_iff.mpr ⟨_, month _, ?_⟩
  refine Option.bind_eq_some_iff.mpr ⟨_, dash _, ?_⟩
  refine Option.bind_eq_some_iff.mpr ⟨_, day _, ?_⟩
  refine Option.bind_eq_some_iff.mpr ⟨_, separator _, ?_⟩
  refine Option.bind_eq_some_iff.mpr ⟨_, hour _, ?_⟩
  refine Option.bind_eq_some_iff.mpr ⟨_, colon _, ?_⟩
  refine Option.bind_eq_some_iff.mpr ⟨_, minute _, ?_⟩
  refine Option.bind_eq_some_iff.mpr ⟨_, colon _, ?_⟩
  refine Option.bind_eq_some_iff.mpr ⟨_, second, ?_⟩
  refine Option.bind_eq_some_iff.mpr ⟨_, fraction, ?_⟩
  refine Option.bind_eq_some_iff.mpr ⟨_, offset, ?_⟩
  rw [yearValue]
  exact instant?_date ordinary

/-! ### Markers -/

/-- An ordinary instant without its fraction is an ordinary instant. -/
theorem Instant.Ordinary.whole {instant : Instant} (ordinary : instant.Ordinary) :
    (⟨instant.seconds, 0⟩ : Instant).Ordinary :=
  ⟨ordinary.year_nonneg, ordinary.year_le, Nat.zero_lt_succ _⟩

/-- A marker is read part by part: the date and the time of day, the fraction, the offset. -/
theorem ofMarker?_partsText {date : Date} {separator : Char} {hour minute second nanos : Nat}
    {offset : Int} {rest zone : List Char} (year : 0 ≤ date.year ∧ date.year ≤ 9999)
    (inCalendar : date.InCalendar) (separates : separator = 'T' ∨ separator = 't' ∨ separator = ' ')
    (time : hour < 24 ∧ minute < 60 ∧ second ≤ 60) (ends : NoDigit rest)
    (fraction : fraction? rest = some (nanos, zone))
    (zoned : offset? (char? ':') zone = some (offset, [])) :
    ofMarker? (String.ofList (partsText date separator hour minute second rest)) =
      instant? date.year date.month date.day hour minute second nanos offset := by
  have yearValue : (date.year.toNat : Int) = date.year := by omega
  obtain ⟨monthFits, dayFits⟩ := inCalendar.two_digits
  have noDigit : separator.isDigit = false := by rcases separates with rfl | rfl | rfl <;> rfl
  have separated (text : List Char) : separator? (separator :: text) = some text :=
    if_pos separates
  have dash (text : List Char) : char? '-' ('-' :: text) = some text := rfl
  have colon (text : List Char) : char? ':' (':' :: text) = some text := rfl
  have years (text : List Char) : number? 4 (some 4) (padded 4 date.year.toNat ++ '-' :: text) =
      some (date.year.toNat, '-' :: text) :=
    number?_padded (by decide) (by omega) le_rfl (by simp) (noDigit_cons rfl text)
  have number {n : Nat} {text : List Char} (fits : n < 100) (stops : NoDigit text) :
      number? 2 (some 2) (padded 2 n ++ text) = some (n, text) :=
    number?_padded (by decide) fits le_rfl (by simp) stops
  have months (text : List Char) := number monthFits (noDigit_cons (c := '-') rfl text)
  have days (text : List Char) := number dayFits (noDigit_cons noDigit text)
  have hours (text : List Char) := number (n := hour) (by omega) (noDigit_cons (c := ':') rfl text)
  have minutes (text : List Char) :=
    number (n := minute) (by omega) (noDigit_cons (c := ':') rfl text)
  have seconds := number (n := second) (by omega) ends
  unfold ofMarker?
  rw [String.toList_ofList, partsText]
  -- The parts are read one after the other.
  simp only [years, dash, months, days, separated, hours, colon, minutes, seconds, fraction, zoned,
    yearValue, Option.bind_eq_bind, Option.bind_some, List.isEmpty_nil, if_true]

end QualityGate.Time
