import QualityGate.Proofs.Time.Days
import QualityGate.Proofs.Time.Order
import QualityGate.Proofs.Time.Rfc3339

/-!
# What a written instant denotes

A text in the form of RFC 3339 shows a date, a time of day and an offset (`Stamp`).  It denotes the
instant at which it is that time on that day at a place so far ahead of universal time
(`Stamp.Denotes`); which day that is, is counted day by day (`Falls`).

* `Stamp.exists_denotes` – every such text denotes an instant.
* `Stamp.ofMarker?_text` – it is read as the instant that it denotes, whatever its offset.
* `Stamp.denotes_ofClock` – an instant can be written with every offset, and
  `Stamp.text_ofClock` says that instants are written that way.

### What is load-bearing

The offset is taken off the seconds after the date has been counted, so it may lead to another day,
month or year than the one that is written, and no part of the text has to be carried over.
-/

namespace QualityGate.Time

/-! ### Texts -/

/-- A fraction of a second in nanoseconds: nothing, or a point and digits.  What is finer than a
nanosecond does not count. -/
inductive FractionText : List Char → Nat → Prop where
  | absent : FractionText [] 0
  | digits {digits : List Char} (some : digits ≠ []) (all : ∀ c ∈ digits, c.isDigit = true) :
    FractionText ('.' :: digits)
      (Nat.ofDigitChars 10 digits 0 * nanosPerSecond / 10 ^ digits.length)

/-- An offset in minutes: none, or hours and minutes with a sign. -/
inductive ZoneText : List Char → Int → Prop where
  | universal {letter : Char} (either : letter = 'Z' ∨ letter = 'z') : ZoneText [letter] 0
  | ahead {hours minutes : Nat} (hours_lt : hours < 24) (minutes_lt : minutes < 60) :
    ZoneText ('+' :: (padded 2 hours ++ ':' :: padded 2 minutes)) (hours * 60 + minutes)
  | behind {hours minutes : Nat} (hours_lt : hours < 24) (minutes_lt : minutes < 60) :
    ZoneText ('-' :: (padded 2 hours ++ ':' :: padded 2 minutes)) (-(hours * 60 + minutes))

/-- What a text in the form of RFC 3339 consists of. -/
structure Stamp where
  date : Date
  separator : Char
  hour : Nat
  minute : Nat
  /-- Second 60 is a leap second. -/
  second : Nat
  fraction : List Char
  /-- The fraction in nanoseconds. -/
  nanos : Nat
  zone : List Char
  /-- The offset in minutes. -/
  offset : Int
  year_bounds : 0 ≤ date.year ∧ date.year ≤ 9999
  inCalendar : date.InCalendar
  separates : separator = 'T' ∨ separator = 't' ∨ separator = ' '
  time_bounds : hour < 24 ∧ minute < 60 ∧ second ≤ 60
  fraction_text : FractionText fraction nanos
  zone_text : ZoneText zone offset

namespace Stamp

/-- The text. -/
def text (stamp : Stamp) : String :=
  String.ofList (partsText stamp.date stamp.separator stamp.hour stamp.minute stamp.second
    (stamp.fraction ++ stamp.zone))

/-- At this instant it is the time of the stamp, at a place that is ahead of universal time by the
offset.  A leap second goes on from the second before it. -/
def Denotes (stamp : Stamp) (instant : Instant) : Prop :=
  ∃ day, Falls day stamp.date ∧
    instant.seconds = day * 86400
      + (stamp.hour * 3600 + stamp.minute * 60 + min stamp.second 59 : Nat) - stamp.offset * 60 ∧
    instant.nanos = stamp.nanos + if stamp.second = 60 then nanosPerSecond else 0

/-- Every stamp denotes an instant. -/
theorem exists_denotes (stamp : Stamp) : ∃ instant, stamp.Denotes instant :=
  ⟨⟨_, _⟩, _, falls_toDays stamp.inCalendar, rfl, rfl⟩

end Stamp

/-! ### Reading -/

/-- Of the digits of a fraction the first nine count. -/
theorem decimal_take_nine {digits : List Char} (all : ∀ c ∈ digits, c.isDigit = true) :
    decimal (digits.take 9) * 10 ^ (9 - (digits.take 9).length) =
      Nat.ofDigitChars 10 digits 0 * nanosPerSecond / 10 ^ digits.length := by
  have nanos : nanosPerSecond = 10 ^ 9 := rfl
  rw [decimal_eq, nanos]
  rcases Nat.le_total digits.length 9 with short | long
  · have split : 10 ^ 9 = 10 ^ (9 - digits.length) * 10 ^ digits.length := by
      rw [← Nat.pow_add, Nat.sub_add_cancel short]
    rw [List.take_of_length_le short, split, ← Nat.mul_assoc,
      Nat.mul_div_cancel _ (Nat.pow_pos (by decide))]
  · have nine : (digits.take 9).length = 9 := by rw [List.length_take, Nat.min_eq_left long]
    -- The digits after the ninth are worth less than one nanosecond together.
    have finer := ofDigitChars_lt fun c mem => all c (List.mem_of_mem_drop (i := 9) mem)
    have value : Nat.ofDigitChars 10 digits 0 =
        10 ^ (digits.drop 9).length * Nat.ofDigitChars 10 (digits.take 9) 0
          + Nat.ofDigitChars 10 (digits.drop 9) 0 := by
      rw [← Nat.ofDigitChars_eq_ofDigitChars_zero, ← Nat.ofDigitChars_append, List.take_append_drop]
    have length : 10 ^ digits.length = 10 ^ (digits.drop 9).length * 10 ^ 9 := by
      rw [← Nat.pow_add, List.length_drop, Nat.sub_add_cancel long]
    rw [nine, Nat.sub_self, Nat.pow_zero, Nat.mul_one, length,
      Nat.mul_div_mul_right _ _ (Nat.pow_pos (by decide)), value,
      Nat.mul_add_div (Nat.pow_pos (by decide)), Nat.div_eq_of_lt finer, Nat.add_zero]

/-- A zone begins with something that goes on neither with a number nor with a fraction. -/
theorem ZoneText.exists_cons {zone : List Char} {offset : Int} (written : ZoneText zone offset) :
    ∃ c rest, zone = c :: rest ∧ c.isDigit = false ∧ c ≠ '.' := by
  cases written with
  | universal either => rcases either with rfl | rfl <;> exact ⟨_, _, rfl, rfl, by decide⟩
  | ahead => exact ⟨_, _, rfl, rfl, by decide⟩
  | behind => exact ⟨_, _, rfl, rfl, by decide⟩

theorem ZoneText.natAbs_lt {zone : List Char} {offset : Int} (written : ZoneText zone offset) :
    offset.natAbs < 24 * 60 := by
  cases written with
  | universal => decide
  | ahead => omega
  | behind => omega

/-- Hours and minutes are read with the sign before them. -/
theorem signed_padded {hours minutes : Nat} (hours_lt : hours < 24) (minutes_lt : minutes < 60)
    (sign : Int) :
    (number? 2 (some 2) (padded 2 hours ++ ':' :: padded 2 minutes)).bind (fun (hours, rest) =>
      (char? ':' rest).bind (offsetMinutes? sign hours)) =
        some (sign * (hours * 60 + minutes), []) := by
  have first : number? 2 (some 2) (padded 2 hours ++ ':' :: padded 2 minutes) =
      some (hours, ':' :: padded 2 minutes) :=
    number?_padded (by decide) (by omega) le_rfl (by simp) (noDigit_cons rfl _)
  have second : number? 2 (some 2) (padded 2 minutes ++ []) = some (minutes, []) :=
    number?_padded (by decide) (by omega) le_rfl (by simp) nofun
  rw [List.append_nil] at second
  simp [first, char?, offsetMinutes?, second, Nat.not_lt.mpr (Nat.le_of_lt_succ minutes_lt)]

theorem ZoneText.offset?_eq {zone : List Char} {offset : Int} (written : ZoneText zone offset) :
    offset? (char? ':') zone = some (offset, []) := by
  cases written with
  | universal either => exact if_pos either
  | @ahead hours minutes hours_lt minutes_lt =>
    have read := signed_padded hours_lt minutes_lt 1
    rw [Int.one_mul] at read
    exact read
  | @behind hours minutes hours_lt minutes_lt =>
    have read := signed_padded hours_lt minutes_lt (-1)
    rw [Int.neg_one_mul] at read
    exact read

/-- A fraction is read when a zone comes after it. -/
theorem FractionText.fraction?_append {fraction zone : List Char} {nanos : Nat} {offset : Int}
    (written : FractionText fraction nanos) (zoned : ZoneText zone offset) :
    fraction? (fraction ++ zone) = some (nanos, zone) ∧ NoDigit (fraction ++ zone) := by
  obtain ⟨c, rest, rfl, other, noPoint⟩ := zoned.exists_cons
  cases written with
  | absent =>
    refine ⟨?_, noDigit_cons other rest⟩
    rw [List.nil_append, fraction?]
    exact fun _ same => noPoint (List.cons.inj same).1
  | @digits digits some all =>
    refine ⟨?_, noDigit_cons rfl _⟩
    have taken := takeWhile_isDigit_append all (noDigit_cons other rest)
    have nine : (digits.take 9).isEmpty = false := by
      cases digits with
      | nil => exact absurd rfl some
      | cons d digits => rfl
    rw [List.cons_append, fraction?, taken.1, taken.2, nine, ← decimal_take_nine all]
    rfl

namespace Stamp

variable {stamp : Stamp} {instant other : Instant}

/-- The parts of a stamp are those of the instant that it denotes. -/
theorem instant?_of_denotes (denotes : stamp.Denotes instant) :
    instant? stamp.date.year stamp.date.month stamp.date.day stamp.hour stamp.minute stamp.second
      stamp.nanos stamp.offset = some instant := by
  obtain ⟨day, falls, seconds, nanos⟩ := denotes
  have bounds := toDays_bounds stamp.year_bounds stamp.inCalendar
  rw [falls.toDays_eq] at bounds
  have offsetBounds := stamp.zone_text.natAbs_lt
  obtain ⟨hour, minute, second⟩ := stamp.time_bounds
  have years : yearRange.1 ≤ instant.date.year ∧ instant.date.year ≤ yearRange.2 := by
    refine year_mem_of_days ?_ ?_ <;> simp only [secondsPerDay] <;> omega
  have valid : stamp.date.isValid = true :=
    Date.isValid_iff.mpr ⟨⟨Int.le_trans (by decide) stamp.year_bounds.1,
      Int.le_trans stamp.year_bounds.2 (by decide)⟩, stamp.inCalendar⟩
  let shown := Instant.ofParts stamp.date stamp.hour stamp.minute stamp.second stamp.nanos
  have same : (⟨shown.seconds - stamp.offset * 60, shown.nanos⟩ : Instant) = instant := by
    obtain ⟨instantSeconds, instantNanos⟩ := instant
    simp only [shown, Instant.ofParts, falls.toDays_eq, secondsPerDay, Instant.mk.injEq]
      at seconds nanos ⊢
    -- A leap second is kept as more than a second of nanoseconds.
    split_ifs at nanos ⊢ <;> omega
  simp only [shown] at same
  simp only [instant?, valid, hour, minute, second, offsetBounds, decide_true, Bool.and_self,
    if_true, same, years, and_self]

/-- **A text is read as the instant that it denotes.** -/
theorem ofMarker?_text (denotes : stamp.Denotes instant) : ofMarker? stamp.text = some instant := by
  obtain ⟨fraction, ends⟩ := stamp.fraction_text.fraction?_append stamp.zone_text
  rw [text, ofMarker?_partsText stamp.year_bounds stamp.inCalendar stamp.separates
    stamp.time_bounds ends fraction stamp.zone_text.offset?_eq]
  exact instant?_of_denotes denotes

/-- A stamp denotes one instant. -/
theorem Denotes.unique (first : stamp.Denotes instant) (second : stamp.Denotes other) :
    instant = other := by
  rw [← Option.some_inj, ← ofMarker?_text first, ofMarker?_text second]

end Stamp

/-! ### Blanks around a text -/

theorem digits_padded (width n : Nat) :
    padded width n ≠ [] ∧ (∀ c ∈ padded width n, c.isDigit = true) ∧
      Nat.ofDigitChars 10 (padded width n) 0 = n := by
  obtain ⟨c, rest, begins, -⟩ := exists_padded_eq_cons width n
  refine ⟨by rw [begins]; exact List.cons_ne_nil c rest, fun _ => isDigit_of_mem_padded, ?_⟩
  rw [← decimal_eq, decimal_padded]

/-- A zone does not end with a blank. -/
theorem ZoneText.exists_concat {zone : List Char} {offset : Int} (written : ZoneText zone offset) :
    ∃ front c, zone = front ++ [c] ∧ Text.isBlank c = false := by
  have digits (minutes : Nat) :
      ∃ front c, padded 2 minutes = front ++ [c] ∧ Text.isBlank c = false := by
    obtain ⟨some, all, -⟩ := digits_padded 2 minutes
    exact ⟨_, _, (List.dropLast_concat_getLast some).symm,
      Text.isBlank_of_isDigit (all _ (List.getLast_mem some))⟩
  cases written with
  | universal either => rcases either with rfl | rfl <;> exact ⟨[], _, rfl, rfl⟩
  | @ahead hours minutes =>
    obtain ⟨front, c, ends, solid⟩ := digits minutes
    exact ⟨'+' :: (padded 2 hours ++ ':' :: front), c, by simp [ends], solid⟩
  | @behind hours minutes =>
    obtain ⟨front, c, ends, solid⟩ := digits minutes
    exact ⟨'-' :: (padded 2 hours ++ ':' :: front), c, by simp [ends], solid⟩

/-- Blanks around a stamp are trimmed away, and nothing of the stamp. -/
theorem Stamp.trimmed_around (stamp : Stamp) {front back : List Char}
    (before : Text.isAllBlank front = true) (after : Text.isAllBlank back = true) :
    Text.trimmed (String.ofList (front ++ stamp.text.toList ++ back)) = stamp.text := by
  obtain ⟨first, digits, year, digit⟩ := exists_padded_eq_cons 4 stamp.date.year.toNat
  obtain ⟨rest, last, zone, solid⟩ := stamp.zone_text.exists_concat
  have begins : stamp.text.toList.head? = some first := by
    rw [text, String.toList_ofList, partsText, year]
    rfl
  have ends : stamp.text.toList.getLast? = some last := by
    rw [text, String.toList_ofList, zone, ← List.append_assoc, partsText_append,
      List.getLast?_concat]
  rw [Text.trimmed, String.toList_ofList, Text.trim_append after, Text.trim_prepend before,
    Text.trim_eq_self begins ends ⟨Text.isBlank_of_isDigit digit, solid⟩, String.ofList_toList]

/-! ### Writing -/

/-- What a clock shows that is ahead of universal time by so many minutes, as if it were universal
time. -/
def Instant.onClock (instant : Instant) (offset : Int) : Instant :=
  ⟨instant.seconds + offset * 60, instant.nanos⟩

theorem Instant.onClock_zero (instant : Instant) : instant.onClock 0 = instant := by
  simp [onClock]

/-- A fraction is written in as many digits as it takes. -/
theorem fractionText_fractionText {nanos : Nat} (fits : nanos < nanosPerSecond) :
    FractionText (fractionText nanos) nanos := by
  have written {width n : Nat} (positive : 0 < width) (short : n < 10 ^ width)
      (value : n * nanosPerSecond / 10 ^ width = nanos) :
      FractionText ('.' :: padded width n) nanos := by
    obtain ⟨some, all, sum⟩ := digits_padded width n
    have text := FractionText.digits some all
    rwa [sum, length_padded positive short, value] at text
  rw [nanosPerSecond] at fits written
  unfold fractionText
  split_ifs with zero millis micros
  · rw [zero]
    exact .absent
  · exact written (by decide) (by omega) (by omega)
  · exact written (by decide) (by omega) (by omega)
  · exact written (by decide) (by omega) (by omega)

namespace Stamp

/-- The stamp with what a clock shows and with the offset of the clock. -/
def ofClock (shown : Instant) (ordinary : shown.Ordinary) {zone : List Char} {offset : Int}
    (zoned : ZoneText zone offset) : Stamp where
  date := shown.date
  separator := 'T'
  hour := shown.secondOfDay / 3600
  minute := shown.secondOfDay / 60 % 60
  second := shown.secondOfDay % 60
  fraction := fractionText shown.nanos
  nanos := shown.nanos
  zone := zone
  offset := offset
  year_bounds := ⟨ordinary.year_nonneg, ordinary.year_le⟩
  inCalendar := shown.inCalendar_date
  separates := Or.inl rfl
  time_bounds := by
    have inDay := shown.natCast_secondOfDay
    omega
  fraction_text := fractionText_fractionText ordinary.nanos_lt
  zone_text := zoned

variable {instant : Instant} {zone : List Char} {offset : Int}

/-- An instant is denoted with what any clock shows at it. -/
theorem denotes_ofClock {shown : Instant} (ordinary : shown.Ordinary) (zoned : ZoneText zone offset)
    (shows : shown = instant.onClock offset) : (ofClock shown ordinary zoned).Denotes instant := by
  have inDay := shown.natCast_secondOfDay
  have seconds : shown.seconds = instant.seconds + offset * 60 := by rw [shows]; rfl
  have nanos : shown.nanos = instant.nanos := by rw [shows]; rfl
  refine ⟨shown.seconds / 86400, falls_ofDays _, ?_, ?_⟩
  · simp only [ofClock]
    omega
  · have noLeap : shown.secondOfDay % 60 ≠ 60 := by omega
    simp only [ofClock, noLeap, if_false, Nat.add_zero, nanos]

/-- Instants are written as a clock in universal time shows them. -/
theorem text_ofClock (ordinary : instant.Ordinary) {zone : String}
    (zoned : ZoneText zone.toList offset) :
    (ofClock instant ordinary zoned).text = textWith zone instant := by
  rw [text, ← String.ofList_toList (s := textWith zone instant), toList_textWith ordinary]
  rfl

/-- A marker is written without the fraction. -/
theorem text_ofClock_whole (ordinary : instant.Ordinary) (zoned : ZoneText ['Z'] offset) :
    (ofClock instant.whole ordinary.whole zoned).text = secondsText instant := by
  rw [text, secondsText, wholeText_append ordinary]
  rfl

end Stamp

end QualityGate.Time
