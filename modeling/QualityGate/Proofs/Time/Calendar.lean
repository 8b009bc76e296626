import Mathlib.Tactic.SplitIfs
import QualityGate.Time.Calendar

/-!
# Dates and days

The count of days is exact: every day is the count of the date that stands for it
(`toDays_ofDays`), and that date is one that the calendar has (`inCalendar_ofDays`).

### What is load-bearing

* `CycleDay` – a day of a 400-year cycle as whole centuries, whole spans of four years, whole years
  and days.  The last year of a span has a day more, except for the last one of a century that is
  not the last of the cycle.  The division that finds the year subtracts one day for every span and
  adds one for every century, which never counts a year too many (`CycleDay.yearOfCycle`).
* Months from March depend on the day of the year alone (`YearDay`).
-/

namespace QualityGate.Time

/-- A day of a 400-year cycle that begins in March. -/
structure CycleDay (day centuries spans years rest : Int) : Prop where
  sum : day = 36524 * centuries + 1461 * spans + 365 * years + rest
  centuries_bounds : 0 ≤ centuries ∧ centuries ≤ 3
  spans_bounds : 0 ≤ spans ∧ spans ≤ 24
  years_bounds : 0 ≤ years ∧ years ≤ 3
  rest_bounds : 0 ≤ rest ∧ rest ≤ 365
  /-- Only the last year of a span has a day more, and not every one. -/
  leap : rest = 365 → years = 3 ∧ (spans = 24 → centuries = 3)

theorem exists_cycleDay {day : Int} (low : 0 ≤ day) (high : day < 146097) :
    ∃ centuries spans years rest, CycleDay day centuries spans years rest := by
  obtain ⟨centuries, inCentury⟩ : ∃ centuries, centuries = min (day / 36524) 3 := ⟨_, rfl⟩
  obtain ⟨spans, inSpan⟩ : ∃ spans, spans = (day - 36524 * centuries) / 1461 := ⟨_, rfl⟩
  obtain ⟨years, inYear⟩ :
      ∃ years, years = min ((day - 36524 * centuries - 1461 * spans) / 365) 3 :=
    ⟨_, rfl⟩
  have centuryBounds : 0 ≤ centuries ∧ centuries ≤ 3 := by omega
  have inCenturyBounds : 0 ≤ day - 36524 * centuries ∧ day - 36524 * centuries ≤ 36524 ∧
      (day - 36524 * centuries = 36524 → centuries = 3) := by omega
  exact ⟨centuries, spans, years, day - 36524 * centuries - 1461 * spans - 365 * years,
    by omega, centuryBounds, by omega, by omega, by omega, by omega⟩

variable {day centuries spans years rest : Int}

/-- The year in which a day of a cycle falls. -/
theorem CycleDay.yearOfCycle (parts : CycleDay day centuries spans years rest) :
    (day - day / 1460 + day / 36524 - day / 146096) / 365 =
      100 * centuries + 4 * spans + years := by
  obtain ⟨sum, centuryBounds, spanBounds, yearBounds, restBounds, leap⟩ := parts
  have inCentury : 1461 * spans + 365 * years + rest ≤ 36524 ∧
      (1461 * spans + 365 * years + rest = 36524 → centuries = 3) := by omega
  have extra : day / 36524 - day / 146096 = centuries := by
    by_cases last : 1461 * spans + 365 * years + rest = 36524
    · have whole : day = 146096 := by omega
      omega
    · have century : day / 36524 = centuries := by omega
      omega
  have spansBefore : 25 * centuries + spans ≤ day / 1460 ∧
      day / 1460 ≤ 25 * centuries + spans + 1 := by omega
  have late : day / 1460 = 25 * centuries + spans + 1 → 0 < rest := by omega
  have full : rest = 365 → day / 1460 = 25 * centuries + spans + 1 := by omega
  omega

/-- What is left of a day of a cycle without the days before its year. -/
theorem CycleDay.dayOfYear (parts : CycleDay day centuries spans years rest)
    {year : Int} (falls : year = 100 * centuries + 4 * spans + years) :
    day - (365 * year + year / 4 - year / 100) = rest := by
  obtain ⟨sum, centuryBounds, spanBounds, yearBounds, -, -⟩ := parts
  have fours : year / 4 = 25 * centuries + spans := by omega
  have hundreds : year / 100 = centuries := by omega
  omega

/-! ### Days of a year -/

/-- A day of a year that begins in March, as a whole number of months and days. -/
structure YearDay (dayOfYear month : Int) : Prop where
  bounds : 0 ≤ month ∧ month ≤ 11
  starts : (153 * month + 2) / 5 ≤ dayOfYear
  /-- The days of the month; February has what is left of the year. -/
  ends : dayOfYear - (153 * month + 2) / 5 <
    if month = 11 then 29 else if month = 1 ∨ month = 3 ∨ month = 6 ∨ month = 8 then 30 else 31

theorem yearDay {dayOfYear : Int} (low : 0 ≤ dayOfYear) (high : dayOfYear ≤ 365) :
    YearDay dayOfYear ((5 * dayOfYear + 2) / 153) := by
  obtain ⟨month, falls⟩ : ∃ month, month = (5 * dayOfYear + 2) / 153 := ⟨_, rfl⟩
  rw [← falls]
  have bounds : 0 ≤ month ∧ month ≤ 11 := by omega
  exact ⟨bounds, by omega, by split_ifs <;> omega⟩

/-! ### Dates -/

/-- A day as a date, by the parts of its count from March of year 0. -/
structure DateOfDay (days : Int) (date : Date) (cycle year month rest : Int) : Prop where
  inMonth : YearDay rest month
  month_eq : (date.month : Int) = if month < 10 then month + 3 else month - 9
  day_eq : (date.day : Int) = rest - (153 * month + 2) / 5 + 1
  year_eq : date.year = cycle * 400 + year + if month < 10 then 0 else 1
  year_bounds : 0 ≤ year ∧ year < 400
  days_eq : days + epoch = cycle * 146097 + (year * 365 + year / 4 - year / 100) + rest
  /-- The day that a leap year adds. -/
  leap : rest = 365 → year % 4 = 3 ∧ (year % 100 = 99 → year = 399)

theorem exists_dateOfDay (days : Int) :
    ∃ cycle year month rest, DateOfDay days (.ofDays days) cycle year month rest := by
  have inCycle : 0 ≤ (days + epoch) % 146097 ∧ (days + epoch) % 146097 < 146097 := by omega
  obtain ⟨centuries, spans, years, rest, parts⟩ := exists_cycleDay inCycle.1 inCycle.2
  obtain ⟨year, falls⟩ : ∃ year, year = 100 * centuries + 4 * spans + years := ⟨_, rfl⟩
  have found := parts.yearOfCycle.trans falls.symm
  have left := parts.dayOfYear falls
  obtain ⟨sum, centuryBounds, spanBounds, yearBounds, restBounds, leap⟩ := parts
  have inMonth := yearDay restBounds.1 restBounds.2
  have ⟨monthBounds, starts, ends⟩ := inMonth
  refine ⟨(days + epoch) / 146097, year, (5 * rest + 2) / 153, rest,
    inMonth, ?_, ?_, ?_, by omega, by omega, by omega⟩
  all_goals
    simp only [Date.ofDays, found, left]
    omega

/-- The date of a day counts that day. -/
theorem toDays_ofDays (days : Int) : (Date.ofDays days).toDays = days := by
  obtain ⟨cycle, year, month, rest, parts⟩ := exists_dateOfDay days
  obtain ⟨⟨monthBounds, -, -⟩, month_eq, day_eq, year_eq, yearBounds, days_eq, -⟩ := parts
  have yearFromMarch : (if (Date.ofDays days).month ≤ 2 then (Date.ofDays days).year - 1
      else (Date.ofDays days).year) = cycle * 400 + year := by
    split_ifs at month_eq year_eq ⊢ <;> omega
  have monthFromMarch : (((Date.ofDays days).month : Int) + 9) % 12 = month := by
    split_ifs at month_eq <;> omega
  have inCycle : (cycle * 400 + year) % 400 = year := by omega
  have cycles : (cycle * 400 + year) / 400 = cycle := by omega
  simp only [Date.toDays]
  rw [yearFromMarch, monthFromMarch, inCycle, cycles, day_eq]
  omega

/-- The year after a March year with the day that a leap year adds is a leap year. -/
theorem isLeap_of_mod {cycle year : Int} (fours : year % 4 = 3)
    (hundreds : year % 100 = 99 → year = 399) : isLeap (cycle * 400 + year + 1) = true := by
  simp only [isLeap, Bool.and_eq_true, Bool.or_eq_true, beq_iff_eq, bne_iff_ne]
  omega

theorem DateOfDay.day_le {days cycle year month rest : Int} {date : Date}
    (parts : DateOfDay days date cycle year month rest) :
    date.day ≤ daysInMonth date.year date.month := by
  obtain ⟨⟨monthBounds, starts, ends⟩, month_eq, day_eq, year_eq, yearBounds, -, leap⟩ := parts
  by_cases february : month = 11
  · have second : date.month = 2 := by split_ifs at month_eq <;> omega
    rw [if_pos february] at ends
    rw [daysInMonth, if_pos second]
    by_cases last : rest = 365
    · have nextYear : date.year = cycle * 400 + year + 1 := by split_ifs at year_eq <;> omega
      rw [nextYear, isLeap_of_mod (leap last).1 (leap last).2, if_pos rfl]
      omega
    · have few : date.day ≤ 28 := by omega
      split_ifs <;> omega
  · have notSecond : date.month ≠ 2 := by split_ifs at month_eq <;> omega
    rw [if_neg february] at ends
    rw [daysInMonth, if_neg notSecond]
    split_ifs at ends month_eq ⊢ <;> omega

/-- The calendar has such a month, and the month such a day. -/
structure Date.InCalendar (date : Date) : Prop where
  month_pos : 1 ≤ date.month
  month_le : date.month ≤ 12
  day_pos : 1 ≤ date.day
  day_le : date.day ≤ daysInMonth date.year date.month

/-- Dates are read as far as years go. -/
theorem Date.isValid_iff {date : Date} :
    date.isValid = true ↔
      (yearRange.1 ≤ date.year ∧ date.year ≤ yearRange.2) ∧ date.InCalendar := by
  simp only [Date.isValid, Bool.and_eq_true, decide_eq_true_eq]
  constructor
  · rintro ⟨⟨⟨⟨⟨low, high⟩, monthPos⟩, monthLe⟩, dayPos⟩, dayLe⟩
    exact ⟨⟨low, high⟩, monthPos, monthLe, dayPos, dayLe⟩
  · rintro ⟨⟨low, high⟩, monthPos, monthLe, dayPos, dayLe⟩
    exact ⟨⟨⟨⟨⟨low, high⟩, monthPos⟩, monthLe⟩, dayPos⟩, dayLe⟩

/-- The calendar has the date of a day. -/
theorem inCalendar_ofDays (days : Int) : (Date.ofDays days).InCalendar := by
  obtain ⟨cycle, year, month, rest, parts⟩ := exists_dateOfDay days
  have inMonth := parts.day_le
  obtain ⟨⟨monthBounds, starts, -⟩, month_eq, day_eq, -, -, -, -⟩ := parts
  have months : 1 ≤ (Date.ofDays days).month ∧ (Date.ofDays days).month ≤ 12 := by
    split_ifs at month_eq <;> omega
  exact ⟨months.1, months.2, by omega, inMonth⟩

/-- Days that are not too far off have years that can be read. -/
theorem year_mem_of_days {day : Int} (low : -1000000 ≤ day) (high : day ≤ 3000000) :
    yearRange.1 ≤ (Date.ofDays day).year ∧ (Date.ofDays day).year ≤ yearRange.2 := by
  obtain ⟨cycle, year, month, rest, parts⟩ := exists_dateOfDay day
  obtain ⟨⟨monthBounds, starts, ends⟩, -, -, year_eq, yearBounds, days_eq, -⟩ := parts
  have short : rest < 400 := by split_ifs at ends <;> omega
  simp only [yearRange, epoch] at days_eq ⊢
  split_ifs at year_eq <;> omega

/-- The month and the day of a date have two digits. -/
theorem Date.InCalendar.two_digits {date : Date} (inCalendar : date.InCalendar) :
    date.month < 100 ∧ date.day < 100 := by
  have short : daysInMonth date.year date.month ≤ 31 := by
    unfold daysInMonth
    split_ifs <;> decide
  have monthLe := inCalendar.month_le
  have dayLe := inCalendar.day_le
  omega

end QualityGate.Time
