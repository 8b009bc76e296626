import Mathlib.Tactic.IntervalCases
import QualityGate.Proofs.Time.Calendar

/-!
# Day after day

What the count of days means: the days from 1 January 1970 on fall on the dates of the calendar one
after the other, and so do the days before it (`Falls`).  The count of a date is the one day that
falls on it (`Falls.toDays_eq`, `falls_toDays`), and the date of a day is one on which that day
falls (`falls_ofDays`).

### What is load-bearing

* `toDays_next` – the count goes up by one from a date to the next.  A year is counted from March,
  so February is the only month whose end is the end of a year (`marchDays_add_one`).
* `counted_next_iff` – a date is reached by counting exactly when the next one is.  So the first day
  of a month, the first day of a year and all years are reached from each other.
-/

namespace QualityGate.Time

/-- The date of the day after. -/
def Date.next (date : Date) : Date :=
  if date.day < daysInMonth date.year date.month then ⟨date.year, date.month, date.day + 1⟩
  else if date.month < 12 then ⟨date.year, date.month + 1, 1⟩
  else ⟨date.year + 1, 1, 1⟩

/-- The day that is so many days after 1 January 1970 falls on this date. -/
inductive Falls : Int → Date → Prop where
  | epoch : Falls 0 ⟨1970, 1, 1⟩
  | next {day : Int} {date : Date} (falls : Falls day date) : Falls (day + 1) date.next
  | back {day : Int} {date : Date} (inCalendar : date.InCalendar)
      (falls : Falls (day + 1) date.next) : Falls day date

variable {year : Int} {month day : Nat}

theorem next_of_lt (within : day < daysInMonth year month) :
    Date.next ⟨year, month, day⟩ = ⟨year, month, day + 1⟩ := if_pos within

/-- The last day of a month that is not December. -/
theorem next_of_last (later : month < 12) :
    Date.next ⟨year, month, daysInMonth year month⟩ = ⟨year, month + 1, 1⟩ := by
  rw [Date.next, if_neg (Nat.lt_irrefl _), if_pos later]

theorem next_december (year : Int) :
    Date.next ⟨year, 12, daysInMonth year 12⟩ = ⟨year + 1, 1, 1⟩ := by
  rw [Date.next, if_neg (Nat.lt_irrefl _), if_neg (Nat.lt_irrefl _)]

theorem daysInMonth_pos (year : Int) (month : Nat) : 1 ≤ daysInMonth year month := by
  unfold daysInMonth
  split_ifs <;> decide

theorem inCalendar_mk (monthPos : 1 ≤ month) (monthLe : month ≤ 12) (dayPos : 1 ≤ day)
    (dayLe : day ≤ daysInMonth year month) : Date.InCalendar ⟨year, month, day⟩ :=
  ⟨monthPos, monthLe, dayPos, dayLe⟩

theorem inCalendar_next {date : Date} (inCalendar : date.InCalendar) : date.next.InCalendar := by
  obtain ⟨year, month, day⟩ := date
  obtain ⟨monthPos, monthLe, dayPos, dayLe⟩ := inCalendar
  rcases Nat.lt_or_eq_of_le dayLe with within | last
  · rw [next_of_lt within]
    exact inCalendar_mk monthPos monthLe (Nat.le_add_left 1 day) within
  · rw [show day = daysInMonth year month from last]
    rcases Nat.lt_or_eq_of_le monthLe with later | december
    · rw [next_of_last later]
      exact inCalendar_mk (Nat.le_add_left 1 month) later le_rfl (daysInMonth_pos _ _)
    · rw [show month = 12 from december, next_december]
      exact inCalendar_mk le_rfl (by decide) le_rfl (daysInMonth_pos _ _)

/-! ### The count -/

/-- The days from 1 March of year 0 to 1 March of a year. -/
def marchDays (year : Int) : Int := 365 * year + year / 4 - year / 100 + year / 400

/-- The days from 1 March to the first of a month. -/
def monthDays (month : Nat) : Int := (153 * (((month : Int) + 9) % 12) + 2) / 5

theorem toDays_mk (year : Int) (month day : Nat) :
    Date.toDays ⟨year, month, day⟩ =
      marchDays (if month ≤ 2 then year - 1 else year) + monthDays month + day - 1 - epoch := by
  simp only [Date.toDays, marchDays, monthDays]
  split <;> omega

theorem isLeap_iff {year : Int} :
    isLeap year = true ↔ year % 4 = 0 ∧ (year % 100 = 0 → year % 400 = 0) := by
  simp only [isLeap, Bool.and_eq_true, Bool.or_eq_true, beq_iff_eq, bne_iff_ne]
  omega

/-- A year that begins in March has the days of the eleven months up to January and those of the
February after them. -/
theorem marchDays_add_one (year : Int) :
    marchDays (year + 1) = marchDays year + 337 + daysInMonth (year + 1) 2 := by
  simp only [marchDays, daysInMonth, if_true, isLeap_iff]
  split_ifs <;> omega

/-- The other months are as long as the time to the first of the next one. -/
theorem monthDays_add_one (year : Int) (monthPos : 1 ≤ month) (later : month < 12)
    (other : month ≠ 2) : monthDays (month + 1) = monthDays month + daysInMonth year month := by
  interval_cases month
  case «2» => exact absurd rfl other
  all_goals rfl

/-- The count goes up by one from the last day of a month to the first of the next. -/
theorem toDays_firstOfMonth (year : Int) (monthPos : 1 ≤ month) (later : month < 12) :
    Date.toDays ⟨year, month + 1, 1⟩ = Date.toDays ⟨year, month, daysInMonth year month⟩ + 1 := by
  rw [toDays_mk, toDays_mk]
  by_cases february : month = 2
  · subst february
    have start := marchDays_add_one (year - 1)
    rw [Int.sub_add_cancel] at start
    have ends : monthDays (2 + 1) = 0 ∧ monthDays 2 = 337 := by decide
    rw [if_neg (by decide), if_pos le_rfl]
    omega
  · have start := monthDays_add_one year monthPos later february
    have sameYear : month + 1 ≤ 2 ↔ month ≤ 2 := by omega
    simp only [sameYear]
    omega

/-- The count goes up by one from a date to the next. -/
theorem toDays_next {date : Date} (inCalendar : date.InCalendar) :
    date.next.toDays = date.toDays + 1 := by
  obtain ⟨year, month, day⟩ := date
  obtain ⟨monthPos, monthLe, dayPos, dayLe⟩ := inCalendar
  rcases Nat.lt_or_eq_of_le dayLe with within | last
  · rw [next_of_lt within]
    simp only [toDays_mk]
    omega
  · rw [show day = daysInMonth year month from last]
    rcases Nat.lt_or_eq_of_le monthLe with later | december
    · rw [next_of_last later, toDays_firstOfMonth year monthPos later]
    · have ends : monthDays 1 = 306 ∧ monthDays 12 = 275 := by decide
      have days : daysInMonth year 12 = 31 := rfl
      rw [show month = 12 from december, next_december, toDays_mk, toDays_mk, if_pos (by decide),
        if_neg (by decide), Int.add_sub_cancel]
      omega

/-- The days of years of four digits are not too far off. -/
theorem toDays_bounds {date : Date} (year : 0 ≤ date.year ∧ date.year ≤ 9999)
    (inCalendar : date.InCalendar) : -800000 ≤ date.toDays ∧ date.toDays ≤ 2950000 := by
  obtain ⟨monthFits, dayFits⟩ := inCalendar.two_digits
  obtain ⟨year, month, day⟩ := date
  rw [toDays_mk]
  simp only [marchDays, monthDays, epoch] at *
  split_ifs <;> omega

theorem Falls.inCalendar {day : Int} {date : Date} (falls : Falls day date) :
    date.InCalendar := by
  induction falls with
  | epoch => exact ⟨by decide, by decide, by decide, by decide⟩
  | next falls ih => exact inCalendar_next ih
  | back inCalendar falls ih => exact inCalendar

/-- The day that falls on a date is the count of the date. -/
theorem Falls.toDays_eq {day : Int} {date : Date} (falls : Falls day date) :
    date.toDays = day := by
  induction falls with
  | epoch => rfl
  | next falls ih => rw [toDays_next falls.inCalendar, ih]
  | back inCalendar falls ih =>
    rw [toDays_next inCalendar] at ih
    omega

/-! ### Every date is reached -/

/-- A day falls on this date. -/
def Counted (date : Date) : Prop := ∃ day, Falls day date

theorem counted_next_iff {date : Date} (inCalendar : date.InCalendar) :
    Counted date.next ↔ Counted date := by
  constructor
  · rintro ⟨day, falls⟩
    exact ⟨day - 1, .back inCalendar (by rwa [Int.sub_add_cancel])⟩
  · rintro ⟨day, falls⟩
    exact ⟨day + 1, falls.next⟩

theorem counted_day_iff (monthPos : 1 ≤ month) (monthLe : month ≤ 12) (dayPos : 1 ≤ day)
    (dayLe : day ≤ daysInMonth year month) :
    Counted ⟨year, month, day⟩ ↔ Counted ⟨year, month, 1⟩ := by
  induction day, dayPos using Nat.le_induction with
  | base => rfl
  | succ day dayPos ih =>
    have within : day < daysInMonth year month := dayLe
    have step := counted_next_iff (inCalendar_mk monthPos monthLe dayPos within.le)
    rw [next_of_lt within] at step
    exact step.trans (ih within.le)

theorem counted_month_iff (monthPos : 1 ≤ month) (monthLe : month ≤ 12) :
    Counted ⟨year, month, 1⟩ ↔ Counted ⟨year, 1, 1⟩ := by
  induction month, monthPos using Nat.le_induction with
  | base => rfl
  | succ month monthPos ih =>
    have later : month < 12 := monthLe
    have last := daysInMonth_pos year month
    have step := counted_next_iff (inCalendar_mk monthPos later.le last le_rfl)
    rw [next_of_last later] at step
    exact (step.trans (counted_day_iff monthPos later.le last le_rfl)).trans (ih later.le)

theorem counted_year_iff : Counted ⟨year + 1, 1, 1⟩ ↔ Counted ⟨year, 1, 1⟩ := by
  have first : 1 ≤ 12 := by decide
  have last := daysInMonth_pos year 12
  have step := counted_next_iff (inCalendar_mk first le_rfl last le_rfl)
  rw [next_december] at step
  exact (step.trans (counted_day_iff first le_rfl last le_rfl)).trans
    (counted_month_iff first le_rfl)

theorem counted_newYear (year : Int) : Counted ⟨year, 1, 1⟩ := by
  induction year using Int.inductionOn' (b := 1970) with
  | zero => exact ⟨0, .epoch⟩
  | succ year _ ih => exact counted_year_iff.mpr ih
  | pred year _ ih => exact counted_year_iff.mp (by rwa [Int.sub_add_cancel])

/-- On every date of the calendar falls the day of its count. -/
theorem falls_toDays {date : Date} (inCalendar : date.InCalendar) : Falls date.toDays date := by
  obtain ⟨year, month, day⟩ := date
  obtain ⟨monthPos, monthLe, dayPos, dayLe⟩ := inCalendar
  obtain ⟨count, falls⟩ : Counted ⟨year, month, day⟩ :=
    (counted_day_iff monthPos monthLe dayPos dayLe).mpr
      ((counted_month_iff monthPos monthLe).mpr (counted_newYear year))
  rwa [falls.toDays_eq]

/-- A day falls on its date. -/
theorem falls_ofDays (day : Int) : Falls day (.ofDays day) := by
  have falls := falls_toDays (inCalendar_ofDays day)
  rwa [toDays_ofDays] at falls

end QualityGate.Time
