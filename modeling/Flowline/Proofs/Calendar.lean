import Flowline.Instant
import Mathlib.Tactic.IntervalCases

/-!
# Days of the calendar

Every count of days is that of one day of the calendar.  A cycle of 400 years, which
begin in March, is cut into centuries, these into spans of four years, and these into
years; only the last part of each is longer than the others, by the leap day.
-/

namespace Flowline.CalendarDay

/-! ## The parts of a cycle -/

/-- The place of a day in a cycle: its century, its span of four years, its year and
its day of that year. -/
structure Place where
  century : Nat
  span : Nat
  year : Nat
  day : Nat
  century_le : century ≤ 3
  span_le : span ≤ 24
  year_le : year ≤ 3
  /-- The leap day ends the last year of a span, but of a century's last span only in
  the last century. -/
  day_le : day ≤ 364 ∨ (day = 365 ∧ year = 3 ∧ (span = 24 → century = 3))

namespace Place

variable (place : Place)

/-- The year of the cycle. -/
def yearOfCycle : Nat := 100 * place.century + 4 * place.span + place.year

/-- The day of the cycle. -/
def dayOfCycle : Nat := 36524 * place.century + 1461 * place.span + 365 * place.year + place.day

/-- The place of a day. -/
theorem exists_dayOfCycle {day : Nat} (fits : day < 146097) :
    ∃ place : Place, place.dayOfCycle = day := by
  obtain ⟨century, rest, smaller, parts, rests⟩ : ∃ century rest, century ≤ 3 ∧
      day = 36524 * century + rest ∧ (rest < 36524 ∨ (rest = 36524 ∧ century = 3)) :=
    ⟨min (day / 36524) 3, day - 36524 * min (day / 36524) 3, by omega, by omega, by omega⟩
  obtain ⟨span, last, shorter, whole, lasts⟩ : ∃ span last, span ≤ 24 ∧
      rest = 1461 * span + last ∧ (last < 1460 ∨ (last = 1460 ∧ (span = 24 → century = 3))) :=
    ⟨min (rest / 1461) 24, rest - 1461 * min (rest / 1461) 24, by omega, by omega, by omega⟩
  have ends : last - 365 * min (last / 365) 3 ≤ 364 ∨
      (last - 365 * min (last / 365) 3 = 365 ∧ min (last / 365) 3 = 3 ∧
        (span = 24 → century = 3)) := by omega
  refine ⟨⟨century, span, min (last / 365) 3, last - 365 * min (last / 365) 3, smaller, shorter,
    by omega, ends⟩, ?_⟩
  simp only [dayOfCycle]
  omega

/-- The leap days that went before a day are counted by the days of spans and of
centuries, so the other days tell the year. -/
theorem yearOfCycle_eq :
    (place.dayOfCycle - place.dayOfCycle / 1460 + place.dayOfCycle / 36524 -
      place.dayOfCycle / 146096) / 365 = place.yearOfCycle := by
  obtain ⟨century, span, year, day, century_le, span_le, year_le, day_le⟩ := place
  simp only [dayOfCycle, yearOfCycle]
  by_cases last : 1461 * span + 365 * year + day = 36524
  · obtain rfl : span = 24 := by omega
    obtain rfl : year = 3 := by omega
    obtain rfl : day = 365 := by omega
    obtain rfl : century = 3 := by omega
    rfl
  · have spans : (36524 * century + 1461 * span + 365 * year + day) / 1460 =
        25 * century + span + (24 * century + span + 365 * year + day) / 1460 := by omega
    have centuries : (36524 * century + 1461 * span + 365 * year + day) / 36524 = century := by
      omega
    have cycles : (36524 * century + 1461 * span + 365 * year + day) / 146096 = 0 := by omega
    have carried : (24 * century + span + 365 * year + day) / 1460 ≤ 1 := by omega
    rw [spans, centuries, cycles]
    omega

theorem dayOfYear_eq : place.dayOfCycle -
    (365 * place.yearOfCycle + place.yearOfCycle / 4 - place.yearOfCycle / 100) = place.day := by
  obtain ⟨century, span, year, day, century_le, span_le, year_le, day_le⟩ := place
  simp only [dayOfCycle, yearOfCycle]
  omega

theorem yearOfCycle_lt : place.yearOfCycle < 400 := by
  obtain ⟨century, span, year, day, century_le, span_le, year_le, day_le⟩ := place
  simp only [yearOfCycle]
  omega

theorem dayOfCycle_lt : place.dayOfCycle < 146097 := by
  obtain ⟨century, span, year, day, century_le, span_le, year_le, day_le⟩ := place
  simp only [dayOfCycle]
  omega

theorem day_le_last : place.day ≤ 365 := by
  have ends := place.day_le
  omega

theorem dayOfCycle_eq : place.dayOfCycle =
    365 * place.yearOfCycle + place.yearOfCycle / 4 - place.yearOfCycle / 100 + place.day := by
  obtain ⟨century, span, year, day, century_le, span_le, year_le, day_le⟩ := place
  simp only [dayOfCycle, yearOfCycle]
  omega

/-- The year that begins in the last two months of a leap year's count is one of the
calendar's leap years. -/
theorem isLeapYear_succ (last : place.day = 365) (cycle : Int) :
    isLeapYear (place.yearOfCycle + cycle * 400 + 1) = true := by
  obtain ⟨-, third, turn⟩ := place.day_le.resolve_left (by omega)
  have span_le := place.span_le
  simp only [yearOfCycle, isLeapYear, third, Bool.and_eq_true, Bool.or_eq_true,
    decide_eq_true_iff]
  omega

end Place

/-! ## Months -/

/-- A day of a year that begins in March, as its month and its day of the month. -/
def monthAndDay (dayOfYear : Nat) : Nat × Nat :=
  let shifted := (5 * dayOfYear + 2) / 153
  (if shifted < 10 then shifted + 3 else shifted - 9, dayOfYear - (153 * shifted + 2) / 5 + 1)

/-- The months and days of a year are as they should be, but for the length of
February. -/
structure MonthAndDay (dayOfYear month day : Nat) : Prop where
  month_pos : 1 ≤ month
  month_le : month ≤ 12
  day_pos : 1 ≤ day
  day_le : day ≤ if month = 2 then 29 else
    if month = 4 ∨ month = 6 ∨ month = 9 ∨ month = 11 then 30 else 31
  last : month = 2 → day = 29 → dayOfYear = 365
  dayOfYear_eq : dayOfYear + 1 = (153 * ((month + 9) % 12) + 2) / 5 + day

theorem monthAndDay_eq {dayOfYear : Nat} (fits : dayOfYear ≤ 365) :
    MonthAndDay dayOfYear (monthAndDay dayOfYear).1 (monthAndDay dayOfYear).2 := by
  obtain ⟨shifted, same⟩ : ∃ shifted, shifted = (5 * dayOfYear + 2) / 153 := ⟨_, rfl⟩
  have bound : shifted ≤ 11 := by omega
  simp only [monthAndDay, ← same]
  constructor <;> interval_cases shifted <;> simp <;> omega

/-! ## Days -/

/-- The day that stands at a place of a cycle. -/
def ofPlace (cycle : Int) (place : Place) : CalendarDay where
  year := place.yearOfCycle + cycle * 400 + if (monthAndDay place.day).1 ≤ 2 then 1 else 0
  month := (monthAndDay place.day).1
  day := (monthAndDay place.day).2

theorem ofDays_eq (cycle : Int) (place : Place) :
    ofDays (cycle * 146097 + place.dayOfCycle - 719468) = ofPlace cycle place := by
  have fits := place.dayOfCycle_lt
  have shifted : cycle * 146097 + place.dayOfCycle - 719468 + 719468 =
      cycle * 146097 + place.dayOfCycle := by omega
  have cycles : (cycle * 146097 + (place.dayOfCycle : Int)).fdiv 146097 = cycle := by
    rw [Int.fdiv_eq_ediv_of_nonneg _ (by decide)]
    omega
  have days : (cycle * 146097 + (place.dayOfCycle : Int) - cycle * 146097).toNat =
      place.dayOfCycle := by omega
  simp only [ofDays, ofPlace, monthAndDay, shifted, cycles, days, place.yearOfCycle_eq,
    place.dayOfYear_eq]
  split <;> split <;> simp

theorem exists_place (days : Int) :
    ∃ (cycle : Int) (place : Place), days = cycle * 146097 + place.dayOfCycle - 719468 := by
  have fits : ((days + 719468) % 146097).toNat < 146097 := by omega
  obtain ⟨place, same⟩ := Place.exists_dayOfCycle fits
  exact ⟨(days + 719468) / 146097, place, by omega⟩

section Months

variable {dayOfYear month day yearOfCycle : Nat}

/-- The count of days up to a day of a month. -/
theorem toDays_of_month (months : MonthAndDay dayOfYear month day) (fits : yearOfCycle < 400)
    (cycle : Int) :
    toDays ⟨yearOfCycle + cycle * 400 + if month ≤ 2 then 1 else 0, month, day⟩ =
      cycle * 146097 +
        (365 * yearOfCycle + yearOfCycle / 4 - yearOfCycle / 100 + dayOfYear : Nat) - 719468 := by
  have dayOfYear := months.dayOfYear_eq
  have year : (if month ≤ 2 then yearOfCycle + cycle * 400 + (if month ≤ 2 then 1 else 0) - 1
      else yearOfCycle + cycle * 400 + if month ≤ 2 then 1 else 0) =
        yearOfCycle + cycle * 400 := by
    split <;> omega
  have cycles : ((yearOfCycle : Int) + cycle * 400).fdiv 400 = cycle := by
    rw [Int.fdiv_eq_ediv_of_nonneg _ (by decide)]
    omega
  simp only [toDays, year, cycles]
  omega

/-- A day of a month is there, the 29th of February in leap years. -/
theorem exists?_of_month (months : MonthAndDay dayOfYear month day) {year : Int}
    (leap : dayOfYear = 365 → month = 2 → isLeapYear year = true) :
    exists? ⟨year, month, day⟩ = true := by
  obtain ⟨month_pos, month_le, day_pos, day_le, last, -⟩ := months
  have bound : day ≤ daysInMonth year month := by
    unfold daysInMonth
    by_cases february : month = 2
    · rw [if_pos february] at day_le ⊢
      by_cases leapDay : day = 29
      · rw [if_pos (leap (last february leapDay) february), leapDay]
      · split <;> omega
    · rwa [if_neg february] at day_le ⊢
  simp [exists?, month_pos, month_le, day_pos, bound]

end Months

/-- Every count of days is that of its day. -/
theorem toDays_ofDays (days : Int) : (ofDays days).toDays = days := by
  obtain ⟨cycle, place, rfl⟩ := exists_place days
  rw [ofDays_eq, ofPlace, toDays_of_month (monthAndDay_eq place.day_le_last) place.yearOfCycle_lt,
    ← place.dayOfCycle_eq]

/-- There is a day for every count. -/
theorem exists?_ofDays (days : Int) : (ofDays days).exists? = true := by
  obtain ⟨cycle, place, rfl⟩ := exists_place days
  rw [ofDays_eq, ofPlace]
  apply exists?_of_month (monthAndDay_eq place.day_le_last)
  intro last february
  rw [if_pos (by omega)]
  exact place.isLeapYear_succ last cycle

/-- Months and days of months have two digits at most. -/
theorem short_of_exists {date : CalendarDay} (there : date.exists? = true) :
    date.month < 10 ^ 2 ∧ date.day < 10 ^ 2 := by
  have bound : daysInMonth date.year date.month ≤ 31 := by
    unfold daysInMonth
    split
    · split <;> decide
    · split <;> decide
  simp only [exists?, Bool.and_eq_true, decide_eq_true_eq] at there
  omega

end Flowline.CalendarDay
