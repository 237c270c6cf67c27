/-
**The calendar, in both directions.**

`utcDay` reads the day of a moment; `dayNumber` counts the days to a year, a month and a day, of which a
day beyond its month goes on into the next one.

* `utcDay_dayNumber`: a day of the calendar is read back;
* `valid_utcDay` and `number_utcDay`: the day of every moment is one of the calendar, and counted back;
* `dayNumber_succ_year`: the same day of the next year is later by 365 or 366 days.
-/

import Mathlib.Tactic.IntervalCases
import OpenEstate.Shared.FinancialYear

namespace OpenEstate

def isLeapYear (year : Int) : Bool := year % 4 = 0 && (year % 100 ≠ 0 || year % 400 = 0)

def daysInMonth (year month : Int) : Int :=
  if month = 2 then if isLeapYear year then 29 else 28
  else if month = 4 ∨ month = 6 ∨ month = 9 ∨ month = 11 then 30
  else 31

theorem isLeapYear_iff {year : Int} :
    isLeapYear year = true ↔ year % 4 = 0 ∧ (year % 100 ≠ 0 ∨ year % 400 = 0) := by
  simp [isLeapYear]

variable {year month day : Int}

theorem le_daysInMonth_iff : day ≤ daysInMonth year month ↔
    day ≤ 31 ∧ (month = 4 ∨ month = 6 ∨ month = 9 ∨ month = 11 → day ≤ 30) ∧
      (month = 2 → day ≤ 28 ∨ day = 29 ∧ isLeapYear year = true) := by
  unfold daysInMonth
  split_ifs <;> simp_all <;> omega

structure UtcDay.Valid (day : UtcDay) : Prop where
  monthLow : 1 ≤ day.month
  monthHigh : day.month ≤ 12
  dayLow : 1 ≤ day.day
  dayHigh : day.day ≤ daysInMonth day.year day.month

instance (day : UtcDay) : Decidable day.Valid :=
  decidable_of_iff (1 ≤ day.month ∧ day.month ≤ 12 ∧ 1 ≤ day.day ∧
      day.day ≤ daysInMonth day.year day.month)
    ⟨fun ⟨low, high, first, last⟩ => ⟨low, high, first, last⟩, fun valid =>
      ⟨valid.monthLow, valid.monthHigh, valid.dayLow, valid.dayHigh⟩⟩

def daysBeforeMonth (monthFromMarch : Int) : Int := (153 * monthFromMarch + 2) / 5

def daysBeforeYear (year : Int) : Int := 365 * year + year / 4 - year / 100 + year / 400

def dayNumber (year month day : Int) : Int :=
  daysBeforeYear (if month ≤ 2 then year - 1 else year) +
    daysBeforeMonth (if month ≤ 2 then month + 9 else month - 3) + day - 1 - 719468

def UtcDay.number (day : UtcDay) : Int := dayNumber day.year day.month day.day

/-! ### Years of an era -/

def yearOfEra (dayOfEra : Int) : Int :=
  (dayOfEra - dayOfEra / 1460 + dayOfEra / 36524 - dayOfEra / 146096) / 365

/-- A day of a year of an era: the last day only of a year that ends with a leap day. -/
structure InYear (year day : Int) : Prop where
  yearLow : 0 ≤ year
  yearHigh : year ≤ 399
  dayLow : 0 ≤ day
  dayHigh : day ≤ 365
  leap : day = 365 → (year + 1) % 4 = 0 ∧ ((year + 1) % 100 ≠ 0 ∨ year = 399)

theorem yearOfEra_of_inYear {dayOfEra : Int} (inYear : InYear year day)
    (is : dayOfEra = 365 * year + year / 4 - year / 100 + day) : yearOfEra dayOfEra = year := by
  obtain ⟨yearLow, yearHigh, dayLow, dayHigh, leap⟩ := inYear
  unfold yearOfEra
  by_cases last : dayOfEra = 146096
  · have year : year = 399 := by omega
    subst last year
    decide
  · have era : dayOfEra / 146096 = 0 := by omega
    have century : dayOfEra / 36524 = year / 100 := by
      rcases dayHigh.lt_or_eq with short | long
      · omega
      · obtain ⟨four, hundred | rfl⟩ := leap long
        · have before : year % 100 ≤ 95 := by omega
          omega
        · omega
    rw [era, century]
    have lower : 365 * year ≤ dayOfEra - dayOfEra / 1460 + year / 100 - 0 := by omega
    have upper : dayOfEra - dayOfEra / 1460 + year / 100 - 0 < 365 * year + 365 := by
      rcases dayHigh.lt_or_eq with short | long
      · omega
      · have four := (leap long).1
        omega
    omega

theorem inYear_yearOfEra {dayOfEra : Int} (low : 0 ≤ dayOfEra) (high : dayOfEra < 146097)
    (is : year = yearOfEra dayOfEra) :
    InYear year (dayOfEra - (365 * year + year / 4 - year / 100)) := by
  unfold yearOfEra at is
  by_cases last : dayOfEra = 146096
  · have year : year = 399 := by subst last; omega
    subst last year
    constructor <;> decide
  · have era : dayOfEra / 146096 = 0 := by omega
    rw [era] at is
    have yearLow : 0 ≤ year := by omega
    have yearHigh : year ≤ 399 := by omega
    have century : dayOfEra / 36524 = year / 100 := by omega
    rw [century] at is
    refine ⟨yearLow, yearHigh, by omega, by omega, fun long => ?_⟩
    have later : year / 4 + 1 ≤ dayOfEra / 1460 := by omega
    have four : year % 4 = 3 := by omega
    refine ⟨by omega, Or.inl fun hundred => ?_⟩
    omega

/-! ### Months of a year that begins in March -/

def InMonth (month day : Int) : Prop :=
  0 ≤ month ∧ month ≤ 11 ∧ 0 ≤ day ∧
    day < if month = 11 then 29 else daysBeforeMonth (month + 1) - daysBeforeMonth month

theorem month_of_inMonth (inMonth : InMonth month day) :
    (5 * (daysBeforeMonth month + day) + 2) / 153 = month := by
  obtain ⟨monthLow, monthHigh, dayLow, dayHigh⟩ := inMonth
  unfold daysBeforeMonth at *
  interval_cases month <;> norm_num at dayHigh ⊢ <;> omega

theorem inMonth_month (low : 0 ≤ day) (high : day ≤ 365) :
    InMonth ((5 * day + 2) / 153) (day - daysBeforeMonth ((5 * day + 2) / 153)) := by
  have monthLow : 0 ≤ (5 * day + 2) / 153 := by omega
  have monthHigh : (5 * day + 2) / 153 ≤ 11 := by omega
  refine ⟨monthLow, monthHigh, ?_⟩
  generalize is : (5 * day + 2) / 153 = month at *
  unfold daysBeforeMonth
  interval_cases month <;> norm_num <;> omega

/-! ### Days -/

theorem daysBeforeYear_eq (year : Int) : daysBeforeYear year =
    year / 400 * 146097 + (365 * (year % 400) + year % 400 / 4 - year % 400 / 100) := by
  unfold daysBeforeYear
  omega

def monthOf (monthFromMarch : Int) : Int :=
  if monthFromMarch < 10 then monthFromMarch + 3 else monthFromMarch - 9

theorem utcDay_eq {date days : Int} (counted : date / dayMs = days) (inMonth : InMonth month day)
    (inYear : InYear (year % 400) (daysBeforeMonth month + day))
    (is : days + 719468 = daysBeforeYear year + daysBeforeMonth month + day) :
    utcDay date = ⟨year + if monthOf month ≤ 2 then 1 else 0, monthOf month, day + 1⟩ := by
  have before := daysBeforeYear_eq year
  have bounds := inYear.dayLow
  have era : (days + 719468) / 146097 = year / 400 := by
    obtain ⟨yearLow, yearHigh, dayLow, dayHigh, leap⟩ := inYear
    omega
  have dayOfEra : days + 719468 - year / 400 * 146097 =
      365 * (year % 400) + year % 400 / 4 - year % 400 / 100 + (daysBeforeMonth month + day) := by
    omega
  have yearIs := yearOfEra_of_inYear inYear dayOfEra
  have dayOfYear : days + 719468 - year / 400 * 146097 -
      (365 * (year % 400) + year % 400 / 4 - year % 400 / 100) = daysBeforeMonth month + day := by
    omega
  have monthIs := month_of_inMonth inMonth
  unfold yearOfEra at yearIs
  unfold utcDay
  simp only [counted, era, yearIs, dayOfYear, monthIs]
  rw [UtcDay.mk.injEq]
  refine ⟨?_, rfl, ?_⟩
  · rw [monthOf]
    omega
  · rw [daysBeforeMonth]
    omega

theorem utcDay_dayNumber {day : UtcDay} (valid : day.Valid) : utcDay (day.number * dayMs) = day := by
  obtain ⟨year, month, day⟩ := day
  obtain ⟨monthLow, monthHigh, dayLow, dayHigh⟩ := valid
  have days : dayNumber year month day * dayMs / dayMs = dayNumber year month day :=
    Int.mul_ediv_cancel _ (by decide)
  dsimp only at *
  obtain ⟨atMost, thirty, february⟩ := le_daysInMonth_iff.mp dayHigh
  rw [isLeapYear_iff] at february
  have inMonth : InMonth (if month ≤ 2 then month + 9 else month - 3) (day - 1) := by
    refine ⟨by split <;> omega, by split <;> omega, by omega, ?_⟩
    unfold daysBeforeMonth
    interval_cases month <;> norm_num at thirty february ⊢ <;> omega
  have inYear : InYear ((if month ≤ 2 then year - 1 else year) % 400)
      (daysBeforeMonth (if month ≤ 2 then month + 9 else month - 3) + (day - 1)) := by
    obtain ⟨first, last, _, before⟩ := inMonth
    unfold daysBeforeMonth at *
    refine ⟨by omega, by omega, by omega, ?_, fun long => ?_⟩
    · split_ifs at * <;> omega
    · split_ifs at * <;> omega
  rw [UtcDay.number, utcDay_eq days inMonth inYear (by rw [dayNumber]; omega), UtcDay.mk.injEq]
  unfold monthOf
  refine ⟨?_, ?_, by omega⟩ <;> split_ifs <;> omega

theorem exists_inMonth (days : Int) : ∃ year month day, InMonth month day ∧
    InYear (year % 400) (daysBeforeMonth month + day) ∧
      days + 719468 = daysBeforeYear year + daysBeforeMonth month + day := by
  have dayOfEra : 0 ≤ (days + 719468) % 146097 ∧ (days + 719468) % 146097 < 146097 := by omega
  have inYear := inYear_yearOfEra dayOfEra.1 dayOfEra.2 rfl
  generalize yearOfEra ((days + 719468) % 146097) = year at inYear
  have inMonth := inMonth_month inYear.dayLow inYear.dayHigh
  have years : (year + (days + 719468) / 146097 * 400) % 400 = year ∧
      (year + (days + 719468) / 146097 * 400) / 400 = (days + 719468) / 146097 := by
    have small : year < 400 := Int.lt_of_le_sub_one inYear.yearHigh
    rw [Int.add_mul_emod_self_right, Int.add_mul_ediv_right _ _ (by decide)]
    exact ⟨Int.emod_eq_of_lt inYear.yearLow small, by
      rw [Int.ediv_eq_zero_of_lt inYear.yearLow small, zero_add]⟩
  have before := daysBeforeYear_eq (year + (days + 719468) / 146097 * 400)
  rw [years.1, years.2] at before
  refine ⟨year + (days + 719468) / 146097 * 400, _, _, inMonth, ?_, ?_⟩
  · rw [years.1, add_sub_cancel]
    exact inYear
  · rw [before]
    omega

theorem valid_utcDay (date : Date) : (utcDay date).Valid := by
  obtain ⟨year, month, day, inMonth, inYear, is⟩ := exists_inMonth (date / dayMs)
  rw [utcDay_eq rfl inMonth inYear is]
  obtain ⟨monthLow, monthHigh, dayLow, dayHigh⟩ := inMonth
  have leap := inYear.leap
  unfold monthOf
  refine ⟨by dsimp only; split_ifs <;> omega, by dsimp only; split_ifs <;> omega,
    by dsimp only; omega, le_daysInMonth_iff.mpr ?_⟩
  rw [isLeapYear_iff]
  unfold daysBeforeMonth at *
  interval_cases month <;> norm_num at dayHigh leap ⊢ <;> omega

theorem number_utcDay {date days : Int} (counted : date / dayMs = days) :
    (utcDay date).number = days := by
  obtain ⟨year, month, day, inMonth, inYear, is⟩ := exists_inMonth days
  have monthLow := inMonth.1
  have monthHigh := inMonth.2.1
  have fromMarch : (if monthOf month ≤ 2 then monthOf month + 9 else monthOf month - 3) = month := by
    unfold monthOf
    split_ifs <;> omega
  have yearIs : (if monthOf month ≤ 2 then year + (if monthOf month ≤ 2 then 1 else 0) - 1
      else year + if monthOf month ≤ 2 then 1 else 0) = year := by
    split_ifs <;> omega
  rw [utcDay_eq counted inMonth inYear is, UtcDay.number, dayNumber]
  dsimp only
  rw [fromMarch, yearIs]
  omega

theorem dayNumber_succ_year (year month day : Int) :
    dayNumber year month day + 365 ≤ dayNumber (year + 1) month day ∧
      dayNumber (year + 1) month day ≤ dayNumber year month day + 366 := by
  unfold dayNumber daysBeforeYear
  by_cases early : month ≤ 2
  · simp only [if_pos early]
    omega
  · simp only [if_neg early]
    omega

/-! ### Order -/

theorem newYear_le_dayNumber {day : UtcDay} (valid : day.Valid) (year : Int) :
    dayNumber year 1 1 ≤ dayNumber year day.month day.day ∧
      dayNumber year day.month day.day < dayNumber (year + 1) 1 1 := by
  obtain ⟨_, month, day⟩ := day
  obtain ⟨monthLow, monthHigh, dayLow, dayHigh⟩ := valid
  obtain ⟨atMost, _, february⟩ := le_daysInMonth_iff.mp dayHigh
  dsimp only at *
  unfold dayNumber daysBeforeYear daysBeforeMonth
  interval_cases month <;> norm_num at february ⊢ <;> omega

end OpenEstate
