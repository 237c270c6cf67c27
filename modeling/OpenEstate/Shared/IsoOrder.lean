/-
**ISO texts of days.**

`toISOString` writes a year of four digits as it is, and another with a sign and six. The texts of days and
of months have one length each within the years of four digits, and beyond them they are longer.

* `length_isoMonth_eq_iff` and `length_isoDate_eq_iff`: a text has its usual length exactly within the
  years of four digits.
-/

import OpenEstate.Runtime.Digits
import OpenEstate.Shared.Calendar

namespace OpenEstate

open Runtime

def UtcDay.isoMonth (day : UtcDay) : String :=
  isoYear day.year ++ "-" ++ padStart (toString day.month) 2 '0'

def UtcDay.isoDate (day : UtcDay) : String :=
  day.isoMonth ++ "-" ++ padStart (toString day.day) 2 '0'

theorem UtcDay.text_eq (day : UtcDay) : day.text = String.ofList (day.isoDate.toList.take 10) := rfl

abbrev FourDigits (year : Int) : Prop := 0 ≤ year ∧ year ≤ 9999

/-! ### Digits -/

section Digits

theorem toList_padStart_natCast (number width : Nat) :
    (padStart (toString (number : Int)) width '0').toList = padded width number := by
  show (padStart number.repr width '0').toList = padded width number
  rw [padStart, String.toList_ofList, Nat.toList_repr, padded]

theorem toList_padStart {number : Int} (nonneg : 0 ≤ number) (width : Nat) :
    (padStart (toString number) width '0').toList = padded width number.toNat := by
  rw [← toList_padStart_natCast, Int.toNat_of_nonneg nonneg]

variable {day : UtcDay}

theorem toList_isoYear (four : FourDigits day.year) :
    (isoYear day.year).toList = padded 4 day.year.toNat := by
  rw [isoYear, if_pos four, toList_padStart four.1]

theorem le_length_isoYear {year : Int} (others : ¬FourDigits year) :
    7 ≤ (isoYear year).toList.length := by
  have six : 6 ≤ (padStart (toString year.natAbs) 6 '0').toList.length := by
    show 6 ≤ (padStart (toString (year.natAbs : Int)) 6 '0').toList.length
    rw [toList_padStart_natCast]
    exact le_length_padded
  have sign : (if year < 0 then "-" else "+" : String).toList.length = 1 := by
    split_ifs <;> rfl
  rw [isoYear, if_neg others, String.toList_append, List.length_append, sign]
  omega

theorem toList_isoMonth (valid : day.Valid) (four : FourDigits day.year) :
    day.isoMonth.toList = padded 4 day.year.toNat ++ '-' :: padded 2 day.month.toNat := by
  have nonneg : 0 ≤ day.month := by
    have low := valid.monthLow
    omega
  rw [UtcDay.isoMonth, String.toList_append, String.toList_append, toList_isoYear four,
    toList_padStart nonneg, List.append_assoc]
  rfl

theorem toList_isoDate (valid : day.Valid) :
    day.isoDate.toList = day.isoMonth.toList ++ '-' :: padded 2 day.day.toNat := by
  have nonneg : 0 ≤ day.day := by
    have low := valid.dayLow
    omega
  rw [UtcDay.isoDate, String.toList_append, String.toList_append, toList_padStart nonneg,
    List.append_assoc]
  rfl

end Digits

/-! ### Lengths -/

section Length

variable {day : UtcDay}

theorem day_lt (valid : day.Valid) : day.day.toNat < 10 ^ 2 := by
  have low := valid.dayLow
  have high := (le_daysInMonth_iff.mp valid.dayHigh).1
  omega

theorem month_lt (valid : day.Valid) : day.month.toNat < 10 ^ 2 := by
  have low := valid.monthLow
  have high := valid.monthHigh
  omega

theorem year_lt (four : FourDigits day.year) : day.year.toNat < 10 ^ 4 := by
  obtain ⟨low, high⟩ := four
  omega

theorem lt_length_isoMonth (others : ¬FourDigits day.year) : 7 < day.isoMonth.toList.length := by
  have year := le_length_isoYear others
  have dash : ("-" : String).toList.length = 1 := rfl
  rw [UtcDay.isoMonth, String.toList_append, String.toList_append, List.length_append,
    List.length_append, dash]
  omega

theorem length_isoMonth_eq_iff (valid : day.Valid) :
    day.isoMonth.toList.length = 7 ↔ FourDigits day.year := by
  constructor
  · intro seven
    by_contra others
    exact (lt_length_isoMonth others).ne' seven
  · intro four
    rw [toList_isoMonth valid four, List.length_append, List.length_cons,
      length_padded (by decide) (year_lt four), length_padded (by decide) (month_lt valid)]

theorem length_isoDate (valid : day.Valid) :
    day.isoDate.toList.length = day.isoMonth.toList.length + 3 := by
  rw [toList_isoDate valid, List.length_append, List.length_cons,
    length_padded (by decide) (day_lt valid)]

theorem length_isoDate_eq_iff (valid : day.Valid) :
    day.isoDate.toList.length = 10 ↔ FourDigits day.year := by
  rw [length_isoDate valid, ← length_isoMonth_eq_iff valid]
  omega

theorem toList_text (valid : day.Valid) (four : FourDigits day.year) : day.text.toList =
    padded 4 day.year.toNat ++ '-' :: padded 2 day.month.toNat ++ '-' :: padded 2 day.day.toNat := by
  rw [day.text_eq, String.toList_ofList,
    List.take_of_length_le ((length_isoDate_eq_iff valid).mpr four).le, toList_isoDate valid,
    toList_isoMonth valid four]

end Length

end OpenEstate
