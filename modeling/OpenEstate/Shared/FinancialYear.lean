/-
**Calendar days, financial years and document numbers.**

A document number carries the label of its financial year and a sequence number, padded to six
digits. `formatReceiptNumber_injective` and `formatBookingNumber_injective`: the text determines
both, whatever the label, since no digit is the slash that separates them.

A day at day precision is counted from the epoch. Its text is the beginning of the ISO text of its
midnight: ten characters, of which a year beyond four digits takes more than its share.
-/

import OpenEstate.Shared.Finance

namespace OpenEstate

/-! ### The calendar -/

structure UtcDay where
  year : Int
  month : Int
  day : Int
  deriving DecidableEq

/-- The day of a moment, in the proleptic Gregorian calendar. Years are counted from March, so
that a leap day is the last of its year. -/
def utcDay (date : Date) : UtcDay :=
  let days := date / dayMs + 719468
  let era := days / 146097
  let dayOfEra := days - era * 146097
  let yearOfEra := (dayOfEra - dayOfEra / 1460 + dayOfEra / 36524 - dayOfEra / 146096) / 365
  let dayOfYear := dayOfEra - (365 * yearOfEra + yearOfEra / 4 - yearOfEra / 100)
  let monthFromMarch := (5 * dayOfYear + 2) / 153
  let month := if monthFromMarch < 10 then monthFromMarch + 3 else monthFromMarch - 9
  { year := yearOfEra + era * 400 + if month ≤ 2 then 1 else 0
    month
    day := dayOfYear - (153 * monthFromMarch + 2) / 5 + 1 }

def getUTCFullYear (date : Date) : Int := (utcDay date).year

def getUTCMonth (date : Date) : Int := (utcDay date).month - 1

/-! ### Labels and numbers -/

def padStart (text : String) (width : Nat) (fill : Char) : String :=
  String.ofList (text.toList.leftpad width fill)

def financialYearLabel (date : Date) (fyStartMonth : Nat) : String :=
  let y := getUTCFullYear date
  let m := getUTCMonth date + 1
  let startYear := if m ≥ fyStartMonth then y else y - 1
  let endYY := padStart (toString ((startYear + 1).tmod 100)) 2 '0'
  toString startYear ++ "-" ++ endYY

def formatReceiptNumber (fyLabel : String) (seq : Nat) : String :=
  "RCP/" ++ fyLabel ++ "/" ++ padStart (toString seq) 6 '0'

def formatBookingNumber (fyLabel : String) (seq : Nat) : String :=
  "BKG/" ++ fyLabel ++ "/" ++ padStart (toString seq) 6 '0'

/-- 1 June 2026 and 1 February 2027 fall in one financial year that starts in April. -/
example : financialYearLabel 1780272000000 4 = "2026-27" ∧
    financialYearLabel 1801440000000 4 = "2026-27" := by
  decide

/-! ### Reading a number back -/

variable {seq : Nat}

theorem padStart_injective {width other : Nat}
    (same : padStart (toString seq) width '0' = padStart (toString other) width '0') :
    seq = other := by
  have value : ∀ n : Nat,
      Nat.ofDigitChars 10 (padStart (toString n) width '0').toList 0 = n := by
    intro n
    rw [padStart, String.toList_ofList, List.leftpad, Nat.ofDigitChars_append,
      Nat.ofDigitChars_replicate_zero, mul_zero]
    show Nat.ofDigitChars 10 n.repr.toList 0 = n
    rw [Nat.toList_repr, Nat.ofDigitChars_ten_toDigits]
  rw [← value seq, same, value other]

theorem slash_not_mem_padStart (width seq : Nat) :
    '/' ∉ (padStart (toString seq) width '0').toList := by
  rw [padStart, String.toList_ofList, List.leftpad, List.mem_append]
  rintro (zero | digit)
  · exact absurd (List.eq_of_mem_replicate zero) (by decide)
  · have digit : '/' ∈ seq.repr.toList := digit
    rw [Nat.toList_repr] at digit
    exact absurd (Nat.isDigit_of_mem_toDigits (by decide) (by decide) digit) (by decide)

theorem append_slash_inj_of_prefix {first between digits other : List Char}
    (noSlash : '/' ∉ digits) (same : '/' :: digits = between ++ '/' :: other) :
    first = first ++ between ∧ digits = other := by
  cases between with
  | nil =>
    rw [List.nil_append] at same
    exact ⟨(List.append_nil first).symm, (List.cons.inj same).2⟩
  | cons head rest =>
    have inside : digits = rest ++ '/' :: other := (List.cons.inj same).2
    exact absurd (inside ▸ List.mem_append_right rest List.mem_cons_self) noSlash

theorem append_slash_inj {first second digits other : List Char}
    (noSlash : '/' ∉ digits) (noSlashToo : '/' ∉ other)
    (same : first ++ '/' :: digits = second ++ '/' :: other) :
    first = second ∧ digits = other := by
  rcases List.append_eq_append_iff.mp same with ⟨between, rfl, rest⟩ | ⟨between, rfl, rest⟩
  · exact append_slash_inj_of_prefix noSlash rest
  · obtain ⟨sameFirst, sameDigits⟩ := append_slash_inj_of_prefix noSlashToo rest
    exact ⟨sameFirst.symm, sameDigits.symm⟩

variable {other fyLabel : String} {second : Nat}

/-- **A number formatted after a slash determines its label and its sequence number.** -/
theorem numbered_injective {kind : String}
    (same : kind ++ fyLabel ++ "/" ++ padStart (toString seq) 6 '0' =
      kind ++ other ++ "/" ++ padStart (toString second) 6 '0') :
    fyLabel = other ∧ seq = second := by
  have chars := congrArg String.toList same
  simp only [String.toList_append, List.append_assoc] at chars
  obtain ⟨labels, numbers⟩ := append_slash_inj (slash_not_mem_padStart 6 seq)
    (slash_not_mem_padStart 6 second) (List.append_cancel_left chars)
  exact ⟨String.toList_injective labels, padStart_injective (String.toList_injective numbers)⟩

theorem formatReceiptNumber_injective
    (same : formatReceiptNumber fyLabel seq = formatReceiptNumber other second) :
    fyLabel = other ∧ seq = second :=
  numbered_injective same

theorem formatBookingNumber_injective
    (same : formatBookingNumber fyLabel seq = formatBookingNumber other second) :
    fyLabel = other ∧ seq = second :=
  numbered_injective same

/-! ### Days -/

abbrev Day := Int

def isoYear (year : Int) : String :=
  if 0 ≤ year ∧ year ≤ 9999 then padStart (toString year) 4 '0'
  else (if year < 0 then "-" else "+") ++ padStart (toString year.natAbs) 6 '0'

def UtcDay.text (day : UtcDay) : String :=
  String.ofList ((isoYear day.year ++ "-" ++ padStart (toString day.month) 2 '0' ++ "-" ++
    padStart (toString day.day) 2 '0').toList.take 10)

def Day.text (day : Day) : String := (utcDay (day * dayMs)).text

def lastDay : Day := 2932896

example : lastDay.text = "9999-12-31" ∧ Day.text (lastDay + 1) = "+010000-01" := by decide

end OpenEstate
