/-
**Dates of custom fields.**

A date is stored as the day, in universal time, of the moment that its text is read as. A text that is a
date alone is midnight of that day in universal time; with a time it is a moment of its own offset, or of
the server's clock if it has none. Other texts that begin with a date are read as the runtime likes.

* `DateRuntime.platform`: how the runtime reads texts, of which those of days are read as such;
* `text_eq_iff`: a text begins with a moment's day exactly if it is the day that it writes;
* `date_kept_iff`: the date that is written is stored, and stored again, exactly if it is a day of the
  calendar and its time, less the offset, is within it.
-/

import OpenEstate.CustomFields.Validation
import OpenEstate.Shared.IsoOrder

namespace OpenEstate.CustomFields

open Runtime

/-! ### Texts of moments -/

inductive ZoneText
  | utc
  | offset (negative : Bool) (minutes : Nat)
  | server
  deriving DecidableEq

def number (digits : List Char) : Nat := Nat.ofDigitChars 10 digits 0

def readZone : List Char → Option ZoneText
  | [] => some .server
  | ['Z'] => some .utc
  | [sign, h1, h2, ':', m1, m2] =>
    if (sign = '+' ∨ sign = '-') ∧ [h1, h2, m1, m2].all Char.isDigit ∧ number [h1, h2] ≤ 23 ∧
        number [m1, m2] ≤ 59 then
      some (.offset (sign = '-') (number [h1, h2] * 60 + number [m1, m2]))
    else none
  | _ => none

/-- A time, in milliseconds, and its zone. The end of a day is a time of it. -/
def readClock (hours minutes seconds milliseconds zone : List Char) : Option (Nat × ZoneText) :=
  if (hours ++ minutes ++ seconds ++ milliseconds).all Char.isDigit ∧
      (number hours ≤ 23 ∧ number minutes ≤ 59 ∧ number seconds ≤ 59 ∨
        number hours = 24 ∧ number minutes = 0 ∧ number seconds = 0 ∧ number milliseconds = 0) then
    (readZone zone).map fun zone =>
      (((number hours * 60 + number minutes) * 60 + number seconds) * 1000 + number milliseconds, zone)
  else none

def readTime : List Char → Option (Nat × ZoneText)
  | [] => some (0, .utc)
  | 'T' :: h1 :: h2 :: ':' :: m1 :: m2 :: ':' :: s1 :: s2 :: '.' :: f1 :: f2 :: f3 :: zone =>
    readClock [h1, h2] [m1, m2] [s1, s2] [f1, f2, f3] zone
  | 'T' :: h1 :: h2 :: ':' :: m1 :: m2 :: ':' :: s1 :: s2 :: zone =>
    readClock [h1, h2] [m1, m2] [s1, s2] [] zone
  | 'T' :: h1 :: h2 :: ':' :: m1 :: m2 :: zone => readClock [h1, h2] [m1, m2] [] [] zone
  | _ => none

def writtenDate (content : String) : String := String.ofList (content.toList.take 10)

def writtenDay (content : String) : UtcDay where
  year := number (content.toList.take 4)
  month := number ((content.toList.drop 5).take 2)
  day := number ((content.toList.drop 8).take 2)

def readIso (content : String) : Option (Nat × ZoneText) :=
  if isIsoShaped content ∧ (writtenDay content).Valid then readTime (content.toList.drop 10) else none

/-- What the runtime is free to do: the offset of the server's clock at a local time, and moments of texts
that are not of the format. -/
structure DateRuntime where
  serverOffset : Int → Int
  otherDate : String → Option Date

namespace DateRuntime

variable (runtime : DateRuntime)

/-- How far a zone is ahead of universal time, in milliseconds, at a local time. -/
def offset (localTime : Int) : ZoneText → Int
  | .utc => 0
  | .offset negative minutes => if negative then -(minutes * 60000) else minutes * 60000
  | .server => runtime.serverOffset localTime

def parse (content : String) : Option Date :=
  match readIso content with
  | some (time, zone) =>
    let localTime := (writtenDay content).number * dayMs + time
    some (localTime - runtime.offset localTime zone)
  | none => runtime.otherDate content

end DateRuntime

/-! ### What should be stored -/

/-- Whether the date of a text is that of its moment: its time, less its offset, is within the day. Of a text
that is not of the format, the moment that the runtime has for it is one of the day. -/
def KeepsDate (runtime : DateRuntime) (content : String) : Prop :=
  match readIso content with
  | some (time, zone) =>
    0 ≤ time - runtime.offset ((writtenDay content).number * dayMs + time) zone ∧
      time - runtime.offset ((writtenDay content).number * dayMs + time) zone < dayMs
  | none => ∃ date ∈ runtime.otherDate content, utcDay date = writtenDay content

/-! ### Dates that begin texts -/

section Written

variable {content : String} {date : Date}

structure BeginsWithDate (content : String) (year month day : List Char) : Prop where
  toList : ∃ rest, content.toList = year ++ '-' :: month ++ '-' :: day ++ rest
  year : year.length = 4 ∧ ∀ char ∈ year, char.isDigit = true
  month : month.length = 2 ∧ ∀ char ∈ month, char.isDigit = true
  day : day.length = 2 ∧ ∀ char ∈ day, char.isDigit = true

theorem beginsWithDate_of_isIsoShaped (shaped : isIsoShaped content = true) :
    ∃ year month day, BeginsWithDate content year month day := by
  unfold isIsoShaped at shaped
  split at shaped
  · rename_i y1 y2 y3 y4 m1 m2 d1 d2 rest chars
    have digits := List.all_eq_true.mp (Bool.and_eq_true_iff.mp shaped).1
    refine ⟨[y1, y2, y3, y4], [m1, m2], [d1, d2], ⟨rest, chars⟩, ⟨rfl, ?_⟩, ⟨rfl, ?_⟩, rfl, ?_⟩
    all_goals exact fun char member => digits char (by simp at member ⊢; tauto)
  · cases shaped

section Begins

variable {year month day : List Char} (begins : BeginsWithDate content year month day)
include begins

theorem toList_writtenDate : (writtenDate content).toList = year ++ '-' :: month ++ '-' :: day := by
  obtain ⟨⟨rest, chars⟩, ⟨yearLength, _⟩, ⟨monthLength, _⟩, dayLength, _⟩ := begins
  rw [writtenDate, String.toList_ofList, chars]
  refine List.take_left' ?_
  simp [yearLength, monthLength, dayLength]

theorem writtenDay_eq : writtenDay content = ⟨number year, number month, number day⟩ := by
  obtain ⟨⟨rest, chars⟩, ⟨yearLength, _⟩, ⟨monthLength, _⟩, dayLength, _⟩ := begins
  have first : content.toList.take 4 = year := by
    rw [chars, List.append_assoc, List.append_assoc]
    exact List.take_left' yearLength
  have second : (content.toList.drop 5).take 2 = month := by
    have front : content.toList = (year ++ ['-']) ++ (month ++ ('-' :: day ++ rest)) := by
      rw [chars]
      simp
    rw [front, List.drop_left' (by simp [yearLength])]
    exact List.take_left' monthLength
  have third : (content.toList.drop 8).take 2 = day := by
    have front : content.toList = (year ++ '-' :: month ++ ['-']) ++ (day ++ rest) := by
      rw [chars]
      simp
    rw [front, List.drop_left' (by simp [yearLength, monthLength])]
    exact List.take_left' dayLength
  rw [writtenDay, first, second, third]

theorem isIsoShaped_writtenDate : isIsoShaped (writtenDate content) = true := by
  have chars := toList_writtenDate begins
  obtain ⟨_, ⟨yearLength, yearDigits⟩, ⟨monthLength, monthDigits⟩, dayLength, dayDigits⟩ := begins
  match year, month, day, yearLength, monthLength, dayLength with
  | [y1, y2, y3, y4], [m1, m2], [d1, d2], _, _, _ =>
    unfold isIsoShaped
    rw [chars]
    simp_all

theorem text_eq_iff : (utcDay date).text = writtenDate content ↔ utcDay date = writtenDay content := by
  have valid := valid_utcDay date
  have chars := toList_writtenDate begins
  have written := writtenDay_eq begins
  have fourDigits : (utcDay date).text = writtenDate content → FourDigits (utcDay date).year :=
    fun same => year_of_isIsoShaped (same ▸ isIsoShaped_writtenDate begins)
  obtain ⟨_, ⟨yearLength, yearDigits⟩, ⟨monthLength, monthDigits⟩, dayLength, dayDigits⟩ := begins
  generalize utcDay date = stored at *
  have monthLow := valid.monthLow
  have dayLow := valid.dayLow
  constructor
  · intro same
    have four := fourDigits same
    rw [← same, toList_text valid four] at chars
    obtain ⟨front, days⟩ := List.append_inj' chars (by
      rw [List.length_cons, List.length_cons, dayLength, length_padded (by decide) (day_lt valid)])
    obtain ⟨years, months⟩ := List.append_inj front (by
      rw [yearLength, length_padded (by decide) (year_lt four)])
    have yearIs := congrArg number years
    have monthIs := congrArg number (List.cons.inj months).2
    have dayIs := congrArg number (List.cons.inj days).2
    simp only [number, ofDigitChars_padded] at yearIs monthIs dayIs
    obtain ⟨yearLow, _⟩ := four
    obtain ⟨storedYear, storedMonth, storedDay⟩ := stored
    rw [written, number, number, number, ← yearIs, ← monthIs, ← dayIs, UtcDay.mk.injEq]
    dsimp only at *
    omega
  · intro same
    have below : number year < 10 ^ 4 := yearLength ▸ ofDigitChars_lt yearDigits
    have padded_ : ∀ {digits : List Char} {width : ℕ}, 0 < width → digits.length = width →
        (∀ char ∈ digits, char.isDigit = true) → padded width (number digits) = digits := by
      rintro digits width some_ rfl areDigits
      exact padded_ofDigitChars (List.ne_nil_of_length_pos some_) areDigits
    rw [written] at same
    have four : FourDigits stored.year := by
      rw [same]
      refine ⟨Int.natCast_nonneg _, ?_⟩
      dsimp only
      omega
    rw [← String.toList_inj, chars, toList_text valid four, same]
    dsimp only
    rw [Int.toNat_natCast, Int.toNat_natCast, Int.toNat_natCast, padded_ (by decide) yearLength yearDigits,
      padded_ (by decide) monthLength monthDigits, padded_ (by decide) dayLength dayDigits]

end Begins

end Written

/-! ### The runtime -/

namespace DateRuntime

variable (runtime : DateRuntime)

theorem readIso_text {day : Day} (four : FourDigits (utcDay (day * dayMs)).year) :
    readIso day.text = some (0, .utc) ∧ writtenDay day.text = utcDay (day * dayMs) := by
  have valid := valid_utcDay (day * dayMs)
  have chars : day.text.toList = _ := toList_text valid four
  have begins : BeginsWithDate day.text (padded 4 (utcDay (day * dayMs)).year.toNat)
      (padded 2 (utcDay (day * dayMs)).month.toNat) (padded 2 (utcDay (day * dayMs)).day.toNat) :=
    ⟨⟨[], by rw [List.append_nil, chars]⟩, ⟨length_padded (by decide) (year_lt four), isDigit_padded⟩,
      ⟨length_padded (by decide) (month_lt valid), isDigit_padded⟩,
      length_padded (by decide) (day_lt valid), isDigit_padded⟩
  have all : day.text.toList.length = 10 := by
    rw [chars, List.length_append, List.length_append, List.length_cons, List.length_cons, begins.year.1,
      begins.month.1, begins.day.1]
  have same : writtenDate day.text = day.text := by
    rw [writtenDate, List.take_of_length_le all.le, String.ofList_toList]
  have written : writtenDay day.text = utcDay (day * dayMs) := by
    rw [writtenDay_eq begins]
    simp only [number, ofDigitChars_padded]
    have monthLow := valid.monthLow
    have dayLow := valid.dayLow
    obtain ⟨yearLow, _⟩ := four
    generalize utcDay (day * dayMs) = stored at *
    obtain ⟨year, month, day⟩ := stored
    rw [UtcDay.mk.injEq]
    dsimp only at *
    omega
  refine ⟨?_, written⟩
  rw [readIso, if_pos ⟨same ▸ isIsoShaped_writtenDate begins, written ▸ valid⟩,
    List.drop_eq_nil_of_le all.le]
  rfl

theorem parse_text (day : Day) (low : 0 ≤ (utcDay (day * dayMs)).year)
    (high : (utcDay (day * dayMs)).year ≤ 9999) :
    ∃ date, runtime.parse day.text = some date ∧ (utcDay date).text = day.text := by
  obtain ⟨read, written⟩ := readIso_text ⟨low, high⟩
  have midnight : (utcDay (day * dayMs)).number = day :=
    number_utcDay (Int.mul_ediv_cancel _ (by decide))
  refine ⟨day * dayMs, ?_, rfl⟩
  rw [parse, read]
  dsimp only
  rw [written, midnight, offset, Int.natCast_zero, Int.add_zero, Int.sub_zero]

def platform (numberText : ℚ → String) (containsAadhaarKeyword : String → Option String) : Platform where
  parseDate := runtime.parse
  parseDate_text := runtime.parse_text
  numberText
  containsAadhaarKeyword

end DateRuntime

/-! ### What is stored -/

section Stored

variable {runtime : DateRuntime} {numberText : ℚ → String}
  {containsAadhaarKeyword : String → Option String} {path : List String} {content : String} {found : Value}

theorem utcDay_eq_iff {day : UtcDay} (valid : day.Valid) (time : Int) :
    utcDay (day.number * dayMs + time) = day ↔ 0 ≤ time ∧ time < dayMs := by
  have positive : (0 : Int) < dayMs := by decide
  have quotient : (day.number * dayMs + time) / dayMs = day.number ↔ 0 ≤ time ∧ time < dayMs := by
    rw [Int.add_comm, Int.add_mul_ediv_right _ _ positive.ne']
    have zero : time / dayMs = 0 ↔ 0 * dayMs ≤ time ∧ time < 0 * dayMs + dayMs :=
      Int.ediv_eq_iff_of_pos positive
    rw [Int.zero_mul, Int.zero_add] at zero
    rw [← zero]
    omega
  rw [← quotient]
  constructor
  · intro same
    have counted : (utcDay (day.number * dayMs + time)).number = _ := number_utcDay rfl
    rw [same] at counted
    exact counted.symm
  · intro same
    have read := utcDay_dayNumber valid
    unfold utcDay at read ⊢
    rw [Int.mul_ediv_cancel _ positive.ne'] at read
    rw [same]
    exact read

theorem checkDate_eq_ok {platform : Platform} :
    checkDate platform path (some (.text content)) = .ok found ↔
      ∃ date, isIsoShaped content = true ∧ platform.parseDate content = some date ∧
        found = .text (utcDay date).text := by
  rw [checkDate]
  constructor
  · intro accepted
    split_ifs at accepted with shaped
    · split at accepted
      · rename_i date parsed
        exact ⟨date, shaped, parsed, (Except.ok.inj accepted).symm⟩
      · cases accepted
    · cases accepted
  · rintro ⟨date, shaped, parsed, rfl⟩
    rw [if_pos shaped, parsed]

/-- **The date that is written is stored, and stored again**, exactly if it is a day of the calendar and its
time, less the offset, is within it. -/
theorem date_kept_iff
    (accepted : checkDate (runtime.platform numberText containsAadhaarKeyword) path
      (some (.text content)) = .ok found) :
    (found = .text (writtenDate content) ∧
        checkDate (runtime.platform numberText containsAadhaarKeyword) path (some found) = .ok found) ↔
      KeepsDate runtime content := by
  obtain ⟨date, shaped, parsed, rfl⟩ := checkDate_eq_ok.mp accepted
  obtain ⟨year, month, day, begins⟩ := beginsWithDate_of_isIsoShaped shaped
  have kept : ((Value.text (utcDay date).text = .text (writtenDate content) ∧
      checkDate (runtime.platform numberText containsAadhaarKeyword) path
        (some (.text (utcDay date).text)) = .ok (.text (utcDay date).text)) ↔
      utcDay date = writtenDay content) := by
    rw [← text_eq_iff begins, Value.text.injEq]
    exact and_iff_left_of_imp fun same => checkDate_text (same ▸ isIsoShaped_writtenDate begins)
  rw [kept, KeepsDate]
  have parsed : runtime.parse content = some date := parsed
  rw [DateRuntime.parse] at parsed
  split at parsed
  · rename_i time zone read
    have valid : (writtenDay content).Valid := by
      rw [readIso] at read
      split_ifs at read with format
      exact format.2
    dsimp only at parsed
    rw [← Option.some.inj parsed, Int.add_sub_assoc, utcDay_eq_iff valid]
  · simp [parsed]

end Stored

/-- A runtime whose clock is that of universal time, and that reads no other texts. -/
def universalRuntime : DateRuntime where
  serverOffset := fun _ => 0
  otherDate := fun _ => none

/-- Its platform, for fields that are not numbers and are named without a keyword. -/
def universalPlatform : Platform := universalRuntime.platform (fun _ => "") fun _ => none

theorem date_kept_first_of_march :
    Value.text "2027-03-01" = .text (writtenDate "2027-03-01") ∧
      checkDate universalPlatform ["values", "possession"] (some (.text "2027-03-01")) =
        .ok (.text "2027-03-01") := by
  have accepted : checkDate universalPlatform ["values", "possession"] (some (.text "2027-03-01")) =
      .ok (.text "2027-03-01") :=
    checkDate_eq_ok.mpr ⟨1803859200000, by decide +kernel, by decide +kernel,
      congrArg Value.text (by decide +kernel)⟩
  have read : readIso "2027-03-01" = some (0, .utc) := by decide +kernel
  have keeps : KeepsDate universalRuntime "2027-03-01" := by
    rw [KeepsDate, read]
    exact ⟨by decide, by decide⟩
  exact (date_kept_iff accepted).mpr keeps

/-- Midnight in India is on the day before in universal time. -/
theorem midnight_offset_moves_date :
    checkDate universalPlatform ["values", "possession"] (some (.text "2027-03-01T00:00:00+05:30")) =
        .ok (.text "2027-02-28") ∧
      Value.text "2027-02-28" ≠ .text (writtenDate "2027-03-01T00:00:00+05:30") := by
  refine ⟨checkDate_eq_ok.mpr ⟨1803839400000, by decide +kernel, by decide +kernel,
    congrArg Value.text (by decide +kernel)⟩, fun same => ?_⟩
  have days : "2027-02-28" ≠ writtenDate "2027-03-01T00:00:00+05:30" := by decide +kernel
  exact days (Value.text.inj same)

end OpenEstate.CustomFields
