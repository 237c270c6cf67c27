/-
**The birthday list.**

Who has a birthday within a window is listed, with the days that are left. They are read from the instants
of the birthday's midnight and of the report, to the nearest day: after noon that is one too few. And a
birthday that is over is moved to the next year as a day of this one, of which 29 February has become
1 March.

* `isNext_daysToAnniversary`: how many calendar days are left;
* `nextBirthday_eq`: which day the list takes for the birthday;
* `birthday_listed_iff`: a person is listed rightly exactly if the report runs before noon, or, for a leap
  day that was moved, after it, or if the person is out of the window anyhow.
-/

import Mathlib.Data.Int.ConditionallyCompleteOrder
import OpenEstate.Runtime.Double
import OpenEstate.Shared.Calendar

namespace OpenEstate.Reports

open Runtime (Number mathRound)

/-! ### Local time -/

/-- The instants at which the days of a zone begin, both counted from the epoch. Between any two of them as many days pass as on the
calendar, give or take less than half a day. -/
structure Zone where
  midnight : Int → Int
  increasing : StrictMono midnight
  steady : ∀ first second : Int,
    2 * |midnight second - midnight first - (second - first) * dayMs| < dayMs

structure Moment (zone : Zone) where
  now : Int
  today : Int
  begun : zone.midnight today ≤ now
  notOver : now < zone.midnight (today + 1)
  /-- `new Date(year, …)` takes a year below 100 for one of the twentieth century. -/
  current : 100 ≤ (utcDay (today * dayMs)).year

def Moment.year {zone : Zone} (moment : Moment zone) : Int := (utcDay (moment.today * dayMs)).year

def setFullYear (day year : Int) : Int :=
  dayNumber year (utcDay (day * dayMs)).month (utcDay (day * dayMs)).day

/-! ### The list -/

structure BirthdayApplicant where
  companyId : Nat
  mergedIntoId : Option Nat := none
  name : String
  primaryPhone : String
  dateOfBirth : Option Date

section List

variable {zone : Zone} (moment : Moment zone) (withinDays : Number) (dob : Date)

def nextBirthday : Int :=
  let birthday := dayNumber moment.year (utcDay dob).month (utcDay dob).day
  if zone.midnight birthday < zone.midnight moment.today then setFullYear birthday (moment.year + 1)
  else birthday

def daysAway : Int :=
  mathRound ((zone.midnight (nextBirthday moment dob) - moment.now : Int) / dayMs)

def within (days : Int) : Number → Bool
  | .nan => false
  | .infinite negative => !negative
  | .finite limit => days ≤ limit

def daysListed : Option Int :=
  if within (daysAway moment dob) withinDays then some (daysAway moment dob) else none

def birthdayList (companyId : Nat) (applicants : List BirthdayApplicant) : List (List String) :=
  applicants.filterMap fun applicant =>
    if applicant.companyId = companyId ∧ applicant.mergedIntoId = none then
      applicant.dateOfBirth.bind fun dob =>
        (daysListed moment withinDays dob).map fun days =>
          [applicant.name, applicant.primaryPhone,
            String.ofList (((utcDay dob).text.toList.drop 5).take 5), toString days]
    else none

end List

/-! ### Anniversaries -/

/-- The anniversary of a day in a year; of a leap day, in a year without it, the day after. -/
def anniversary (dob : Date) (year : Int) : Int := dayNumber year (utcDay dob).month (utcDay dob).day

structure IsNext (dob : Date) (today days : Int) : Prop where
  nonneg : 0 ≤ days
  isAnniversary : ∃ year, today + days = anniversary dob year
  first : ∀ year, today ≤ anniversary dob year → today + days ≤ anniversary dob year

def daysToAnniversary {zone : Zone} (moment : Moment zone) (dob : Date) : Int :=
  if anniversary dob moment.year < moment.today then
    anniversary dob (moment.year + 1) - moment.today
  else anniversary dob moment.year - moment.today

section Anniversary

variable {dob : Date} {year : Int}

theorem anniversary_strictMono (dob : Date) : StrictMono (anniversary dob) :=
  strictMono_int_of_lt_succ fun year => by
    have later := (dayNumber_succ_year year (utcDay dob).month (utcDay dob).day).1
    unfold anniversary
    omega

variable {zone : Zone} (moment : Moment zone)

theorem today_eq : dayNumber moment.year (utcDay (moment.today * dayMs)).month
    (utcDay (moment.today * dayMs)).day = moment.today :=
  number_utcDay (Int.mul_ediv_cancel _ (by decide))

theorem today_within : dayNumber moment.year 1 1 ≤ moment.today ∧
    moment.today < dayNumber (moment.year + 1) 1 1 := by
  have bounds := newYear_le_dayNumber (valid_utcDay (moment.today * dayMs)) moment.year
  rwa [today_eq] at bounds

theorem isNext_daysToAnniversary (dob : Date) :
    IsNext dob moment.today (daysToAnniversary moment dob) := by
  obtain ⟨newYear, notOver⟩ := today_within moment
  have before : anniversary dob (moment.year - 1) < dayNumber (moment.year - 1 + 1) 1 1 :=
    (newYear_le_dayNumber (valid_utcDay dob) (moment.year - 1)).2
  have after : dayNumber (moment.year + 1) 1 1 ≤ anniversary dob (moment.year + 1) :=
    (newYear_le_dayNumber (valid_utcDay dob) (moment.year + 1)).1
  rw [sub_add_cancel] at before
  have mono := (anniversary_strictMono dob).monotone
  unfold daysToAnniversary
  split
  · rename_i over_
    refine ⟨by omega, ⟨moment.year + 1, by omega⟩, fun year later => ?_⟩
    have next : moment.year + 1 ≤ year := by
      by_contra earlier
      have least := mono (show year ≤ moment.year by omega)
      omega
    have least := mono next
    omega
  · rename_i ahead
    refine ⟨by omega, ⟨moment.year, by omega⟩, fun year later => ?_⟩
    have this_ : moment.year ≤ year := by
      by_contra earlier
      have least := mono (show year ≤ moment.year - 1 by omega)
      omega
    have least := mono this_
    omega

/-! ### The day that is taken for the birthday -/

/-- Whether a leap day is over in a common year, and the next year has one. -/
def LeapDayMoved (dob : Date) : Prop :=
  ((utcDay dob).month = 2 ∧ (utcDay dob).day = 29) ∧ isLeapYear moment.year = false ∧
    isLeapYear (moment.year + 1) = true ∧ anniversary dob moment.year < moment.today

instance (dob : Date) : Decidable (LeapDayMoved moment dob) := inferInstanceAs (Decidable (_ ∧ _))

theorem dayNumber_leapDay (year : Int) :
    dayNumber year 2 29 = dayNumber year 3 1 - if isLeapYear year then 1 else 0 := by
  have leap := @isLeapYear_iff year
  have february : dayNumber year 2 29 = daysBeforeYear (year - 1) + 365 - 719468 := by
    norm_num [dayNumber, daysBeforeMonth]
    omega
  have march : dayNumber year 3 1 = daysBeforeYear year - 719468 := by
    norm_num [dayNumber, daysBeforeMonth]
  rw [february, march]
  unfold daysBeforeYear
  split_ifs with isLeap
  · have divides := leap.mp isLeap
    omega
  · have differs := mt leap.mpr isLeap
    omega

theorem setFullYear_dayNumber {year month day : Int} (valid : (UtcDay.mk year month day).Valid)
    (next : Int) : setFullYear (dayNumber year month day) next = dayNumber next month day := by
  have read := utcDay_dayNumber valid
  rw [UtcDay.number] at read
  rw [setFullYear, read]

theorem nextBirthday_eq (dob : Date) : nextBirthday moment dob =
    moment.today + daysToAnniversary moment dob + if LeapDayMoved moment dob then 1 else 0 := by
  have valid := valid_utcDay dob
  rw [nextBirthday, daysToAnniversary]
  simp only [zone.increasing.lt_iff_lt]
  rw [← anniversary]
  by_cases over_ : anniversary dob moment.year < moment.today
  · rw [if_pos over_, if_pos over_]
    by_cases leapDay : (utcDay dob).month = 2 ∧ (utcDay dob).day = 29 ∧
        isLeapYear moment.year = false
    · obtain ⟨month, day, common⟩ := leapDay
      have march : (UtcDay.mk moment.year 3 1).Valid := by
        constructor <;> norm_num [daysInMonth]
      rw [anniversary, anniversary, month, day, dayNumber_leapDay, common, if_neg (by decide),
        sub_zero, setFullYear_dayNumber march, dayNumber_leapDay]
      have moved : LeapDayMoved moment dob ↔ isLeapYear (moment.year + 1) = true :=
        ⟨fun moved => moved.2.2.1, fun leap => ⟨⟨month, day⟩, common, leap, over_⟩⟩
      simp only [moved]
      split_ifs <;> omega
    · have has : (UtcDay.mk moment.year (utcDay dob).month (utcDay dob).day).Valid := by
        refine ⟨valid.monthLow, valid.monthHigh, valid.dayLow, le_daysInMonth_iff.mpr ?_⟩
        obtain ⟨atMost, thirty, february⟩ := le_daysInMonth_iff.mp valid.dayHigh
        refine ⟨atMost, thirty, fun month => (february month).imp_right fun last => ⟨last.1, ?_⟩⟩
        by_contra common
        exact leapDay ⟨month, last.1, Bool.eq_false_iff.mpr common⟩
      have kept : ¬LeapDayMoved moment dob := fun moved =>
        leapDay ⟨moved.1.1, moved.1.2, moved.2.1⟩
      rw [if_neg kept, anniversary, setFullYear_dayNumber has, ← anniversary]
      omega
  · have kept : ¬LeapDayMoved moment dob := fun moved => over_ moved.2.2.2
    rw [if_neg over_, if_neg over_, if_neg kept]
    omega

end Anniversary

/-! ### The days that are left -/

section Listed

variable {zone : Zone} (moment : Moment zone)

/-- How long today has lasted, on a clock that will show midnight when the other day begins. -/
def elapsed (day : Int) : Int :=
  (day - moment.today) * dayMs - (zone.midnight day - moment.now)

theorem elapsed_bounds (day : Int) :
    -dayMs < 2 * elapsed moment day ∧ 2 * elapsed moment day < 3 * dayMs := by
  have sinceToday := abs_lt.mp (abs_mul (2 : Int) _ ▸ zone.steady moment.today day)
  have sinceTomorrow := abs_lt.mp (abs_mul (2 : Int) _ ▸ zone.steady (moment.today + 1) day)
  have begun := moment.begun
  have notOver := moment.notOver
  unfold elapsed
  unfold dayMs at *
  constructor <;> omega

theorem mathRound_days {days late : Int} (low : -dayMs < 2 * late) (high : 2 * late < 3 * dayMs) :
    mathRound ((days * dayMs - late : Int) / dayMs) =
      if 2 * late ≤ dayMs then days else days - 1 := by
  unfold dayMs at *
  have quotient : (((days * 86400000 - late : Int) : ℚ) / (86400000 : Int)) =
      days - late / 86400000 := by
    push_cast
    ring
  have above : (-86400000 : ℚ) < 2 * late := by exact_mod_cast low
  have below : (2 * late : ℚ) < 3 * 86400000 := by exact_mod_cast high
  rw [mathRound, quotient, Int.floor_eq_iff]
  split_ifs with morning
  · have half : (2 * late : ℚ) ≤ 86400000 := by exact_mod_cast morning
    constructor <;> linarith
  · have half : (86400000 : ℚ) < 2 * late := by exact_mod_cast not_le.mp morning
    push_cast
    constructor <;> linarith

/-- **The days a person is listed with**: after noon, one less than there are. -/
theorem daysAway_eq (dob : Date) : daysAway moment dob =
    nextBirthday moment dob - moment.today -
      if 2 * elapsed moment (nextBirthday moment dob) ≤ dayMs then 0 else 1 := by
  obtain ⟨low, high⟩ := elapsed_bounds moment (nextBirthday moment dob)
  have left : zone.midnight (nextBirthday moment dob) - moment.now =
      (nextBirthday moment dob - moment.today) * dayMs -
        elapsed moment (nextBirthday moment dob) := by
    rw [elapsed]
    ring
  rw [daysAway, left, mathRound_days low high]
  split_ifs
  · rw [sub_zero]
  · rfl

theorem within_mono {fewer days : Int} (le : fewer ≤ days) {limit : Number}
    (is : within days limit = true) : within fewer limit = true := by
  cases limit with
  | nan => cases is
  | infinite => exact is
  | finite limit =>
    have bound : (days : ℚ) ≤ limit := of_decide_eq_true is
    have casted : (fewer : ℚ) ≤ days := by exact_mod_cast le
    exact decide_eq_true (casted.trans bound)

theorem listed_eq_iff {days other : Int} (ne : other ≠ days) {limit : Number} :
    ((if within other limit then some other else none) =
        if within days limit then some days else none) ↔ ¬within (min other days) limit = true := by
  have least : within (min other days) limit = true ↔
      within other limit = true ∨ within days limit = true := by
    constructor
    · intro is
      rcases min_choice other days with same | same
      · exact Or.inl (same ▸ is)
      · exact Or.inr (same ▸ is)
    · rintro (is | is)
      · exact within_mono (min_le_left _ _) is
      · exact within_mono (min_le_right _ _) is
  rw [least]
  split_ifs with first second
  · simp [first, ne]
  · simp [first]
  · simp_all
  · simp_all

/-- **The birthday list counts calendar days** exactly if it runs in the first half of the day, or, for a
leap day that was moved, in the second, or if the person is not to be listed by more than that. -/
theorem birthday_listed_iff (withinDays : Number) (dob : Date) :
    IsNext dob moment.today (daysToAnniversary moment dob) ∧
      (daysListed moment withinDays dob =
          (if within (daysToAnniversary moment dob) withinDays then
            some (daysToAnniversary moment dob) else none) ↔
        if LeapDayMoved moment dob then
          dayMs < 2 * elapsed moment (moment.today + daysToAnniversary moment dob + 1) ∨
            ¬within (daysToAnniversary moment dob) withinDays = true
        else
          2 * elapsed moment (moment.today + daysToAnniversary moment dob) ≤ dayMs ∨
            ¬within (daysToAnniversary moment dob - 1) withinDays = true) := by
  refine ⟨isNext_daysToAnniversary moment dob, ?_⟩
  have away := daysAway_eq moment dob
  rw [nextBirthday_eq] at away
  rw [daysListed]
  by_cases moved : LeapDayMoved moment dob
  · rw [if_pos moved] at away ⊢
    by_cases morning : 2 * elapsed moment (moment.today + daysToAnniversary moment dob + 1) ≤ dayMs
    · rw [if_pos morning] at away
      have ne : daysAway moment dob ≠ daysToAnniversary moment dob := by omega
      rw [listed_eq_iff ne, min_eq_right (by omega), or_iff_right (not_lt.mpr morning)]
    · rw [if_neg morning] at away
      have same : daysAway moment dob = daysToAnniversary moment dob := by omega
      rw [same]
      exact iff_of_true rfl (Or.inl (not_le.mp morning))
  · rw [if_neg moved] at away ⊢
    rw [add_zero] at away
    by_cases morning : 2 * elapsed moment (moment.today + daysToAnniversary moment dob) ≤ dayMs
    · rw [if_pos morning] at away
      have same : daysAway moment dob = daysToAnniversary moment dob := by omega
      rw [same]
      exact iff_of_true rfl (Or.inl morning)
    · rw [if_neg morning] at away
      have ne : daysAway moment dob ≠ daysToAnniversary moment dob := by omega
      have less : min (daysAway moment dob) (daysToAnniversary moment dob) =
          daysToAnniversary moment dob - 1 := by omega
      rw [listed_eq_iff ne, less, or_iff_right morning]

end Listed

/-! ### A birthday today -/

def utcZone : Zone where
  midnight day := day * dayMs
  increasing := fun first second less => by
    dsimp only
    unfold dayMs
    omega
  steady := fun first second => by
    have none_ : second * dayMs - first * dayMs - (second - first) * dayMs = 0 := by ring
    rw [none_, abs_zero]
    decide

def afternoon : Moment utcZone where
  now := 20711 * dayMs + 50400000
  today := 20711
  begun := by decide
  notOver := by decide
  current := by decide

/-- Whose birthday is today is listed in the afternoon with a day less than none. -/
theorem birthday_today_listed_with_less :
    (utcDay (20711 * dayMs)).text = "2026-09-15" ∧
      daysToAnniversary afternoon (7562 * dayMs) = 0 ∧
        (utcDay (7562 * dayMs)).text = "1990-09-15" ∧
          daysListed afternoon (.finite 30) (7562 * dayMs) = some (-1) := by
  refine ⟨by decide, by decide, by decide, ?_⟩
  have away : daysAway afternoon (7562 * dayMs) = -1 := by
    rw [daysAway_eq]
    decide
  rw [daysListed, away]
  norm_num [within]

end OpenEstate.Reports
