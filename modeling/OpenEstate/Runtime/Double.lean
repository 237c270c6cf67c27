/-
**Doubles.**

A number of the runtime is a rational that a double represents, or infinite, or not a number. The
double nearest to a rational has a mantissa of 53 bits, the even one of two that are equally near.

* `nearestDouble_eq_self`: a rational whose mantissa is whole is a double;
* `nearestDouble_natCast`: so is every natural number up to `2 ^ 53`;
* `nearestDouble_near`: no double is further from its rational than half of the last bit;
* `mathRound_percent`: a rate of two decimals, times a hundred, rounds to its hundredths;
* `roundHalfAway_nearest` and `roundHalfAway_tie`: half away from zero, a value is rounded to the
  nearest integer, and of two to the one that is further from zero.
-/

import Mathlib.Data.Int.Log
import Mathlib.Data.Rat.Floor
import Mathlib.Tactic.Positivity

namespace Runtime

inductive Number
  | nan
  | infinite (negative : Bool)
  | finite (value : ℚ)
  deriving DecidableEq

def Number.neg : Number → Number
  | nan => nan
  | infinite negative => infinite !negative
  | finite value => finite (-value)

/-! ### Rounding -/

def roundHalfEven (value : ℚ) : ℤ :=
  if value - ⌊value⌋ < 1 / 2 then ⌊value⌋
  else if 1 / 2 < value - ⌊value⌋ then ⌊value⌋ + 1
  else if ⌊value⌋ % 2 = 0 then ⌊value⌋
  else ⌊value⌋ + 1

/-- The exponent of the last bit of a mantissa: no less than that of the least double. -/
def lastBit (value : ℚ) : ℤ := max (Int.log 2 value - 52) (-1074)

def nearestDouble (value : ℚ) : ℚ :=
  roundHalfEven (value / 2 ^ lastBit value) * 2 ^ lastBit value

/-- The number of a rational that is not negative: beyond the largest double it is infinite. -/
def toNumber (value : ℚ) : Number :=
  if 2 ^ 1024 ≤ nearestDouble value then .infinite false else .finite (nearestDouble value)

theorem roundHalfEven_intCast (value : ℤ) : roundHalfEven value = value := by
  simp [roundHalfEven]

variable {value : ℚ}

theorem nearestDouble_eq_self (mantissa : ℤ)
    (whole : value / 2 ^ lastBit value = mantissa) : nearestDouble value = value := by
  unfold nearestDouble
  rw [whole, roundHalfEven_intCast, ← whole]
  exact div_mul_cancel₀ _ (zpow_ne_zero _ two_ne_zero)

theorem lastBit_natCast {value : ℕ} (small : value < 2 ^ 53) : lastBit (value : ℚ) ≤ 0 := by
  unfold lastBit
  have log : Int.log 2 (value : ℚ) = Nat.log 2 value := Int.log_natCast 2 value
  have bound : Nat.log 2 value < 53 ∨ value = 0 := by
    rcases Nat.eq_zero_or_pos value with zero | positive
    · exact Or.inr zero
    · exact Or.inl ((Nat.log_lt_iff_lt_pow (by decide) positive.ne').mpr small)
  rcases bound with bound | rfl
  · rw [log]
    omega
  · simp

theorem nearestDouble_natCast {value : ℕ} (small : value ≤ 2 ^ 53) :
    nearestDouble (value : ℚ) = value := by
  rcases Nat.lt_or_eq_of_le small with small | rfl
  · obtain ⟨shift, is⟩ := Int.eq_ofNat_of_zero_le (neg_nonneg.mpr (lastBit_natCast small))
    have bit : lastBit (value : ℚ) = -(shift : ℤ) := by omega
    refine nearestDouble_eq_self (value * 2 ^ shift) ?_
    rw [bit, zpow_neg, div_inv_eq_mul, zpow_natCast]
    push_cast
    rfl
  · have log : Int.log 2 ((2 ^ 53 : ℕ) : ℚ) = 53 := by
      rw [Int.log_natCast, Nat.log_pow (by decide)]
      rfl
    refine nearestDouble_eq_self (2 ^ 52) ?_
    unfold lastBit
    rw [log]
    norm_num

/-- **Natural numbers up to two to the 53rd are doubles.** -/
theorem toNumber_natCast {value : ℕ} (small : value ≤ 2 ^ 53) :
    toNumber (value : ℚ) = .finite value := by
  have bound : (value : ℚ) ≤ 2 ^ 53 := by exact_mod_cast small
  have below : ¬(2 : ℚ) ^ 1024 ≤ value := by
    rw [not_le]
    calc (value : ℚ) ≤ 2 ^ 53 := bound
      _ < 2 ^ 1024 := pow_lt_pow_right₀ (by norm_num) (by norm_num)
  rw [toNumber, nearestDouble_natCast small, if_neg below]

/-! ### How near the nearest double is -/

theorem roundHalfEven_near (value : ℚ) : |(roundHalfEven value : ℚ) - value| ≤ 1 / 2 := by
  have lower := Int.floor_le value
  have upper := Int.lt_floor_add_one value
  rw [abs_le]
  unfold roundHalfEven
  split
  · constructor <;> linarith
  · split
    · push_cast
      constructor <;> linarith
    · split
      · constructor <;> linarith
      · push_cast
        constructor <;> linarith

theorem nearestDouble_nonneg (nonneg : 0 ≤ value) : 0 ≤ nearestDouble value := by
  have bit : (0 : ℚ) < 2 ^ lastBit value := zpow_pos two_pos _
  have floor : 0 ≤ ⌊value / 2 ^ lastBit value⌋ := Int.floor_nonneg.mpr (div_nonneg nonneg bit.le)
  refine mul_nonneg (Int.cast_nonneg ?_) bit.le
  unfold roundHalfEven
  split_ifs <;> omega

theorem nearestDouble_near (value : ℚ) :
    |nearestDouble value - value| ≤ 2 ^ lastBit value / 2 := by
  have positive : (0 : ℚ) < 2 ^ lastBit value := zpow_pos two_pos _
  have scaled : nearestDouble value - value =
      (roundHalfEven (value / 2 ^ lastBit value) - value / 2 ^ lastBit value) *
        2 ^ lastBit value := by
    rw [sub_mul, div_mul_cancel₀ _ positive.ne']
    rfl
  rw [scaled, abs_mul, abs_of_pos positive]
  calc _ ≤ 1 / 2 * 2 ^ lastBit value :=
        mul_le_mul_of_nonneg_right (roundHalfEven_near _) positive.le
    _ = 2 ^ lastBit value / 2 := by ring

theorem lastBit_le (nonneg : 0 ≤ value) (small : value ≤ 2 ^ 14) :
    lastBit value ≤ -38 := by
  have log : Int.log 2 value ≤ 14 := by
    rcases nonneg.eq_or_lt with rfl | positive
    · rw [Int.log_zero_right]
      decide
    · calc Int.log 2 value ≤ Int.log 2 ((2 : ℚ) ^ (14 : ℤ)) :=
            Int.log_mono_right positive (by exact_mod_cast small)
        _ = 14 := by exact_mod_cast Int.log_zpow (R := ℚ) (b := 2) (by decide) 14
  unfold lastBit
  omega

theorem nearestDouble_near_of_small (nonneg : 0 ≤ value) (small : value ≤ 2 ^ 14) :
    |nearestDouble value - value| ≤ 1 / 400 := by
  refine (nearestDouble_near value).trans ?_
  calc (2 : ℚ) ^ lastBit value / 2 ≤ 2 ^ (-38 : ℤ) / 2 := by
        gcongr
        · norm_num
        · exact lastBit_le nonneg small
    _ ≤ 1 / 400 := by norm_num

def mathRound (value : ℚ) : ℤ := ⌊value + 1 / 2⌋

theorem mathRound_percent {hundredths : ℕ} (small : hundredths ≤ 10000) :
    mathRound (nearestDouble (nearestDouble (hundredths / 100) * 100)) = hundredths := by
  have cast : (hundredths : ℚ) ≤ 10000 := by exact_mod_cast small
  have nonneg : (0 : ℚ) ≤ hundredths := Nat.cast_nonneg _
  have small : (hundredths : ℚ) / 100 ≤ 2 ^ 14 := by linarith
  obtain ⟨below, above⟩ := abs_le.mp (nearestDouble_near_of_small (by positivity) small)
  have productNonneg : 0 ≤ nearestDouble ((hundredths : ℚ) / 100) * 100 :=
    mul_nonneg (nearestDouble_nonneg (by positivity)) (by norm_num)
  have productSmall : nearestDouble ((hundredths : ℚ) / 100) * 100 ≤ 2 ^ 14 := by linarith
  obtain ⟨productBelow, productAbove⟩ :=
    abs_le.mp (nearestDouble_near_of_small productNonneg productSmall)
  rw [mathRound, Int.floor_eq_iff]
  push_cast
  constructor <;> linarith

/-! ### Half away from zero -/

def roundHalfAway (value : ℚ) : ℤ :=
  if value < 0 then -⌊-value + 1 / 2⌋ else ⌊value + 1 / 2⌋

theorem roundHalfAway_of_nonneg (nonneg : 0 ≤ value) :
    roundHalfAway value = ⌊value + 1 / 2⌋ :=
  if_neg (not_lt.mpr nonneg)

theorem roundHalfAway_neg (value : ℚ) : roundHalfAway (-value) = -roundHalfAway value := by
  rcases lt_trichotomy value 0 with negative | rfl | positive
  · rw [roundHalfAway_of_nonneg (by linarith), roundHalfAway, if_pos negative, neg_neg]
  · rw [neg_zero, roundHalfAway_of_nonneg (le_refl 0)]
    norm_num
  · rw [roundHalfAway, if_pos (by linarith), neg_neg, roundHalfAway_of_nonneg positive.le]

theorem roundHalfAway_near (value : ℚ) : |(roundHalfAway value : ℚ) - value| ≤ 1 / 2 := by
  have floor := fun other : ℚ => Int.floor_le (other + 1 / 2)
  have ceiling := fun other : ℚ => Int.lt_floor_add_one (other + 1 / 2)
  unfold roundHalfAway
  split
  · have below := floor (-value)
    have above := ceiling (-value)
    push_cast
    rw [abs_le]
    constructor <;> linarith
  · have below := floor value
    have above := ceiling value
    rw [abs_le]
    constructor <;> linarith

theorem roundHalfAway_of_near {whole : ℤ} (near : |value - whole| < 1 / 2) :
    roundHalfAway value = whole := by
  have rounded := roundHalfAway_near value
  rw [abs_le] at rounded
  rw [abs_lt] at near
  have below : (roundHalfAway value : ℚ) - whole < 1 := by linarith
  have above : (whole : ℚ) - roundHalfAway value < 1 := by linarith
  have below : roundHalfAway value - whole < 1 := by exact_mod_cast below
  have above : whole - roundHalfAway value < 1 := by exact_mod_cast above
  omega

theorem roundHalfAway_nearest (value : ℚ) (whole : ℤ) :
    |(roundHalfAway value : ℚ) - value| ≤ |(whole : ℚ) - value| := by
  rcases lt_or_ge |value - whole| (1 / 2) with near | far
  · rw [roundHalfAway_of_near near]
  · rw [abs_sub_comm (whole : ℚ)]
    exact (roundHalfAway_near value).trans far

theorem roundHalfAway_tie {whole : ℤ} (other : whole ≠ roundHalfAway value)
    (tie : |(whole : ℚ) - value| = |(roundHalfAway value : ℚ) - value|) :
    |whole| < |roundHalfAway value| := by
  have outward : ∀ {value : ℚ} {whole : ℤ}, 0 ≤ value → whole ≠ roundHalfAway value →
      |(whole : ℚ) - value| = |(roundHalfAway value : ℚ) - value| →
        |whole| < |roundHalfAway value| := by
    intro value whole nonneg other tie
    rw [roundHalfAway_of_nonneg nonneg] at other tie ⊢
    have below := Int.floor_le (value + 1 / 2)
    have above := Int.lt_floor_add_one (value + 1 / 2)
    have floorNonneg : 0 ≤ ⌊value + 1 / 2⌋ := Int.floor_nonneg.mpr (by linarith)
    generalize ⌊value + 1 / 2⌋ = floor at *
    rcases abs_eq_abs.mp tie with same | mirrored
    · exact absurd (by exact_mod_cast sub_left_inj.mp same) other
    · -- the other integer is the value mirrored at the rounded one, within one of it
      have low : (floor : ℚ) - 1 ≤ whole := by linarith
      have high : (whole : ℚ) < floor + 1 := by linarith
      have low : floor - 1 ≤ whole := by exact_mod_cast low
      have high : whole < floor + 1 := by exact_mod_cast high
      have previous : whole = floor - 1 := by omega
      have half : value = floor - 1 / 2 := by
        rw [previous] at mirrored
        push_cast at mirrored
        linarith
      have positive : 0 < floor := by
        have positive : (0 : ℚ) < floor := by linarith
        exact_mod_cast positive
      rw [previous, abs_of_nonneg (by omega), abs_of_pos positive]
      omega
  rcases le_or_gt 0 value with nonneg | negative
  · exact outward nonneg other tie
  · rw [← abs_neg whole, ← abs_neg (roundHalfAway value), ← roundHalfAway_neg]
    apply outward (by linarith)
    · rw [roundHalfAway_neg]
      exact fun same => other (neg_injective same)
    · rw [roundHalfAway_neg]
      push_cast
      rw [← neg_sub', ← neg_sub', abs_neg, abs_neg]
      exact tie

theorem roundHalfAway_intCast (whole : ℤ) : roundHalfAway whole = whole :=
  roundHalfAway_of_near (by norm_num)

/-- **A fraction is rounded up from half of the denominator on.** -/
theorem roundHalfAway_div (numerator : ℕ) {denominator : ℕ} (positive : 0 < denominator) :
    roundHalfAway ((numerator : ℚ) / denominator) =
      (if denominator ≤ numerator % denominator * 2 then numerator / denominator + 1
        else numerator / denominator : ℕ) := by
  have doubled : (numerator : ℚ) / denominator + 1 / 2 =
      ((2 * numerator + denominator : ℕ) : ℚ) / ((2 * denominator : ℕ) : ℚ) := by
    have nonzero : (denominator : ℚ) ≠ 0 := by exact_mod_cast positive.ne'
    push_cast
    field_simp
  rw [roundHalfAway_of_nonneg (by positivity), doubled, Rat.floor_natCast_div_natCast]
  norm_cast
  have division := Nat.div_add_mod numerator denominator
  have remainder := Nat.mod_lt numerator positive
  rw [Nat.div_eq_iff (by omega)]
  have product : ∀ quotient, quotient * (2 * denominator) = 2 * (denominator * quotient) :=
    fun quotient => by rw [mul_comm quotient, mul_assoc]
  split
  · rw [product, Nat.mul_add]
    omega
  · rw [product]
    omega

end Runtime
