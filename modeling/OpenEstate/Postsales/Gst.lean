/-
**GST of a cost line.**

The rate master stores a percentage of two decimals. It is read as a number of the runtime, taken to
basis points, and halved for the two parts of an intra-state supply.

* `GstUtil.computeCostLineGst` is the computation with all that it answers;
* `percentToBasisPoints_ratePercent`: the way through doubles loses nothing;
* `gstBalanced_iff`: the computation answers, and its parts balance, exactly for the rates of an even
  number of basis points. Half of an odd number is no integer, and that is the end of it.
-/

import OpenEstate.Postsales.Booking
import OpenEstate.Runtime.Double

namespace OpenEstate

open Relational
open Runtime (nearestDouble mathRound)

/-- A rate of the master: hundredths of a percent, at most one hundred percent. -/
structure GstRatePercent where
  hundredths : Nat
  max : hundredths ≤ 10000

def GstRatePercent.ratePercent (rate : GstRatePercent) : ℚ :=
  nearestDouble ((rate.hundredths : ℚ) / 100)

def gstTotal (components : GstComponents) : Int :=
  components.cgstPaise + components.sgstPaise + components.igstPaise

namespace GstUtil

/-- The basis points of a percentage. The product with a hundred is a double again. -/
def percentToBasisPoints (ratePercent : ℚ) : Nat :=
  (mathRound (nearestDouble (ratePercent * 100))).toNat

structure CostLineGst extends GstComponents where
  rateBasisPoints : Nat
  taxTotalPaise : Int
  lineTotalPaise : Int

def computeCostLineGst (basePaise : Int) (ratePercent : ℚ) (intraState : Bool) :
    Except ServiceError CostLineGst := do
  let rateBasisPoints := percentToBasisPoints ratePercent
  let components ← gstComponents basePaise rateBasisPoints intraState
  let taxTotalPaise := components.cgstPaise + components.sgstPaise + components.igstPaise
  return { components with
    rateBasisPoints
    taxTotalPaise
    lineTotalPaise := basePaise + taxTotalPaise }

theorem percentToBasisPoints_ratePercent (rate : GstRatePercent) :
    percentToBasisPoints rate.ratePercent = rate.hundredths := by
  rw [percentToBasisPoints, GstRatePercent.ratePercent, Runtime.mathRound_percent rate.max,
    Int.toNat_natCast]

theorem computeCostLineGst_eq_map (basePaise : Int) (ratePercent : ℚ) (intraState : Bool) :
    OpenEstate.computeCostLineGst basePaise (percentToBasisPoints ratePercent) intraState =
      (computeCostLineGst basePaise ratePercent intraState).map (·.lineTotalPaise) := by
  unfold OpenEstate.computeCostLineGst computeCostLineGst
  dsimp only
  cases gstComponents basePaise (percentToBasisPoints ratePercent) intraState with
  | error _ => rfl
  | ok _ => rfl

/-! ### Balance -/

/-- The GST of a base at a rate is balanced: both supplies are answered, the two parts of an
intra-state supply are equal and come within a paisa of the one of an inter-state supply, and the
line totals are the base and the tax. -/
def Balanced (basePaise : Int) (ratePercent : ℚ) : Prop :=
  ∃ intra inter, computeCostLineGst basePaise ratePercent true = .ok intra ∧
    computeCostLineGst basePaise ratePercent false = .ok inter ∧
    intra.cgstPaise = intra.sgstPaise ∧
    |inter.igstPaise - (intra.cgstPaise + intra.sgstPaise)| ≤ 1 ∧
    intra.lineTotalPaise = basePaise + gstTotal intra.toGstComponents ∧
    inter.lineTotalPaise = basePaise + gstTotal inter.toGstComponents

theorem percentOf_eq_ediv {paise basisPoints : Int} (paiseNonneg : 0 ≤ paise)
    (rateNonneg : 0 ≤ basisPoints) :
    percentOf paise basisPoints = (paise * basisPoints + 5000) / 10000 := by
  have numerator : 0 ≤ paise * basisPoints := mul_nonneg paiseNonneg rateNonneg
  rw [percentOf, roundedDiv, if_neg (by decide), roundedDivPositive, if_pos numerator]
  exact Int.tdiv_eq_ediv_of_nonneg (add_nonneg numerator (by decide))

/-- **Two halves are within a paisa of the whole.** -/
theorem percentOf_halves {paise half : Int} (paiseNonneg : 0 ≤ paise) (halfNonneg : 0 ≤ half) :
    |percentOf paise (2 * half) - (percentOf paise half + percentOf paise half)| ≤ 1 := by
  have double : paise * (2 * half) = 2 * (paise * half) := by ring
  rw [percentOf_eq_ediv paiseNonneg halfNonneg, percentOf_eq_ediv paiseNonneg (by omega), double,
    abs_le]
  constructor <;> omega

theorem gstComponents_of_even (basePaise : Int) {rateBasisPoints : Nat} (intraState : Bool)
    (even : rateBasisPoints % 2 = 0) :
    gstComponents basePaise rateBasisPoints intraState = .ok
      (if intraState = true then
        ⟨percentOf basePaise (rateBasisPoints / 2 : Nat),
          percentOf basePaise (rateBasisPoints / 2 : Nat), 0⟩
      else ⟨0, 0, percentOf basePaise rateBasisPoints⟩) := by
  rw [gstComponents, ensure_bind even]
  cases intraState with
  | false => rfl
  | true => rfl

theorem computeCostLineGst_isOk_iff (basePaise : Int) (rate : GstRatePercent) (intraState : Bool) :
    (∃ answer, computeCostLineGst basePaise rate.ratePercent intraState = .ok answer) ↔
      rate.hundredths % 2 = 0 := by
  unfold computeCostLineGst
  dsimp only
  rw [percentToBasisPoints_ratePercent]
  constructor
  · rintro ⟨answer, answered⟩
    by_contra odd
    rw [gstComponents, ensure_bind_of_not odd] at answered
    cases answered
  · intro even
    rw [gstComponents_of_even basePaise intraState even]
    exact ⟨_, rfl⟩

/-- **The GST of a line is balanced exactly at the rates of an even number of basis points.** -/
theorem gstBalanced_iff {basePaise : Int} (baseNonneg : 0 ≤ basePaise) (rate : GstRatePercent) :
    Balanced basePaise rate.ratePercent ↔ rate.hundredths % 2 = 0 := by
  constructor
  · rintro ⟨intra, _, answered, _⟩
    exact (computeCostLineGst_isOk_iff basePaise rate true).mp ⟨intra, answered⟩
  · intro even
    have whole : ((rate.hundredths : Nat) : Int) = 2 * (rate.hundredths / 2 : Nat) := by omega
    have halves := percentOf_halves baseNonneg (Int.natCast_nonneg (rate.hundredths / 2))
    rw [← whole] at halves
    unfold Balanced computeCostLineGst
    dsimp only
    rw [percentToBasisPoints_ratePercent, gstComponents_of_even basePaise true even,
      gstComponents_of_even basePaise false even]
    exact ⟨_, _, rfl, rfl, rfl, halves, rfl, rfl⟩

/-- A base of a hundred rupees at eighteen percent. -/
theorem gstBalanced_iff_eighteen :
    Balanced 10000 (GstRatePercent.mk 1800 (by decide)).ratePercent ↔ 1800 % 2 = 0 :=
  gstBalanced_iff (by decide) (GstRatePercent.mk 1800 (by decide))

/-- The rate of rough stones is a quarter of a percent, and cannot be computed. -/
theorem not_gstBalanced_quarter :
    ¬ Balanced 10000 (GstRatePercent.mk 25 (by decide)).ratePercent := by
  rintro ⟨intra, _, answered, _⟩
  exact absurd ((computeCostLineGst_isOk_iff 10000 ⟨25, by decide⟩ true).mp ⟨intra, answered⟩)
    (by decide)

end GstUtil

end OpenEstate
