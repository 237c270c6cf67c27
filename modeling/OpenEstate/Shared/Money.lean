/-
**Money.**

All amounts are integer paise, and rates are integer basis points. BigInt division truncates
towards zero, so the model divides with `Int.tdiv`.

* `roundedDiv`, `percentOf`: division and percentages, rounded half away from zero;
* `allocate`: distribution of a total over weights by the largest-remainder method. What the
  schedules rest on is `largestRemainder_sum` (the parts add up to exactly the
  total) and `largestRemainder_nonneg`;
* `gstComponents`: the three GST components of a taxable base.
-/

import Mathlib.Algebra.BigOperators.Ring.Finset
import Mathlib.Algebra.Order.BigOperators.Group.List
import Mathlib.Tactic.Linarith
import Mathlib.Tactic.Ring
import OpenEstate.Relational.Outcome
import OpenEstate.Shared.ServiceError

namespace OpenEstate

open Relational

/-! ### Rounded division -/

def roundedDivPositive (numerator denominator : Int) : Int :=
  if 0 ≤ numerator then (numerator + denominator.tdiv 2).tdiv denominator
  else -(-numerator + denominator.tdiv 2).tdiv denominator

def roundedDiv (numerator denominator : Int) : Int :=
  if denominator < 0 then roundedDivPositive (-numerator) (-denominator)
  else roundedDivPositive numerator denominator

def percentOf (paise basisPoints : Int) : Int :=
  roundedDiv (paise * basisPoints) 10000

variable {numerator denominator : Int}

theorem roundedDivPositive_nonneg (numeratorNonneg : 0 ≤ numerator)
    (denominatorNonneg : 0 ≤ denominator) : 0 ≤ roundedDivPositive numerator denominator := by
  rw [roundedDivPositive, if_pos numeratorNonneg]
  exact Int.tdiv_nonneg (add_nonneg numeratorNonneg (Int.tdiv_nonneg denominatorNonneg (by decide)))
    denominatorNonneg

theorem percentOf_nonneg {paise basisPoints : Int} (paiseNonneg : 0 ≤ paise)
    (rateNonneg : 0 ≤ basisPoints) : 0 ≤ percentOf paise basisPoints := by
  rw [percentOf, roundedDiv, if_neg (by decide)]
  exact roundedDivPositive_nonneg (mul_nonneg paiseNonneg rateNonneg) (by decide)

theorem percentOf_le {paise basisPoints : Int} (paiseNonneg : 0 ≤ paise)
    (rateNonneg : 0 ≤ basisPoints) (rateMax : basisPoints ≤ 10000) :
    percentOf paise basisPoints ≤ paise := by
  have product : paise * basisPoints ≤ paise * 10000 :=
    mul_le_mul_of_nonneg_left rateMax paiseNonneg
  have numerator : 0 ≤ paise * basisPoints := mul_nonneg paiseNonneg rateNonneg
  have below : paise * basisPoints + (10000 : Int).tdiv 2 < (paise + 1) * 10000 := by
    have half : (10000 : Int).tdiv 2 = 5000 := by decide
    omega
  rw [percentOf, roundedDiv, if_neg (by decide), roundedDivPositive, if_pos numerator,
    Int.tdiv_eq_ediv_of_nonneg (add_nonneg numerator (by decide))]
  exact Int.lt_add_one_iff.mp (Int.ediv_lt_of_lt_mul (by decide) below)

theorem roundedDiv_le_roundedDiv {larger : Int} (nonneg : 0 ≤ numerator) (le : numerator ≤ larger)
    (positive : 0 < denominator) :
    roundedDiv numerator denominator ≤ roundedDiv larger denominator := by
  have half : 0 ≤ denominator.tdiv 2 := Int.tdiv_nonneg positive.le (by decide)
  rw [roundedDiv, roundedDiv, if_neg (not_lt.mpr positive.le),
    if_neg (not_lt.mpr positive.le), roundedDivPositive, roundedDivPositive, if_pos nonneg,
    if_pos (nonneg.trans le), Int.tdiv_eq_ediv_of_nonneg (add_nonneg nonneg half),
    Int.tdiv_eq_ediv_of_nonneg (add_nonneg (nonneg.trans le) half)]
  apply Int.ediv_le_ediv
  · exact positive
  · exact Int.add_le_add_right le _

/-- **Rounded division is within half of the denominator.** -/
theorem roundedDiv_near (nonneg : 0 ≤ numerator) (positive : 0 < denominator) :
    -denominator ≤ 2 * (denominator * roundedDiv numerator denominator - numerator) ∧
      2 * (denominator * roundedDiv numerator denominator - numerator) ≤ denominator := by
  have half : denominator.tdiv 2 = denominator / 2 := Int.tdiv_eq_ediv_of_nonneg positive.le
  have sum : 0 ≤ numerator + denominator / 2 := by omega
  have division := Int.mul_ediv_add_emod (numerator + denominator / 2) denominator
  have remainderNonneg := Int.emod_nonneg (numerator + denominator / 2) positive.ne'
  have remainderLt := Int.emod_lt_of_pos (numerator + denominator / 2) positive
  rw [roundedDiv, if_neg (not_lt.mpr positive.le), roundedDivPositive, if_pos nonneg, half,
    Int.tdiv_eq_ediv_of_nonneg sum]
  constructor <;> omega

theorem two_mul_lt_of_roundedDiv_nonpos (nonneg : 0 ≤ numerator) (positive : 0 < denominator)
    (nothing : roundedDiv numerator denominator ≤ 0) :
    2 * numerator < denominator := by
  have half : denominator.tdiv 2 = denominator / 2 := Int.tdiv_eq_ediv_of_nonneg positive.le
  have sum : 0 ≤ numerator + denominator / 2 := by omega
  rw [roundedDiv, if_neg (not_lt.mpr positive.le), roundedDivPositive, if_pos nonneg, half,
    Int.tdiv_eq_ediv_of_nonneg sum] at nothing
  have below : (numerator + denominator / 2) / denominator < 1 := by omega
  have small := (Int.ediv_lt_iff_lt_mul positive).mp below
  omega

/-! ### Largest-remainder allocation -/

def floorShare (total weightSum : Int) (weight : Nat) : Int :=
  (total * weight).tdiv weightSum

def handOut : List Nat → Int → List Int → List Int
  | [], _, shares => shares
  | index :: rest, leftover, shares =>
    if 0 < leftover then handOut rest (leftover - 1) (shares.modify index (· + 1)) else shares

def remainderOrder (total weightSum : Int) (weights : List Nat) : List Nat :=
  ((weights.mapIdx fun index (weight : Nat) =>
      (index, (total * weight).tmod weightSum)).insertionSort
    fun first second => second.2 < first.2 ∨ (first.2 = second.2 ∧ first.1 ≤ second.1)).map Prod.fst

/-- `allocate` for a total that is not negative and weights with a positive sum. -/
def largestRemainder (total : Int) (weights : List Nat) : List Int :=
  let weightSum : Int := (weights.sum : Nat)
  let shares := weights.map (floorShare total weightSum)
  handOut (remainderOrder total weightSum weights) (total - shares.sum) shares

/-- Distribute `total` over buckets in proportion to `weights`. A negative total is distributed by
magnitude, with the signs flipped afterwards. -/
def allocate (total : Int) (weights : List Nat) : Except ServiceError (List Int) := do
  ensure (weights ≠ []) (.error "allocate: weights must be non-empty")
  ensure (0 < weights.sum) (.error "allocate: sum of weights must be positive")
  if total < 0 then return (largestRemainder (-total) weights).map (-·)
  return largestRemainder total weights

theorem length_handOut (order : List Nat) (leftover : Int) (shares : List Int) :
    (handOut order leftover shares).length = shares.length := by
  induction order generalizing leftover shares with
  | nil => rfl
  | cons index rest ih =>
    rw [handOut]
    split
    · rw [ih, List.length_modify]
    · rfl

variable {index : Nat}

theorem sum_modify_succ (shares : List Int) (inside : index < shares.length) :
    (shares.modify index (· + 1)).sum = shares.sum + 1 := by
  induction shares generalizing index with
  | nil => simp at inside
  | cons head tail ih =>
    cases index with
    | zero => simp [List.modify]; ring
    | succ index =>
      rw [List.modify_succ_cons, List.sum_cons, List.sum_cons, ih (by simpa using inside)]
      ring

theorem sum_handOut (order : List Nat) (leftover : Int) (shares : List Int)
    (inside : ∀ index ∈ order, index < shares.length) (nonneg : 0 ≤ leftover)
    (enough : leftover ≤ order.length) :
    (handOut order leftover shares).sum = shares.sum + leftover := by
  induction order generalizing leftover shares with
  | nil =>
    have : leftover = 0 := le_antisymm (by simpa using enough) nonneg
    simp [handOut, this]
  | cons index rest ih =>
    rw [handOut]
    split
    · rename_i positive
      have headInside := inside index List.mem_cons_self
      rw [ih _ _ (by simpa using fun other member => inside other (List.mem_cons_of_mem _ member))
        (by omega) (by simp at enough; omega), sum_modify_succ _ headInside]
      ring
    · rename_i exhausted
      have : leftover = 0 := le_antisymm (not_lt.mp exhausted) nonneg
      simp [this]

theorem handOut_nonneg (order : List Nat) (leftover : Int) (shares : List Int)
    (nonneg : ∀ share ∈ shares, 0 ≤ share) : ∀ share ∈ handOut order leftover shares, 0 ≤ share := by
  induction order generalizing leftover shares with
  | nil => exact nonneg
  | cons index rest ih =>
    rw [handOut]
    split
    · refine ih _ _ fun share member => ?_
      obtain ⟨position, inside, rfl⟩ := List.getElem_of_mem member
      rw [List.length_modify] at inside
      have old := nonneg _ (List.getElem_mem inside)
      rw [List.getElem_modify]
      split <;> omega
    · exact nonneg

theorem length_remainderOrder (total weightSum : Int) (weights : List Nat) :
    (remainderOrder total weightSum weights).length = weights.length := by
  simp [remainderOrder, List.length_insertionSort]

variable {total : Int} {weights : List Nat}

theorem mem_remainderOrder {weightSum : Int}
    (member : index ∈ remainderOrder total weightSum weights) : index < weights.length := by
  obtain ⟨⟨position, remainder⟩, sorted, rfl⟩ := List.mem_map.mp member
  rw [List.mem_insertionSort, List.mem_mapIdx] at sorted
  obtain ⟨index, inside, same⟩ := sorted
  exact (Prod.mk.inj same).1 ▸ inside

theorem leftover_bounds {weightSum : Int} (totalNonneg : 0 ≤ total) (positive : 0 < weightSum)
    (weights : List Nat) :
    weightSum * (weights.map (floorShare total weightSum)).sum ≤ total * (weights.sum : Nat) ∧
      total * (weights.sum : Nat) ≤
        weightSum * ((weights.map (floorShare total weightSum)).sum + weights.length) := by
  induction weights with
  | nil => simp
  | cons weight rest ih =>
    obtain ⟨lower, upper⟩ := ih
    have numerator : 0 ≤ total * (weight : Int) := mul_nonneg totalNonneg (Int.natCast_nonneg _)
    have division := Int.mul_tdiv_add_tmod (total * weight) weightSum
    have remainderNonneg := Int.tmod_nonneg weightSum numerator
    have remainderLt := Int.tmod_lt_of_pos (total * weight) positive
    simp only [List.map_cons, List.sum_cons, List.length_cons, floorShare, Nat.cast_add,
      Nat.cast_one] at lower upper ⊢
    constructor <;> nlinarith

/-- **The parts add up to exactly the total.** -/
theorem largestRemainder_sum (totalNonneg : 0 ≤ total)
    (positive : 0 < weights.sum) : (largestRemainder total weights).sum = total := by
  have castPositive : (0 : Int) < (weights.sum : Nat) := by exact_mod_cast positive
  obtain ⟨lower, upper⟩ := leftover_bounds totalNonneg castPositive weights
  rw [largestRemainder, sum_handOut]
  · ring
  · intro index member
    rw [List.length_map]
    exact mem_remainderOrder member
  · nlinarith
  · rw [length_remainderOrder]
    nlinarith

theorem largestRemainder_nonneg (totalNonneg : 0 ≤ total) (weights : List Nat) :
    ∀ share ∈ largestRemainder total weights, 0 ≤ share := by
  refine handOut_nonneg _ _ _ fun share member => ?_
  obtain ⟨weight, _, rfl⟩ := List.mem_map.mp member
  exact Int.tdiv_nonneg (mul_nonneg totalNonneg (Int.natCast_nonneg _)) (Int.natCast_nonneg _)

theorem length_largestRemainder (total : Int) (weights : List Nat) :
    (largestRemainder total weights).length = weights.length := by
  rw [largestRemainder, length_handOut, List.length_map]

theorem getElem?_handOut_le {order : List Nat} (distinct : order.Nodup) (leftover : Int)
    {shares : List Int} {share : Int}
    (handed : (handOut order leftover shares)[index]? = some share) :
    ∃ floor, shares[index]? = some floor ∧ share ≤ floor + if index ∈ order then 1 else 0 := by
  induction order generalizing leftover shares with
  | nil => exact ⟨share, handed, by simp⟩
  | cons first rest ih =>
    obtain ⟨fresh, later⟩ := List.nodup_cons.mp distinct
    rw [handOut] at handed
    split at handed
    · obtain ⟨floor, found, within⟩ := ih later _ handed
      rw [List.getElem?_modify, Option.map_eq_map, Option.map_eq_some_iff] at found
      obtain ⟨old, there, rfl⟩ := found
      refine ⟨old, there, within.trans ?_⟩
      by_cases mine : first = index
      · subst mine
        rw [if_pos rfl, if_neg fresh, if_pos List.mem_cons_self]
        omega
      · have same : index ∈ first :: rest ↔ index ∈ rest := by
          rw [List.mem_cons, or_iff_right (Ne.symm mine)]
        rw [if_neg mine]
        simp only [same, le_refl]
    · refine ⟨share, handed, ?_⟩
      split <;> omega

theorem nodup_remainderOrder (total weightSum : Int) (weights : List Nat) :
    (remainderOrder total weightSum weights).Nodup := by
  have same : (remainderOrder total weightSum weights).Perm (List.range weights.length) := by
    refine ((List.perm_insertionSort _ _).map Prod.fst).trans (.of_eq ?_)
    refine List.ext_getElem (by simp) fun index _ _ => ?_
    simp
  exact same.nodup_iff.mpr List.nodup_range

theorem handOut_zero (order : List Nat) (shares : List Int) : handOut order 0 shares = shares := by
  cases order with
  | nil => rfl
  | cons first rest => rw [handOut, if_neg (lt_irrefl 0)]

/-- **No share exceeds its weight** when the total does not exceed the sum of positive weights. -/
theorem largestRemainder_le (totalNonneg : 0 ≤ total) (within : total ≤ (weights.sum : Nat))
    (positive : ∀ weight ∈ weights, 0 < weight) {share : Int} {weight : Nat}
    (handed : (largestRemainder total weights)[index]? = some share)
    (listed : weights[index]? = some weight) : share ≤ weight := by
  have weightPos : (0 : Int) < weight :=
    Int.natCast_pos.mpr (positive weight (List.mem_of_getElem? listed))
  have sumPos : (0 : Int) < (weights.sum : Nat) := by
    have least := List.single_le_sum (fun _ _ => Nat.zero_le _) weight (List.mem_of_getElem? listed)
    omega
  have floorOf : ∀ floor, (weights.map (floorShare total (weights.sum : Nat)))[index]? = some floor →
      floor = floorShare total (weights.sum : Nat) weight := by
    intro floor found
    rw [List.getElem?_map, listed, Option.map_some, Option.some.injEq] at found
    exact found.symm
  obtain ⟨floor, found, bound⟩ := getElem?_handOut_le (nodup_remainderOrder _ _ _) _ handed
  rcases within.lt_or_eq with less | all
  · -- a floor share is below its weight
    have below : floorShare total (weights.sum : Nat) weight < weight := by
      rw [floorShare, Int.tdiv_eq_ediv_of_nonneg (mul_nonneg totalNonneg weightPos.le)]
      refine Int.ediv_lt_of_lt_mul sumPos ?_
      rw [mul_comm (weight : Int)]
      exact mul_lt_mul_of_pos_right less weightPos
    rw [floorOf floor found] at bound
    split at bound <;> omega
  · -- a share of everything is its weight, and nothing is left over
    have shares : weights.map (floorShare total (weights.sum : Nat)) =
        weights.map fun other : Nat => (other : Int) := by
      refine List.map_congr_left fun other _ => ?_
      rw [floorShare, all]
      exact Int.mul_tdiv_cancel_left _ sumPos.ne'
    have leftover : total - (weights.map fun other : Nat => (other : Int)).sum = 0 := by
      rw [all, Nat.cast_list_sum, sub_self]
    rw [largestRemainder, shares, leftover, handOut_zero, List.getElem?_map, listed,
      Option.map_some, Option.some.injEq] at handed
    exact handed.symm.le

theorem allocate_eq_ok {shares : List Int} (totalNonneg : 0 ≤ total)
    (accepted : allocate total weights = .ok shares) :
    0 < weights.sum ∧ shares = largestRemainder total weights := by
  simp only [allocate, bind_eq_ok, ensure_eq_ok, if_neg (not_lt.mpr totalNonneg), pure_eq_ok]
    at accepted
  obtain ⟨_, _, _, positive, rfl⟩ := accepted
  exact ⟨positive, rfl⟩

/-! ### GST components -/

structure GstComponents where
  cgstPaise : Int
  sgstPaise : Int
  igstPaise : Int

/-- All three components of a taxable base. The halved rate is converted to a BigInt before the
kind of supply is looked at, and a fractional number has no such conversion. -/
def gstComponents (basePaise : Int) (rateBasisPoints : Nat) (intraState : Bool) :
    Except ServiceError GstComponents := do
  ensure (rateBasisPoints % 2 = 0)
    (.error "The number cannot be converted to a BigInt because it is not an integer")
  let half := percentOf basePaise (rateBasisPoints / 2 : Nat)
  let full := percentOf basePaise rateBasisPoints
  if intraState then return { cgstPaise := half, sgstPaise := half, igstPaise := 0 }
  return { cgstPaise := 0, sgstPaise := 0, igstPaise := full }

theorem gstComponents_nonneg {basePaise : Int} {rateBasisPoints : Nat} {intraState : Bool}
    {components : GstComponents} (baseNonneg : 0 ≤ basePaise)
    (accepted : gstComponents basePaise rateBasisPoints intraState = .ok components) :
    0 ≤ components.cgstPaise ∧ 0 ≤ components.sgstPaise ∧ 0 ≤ components.igstPaise := by
  have half := percentOf_nonneg baseNonneg (Int.natCast_nonneg (rateBasisPoints / 2))
  have full := percentOf_nonneg baseNonneg (Int.natCast_nonneg rateBasisPoints)
  simp only [gstComponents, bind_eq_ok, ensure_eq_ok] at accepted
  obtain ⟨_, _, answered⟩ := accepted
  split at answered
  · rw [pure_eq_ok] at answered
    subst answered
    exact ⟨half, half, le_refl 0⟩
  · rw [pure_eq_ok] at answered
    subst answered
    exact ⟨le_refl 0, le_refl 0, full⟩

theorem gstComponents_zero {rateBasisPoints : Nat} {intraState : Bool} {components : GstComponents}
    (accepted : gstComponents 0 rateBasisPoints intraState = .ok components) :
    components.cgstPaise = 0 ∧ components.sgstPaise = 0 ∧ components.igstPaise = 0 := by
  have nothing : ∀ rate : Int, percentOf 0 rate = 0 := by
    intro rate
    rw [percentOf, zero_mul]
    rfl
  simp only [gstComponents, bind_eq_ok, ensure_eq_ok, nothing] at accepted
  obtain ⟨_, _, answered⟩ := accepted
  split at answered
  · rw [pure_eq_ok] at answered
    subst answered
    exact ⟨rfl, rfl, rfl⟩
  · rw [pure_eq_ok] at answered
    subst answered
    exact ⟨rfl, rfl, rfl⟩

end OpenEstate
