/-
**Fair apportionment.**

`allocate` gives every bucket the floor of its exact share, and hands the paise that are left over to
the buckets with the largest remainders, the first of those that are equal. What comes of it is fair
for totals of either sign.

* `FairApportionment` says what fair is: the parts add up to the total, each is less than a paisa
  from its exact share, and the parts are ordered as the weights are;
* `getElem?_handOut`: who is handed a paisa; `isHanded_of_before`: nobody is passed over;
* `allocate_fair`: every total is apportioned fairly.
-/

import OpenEstate.Shared.Money

namespace OpenEstate

open Relational

/-! ### What is fair -/

structure FairApportionment (total : Int) (weights : List Nat) (parts : List Int) : Prop where
  length_eq : parts.length = weights.length
  sum_eq : parts.sum = total
  near : ∀ (index weight : Nat) (part : Int), weights[index]? = some weight →
    parts[index]? = some part → |(part : ℚ) - total * weight / (weights.sum : Nat)| < 1
  nothing_of_zero : ∀ (index : Nat) (part : Int), weights[index]? = some 0 → parts[index]? = some part →
    part = 0
  larger : ∀ (index other weight less : Nat) (part lesser : Int),
    weights[index]? = some weight → weights[other]? = some less → less < weight →
    parts[index]? = some part → parts[other]? = some lesser → |lesser| ≤ |part|
  earlier : ∀ (index later weight : Nat) (part next : Int), index < later →
    weights[index]? = some weight → weights[later]? = some weight →
    parts[index]? = some part → parts[later]? = some next → |next| ≤ |part|

theorem FairApportionment.neg {total : Int} {weights : List Nat} {parts : List Int}
    (fair : FairApportionment total weights parts) :
    FairApportionment (-total) weights (parts.map (-·)) := by
  have flipped : ∀ {index : Nat} {part : Int}, (parts.map (-·))[index]? = some part →
      parts[index]? = some (-part) := by
    intro index part found
    rw [List.getElem?_map, Option.map_eq_some_iff] at found
    obtain ⟨old, there, rfl⟩ := found
    rw [neg_neg, there]
  refine ⟨?_, ?_, ?_, ?_, ?_, ?_⟩
  · rw [List.length_map, fair.length_eq]
  · rw [← fair.sum_eq]
    exact (List.sum_neg parts).symm
  · intro index weight part listed found
    have near := fair.near index weight (-part) listed (flipped found)
    rw [← abs_neg] at near
    push_cast at near ⊢
    convert near using 2
    ring
  · intro index part listed found
    have nothing := fair.nothing_of_zero index (-part) listed (flipped found)
    exact neg_eq_zero.mp nothing
  · intro index other weight less part lesser listed also smaller found there
    have bound := fair.larger index other weight less _ _ listed also smaller (flipped found)
      (flipped there)
    rwa [abs_neg, abs_neg] at bound
  · intro index later weight part next before listed also found there
    have bound := fair.earlier index later weight _ _ before listed also (flipped found)
      (flipped there)
    rwa [abs_neg, abs_neg] at bound

/-! ### Who is handed a paisa -/

theorem getElem?_handOut {order : List Nat} (distinct : order.Nodup) (leftover : Int)
    (shares : List Int) (index : Nat) :
    (handOut order leftover shares)[index]? =
      shares[index]?.map (· + if index ∈ order.take leftover.toNat then 1 else 0) := by
  induction order generalizing leftover shares with
  | nil => simp [handOut]
  | cons first rest ih =>
    obtain ⟨fresh, later⟩ := List.nodup_cons.mp distinct
    rw [handOut]
    split
    · rename_i positive
      have successor : leftover.toNat = (leftover - 1).toNat + 1 := by omega
      rw [ih later, successor, List.take_succ_cons, List.getElem?_modify]
      by_cases mine : first = index
      · subst mine
        have notAgain : first ∉ rest.take (leftover - 1).toNat :=
          fun again => fresh (List.mem_of_mem_take again)
        rw [if_neg notAgain, if_pos List.mem_cons_self]
        cases shares[first]? with
        | none => rfl
        | some share => simp
      · have same : index ∈ first :: rest.take (leftover - 1).toNat ↔
            index ∈ rest.take (leftover - 1).toNat := by
          rw [List.mem_cons, or_iff_right (Ne.symm mine)]
        simp only [same, if_neg mine]
        cases shares[index]? with
        | none => rfl
        | some share => simp
    · rename_i exhausted
      have none : leftover.toNat = 0 := by omega
      rw [none]
      cases shares[index]? with
      | none => rfl
      | some share => simp

theorem mem_take_of_sorted {α : Type} {before : α → α → Prop} {order : List α} {count : Nat}
    {first second : α} (sorted : order.Pairwise before) (listed : first ∈ order)
    (notAfter : ¬ before second first) (taken : second ∈ order.take count) :
    first ∈ order.take count := by
  rw [← List.take_append_drop count order] at listed sorted
  rcases List.mem_append.mp listed with inside | dropped
  · exact inside
  · exact absurd ((List.pairwise_append.mp sorted).2.2 second taken first dropped) notAfter

/-! ### Remainders -/

def shareRemainder (total weightSum : Int) (weight : Nat) : Int := (total * weight).tmod weightSum

/-- A bucket with its remainder comes before another one: its remainder is larger, or the same and
its index is no larger. -/
def HandedBefore (first second : Nat × Int) : Prop :=
  second.2 < first.2 ∨ (first.2 = second.2 ∧ first.1 ≤ second.1)

instance : DecidableRel HandedBefore := fun first second =>
  inferInstanceAs (Decidable (second.2 < first.2 ∨ (first.2 = second.2 ∧ first.1 ≤ second.1)))

instance : Std.Total HandedBefore where
  total first second := by
    unfold HandedBefore
    omega

instance : IsTrans (Nat × Int) HandedBefore where
  trans first second third := by
    unfold HandedBefore
    omega

def sortedRemainders (total weightSum : Int) (weights : List Nat) : List (Nat × Int) :=
  (weights.mapIdx fun index weight => (index, shareRemainder total weightSum weight)).insertionSort
    HandedBefore

theorem remainderOrder_eq (total weightSum : Int) (weights : List Nat) :
    remainderOrder total weightSum weights =
      (sortedRemainders total weightSum weights).map Prod.fst := rfl

theorem mem_sortedRemainders {total weightSum : Int} {weights : List Nat} {pair : Nat × Int} :
    pair ∈ sortedRemainders total weightSum weights ↔
      ∃ weight, weights[pair.1]? = some weight ∧
        pair.2 = shareRemainder total weightSum weight := by
  rw [sortedRemainders, List.mem_insertionSort, List.mem_mapIdx]
  constructor
  · rintro ⟨index, inside, rfl⟩
    exact ⟨_, List.getElem?_eq_getElem inside, rfl⟩
  · rintro ⟨weight, listed, remainder⟩
    obtain ⟨inside, rfl⟩ := List.getElem?_eq_some_iff.mp listed
    exact ⟨pair.1, inside, Prod.ext rfl remainder.symm⟩

theorem sum_shareRemainder (total weightSum : Int) (weights : List Nat) :
    (weights.map (shareRemainder total weightSum)).sum =
      total * (weights.sum : Nat) - weightSum * (weights.map (floorShare total weightSum)).sum := by
  induction weights with
  | nil => simp
  | cons weight rest ih =>
    have division := Int.mul_tdiv_add_tmod (total * weight) weightSum
    rw [List.map_cons, List.sum_cons, ih, List.map_cons, List.sum_cons, List.sum_cons,
      shareRemainder, floorShare]
    push_cast
    linarith

def leftoverPaise (total : Int) (weights : List Nat) : Int :=
  total - (weights.map (floorShare total (weights.sum : Nat))).sum

def IsHanded (total : Int) (weights : List Nat) (index : Nat) : Prop :=
  index ∈ (remainderOrder total (weights.sum : Nat) weights).take
    (leftoverPaise total weights).toNat

instance (total : Int) (weights : List Nat) : DecidablePred (IsHanded total weights) :=
  fun _ => inferInstanceAs (Decidable (_ ∈ List.take _ _))

theorem getElem?_largestRemainder {total : Int} {weights : List Nat} {index weight : Nat}
    {part : Int} (listed : weights[index]? = some weight)
    (found : (largestRemainder total weights)[index]? = some part) :
    part = floorShare total (weights.sum : Nat) weight +
      if IsHanded total weights index then 1 else 0 := by
  rw [largestRemainder, getElem?_handOut (nodup_remainderOrder _ _ _), List.getElem?_map, listed,
    Option.map_some, Option.map_some, Option.some.injEq] at found
  exact found.symm

theorem isHanded_of_before {total : Int} {weights : List Nat} {index weight other less : Nat}
    (listed : weights[index]? = some weight) (also : weights[other]? = some less)
    (notAfter : ¬ HandedBefore (other, shareRemainder total (weights.sum : Nat) less)
      (index, shareRemainder total (weights.sum : Nat) weight))
    (handed : IsHanded total weights other) : IsHanded total weights index := by
  rw [IsHanded, remainderOrder_eq, ← List.map_take] at handed ⊢
  obtain ⟨pair, taken, rfl⟩ := List.mem_map.mp handed
  obtain ⟨same, found, remainder⟩ := mem_sortedRemainders.mp (List.mem_of_mem_take taken)
  rw [found, Option.some.injEq] at also
  subst also
  refine List.mem_map.mpr ⟨(index, shareRemainder total (weights.sum : Nat) weight), ?_, rfl⟩
  refine mem_take_of_sorted (List.pairwise_insertionSort HandedBefore _) ?_ ?_ taken
  · exact mem_sortedRemainders.mpr ⟨weight, listed, rfl⟩
  · rw [← remainder] at notAfter
    exact notAfter

section Positive

variable {total : Int} {weights : List Nat} (totalNonneg : 0 ≤ total) (positive : 0 < weights.sum)

include totalNonneg in
theorem shareRemainder_nonneg (weightSum : Int) (weight : Nat) :
    0 ≤ shareRemainder total weightSum weight :=
  Int.tmod_nonneg _ (mul_nonneg totalNonneg (Int.natCast_nonneg weight))

include positive in
theorem shareRemainder_lt (weight : Nat) :
    shareRemainder total (weights.sum : Nat) weight < (weights.sum : Nat) :=
  Int.tmod_lt_of_pos _ (by exact_mod_cast positive)

theorem sum_sortedRemainders (total : Int) (weights : List Nat) :
    ((sortedRemainders total (weights.sum : Nat) weights).map Prod.snd).sum =
      (weights.sum : Nat) * leftoverPaise total weights := by
  have same : ((sortedRemainders total (weights.sum : Nat) weights).map Prod.snd).Perm
      (weights.map (shareRemainder total (weights.sum : Nat))) := by
    refine ((List.perm_insertionSort _ _).map Prod.snd).trans (.of_eq ?_)
    refine List.ext_getElem (by simp) fun index _ _ => ?_
    simp
  rw [same.sum_eq, sum_shareRemainder, leftoverPaise]
  ring

include totalNonneg in
theorem sum_dropped_eq_zero {count : Nat} {pair : Nat × Int}
    (taken : pair ∈ (sortedRemainders total (weights.sum : Nat) weights).take count)
    (zero : pair.2 = 0) :
    (((sortedRemainders total (weights.sum : Nat) weights).drop count).map Prod.snd).sum = 0 := by
  refine List.sum_eq_zero fun remainder member => ?_
  obtain ⟨other, outside, rfl⟩ := List.mem_map.mp member
  have ordered : ((sortedRemainders total (weights.sum : Nat) weights).take count ++
      (sortedRemainders total (weights.sum : Nat) weights).drop count).Pairwise HandedBefore := by
    rw [List.take_append_drop]
    exact List.pairwise_insertionSort HandedBefore _
  have before := (List.pairwise_append.mp ordered).2.2 pair taken other outside
  obtain ⟨otherWeight, _, remainder⟩ := mem_sortedRemainders.mp (List.mem_of_mem_drop outside)
  have nonneg := shareRemainder_nonneg totalNonneg (weights.sum : Nat) otherWeight
  unfold HandedBefore at before
  omega

include positive in
theorem sum_taken_le (count : Nat) :
    (((sortedRemainders total (weights.sum : Nat) weights).take count).map Prod.snd).sum ≤
      count * (((weights.sum : Nat) : Int) - 1) := by
  have less : (((sortedRemainders total (weights.sum : Nat) weights).take count).map Prod.snd).sum ≤
      (((sortedRemainders total (weights.sum : Nat) weights).take count).map Prod.snd).length •
        (((weights.sum : Nat) : Int) - 1) := by
    refine List.sum_le_card_nsmul _ _ fun remainder member => ?_
    obtain ⟨other, inside, rfl⟩ := List.mem_map.mp member
    obtain ⟨otherWeight, _, same⟩ := mem_sortedRemainders.mp (List.mem_of_mem_take inside)
    have below : shareRemainder total (weights.sum : Nat) otherWeight < (weights.sum : Nat) :=
      shareRemainder_lt positive otherWeight
    omega
  have atMost : (((sortedRemainders total (weights.sum : Nat) weights).take count).map
      Prod.snd).length ≤ count := by
    rw [List.length_map]
    exact List.length_take_le _ _
  have castPositive : (1 : Int) ≤ (weights.sum : Nat) := by exact_mod_cast positive
  refine less.trans ?_
  rw [nsmul_eq_mul]
  exact mul_le_mul_of_nonneg_right (by exact_mod_cast atMost) (by omega)

include totalNonneg positive in
/-- **Nobody is handed a paisa for nothing**: who is handed one has a remainder. -/
theorem shareRemainder_pos {index weight : Nat} (listed : weights[index]? = some weight)
    (handed : IsHanded total weights index) :
    0 < shareRemainder total (weights.sum : Nat) weight := by
  by_contra notPos
  have nothing : shareRemainder total (weights.sum : Nat) weight = 0 :=
    le_antisymm (not_lt.mp notPos) (shareRemainder_nonneg totalNonneg _ weight)
  let sorted := sortedRemainders total (weights.sum : Nat) weights
  let count := (leftoverPaise total weights).toNat
  obtain ⟨pair, taken, here⟩ : ∃ pair ∈ sorted.take count, pair.1 = index := by
    rw [IsHanded, remainderOrder_eq, ← List.map_take] at handed
    exact List.mem_map.mp handed
  have zero : pair.2 = 0 := by
    obtain ⟨same, found, remainder⟩ := mem_sortedRemainders.mp (List.mem_of_mem_take taken)
    rw [here, listed, Option.some.injEq] at found
    rw [remainder, ← found, nothing]
  -- all that is left comes from those that are handed a paisa, which have too little for it
  have split : (sorted.map Prod.snd).sum =
      ((sorted.take count).map Prod.snd).sum + ((sorted.drop count).map Prod.snd).sum := by
    rw [← List.sum_append, ← List.map_append, List.take_append_drop]
  have dropped := sum_dropped_eq_zero totalNonneg taken zero
  have less : ((sorted.take count).map Prod.snd).sum ≤ count * (((weights.sum : Nat) : Int) - 1) :=
    sum_taken_le positive count
  have all : (sorted.map Prod.snd).sum = ((weights.sum : Nat) : Int) * leftoverPaise total weights :=
    sum_sortedRemainders total weights
  have atLeastOne : 0 < count := by
    have inside := List.length_pos_of_mem taken
    rw [List.length_take] at inside
    omega
  have countEq : (count : Int) = leftoverPaise total weights := by omega
  rw [split, dropped, add_zero, ← countEq] at all
  rw [all, mul_sub, mul_comm, mul_one] at less
  omega

/-! ### Fairness -/

theorem floorShare_add_shareRemainder (total weightSum : Int) (weight : Nat) :
    weightSum * floorShare total weightSum weight + shareRemainder total weightSum weight =
      total * weight :=
  Int.mul_tdiv_add_tmod _ _

include totalNonneg in
theorem floorShare_mono {weightSum : Int} (sumPositive : 0 < weightSum) {less weight : Nat}
    (le : less ≤ weight) :
    floorShare total weightSum less ≤ floorShare total weightSum weight := by
  rw [floorShare, floorShare, Int.tdiv_eq_ediv_of_nonneg (by positivity),
    Int.tdiv_eq_ediv_of_nonneg (by positivity)]
  exact Int.ediv_le_ediv sumPositive (mul_le_mul_of_nonneg_left (by exact_mod_cast le) totalNonneg)

include totalNonneg positive in
theorem largestRemainder_near {index weight : Nat} {part : Int}
    (listed : weights[index]? = some weight)
    (found : (largestRemainder total weights)[index]? = some part) :
    (weights.sum : Nat) * part < total * weight + (weights.sum : Nat) ∧
      total * weight < (weights.sum : Nat) * part + (weights.sum : Nat) := by
  have made := floorShare_add_shareRemainder total (weights.sum : Nat) weight
  have nonneg := shareRemainder_nonneg totalNonneg (weights.sum : Nat) weight
  have below : shareRemainder total (weights.sum : Nat) weight < (weights.sum : Nat) :=
    shareRemainder_lt positive weight
  rw [getElem?_largestRemainder listed found, mul_add]
  split
  · rename_i handed
    have left := shareRemainder_pos totalNonneg positive listed handed
    omega
  · omega

include totalNonneg positive in
theorem largestRemainder_larger {index other weight less : Nat} {part lesser : Int}
    (listed : weights[index]? = some weight) (also : weights[other]? = some less)
    (smaller : less < weight) (found : (largestRemainder total weights)[index]? = some part)
    (there : (largestRemainder total weights)[other]? = some lesser) : lesser ≤ part := by
  have floors := floorShare_mono totalNonneg (by exact_mod_cast positive :
    (0 : Int) < (weights.sum : Nat)) smaller.le
  rw [getElem?_largestRemainder listed found, getElem?_largestRemainder also there]
  by_cases handed : IsHanded total weights other
  · rcases floors.lt_or_eq with apart | same
    · split <;> split <;> omega
    · -- with the same floor share the larger weight has the larger remainder
      have left := shareRemainder_pos totalNonneg positive also handed
      have totalPos : 0 < total := by
        refine lt_of_le_of_ne totalNonneg fun nothing => ?_
        rw [shareRemainder, ← nothing, zero_mul, Int.zero_tmod] at left
        exact absurd left (lt_irrefl 0)
      have made := floorShare_add_shareRemainder total (weights.sum : Nat) weight
      have madeLess := floorShare_add_shareRemainder total (weights.sum : Nat) less
      have products : total * less < total * weight :=
        mul_lt_mul_of_pos_left (by exact_mod_cast smaller) totalPos
      have mine : IsHanded total weights index := by
        refine isHanded_of_before listed also ?_ handed
        unfold HandedBefore
        rw [same] at madeLess
        omega
      rw [if_pos handed, if_pos mine, same]
  · rw [if_neg handed]
    split <;> omega

theorem largestRemainder_earlier {total : Int} {weights : List Nat} {index later weight : Nat}
    {part next : Int} (before : index < later) (listed : weights[index]? = some weight)
    (also : weights[later]? = some weight)
    (found : (largestRemainder total weights)[index]? = some part)
    (there : (largestRemainder total weights)[later]? = some next) : next ≤ part := by
  rw [getElem?_largestRemainder listed found, getElem?_largestRemainder also there]
  by_cases handed : IsHanded total weights later
  · have mine : IsHanded total weights index := by
      refine isHanded_of_before listed also ?_ handed
      unfold HandedBefore
      omega
    rw [if_pos handed, if_pos mine]
  · rw [if_neg handed]
    split <;> omega

theorem near_of_bounds {sum weight : Nat} {total part : Int} (sumPositive : 0 < sum)
    (upper : (sum : Int) * part < total * weight + sum)
    (lower : total * weight < (sum : Int) * part + sum) :
    |(part : ℚ) - total * weight / sum| < 1 := by
  have castPositive : (0 : ℚ) < sum := by exact_mod_cast sumPositive
  have upper : (sum : ℚ) * part < total * weight + sum := by exact_mod_cast upper
  have lower : (total : ℚ) * weight < sum * part + sum := by exact_mod_cast lower
  rw [abs_sub_lt_iff]
  constructor
  · rw [sub_lt_iff_lt_add, ← sub_lt_iff_lt_add', lt_div_iff₀ castPositive]
    linarith
  · rw [sub_lt_iff_lt_add, div_lt_iff₀ castPositive]
    linarith

include totalNonneg positive in
/-- **The largest remainders apportion fairly.** -/
theorem largestRemainder_fair :
    FairApportionment total weights (largestRemainder total weights) := by
  have nonneg : ∀ {index : Nat} {part : Int},
      (largestRemainder total weights)[index]? = some part → 0 ≤ part :=
    fun found => largestRemainder_nonneg totalNonneg weights _ (List.mem_of_getElem? found)
  refine ⟨length_largestRemainder total weights, largestRemainder_sum totalNonneg positive,
    ?_, ?_, ?_, ?_⟩
  · intro index weight part listed found
    obtain ⟨upper, lower⟩ := largestRemainder_near totalNonneg positive listed found
    exact near_of_bounds positive upper lower
  · intro index part listed found
    have none : shareRemainder total (weights.sum : Nat) 0 = 0 := by
      rw [shareRemainder, Nat.cast_zero, mul_zero, Int.zero_tmod]
    have notHanded : ¬ IsHanded total weights index := fun handed =>
      absurd (shareRemainder_pos totalNonneg positive listed handed) (by rw [none]; exact lt_irrefl 0)
    rw [getElem?_largestRemainder listed found, if_neg notHanded, floorShare, Nat.cast_zero,
      mul_zero, Int.zero_tdiv, add_zero]
  · intro index other weight less part lesser listed also smaller found there
    rw [abs_of_nonneg (nonneg found), abs_of_nonneg (nonneg there)]
    exact largestRemainder_larger totalNonneg positive listed also smaller found there
  · intro index later weight part next before listed also found there
    rw [abs_of_nonneg (nonneg found), abs_of_nonneg (nonneg there)]
    exact largestRemainder_earlier before listed also found there

end Positive

/-- **Every total is apportioned fairly** over weights with a positive sum: the parts add up to
exactly the total, each is less than a paisa from its exact share, a weight of zero gets nothing,
and the parts are ordered as the weights are, earlier ones first. -/
theorem allocate_fair (total : Int) (weights : List Nat) (positive : 0 < weights.sum) :
    ∃ parts, allocate total weights = .ok parts ∧ FairApportionment total weights parts := by
  have nonempty : weights ≠ [] := by
    rintro rfl
    exact absurd positive (lt_irrefl 0)
  rcases lt_or_ge total 0 with negative | nonneg
  · refine ⟨(largestRemainder (-total) weights).map (-·), ?_, ?_⟩
    · rw [allocate, ensure_bind nonempty, ensure_bind positive]
      simp only [if_pos negative]
      rfl
    · have fair := (largestRemainder_fair (neg_nonneg.mpr negative.le) positive).neg
      rwa [neg_neg] at fair
  · refine ⟨largestRemainder total weights, ?_, largestRemainder_fair nonneg positive⟩
    rw [allocate, ensure_bind nonempty, ensure_bind positive]
    simp only [if_neg (not_lt.mpr nonneg)]
    rfl

/-- A credit of ten paise over four buckets, of which one has no weight. -/
theorem allocate_fair_credit :
    ∃ parts, allocate (-10) [1, 0, 1, 1] = .ok parts ∧
      FairApportionment (-10) [1, 0, 1, 1] parts :=
  allocate_fair (-10) [1, 0, 1, 1] (by decide)

end OpenEstate
