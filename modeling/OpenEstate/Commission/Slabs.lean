/-
**Slabs that partition the amounts.**

`validateSlabContiguity` looks at the slabs in the order of their numbers: the first starts at zero,
each ends where the next one starts, the last is open. It does not ask whether a slab ends after it
starts. One that ends before is passed over twice, on the way up and again by the slab after it.

* `Contiguous`: the amounts from some start on, slab by slab;
* `countP_holds`: how many slabs an amount is in;
* `partitioned_iff`: accepted slabs partition the amounts exactly if none of them is inverted.
-/

import OpenEstate.Commission.Rule

namespace OpenEstate

open Relational

/-! ### Contiguous slabs -/

def BrokerCommissionSlab.holds (slab : BrokerCommissionSlab) (basisPaise : Int) : Bool :=
  slab.fromPaise ≤ basisPaise ∧ ∀ toPaise ∈ slab.toPaise, basisPaise < toPaise

/-- Whether an amount is between the ends of a slab that ends before it starts. -/
def BrokerCommissionSlab.crosses (slab : BrokerCommissionSlab) (basisPaise : Int) : Bool :=
  slab.toPaise.any fun toPaise => toPaise ≤ basisPaise ∧ basisPaise < slab.fromPaise

/-- Slabs of which each starts where the one before it ends, the first at a start, and the last has
no end. -/
def Contiguous : Int → List BrokerCommissionSlab → Prop
  | _, [] => False
  | start, [last] => last.fromPaise = start ∧ last.toPaise = none
  | start, slab :: next :: rest =>
    slab.fromPaise = start ∧ ∃ toPaise, slab.toPaise = some toPaise ∧
      Contiguous toPaise (next :: rest)

theorem contiguous_of_contiguityError {slab : BrokerCommissionSlab}
    {rest : List BrokerCommissionSlab} (accepted : contiguityError (slab :: rest) = none) :
    Contiguous slab.fromPaise (slab :: rest) := by
  induction rest generalizing slab with
  | nil =>
    unfold contiguityError at accepted
    split at accepted
    · cases accepted
    · rename_i noEnd
      exact ⟨rfl, Option.not_isSome_iff_eq_none.mp noEnd⟩
  | cons next rest ih =>
    unfold contiguityError at accepted
    split at accepted
    · cases accepted
    · rename_i toPaise ends
      split at accepted
      · cases accepted
      · rename_i adjoins
        rw [not_not] at adjoins
        exact ⟨rfl, toPaise, ends, adjoins ▸ ih accepted⟩

variable {slabs : List BrokerCommissionSlab}

/-- **What the check accepts**: contiguous slabs from zero on, in the order of their numbers. -/
theorem contiguous_of_validate
    (accepted : validateSlabContiguity slabs = none) : Contiguous 0 (sortedSlabs slabs) := by
  unfold validateSlabContiguity at accepted
  split at accepted
  · cases accepted
  · rename_i first rest sorted
    split at accepted
    · cases accepted
    · rename_i starts
      rw [not_not] at starts
      rw [sorted, ← starts]
      exact contiguous_of_contiguityError accepted

theorem Contiguous.countP_holds {start : Int} (contiguous : Contiguous start slabs)
    (basisPaise : Int) :
    slabs.countP (·.holds basisPaise) =
      (if start ≤ basisPaise then 1 else 0) + slabs.countP (·.crosses basisPaise) := by
  induction slabs generalizing start with
  | nil => exact contiguous.elim
  | cons slab rest ih =>
    cases rest with
    | nil =>
      obtain ⟨rfl, noEnd⟩ := contiguous
      simp [BrokerCommissionSlab.holds, BrokerCommissionSlab.crosses, noEnd]
    | cons next rest =>
      obtain ⟨rfl, toPaise, ends, later⟩ := contiguous
      have here : slab.holds basisPaise =
          decide (slab.fromPaise ≤ basisPaise ∧ basisPaise < toPaise) := by
        simp [BrokerCommissionSlab.holds, ends]
      have crossed : slab.crosses basisPaise =
          decide (toPaise ≤ basisPaise ∧ basisPaise < slab.fromPaise) := by
        simp [BrokerCommissionSlab.crosses, ends]
      have crossing : (slab :: next :: rest).countP (·.crosses basisPaise) =
          (next :: rest).countP (·.crosses basisPaise) +
            if slab.crosses basisPaise = true then 1 else 0 := List.countP_cons
      rw [List.countP_cons, ih later, crossing, here, crossed]
      simp only [decide_eq_true_eq]
      split_ifs <;> omega

/-! ### Partitions -/

/-- Slabs partition the amounts: every amount is in exactly one of them, and a rule that goes by them
has one commission on it, in whatever order they are listed. -/
structure Partitioned (slabs : List BrokerCommissionSlab) : Prop where
  one : ∀ basisPaise, 0 ≤ basisPaise → slabs.countP (·.holds basisPaise) = 1
  commission : ∀ rule : BrokerCommissionRule, rule.commissionType = .slab →
    ∀ basisPaise, 0 ≤ basisPaise → ∃ total, ∀ others : List BrokerCommissionSlab,
      others.Perm slabs →
        computeCommissionPaise basisPaise { rule with slabs := others } = .ok total

theorem matchCommissionSlab_eq (basisPaise : Int) (slabs : List BrokerCommissionSlab) :
    matchCommissionSlab basisPaise slabs = orThrow ((sortedSlabs slabs).find? (·.holds basisPaise))
      (.error ("No matching commission slab for the given basis amount — slabs must be contiguous " ++
        "and gapless with an unbounded top slab")) := rfl

theorem sortedSlabs_perm (slabs : List BrokerCommissionSlab) : (sortedSlabs slabs).Perm slabs :=
  List.perm_insertionSort _ _

theorem exists_matchCommissionSlab {basisPaise : Int}
    (one : slabs.countP (·.holds basisPaise) = 1) :
    ∃ slab ∈ slabs, ∀ others : List BrokerCommissionSlab, others.Perm slabs →
      matchCommissionSlab basisPaise others = .ok slab := by
  rw [List.countP_eq_length_filter, List.length_eq_one_iff] at one
  obtain ⟨slab, only⟩ := one
  have kept : slab ∈ slabs.filter (·.holds basisPaise) := by
    rw [only]
    exact List.mem_singleton_self slab
  have mine := List.mem_filter.mp kept
  refine ⟨slab, mine.1, fun others same => ?_⟩
  have sorted : (sortedSlabs others).Perm slabs := (sortedSlabs_perm others).trans same
  rw [matchCommissionSlab_eq, orThrow_eq_ok]
  cases matched : (sortedSlabs others).find? (·.holds basisPaise) with
  | none => exact absurd mine.2 (List.find?_eq_none.mp matched slab (sorted.mem_iff.mpr mine.1))
  | some other =>
    have inOther := List.find?_some matched
    have there : other ∈ slabs.filter (·.holds basisPaise) :=
      List.mem_filter.mpr ⟨sorted.mem_iff.mp (List.mem_of_find?_eq_some matched), inOther⟩
    rw [only, List.mem_singleton] at there
    rw [there]

/-- The slabs that the check accepts have every amount in one slab at least, and in one more for each
inverted slab that crosses it. -/
theorem countP_holds_of_validate (accepted : validateSlabContiguity slabs = none) {basisPaise : Int}
    (nonneg : 0 ≤ basisPaise) :
    slabs.countP (·.holds basisPaise) = 1 + slabs.countP (·.crosses basisPaise) := by
  have counted := (contiguous_of_validate accepted).countP_holds basisPaise
  rw [if_pos nonneg, (sortedSlabs_perm slabs).countP_eq, (sortedSlabs_perm slabs).countP_eq]
    at counted
  exact counted

/-- **Accepted slabs partition the amounts exactly if none of them ends before it starts.** -/
theorem partitioned_iff {slabs : List BrokerCommissionSlab} (wellFormed : SlabsWellFormed slabs)
    (accepted : validateSlabContiguity slabs = none) :
    Partitioned slabs ↔
      ∀ slab ∈ slabs, ∀ toPaise ∈ slab.toPaise, slab.fromPaise ≤ toPaise := by
  constructor
  · intro partitioned slab member toPaise ends
    by_contra inverted
    have nonneg := (wellFormed slab member).2.2.1 toPaise ends
    have one := partitioned.one toPaise nonneg
    rw [countP_holds_of_validate accepted nonneg] at one
    have crossed : 0 < slabs.countP (·.crosses toPaise) := by
      refine List.countP_pos_iff.mpr ⟨slab, member, ?_⟩
      rw [BrokerCommissionSlab.crosses, Option.any_eq_true]
      exact ⟨toPaise, ends, decide_eq_true ⟨le_refl toPaise, not_le.mp inverted⟩⟩
    omega
  · intro upright
    have one : ∀ basisPaise, 0 ≤ basisPaise → slabs.countP (·.holds basisPaise) = 1 := by
      intro basisPaise nonneg
      have none : slabs.countP (·.crosses basisPaise) = 0 := by
        refine List.countP_eq_zero.mpr fun slab member crosses => ?_
        rw [BrokerCommissionSlab.crosses, Option.any_eq_true] at crosses
        obtain ⟨toPaise, ends, between⟩ := crosses
        have ordered := upright slab member toPaise ends
        simp only [decide_eq_true_eq] at between
        omega
      rw [countP_holds_of_validate accepted nonneg, none]
    refine ⟨one, fun rule goesBySlabs basisPaise nonneg => ?_⟩
    obtain ⟨slab, _, matched⟩ := exists_matchCommissionSlab (one basisPaise nonneg)
    refine ⟨percentOf basisPaise slab.rateBasisPoints, fun others same => ?_⟩
    rw [computeCommissionPaise]
    simp only [goesBySlabs, matched others same]
    rfl

def twoSlabs : List BrokerCommissionSlab :=
  [⟨2, 10, none, 200⟩, ⟨1, 0, some 10, 100⟩]

/-- The slab of the smaller amounts, one that goes back to the half of them, and an open one. -/
def invertedSlabs : List BrokerCommissionSlab :=
  [⟨1, 0, some 10, 100⟩, ⟨2, 10, some 5, 200⟩, ⟨3, 5, none, 300⟩]

theorem partitioned_iff_twoSlabs :
    Partitioned twoSlabs ↔ ∀ slab ∈ twoSlabs, ∀ toPaise ∈ slab.toPaise, slab.fromPaise ≤ toPaise :=
  partitioned_iff (by unfold SlabsWellFormed; decide) (by decide)

/-- The inverted slab is accepted, and seven paise are in two slabs. -/
theorem not_partitioned_invertedSlabs : SlabsWellFormed invertedSlabs ∧
    validateSlabContiguity invertedSlabs = none ∧ ¬ Partitioned invertedSlabs := by
  refine ⟨by unfold SlabsWellFormed; decide, by decide, fun partitioned => ?_⟩
  have one := partitioned.one 7 (by decide)
  have two : invertedSlabs.countP (·.holds 7) = 2 := by decide
  omega

end OpenEstate
