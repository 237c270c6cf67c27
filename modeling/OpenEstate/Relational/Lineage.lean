/-
**Rows that descend from earlier rows.**

A row may name an earlier one it came from, so following the origins of a row ends after fewer steps
than its key. `lineage` lists the row and where it came from, and a figure added up over lineages
moves by what it moves on one row exactly where that row is in the lineage.

* `lineage_eq`: a row comes before the lineage of its origin;
* `lineage_nodup`: no row is twice in a lineage;
* `sum_lineage_update`: the effect of a change on one row.
-/

import Mathlib.Algebra.BigOperators.Group.List.Basic
import Mathlib.Data.List.Nodup

namespace Relational

/-- The rows a row came from, the latest first, over at most so many steps. -/
def forerunners (origin : Nat → Option Nat) : Nat → Nat → List Nat
  | 0, _ => []
  | steps + 1, id =>
    match origin id with
    | none => []
    | some earlier => earlier :: forerunners origin steps earlier

def lineage (origin : Nat → Option Nat) (id : Nat) : List Nat :=
  id :: forerunners origin id id

def Backward (origin : Nat → Option Nat) : Prop :=
  ∀ id earlier, origin id = some earlier → earlier < id

variable {origin : Nat → Option Nat}

theorem forerunners_of_none {id : Nat} (first : origin id = none) (steps : Nat) :
    forerunners origin steps id = [] := by
  cases steps with
  | zero => rfl
  | succ steps => rw [forerunners, first]

theorem forerunners_of_some {id earlier : Nat} (found : origin id = some earlier) (steps : Nat) :
    forerunners origin (steps + 1) id = earlier :: forerunners origin steps earlier := by
  rw [forerunners, found]

theorem forerunners_of_le (backward : Backward origin) {steps id : Nat} (enough : id ≤ steps) :
    forerunners origin steps id = forerunners origin id id := by
  induction steps using Nat.strongRecOn generalizing id with
  | ind steps ih =>
    cases found : origin id with
    | none => rw [forerunners_of_none found, forerunners_of_none found]
    | some earlier =>
      have older := backward id earlier found
      obtain ⟨key, rfl⟩ : ∃ key, id = key + 1 := ⟨id - 1, by omega⟩
      obtain ⟨rest, rfl⟩ : ∃ rest, steps = rest + 1 := ⟨steps - 1, by omega⟩
      have first := ih rest (by omega) (show earlier ≤ rest by omega)
      have second := ih key (by omega) (show earlier ≤ key by omega)
      rw [forerunners_of_some found, forerunners_of_some found, first, second]

theorem lineage_eq (backward : Backward origin) (id : Nat) :
    lineage origin id = id :: (origin id).elim [] (lineage origin) := by
  cases found : origin id with
  | none =>
    rw [lineage, forerunners_of_none found]
    rfl
  | some earlier =>
    have older := backward id earlier found
    obtain ⟨key, rfl⟩ : ∃ key, id = key + 1 := ⟨id - 1, by omega⟩
    rw [lineage, forerunners_of_some found, forerunners_of_le backward (Nat.le_of_lt_succ older)]
    rfl

theorem le_of_mem_lineage (backward : Backward origin) {id row : Nat}
    (member : row ∈ lineage origin id) : row ≤ id := by
  induction id using Nat.strongRecOn with
  | ind id ih =>
    rw [lineage_eq backward] at member
    rcases List.mem_cons.mp member with rfl | rest
    · exact Nat.le_refl row
    · cases found : origin id with
      | none =>
        rw [found] at rest
        cases rest
      | some earlier =>
        rw [found] at rest
        have older := backward id earlier found
        exact Nat.le_trans (ih earlier older rest) (Nat.le_of_lt older)

theorem lineage_nodup (backward : Backward origin) (id : Nat) : (lineage origin id).Nodup := by
  induction id using Nat.strongRecOn with
  | ind id ih =>
    rw [lineage_eq backward]
    cases found : origin id with
    | none => simp
    | some earlier =>
      have older := backward id earlier found
      refine List.nodup_cons.mpr ⟨fun again => ?_, ih earlier older⟩
      exact absurd (le_of_mem_lineage backward again) (by omega)

theorem lineage_congr {other : Nat → Option Nat} (backward : Backward origin)
    (otherBackward : Backward other) {id : Nat} (agree : ∀ row ≤ id, other row = origin row) :
    lineage other id = lineage origin id := by
  induction id using Nat.strongRecOn with
  | ind id ih =>
    rw [lineage_eq backward, lineage_eq otherBackward, agree id (Nat.le_refl id)]
    cases found : origin id with
    | none => rfl
    | some earlier =>
      have older := backward id earlier found
      have rest : lineage other earlier = lineage origin earlier :=
        ih earlier older fun row upTo => agree row (Nat.le_trans upTo (Nat.le_of_lt older))
      show id :: lineage other earlier = id :: lineage origin earlier
      rw [rest]

variable {M : Type} [AddCommMonoid M]

theorem sum_map_single {rows : List Nat} (nodup : rows.Nodup) (owner : Nat) (change : M) :
    (rows.map fun row => if owner = row then change else 0).sum =
      if owner ∈ rows then change else 0 := by
  induction rows with
  | nil => simp
  | cons row rest ih =>
    obtain ⟨absent, restNodup⟩ := List.nodup_cons.mp nodup
    rw [List.map_cons, List.sum_cons, ih restNodup]
    by_cases same : owner = row
    · subst same
      simp [absent]
    · simp [same]

/-- **A change on one row moves the sum over a lineage by the change, if the row is in it.** -/
theorem sum_lineage_update (backward : Backward origin) {before after : Nat → M} {owner : Nat}
    {change : M} (moved : ∀ row, after row = before row + if owner = row then change else 0)
    (id : Nat) : ((lineage origin id).map after).sum =
      ((lineage origin id).map before).sum + if owner ∈ lineage origin id then change else 0 := by
  rw [← sum_map_single (lineage_nodup backward id), ← List.sum_map_add]
  exact congrArg List.sum (List.map_congr_left fun row _ => moved row)

end Relational
