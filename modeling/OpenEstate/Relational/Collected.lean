/-
**Entries under keys.**

* `lookup_eq_some_iff_mem`: where no key comes twice, what is under a key is what is listed with it;
* `groupCounts` counts the rows under each key (`mem_groupCounts`).
-/

import Mathlib.Algebra.BigOperators.Group.List.Basic
import Mathlib.Data.List.Dedup
import Mathlib.Data.List.Induction
import Mathlib.Data.List.Sort

namespace Relational

variable {κ α γ : Type} [DecidableEq κ]

theorem lookup_eq_some_iff_mem {entries : List (κ × γ)} (nodup : (entries.map Prod.fst).Nodup)
    {key : κ} {value : γ} : entries.lookup key = some value ↔ (key, value) ∈ entries := by
  rw [List.lookup_eq_some_iff]
  constructor
  · rintro ⟨before, after, rfl, _⟩
    exact List.mem_append_right _ List.mem_cons_self
  · intro member
    obtain ⟨before, after, rfl⟩ := List.append_of_mem member
    refine ⟨before, after, rfl, fun other isBefore => bne_iff_ne.mpr ?_⟩
    rintro rfl
    rw [List.map_append, List.map_cons] at nodup
    exact (List.disjoint_of_nodup_append nodup) (List.mem_map_of_mem isBefore) List.mem_cons_self

/-- The groups of some rows, each with the value of the key and its count. -/
def groupCounts (key : α → κ) (rows : List α) : List (κ × Nat) :=
  (rows.map key).dedup.map fun value => (value, rows.countP fun row => key row = value)

theorem mem_groupCounts {key : α → κ} {rows : List α} {value : κ} {count : Nat} :
    (value, count) ∈ groupCounts key rows ↔
      (∃ row ∈ rows, key row = value) ∧ count = rows.countP fun row => key row = value := by
  simp only [groupCounts, List.mem_map, List.mem_dedup, Prod.mk.injEq]
  constructor
  · rintro ⟨_, taken, rfl, rfl⟩
    exact ⟨taken, rfl⟩
  · rintro ⟨taken, rfl⟩
    exact ⟨value, taken, rfl, rfl⟩

/-- **No value of the key has two groups**, nor two rows that are read from groups and keep it. -/
theorem nodup_read_groupCounts {β : Type} {read : κ × Nat → Option β} {keyOf : β → κ}
    (keeps : ∀ group row, read group = some row → keyOf row = group.1) (key : α → κ)
    (rows : List α) : (((groupCounts key rows).filterMap read).map keyOf).Nodup := by
  rw [groupCounts, List.filterMap_map, List.map_filterMap]
  refine List.Nodup.filterMap ?_ (List.nodup_dedup _)
  intro first second value isFirst isSecond
  obtain ⟨row, found, rfl⟩ := Option.map_eq_some_iff.mp isFirst
  obtain ⟨other, also, same⟩ := Option.map_eq_some_iff.mp isSecond
  exact (keeps _ row found).symm.trans (same.symm.trans (keeps _ other also))

end Relational
