/-
**Recursive queries.**

`WITH RECURSIVE … UNION ALL` starts with some rows and puts out, round after round, the rows that the
query gives for those of the round before, until a round has none.

* `recursiveUnion_eq`: a query that has no rows from some round on ends, with the rows of the rounds
  before.
-/

import Mathlib.Data.List.Nodup
import Mathlib.Logic.Function.Iterate

namespace Relational

variable {ρ κ : Type} {next : List ρ → List ρ} {start : List ρ} {rounds fuel : Nat}

/-- The rows of a recursive query, and none if its rounds do not come to an end. -/
def recursiveUnion (next : List ρ → List ρ) : Nat → List ρ → Option (List ρ)
  | _, [] => some []
  | 0, _ :: _ => none
  | fuel + 1, row :: rest => (recursiveUnion next fuel (next (row :: rest))).map (row :: rest ++ ·)

theorem iterate_nil (noRows : next [] = []) (round : Nat) : next^[round] [] = [] :=
  Function.iterate_fixed noRows round

theorem recursiveUnion_eq (noRows : next [] = []) (ends : next^[rounds] start = [])
    (enough : rounds ≤ fuel) :
    recursiveUnion next fuel start =
      some ((List.range rounds).flatMap fun round => next^[round] start) := by
  induction rounds generalizing start fuel with
  | zero =>
    obtain rfl : start = [] := ends
    rw [recursiveUnion]
    rfl
  | succ rounds ih =>
    cases start with
    | nil =>
      have nothing : ∀ round ∈ List.range (rounds + 1), next^[round] [] = [] :=
        fun round _ => iterate_nil noRows round
      rw [recursiveUnion, List.flatMap_eq_nil_iff.mpr nothing]
    | cons row rest =>
      obtain ⟨fuel, rfl⟩ := Nat.exists_eq_add_of_le' (Nat.one_le_of_lt enough)
      rw [recursiveUnion, ih ends (Nat.le_of_succ_le_succ enough), Option.map_some,
        List.range_succ_eq_map, List.flatMap_cons, List.flatMap_map]
      rfl

theorem nodup_rounds {key : ρ → κ} (within : ∀ round < rounds, ((next^[round] start).map key).Nodup)
    (apart : ∀ {first second row row'}, first < second → second < rounds →
      row ∈ next^[first] start → row' ∈ next^[second] start → key row ≠ key row') :
    (((List.range rounds).flatMap fun round => next^[round] start).map key).Nodup := by
  rw [List.map_flatMap, List.nodup_flatMap]
  refine ⟨fun round member => within round (List.mem_range.mp member), ?_⟩
  refine List.pairwise_lt_range.imp_of_mem fun {first second} _ isSecond less => ?_
  intro shared inFirst inSecond
  obtain ⟨row, isRow, same⟩ := List.mem_map.mp inFirst
  obtain ⟨row', isRow', rfl⟩ := List.mem_map.mp inSecond
  exact apart less (List.mem_range.mp isSecond) isRow isRow' same

end Relational
