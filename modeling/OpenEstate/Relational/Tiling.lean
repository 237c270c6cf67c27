/-
**Windows that tile.**

`Tiles start windows` says that each window is non-empty and starts where the one before it ends,
the first one at `start`. Such windows are disjoint (`Tiles.pairwise_disjoint`), adjoining
(`Tiles.isChain`), and cover exactly what lies between the start and the end of the last one
(`Tiles.covers_iff`). They are put down one after the other: `tiles_append_singleton` says when a
tiling can be continued, and `Tiles.foldl_max` that its end is the latest end of a window.
-/

import Mathlib.Data.List.Basic
import Mathlib.Order.CompletePartialOrder
import Mathlib.Order.Interval.Set.Disjoint

namespace Relational

variable {α : Type}

/-- Where windows end: the end of the last one, the start when there is none. -/
def endOf : α → List (α × α) → α
  | start, [] => start
  | _, window :: rest => endOf window.2 rest

theorem endOf_append_singleton (start : α) (windows : List (α × α)) (last : α × α) :
    endOf start (windows ++ [last]) = last.2 := by
  induction windows generalizing start with
  | nil => rfl
  | cons window rest ih => exact ih window.2

theorem endOf_append (start : α) (windows others : List (α × α)) :
    endOf start (windows ++ others) = endOf (endOf start windows) others := by
  induction windows generalizing start with
  | nil => rfl
  | cons window rest ih => exact ih window.2

variable [LinearOrder α]

def Tiles : α → List (α × α) → Prop
  | _, [] => True
  | start, window :: rest => window.1 = start ∧ start < window.2 ∧ Tiles window.2 rest

variable {start : α} {windows : List (α × α)}

theorem tiles_append_singleton {last : α × α} :
    Tiles start (windows ++ [last]) ↔
      Tiles start windows ∧ last.1 = endOf start windows ∧ last.1 < last.2 := by
  induction windows generalizing start with
  | nil =>
    show last.1 = start ∧ start < last.2 ∧ True ↔ True ∧ last.1 = start ∧ last.1 < last.2
    constructor
    · rintro ⟨rfl, later, _⟩
      exact ⟨trivial, rfl, later⟩
    · rintro ⟨_, rfl, later⟩
      exact ⟨rfl, later, trivial⟩
  | cons window rest ih =>
    show window.1 = start ∧ start < window.2 ∧ Tiles window.2 (rest ++ [last]) ↔
      (window.1 = start ∧ start < window.2 ∧ Tiles window.2 rest) ∧
        last.1 = endOf window.2 rest ∧ last.1 < last.2
    rw [ih]
    constructor
    · rintro ⟨adjoins, later, tiles, continues⟩
      exact ⟨⟨adjoins, later, tiles⟩, continues⟩
    · rintro ⟨⟨adjoins, later, tiles⟩, continues⟩
      exact ⟨adjoins, later, tiles, continues⟩

theorem tiles_append {others : List (α × α)} :
    Tiles start (windows ++ others) ↔
      Tiles start windows ∧ Tiles (endOf start windows) others := by
  induction windows generalizing start with
  | nil =>
    show Tiles start others ↔ True ∧ Tiles start others
    rw [true_and]
  | cons window rest ih =>
    show window.1 = start ∧ start < window.2 ∧ Tiles window.2 (rest ++ others) ↔
      (window.1 = start ∧ start < window.2 ∧ Tiles window.2 rest) ∧
        Tiles (endOf window.2 rest) others
    rw [ih, and_assoc, and_assoc]

theorem Tiles.le_endOf (tiles : Tiles start windows) :
    start ≤ endOf start windows := by
  induction windows generalizing start with
  | nil => exact le_refl start
  | cons window rest ih =>
    obtain ⟨_, later, tiles⟩ := tiles
    exact later.le.trans (ih tiles)

theorem Tiles.bounds (tiles : Tiles start windows) {window : α × α} (member : window ∈ windows) :
    start ≤ window.1 ∧ window.1 < window.2 ∧ window.2 ≤ endOf start windows := by
  induction windows generalizing start with
  | nil => cases member
  | cons head rest ih =>
    obtain ⟨adjoins, later, tiles⟩ := tiles
    rcases List.mem_cons.mp member with rfl | listed
    · exact ⟨adjoins.ge, adjoins.trans_lt later, tiles.le_endOf⟩
    · obtain ⟨before, nonempty, within⟩ := ih tiles listed
      exact ⟨later.le.trans before, nonempty, within⟩

theorem Tiles.pairwise_disjoint (tiles : Tiles start windows) :
    windows.Pairwise fun first second =>
      Disjoint (Set.Ico first.1 first.2) (Set.Ico second.1 second.2) := by
  induction windows generalizing start with
  | nil => exact .nil
  | cons window rest ih =>
    obtain ⟨_, _, tiles⟩ := tiles
    refine .cons (fun later listed => ?_) (ih tiles)
    rw [Set.Ico_disjoint_Ico]
    exact (min_le_left _ _).trans ((tiles.bounds listed).1.trans (le_max_right _ _))

theorem Tiles.isChain (tiles : Tiles start windows) :
    windows.IsChain fun first second => first.2 = second.1 := by
  induction windows generalizing start with
  | nil => exact .nil
  | cons window rest ih =>
    obtain ⟨_, _, tiles⟩ := tiles
    cases rest with
    | nil => exact .singleton window
    | cons next rest => exact .cons_cons tiles.1.symm (ih tiles)

/-- **A tiling covers exactly what lies between its start and its end.** -/
theorem Tiles.covers_iff (tiles : Tiles start windows) {point : α} :
    (∃ window ∈ windows, point ∈ Set.Ico window.1 window.2) ↔
      point ∈ Set.Ico start (endOf start windows) := by
  constructor
  · rintro ⟨window, member, covered⟩
    obtain ⟨before, _, within⟩ := tiles.bounds member
    exact ⟨before.trans covered.1, covered.2.trans_le within⟩
  · intro between
    induction windows generalizing start with
    | nil => exact absurd between.2 (not_lt_of_ge between.1)
    | cons window rest ih =>
      obtain ⟨adjoins, _, tiles⟩ := tiles
      rcases lt_or_ge point window.2 with covered | later
      · exact ⟨window, List.mem_cons_self, adjoins.le.trans between.1, covered⟩
      · obtain ⟨other, listed, covered⟩ := ih tiles ⟨later, between.2⟩
        exact ⟨other, List.mem_cons_of_mem _ listed, covered⟩

theorem Tiles.exists_last (tiles : Tiles start windows) {window : α × α}
    (member : window ∈ windows) :
    ∃ last ∈ windows.getLast?, window.2 ≤ last.2 := by
  rcases List.eq_nil_or_concat' windows with rfl | ⟨earlier, last, rfl⟩
  · cases member
  · refine ⟨last, List.getLast?_concat, ?_⟩
    rw [← endOf_append_singleton start earlier last]
    exact (tiles.bounds member).2.2

theorem Tiles.foldl_max (tiles : Tiles start windows) :
    (windows.map Prod.snd).foldl max start = endOf start windows := by
  induction windows generalizing start with
  | nil => rfl
  | cons window rest ih =>
    obtain ⟨_, later, tiles⟩ := tiles
    rw [List.map_cons, List.foldl_cons, max_eq_right later.le]
    exact ih tiles

end Relational
