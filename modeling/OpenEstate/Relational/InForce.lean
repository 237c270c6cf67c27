/-
**Periods that stay apart, and the row in force.**

A period has a first point and, unless it is open, a last one. A family of periods is apart up to a
horizon if no point up to there is covered twice. Rows of a master are in force for a period, some of
them, and the latest of those that cover a point is the one to apply.

* `Period.meets` is the usual test whether two periods have a point in common, in which an open end
  is taken for the horizon; `meets_of_covers`: up to the horizon it misses nothing, and beyond it
  only what `Misses` says;
* `Apart.shrink`: periods that cover less stay apart; `Apart.insert`: so does a family with one more
  that meets none of them;
* `Apart.insert_closing`: behind the start of an open one there is room, once it is closed: nothing
  else of the family can be there;
* `Table.periodsOf` is the family of the periods of the rows that count, with what the operations of
  a table make of it;
* `latestBy` picks a row that starts last (`latestBy_eq_some`), the first one met of those that start
  together (`latestBy_cons`).
-/

import OpenEstate.Relational.Table

namespace Relational

open Function (update update_self update_of_ne)

/-! ### Periods that stay apart -/

section Periods

variable {α κ : Type} [LinearOrder α]

structure Period (α : Type) where
  start : α
  stop : Option α := none

namespace Period

def Covers (period : Period α) (point : α) : Prop :=
  period.start ≤ point ∧ ∀ stop ∈ period.stop, point ≤ stop

def meets (horizon : α) (period other : Period α) : Bool :=
  decide (other.start ≤ period.stop.getD horizon) &&
    other.stop.all fun stop => decide (period.start ≤ stop)

variable {horizon : α} {period other : Period α}

theorem meets_of_covers {point : α} (near : point ≤ horizon) (covered : period.Covers point)
    (too : other.Covers point) :
    period.meets horizon other = true := by
  obtain ⟨starts, stops⟩ := covered
  obtain ⟨otherStarts, otherStops⟩ := too
  have inTime : other.start ≤ period.stop.getD horizon := by
    cases last : period.stop with
    | none => exact otherStarts.trans near
    | some stop => exact otherStarts.trans (stops stop last)
  have goesOn : ∀ stop ∈ other.stop, period.start ≤ stop :=
    fun stop isStop => starts.trans (otherStops stop isStop)
  rw [meets, Bool.and_eq_true, decide_eq_true_eq, Option.all_eq_true]
  exact ⟨inTime, fun stop isStop => decide_eq_true (goesOn stop isStop)⟩

/-- What the test misses: an open period, and one that begins beyond the horizon and goes on behind
the start of both. -/
def Misses (horizon : α) (period other : Period α) : Prop :=
  period.stop = none ∧ horizon < other.start ∧
    ∀ stop ∈ other.stop, max period.start other.start ≤ stop

theorem Misses.shared (missed : period.Misses horizon other) :
    ∃ point, period.Covers point ∧ other.Covers point := by
  obtain ⟨endless, _, goesOn⟩ := missed
  refine ⟨max period.start other.start, ⟨le_max_left _ _, fun stop isStop => ?_⟩,
    le_max_right _ _, goesOn⟩
  rw [endless] at isStop
  cases isStop

/-- **Whatever two periods both cover, the test finds**, or it is one of those that it misses. -/
theorem misses_of_shared {point : α} (unnoticed : period.meets horizon other = false)
    (covered : period.Covers point) (too : other.Covers point) : period.Misses horizon other := by
  obtain ⟨starts, stops⟩ := covered
  obtain ⟨otherStarts, otherStops⟩ := too
  have goesOn : (other.stop.all fun stop => decide (period.start ≤ stop)) = true := by
    rw [Option.all_eq_true]
    exact fun stop isStop => decide_eq_true (starts.trans (otherStops stop isStop))
  have later : period.stop.getD horizon < other.start := by
    rwa [meets, goesOn, Bool.and_true, decide_eq_false_iff_not, not_le] at unnoticed
  cases last : period.stop with
  | none =>
    rw [last] at later
    exact ⟨last, later, fun stop isStop => (max_le starts otherStarts).trans
      (otherStops stop isStop)⟩
  | some stop =>
    rw [last] at later
    exact absurd (otherStarts.trans (stops stop last)) (not_le_of_gt later)

end Period

/-- **Apart**: no point up to the horizon is covered by two periods of a family. -/
def Apart (horizon : α) (family : κ → Option (Period α)) : Prop :=
  ∀ point ≤ horizon, ∀ first second period other, family first = some period →
    family second = some other → period.Covers point → other.Covers point → first = second

namespace Apart

variable {horizon : α} {family smaller : κ → Option (Period α)}

theorem none : Apart horizon fun _ : κ => (.none : Option (Period α)) :=
  fun _ _ _ _ _ _ isNone => by cases isNone

theorem shrink (apart : Apart horizon family)
    (less : ∀ key period, smaller key = some period → ∀ point, period.Covers point →
      ∃ before, family key = some before ∧ before.Covers point) : Apart horizon smaller := by
  intro point near first second period other isFirst isSecond covered too
  obtain ⟨before, wasFirst, wasCovered⟩ := less first period isFirst point covered
  obtain ⟨beforeToo, wasSecond, wasToo⟩ := less second other isSecond point too
  exact apart point near first second before beforeToo wasFirst wasSecond wasCovered wasToo

/-- **Room behind an open period.** A period that begins after an open one has no point in common
with any other: the open one would cover it too. -/
theorem free_of_open (apart : Apart horizon family) {key id : κ} {opened period other : Period α}
    (isOpened : family key = some opened) (endless : opened.stop = .none)
    (later : opened.start < period.start) (isOther : family id = some other) (differs : id ≠ key)
    {point : α} (near : point ≤ horizon) (covered : period.Covers point) : ¬other.Covers point := by
  intro too
  have open_ : opened.Covers point := by
    refine ⟨le_trans (le_of_lt later) covered.1, fun stop isStop => ?_⟩
    rw [endless] at isStop
    cases isStop
  exact differs (apart point near id key other opened isOther isOpened too open_)

variable [DecidableEq κ]

theorem insert (apart : Apart horizon family) (key : κ) {value : Option (Period α)}
    (free : ∀ period ∈ value, ∀ id other, id ≠ key → family id = some other → ∀ point ≤ horizon,
      period.Covers point → ¬other.Covers point) : Apart horizon (update family key value) := by
  have owner : ∀ period ∈ value, ∀ point ≤ horizon, period.Covers point → ∀ id other,
      update family key value id = some other → other.Covers point → id = key := by
    intro period isNew point near covered id other isOther covers
    by_contra differs
    rw [update_of_ne differs] at isOther
    exact free period isNew id other differs isOther point near covered covers
  intro point near first second one other isFirst isSecond covered too
  by_cases isNew : first = key
  · subst isNew
    rw [update_self] at isFirst
    exact (owner one isFirst point near covered second other isSecond too).symm
  · by_cases isNewToo : second = key
    · subst isNewToo
      rw [update_self] at isSecond
      exact owner other isSecond point near too first one isFirst covered
    · rw [update_of_ne isNew] at isFirst
      rw [update_of_ne isNewToo] at isSecond
      exact apart point near first second one other isFirst isSecond covered too

/-- **A period that begins after an open one**, which is closed before it. -/
theorem insert_closing (apart : Apart horizon family) {key fresh : κ} {opened closed : Period α}
    {value : Option (Period α)} (isOpened : family key = some opened) (endless : opened.stop = .none)
    (later : ∀ period ∈ value, opened.start < period.start) (same : closed.start = opened.start)
    (before : ∀ period ∈ value, ∀ point, closed.Covers point → point < period.start) :
    Apart horizon (update (update family key (some closed)) fresh value) := by
  have shrunk : Apart horizon (update family key (some closed)) := by
    refine apart.shrink fun id found isFound point covered => ?_
    by_cases mine : id = key
    · subst mine
      rw [update_self] at isFound
      cases isFound
      refine ⟨opened, isOpened, same ▸ covered.1, fun stop isStop => ?_⟩
      rw [endless] at isStop
      cases isStop
    · rw [update_of_ne mine] at isFound
      exact ⟨found, isFound, covered⟩
  refine shrunk.insert fresh fun period isNew id other _ isOther point near covered => ?_
  by_cases mine : id = key
  · subst mine
    rw [update_self] at isOther
    cases isOther
    exact fun too => absurd covered.1 (not_le_of_gt (before period isNew point too))
  · rw [update_of_ne mine] at isOther
    exact apart.free_of_open isOpened endless (later period isNew) isOther mine near covered

end Apart

end Periods

variable {ρ α : Type}

/-! ### Periods of a table -/

namespace Table

def periodsOf (table : Table ρ) (counts : ρ → Bool) (period : ρ → Period α) (id : Nat) :
    Option (Period α) :=
  ((table.find? id).filter counts).map period

/-! What is under the keys of a table, after each operation on one row. -/

theorem find?_create_eq (table : Table ρ) (row : ρ) :
    (table.create row).find? = update table.find? table.nextId (some row) := by
  funext id
  rw [find?_create]
  by_cases new : id = table.nextId
  · rw [if_pos new, new, update_self]
  · rw [if_neg new, update_of_ne new]

theorem find?_modify_eq (table : Table ρ) (id : Nat) (change : ρ → ρ) :
    (table.modify id change).find? = update table.find? id ((table.find? id).map change) := by
  funext key
  by_cases mine : key = id
  · rw [mine, find?_modify_self, update_self]
  · rw [find?_modify_of_ne _ _ mine, update_of_ne mine]

theorem find?_delete_eq (table : Table ρ) (id : Nat) :
    (table.delete fun key _ => key == id).find? = update table.find? id none := by
  funext key
  rw [find?_delete]
  by_cases mine : key = id
  · subst mine
    rw [update_self]
    cases table.find? key <;> simp
  · have kept : (!key == id) = true := by rw [beq_false_of_ne mine]; rfl
    rw [update_of_ne mine]
    cases table.find? key with
    | none => rfl
    | some row => rw [Option.filter_some, kept, if_pos rfl]

variable {table : Table ρ} {counts : ρ → Bool} {period : ρ → Period α}

theorem periodsOf_of_update {after : Table ρ} {key : Nat} {value : Option ρ}
    (written : after.find? = update table.find? key value) : after.periodsOf counts period =
      update (table.periodsOf counts period) key ((value.filter counts).map period) := by
  funext id
  rw [periodsOf, written]
  by_cases mine : id = key
  · rw [mine, update_self, update_self]
  · rw [update_of_ne mine, update_of_ne mine]
    rfl

theorem periodsOf_eq_some {id : Nat} {covered : Period α} :
    table.periodsOf counts period id = some covered ↔
      ∃ row, table.find? id = some row ∧ counts row = true ∧ period row = covered := by
  simp only [periodsOf, Option.map_eq_some_iff, Option.filter_eq_some_iff, and_assoc]

theorem mem_filter_map {value : Option ρ} {covered : Period α}
    (isNew : covered ∈ (value.filter counts).map period) :
    ∃ row ∈ value, counts row = true ∧ period row = covered := by
  obtain ⟨row, filtered, rfl⟩ := Option.map_eq_some_iff.mp isNew
  obtain ⟨written, counted⟩ := Option.filter_eq_some_iff.mp filtered
  exact ⟨row, written, counted, rfl⟩

end Table

/-! ### The latest row -/

section Latest

variable [LinearOrder α] (start : ρ → α)

/-- The row to keep of two, the earlier one unless the other starts later. -/
def laterOf (latest : Option ρ) (row : ρ) : Option ρ :=
  match latest with
  | none => some row
  | some best => if start best < start row then some row else latest

def latestBy (rows : List ρ) : Option ρ :=
  rows.foldl (laterOf start) none

variable {rows : List ρ} {found : ρ}

theorem foldl_laterOf_some (best : ρ) (rows : List ρ) :
    ∃ found, rows.foldl (laterOf start) (some best) = some found ∧
      (found = best ∨ found ∈ rows ∧ start best < start found) ∧
      ∀ row ∈ rows, start row ≤ start found := by
  induction rows generalizing best with
  | nil => exact ⟨best, rfl, Or.inl rfl, nofun⟩
  | cons row rest ih =>
    rw [List.foldl_cons, laterOf]
    by_cases later : start best < start row
    · rw [if_pos later]
      obtain ⟨found, is, from_, most⟩ := ih row
      have reached : start row ≤ start found := by
        rcases from_ with rfl | ⟨_, less⟩
        · exact le_refl _
        · exact less.le
      refine ⟨found, is, Or.inr ⟨?_, later.trans_le reached⟩,
        List.forall_mem_cons.mpr ⟨reached, most⟩⟩
      rcases from_ with rfl | ⟨member, _⟩
      · exact List.mem_cons_self
      · exact List.mem_cons_of_mem _ member
    · rw [if_neg later]
      obtain ⟨found, is, from_, most⟩ := ih best
      have kept : start best ≤ start found := by
        rcases from_ with rfl | ⟨_, less⟩
        · exact le_refl _
        · exact less.le
      refine ⟨found, is, from_.imp_right fun ⟨member, less⟩ => ⟨List.mem_cons_of_mem _ member, less⟩,
        List.forall_mem_cons.mpr ⟨(not_lt.mp later).trans kept, most⟩⟩

theorem latestBy_cons (row : ρ) (rows : List ρ) :
    ∃ found, latestBy start (row :: rows) = some found ∧
      (found = row ∨ found ∈ rows ∧ start row < start found) ∧
      ∀ other ∈ row :: rows, start other ≤ start found := by
  obtain ⟨found, is, from_, most⟩ := foldl_laterOf_some start row rows
  refine ⟨found, is, from_, List.forall_mem_cons.mpr ⟨?_, most⟩⟩
  rcases from_ with rfl | ⟨_, less⟩
  · exact le_refl _
  · exact less.le

variable {start}

theorem latestBy_eq_none : latestBy start rows = none ↔ rows = [] := by
  cases rows with
  | nil => exact iff_of_true rfl rfl
  | cons row rest =>
    obtain ⟨found, is, _⟩ := latestBy_cons start row rest
    rw [is]
    exact iff_of_false nofun nofun

theorem latestBy_eq_some (is : latestBy start rows = some found) :
    found ∈ rows ∧ ∀ row ∈ rows, start row ≤ start found := by
  cases rows with
  | nil => cases is
  | cons row rest =>
    obtain ⟨other, isOther, from_, most⟩ := latestBy_cons start row rest
    obtain rfl : other = found := Option.some.inj (isOther.symm.trans is)
    refine ⟨?_, most⟩
    rcases from_ with rfl | ⟨member, _⟩
    · exact List.mem_cons_self
    · exact List.mem_cons_of_mem _ member

theorem map_latestBy {σ β : Type} [LinearOrder β] {show_ : ρ → σ} (startOf : σ → β)
    (alike : ∀ first second, startOf (show_ first) < startOf (show_ second) ↔
      start first < start second) (rows : List ρ) :
    latestBy startOf (rows.map show_) = (latestBy start rows).map show_ := by
  have folded : ∀ (rows : List ρ) (best : Option ρ),
      (rows.map show_).foldl (laterOf startOf) (best.map show_) =
        (rows.foldl (laterOf start) best).map show_ := by
    intro rows
    induction rows with
    | nil => exact fun _ => rfl
    | cons row rest ih =>
      intro best
      rw [List.map_cons, List.foldl_cons, List.foldl_cons, ← ih]
      congr 1
      cases best with
      | none => rfl
      | some best =>
        rw [Option.map_some, laterOf, laterOf]
        simp only [alike]
        split <;> rfl
  exact folded rows none

end Latest

end Relational
