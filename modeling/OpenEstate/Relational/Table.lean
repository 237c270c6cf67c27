/-
**Keyed tables with generated keys.**

A `Table α` is what a service sees of a database table whose primary key the database generates:
rows in creation order, each under a key no earlier row had. The two facts every argument about
such a table needs, that a generated key is fresh and that a key names at most one row, are fields
of the structure, so no caller proves them again.

* `create` / `createMany` append rows under fresh keys, `modify` / `modifyAll` rewrite rows in
  place, `delete` drops the rows a predicate selects;
* `find?` reads by key, `select` by predicate, and `sum` adds a figure over all rows;
* every operation has one `find?` lemma and one `sum` lemma, which is all that is used of it.
-/

import Mathlib.Algebra.BigOperators.Group.Finset.Piecewise
import Mathlib.Algebra.Order.BigOperators.Group.List
import Mathlib.Tactic.Abel

namespace Relational

/-- A table: rows under ascending keys, all below the next key to be generated. -/
structure Table (α : Type) where
  rows : List (Nat × α)
  nextId : Nat
  bounded : ∀ row ∈ rows, row.1 < nextId
  ascending : rows.Pairwise fun first second => first.1 < second.1

namespace Table

variable {α M : Type}

/-! ### Operations -/

def empty : Table α where
  rows := []
  nextId := 0
  bounded := by simp
  ascending := .nil

instance : Inhabited (Table α) := ⟨empty⟩

def create (table : Table α) (row : α) : Table α where
  rows := table.rows ++ [(table.nextId, row)]
  nextId := table.nextId + 1
  bounded := by
    intro entry member
    rcases List.mem_append.mp member with old | new
    · exact Nat.lt_succ_of_lt (table.bounded entry old)
    · rw [List.mem_singleton.mp new]
      exact Nat.lt_succ_self _
  ascending := by
    refine List.pairwise_append.mpr ⟨table.ascending, List.pairwise_singleton _ _, ?_⟩
    intro first old second new
    rw [List.mem_singleton.mp new]
    exact table.bounded first old

def createMany (table : Table α) : List α → Table α
  | [] => table
  | row :: rest => (table.create row).createMany rest

def find? (table : Table α) (id : Nat) : Option α :=
  (table.rows.find? fun row => row.1 == id).map Prod.snd

def select (table : Table α) (keep : Nat → α → Bool) : List (Nat × α) :=
  table.rows.filter fun row => keep row.1 row.2

def modifyAll (table : Table α) (which : Nat → α → Bool) (change : α → α) : Table α where
  rows := table.rows.map fun row => (row.1, if which row.1 row.2 then change row.2 else row.2)
  nextId := table.nextId
  bounded := by
    intro entry member
    obtain ⟨row, old, rfl⟩ := List.mem_map.mp member
    exact table.bounded row old
  ascending := List.pairwise_map.mpr table.ascending

def modify (table : Table α) (id : Nat) (change : α → α) : Table α :=
  table.modifyAll (fun key _ => key == id) change

def delete (table : Table α) (drop : Nat → α → Bool) : Table α where
  rows := table.rows.filter fun row => !drop row.1 row.2
  nextId := table.nextId
  bounded := fun entry member => table.bounded entry (List.mem_of_mem_filter member)
  ascending := table.ascending.filter _

variable {β : Type}

def filterMap (table : Table α) (show_ : α → Option β) : Table β where
  rows := table.rows.filterMap fun row => (show_ row.2).map fun shown => (row.1, shown)
  nextId := table.nextId
  bounded := by
    intro entry member
    obtain ⟨row, old, seen⟩ := List.mem_filterMap.mp member
    obtain ⟨_, _, rfl⟩ := Option.map_eq_some_iff.mp seen
    exact table.bounded row old
  ascending := by
    refine table.ascending.filterMap _ fun first second less early seen late seen' => ?_
    obtain ⟨_, _, rfl⟩ := Option.map_eq_some_iff.mp seen
    obtain ⟨_, _, rfl⟩ := Option.map_eq_some_iff.mp seen'
    exact less

def any (table : Table α) (condition : Nat → α → Bool) : Bool :=
  table.rows.any fun row => condition row.1 row.2

def findFirst? (table : Table α) (condition : Nat → α → Bool) : Option (Nat × α) :=
  table.rows.find? fun row => condition row.1 row.2

def count (table : Table α) (condition : Nat → α → Bool) : Nat :=
  table.rows.countP fun row => condition row.1 row.2

def sum [AddCommMonoid M] (table : Table α) (figure : Nat → α → M) : M :=
  (table.rows.map fun row => figure row.1 row.2).sum

/-! ### Reading by key -/

variable {id : Nat} {row : α}

theorem find?_of_mem_ascending {rows : List (Nat × α)}
    (ascending : rows.Pairwise fun first second => first.1 < second.1)
    (member : (id, row) ∈ rows) : rows.find? (fun entry => entry.1 == id) = some (id, row) := by
  induction ascending with
  | nil => cases member
  | cons below _ ih =>
    rcases List.mem_cons.mp member with rfl | later
    · simp
    · have smaller := below _ later
      rw [List.find?_cons_of_neg (by simpa using smaller.ne)]
      exact ih later

theorem find?_eq_some {table : Table α} :
    table.find? id = some row ↔ (id, row) ∈ table.rows := by
  unfold find?
  constructor
  · intro found
    obtain ⟨⟨key, value⟩, hit, rfl⟩ := Option.map_eq_some_iff.mp found
    have same : key = id := by simpa using List.find?_some hit
    subst same
    exact List.mem_of_find?_eq_some hit
  · intro member
    rw [find?_of_mem_ascending table.ascending member]
    rfl

theorem forall_find?_iff {table : Table α} {asked : α → Prop} (found : table.find? id = some row) :
    (∀ other, table.find? id = some other → asked other) ↔ asked row := by
  constructor
  · exact fun all => all row found
  · intro holds other otherFound
    rw [found] at otherFound
    cases otherFound
    exact holds

theorem lt_nextId {table : Table α} (found : table.find? id = some row) :
    id < table.nextId :=
  table.bounded _ (find?_eq_some.mp found)

theorem find?_nextId (table : Table α) : table.find? table.nextId = none := by
  cases found : table.find? table.nextId with
  | none => rfl
  | some row => exact absurd (lt_nextId found) (Nat.lt_irrefl _)

@[simp] theorem find?_empty (id : Nat) : (empty : Table α).find? id = none := rfl

@[simp] theorem nextId_create (table : Table α) (row : α) :
    (table.create row).nextId = table.nextId + 1 := rfl

@[simp] theorem nextId_modify (table : Table α) (id : Nat) (change : α → α) :
    (table.modify id change).nextId = table.nextId := rfl

@[simp] theorem nextId_modifyAll (table : Table α) (which : Nat → α → Bool) (change : α → α) :
    (table.modifyAll which change).nextId = table.nextId := rfl

@[simp] theorem nextId_delete (table : Table α) (drop : Nat → α → Bool) :
    (table.delete drop).nextId = table.nextId := rfl

theorem find?_create (table : Table α) (row : α) (id : Nat) :
    (table.create row).find? id = if id = table.nextId then some row else table.find? id := by
  split
  · rename_i same
    rw [find?_eq_some, same]
    exact List.mem_append_right _ List.mem_cons_self
  · rename_i different
    apply Option.ext
    intro value
    rw [find?_eq_some, find?_eq_some]
    simp only [create, List.mem_append, List.mem_singleton, Prod.mk.injEq, different, false_and,
      or_false]

@[simp] theorem find?_create_self (table : Table α) (row : α) :
    (table.create row).find? table.nextId = some row := by
  rw [find?_create, if_pos rfl]

variable {value : α}

theorem find?_create_old {table : Table α} (row : α)
    (found : table.find? id = some value) : (table.create row).find? id = some value := by
  rw [find?_create, if_neg (lt_nextId found).ne, found]

@[simp] theorem createMany_nil (table : Table α) : table.createMany [] = table := rfl

@[simp] theorem createMany_cons (table : Table α) (row : α) (rest : List α) :
    table.createMany (row :: rest) = (table.create row).createMany rest := rfl

theorem createMany_append (table : Table α) (first second : List α) :
    table.createMany (first ++ second) = (table.createMany first).createMany second := by
  induction first generalizing table with
  | nil => rfl
  | cons row rest ih => exact ih _

@[simp] theorem nextId_createMany (table : Table α) (rows : List α) :
    (table.createMany rows).nextId = table.nextId + rows.length := by
  induction rows generalizing table with
  | nil => rfl
  | cons row rest ih =>
    rw [createMany_cons, ih, nextId_create, List.length_cons]
    omega

theorem find?_createMany_of_lt (table : Table α) (rows : List α)
    (older : id < table.nextId) : (table.createMany rows).find? id = table.find? id := by
  induction rows generalizing table with
  | nil => rfl
  | cons row rest ih =>
    rw [createMany_cons, ih _ (by simp; omega), find?_create, if_neg older.ne]

theorem find?_createMany_old {table : Table α} (rows : List α)
    (found : table.find? id = some value) : (table.createMany rows).find? id = some value := by
  rw [find?_createMany_of_lt _ _ (lt_nextId found), found]

variable {rows : List α}

theorem find?_createMany {table : Table α} (found : (table.createMany rows).find? id = some value) :
    table.find? id = some value ∨ (table.nextId ≤ id ∧ value ∈ rows) := by
  induction rows generalizing table with
  | nil => exact Or.inl found
  | cons row rest ih =>
    rcases ih found with old | ⟨fresh, member⟩
    · rw [find?_create] at old
      split at old
      · rename_i same
        cases old
        exact Or.inr ⟨same.ge, List.mem_cons_self⟩
      · exact Or.inl old
    · exact Or.inr ⟨by simp at fresh; omega, List.mem_cons_of_mem _ member⟩

theorem exists_of_mem_createMany (table : Table α) (member : row ∈ rows) :
    ∃ id, table.nextId ≤ id ∧ (table.createMany rows).find? id = some row := by
  induction rows generalizing table with
  | nil => cases member
  | cons head rest ih =>
    rcases List.mem_cons.mp member with rfl | later
    · exact ⟨table.nextId, le_rfl, find?_createMany_old rest (find?_create_self table row)⟩
    · obtain ⟨id, fresh, found⟩ := ih (table.create head) later
      exact ⟨id, Nat.le_of_succ_le fresh, found⟩

theorem pairwise_createMany {R : α → α → Prop} {table : Table α} (ordered : rows.Pairwise R)
    {first second : Nat} {other : α} (fresh : table.nextId ≤ first) (later : first < second)
    (found : (table.createMany rows).find? first = some value)
    (otherFound : (table.createMany rows).find? second = some other) : R value other := by
  induction ordered generalizing table with
  | nil => exact absurd (lt_nextId found) (Nat.not_lt.mpr fresh)
  | @cons row rest before _ ih =>
    rw [createMany_cons] at found otherFound
    rcases Nat.eq_or_lt_of_le fresh with same | newer
    · have head : value = row := by
        rw [find?_createMany_of_lt _ _ (by simp [same]), ← same, find?_create_self] at found
        exact (Option.some.inj found).symm
      have tail : other ∈ rest := by
        rcases find?_createMany otherFound with old | ⟨_, member⟩
        · have bound := lt_nextId old
          rw [nextId_create] at bound
          omega
        · exact member
      rw [head]
      exact before other tail
    · exact ih (Nat.succ_le_of_lt newer) found otherFound

theorem find?_of_nextId_le {table : Table α} (fresh : table.nextId ≤ id) :
    table.find? id = none := by
  cases found : table.find? id with
  | none => rfl
  | some row => exact absurd (lt_nextId found) (Nat.not_lt.mpr fresh)

theorem find?_modifyAll (table : Table α) (which : Nat → α → Bool) (change : α → α) (id : Nat) :
    (table.modifyAll which change).find? id =
      (table.find? id).map fun row => if which id row then change row else row := by
  apply Option.ext
  intro value
  rw [find?_eq_some, Option.map_eq_some_iff]
  simp only [modifyAll, List.mem_map, Prod.mk.injEq, find?_eq_some]
  constructor
  · rintro ⟨⟨key, row⟩, member, rfl, rfl⟩
    exact ⟨row, member, rfl⟩
  · rintro ⟨row, member, rfl⟩
    exact ⟨(id, row), member, rfl, rfl⟩

theorem find?_modify (table : Table α) (id : Nat) (change : α → α) (key : Nat) :
    (table.modify id change).find? key =
      if key = id then (table.find? key).map change else table.find? key := by
  rw [modify, find?_modifyAll]
  by_cases same : key = id <;> simp [same]

@[simp] theorem find?_modify_self (table : Table α) (id : Nat) (change : α → α) :
    (table.modify id change).find? id = (table.find? id).map change := by
  rw [find?_modify, if_pos rfl]

variable {key : Nat}

theorem find?_modify_of_ne (table : Table α) (change : α → α)
    (different : key ≠ id) : (table.modify id change).find? key = table.find? key := by
  rw [find?_modify, if_neg different]

variable {change : α → α}

theorem modify_congr {table : Table α} {other : α → α}
    (same : ∀ row, table.find? id = some row → change row = other row) :
    table.modify id change = table.modify id other := by
  simp only [modify, modifyAll, mk.injEq, and_true]
  refine List.map_congr_left fun row member => ?_
  split
  · rename_i named
    rw [same row.2 (find?_eq_some.mpr (eq_of_beq named ▸ member))]
  · rfl

theorem modify_id (table : Table α) (id : Nat) : table.modify id (fun row => row) = table := by
  simp only [modify, modifyAll, ite_self, List.map_id']

theorem modify_of_find?_eq_none {table : Table α} (change : α → α)
    (absent : table.find? id = none) : table.modify id change = table := by
  have same : table.modify id change = table.modify id fun row => row := by
    refine modify_congr fun row found => ?_
    rw [absent] at found
    cases found
  rw [same, modify_id]

variable {which : Nat → α → Bool}

theorem map_find?_modifyAll {show_ : α → β} {table : Table α}
    (same : ∀ row, show_ (change row) = show_ row) (id : Nat) :
    ((table.modifyAll which change).find? id).map show_ = (table.find? id).map show_ := by
  rw [find?_modifyAll, Option.map_map]
  congr 1
  funext row
  rw [Function.comp_apply]
  split
  · exact same row
  · rfl

theorem map_find?_modify {show_ : α → β} {table : Table α}
    (same : ∀ row, show_ (change row) = show_ row) (id : Nat) :
    ((table.modify key change).find? id).map show_ = (table.find? id).map show_ :=
  map_find?_modifyAll same id

theorem find?_modify_eq_some {table : Table α} :
    (table.modify id change).find? key = some row ↔
      (key = id ∧ ∃ before, table.find? id = some before ∧ change before = row) ∨
        (key ≠ id ∧ table.find? key = some row) := by
  rw [find?_modify]
  by_cases same : key = id
  · subst same
    simp [Option.map_eq_some_iff]
  · simp [same]

theorem find?_create_eq_some {table : Table α} :
    (table.create row).find? key = some value ↔
      (key = table.nextId ∧ row = value) ∨ table.find? key = some value := by
  rw [find?_create]
  by_cases fresh : key = table.nextId
  · subst fresh
    simp [find?_nextId]
  · simp [fresh]

/-! ### What is so of every row -/

def All (table : Table α) (holds : α → Prop) : Prop :=
  ∀ id row, table.find? id = some row → holds row

section All

variable {table : Table α} {holds weaker : α → Prop}

theorem All.empty : (empty : Table α).All holds := by
  intro id row found
  cases found

theorem All.imp (all : table.All holds) (implies : ∀ row, holds row → weaker row) :
    table.All weaker :=
  fun id row found => implies row (all id row found)

theorem all_create {row : α} : (table.create row).All holds ↔ table.All holds ∧ holds row := by
  constructor
  · intro all
    exact ⟨fun id other found => all id other (find?_create_old row found),
      all table.nextId row (find?_create_self table row)⟩
  · rintro ⟨all, new⟩ id other found
    rcases find?_create_eq_some.mp found with ⟨_, rfl⟩ | old
    · exact new
    · exact all id other old

theorem All.modifyAll {which : Nat → α → Bool} {change : α → α} (all : table.All holds)
    (changed : ∀ id row, table.find? id = some row → which id row = true → holds row →
      holds (change row)) : (table.modifyAll which change).All holds := by
  intro id row found
  rw [find?_modifyAll, Option.map_eq_some_iff] at found
  obtain ⟨was, wasFound, rfl⟩ := found
  split
  · exact changed id was wasFound ‹_› (all id was wasFound)
  · exact all id was wasFound

theorem All.modify {key : Nat} {change : α → α} (all : table.All holds)
    (changed : ∀ row, table.find? key = some row → holds row → holds (change row)) :
    (table.modify key change).All holds := by
  refine all.modifyAll fun id row found same => changed row ?_
  rwa [← beq_iff_eq.mp same]

end All

theorem find?_delete (table : Table α) (drop : Nat → α → Bool) (id : Nat) :
    (table.delete drop).find? id = (table.find? id).filter fun row => !drop id row := by
  apply Option.ext
  intro value
  rw [find?_eq_some, Option.filter_eq_some_iff, find?_eq_some]
  simp [delete]

theorem find?_filterMap (table : Table α) (show_ : α → Option β) (id : Nat) :
    (table.filterMap show_).find? id = (table.find? id).bind show_ := by
  apply Option.ext
  intro value
  rw [find?_eq_some, Option.bind_eq_some_iff]
  simp only [filterMap, List.mem_filterMap, Option.map_eq_some_iff, Prod.mk.injEq, find?_eq_some]
  constructor
  · rintro ⟨⟨key, row⟩, member, shown, seen, rfl, rfl⟩
    exact ⟨row, member, seen⟩
  · rintro ⟨row, member, seen⟩
    exact ⟨(id, row), member, value, seen, rfl, rfl⟩

theorem delete_delete (table : Table α) (first second : Nat → α → Bool) :
    (table.delete first).delete second =
      table.delete fun id row => second id row || first id row := by
  simp [delete, List.filter_filter]

theorem delete_eq_self {table : Table α} {drop : Nat → α → Bool}
    (kept : ∀ id row, table.find? id = some row → drop id row = false) :
    table.delete drop = table := by
  have same : (table.delete drop).rows = table.rows := by
    refine List.filter_eq_self.mpr fun row listed => ?_
    rw [kept row.1 row.2 (find?_eq_some.mpr listed)]
    rfl
  unfold delete at same ⊢
  congr

theorem modifyAll_congr {table : Table α} {other : Nat → α → Bool}
    (same : ∀ id row, table.find? id = some row → which id row = other id row) :
    table.modifyAll which change = table.modifyAll other change := by
  simp only [modifyAll, mk.injEq, and_true]
  refine List.map_congr_left fun row member => ?_
  rw [same row.1 row.2 (find?_eq_some.mpr member)]

theorem modifyAll_select (table : Table α) (keep : Nat → α → Bool) (change : α → α) :
    table.modifyAll (fun id row =>
      decide (id ∈ (table.select keep).map Prod.fst) && keep id row) change =
        table.modifyAll keep change := by
  refine modifyAll_congr fun id row found => ?_
  cases kept : keep id row with
  | false => exact Bool.and_false _
  | true =>
    have listed : id ∈ (table.select keep).map Prod.fst :=
      List.mem_map.mpr ⟨(id, row), List.mem_filter.mpr ⟨find?_eq_some.mp found, kept⟩, rfl⟩
    rw [decide_eq_true listed, Bool.and_true]

theorem modifyAll_eq_self {table : Table α} (change : α → α)
    (none : ∀ id row, table.find? id = some row → which id row = false) :
    table.modifyAll which change = table := by
  have nothing : table.modifyAll which change = table.modifyAll (fun _ _ => false) change :=
    modifyAll_congr none
  rw [nothing]
  simp [modifyAll]

theorem delete_modifyAll (table : Table α) (which drop : Nat → α → Bool)
    (kept : ∀ id row, drop id (change row) = drop id row) :
    (table.modifyAll which change).delete drop = (table.delete drop).modifyAll which change := by
  simp only [modifyAll, delete, List.filter_map, mk.injEq, and_true]
  congr 1
  refine List.filter_congr fun row _ => ?_
  show (!drop row.1 (if which row.1 row.2 then change row.2 else row.2)) = !drop row.1 row.2
  split
  · rw [kept]
  · rfl

theorem any_modifyAll (table : Table α) (which condition : Nat → α → Bool)
    (kept : ∀ id row, condition id (change row) = condition id row) :
    (table.modifyAll which change).any condition = table.any condition := by
  simp only [any, modifyAll, List.any_map]
  congr 1
  funext row
  show condition row.1 (if which row.1 row.2 then change row.2 else row.2) = condition row.1 row.2
  split
  · exact kept row.1 row.2
  · rfl

theorem modifyAll_createMany (table : Table α) (rows : List α) (which : α → Bool) (change : α → α) :
    (table.createMany rows).modifyAll (fun _ => which) change =
      (table.modifyAll (fun _ => which) change).createMany
        (rows.map fun row => if which row then change row else row) := by
  induction rows generalizing table with
  | nil => rfl
  | cons row rest ih =>
    have first : (table.create row).modifyAll (fun _ => which) change =
        (table.modifyAll (fun _ => which) change).create
          (if which row then change row else row) := by
      simp [modifyAll, create]
    rw [createMany_cons, ih, first, List.map_cons, createMany_cons]

theorem modify_modify (table : Table α) (id : Nat) (first second : α → α) :
    (table.modify id first).modify id second = table.modify id fun row => second (first row) := by
  simp only [modify, modifyAll, List.map_map, mk.injEq, and_true]
  refine List.map_congr_left fun row _ => ?_
  by_cases named : row.1 = id <;> simp [named]

theorem mem_select {table : Table α} {keep : Nat → α → Bool} :
    (id, row) ∈ table.select keep ↔ table.find? id = some row ∧ keep id row = true := by
  rw [select, List.mem_filter, find?_eq_some]

theorem select_create (table : Table α) (row : α) (keep : Nat → α → Bool) :
    (table.create row).select keep =
      table.select keep ++ if keep table.nextId row then [(table.nextId, row)] else [] := by
  rw [select, create, List.filter_append, List.filter_singleton, Bool.cond_eq_ite]
  rfl

variable {condition : Nat → α → Bool}

theorem any_eq_true {table : Table α} :
    table.any condition = true ↔
      ∃ id row, table.find? id = some row ∧ condition id row = true := by
  simp [any, List.any_eq_true, find?_eq_some]

theorem any_eq_false {table : Table α} :
    table.any condition = false ↔
      ∀ id row, table.find? id = some row → condition id row = false := by
  simp [any, find?_eq_some]

@[simp] theorem any_create (table : Table α) (row : α) (condition : Nat → α → Bool) :
    (table.create row).any condition = (table.any condition || condition table.nextId row) := by
  simp [any, create]

theorem findFirst?_eq_some {table : Table α} (found : table.findFirst? condition = some (id, row)) :
    table.find? id = some row ∧ condition id row = true :=
  ⟨find?_eq_some.mpr (List.mem_of_find?_eq_some found), by simpa using List.find?_some found⟩

theorem findFirst?_eq_none {table : Table α} :
    table.findFirst? condition = none ↔
      ∀ id row, table.find? id = some row → condition id row = false := by
  unfold findFirst?
  rw [List.find?_eq_none]
  constructor
  · intro none id row found
    exact Bool.eq_false_of_not_eq_true (none (id, row) (find?_eq_some.mp found))
  · intro none row listed
    rw [none row.1 row.2 (find?_eq_some.mpr listed)]
    exact Bool.false_ne_true

theorem findFirst?_create (table : Table α) (row : α) (condition : Nat → α → Bool) :
    (table.create row).findFirst? condition = (table.findFirst? condition).or
      (if condition table.nextId row then some (table.nextId, row) else none) := by
  unfold findFirst? create
  rw [List.find?_append]
  congr 1
  by_cases met : condition table.nextId row = true <;> simp [met]

theorem select_nodup (table : Table α) (keep : Nat → α → Bool) :
    ((table.select keep).map Prod.fst).Nodup := by
  refine List.pairwise_map.mpr (List.Pairwise.imp ?_ (table.ascending.filter _))
  intro first second smaller
  exact smaller.ne

/-! ### Counting -/

theorem count_createMany (table : Table α) (rows : List α) (condition : α → Bool) :
    (table.createMany rows).count (fun _ => condition) =
      table.count (fun _ => condition) + rows.countP condition := by
  induction rows generalizing table with
  | nil => rfl
  | cons row rest ih =>
    have first : (table.create row).count (fun _ => condition) =
        table.count (fun _ => condition) + [row].countP condition := by
      show (table.rows ++ [(table.nextId, row)]).countP _ = _
      rw [List.countP_append]
      rfl
    rw [createMany_cons, ih, first, Nat.add_assoc, ← List.countP_append]
    rfl

theorem map_snd_select_createMany (table : Table α) (rows : List α) (keep : α → Bool) :
    ((table.createMany rows).select fun _ row => keep row).map Prod.snd =
      (table.select fun _ row => keep row).map Prod.snd ++ rows.filter keep := by
  induction rows generalizing table with
  | nil => exact (List.append_nil _).symm
  | cons head rest ih =>
    rw [createMany, ih, List.filter_cons]
    unfold select create
    rw [List.filter_append, List.map_append, List.append_assoc]
    by_cases kept : keep head = true
    · simp [kept]
    · simp [kept]

theorem count_eq_zero {table : Table α} :
    table.count condition = 0 ↔
      ∀ id row, table.find? id = some row → condition id row = false := by
  rw [count, List.countP_eq_zero]
  constructor
  · intro none id row found
    exact Bool.eq_false_iff.mpr (none (id, row) (find?_eq_some.mp found))
  · intro none row member
    exact Bool.eq_false_iff.mp (none row.1 row.2 (find?_eq_some.mpr member))

/-! ### Adding a figure up -/

section Sum

variable [AddCommMonoid M]

@[simp] theorem sum_empty (figure : Nat → α → M) : (empty : Table α).sum figure = 0 := rfl

@[simp] theorem sum_create (table : Table α) (row : α) (figure : Nat → α → M) :
    (table.create row).sum figure = table.sum figure + figure table.nextId row := by
  simp [sum, create]

theorem sum_createMany (table : Table α) (rows : List α) (figure : α → M) :
    (table.createMany rows).sum (fun _ => figure) =
      table.sum (fun _ => figure) + (rows.map figure).sum := by
  induction rows generalizing table with
  | nil => simp
  | cons row rest ih => rw [createMany_cons, ih, sum_create, List.map_cons, List.sum_cons, add_assoc]

variable {table : Table α}

theorem sum_congr {first second : Nat → α → M}
    (agree : ∀ id row, table.find? id = some row → first id row = second id row) :
    table.sum first = table.sum second := by
  unfold sum
  congr 1
  refine List.map_congr_left fun entry member => ?_
  exact agree entry.1 entry.2 (find?_eq_some.mpr member)

theorem sum_select (table : Table α) (keep : Nat → α → Bool) (figure : Nat → α → M) :
    ((table.select keep).map fun row => figure row.1 row.2).sum =
      table.sum fun id row => if keep id row then figure id row else 0 := by
  unfold select sum
  induction table.rows with
  | nil => rfl
  | cons head rest ih =>
    cases kept : keep head.1 head.2 <;> simp [kept, ih]

theorem sum_add (table : Table α) (first second : Nat → α → M) :
    (table.sum fun id row => first id row + second id row) =
      table.sum first + table.sum second :=
  List.sum_map_add

@[simp] theorem sum_zero (table : Table α) : (table.sum fun _ _ => (0 : M)) = 0 := by
  simp [sum]

variable {figure : Nat → α → M}

theorem sum_eq_zero
    (vanishes : ∀ id row, table.find? id = some row → figure id row = 0) : table.sum figure = 0 := by
  rw [sum_congr vanishes, sum_zero]

theorem sum_lookup {first second : Table α}
    (sameKeys : second.rows.map Prod.fst = first.rows.map Prod.fst) (figure : Nat → α → M) :
    second.sum figure = first.sum fun id _ => (second.find? id).elim 0 (figure id) := by
  have byKey : second.sum figure = second.sum fun id _ => (second.find? id).elim 0 (figure id) := by
    refine sum_congr fun id row found => ?_
    rw [found]
    rfl
  have overKeys : ∀ table : Table α, (table.sum fun id _ => (second.find? id).elim 0 (figure id)) =
      ((table.rows.map Prod.fst).map fun id => (second.find? id).elim 0 (figure id)).sum := by
    intro table
    rw [List.map_map]
    rfl
  rw [byKey, overKeys, overKeys, sameKeys]

theorem sum_comm {β : Type} (first : Table α) (second : Table β) (figure : Nat → α → Nat → β → M) :
    (first.sum fun id row => second.sum (figure id row)) =
      second.sum fun key value => first.sum fun id row => figure id row key value := by
  unfold sum
  induction first.rows with
  | nil => simp
  | cons head rest ih =>
    simp only [List.map_cons, List.sum_cons, ih]
    rw [← List.sum_map_add]

theorem sum_delete (table : Table α) (drop : Nat → α → Bool) (figure : Nat → α → M) :
    (table.delete drop).sum figure =
      table.sum fun id row => if drop id row then 0 else figure id row := by
  show ((table.rows.filter fun row => !drop row.1 row.2).map fun row => figure row.1 row.2).sum =
    (table.rows.map fun row => if drop row.1 row.2 then 0 else figure row.1 row.2).sum
  induction table.rows with
  | nil => rfl
  | cons head rest ih =>
    cases dropped : drop head.1 head.2 <;> simp [dropped, ih]

theorem sum_modifyAll (table : Table α) (which : Nat → α → Bool) (change : α → α)
    (figure : Nat → α → M) :
    (table.modifyAll which change).sum figure =
      table.sum fun id row => figure id (if which id row then change row else row) := by
  simp [sum, modifyAll, Function.comp_def]

theorem sum_single (table : Table α) (id : Nat) (figure : α → M) :
    (table.sum fun key row => if key = id then figure row else 0) =
      ((table.find? id).map figure).getD 0 := by
  have concentrate : ∀ rows : List (Nat × α),
      rows.Pairwise (fun first second => first.1 < second.1) →
      (rows.map fun row => if row.1 = id then figure row.2 else 0).sum =
        (((rows.find? fun row => row.1 == id).map Prod.snd).map figure).getD 0 := by
    intro rows ascending
    induction ascending with
    | nil => rfl
    | @cons head rest below _ ih =>
      rw [List.map_cons, List.sum_cons]
      by_cases same : head.1 = id
      · -- every later key is larger, so the tail contributes nothing
        have silent : ∀ entry ∈ rest.map fun row => if row.1 = id then figure row.2 else 0,
            entry = 0 := by
          intro entry member
          obtain ⟨row, later, rfl⟩ := List.mem_map.mp member
          exact if_neg fun hit => (below row later).ne (same.trans hit.symm)
        rw [List.sum_eq_zero silent, if_pos same, add_zero,
          List.find?_cons_of_pos (by simpa using same)]
        rfl
      · rw [if_neg same, zero_add, ih, List.find?_cons_of_neg (by simpa using same)]
  exact concentrate table.rows table.ascending

/-! ### Rewriting rows in place -/

@[simp] theorem keys_modifyAll (table : Table α) (which : Nat → α → Bool) (change : α → α) :
    (table.modifyAll which change).rows.map Prod.fst = table.rows.map Prod.fst := by
  simp [modifyAll, Function.comp_def]

@[simp] theorem keys_modify (table : Table α) (id : Nat) (change : α → α) :
    (table.modify id change).rows.map Prod.fst = table.rows.map Prod.fst :=
  keys_modifyAll table _ change

/-- **A table rewritten in place**: the same keys, with rows that stand in a relation to the
earlier ones. -/
structure Rewritten (R : α → α → Prop) (before after : Table α) : Prop where
  keys : after.rows.map Prod.fst = before.rows.map Prod.fst
  rows : ∀ id row, before.find? id = some row → ∃ later, after.find? id = some later ∧ R row later

variable {R : α → α → Prop}

theorem Rewritten.refl (reflexive : ∀ row, R row row) (table : Table α) :
    Rewritten R table table where
  keys := rfl
  rows := fun _ row found => ⟨row, found, reflexive row⟩

theorem Rewritten.modifyAll (reflexive : ∀ row, R row row) (table : Table α)
    (which : Nat → α → Bool) {change : α → α} (changed : ∀ row, R row (change row)) :
    Rewritten R table (table.modifyAll which change) where
  keys := keys_modifyAll table which change
  rows := by
    intro id row found
    refine ⟨if which id row then change row else row, ?_, ?_⟩
    · rw [find?_modifyAll, found]
      rfl
    · split
      · exact changed row
      · exact reflexive row

theorem Rewritten.before {before after : Table α} (rewritten : Rewritten R before after) {id : Nat}
    {later : α}
    (found : after.find? id = some later) : ∃ row, before.find? id = some row ∧ R row later := by
  have listed : id ∈ before.rows.map Prod.fst := by
    rw [← rewritten.keys]
    exact List.mem_map_of_mem (find?_eq_some.mp found)
  obtain ⟨⟨key, row⟩, old, same⟩ := List.mem_map.mp listed
  have same : key = id := same
  subst same
  have present := find?_eq_some.mpr old
  obtain ⟨other, otherFound, related⟩ := rewritten.rows key row present
  rw [found] at otherFound
  cases otherFound
  exact ⟨row, present, related⟩

theorem Rewritten.sum_eq {before after : Table α} (rewritten : Rewritten R before after)
    (agree : ∀ id row later, R row later → figure id later = figure id row) :
    after.sum figure = before.sum figure := by
  rw [sum_lookup rewritten.keys]
  refine sum_congr fun id row found => ?_
  obtain ⟨later, present, related⟩ := rewritten.rows id row found
  rw [present]
  exact agree id row later related

theorem sum_eq_zero_of_groups {κ : Type} [DecidableEq κ] (group : α → κ)
    (each : ∀ name, (table.sum fun id row => if group row = name then figure id row else 0) = 0) :
    table.sum figure = 0 := by
  have exchange : ∀ (names : Finset κ) (rows : List (Nat × α)),
      (rows.map fun row => ∑ name ∈ names,
          if group row.2 = name then figure row.1 row.2 else 0).sum =
        ∑ name ∈ names,
          (rows.map fun row => if group row.2 = name then figure row.1 row.2 else 0).sum := by
    intro names rows
    induction rows with
    | nil => simp
    | cons head rest ih => simp only [List.map_cons, List.sum_cons, ih, Finset.sum_add_distrib]
  calc table.sum figure
      = (table.rows.map fun row => ∑ name ∈ (table.rows.map fun row => group row.2).toFinset,
          if group row.2 = name then figure row.1 row.2 else 0).sum := by
        refine congrArg List.sum (List.map_congr_left fun row member => ?_)
        rw [Finset.sum_ite_eq, if_pos (List.mem_toFinset.mpr (List.mem_map_of_mem member))]
    _ = ∑ name ∈ (table.rows.map fun row => group row.2).toFinset,
          table.sum fun id row => if group row = name then figure id row else 0 := exchange _ _
    _ = 0 := Finset.sum_eq_zero fun name _ => each name

end Sum

section SumOrder

variable [AddCommMonoid M] [PartialOrder M] [IsOrderedAddMonoid M]

theorem sum_nonneg {table : Table α} {figure : Nat → α → M}
    (nonneg : ∀ id row, table.find? id = some row → 0 ≤ figure id row) : 0 ≤ table.sum figure := by
  refine List.sum_nonneg fun amount member => ?_
  obtain ⟨row, listed, rfl⟩ := List.mem_map.mp member
  exact nonneg row.1 row.2 (find?_eq_some.mpr listed)

theorem eq_zero_of_sum_eq_zero {table : Table α} {figure : Nat → α → M}
    (nonneg : ∀ id row, table.find? id = some row → 0 ≤ figure id row)
    (nothing : table.sum figure = 0) {id : Nat} {row : α} (found : table.find? id = some row) :
    figure id row = 0 := by
  refine List.all_zero_of_le_zero_le_of_sum_eq_zero (fun amount member => ?_) nothing
    (List.mem_map_of_mem (find?_eq_some.mp found))
  obtain ⟨entry, listed, rfl⟩ := List.mem_map.mp member
  exact nonneg entry.1 entry.2 (find?_eq_some.mpr listed)

end SumOrder

section SumGroup

variable [AddCommGroup M]

theorem sum_neg (table : Table α) (figure : Nat → α → M) :
    (table.sum fun id row => -figure id row) = -table.sum figure := by
  have cancel : (table.sum fun id row => -figure id row) + table.sum figure = 0 := by
    rw [← sum_add]
    simp
  exact eq_neg_of_add_eq_zero_left cancel

theorem sum_sub (table : Table α) (first second : Nat → α → M) :
    (table.sum fun id row => first id row - second id row) =
      table.sum first - table.sum second := by
  simp only [sub_eq_add_neg, sum_add, sum_neg]

theorem sum_modify {table : Table α} {id : Nat} {row : α} (found : table.find? id = some row)
    (change : α → α) (figure : Nat → α → M) :
    (table.modify id change).sum figure =
      table.sum figure + (figure id (change row) - figure id row) := by
  have pointwise : ∀ key value, table.find? key = some value →
      figure key (if (key == id) = true then change value else value) =
        figure key value + if key = id then figure id (change value) - figure id value else 0 := by
    intro key value _
    by_cases same : key = id
    · subst same
      simp
    · simp [same]
  rw [modify, sum_modifyAll, sum_congr pointwise, sum_add, sum_single, found]
  rfl

end SumGroup

end Table

end Relational
