/-
**Team scope.**

Whom a user sees is read from the managers of the company by a recursive query: the user and all who
report to the user, down to a depth of fifty. The hierarchy puts those of them who are active below
their managers; who has no manager among them is at the top.

* `mem_visibleIds_iff`: whom the query gives, on chains within its depth;
* `getHierarchy_arranged`: the hierarchy has every active user that is visible, once;
* `teamScope_closure`: both, for every user of a company.
-/

import Mathlib.Tactic.IntervalCases
import OpenEstate.Access.Managers
import OpenEstate.Relational.Arrangement
import OpenEstate.Relational.Collected
import OpenEstate.Relational.RecursiveQuery

namespace OpenEstate

open Relational

/-! ### Who is visible -/

def adminTeamScopeAll : String := "admin.team-scope.all"

namespace TeamScopeService

structure SubtreeRow where
  id : Nat
  depth : Nat
  deriving DecidableEq

def subtreeStart (db : AccessDb) (companyId userId : Nat) : List SubtreeRow :=
  (db.users.select fun id user => id == userId && user.companyId == companyId).map fun user =>
    ⟨user.1, 1⟩

def subtreeNext (db : AccessDb) (companyId : Nat) (subtree : List SubtreeRow) : List SubtreeRow :=
  (db.users.select fun _ user => user.companyId == companyId).flatMap fun user =>
    (subtree.filter fun row => user.2.managerId == some row.id && row.depth < 50).map fun row =>
      ⟨user.1, row.depth + 1⟩

/-- The users that a user may see; all of them for who has the permission. -/
def getVisibleUserIds (fuel : Nat) (db : AccessDb) (companyId userId : Nat)
    (permissions : List String) : Option (Option (List Nat)) :=
  if permissions.contains adminTeamScopeAll then some none
  else (recursiveUnion (subtreeNext db companyId) fuel (subtreeStart db companyId userId)).map
    fun rows => some (rows.map SubtreeRow.id)

end TeamScopeService

/-! ### The hierarchy -/

structure HierarchyEntry where
  id : Nat
  name : String
  email : Option String
  roleName : Option String
  roleSlug : Option String
  directReportCount : Nat := 0
  deriving DecidableEq, Inhabited

abbrev HierarchyNode := Rose HierarchyEntry

namespace UsersService

structure HierarchyCell where
  entry : HierarchyEntry
  reports : List Nat := []

structure HierarchyState where
  nodeById : Nat → Option HierarchyCell
  roots : List Nat := []

def hierarchyUsers (db : AccessDb) (companyId : Nat) (visibleUserIds : Option (List Nat)) :
    List (Nat × User) :=
  (db.users.select fun id user => user.companyId == companyId && user.isActive &&
    visibleUserIds.all fun ids => ids.contains id).insertionSort
      fun first second => first.2.name ≤ second.2.name

def hierarchyEntry (db : AccessDb) (id : Nat) (user : User) : HierarchyEntry where
  id := id
  name := user.name
  email := user.email
  roleName := (db.roles.find? user.roleId).map Role.name
  roleSlug := (db.roles.find? user.roleId).map Role.slug

def hierarchyNodes (db : AccessDb) (users : List (Nat × User)) : Nat → Option HierarchyCell :=
  fun id => (users.lookup id).map fun user => { entry := hierarchyEntry db id user }

def HierarchyCell.push (parent : HierarchyCell) (id : Nat) : HierarchyCell where
  entry := { parent.entry with directReportCount := parent.entry.directReportCount + 1 }
  reports := parent.reports ++ [id]

def HierarchyState.place (visible : List Nat) (state : HierarchyState) (user : Nat × User) :
    HierarchyState :=
  let parent := (user.2.managerId.filter fun managerId => visible.contains managerId).bind
    fun managerId => (state.nodeById managerId).map fun cell => (managerId, cell)
  match parent with
  | some (managerId, cell) =>
    { state with nodeById := Function.update state.nodeById managerId (some (cell.push user.1)) }
  | none => { state with roots := state.roots ++ [user.1] }

/-- The nodes that hang on the roots, as they are answered; none if there is no end to them. -/
def getHierarchy (fuel : Nat) (db : AccessDb) (companyId : Nat)
    (visibleUserIds : Option (List Nat)) : Option (List HierarchyNode) :=
  let users := hierarchyUsers db companyId visibleUserIds
  let visible := users.map Prod.fst
  let filled := users.foldl (HierarchyState.place visible) { nodeById := hierarchyNodes db users }
  filled.roots.mapM (readTree (fun id => (filled.nodeById id).map fun cell =>
    (cell.entry, cell.reports)) fuel)

end UsersService

/-! ### The rounds of the query -/

section Rounds

open TeamScopeService

variable {db : AccessDb} {companyId userId : Nat}
variable {row : SubtreeRow}

theorem mem_subtreeStart : row ∈ subtreeStart db companyId userId ↔
    row = ⟨userId, 1⟩ ∧ (db.user? companyId userId).isSome := by
  rw [subtreeStart, List.mem_map]
  constructor
  · rintro ⟨⟨id, user⟩, listed, rfl⟩
    obtain ⟨found, kept⟩ := Table.mem_select.mp listed
    obtain ⟨same, company⟩ := Bool.and_eq_true_iff.mp kept
    obtain rfl := beq_iff_eq.mp same
    exact ⟨rfl, Option.isSome_iff_exists.mpr
      ⟨user, AccessDb.user?_eq_some.mpr ⟨found, beq_iff_eq.mp company⟩⟩⟩
  · rintro ⟨rfl, present⟩
    obtain ⟨user, found⟩ := Option.isSome_iff_exists.mp present
    obtain ⟨found, company⟩ := AccessDb.user?_eq_some.mp found
    exact ⟨(userId, user), Table.mem_select.mpr
      ⟨found, Bool.and_eq_true_iff.mpr ⟨beq_iff_eq.mpr rfl, beq_iff_eq.mpr company⟩⟩, rfl⟩

theorem managers_eq_some {id managerId : Nat} : db.managers companyId id = some managerId ↔
    ∃ user, db.user? companyId id = some user ∧ user.managerId = some managerId := by
  rw [← AccessDb.bind_user?, Option.bind_eq_some_iff]

theorem mem_subtreeNext {subtree : List SubtreeRow} :
    row ∈ subtreeNext db companyId subtree ↔
      ∃ above ∈ subtree, db.managers companyId row.id = some above.id ∧ above.depth < 50 ∧
        row.depth = above.depth + 1 := by
  rw [subtreeNext, List.mem_flatMap]
  constructor
  · rintro ⟨⟨id, user⟩, listed, member⟩
    obtain ⟨found, company⟩ := Table.mem_select.mp listed
    obtain ⟨above, kept, rfl⟩ := List.mem_map.mp member
    obtain ⟨isAbove, kept⟩ := List.mem_filter.mp kept
    obtain ⟨manages, within⟩ := Bool.and_eq_true_iff.mp kept
    exact ⟨above, isAbove, managers_eq_some.mpr
      ⟨user, AccessDb.user?_eq_some.mpr ⟨found, beq_iff_eq.mp company⟩, beq_iff_eq.mp manages⟩,
      of_decide_eq_true within, rfl⟩
  · rintro ⟨above, isAbove, manages, within, depth⟩
    obtain ⟨user, found, manages⟩ := managers_eq_some.mp manages
    obtain ⟨found, company⟩ := AccessDb.user?_eq_some.mp found
    refine ⟨(row.id, user), Table.mem_select.mpr ⟨found, beq_iff_eq.mpr company⟩,
      List.mem_map.mpr ⟨above, List.mem_filter.mpr ⟨isAbove, ?_⟩, ?_⟩⟩
    · exact Bool.and_eq_true_iff.mpr ⟨beq_iff_eq.mpr manages, decide_eq_true within⟩
    · rw [← depth]

/-- **The rows of a round**: who is that many places below the user. -/
theorem mem_round {round : Nat} :
    row ∈ (subtreeNext db companyId)^[round] (subtreeStart db companyId userId) ↔
      (db.user? companyId userId).isSome ∧ row.depth = round + 1 ∧ round < 50 ∧
        nth (db.managers companyId) round row.id = some userId := by
  induction round generalizing row with
  | zero =>
    rw [Function.iterate_zero_apply, mem_subtreeStart]
    constructor
    · rintro ⟨rfl, present⟩
      exact ⟨present, rfl, by omega, rfl⟩
    · rintro ⟨present, depth, _, same⟩
      obtain ⟨id, depth⟩ := row
      cases depth
      cases same
      exact ⟨rfl, present⟩
  | succ round ih =>
    rw [Function.iterate_succ_apply', mem_subtreeNext]
    constructor
    · rintro ⟨above, isAbove, manages, within, depth⟩
      obtain ⟨present, isDepth, _, leads⟩ := ih.mp isAbove
      refine ⟨present, by omega, by omega, ?_⟩
      rw [nth, manages]
      exact leads
    · rintro ⟨present, depth, within, leads⟩
      obtain ⟨above, manages, leads⟩ := Option.bind_eq_some_iff.mp leads
      have isAbove : (⟨above, round + 1⟩ : SubtreeRow) ∈
          (subtreeNext db companyId)^[round] (subtreeStart db companyId userId) :=
        ih.mpr ⟨present, rfl, by omega, leads⟩
      exact ⟨⟨above, round + 1⟩, isAbove, manages, within, depth⟩

theorem nodup_subtreeNext {subtree : List SubtreeRow} (nodup : (subtree.map SubtreeRow.id).Nodup) :
    ((subtreeNext db companyId subtree).map SubtreeRow.id).Nodup := by
  rw [subtreeNext, List.map_flatMap, List.nodup_flatMap]
  constructor
  · rintro ⟨id, user⟩ _
    rw [List.map_map]
    refine List.Nodup.map_on (fun first isFirst second isSecond _ => ?_)
      ((List.Nodup.of_map _ nodup).filter _)
    obtain ⟨inFirst, isFirst⟩ := List.mem_filter.mp isFirst
    obtain ⟨inSecond, isSecond⟩ := List.mem_filter.mp isSecond
    have first_ := beq_iff_eq.mp (Bool.and_eq_true_iff.mp isFirst).1
    have second_ := beq_iff_eq.mp (Bool.and_eq_true_iff.mp isSecond).1
    exact List.inj_on_of_nodup_map nodup inFirst inSecond (Option.some.inj (first_.symm.trans second_))
  · have distinct := List.pairwise_map.mp
      (db.users.select_nodup fun _ user => user.companyId == companyId)
    refine distinct.imp fun {first second} differ => ?_
    intro id inFirst inSecond
    obtain ⟨row, isRow, rfl⟩ := List.mem_map.mp inFirst
    obtain ⟨row', isRow', same⟩ := List.mem_map.mp inSecond
    obtain ⟨_, _, rfl⟩ := List.mem_map.mp isRow
    obtain ⟨_, _, rfl⟩ := List.mem_map.mp isRow'
    exact differ same.symm

theorem nodup_round (round : Nat) :
    (((subtreeNext db companyId)^[round] (subtreeStart db companyId userId)).map
      SubtreeRow.id).Nodup := by
  induction round with
  | zero =>
    rw [Function.iterate_zero_apply, subtreeStart, List.map_map]
    exact db.users.select_nodup _
  | succ round ih =>
    rw [Function.iterate_succ_apply']
    exact nodup_subtreeNext ih

theorem subtree_ends :
    (subtreeNext db companyId)^[50] (subtreeStart db companyId userId) = [] :=
  List.eq_nil_iff_forall_not_mem.mpr fun _ member =>
    absurd (mem_round.mp member).2.2.1 (Nat.lt_irrefl 50)

theorem subtreeNext_nil : subtreeNext db companyId [] = [] :=
  List.flatMap_eq_nil_iff.mpr fun _ _ => rfl

def visibleIds (db : AccessDb) (companyId userId : Nat) : List Nat :=
  ((List.range 50).flatMap fun round =>
    (subtreeNext db companyId)^[round] (subtreeStart db companyId userId)).map SubtreeRow.id

theorem getVisibleUserIds_eq {fuel : Nat} (enough : 50 ≤ fuel) (permissions : List String) :
    getVisibleUserIds fuel db companyId userId permissions =
      some (if permissions.contains adminTeamScopeAll then none
        else some (visibleIds db companyId userId)) := by
  rw [getVisibleUserIds, recursiveUnion_eq subtreeNext_nil subtree_ends enough]
  split <;> rfl

theorem mem_visibleIds {id : Nat} : id ∈ visibleIds db companyId userId ↔
    (db.user? companyId userId).isSome ∧
      ∃ places < 50, nth (db.managers companyId) places id = some userId := by
  rw [visibleIds, List.mem_map]
  constructor
  · rintro ⟨row, member, rfl⟩
    obtain ⟨round, _, isRow⟩ := List.mem_flatMap.mp member
    obtain ⟨present, _, within, leads⟩ := mem_round.mp isRow
    exact ⟨present, round, within, leads⟩
  · rintro ⟨present, places, within, leads⟩
    exact ⟨⟨id, places + 1⟩, List.mem_flatMap.mpr ⟨places, List.mem_range.mpr within,
      mem_round.mpr ⟨present, rfl, within, leads⟩⟩, rfl⟩

section Chains

variable (chains : ∀ id, nth (db.managers companyId) 50 id = none)

include chains

theorem noCircle_of_chains : NoCircle (db.managers companyId) :=
  IsForest.acyclic fun id => exists_root_of_nth (chains id)

/-- **Everyone below**, where no chain is longer than the query is deep. -/
theorem mem_visibleIds_iff {id : Nat} : id ∈ visibleIds db companyId userId ↔
    (db.user? companyId userId).isSome ∧ Below (db.managers companyId) id userId := by
  rw [mem_visibleIds, below_iff_exists_nth]
  refine and_congr_right fun _ => ⟨fun ⟨places, _, leads⟩ => ⟨places, leads⟩, ?_⟩
  rintro ⟨places, leads⟩
  refine ⟨places, Nat.lt_of_not_le fun beyond => ?_, leads⟩
  obtain ⟨further, rfl⟩ := Nat.exists_eq_add_of_le beyond
  rw [nth_add, chains id, Option.bind_none] at leads
  cases leads

theorem nodup_visibleIds : (visibleIds db companyId userId).Nodup := by
  refine nodup_rounds (fun round _ => nodup_round round)
    fun {first second row row'} less _ isRow isRow' same => ?_
  -- a user in two rounds would be above itself
  obtain ⟨_, _, _, leads⟩ := mem_round.mp isRow
  obtain ⟨_, _, _, leads'⟩ := mem_round.mp isRow'
  obtain ⟨places, rfl⟩ := Nat.exists_eq_add_of_lt less
  rw [← same, Nat.add_assoc, nth_add, leads, Option.bind_some] at leads'
  exact (noCircle_of_chains chains).nth_ne places userId leads'

end Chains

end Rounds

/-! ### The nodes of the hierarchy -/

def shownManager (users : List (Nat × User)) (id : Nat) : Option Nat :=
  ((users.lookup id).bind User.managerId).filter fun managerId =>
    (users.map Prod.fst).contains managerId

section Placing

open UsersService

variable {db : AccessDb} {users : List (Nat × User)}

def filledCell (db : AccessDb) (users : List (Nat × User)) (placed : List Nat) (id : Nat)
    (user : User) : HierarchyCell where
  entry := { hierarchyEntry db id user with
    directReportCount := (childrenOf placed (shownManager users) id).length }
  reports := childrenOf placed (shownManager users) id

structure Filled (db : AccessDb) (users : List (Nat × User)) (placed : List Nat)
    (state : HierarchyState) : Prop where
  roots : state.roots = rootsOf placed (shownManager users)
  nodes : ∀ id, state.nodeById id = (users.lookup id).map (filledCell db users placed id)

theorem Filled.place {placed : List Nat} {state : HierarchyState} {user : Nat × User}
    (filled : Filled db users placed state) (listed : users.lookup user.1 = some user.2) :
    Filled db users (placed ++ [user.1]) (state.place (users.map Prod.fst) user) := by
  have manager : (user.2.managerId.filter fun managerId =>
      (users.map Prod.fst).contains managerId) = shownManager users user.1 := by
    rw [shownManager, listed, Option.bind_some]
  unfold HierarchyState.place
  rw [manager]
  cases shown : shownManager users user.1 with
  | none =>
    refine ⟨?_, fun id => ?_⟩
    · show state.roots ++ [user.1] = _
      rw [filled.roots, rootsOf_concat, if_pos shown]
    · have same : filledCell db users (placed ++ [user.1]) id = filledCell db users placed id := by
        funext row
        rw [filledCell, filledCell, childrenOf_concat, shown, if_neg nofun, List.append_nil]
      rw [same]
      exact filled.nodes id
  | some managerId =>
    have isListed : (users.map Prod.fst).contains managerId :=
      (Option.filter_eq_some_iff.mp shown).2
    obtain ⟨row, found⟩ : ∃ row, users.lookup managerId = some row := by
      refine Option.isSome_iff_exists.mp (List.lookup_isSome_iff.mpr ?_)
      obtain ⟨listedUser, isUser, rfl⟩ := List.mem_map.mp (List.contains_iff_mem.mp isListed)
      exact ⟨listedUser, isUser, beq_self_eq_true _⟩
    have cell : state.nodeById managerId = some (filledCell db users placed managerId row) := by
      rw [filled.nodes, found, Option.map_some]
    rw [Option.bind_some, cell, Option.map_some]
    refine ⟨?_, fun id => ?_⟩
    · show state.roots = _
      rw [filled.roots, rootsOf_concat, shown, if_neg nofun, List.append_nil]
    · show Function.update state.nodeById managerId _ id = _
      by_cases same : id = managerId
      · subst same
        have pushed : (filledCell db users placed id row).push user.1 =
            filledCell db users (placed ++ [user.1]) id row := by
          rw [filledCell, filledCell, childrenOf_concat, shown, if_pos rfl, List.length_append]
          rfl
        rw [Function.update_self, found, Option.map_some, pushed]
      · have kept : filledCell db users (placed ++ [user.1]) id =
            filledCell db users placed id := by
          funext row
          rw [filledCell, filledCell, childrenOf_concat, shown,
            if_neg fun given => same (Option.some.inj given).symm, List.append_nil]
        rw [Function.update_of_ne same, kept]
        exact filled.nodes id

theorem Filled.foldl {placed rest : List (Nat × User)} {state : HierarchyState}
    (filled : Filled db users (placed.map Prod.fst) state)
    (listed : ∀ user ∈ rest, users.lookup user.1 = some user.2) :
    Filled db users ((placed ++ rest).map Prod.fst)
      (rest.foldl (HierarchyState.place (users.map Prod.fst)) state) := by
  induction rest generalizing placed state with
  | nil => rwa [List.append_nil]
  | cons user rest ih =>
    obtain ⟨isListed, listed⟩ := List.forall_mem_cons.mp listed
    have next := filled.place isListed
    rw [← List.map_singleton, ← List.map_append] at next
    rw [List.append_cons]
    exact ih next listed

end Placing

/-! ### What the hierarchy shows -/

def Shown (db : AccessDb) (companyId : Nat) (visibleUserIds : Option (List Nat)) (id : Nat) : Prop :=
  ∃ user, db.user? companyId id = some user ∧ user.isActive = true ∧ ∀ ids ∈ visibleUserIds, id ∈ ids

/-- Every user that is to be shown, once, below the manager if that one is shown too. -/
structure IsHierarchy (db : AccessDb) (companyId : Nat) (visibleUserIds : Option (List Nat))
    (forest : List HierarchyNode) : Prop where
  nodup : ((forest.flatMap Rose.nodes).map HierarchyEntry.id).Nodup
  mem_iff : ∀ id, id ∈ (forest.flatMap Rose.nodes).map HierarchyEntry.id ↔
    Shown db companyId visibleUserIds id
  entry : ∀ tree ∈ forest, ∀ node ∈ tree.subtrees, ∃ user,
    db.user? companyId node.value.id = some user ∧
      node.value = { UsersService.hierarchyEntry db node.value.id user with
        directReportCount := node.branches.length }
  below : ∀ tree ∈ forest, ∀ node ∈ tree.subtrees, ∀ report ∈ node.branches,
    db.managers companyId report.value.id = some node.value.id
  root : ∀ tree ∈ forest, ∀ managerId, db.managers companyId tree.value.id = some managerId →
    ¬Shown db companyId visibleUserIds managerId

section Shown

open UsersService

variable {db : AccessDb} {companyId : Nat} {visibleUserIds : Option (List Nat)}
variable {id : Nat}

theorem mem_hierarchyUsers {user : User} :
    (id, user) ∈ hierarchyUsers db companyId visibleUserIds ↔
      db.user? companyId id = some user ∧ user.isActive = true ∧ ∀ ids ∈ visibleUserIds, id ∈ ids := by
  rw [hierarchyUsers, List.mem_insertionSort, Table.mem_select, AccessDb.user?_eq_some,
    Bool.and_eq_true, Bool.and_eq_true, beq_iff_eq, Option.all_eq_true, and_assoc, and_assoc]
  simp only [List.contains_iff_mem, Option.mem_def]

theorem nodup_hierarchyUsers :
    ((hierarchyUsers db companyId visibleUserIds).map Prod.fst).Nodup :=
  ((List.perm_insertionSort _ _).map Prod.fst).nodup_iff.mpr (db.users.select_nodup _)

theorem mem_map_hierarchyUsers :
    id ∈ (hierarchyUsers db companyId visibleUserIds).map Prod.fst ↔
      Shown db companyId visibleUserIds id := by
  rw [List.mem_map]
  constructor
  · rintro ⟨⟨_, user⟩, listed, rfl⟩
    exact ⟨user, mem_hierarchyUsers.mp listed⟩
  · rintro ⟨user, shown⟩
    exact ⟨(id, user), mem_hierarchyUsers.mpr shown, rfl⟩

theorem lookup_hierarchyUsers {user : User} :
    (hierarchyUsers db companyId visibleUserIds).lookup id = some user ↔
      (id, user) ∈ hierarchyUsers db companyId visibleUserIds :=
  lookup_eq_some_iff_mem nodup_hierarchyUsers

theorem shownManager_eq_some {managerId : Nat} :
    shownManager (hierarchyUsers db companyId visibleUserIds) id = some managerId ↔
      db.managers companyId id = some managerId ∧ Shown db companyId visibleUserIds id ∧
        Shown db companyId visibleUserIds managerId := by
  rw [shownManager, Option.filter_eq_some_iff, Option.bind_eq_some_iff, List.contains_iff_mem,
    mem_map_hierarchyUsers, managers_eq_some]
  constructor
  · rintro ⟨⟨user, listed, manages⟩, shown⟩
    have isShown := mem_hierarchyUsers.mp (lookup_hierarchyUsers.mp listed)
    exact ⟨⟨user, isShown.1, manages⟩, ⟨user, isShown⟩, shown⟩
  · rintro ⟨⟨user, found, manages⟩, ⟨other, same, isShown⟩, shown⟩
    obtain rfl := Option.some.inj (found.symm.trans same)
    exact ⟨⟨user, lookup_hierarchyUsers.mpr (mem_hierarchyUsers.mpr ⟨found, isShown⟩), manages⟩,
      shown⟩

def filledEntry (db : AccessDb) (users : List (Nat × User)) (id : Nat) : HierarchyEntry :=
  ((users.lookup id).map fun user =>
    (filledCell db users (users.map Prod.fst) id user).entry).getD default

/-- **Filling the nodes and reading them off ends**, on any managers. -/
theorem getHierarchy_arranged {fuel : Nat} (enough : db.users.rows.length ≤ fuel) :
    ∃ trees, Arranged ((hierarchyUsers db companyId visibleUserIds).map Prod.fst)
        (shownManager (hierarchyUsers db companyId visibleUserIds)) trees ∧
      getHierarchy fuel db companyId visibleUserIds = some (trees.map
        (Rose.map (filledEntry db (hierarchyUsers db companyId visibleUserIds)))) := by
  have length : ((hierarchyUsers db companyId visibleUserIds).map Prod.fst).length ≤ fuel := by
    rw [List.length_map, hierarchyUsers, List.length_insertionSort]
    exact (List.length_filter_le _ _).trans enough
  unfold getHierarchy
  generalize listed : hierarchyUsers db companyId visibleUserIds = users at *
  have nodup : (users.map Prod.fst).Nodup := listed ▸ nodup_hierarchyUsers
  have inside : ∀ {child node}, shownManager users child = some node →
      child ∈ users.map Prod.fst ∧ node ∈ users.map Prod.fst := by
    intro child node isParent
    rw [← listed] at isParent ⊢
    obtain ⟨_, shown, shown'⟩ := shownManager_eq_some.mp isParent
    exact ⟨mem_map_hierarchyUsers.mpr shown, mem_map_hierarchyUsers.mpr shown'⟩
  have filled : Filled db users (users.map Prod.fst)
      (users.foldl (HierarchyState.place (users.map Prod.fst))
        { nodeById := hierarchyNodes db users }) :=
    @Filled.foldl _ _ [] _ _ ⟨rfl, fun _ => rfl⟩
      fun user isUser => (lookup_eq_some_iff_mem nodup).mpr isUser
  have reads : ∀ id, id ∈ users.map Prod.fst →
      ((users.lookup id).map (filledCell db users (users.map Prod.fst) id)).map
          (fun cell => (cell.entry, cell.reports)) =
        some (filledEntry db users id, childrenOf (users.map Prod.fst) (shownManager users) id) := by
    intro id member
    obtain ⟨⟨_, user⟩, isUser, rfl⟩ := List.mem_map.mp member
    rw [filledEntry, (lookup_eq_some_iff_mem nodup).mpr isUser]
    rfl
  obtain ⟨trees, grows, arranged⟩ := @grow_arranged _ _ (shownManager users) _ nodup inside _ length
  refine ⟨trees, arranged, ?_⟩
  simp only [filled.roots, filled.nodes]
  rw [mapM_readTree_eq reads (fun _ _ _ isChild => (mem_childrenOf.mp isChild).1)
    fun _ isRoot => (mem_rootsOf.mp isRoot).1, grows]
  rfl

theorem id_filledEntry (shown : Shown db companyId visibleUserIds id) :
    (filledEntry db (hierarchyUsers db companyId visibleUserIds) id).id = id := by
  obtain ⟨user, isShown⟩ := shown
  rw [filledEntry, lookup_hierarchyUsers.mpr (mem_hierarchyUsers.mpr isShown)]
  rfl

theorem isHierarchy_of_arranged {trees : List (Rose Nat)}
    (arranged : Arranged ((hierarchyUsers db companyId visibleUserIds).map Prod.fst)
      (shownManager (hierarchyUsers db companyId visibleUserIds)) trees)
    (rooted : ∀ id, Rooted (shownManager (hierarchyUsers db companyId visibleUserIds)) id) :
    IsHierarchy db companyId visibleUserIds (trees.map
      (Rose.map (filledEntry db (hierarchyUsers db companyId visibleUserIds)))) := by
  have member : ∀ id, id ∈ trees.flatMap Rose.nodes ↔ Shown db companyId visibleUserIds id :=
    fun id => by rw [arranged.mem_iff, mem_map_hierarchyUsers, and_iff_left (rooted id)]
  have inTree : ∀ {tree}, tree ∈ trees → ∀ sub ∈ tree.subtrees,
      Shown db companyId visibleUserIds sub.value := fun isTree sub isSub =>
    (member _).mp (List.mem_flatMap.mpr ⟨_, isTree, List.mem_map_of_mem isSub⟩)
  have ids : ((trees.map (Rose.map (filledEntry db (hierarchyUsers db companyId
      visibleUserIds)))).flatMap Rose.nodes).map HierarchyEntry.id = trees.flatMap Rose.nodes := by
    have each : ∀ id ∈ trees.flatMap Rose.nodes, HierarchyEntry.id (filledEntry db
        (hierarchyUsers db companyId visibleUserIds) id) = id :=
      fun id isNode => id_filledEntry ((member id).mp isNode)
    simp only [List.flatMap_map, Rose.nodes_map]
    rw [← List.map_flatMap, List.map_map]
    exact (List.map_congr_left each).trans (List.map_id _)
  refine ⟨ids ▸ arranged.nodup, fun id => ids ▸ member id, ?_, ?_, ?_⟩
  · rintro _ isTree _ isSub
    obtain ⟨tree, inTrees, rfl⟩ := List.mem_map.mp isTree
    rw [Rose.subtrees_map] at isSub
    obtain ⟨sub, inSubtrees, rfl⟩ := List.mem_map.mp isSub
    obtain ⟨user, isShown⟩ := inTree inTrees sub inSubtrees
    refine ⟨user, ?_, ?_⟩
    · rw [Rose.value_map, id_filledEntry ⟨user, isShown⟩]
      exact isShown.1
    · have counted := congrArg List.length (arranged.children tree inTrees sub inSubtrees)
      rw [List.length_map] at counted
      rw [Rose.value_map, Rose.branches_map, List.length_map, counted,
        id_filledEntry ⟨user, isShown⟩, filledEntry,
        lookup_hierarchyUsers.mpr (mem_hierarchyUsers.mpr isShown)]
      rfl
  · rintro _ isTree _ isSub _ isReport
    obtain ⟨tree, inTrees, rfl⟩ := List.mem_map.mp isTree
    rw [Rose.subtrees_map] at isSub
    obtain ⟨sub, inSubtrees, rfl⟩ := List.mem_map.mp isSub
    rw [Rose.branches_map] at isReport
    obtain ⟨report, inBranches, rfl⟩ := List.mem_map.mp isReport
    have isChild := List.mem_map_of_mem (f := Rose.value) inBranches
    rw [arranged.children tree inTrees sub inSubtrees] at isChild
    obtain ⟨manages, shown, shown'⟩ := shownManager_eq_some.mp (mem_childrenOf.mp isChild).2
    rw [Rose.value_map, Rose.value_map, id_filledEntry shown, id_filledEntry shown']
    exact manages
  · rintro _ isTree managerId manages isShown
    obtain ⟨tree, inTrees, rfl⟩ := List.mem_map.mp isTree
    have isRoot := List.mem_map_of_mem (f := Rose.value) inTrees
    rw [arranged.roots] at isRoot
    obtain ⟨listed, noManager⟩ := mem_rootsOf.mp isRoot
    have shown := mem_map_hierarchyUsers.mp listed
    rw [Rose.value_map, id_filledEntry shown] at manages
    have has := shownManager_eq_some.mpr ⟨manages, shown, isShown⟩
    rw [noManager] at has
    cases has

end Shown

/-! ### The closure -/

def AccessDb.ChainsWithin (db : AccessDb) (companyId limit : Nat) : Prop :=
  ∀ id, nth (db.managers companyId) limit id = none

/-- **Team scope is the reporting closure.** On any managers the query and the hierarchy come to an end.
If no chain is longer than the query is deep, so that there is no circle either, the query gives the
user and everyone below, once, and the hierarchy has those of the given ones who are active, once. -/
theorem teamScope_closure (db : AccessDb) (companyId userId : Nat) (permissions : List String) :
    (∃ visible,
      (∀ fuel ≥ 50, TeamScopeService.getVisibleUserIds fuel db companyId userId permissions =
        some visible) ∧
      (visible = none ↔ adminTeamScopeAll ∈ permissions) ∧
      (db.ChainsWithin companyId 50 → ∀ ids ∈ visible, ids.Nodup ∧ ∀ id, id ∈ ids ↔
        (db.user? companyId userId).isSome ∧ Below (db.managers companyId) id userId)) ∧
    ∀ visible, ∀ fuel ≥ db.users.rows.length, ∃ forest,
      UsersService.getHierarchy fuel db companyId visible = some forest ∧
      (db.ChainsWithin companyId 50 → IsHierarchy db companyId visible forest) := by
  refine ⟨⟨_, fun fuel enough => getVisibleUserIds_eq enough permissions, ?_, ?_⟩,
    fun visible fuel enough => ?_⟩
  · by_cases has : adminTeamScopeAll ∈ permissions
    · simp [has]
    · simp [has]
  · intro chains ids given
    split at given
    · cases given
    · cases given
      exact ⟨nodup_visibleIds chains, fun _ => mem_visibleIds_iff chains⟩
  · obtain ⟨trees, arranged, built⟩ := getHierarchy_arranged enough
    refine ⟨_, built, fun chains => isHierarchy_of_arranged arranged fun id => ?_⟩
    have ends : nth (shownManager (UsersService.hierarchyUsers db companyId visible)) 50 id =
        none := by
      refine Option.eq_none_iff_forall_ne_some.mpr fun other leads => ?_
      have further := nth_mono (fun manages => (shownManager_eq_some.mp manages).1) leads
      rw [chains id] at further
      cases further
    exact exists_root_of_nth ends

/-- The clerk reports to the manager, who is no longer active, and the manager to the owner. -/
def reportingCompany : AccessDb :=
  (smallCompany.updateUser 1 fun user =>
    { user with managerId := some 0, isActive := false }).updateUser 2 fun user =>
      { user with managerId := some 1 }

theorem reportingCompany_chains : reportingCompany.ChainsWithin 0 50 := by
  intro id
  rcases Nat.lt_or_ge id 3 with listed | unlisted
  · interval_cases id <;> decide
  · have absent : reportingCompany.users.find? id = none := Table.find?_of_nextId_le unlisted
    have noManager : reportingCompany.managers 0 id = none := by
      rw [AccessDb.managers, managersOf, AccessDb.staff, absent]
      rfl
    rw [nth, noManager, Option.bind_none]

theorem teamScope_closure_reportingCompany :
    ∃ forest, UsersService.getHierarchy 3 reportingCompany 0 none = some forest ∧
      IsHierarchy reportingCompany 0 none forest := by
  obtain ⟨forest, built, isHierarchy⟩ :=
    (teamScope_closure reportingCompany 0 0 [adminTeamScopeAll]).2 none 3 (by decide)
  exact ⟨forest, built, isHierarchy reportingCompany_chains⟩

end OpenEstate
