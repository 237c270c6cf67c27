/-
**You cannot act on or grant beyond what you hold.**

The checks that every action on a user or a role makes of its caller, who is loaded afresh from the
database:

* `assertPermissionSubset_eq_ok`: the caller holds every permission of the target;
* `assertActorIsSuperAdminIfTargetIs_eq_ok`: only a super admin acts on the super admin's role;
* `run_loadCurrentCaller_bind`: what is known of a caller that could be loaded.
-/

import Mathlib.Data.List.Sort
import OpenEstate.Access.Schema

namespace OpenEstate

open Relational

/-! ### What a role holds -/

namespace AccessDb

def allPermissionKeys (db : AccessDb) : List String :=
  db.permissions.rows.map fun row => row.2.key

def storedKeys (db : AccessDb) (role : Role) : List String :=
  role.permissions.filterMap fun id => (db.permissions.find? id).map Permission.key

def loadPermissionKeys (db : AccessDb) (permissionIds : List Nat) : List String :=
  (db.permissions.select fun id _ => decide (id ∈ permissionIds)).map fun row => row.2.key

theorem mem_loadPermissionKeys {db : AccessDb} {permissionIds : List Nat} {key : String} :
    key ∈ db.loadPermissionKeys permissionIds ↔
      ∃ id ∈ permissionIds, ∃ permission, db.permissions.find? id = some permission ∧
        permission.key = key := by
  unfold loadPermissionKeys
  rw [List.mem_map]
  constructor
  · rintro ⟨⟨id, permission⟩, listed, rfl⟩
    obtain ⟨found, named⟩ := Table.mem_select.mp listed
    exact ⟨id, of_decide_eq_true named, permission, found, rfl⟩
  · rintro ⟨id, named, permission, found, rfl⟩
    exact ⟨(id, permission), Table.mem_select.mpr ⟨found, decide_eq_true named⟩, rfl⟩

theorem mem_storedKeys {db : AccessDb} {role : Role} {key : String} :
    key ∈ db.storedKeys role ↔
      ∃ id ∈ role.permissions, ∃ permission, db.permissions.find? id = some permission ∧
        permission.key = key := by
  unfold storedKeys
  simp only [List.mem_filterMap, Option.map_eq_some_iff]

theorem mem_storedKeys_iff_load {db : AccessDb} {role : Role} {key : String} :
    key ∈ db.storedKeys role ↔ key ∈ db.loadPermissionKeys role.permissions := by
  rw [mem_storedKeys, mem_loadPermissionKeys]

end AccessDb

/-! ### The caller -/

structure CallerContext where
  id : Nat
  roleId : Nat
  roleSlug : String
  roleIsSystem : Bool
  isActive : Bool
  permissionKeys : List String

/-- What a role lets its holders do: the super admin holds every permission that exists, anybody
else what is stored for the role. -/
def AccessDb.roleKeys (db : AccessDb) (role : Role) : List String :=
  if isSuperAdminRole role then db.allPermissionKeys else db.storedKeys role

/-- Load the caller afresh: the user with the role, then what the role lets its holders do. -/
def loadCurrentCaller (callerId : Nat) : AccessTx CallerContext := do
  let found ← Tx.query fun db => do
    let user ← orThrow (db.users.find? callerId) (.error "No record was found for a query.")
    let role ← orThrow (db.roles.find? user.roleId) (.error "No record was found for a query.")
    return (user, role)
  let permissionKeys ← Tx.read fun db => db.roleKeys found.2
  return {
    id := callerId
    roleId := found.1.roleId
    roleSlug := found.2.slug
    roleIsSystem := found.2.isSystem
    isActive := found.1.isActive
    permissionKeys }

def assertCallerActive (caller : CallerContext) : Except ServiceError Unit :=
  ensure (caller.isActive = true) (.forbidden "Your account is no longer active.")

def CallerContext.isSuper (caller : CallerContext) : Bool :=
  caller.roleIsSystem && caller.roleSlug == superAdminSlug

theorem loadCurrentCaller_readOnly (callerId : Nat) :
    (loadCurrentCaller callerId).ReadOnly (fun _ => True) fun _ => True :=
  .query_bind fun _ => .read_bind fun _ _ => .done trivial

theorem run_loadCurrentCaller_bind {α : Type} {callerId : Nat} {later : CallerContext → AccessTx α}
    {db : AccessDb} {answer : α × AccessDb}
    (ran : (loadCurrentCaller callerId >>= later).run db = .ok answer) :
    ∃ user role caller, db.users.find? callerId = some user ∧
      db.roles.find? user.roleId = some role ∧ caller.permissionKeys = db.roleKeys role ∧
      caller.isSuper = isSuperAdminRole role ∧ (later caller).run db = .ok answer := by
  obtain ⟨caller, middle, loaded, ran⟩ := Tx.run_bind_eq_ok.mp ran
  unfold loadCurrentCaller at loaded
  obtain ⟨⟨user, role⟩, found, loaded⟩ := Tx.run_query_bind_eq_ok.mp loaded
  simp only [bind_eq_ok, orThrow_eq_ok, pure_eq_ok, Prod.mk.injEq] at found
  obtain ⟨_, userFound, _, roleFound, rfl, rfl⟩ := found
  cases loaded
  exact ⟨_, _, _, userFound, roleFound, rfl, rfl, ran⟩

/-! ### The checks -/

def assertPermissionSubset (callerPermissionKeys targetPermissionKeys : List String)
    (message : String := "You do not have all the permissions this action requires.") :
    Except ServiceError Unit :=
  let missing := (targetPermissionKeys.filter fun key =>
    !decide (key ∈ callerPermissionKeys)).insertionSort (· ≤ ·)
  let listed := ", ".intercalate missing
  ensure (missing = []) (.forbidden s!"{message} Missing: {listed}")

def assertActorIsSuperAdminIfTargetIs (caller : CallerContext) (targetRole : Role) :
    Except ServiceError Unit :=
  ensure (isSuperAdminRole targetRole = true → caller.isSuper = true)
    (.forbidden "Only a super_admin may act on a super_admin account.")

theorem assertPermissionSubset_eq_ok {callerKeys targetKeys : List String} {message : String}
    {done : Unit} : assertPermissionSubset callerKeys targetKeys message = .ok done ↔
      ∀ key ∈ targetKeys, key ∈ callerKeys := by
  unfold assertPermissionSubset
  rw [ensure_eq_ok, ← List.length_eq_zero_iff, List.length_insertionSort, List.length_eq_zero_iff,
    List.filter_eq_nil_iff]
  simp

/-- The caller may act on a role, or grant it: it is the super admin's only if the caller's is, and
the caller holds what is stored for it. -/
def AccessDb.MayActOn (db : AccessDb) (callerId : Nat) (role : Role) : Prop :=
  ∃ user callerRole, db.users.find? callerId = some user ∧
    db.roles.find? user.roleId = some callerRole ∧
    (isSuperAdminRole role = true → isSuperAdminRole callerRole = true) ∧
    ∀ key ∈ db.storedKeys role, key ∈ db.roleKeys callerRole

theorem assertActorIsSuperAdminIfTargetIs_eq_ok {caller : CallerContext} {targetRole : Role}
    {done : Unit} : assertActorIsSuperAdminIfTargetIs caller targetRole = .ok done ↔
      (isSuperAdminRole targetRole = true → caller.isSuper = true) :=
  ensure_eq_ok

end OpenEstate
