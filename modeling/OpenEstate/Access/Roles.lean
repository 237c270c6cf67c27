/-
**Roles.**

A caller creates, edits and deletes roles of the company, within the permissions the caller holds.

* `create_run`, `update_run`, `remove_run`: what a call that is accepted, run alone, has checked of
  its caller, and what it leaves.
-/

import OpenEstate.Access.Permission

namespace OpenEstate

open Relational

/-! ### Requests -/

structure CreateRoleDto where
  name : String
  slug : String
  permissionIds : List Nat := []

structure UpdateRoleDto where
  name : Option String := none
  permissionIds : Option (List Nat) := none

/-! ### Writes -/

namespace AccessDb

def checkRolePermissions (db : AccessDb) (permissionIds : List Nat) : Except ServiceError Unit := do
  ensure permissionIds.Nodup
    (.error "Unique constraint failed on the fields: (role_id,permission_id)")
  ensure (∀ id ∈ permissionIds, (db.permissions.find? id).isSome = true)
    (.error "Foreign key constraint violated: role_permissions_permission_id_fkey")

def createRole (db : AccessDb) (role : Role) : AccessDb :=
  { db with roles := db.roles.create role }

def updateRole (db : AccessDb) (roleId : Nat) (change : Role → Role) : AccessDb :=
  { db with roles := db.roles.modify roleId change }

def deleteRole (db : AccessDb) (roleId : Nat) : AccessDb :=
  { db with roles := db.roles.delete fun id _ => id == roleId }

def countUsers (db : AccessDb) (roleId : Nat) : Nat :=
  db.users.count fun _ user => user.roleId == roleId

end AccessDb

def User.bump (user : User) : User :=
  { user with authzVersion := user.authzVersion + 1 }

def AuthzVersionService.bumpUsers (userIds : List Nat) : AccessTx Unit :=
  Tx.forEach userIds fun userId => Tx.update (.user userId) fun db =>
    { db with users := db.users.modify userId User.bump }

def AuthzVersionService.bumpRole (roleId : Nat) : AccessTx Unit :=
  Tx.updateMany (fun db => (db.users.select fun _ user => user.roleId == roleId).map Prod.fst) .user
    fun userIds db => { db with
      users := db.users.modifyAll
        (fun id user => decide (id ∈ userIds) && user.roleId == roleId) User.bump }

/-! ### The service -/

namespace RolesService

def findOne (companyId roleId : Nat) : AccessTx Role :=
  Tx.query fun db => orThrow (db.role? companyId roleId) (.notFound "Role not found")

def notAllowed (keys : List String) : List String :=
  (keys.filter fun key => !"portal.".toList.isPrefixOf key.toList).insertionSort (· ≤ ·)

def create (companyId : Nat) (data : CreateRoleDto) (callerId : Nat) : AccessTx Unit := do
  let caller ← loadCurrentCaller callerId
  Tx.check (assertCallerActive caller)
  Tx.check (ensure (data.slug ≠ superAdminSlug)
    (.badRequest s!"The slug '{superAdminSlug}' is reserved."))
  Tx.query fun db => ensure
    (db.roles.any (fun _ role => role.slug == data.slug && role.companyId == companyId) = false)
    (.badRequest "Role slug already exists")
  -- the permissions of the new role are what is granted here
  let grantedKeys ← Tx.read fun db => db.loadPermissionKeys data.permissionIds
  Tx.check (assertPermissionSubset caller.permissionKeys grantedKeys
    "You cannot create a role with permissions you do not have.")
  Tx.query fun db => db.checkRolePermissions data.permissionIds
  Tx.insert fun db => db.createRole {
    companyId
    name := data.name
    slug := data.slug
    permissions := data.permissionIds }

def edited (data : UpdateRoleDto) (role : Role) : Role :=
  { role with
    name := (data.name.filter (· ≠ "")).getD role.name
    permissions := data.permissionIds.getD role.permissions }

def update (companyId roleId : Nat) (data : UpdateRoleDto) (callerId : Nat) : AccessTx Unit := do
  let caller ← loadCurrentCaller callerId
  Tx.check (assertCallerActive caller)
  let role ← findOne companyId roleId
  Tx.check (ensure (role.isSystem = true → ∀ name ∈ data.name, name = role.name)
    (.badRequest "Cannot rename system roles"))
  Tx.check (ensure (isSuperAdminRole role = true → data.permissionIds = none)
    (.badRequest (s!"The {superAdminSlug} role's permissions cannot be edited; " ++
      "it always holds every permission.")))
  let grantedKeys ← Tx.read fun db => db.loadPermissionKeys (data.permissionIds.getD [])
  Tx.check (ensure (role.isPortal = true → notAllowed grantedKeys = [])
    (.badRequest ("Portal roles can only hold portal permissions. Not allowed: " ++
      ", ".intercalate (notAllowed grantedKeys))))
  let currentKeys ← Tx.read fun db => db.storedKeys role
  Tx.check (assertActorIsSuperAdminIfTargetIs caller role)
  Tx.check (assertPermissionSubset caller.permissionKeys currentKeys
    "You cannot edit a role that holds permissions you do not have.")
  Tx.check (assertPermissionSubset caller.permissionKeys grantedKeys
    "You cannot grant a role permissions you do not have.")
  Tx.query fun db => db.checkRolePermissions (data.permissionIds.getD [])
  Tx.update (.role roleId) fun db => db.updateRole roleId (edited data)

def remove (companyId roleId callerId : Nat) : AccessTx Unit := do
  let caller ← loadCurrentCaller callerId
  Tx.check (assertCallerActive caller)
  let role ← findOne companyId roleId
  Tx.check (ensure (role.isSystem = false) (.badRequest "Cannot delete system roles"))
  Tx.query fun db => ensure (db.countUsers roleId = 0)
    (.badRequest "Cannot delete role with assigned users")
  let currentKeys ← Tx.read fun db => db.storedKeys role
  Tx.check (assertActorIsSuperAdminIfTargetIs caller role)
  Tx.check (assertPermissionSubset caller.permissionKeys currentKeys
    "You cannot delete a role that holds permissions you do not have.")
  Tx.update (.role roleId) fun db => db.deleteRole roleId

/-! ### What an accepted call has checked -/

variable {companyId callerId : Nat} {after : AccessDb} {done : Unit}

theorem create_run {data : CreateRoleDto} {db : AccessDb}
    (ran : (create companyId data callerId).run db = .ok (done, after)) :
    ∃ role, isSuperAdminRole role = false ∧ db.MayActOn callerId role ∧
      after = db.createRole role := by
  unfold create at ran
  obtain ⟨user, callerRole, caller, userFound, roleFound, keys, _, ran⟩ :=
    run_loadCurrentCaller_bind ran
  simp only [Tx.run_check_bind_eq_ok, Tx.run_query_bind_eq_ok, Tx.run_read_bind, ensure_eq_ok,
    assertPermissionSubset_eq_ok] at ran
  obtain ⟨_, _, _, _, _, _, _, subset, _, _, ran⟩ := ran
  cases ran
  refine ⟨_, ?_, ⟨user, callerRole, userFound, roleFound, ?_, ?_⟩, rfl⟩
  · rfl
  · intro super
    exact absurd super Bool.false_ne_true
  · intro key member
    rw [← keys]
    exact subset key (AccessDb.mem_storedKeys_iff_load.mp member)

theorem update_run {roleId : Nat} {data : UpdateRoleDto} {db : AccessDb}
    (ran : (update companyId roleId data callerId).run db = .ok (done, after)) :
    ∃ role, db.roles.find? roleId = some role ∧ db.MayActOn callerId role ∧
      db.MayActOn callerId (edited data role) ∧ after = db.updateRole roleId (edited data) := by
  unfold update findOne at ran
  obtain ⟨user, callerRole, caller, userFound, roleFound, keys, super, ran⟩ :=
    run_loadCurrentCaller_bind ran
  simp only [Tx.run_check_bind_eq_ok, Tx.run_query_bind_eq_ok, Tx.run_read_bind, ensure_eq_ok,
    orThrow_eq_ok, AccessDb.role?_eq_some, assertActorIsSuperAdminIfTargetIs_eq_ok,
    assertPermissionSubset_eq_ok, keys, super] at ran
  obtain ⟨_, _, role, ⟨found, _⟩, _, _, _, _, _, _, _, superOnly, _, subset, _, granted, _, _,
    ran⟩ := ran
  cases ran
  refine ⟨role, found, ⟨user, callerRole, userFound, roleFound, superOnly, subset⟩,
    ⟨user, callerRole, userFound, roleFound, superOnly, fun key member => ?_⟩, rfl⟩
  rw [AccessDb.mem_storedKeys_iff_load] at member
  cases given : data.permissionIds with
  | none =>
    simp only [edited, given, Option.getD_none] at member
    exact subset key (AccessDb.mem_storedKeys_iff_load.mpr member)
  | some permissionIds =>
    simp only [edited, given, Option.getD_some] at member granted
    exact granted key member

theorem remove_run {roleId : Nat} {db : AccessDb}
    (ran : (remove companyId roleId callerId).run db = .ok (done, after)) :
    ∃ role, db.roles.find? roleId = some role ∧ db.MayActOn callerId role ∧
      db.countUsers roleId = 0 ∧ after = db.deleteRole roleId := by
  unfold remove findOne at ran
  obtain ⟨user, callerRole, caller, userFound, roleFound, keys, super, ran⟩ :=
    run_loadCurrentCaller_bind ran
  simp only [Tx.run_check_bind_eq_ok, Tx.run_query_bind_eq_ok, Tx.run_read_bind, ensure_eq_ok,
    orThrow_eq_ok, AccessDb.role?_eq_some, assertActorIsSuperAdminIfTargetIs_eq_ok,
    assertPermissionSubset_eq_ok, keys, super] at ran
  obtain ⟨_, _, role, ⟨found, _⟩, _, _, _, unused, _, superOnly, _, subset, ran⟩ := ran
  cases ran
  exact ⟨role, found, ⟨user, callerRole, userFound, roleFound, superOnly, subset⟩, unused, rfl⟩

end RolesService

end OpenEstate
