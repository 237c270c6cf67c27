/-
**Users.**

A caller creates, edits and deactivates users of the company whose roles hold nothing the caller
does not. What would leave the company without an active super admin is refused, after the rows of
the other super admins are locked; whether this check is made depends on the role that the user had
when the request read it.

* `create_run`, `update_run`: what a call that is accepted, run alone, has checked of its caller,
  and what it leaves.
-/

import OpenEstate.Access.Roles

namespace OpenEstate

open Relational

/-! ### Requests -/

structure CreateUserDto where
  email : String
  name : String
  roleId : Nat
  phone : Option String := none
  managerId : Option (Option Nat) := none

structure UpdateUserDto where
  name : Option String := none
  roleId : Option Nat := none
  phone : Option String := none
  managerId : Option (Option Nat) := none

def UpdateUserDto.apply (dto : UpdateUserDto) (user : User) : User :=
  { user with
    name := dto.name.getD user.name
    roleId := dto.roleId.getD user.roleId
    phone := dto.phone.or user.phone
    managerId := dto.managerId.getD user.managerId }

def User.deactivated (user : User) : User :=
  { user with isActive := false }

/-! ### Writes -/

namespace AccessDb

def createUser (db : AccessDb) (user : User) : AccessDb :=
  { db with users := db.users.create user }

def updateUser (db : AccessDb) (userId : Nat) (change : User → User) : AccessDb :=
  { db with users := db.users.modify userId change }

theorem find?_updateUser_self {db : AccessDb} {userId : Nat} {user : User}
    (present : db.users.find? userId = some user) (change : User → User) :
    (db.updateUser userId change).users.find? userId = some (change user) := by
  show (db.users.modify userId change).find? userId = _
  rw [Table.find?_modify_self, present]
  rfl

/-! ### The last super admin -/

def superAdminRole? (db : AccessDb) (companyId : Nat) : Option (Nat × Role) :=
  db.roles.findFirst? fun _ role => role.companyId == companyId && isSuperAdminRole role

def activeHolder (db : AccessDb) (companyId roleId userId : Nat) : Bool :=
  (db.user? companyId userId).any fun user => user.roleId == roleId && user.isActive

/-- The users of the company, but for one, that are active and hold a role. -/
def otherHolders (db : AccessDb) (companyId roleId excludeUserId : Nat) : List Nat :=
  (db.users.select fun id _ => db.activeHolder companyId roleId id && id != excludeUserId).map
    Prod.fst

end AccessDb

/-- Lock the rows a query has found, one after the other. A row that has changed in the meantime is
met as it is now, and left out if it is no longer among those asked for. -/
def lockForUpdate (asked : AccessDb → Nat → Bool) : List Nat → AccessTx (List Nat)
  | [] => .done []
  | id :: rest => .stmt [.user id] (fun db => db) fun seen => do
    let locked ← lockForUpdate asked rest
    return if asked seen id then id :: locked else locked

def assertSuperAdminNotEmptied (companyId excludeUserId : Nat) : AccessTx Unit := do
  let found ← Tx.read fun db => db.superAdminRole? companyId
  match found with
  | none => return
  | some (roleId, _) =>
    let candidates ← Tx.read fun db => db.otherHolders companyId roleId excludeUserId
    let rows ← lockForUpdate (fun db => db.activeHolder companyId roleId) candidates
    Tx.check (ensure (rows ≠ [])
      (.forbidden "This would leave the company with no active super_admin user."))

def guardLastSuperAdmin (needed : Bool) (companyId userId : Nat) : AccessTx Unit :=
  if needed then assertSuperAdminNotEmptied companyId userId else .done ()

theorem lockForUpdate_writes (asked : AccessDb → Nat → Bool) (ids : List Nat) :
    (lockForUpdate asked ids).Writes (· = id) := by
  induction ids with
  | nil => exact .done []
  | cons id rest ih => exact .stmt rfl fun seen => ih.bind fun locked => .done _

theorem guardLastSuperAdmin_writes (needed : Bool) (companyId userId : Nat) :
    (guardLastSuperAdmin needed companyId userId).Writes (· = id) := by
  cases needed with
  | false => exact .done ()
  | true =>
    refine .bind (.read ?_ _) fun found => ?_
    · rfl
    · cases found with
      | none => exact .done ()
      | some role =>
        refine .bind (.read ?_ _) fun candidates => (lockForUpdate_writes _ _).bind fun rows => ?_
        · rfl
        · exact .check _

/-! ### The service -/

namespace UsersService

def findOne (companyId userId : Nat) : AccessTx User :=
  Tx.query fun db => orThrow (db.user? companyId userId) (.notFound "User not found")

def loadRoleForSubsetCheck (companyId roleId : Nat) : AccessTx (Role × List String) :=
  Tx.query fun db => do
    let role ← orThrow (db.role? companyId roleId) (.badRequest "Role not found")
    return (role, db.storedKeys role)

def assertRoleFitsAccount (companyId roleId : Nat) (isPortalAccount : Bool) : AccessTx Unit :=
  Tx.query fun db => do
    let role ← orThrow (db.role? companyId roleId) (.badRequest "Role not found")
    ensure (isPortalAccount = true → role.isPortal = true)
      (.badRequest "A customer or broker portal account can only be given a portal role.")
    ensure (isPortalAccount = false → role.isPortal = false)
      (.badRequest "A staff account cannot be given a portal role.")

/-- Walk up from a manager, a bounded number of hops, until the top or the user in question. -/
def walkManagers (companyId userId : Nat) : Nat → Option Nat → AccessTx Unit
  | 0, _ | _, none => .done ()
  | hops + 1, some current => do
    Tx.check (ensure (current ≠ userId)
      (.badRequest "This manager assignment would create a management cycle"))
    let next ← Tx.read fun db => (db.user? companyId current).bind User.managerId
    walkManagers companyId userId hops next

def assertValidManager (companyId : Nat) (userId candidateManagerId : Option Nat) :
    AccessTx Unit :=
  match candidateManagerId with
  | none => .done ()
  | some managerId => do
    Tx.check (ensure (userId ≠ some managerId) (.badRequest "A user cannot be their own manager"))
    let candidate ← Tx.query fun db => orThrow (db.user? companyId managerId)
      (.badRequest "Manager not found in this company")
    match userId with
    | none => return
    | some userId => walkManagers companyId userId 20 candidate.managerId

def assertManagerOf (companyId : Nat) (userId : Option Nat) (managerId : Option (Option Nat)) :
    AccessTx Unit :=
  match managerId with
  | none => .done ()
  | some candidate => assertValidManager companyId userId candidate

/-- Create a staff account. `passwordHash` is what hashing the password of the request answers. -/
def create (companyId : Nat) (dto : CreateUserDto) (passwordHash : String) (callerId : Nat) :
    AccessTx Unit := do
  let caller ← loadCurrentCaller callerId
  Tx.check (assertCallerActive caller)
  Tx.query fun db => ensure
    (db.users.any (fun _ user => user.email == some dto.email && user.companyId == companyId) =
      false)
    (.badRequest "Email already in use")
  assertManagerOf companyId none dto.managerId
  assertRoleFitsAccount companyId dto.roleId false
  let newRole ← loadRoleForSubsetCheck companyId dto.roleId
  Tx.check (assertActorIsSuperAdminIfTargetIs caller newRole.1)
  Tx.check (assertPermissionSubset caller.permissionKeys newRole.2
    "You cannot create a user with a role that holds permissions you do not have.")
  Tx.insert fun db => db.createUser {
    companyId
    email := some dto.email
    name := dto.name
    passwordHash
    roleId := dto.roleId
    phone := dto.phone
    managerId := dto.managerId.getD none }

structure Target where
  roleId : Nat
  role : Role

def assertAssignable (companyId : Nat) (caller : CallerContext) (user : User) :
    Option Nat → AccessTx Unit
  | none => .done ()
  | some roleId => do
    assertRoleFitsAccount companyId roleId (user.applicantId.isSome || user.brokerId.isSome)
    let newRole ← loadRoleForSubsetCheck companyId roleId
    Tx.check (assertActorIsSuperAdminIfTargetIs caller newRole.1)
    Tx.check (assertPermissionSubset caller.permissionKeys newRole.2
      "You cannot assign a role that holds permissions you do not have.")

/-- Whether an edit needs the check for the last super admin, by the role its user was found to
have. -/
def lockoutCheckNeeded (target : Target) (dto : UpdateUserDto) : Bool :=
  dto.roleId.any fun roleId => isSuperAdminRole target.role && roleId != target.roleId

/-- Check that the caller may act on a user: what the request has found is the answer. -/
def assertMayAct (companyId userId : Nat) (dto : UpdateUserDto) (callerId : Nat) :
    AccessTx Target := do
  let caller ← loadCurrentCaller callerId
  Tx.check (assertCallerActive caller)
  Tx.check (ensure (userId = callerId → dto.roleId = none)
    (.badRequest "You cannot change your own role."))
  let user ← findOne companyId userId
  assertManagerOf companyId (some userId) dto.managerId
  let currentRole ← loadRoleForSubsetCheck companyId user.roleId
  Tx.check (assertActorIsSuperAdminIfTargetIs caller currentRole.1)
  Tx.check (assertPermissionSubset caller.permissionKeys currentRole.2
    "You cannot edit a user whose role holds permissions you do not have.")
  assertAssignable companyId caller user dto.roleId
  return { roleId := user.roleId, role := currentRole.1 }

def update (companyId userId : Nat) (dto : UpdateUserDto) (callerId : Nat) : AccessTx Target := do
  let target ← assertMayAct companyId userId dto callerId
  guardLastSuperAdmin (lockoutCheckNeeded target dto) companyId userId
  Tx.update (.user userId) fun db => db.updateUser userId dto.apply
  return target

def deactivate (companyId userId callerId : Nat) : AccessTx Target := do
  let caller ← loadCurrentCaller callerId
  Tx.check (assertCallerActive caller)
  let user ← findOne companyId userId
  let currentRole ← loadRoleForSubsetCheck companyId user.roleId
  Tx.check (assertActorIsSuperAdminIfTargetIs caller currentRole.1)
  Tx.check (assertPermissionSubset caller.permissionKeys currentRole.2
    "You cannot deactivate a user whose role holds permissions you do not have.")
  guardLastSuperAdmin (isSuperAdminRole currentRole.1) companyId userId
  Tx.update (.user userId) fun db => db.updateUser userId User.deactivated
  return { roleId := user.roleId, role := currentRole.1 }

/-! ### Reading -/

theorem walkManagers_readOnly (companyId userId hops : Nat) (current : Option Nat) :
    (walkManagers companyId userId hops current).ReadOnly (fun _ => True) fun _ => True := by
  induction hops generalizing current with
  | zero => exact .done trivial
  | succ hops ih =>
    cases current with
    | none => exact .done trivial
    | some current =>
      unfold walkManagers
      exact .check_bind fun _ _ => .read_bind fun _ _ => ih _

theorem assertManagerOf_readOnly (companyId : Nat) (userId : Option Nat)
    (managerId : Option (Option Nat)) :
    (assertManagerOf companyId userId managerId).ReadOnly (fun _ => True) fun _ => True := by
  cases managerId with
  | none => exact .done trivial
  | some candidate =>
    cases candidate with
    | none => exact .done trivial
    | some managerId =>
      refine .check_bind fun _ _ => .query_bind fun candidate => ?_
      cases userId with
      | none => exact .done trivial
      | some userId => exact walkManagers_readOnly companyId userId 20 _

theorem assertAssignable_readOnly (companyId : Nat) (caller : CallerContext) (user : User)
    (roleId : Option Nat) :
    (assertAssignable companyId caller user roleId).ReadOnly (fun _ => True) fun _ => True := by
  cases roleId with
  | none => exact .done trivial
  | some roleId =>
    refine .query_bind fun _ => .query_bind fun newRole => .check_bind fun _ _ => ?_
    exact .check fun _ _ => trivial

/-! ### What an accepted call has checked -/

variable {companyId : Nat} {db : AccessDb}

theorem assertRoleFitsAccount_run {roleId : Nat} {isPortalAccount : Bool} {α : Type}
    {later : Unit → AccessTx α} {answer : α × AccessDb}
    (ran : (assertRoleFitsAccount companyId roleId isPortalAccount >>= later).run db = .ok answer) :
    (later ()).run db = .ok answer := by
  obtain ⟨_, _, ran⟩ := Tx.run_query_bind_eq_ok.mp ran
  exact ran

theorem run_loadRoleForSubsetCheck_bind {roleId : Nat} {α : Type}
    {later : Role × List String → AccessTx α} {answer : α × AccessDb}
    (ran : (loadRoleForSubsetCheck companyId roleId >>= later).run db = .ok answer) :
    ∃ role, db.role? companyId roleId = some role ∧
      (later (role, db.storedKeys role)).run db = .ok answer := by
  unfold loadRoleForSubsetCheck at ran
  simp only [Tx.run_query_bind_eq_ok, bind_eq_ok, orThrow_eq_ok, pure_eq_ok] at ran
  obtain ⟨_, ⟨role, found, rfl⟩, ran⟩ := ran
  exact ⟨role, found, ran⟩

theorem create_run {callerId : Nat} {dto : CreateUserDto} {passwordHash : String} {after : AccessDb}
    {done : Unit} (ran : (create companyId dto passwordHash callerId).run db = .ok (done, after)) :
    ∃ user role, db.roles.find? user.roleId = some role ∧ db.MayActOn callerId role ∧
      after = db.createUser user := by
  unfold create at ran
  obtain ⟨user, callerRole, caller, userFound, roleFound, keys, super, ran⟩ :=
    run_loadCurrentCaller_bind ran
  obtain ⟨_, _, ran⟩ := Tx.run_check_bind_eq_ok.mp ran
  obtain ⟨_, _, ran⟩ := Tx.run_query_bind_eq_ok.mp ran
  obtain ⟨_, _, ran⟩ := (assertManagerOf_readOnly _ _ _).writes.run_bind ran
  have ran := assertRoleFitsAccount_run ran
  obtain ⟨role, found, ran⟩ := run_loadRoleForSubsetCheck_bind ran
  simp only [Tx.run_check_bind_eq_ok, assertActorIsSuperAdminIfTargetIs_eq_ok,
    assertPermissionSubset_eq_ok, keys, super] at ran
  obtain ⟨_, superOnly, _, subset, ran⟩ := ran
  cases ran
  exact ⟨_, role, (AccessDb.role?_eq_some.mp found).1,
    ⟨user, callerRole, userFound, roleFound, superOnly, subset⟩, rfl⟩

theorem assertAssignable_run {caller : CallerContext} {user : User} {roleId : Option Nat} {α : Type}
    {later : Unit → AccessTx α} {answer : α × AccessDb}
    (ran : (assertAssignable companyId caller user roleId >>= later).run db = .ok answer) :
    (∀ given ∈ roleId, ∃ role, db.role? companyId given = some role ∧
        (isSuperAdminRole role = true → caller.isSuper = true) ∧
        ∀ key ∈ db.storedKeys role, key ∈ caller.permissionKeys) ∧
      (later ()).run db = .ok answer := by
  cases roleId with
  | none => exact ⟨nofun, ran⟩
  | some given =>
    obtain ⟨_, middle, assigned, ran⟩ := Tx.run_bind_eq_ok.mp ran
    have assigned := assertRoleFitsAccount_run assigned
    obtain ⟨role, found, assigned⟩ := run_loadRoleForSubsetCheck_bind assigned
    simp only [Tx.run_check_bind_eq_ok, Tx.run_check_eq_ok,
      assertActorIsSuperAdminIfTargetIs_eq_ok, assertPermissionSubset_eq_ok] at assigned
    obtain ⟨_, superOnly, subset, rfl⟩ := assigned
    refine ⟨fun other same => ?_, ran⟩
    cases same
    exact ⟨role, found, superOnly, subset⟩

theorem update_run {userId callerId : Nat} {dto : UpdateUserDto} {after : AccessDb}
    {target : Target} (ran : (update companyId userId dto callerId).run db = .ok (target, after)) :
    ∃ user, db.users.find? userId = some user ∧ db.roles.find? user.roleId = some target.role ∧
      target.roleId = user.roleId ∧ db.MayActOn callerId target.role ∧
      (∀ roleId ∈ dto.roleId, ∃ role, db.roles.find? roleId = some role ∧
        db.MayActOn callerId role) ∧
      after = db.updateUser userId dto.apply := by
  unfold update at ran
  obtain ⟨found, middle, checked, ran⟩ := Tx.run_bind_eq_ok.mp ran
  unfold assertMayAct findOne at checked
  obtain ⟨callerUser, callerRole, caller, userFound, roleFound, keys, super, checked⟩ :=
    run_loadCurrentCaller_bind checked
  simp only [Tx.run_check_bind_eq_ok, Tx.run_query_bind_eq_ok, orThrow_eq_ok,
    AccessDb.user?_eq_some] at checked
  obtain ⟨_, _, _, _, user, ⟨present, _⟩, checked⟩ := checked
  obtain ⟨_, _, checked⟩ := (assertManagerOf_readOnly _ _ _).writes.run_bind checked
  obtain ⟨role, current, checked⟩ := run_loadRoleForSubsetCheck_bind checked
  simp only [Tx.run_check_bind_eq_ok, assertActorIsSuperAdminIfTargetIs_eq_ok,
    assertPermissionSubset_eq_ok, keys, super] at checked
  obtain ⟨_, superOnly, _, subset, checked⟩ := checked
  obtain ⟨assignable, checked⟩ := assertAssignable_run checked
  cases checked
  obtain ⟨_, _, ran⟩ := (guardLastSuperAdmin_writes _ _ _).run_bind ran
  cases ran
  refine ⟨user, present, (AccessDb.role?_eq_some.mp current).1, rfl,
    ⟨callerUser, callerRole, userFound, roleFound, superOnly, subset⟩, fun roleId given => ?_, rfl⟩
  obtain ⟨newRole, newFound, newSuper, newSubset⟩ := assignable roleId given
  rw [super] at newSuper
  rw [keys] at newSubset
  exact ⟨newRole, (AccessDb.role?_eq_some.mp newFound).1,
    callerUser, callerRole, userFound, roleFound, newSuper, newSubset⟩

end UsersService

end OpenEstate
