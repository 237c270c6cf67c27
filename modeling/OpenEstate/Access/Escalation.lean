/-
**No escalation.**

Accounts that edit roles and users, none of them a super admin, reach no further together than each
of them does at first, however they combine their edits.

* `WithinAuthority` is what one accepted call leaves: whatever role or user it changes was within
  what its caller holds, and is so afterwards;
* `withinAuthority_of_perform`: every accepted call is within its caller's authority;
* `no_escalation`: any number of calls are within the bound of the group.
-/

import Mathlib.Data.Set.Lattice
import Mathlib.Order.CompletePartialOrder
import OpenEstate.Access.Users
import OpenEstate.Relational.Run

namespace OpenEstate

open Relational

/-! ### Calls -/

inductive AccessRequest
  | createRole (companyId : Nat) (data : CreateRoleDto)
  | updateRole (companyId roleId : Nat) (data : UpdateRoleDto)
  | removeRole (companyId roleId : Nat)
  | createUser (companyId : Nat) (dto : CreateUserDto) (passwordHash : String)
  | updateUser (companyId userId : Nat) (dto : UpdateUserDto)

structure AccessCall where
  callerId : Nat
  request : AccessRequest

/-- Whether an edit of a user ends the user's sessions: it gives another role. -/
def UsersService.roleChanged (target : UsersService.Target) (dto : UpdateUserDto) : Bool :=
  dto.roleId.any fun roleId => roleId != target.roleId

def AccessCall.perform (call : AccessCall) : AccessTx Unit :=
  match call.request with
  | .createRole companyId data => RolesService.create companyId data call.callerId
  | .updateRole companyId roleId data => do
    RolesService.update companyId roleId data call.callerId
    match data.permissionIds with
    | none => return
    | some _ => AuthzVersionService.bumpRole roleId
  | .removeRole companyId roleId => RolesService.remove companyId roleId call.callerId
  | .createUser companyId dto passwordHash =>
    UsersService.create companyId dto passwordHash call.callerId
  | .updateUser companyId userId dto => do
    let target ← UsersService.update companyId userId dto call.callerId
    AuthzVersionService.bumpUsers (if UsersService.roleChanged target dto then [userId] else [])

def execAccess (call : AccessCall) (db : AccessDb) : Except ServiceError AccessDb :=
  Prod.snd <$> call.perform.run db

/-! ### What roles and accounts reach -/

inductive AccessObject
  | role (id : Nat)
  | account (id : Nat)

namespace AccessDb

def account? (db : AccessDb) (id : Nat) : Option (User × Option Role) :=
  (db.users.find? id).map fun user => (user, db.roles.find? user.roleId)

def decidingRole (db : AccessDb) : AccessObject → Option Role
  | .role id => db.roles.find? id
  | .account id => (db.account? id).bind Prod.snd

def effective (db : AccessDb) (object : AccessObject) : Set String :=
  { key | ∃ role, db.decidingRole object = some role ∧ key ∈ db.roleKeys role }

def HoldsSuperAdmin (db : AccessDb) (id : Nat) : Prop :=
  ∃ role, db.decidingRole (.account id) = some role ∧ isSuperAdminRole role = true

end AccessDb

def AccessObject.Unchanged : AccessObject → AccessDb → AccessDb → Prop
  | .role id, db, after => after.roles.find? id = db.roles.find? id
  | .account id, db, after => after.account? id = db.account? id

/-- The caller may act on the role that decides what an object reaches, if there is one. -/
def AccessDb.MayActOnObject (db : AccessDb) (callerId : Nat) (role : Option Role) : Prop :=
  ∀ found ∈ role, db.MayActOn callerId found

/-- **What a call does is within its caller's authority.** -/
structure WithinAuthority (callerId : Nat) (db after : AccessDb) : Prop where
  permissions : after.permissions = db.permissions
  roles : ∀ id, after.roles.find? id = db.roles.find? id ∨
    (db.MayActOnObject callerId (db.roles.find? id) ∧
      db.MayActOnObject callerId (after.roles.find? id))
  users : ∀ id, after.users.find? id = db.users.find? id ∨
    (db.MayActOnObject callerId (db.decidingRole (.account id)) ∧
      db.MayActOnObject callerId (after.decidingRole (.account id)))

namespace WithinAuthority

variable {callerId : Nat} {db after : AccessDb}

theorem object (within : WithinAuthority callerId db after) (object : AccessObject) :
    object.Unchanged db after ∨
      (db.MayActOnObject callerId (db.decidingRole object) ∧
        db.MayActOnObject callerId (after.decidingRole object)) := by
  cases object with
  | role id => exact within.roles id
  | account id =>
    rcases within.users id with sameUser | acted
    · cases present : db.users.find? id with
      | none =>
        refine Or.inl ?_
        simp [AccessObject.Unchanged, AccessDb.account?, sameUser, present]
      | some user =>
        have was : db.decidingRole (.account id) = db.roles.find? user.roleId := by
          simp [AccessDb.decidingRole, AccessDb.account?, present]
        have is : after.decidingRole (.account id) = after.roles.find? user.roleId := by
          simp [AccessDb.decidingRole, AccessDb.account?, sameUser, present]
        rcases within.roles user.roleId with sameRole | acted
        · refine Or.inl ?_
          simp [AccessObject.Unchanged, AccessDb.account?, sameUser, present, sameRole]
        · rw [was, is]
          exact Or.inr acted
    · exact Or.inr acted

theorem decidingRole_eq {object : AccessObject} (same : object.Unchanged db after) :
    after.decidingRole object = db.decidingRole object := by
  cases object with
  | role id => exact same
  | account id => exact congrArg (Option.bind · Prod.snd) same

theorem roleKeys_eq (within : WithinAuthority callerId db after) (role : Role) :
    after.roleKeys role = db.roleKeys role := by
  unfold AccessDb.roleKeys AccessDb.allPermissionKeys AccessDb.storedKeys
  rw [within.permissions]

end WithinAuthority

theorem AccessDb.MayActOn.roleKeys_subset {db : AccessDb} {callerId : Nat} {role : Role}
    (may : db.MayActOn callerId role) {key : String} (member : key ∈ db.roleKeys role) :
    key ∈ db.effective (.account callerId) := by
  obtain ⟨user, callerRole, userFound, roleFound, superOnly, subset⟩ := may
  have deciding : db.decidingRole (.account callerId) = some callerRole := by
    simp [AccessDb.decidingRole, AccessDb.account?, userFound, roleFound]
  refine ⟨callerRole, deciding, ?_⟩
  by_cases super : isSuperAdminRole role = true
  · unfold AccessDb.roleKeys at member ⊢
    rw [if_pos super] at member
    rw [if_pos (superOnly super)]
    exact member
  · unfold AccessDb.roleKeys at member
    rw [if_neg super] at member
    exact subset key member

/-- **A call within its caller's authority is confined to what the caller reaches.** -/
theorem WithinAuthority.confined {callerId : Nat} {db after : AccessDb}
    (within : WithinAuthority callerId db after) :
    Confined AccessObject.Unchanged AccessDb.effective (.account callerId) db after := by
  intro object
  rcases within.object object with same | ⟨before, now⟩
  · refine Or.inl ⟨same, ?_⟩
    rintro key ⟨role, deciding, member⟩
    rw [WithinAuthority.decidingRole_eq same] at deciding
    rw [within.roleKeys_eq] at member
    exact ⟨role, deciding, member⟩
  · refine Or.inr ⟨?_, ?_⟩
    · rintro key ⟨role, deciding, member⟩
      exact (before role deciding).roleKeys_subset member
    · rintro key ⟨role, deciding, member⟩
      rw [within.roleKeys_eq] at member
      exact (now role deciding).roleKeys_subset member

theorem WithinAuthority.holdsSuperAdmin {callerId id : Nat} {db after : AccessDb}
    (within : WithinAuthority callerId db after) (ordinary : ¬db.HoldsSuperAdmin callerId)
    (holds : after.HoldsSuperAdmin id) : db.HoldsSuperAdmin id := by
  obtain ⟨role, deciding, super⟩ := holds
  rcases within.object (.account id) with same | ⟨_, now⟩
  · rw [WithinAuthority.decidingRole_eq same] at deciding
    exact ⟨role, deciding, super⟩
  · obtain ⟨user, callerRole, userFound, roleFound, superOnly, _⟩ := now role deciding
    refine absurd ⟨callerRole, ?_, superOnly super⟩ ordinary
    simp [AccessDb.decidingRole, AccessDb.account?, userFound, roleFound]

/-! ### Every accepted call -/

section Perform

variable {callerId : Nat} {db after : AccessDb}
variable {role : Role}

theorem withinAuthority_createRole (may : db.MayActOn callerId role) :
    WithinAuthority callerId db (db.createRole role) where
  permissions := rfl
  roles := by
    intro id
    show (db.roles.create role).find? id = _ ∨ _ ∧
      db.MayActOnObject callerId ((db.roles.create role).find? id)
    rw [Table.find?_create]
    by_cases new : id = db.roles.nextId
    · rw [if_pos new, new, Table.find?_nextId]
      refine Or.inr ⟨nofun, fun found same => ?_⟩
      cases same
      exact may
    · exact Or.inl (if_neg new)
  users := fun _ => Or.inl rfl

variable {roleId : Nat}

theorem withinAuthority_deleteRole (found : db.roles.find? roleId = some role)
    (may : db.MayActOn callerId role) :
    WithinAuthority callerId db (db.deleteRole roleId) where
  permissions := rfl
  roles := by
    intro id
    show (db.roles.delete fun key _ => key == roleId).find? id = _ ∨ _ ∧
      db.MayActOnObject callerId ((db.roles.delete fun key _ => key == roleId).find? id)
    rw [Table.find?_delete]
    by_cases same : id = roleId
    · subst same
      rw [found]
      refine Or.inr ⟨fun other same => ?_, fun other left => ?_⟩
      · cases same
        exact may
      · simp at left
    · refine Or.inl ?_
      cases db.roles.find? id with
      | none => rfl
      | some other => simp [same]
  users := fun _ => Or.inl rfl

theorem withinAuthority_updateRole {change : Role → Role}
    (found : db.roles.find? roleId = some role) (may : db.MayActOn callerId role)
    (mayChanged : db.MayActOn callerId (change role))
    (permissions : after.permissions = db.permissions)
    (roles : after.roles = db.roles.modify roleId change)
    (users : ∀ id, after.users.find? id = db.users.find? id ∨
      ∃ user, db.users.find? id = some user ∧ user.roleId = roleId ∧
        after.users.find? id = some user.bump) : WithinAuthority callerId db after where
  permissions := permissions
  roles := by
    intro id
    rw [roles, Table.find?_modify]
    by_cases same : id = roleId
    · subst same
      rw [if_pos rfl, found]
      refine Or.inr ⟨fun other same => ?_, fun other same => ?_⟩
      · cases same
        exact may
      · cases same
        exact mayChanged
    · exact Or.inl (if_neg same)
  users := by
    intro id
    rcases users id with same | ⟨user, present, holds, bumped⟩
    · exact Or.inl same
    · refine Or.inr ⟨fun other deciding => ?_, fun other deciding => ?_⟩
      · simp only [AccessDb.decidingRole, AccessDb.account?, present, holds, found,
          Option.map_some, Option.bind_some] at deciding
        cases deciding
        exact may
      · have roleAfter : after.roles.find? user.bump.roleId = some (change role) := by
          rw [roles, show user.bump.roleId = roleId from holds, Table.find?_modify_self, found]
          rfl
        simp only [AccessDb.decidingRole, AccessDb.account?, bumped, roleAfter,
          Option.map_some, Option.bind_some] at deciding
        cases deciding
        exact mayChanged

theorem withinAuthority_createUser {user : User} (found : db.roles.find? user.roleId = some role)
    (may : db.MayActOn callerId role) :
    WithinAuthority callerId db (db.createUser user) where
  permissions := rfl
  roles := fun _ => Or.inl rfl
  users := by
    intro id
    by_cases new : id = db.users.nextId
    · subst new
      refine Or.inr ⟨fun other deciding => ?_, fun other deciding => ?_⟩
      · simp [AccessDb.decidingRole, AccessDb.account?, Table.find?_nextId] at deciding
      · have present : (db.createUser user).users.find? db.users.nextId = some user :=
          Table.find?_create_self _ _
        have same : (db.createUser user).roles.find? user.roleId = some role := found
        simp only [AccessDb.decidingRole, AccessDb.account?, present, same, Option.map_some,
          Option.bind_some] at deciding
        cases deciding
        exact may
    · exact Or.inl ((Table.find?_create _ _ _).trans (if_neg new))

theorem withinAuthority_updateUser {userId : Nat} {user : User} {change : User → User}
    {newRole : Role} (present : db.users.find? userId = some user)
    (found : db.roles.find? user.roleId = some role) (may : db.MayActOn callerId role)
    (newFound : db.roles.find? (change user).roleId = some newRole)
    (mayNew : db.MayActOn callerId newRole) :
    WithinAuthority callerId db (db.updateUser userId change) where
  permissions := rfl
  roles := fun _ => Or.inl rfl
  users := by
    intro id
    show (db.users.modify userId change).find? id = _ ∨ _
    by_cases same : id = userId
    · subst same
      refine Or.inr ⟨fun other deciding => ?_, fun other deciding => ?_⟩
      · simp only [AccessDb.decidingRole, AccessDb.account?, present, found, Option.map_some,
          Option.bind_some] at deciding
        cases deciding
        exact may
      · have presentAfter : (db.updateUser id change).users.find? id = some (change user) := by
          rw [AccessDb.updateUser, Table.find?_modify_self, present]
          rfl
        have sameRoles : (db.updateUser id change).roles.find? (change user).roleId =
            some newRole := newFound
        simp only [AccessDb.decidingRole, AccessDb.account?, presentAfter, sameRoles,
          Option.map_some, Option.bind_some] at deciding
        cases deciding
        exact mayNew
    · exact Or.inl (Table.find?_modify_of_ne _ _ same)

theorem run_updateRole_ends {permissionIds : Option (List Nat)} {done : Unit}
    (ran : (match permissionIds with
      | none => pure ()
      | some _ => AuthzVersionService.bumpRole roleId : AccessTx Unit).run db = .ok (done, after)) :
    after.permissions = db.permissions ∧ after.roles = db.roles ∧
      ∀ id, after.users.find? id = db.users.find? id ∨
        ∃ user, db.users.find? id = some user ∧ user.roleId = roleId ∧
          after.users.find? id = some user.bump := by
  cases permissionIds with
  | none =>
    cases ran
    exact ⟨rfl, rfl, fun _ => Or.inl rfl⟩
  | some _ =>
    cases ran
    refine ⟨rfl, rfl, fun id => ?_⟩
    let userIds := (db.users.select fun _ user => user.roleId == roleId).map Prod.fst
    have rewritten := Table.find?_modifyAll db.users
      (fun id user => decide (id ∈ userIds) && user.roleId == roleId) User.bump id
    cases present : db.users.find? id with
    | none =>
      rw [present] at rewritten
      exact Or.inl rewritten
    | some user =>
      rw [present, Option.map_some] at rewritten
      split at rewritten
      · rename_i held
        exact Or.inr ⟨user, rfl, beq_iff_eq.mp (Bool.and_eq_true_iff.mp held).2, rewritten⟩
      · exact Or.inl rewritten

theorem withinAuthority_of_perform {call : AccessCall} (accepted : execAccess call db = .ok after) :
    WithinAuthority call.callerId db after := by
  obtain ⟨⟨done, _⟩, ran, rfl⟩ := map_eq_ok.mp accepted
  unfold AccessCall.perform at ran
  cases kind : call.request with
  | createRole companyId data =>
    simp only [kind] at ran
    obtain ⟨role, _, may, rfl⟩ := RolesService.create_run ran
    exact withinAuthority_createRole may
  | updateRole companyId roleId data =>
    simp only [kind] at ran
    obtain ⟨_, middle, edited, ended⟩ := Tx.run_bind_eq_ok.mp ran
    obtain ⟨role, found, may, mayEdited, rfl⟩ := RolesService.update_run edited
    obtain ⟨permissions, roles, users⟩ := run_updateRole_ends ended
    exact withinAuthority_updateRole found may mayEdited permissions roles users
  | removeRole companyId roleId =>
    simp only [kind] at ran
    obtain ⟨role, found, may, _, rfl⟩ := RolesService.remove_run ran
    exact withinAuthority_deleteRole found may
  | createUser companyId dto passwordHash =>
    simp only [kind] at ran
    obtain ⟨user, role, found, may, rfl⟩ := UsersService.create_run ran
    exact withinAuthority_createUser found may
  | updateUser companyId userId dto =>
    simp only [kind] at ran
    obtain ⟨target, middle, edited, ended⟩ := Tx.run_bind_eq_ok.mp ran
    obtain ⟨user, present, found, _, may, assignable, rfl⟩ := UsersService.update_run edited
    obtain ⟨newRole, newFound, mayNew⟩ : ∃ newRole,
        db.roles.find? (dto.apply user).roleId = some newRole ∧
          db.MayActOn call.callerId newRole := by
      cases given : dto.roleId with
      | none => exact ⟨target.role, by simpa [UpdateUserDto.apply, given] using found, may⟩
      | some roleId =>
        obtain ⟨newRole, newFound, mayNew⟩ := assignable roleId given
        exact ⟨newRole, by simpa [UpdateUserDto.apply, given] using newFound, mayNew⟩
    split at ended
    · cases ended
      show WithinAuthority _ db
        { db with users := (db.users.modify userId dto.apply).modify userId User.bump }
      rw [Table.modify_modify]
      have same : (dto.apply user).bump.roleId = (dto.apply user).roleId := rfl
      exact withinAuthority_updateUser present found may (same ▸ newFound) mayNew
    · cases ended
      exact withinAuthority_updateUser present found may newFound mayNew

end Perform

/-! ### Any number of calls -/

theorem ordinary_of_states {group : Set Nat} {db : AccessDb} {calls : List AccessCall}
    (byGroup : ∀ call ∈ calls, call.callerId ∈ group)
    (ordinary : ∀ id ∈ group, ¬db.HoldsSuperAdmin id) :
    ∀ visited ∈ states execAccess db calls, ∀ id ∈ group, ¬visited.HoldsSuperAdmin id := by
  rw [forall_states_iff_beginnings]
  intro earlier isPrefix
  have all : ∀ call ∈ earlier, call.callerId ∈ group :=
    fun call member => byGroup call (isPrefix.subset member)
  have kept : ∀ (call : AccessCall) (before after : AccessDb), call.callerId ∈ group →
      (∀ id ∈ group, ¬before.HoldsSuperAdmin id) → execAccess call before = .ok after →
      ∀ id ∈ group, ¬after.HoldsSuperAdmin id := by
    intro call before after member ordinary accepted id inGroup holds
    have within := withinAuthority_of_perform accepted
    exact ordinary id inGroup (within.holdsSuperAdmin (ordinary _ member) holds)
  exact run_invariant all kept ordinary

/-- **No escalation.** Accounts none of which is a super admin, and which hold nothing outside `S`
at first, hold nothing outside `S` at any point of a run of their calls, and none becomes a super
admin. Whatever role or account they create, change or remove has nothing outside `S` before, and
never has from then on. -/
theorem no_escalation {group : Set Nat} {S : Set String} {db : AccessDb} {calls : List AccessCall}
    (byGroup : ∀ call ∈ calls, call.callerId ∈ group)
    (ordinary : ∀ id ∈ group, ¬db.HoldsSuperAdmin id)
    (within : ∀ id ∈ group, db.effective (.account id) ⊆ S) :
    (∀ visited ∈ states execAccess db calls, ∀ id ∈ group,
      ¬visited.HoldsSuperAdmin id ∧ visited.effective (.account id) ⊆ S) ∧
    ∀ earlier call later after, calls = earlier ++ call :: later →
      execAccess call (run execAccess db earlier) = .ok after →
      ∀ object, ¬AccessObject.Unchanged object (run execAccess db earlier) after →
        (run execAccess db earlier).effective object ⊆ S ∧
        ∀ visited ∈ states execAccess after later, visited.effective object ⊆ S := by
  have confined : ∀ (call : AccessCall) (before after : AccessDb),
      execAccess call before = .ok after →
      Confined AccessObject.Unchanged AccessDb.effective (.account call.callerId) before after :=
    fun call before after accepted => (withinAuthority_of_perform accepted).confined
  let members : AccessObject → Prop := fun object => ∃ id ∈ group, object = .account id
  have acts : ∀ call ∈ calls, members (.account call.callerId) :=
    fun call member => ⟨_, byGroup call member, rfl⟩
  have bounded : ∀ object, members object → db.effective object ⊆ S := by
    rintro _ ⟨id, member, rfl⟩
    exact within id member
  refine ⟨fun visited member id inGroup => ⟨?_, ?_⟩, ?_⟩
  · exact ordinary_of_states byGroup ordinary visited member id inGroup
  · exact states_reach_le confined acts bounded visited member _ (Or.inl ⟨id, inGroup, rfl⟩)
  · rintro earlier call later after rfl accepted object changed
    exact changed_reach_le confined acts bounded accepted changed

/-- The manager creates a role and gives it to the clerk, who tries to give the manager the role of
the owner. -/
def managerCalls : List AccessCall :=
  [⟨1, .createRole 0 { name := "Editor", slug := "editor", permissionIds := [1] }⟩,
   ⟨1, .updateUser 0 2 { roleId := some 3 }⟩,
   ⟨2, .updateUser 0 1 { roleId := some 0 }⟩]

example : (steps execAccess smallCompany managerCalls).length = 2 := by decide

/-- The clerk stays within what the manager holds. -/
theorem no_escalation_smallCompany :
    ¬(run execAccess smallCompany managerCalls).HoldsSuperAdmin 2 ∧
      (run execAccess smallCompany managerCalls).effective (.account 2) ⊆
        {"admin.user.read", "admin.user.update"} := by
  refine (@no_escalation {1, 2} _ _ _ ?_ ?_ ?_).1 _ (run_mem_states _ _) 2 (Or.inr rfl)
  · intro call member
    simp only [managerCalls, List.mem_cons, List.not_mem_nil, or_false] at member
    rcases member with rfl | rfl | rfl <;> simp
  · rintro id (rfl | rfl) ⟨role, deciding, super⟩
    · cases deciding
      exact absurd super (by decide)
    · cases deciding
      exact absurd super (by decide)
  · rintro id (rfl | rfl) key ⟨role, deciding, member⟩
    · cases deciding
      have listed : key ∈ ["admin.user.read", "admin.user.update"] := member
      simpa using listed
    · cases deciding
      have listed : key ∈ ["admin.user.read"] := member
      exact Or.inl (List.mem_singleton.mp listed)

end OpenEstate
