/-
**The managers of a company.**

A user may have a manager, another user of the company. Before a manager is written the chain above is
walked, of which the user must not be a part; the walk ends after twenty hops.

* `walkManagers_run`: what the walk has seen;
* `execAccess_staff`: what a call does to the users of the companies and to their managers;
* `managers_acyclic_iff`: in which runs no circle of managers comes to be.
-/

import OpenEstate.Access.Escalation
import OpenEstate.Relational.Forest

namespace OpenEstate

open Relational

/-! ### The relation -/

/-- The manager of a user of a company, where of every user the company and the manager are given. -/
def managersOf (staff : Nat → Option (Nat × Option Nat)) (companyId id : Nat) : Option Nat :=
  (staff id).bind fun user => if user.1 = companyId then user.2 else none

namespace AccessDb

def staff (db : AccessDb) (id : Nat) : Option (Nat × Option Nat) :=
  (db.users.find? id).map fun user => (user.companyId, user.managerId)

def managers (db : AccessDb) : Nat → Nat → Option Nat := managersOf db.staff

def ManagersStored (db : AccessDb) : Prop :=
  ∀ companyId id managerId, db.managers companyId id = some managerId →
    (db.staff managerId).isSome

def NoManagementCycle (db : AccessDb) : Prop :=
  ∀ companyId, NoCircle (db.managers companyId)

theorem bind_user? (db : AccessDb) (companyId id : Nat) :
    (db.user? companyId id).bind User.managerId = db.managers companyId id := by
  rw [user?, managers, managersOf, staff]
  cases db.users.find? id with
  | none => rfl
  | some user =>
    rw [Option.map_some, Option.bind_some, Option.filter_some]
    by_cases same : user.companyId = companyId
    · rw [if_pos (beq_iff_eq.mpr same), if_pos same, Option.bind_some]
    · rw [if_neg (by simpa using same), if_neg same, Option.bind_none]

end AccessDb

section Staff

variable {staff : Nat → Option (Nat × Option Nat)} {companyId other id : Nat}
  {managerId : Option Nat}

theorem managersOf_update_self :
    managersOf (Function.update staff id (some (companyId, managerId))) companyId =
      Function.update (managersOf staff companyId) id managerId := by
  funext user
  by_cases same : user = id
  · subst same
    rw [managersOf, Function.update_self, Function.update_self]
    exact if_pos rfl
  · rw [managersOf, Function.update_of_ne same, Function.update_of_ne same]
    rfl

theorem managersOf_update_other (apart : other ≠ companyId)
    (noneBefore : managersOf staff other id = none) :
    managersOf (Function.update staff id (some (companyId, managerId))) other =
      managersOf staff other := by
  funext user
  by_cases same : user = id
  · subst same
    rw [noneBefore, managersOf, Function.update_self]
    exact if_neg apart.symm
  · rw [managersOf, Function.update_of_ne same]
    rfl

end Staff

/-! ### What is checked -/

namespace UsersService

theorem walkManagers_run {companyId userId hops : Nat} {current : Option Nat} {db after : AccessDb}
    {done : Unit} (ran : (walkManagers companyId userId hops current).run db = .ok (done, after)) :
    ∀ places < hops, current.bind (nth (db.managers companyId) places) ≠ some userId := by
  induction hops generalizing current with
  | zero => exact nofun
  | succ hops ih =>
    cases current with
    | none => exact fun _ _ => nofun
    | some current =>
      unfold walkManagers at ran
      obtain ⟨_, checked, ran⟩ := Tx.run_check_bind_eq_ok.mp ran
      rw [Tx.run_read_bind, AccessDb.bind_user?] at ran
      intro places within
      cases places with
      | zero =>
        intro same
        exact ensure_eq_ok.mp checked (Option.some.inj same)
      | succ places => exact ih ran places (Nat.lt_of_succ_lt_succ within)

theorem assertManagerOf_run {companyId managerId : Nat} {userId : Option Nat}
    {db after : AccessDb} {done : Unit}
    (ran : (assertManagerOf companyId userId (some (some managerId))).run db = .ok (done, after)) :
    (db.staff managerId).isSome ∧
      ∀ id ∈ userId, ∀ places ≤ 20, nth (db.managers companyId) places managerId ≠ some id := by
  unfold assertManagerOf assertValidManager at ran
  obtain ⟨_, differs, ran⟩ := Tx.run_check_bind_eq_ok.mp ran
  obtain ⟨candidate, found, ran⟩ := Tx.run_query_bind_eq_ok.mp ran
  rw [orThrow_eq_ok] at found
  have present := (AccessDb.user?_eq_some.mp found).1
  refine ⟨by rw [AccessDb.staff, present]; rfl, fun id given places within => ?_⟩
  obtain rfl : userId = some id := given
  cases places with
  | zero =>
    intro same
    exact ensure_eq_ok.mp differs (congrArg some (Option.some.inj same).symm)
  | succ places =>
    have above : db.managers companyId managerId = candidate.managerId := by
      rw [← AccessDb.bind_user?, found, Option.bind_some]
    have seen := walkManagers_run ran places (Nat.lt_of_succ_le within)
    rwa [nth, above]

end UsersService

/-! ### What a call does -/

section Effect

variable {db after : AccessDb}

theorem staff_createUser (db : AccessDb) (user : User) : (db.createUser user).staff =
    Function.update db.staff db.users.nextId (some (user.companyId, user.managerId)) := by
  funext id
  show ((db.users.create user).find? id).map _ = _
  rw [Table.find?_create]
  by_cases new : id = db.users.nextId
  · rw [if_pos new, new, Function.update_self]
    rfl
  · rw [if_neg new, Function.update_of_ne new]
    rfl

theorem staff_updateUser {userId : Nat} {user : User} {change : User → User}
    (present : db.users.find? userId = some user)
    (company : (change user).companyId = user.companyId) : (db.updateUser userId change).staff =
      Function.update db.staff userId (some (user.companyId, (change user).managerId)) := by
  funext id
  show ((db.users.modify userId change).find? id).map _ = _
  rw [Table.find?_modify]
  by_cases same : id = userId
  · rw [if_pos same, same, present, Function.update_self, ← company]
    rfl
  · rw [if_neg same, Function.update_of_ne same]
    rfl

theorem staff_congr (users : ∀ id, after.users.find? id = db.users.find? id ∨
    ∃ user, db.users.find? id = some user ∧ after.users.find? id = some user.bump) :
    after.staff = db.staff := by
  funext id
  rw [AccessDb.staff, AccessDb.staff]
  rcases users id with same | ⟨user, present, bumped⟩
  · rw [same]
  · rw [present, bumped]
    rfl

theorem staff_bumpUsers {changed : Bool} {userId : Nat}
    (ended : (AuthzVersionService.bumpUsers (if changed then [userId] else [])).run db =
      .ok ((), after)) : after.staff = db.staff := by
  refine staff_congr fun id => ?_
  split at ended
  · cases ended
    by_cases same : id = userId
    · subst same
      cases present : db.users.find? id with
      | none =>
        left
        show (db.users.modify id User.bump).find? id = none
        rw [Table.find?_modify_self, present]
        rfl
      | some user =>
        refine Or.inr ⟨user, rfl, ?_⟩
        show (db.users.modify id User.bump).find? id = _
        rw [Table.find?_modify_self, present]
        rfl
    · exact Or.inl (Table.find?_modify_of_ne _ _ same)
  · cases ended
    exact Or.inl rfl

theorem create_staff {companyId callerId : Nat} {dto : CreateUserDto} {passwordHash : String}
    {done : Unit}
    (ran : (UsersService.create companyId dto passwordHash callerId).run db = .ok (done, after)) :
    after.staff = Function.update db.staff db.users.nextId
        (some (companyId, dto.managerId.getD none)) ∧
      ∀ managerId, dto.managerId = some (some managerId) → (db.staff managerId).isSome := by
  unfold UsersService.create at ran
  obtain ⟨user, callerRole, caller, userFound, roleFound, keys, super, ran⟩ :=
    run_loadCurrentCaller_bind ran
  obtain ⟨_, _, ran⟩ := Tx.run_check_bind_eq_ok.mp ran
  obtain ⟨_, _, ran⟩ := Tx.run_query_bind_eq_ok.mp ran
  obtain ⟨_, managed, ran⟩ := (UsersService.assertManagerOf_readOnly _ _ _).writes.run_bind ran
  have ran := UsersService.assertRoleFitsAccount_run ran
  obtain ⟨role, found, ran⟩ := UsersService.run_loadRoleForSubsetCheck_bind ran
  obtain ⟨_, _, ran⟩ := Tx.run_check_bind_eq_ok.mp ran
  obtain ⟨_, _, ran⟩ := Tx.run_check_bind_eq_ok.mp ran
  cases ran
  refine ⟨staff_createUser _ _, fun managerId given => ?_⟩
  rw [given] at managed
  exact (UsersService.assertManagerOf_run managed).1

theorem update_staff {companyId userId callerId : Nat} {dto : UpdateUserDto}
    {target : UsersService.Target}
    (ran : (UsersService.update companyId userId dto callerId).run db = .ok (target, after)) :
    ∃ managerId, db.staff userId = some (companyId, managerId) ∧
      after.staff = Function.update db.staff userId
        (some (companyId, dto.managerId.getD managerId)) ∧
      ∀ managerId, dto.managerId = some (some managerId) → (db.staff managerId).isSome ∧
        ∀ places ≤ 20, nth (db.managers companyId) places managerId ≠ some userId := by
  unfold UsersService.update at ran
  obtain ⟨found, middle, checked, ran⟩ := Tx.run_bind_eq_ok.mp ran
  unfold UsersService.assertMayAct UsersService.findOne at checked
  obtain ⟨_, _, caller, _, _, _, _, checked⟩ := run_loadCurrentCaller_bind checked
  simp only [Tx.run_check_bind_eq_ok, Tx.run_query_bind_eq_ok, orThrow_eq_ok,
    AccessDb.user?_eq_some] at checked
  obtain ⟨_, _, _, _, user, ⟨present, company⟩, checked⟩ := checked
  obtain ⟨_, managed, checked⟩ :=
    (UsersService.assertManagerOf_readOnly _ _ _).writes.run_bind checked
  obtain ⟨role, _, checked⟩ := UsersService.run_loadRoleForSubsetCheck_bind checked
  obtain ⟨_, _, checked⟩ := Tx.run_check_bind_eq_ok.mp checked
  obtain ⟨_, _, checked⟩ := Tx.run_check_bind_eq_ok.mp checked
  obtain ⟨_, checked⟩ := UsersService.assertAssignable_run checked
  cases checked
  obtain ⟨_, _, ran⟩ := (guardLastSuperAdmin_writes _ _ _).run_bind ran
  cases ran
  subst company
  refine ⟨user.managerId, ?_, staff_updateUser present rfl, fun managerId given => ?_⟩
  · rw [AccessDb.staff, present]
    rfl
  · rw [given] at managed
    obtain ⟨stored, walked⟩ := UsersService.assertManagerOf_run managed
    exact ⟨stored, walked userId rfl⟩

theorem execAccess_staff {call : AccessCall} (accepted : execAccess call db = .ok after) :
    (after.staff = db.staff ∧ ∀ companyId userId dto managerId,
        call.request = .updateUser companyId userId dto → dto.managerId ≠ some managerId) ∨
      (∃ companyId dto passwordHash, call.request = .createUser companyId dto passwordHash ∧
        after.staff = Function.update db.staff db.users.nextId
          (some (companyId, dto.managerId.getD none)) ∧
        ∀ managerId, dto.managerId = some (some managerId) → (db.staff managerId).isSome) ∨
      ∃ companyId userId dto managerId, call.request = .updateUser companyId userId dto ∧
        dto.managerId = some managerId ∧ (∃ old, db.staff userId = some (companyId, old)) ∧
        after.staff = Function.update db.staff userId (some (companyId, managerId)) ∧
        ∀ above ∈ managerId, (db.staff above).isSome ∧
          ∀ places ≤ 20, nth (db.managers companyId) places above ≠ some userId := by
  obtain ⟨⟨done, _⟩, ran, rfl⟩ := map_eq_ok.mp accepted
  unfold AccessCall.perform at ran
  cases kind : call.request with
  | createRole companyId data =>
    simp only [kind] at ran
    obtain ⟨_, _, _, rfl⟩ := RolesService.create_run ran
    exact Or.inl ⟨rfl, nofun⟩
  | updateRole companyId roleId data =>
    simp only [kind] at ran
    obtain ⟨_, middle, edited, ended⟩ := Tx.run_bind_eq_ok.mp ran
    obtain ⟨_, _, _, _, rfl⟩ := RolesService.update_run edited
    obtain ⟨_, _, users⟩ := run_updateRole_ends ended
    refine Or.inl ⟨staff_congr fun id => ?_, nofun⟩
    exact (users id).imp_right fun ⟨user, present, _, bumped⟩ => ⟨user, present, bumped⟩
  | removeRole companyId roleId =>
    simp only [kind] at ran
    obtain ⟨_, _, _, _, rfl⟩ := RolesService.remove_run ran
    exact Or.inl ⟨rfl, nofun⟩
  | createUser companyId dto passwordHash =>
    simp only [kind] at ran
    obtain ⟨written, stored⟩ := create_staff ran
    exact Or.inr (Or.inl ⟨companyId, dto, passwordHash, rfl, written, stored⟩)
  | updateUser companyId userId dto =>
    simp only [kind] at ran
    obtain ⟨target, middle, edited, ended⟩ := Tx.run_bind_eq_ok.mp ran
    obtain ⟨old, present, written, checked⟩ := update_staff edited
    cases given : dto.managerId with
    | none =>
      left
      rw [given, Option.getD_none, ← present, Function.update_eq_self] at written
      refine ⟨(staff_bumpUsers ended).trans written, fun _ _ other managerId same => ?_⟩
      cases same
      rw [given]
      nofun
    | some managerId =>
      rw [given, Option.getD_some] at written
      refine Or.inr (Or.inr ⟨companyId, userId, dto, managerId, rfl, given, ⟨old, present⟩,
        (staff_bumpUsers ended).trans written, fun above is => ?_⟩)
      obtain rfl : managerId = some above := is
      exact checked above given

/-! ### What is written -/

section Written

variable {id companyId : Nat} {managerId : Option Nat}
  (written : after.staff = Function.update db.staff id (some (companyId, managerId)))

include written

theorem isSome_staff_of_written {user : Nat} (present : (db.staff user).isSome) :
    (after.staff user).isSome := by
  rw [written]
  by_cases same : user = id
  · rw [same, Function.update_self]
    rfl
  · rwa [Function.update_of_ne same]

theorem managersStored_of_written (stored : db.ManagersStored)
    (isStored : ∀ above ∈ managerId, (db.staff above).isSome) : after.ManagersStored := by
  intro company user above manages
  refine isSome_staff_of_written written ?_
  by_cases same : user = id
  · subst same
    rw [AccessDb.managers, written, managersOf, Function.update_self, Option.bind_some] at manages
    split at manages
    · exact isStored above manages
    · cases manages
  · rw [AccessDb.managers, written, managersOf, Function.update_of_ne same] at manages
    exact stored company user above manages

theorem noManagementCycle_of_written (acyclic : db.NoManagementCycle)
    (others : ∀ other ≠ companyId, db.managers other id = none) :
    after.NoManagementCycle ↔
      NoCircle (Function.update (db.managers companyId) id managerId) := by
  have same : after.managers companyId = Function.update (db.managers companyId) id managerId := by
    rw [AccessDb.managers, written, managersOf_update_self]
    rfl
  rw [← same]
  refine ⟨fun all => all companyId, fun here other => ?_⟩
  by_cases isCompany : other = companyId
  · exact isCompany ▸ here
  · have kept : after.managers other = db.managers other := by
      rw [AccessDb.managers, written]
      exact managersOf_update_other isCompany (others other isCompany)
    rw [kept]
    exact acyclic other

end Written

/-- A user that is given a manager is no further than twenty places above the manager. -/
def NotFarAbove (step : Step AccessDb AccessCall) : Prop :=
  ∀ companyId userId dto managerId, step.input.request = .updateUser companyId userId dto →
    dto.managerId = some (some managerId) → ∀ places, 20 < places →
      nth (step.before.managers companyId) places managerId ≠ some userId

variable {call : AccessCall}

theorem managersStored_of_execAccess (stored : db.ManagersStored)
    (accepted : execAccess call db = .ok after) : after.ManagersStored := by
  rcases execAccess_staff accepted with ⟨same, _⟩ | ⟨companyId, dto, _, _, written, isStored⟩ |
    ⟨companyId, userId, dto, managerId, _, _, _, written, checked⟩
  · intro company user above manages
    rw [AccessDb.managers, same] at manages
    rw [same]
    exact stored company user above manages
  · refine managersStored_of_written written stored fun above is => isStored above ?_
    cases given : dto.managerId with
    | none =>
      rw [given] at is
      cases is
    | some managerId =>
      rw [given] at is
      exact congrArg some is
  · exact managersStored_of_written written stored fun above is => (checked above is).1

/-- **One call.** A circle comes to be only where the walk ended before it met the user. -/
theorem noManagementCycle_execAccess_iff (stored : db.ManagersStored)
    (acyclic : db.NoManagementCycle) (accepted : execAccess call db = .ok after) :
    after.NoManagementCycle ↔ NotFarAbove ⟨db, call, after⟩ := by
  rcases execAccess_staff accepted with
    ⟨same, given⟩ | ⟨companyId, dto, passwordHash, creates, written, isStored⟩ |
    ⟨companyId, userId, dto, managerId, updates, given, ⟨old, present⟩, written, checked⟩
  · refine iff_of_true (fun company => ?_) fun company userId dto managerId updates is => ?_
    · rw [AccessDb.managers, same]
      exact acyclic company
    · exact absurd is (given company userId dto _ updates)
  · have absent : db.staff db.users.nextId = none := by
      rw [AccessDb.staff, Table.find?_nextId]
      rfl
    have others : ∀ other ≠ companyId, db.managers other db.users.nextId = none := by
      intro other _
      rw [AccessDb.managers, managersOf, absent]
      rfl
    -- nobody has the new user for a manager
    have fresh : ∀ user, db.managers companyId user ≠ some db.users.nextId := by
      intro user manages
      have isSome := stored companyId user _ manages
      rw [absent] at isSome
      cases isSome
    have apart : dto.managerId.getD none ≠ some db.users.nextId := by
      intro is
      cases given : dto.managerId with
      | none =>
        rw [given] at is
        cases is
      | some managerId =>
        rw [given, Option.getD_some] at is
        have isSome := isStored _ (given.trans (congrArg some is))
        rw [absent] at isSome
        cases isSome
    refine iff_of_true ?_ fun company userId other managerId updates => ?_
    · exact (noManagementCycle_of_written written acyclic others).mpr
        ((acyclic companyId).point_of_fresh fresh apart)
    · exact absurd (creates.symm.trans updates) nofun
  · have others : ∀ other ≠ companyId, db.managers other userId = none := by
      intro other apart
      rw [AccessDb.managers, managersOf, present, Option.bind_some]
      exact if_neg apart.symm
    rw [noManagementCycle_of_written written acyclic others]
    cases managerId with
    | none =>
      refine iff_of_true (acyclic companyId).unpoint fun company user other above updates' is => ?_
      cases updates.symm.trans updates'
      cases given.symm.trans is
    | some above =>
      rw [(acyclic companyId).point_iff, below_iff_exists_nth]
      constructor
      · intro notAbove company user other manager updates' is places _ leads
        cases updates.symm.trans updates'
        cases given.symm.trans is
        exact notAbove ⟨places, leads⟩
      · rintro far ⟨places, leads⟩
        rcases Nat.lt_or_ge 20 places with beyond | within
        · exact far companyId userId dto above updates given places beyond leads
        · exact (checked above rfl).2 places within leads

end Effect

/-! ### Runs -/

/-- **When no circle of managers comes to be.** A run of calls leaves no company with a user above
itself if and only if no user is given a manager whom it is more than twenty places above. -/
theorem managers_acyclic_iff {db : AccessDb} (stored : db.ManagersStored)
    (acyclic : db.NoManagementCycle) (calls : List AccessCall) :
    (∀ visited ∈ states execAccess db calls, visited.NoManagementCycle) ↔
      ∀ step ∈ steps execAccess db calls, NotFarAbove step :=
  forall_states_iff (fun _ _ _ stored accepted => managersStored_of_execAccess stored accepted)
    (fun _ _ _ stored acyclic accepted => noManagementCycle_execAccess_iff stored acyclic accepted)
    calls stored acyclic

theorem noManagementCycle_of_all {db : AccessDb}
    (all : db.users.All fun user => user.managerId = none) :
    db.ManagersStored ∧ db.NoManagementCycle := by
  have nobody : ∀ companyId id, db.managers companyId id = none := by
    intro companyId id
    rw [← AccessDb.bind_user?, Option.bind_eq_none_iff]
    exact fun user found => all id user (AccessDb.user?_eq_some.mp found).1
  refine ⟨fun companyId id managerId manages => ?_, fun companyId id circle => ?_⟩
  · rw [nobody] at manages
    cases manages
  · obtain ⟨next, follows, _⟩ := Relation.TransGen.head'_iff.mp circle
    have follows : db.managers companyId id = some next := follows
    rw [nobody] at follows
    cases follows

theorem smallCompany_noManagementCycle :
    smallCompany.ManagersStored ∧ smallCompany.NoManagementCycle := by
  refine noManagementCycle_of_all ?_
  simp [smallCompany, Table.all_create, Table.All.empty]

def managedCalls : List AccessCall :=
  [⟨0, .updateUser 0 2 { managerId := some (some 0) }⟩]

/-- The owner becomes the manager of the clerk. -/
theorem managers_acyclic_smallCompany :
    (run execAccess smallCompany managedCalls).managers 0 2 = some 0 ∧
      (run execAccess smallCompany managedCalls).NoManagementCycle := by
  refine ⟨by decide, ?_⟩
  refine (managers_acyclic_iff smallCompany_noManagementCycle.1 smallCompany_noManagementCycle.2
    managedCalls).mpr (fun step member => ?_) _ (run_mem_states _ _)
  simp only [managedCalls, steps] at member
  split at member
  · obtain rfl := List.mem_singleton.mp member
    intro companyId userId dto managerId updates given places beyond leads
    cases updates
    cases given
    obtain ⟨further, rfl⟩ := Nat.exists_eq_add_of_lt beyond
    cases leads
  · cases member

/-- The owner hires a clerk, and everybody who is hired hires the next one; then the last one is to be
above the owner. -/
def hiringCalls : List AccessCall :=
  (List.range 21).map (fun place => ⟨0, .createUser 0
    { email := toString place, name := "Clerk", roleId := 2,
      managerId := some (some (if place = 0 then 0 else place + 2)) } ""⟩) ++
    [⟨0, .updateUser 0 0 { managerId := some (some 23) }⟩]

/-- **A circle of twenty-two.** Each call is accepted, and the owner ends up above the owner. -/
theorem managers_cycle : smallCompany.NoManagementCycle ∧
    (steps execAccess smallCompany hiringCalls).length = 22 ∧
    ¬(run execAccess smallCompany hiringCalls).NoManagementCycle := by
  refine ⟨smallCompany_noManagementCycle.2, by decide +kernel, fun acyclic => ?_⟩
  have back : nth ((run execAccess smallCompany hiringCalls).managers 0) 22 0 = some 0 := by
    decide +kernel
  exact (acyclic 0).nth_ne 21 0 back

end OpenEstate
