/-
**The last super admin.**

Editing and deactivating users is checked so that a company keeps an active super admin: the rows of
the other super admins are locked, and one must be left. But whether this check is made is decided
by the role that the user had when the request read it, before its transaction.

* `guarded_update`, `guarded_deactivate`: what a request that commits knows of the rows it commits
  to;
* `super_admin_remains_iff`: in any interleaving the company has an active super admin all along
  exactly when no request that found its user with another role takes the last one.
-/

import OpenEstate.Access.Token
import OpenEstate.Relational.Guarded

namespace OpenEstate

open Relational

/-! ### Super admins -/

namespace AccessDb

def isActiveSuperAdmin (db : AccessDb) (companyId userId : Nat) : Bool :=
  (db.user? companyId userId).any fun user =>
    user.isActive && (db.role? companyId user.roleId).any isSuperAdminRole

def HasSuperAdmin (db : AccessDb) (companyId : Nat) : Prop :=
  ∃ userId, db.isActiveSuperAdmin companyId userId = true

theorem isActiveSuperAdmin_eq_true {db : AccessDb} {companyId userId : Nat} :
    db.isActiveSuperAdmin companyId userId = true ↔
      ∃ user role, db.user? companyId userId = some user ∧ user.isActive = true ∧
        db.role? companyId user.roleId = some role ∧ isSuperAdminRole role = true := by
  simp only [isActiveSuperAdmin, Option.any_eq_true, Bool.and_eq_true]
  constructor
  · rintro ⟨user, found, active, role, roleFound, super⟩
    exact ⟨user, role, found, active, roleFound, super⟩
  · rintro ⟨user, role, found, active, roleFound, super⟩
    exact ⟨user, found, active, role, roleFound, super⟩

theorem activeHolder_eq_true {db : AccessDb} {companyId roleId userId : Nat} :
    db.activeHolder companyId roleId userId = true ↔
      ∃ user, db.user? companyId userId = some user ∧ user.roleId = roleId ∧
        user.isActive = true := by
  simp only [activeHolder, Option.any_eq_true, Bool.and_eq_true, beq_iff_eq]

end AccessDb

def User.standing (user : User) : Nat × Nat × Bool :=
  (user.companyId, user.roleId, user.isActive)

def SameStanding (userId : Nat) (db after : AccessDb) : Prop :=
  (after.users.find? userId).map User.standing = (db.users.find? userId).map User.standing

/-- Two databases with the same roles, and every user in the same company. -/
structure SameCompany (db after : AccessDb) : Prop where
  roles : after.roles = db.roles
  companies : ∀ userId, (after.users.find? userId).map User.companyId =
    (db.users.find? userId).map User.companyId

namespace SameStanding

variable {userId companyId : Nat} {db after : AccessDb}

theorem user?_eq_some (same : SameStanding userId db after) {user : User}
    (found : db.user? companyId userId = some user) :
    ∃ now, after.user? companyId userId = some now ∧ now.roleId = user.roleId ∧
      now.isActive = user.isActive := by
  obtain ⟨present, mine⟩ := AccessDb.user?_eq_some.mp found
  unfold SameStanding at same
  rw [present, Option.map_some, Option.map_eq_some_iff] at same
  obtain ⟨now, nowPresent, standing⟩ := same
  simp only [User.standing, Prod.mk.injEq] at standing
  obtain ⟨sameCompany, sameRole, sameActive⟩ := standing
  exact ⟨now, AccessDb.user?_eq_some.mpr ⟨nowPresent, sameCompany.trans mine⟩, sameRole, sameActive⟩

theorem activeHolder {roleId : Nat} (same : SameStanding userId db after)
    (holds : db.activeHolder companyId roleId userId = true) :
    after.activeHolder companyId roleId userId = true := by
  obtain ⟨user, found, role, active⟩ := AccessDb.activeHolder_eq_true.mp holds
  obtain ⟨now, nowFound, sameRole, sameActive⟩ := same.user?_eq_some found
  exact AccessDb.activeHolder_eq_true.mpr
    ⟨now, nowFound, sameRole.trans role, sameActive.trans active⟩

theorem isActiveSuperAdmin (same : SameStanding userId db after) (roles : after.roles = db.roles)
    (holds : db.isActiveSuperAdmin companyId userId = true) :
    after.isActiveSuperAdmin companyId userId = true := by
  obtain ⟨user, role, found, active, roleFound, super⟩ :=
    AccessDb.isActiveSuperAdmin_eq_true.mp holds
  obtain ⟨now, nowFound, sameRole, sameActive⟩ := same.user?_eq_some found
  refine AccessDb.isActiveSuperAdmin_eq_true.mpr
    ⟨now, role, nowFound, sameActive.trans active, ?_, super⟩
  rw [sameRole, AccessDb.role?_congr roles]
  exact roleFound

end SameStanding

theorem AccessDb.isActiveSuperAdmin_of_activeHolder {db : AccessDb} {companyId roleId userId : Nat}
    {role : Role} (found : db.role? companyId roleId = some role)
    (super : isSuperAdminRole role = true)
    (holds : db.activeHolder companyId roleId userId = true) :
    db.isActiveSuperAdmin companyId userId = true := by
  obtain ⟨user, userFound, same, active⟩ := AccessDb.activeHolder_eq_true.mp holds
  subst same
  exact AccessDb.isActiveSuperAdmin_eq_true.mpr ⟨user, role, userFound, active, found, super⟩

/-! ### The discipline -/

/-- The lock of a user's row protects the standing of the user; roles and companies stay. -/
def standings (ι : Type) : Discipline ι AccessDb AccessLock where
  kept := fun _ => True
  grows := SameCompany
  same := fun lock db after => ∀ userId, lock = .user userId → SameStanding userId db after
  steady := fun _ _ _ => True
  grows_refl := fun _ => ⟨rfl, fun _ => rfl⟩
  grows_trans := fun first second =>
    ⟨second.roles.trans first.roles, fun userId =>
      (second.companies userId).trans (first.companies userId)⟩
  same_refl := fun _ _ _ _ => rfl
  same_trans := fun first second userId is => (second userId is).trans (first userId is)
  steady_refl := fun _ _ => trivial
  steady_trans := fun _ _ => trivial

def AccessDb.InCompany (db : AccessDb) (companyId userId : Nat) : Prop :=
  ∀ user, db.users.find? userId = some user → user.companyId = companyId

theorem SameCompany.inCompany {companyId userId : Nat} {db after : AccessDb}
    (grows : SameCompany db after) (inCompany : db.InCompany companyId userId) :
    after.InCompany companyId userId := by
  intro user found
  have same := grows.companies userId
  rw [found, Option.map_some, eq_comm, Option.map_eq_some_iff] at same
  obtain ⟨before, present, same⟩ := same
  exact same ▸ inCompany before present

theorem AccessDb.inCompany_of_user? {db : AccessDb} {companyId userId : Nat} {user : User}
    (found : db.user? companyId userId = some user) : db.InCompany companyId userId := by
  obtain ⟨present, mine⟩ := AccessDb.user?_eq_some.mp found
  intro other otherPresent
  rw [present] at otherPresent
  cases otherPresent
  exact mine

/-- What a request knows of its user while others go on: the company, and the role it has found. -/
structure Knows (companyId userId : Nat) (target : UsersService.Target) (db : AccessDb) : Prop where
  role : db.role? companyId target.roleId = some target.role
  company : db.InCompany companyId userId

theorem Knows.grow {companyId userId : Nat} {target : UsersService.Target} {db after : AccessDb}
    (knows : Knows companyId userId target db) (grows : SameCompany db after) :
    Knows companyId userId target after where
  role := by
    rw [AccessDb.role?_congr grows.roles]
    exact knows.role
  company := grows.inCompany knows.company

def LockedOther (companyId userId : Nat) (held : List AccessLock) (db : AccessDb) : Prop :=
  ∃ other, other ≠ userId ∧ .user other ∈ held ∧ db.isActiveSuperAdmin companyId other = true

section Wp

variable {ι : Type} {session : ι} {seen : AccessDb → Prop} {held : List AccessLock} {rows : AccessDb}
variable {companyId userId : Nat}

theorem LockedOther.relies {later : AccessDb} (locked : LockedOther companyId userId held rows)
    (relies : (standings ι).Relies session held rows later) :
    LockedOther companyId userId held later := by
  obtain ⟨other, different, member, super⟩ := locked
  have same : SameStanding other rows later := relies.same _ member other rfl
  exact ⟨other, different, member, same.isActiveSuperAdmin relies.grows.roles super⟩

/-- **Locking rows one after the other**: those that are answered are locked, and are as asked for
once all are. -/
theorem wp_lockForUpdate {asked : AccessDb → Nat → Bool}
    (stable : ∀ id db after, SameStanding id db after → asked db id = true →
      asked after id = true)
    {post : List AccessLock → List Nat → (AccessDb → AccessDb) → AccessDb → Prop} (ids : List Nat)
    (goes : ∀ taken locked now, (standings ι).Relies session held rows now →
      (∀ lock ∈ held, lock ∈ taken) →
      (∀ id ∈ locked, id ∈ ids ∧ .user id ∈ taken ∧ asked now id = true) →
      post taken locked id now) :
    (standings ι).wp session seen post held (lockForUpdate asked ids) id rows := by
  induction ids generalizing held rows post with
  | nil => exact goes held [] rows (.refl trivial) (fun _ member => member) nofun
  | cons first rest ih =>
    intro later relies _
    refine Discipline.wp_bind (ih fun taken locked now more grew inner => ?_)
    have mine : AccessLock.user first ∈ taken := grew _ List.mem_cons_self
    have weaker : (standings ι).Relies session held later now :=
      ⟨trivial, more.grows, trivial, fun lock member => more.same lock (List.mem_cons_of_mem _ member)⟩
    refine goes taken _ now (relies.trans weaker)
      (fun lock member => grew lock (List.mem_cons_of_mem _ member)) fun id member => ?_
    have member : id ∈ if asked later first = true then first :: locked else locked := member
    have fromRest : id ∈ locked → id ∈ first :: rest ∧ .user id ∈ taken ∧ asked now id = true :=
      fun listed => ⟨List.mem_cons_of_mem _ (inner id listed).1, (inner id listed).2⟩
    by_cases met : asked later first = true
    · rw [if_pos met] at member
      rcases List.mem_cons.mp member with rfl | listed
      · have same : SameStanding id later now := more.same _ List.mem_cons_self id rfl
        exact ⟨List.mem_cons_self, mine, stable id later now same met⟩
      · exact fromRest listed
    · rw [if_neg met] at member
      exact fromRest member

/-- **The check for the last super admin**: when it has been made, another one is locked. -/
theorem wp_guardLastSuperAdmin {needed : Bool} {target : UsersService.Target}
    (knows : Knows companyId userId target rows)
    (super : needed = true → isSuperAdminRole target.role = true)
    {post : List AccessLock → Unit → (AccessDb → AccessDb) → AccessDb → Prop}
    (goes : ∀ taken now, Knows companyId userId target now →
      (needed = true → LockedOther companyId userId taken now) → post taken () id now) :
    (standings ι).wp session seen post held (guardLastSuperAdmin needed companyId userId) id
      rows := by
  cases needed with
  | false => exact goes held rows knows nofun
  | true =>
    show (standings ι).wp session seen post held (assertSuperAdminNotEmptied companyId userId) id rows
    unfold assertSuperAdminNotEmptied
    refine Discipline.wp_read_bind fun now reliesNow _ => ?_
    have knowsNow := knows.grow reliesNow.grows
    cases answer : now.superAdminRole? companyId with
    | none =>
      -- the role that the user was found to have is among those asked for
      obtain ⟨present, mine⟩ := AccessDb.role?_eq_some.mp knowsNow.role
      have missed := Table.findFirst?_eq_none.mp answer _ _ present
      rw [mine, super rfl, beq_self_eq_true] at missed
      cases missed
    | some row =>
      obtain ⟨present, matched⟩ := Table.findFirst?_eq_some answer
      obtain ⟨mine, superRole⟩ := Bool.and_eq_true_iff.mp matched
      have roleFound : now.role? companyId row.1 = some row.2 :=
        AccessDb.role?_eq_some.mpr ⟨present, eq_of_beq mine⟩
      simp only [id_eq, answer]
      refine Discipline.wp_read_bind fun listed reliesListed _ => Discipline.wp_bind ?_
      refine wp_lockForUpdate (fun id db after same holds => same.activeHolder holds) _ ?_
      intro taken locked last reliesLast _ inner
      refine Discipline.wp_check fun _ left => goes taken last (knowsNow.grow ?_) fun _ => ?_
      · exact (reliesListed.trans reliesLast).grows
      · obtain ⟨other, member⟩ := List.exists_mem_of_ne_nil locked (ensure_eq_ok.mp left)
        obtain ⟨asked, mine, holds⟩ := inner other member
        obtain ⟨⟨_, _⟩, selected, rfl⟩ := List.mem_map.mp asked
        have different := (Bool.and_eq_true_iff.mp (Table.mem_select.mp selected).2).2
        have roleLast : last.role? companyId row.1 = some row.2 := by
          rw [AccessDb.role?_congr (reliesListed.trans reliesLast).grows.roles]
          exact roleFound
        exact ⟨_, by simpa using different, mine,
          AccessDb.isActiveSuperAdmin_of_activeHolder roleLast superRole holds⟩

/-! ### Requests on their way -/

/-- What a request that commits has written, and what it knew of the rows it has written to. -/
structure Wrote (companyId userId : Nat) (target : UsersService.Target) (needed : Bool)
    (change : User → User) (before after : AccessDb) : Prop where
  knows : Knows companyId userId target before
  after_eq : after = before.updateUser userId change
  other : needed = true → ∃ other, other ≠ userId ∧
    before.isActiveSuperAdmin companyId other = true

variable {ends : UsersService.Target → AccessDb → AccessDb → Prop}

theorem guarded_write {needed : Bool} {target : UsersService.Target} {change : User → User}
    (companyOf : ∀ user, (change user).companyId = user.companyId)
    (knows : Knows companyId userId target rows)
    (super : needed = true → isSuperAdminRole target.role = true)
    (right : ∀ before after, Wrote companyId userId target needed change before after →
      ends target before after) :
    (standings ι).Guarded session seen ends held
      (do
        guardLastSuperAdmin needed companyId userId
        Tx.update (.user userId) fun db => db.updateUser userId change
        return target)
      id rows := by
  refine Discipline.wp_bind (wp_guardLastSuperAdmin knows super fun taken now knowsNow locked => ?_)
  intro last reliesLast _
  have knowsLast := knowsNow.grow reliesLast.grows
  intro later relies
  refine ⟨⟨trivial, ⟨rfl, fun id => ?_⟩, fun _ _ => trivial, fun lock free id is => ?_⟩,
    right _ _ ⟨knowsLast.grow relies.grows, rfl, fun asked => ?_⟩⟩
  · show ((later.users.modify userId change).find? id).map User.companyId = _
    rw [Table.find?_modify]
    split
    · cases later.users.find? id with
      | none => rfl
      | some user => exact congrArg some (companyOf user)
    · rfl
  · have different : id ≠ userId := by
      rintro rfl
      exact free (is ▸ List.mem_cons_self)
    show ((later.users.modify userId change).find? id).map User.standing = _
    rw [Table.find?_modify_of_ne _ _ different]
  · have lockedNow := (locked asked).relies reliesLast
    have stillLocked : LockedOther companyId userId ([AccessLock.user userId] ++ taken) last := by
      obtain ⟨other, different, member, holds⟩ := lockedNow
      exact ⟨other, different, List.mem_append_right _ member, holds⟩
    obtain ⟨other, different, _, holds⟩ := stillLocked.relies relies
    exact ⟨other, different, holds⟩

theorem wp_assertMayAct {callerId : Nat} {dto : UpdateUserDto}
    {post : List AccessLock → UsersService.Target → (AccessDb → AccessDb) → AccessDb → Prop}
    (goes : ∀ target now, Knows companyId userId target now → post held target id now) :
    (standings ι).wp session seen post held
      (UsersService.assertMayAct companyId userId dto callerId) id rows := by
  refine Discipline.wp_bind (Discipline.wp_readOnly (loadCurrentCaller_readOnly callerId)
    (fun _ _ => trivial) trivial fun _ caller _ _ => ?_)
  refine Discipline.wp_check_bind fun _ _ => Discipline.wp_check_bind fun _ _ => ?_
  refine Discipline.wp_query_bind fun first _ _ user found => ?_
  have inFirst := AccessDb.inCompany_of_user? (orThrow_eq_ok.mp found)
  refine Discipline.wp_bind (Discipline.wp_readOnly
    (UsersService.assertManagerOf_readOnly companyId (some userId) dto.managerId)
    (fun _ _ => trivial) trivial fun second _ reliesSecond _ => ?_)
  refine Discipline.wp_query_bind fun third reliesThird _ row loaded => ?_
  simp only [bind_eq_ok, orThrow_eq_ok, pure_eq_ok] at loaded
  obtain ⟨role, roleFound, rfl⟩ := loaded
  have grows := (reliesSecond.trans reliesThird).grows
  have knows : Knows companyId userId { roleId := user.roleId, role } third :=
    ⟨roleFound, grows.inCompany inFirst⟩
  refine Discipline.wp_check_bind fun _ _ => Discipline.wp_check_bind fun _ _ => ?_
  refine Discipline.wp_bind (Discipline.wp_readOnly
    (UsersService.assertAssignable_readOnly companyId caller user dto.roleId)
    (fun _ _ => trivial) trivial fun last _ reliesLast _ => ?_)
  exact goes _ _ (knows.grow reliesLast.grows)

theorem guarded_update {callerId : Nat} {dto : UpdateUserDto}
    (right : ∀ target before after, Wrote companyId userId target
      (UsersService.lockoutCheckNeeded target dto) dto.apply before after →
      ends target before after) :
    (standings ι).Guarded session seen ends held
      (UsersService.update companyId userId dto callerId) id rows := by
  refine Discipline.wp_bind (wp_assertMayAct fun target now knows => ?_)
  refine guarded_write ?_ knows (fun needed => ?_) (right target)
  · exact fun _ => rfl
  · obtain ⟨roleId, _, needed⟩ := (Option.any_eq_true _ _).mp needed
    exact (Bool.and_eq_true_iff.mp needed).1

theorem guarded_deactivate {callerId : Nat}
    (right : ∀ target before after, Wrote companyId userId target (isSuperAdminRole target.role)
      User.deactivated before after → ends target before after) :
    (standings ι).Guarded session seen ends held
      (UsersService.deactivate companyId userId callerId) id rows := by
  refine Discipline.wp_bind (Discipline.wp_readOnly (loadCurrentCaller_readOnly callerId)
    (fun _ _ => trivial) trivial fun _ caller _ _ => ?_)
  refine Discipline.wp_check_bind fun _ _ => ?_
  refine Discipline.wp_query_bind fun first _ _ user found => ?_
  have inFirst := AccessDb.inCompany_of_user? (orThrow_eq_ok.mp found)
  refine Discipline.wp_query_bind fun second reliesSecond _ row loaded => ?_
  simp only [bind_eq_ok, orThrow_eq_ok, pure_eq_ok] at loaded
  obtain ⟨role, roleFound, rfl⟩ := loaded
  have knows : Knows companyId userId { roleId := user.roleId, role } second :=
    ⟨roleFound, reliesSecond.grows.inCompany inFirst⟩
  refine Discipline.wp_check_bind fun _ _ => Discipline.wp_check_bind fun _ _ => ?_
  refine guarded_write ?_ knows id (right _)
  exact fun _ => rfl

end Wp

/-! ### Requests -/

/-- A request for another standing of a user; or what such a request does after its transaction. -/
inductive AdminRequest
  | update (companyId userId : Nat) (dto : UpdateUserDto) (callerId : Nat)
  | deactivate (companyId userId callerId : Nat)
  | bumpUsers (userIds : List Nat)
  | endSessions (config : TokenConfig) (draw : TokenDraw) (userId : Nat)

/-- The statements of a request. The answer is what the request has found of its user. -/
def AdminRequest.statements : AdminRequest → AccessTx (Option UsersService.Target)
  | .update companyId userId dto callerId => do
    let target ← UsersService.update companyId userId dto callerId
    return some target
  | .deactivate companyId userId callerId => do
    let target ← UsersService.deactivate companyId userId callerId
    return some target
  | .bumpUsers userIds => do
    AuthzVersionService.bumpUsers userIds
    return none
  | .endSessions config draw userId => do
    let _ ← TokenService.endSessions config draw userId none
    return none

def AdminRequest.Takes (request : AdminRequest) (db : AccessDb) (companyId userId : Nat) : Prop :=
  match request with
  | .update _ id dto _ => id = userId ∧
      ∃ roleId ∈ dto.roleId, (db.role? companyId roleId).any isSuperAdminRole = false
  | .deactivate _ id _ => id = userId
  | _ => False

/-- A request that has found its user with another role takes the last super admin. -/
def TakesLast (companyId : Nat) (request : AdminRequest) (answer : Option UsersService.Target)
    (db : AccessDb) : Prop :=
  ∃ target userId, answer = some target ∧ isSuperAdminRole target.role = false ∧
    request.Takes db companyId userId ∧
    ∀ id, db.isActiveSuperAdmin companyId id = true → id = userId

def AdminRequest.Ends (request : AdminRequest) (answer : Option UsersService.Target)
    (before after : AccessDb) : Prop :=
  match request, answer with
  | .update companyId userId dto _, some target => Wrote companyId userId target
      (UsersService.lockoutCheckNeeded target dto) dto.apply before after
  | .deactivate companyId userId _, some target => Wrote companyId userId target
      (isSuperAdminRole target.role) User.deactivated before after
  | .bumpUsers _, none | .endSessions _ _ _, none =>
    after.roles = before.roles ∧ ∀ userId, SameStanding userId before after
  | _, _ => False

def KeepsStandings (write : AccessDb → AccessDb) : Prop :=
  ∀ db, SameCompany db (write db) ∧ ∀ userId, SameStanding userId db (write db)

theorem keepsStandings_id : KeepsStandings id :=
  fun _ => ⟨⟨rfl, fun _ => rfl⟩, fun _ => rfl⟩

theorem keepsStandings_bump (userId : Nat) :
    KeepsStandings fun db => { db with users := db.users.modify userId User.bump } := by
  intro db
  have each : ∀ {β : Type} (figure : User → β), (∀ user, figure user.bump = figure user) →
      ∀ id, ((db.users.modify userId User.bump).find? id).map figure =
        (db.users.find? id).map figure := by
    intro β figure same id
    rw [Table.find?_modify]
    split
    · rw [Option.map_map]
      congr 1
      funext user
      exact same user
    · rfl
  exact ⟨⟨rfl, each User.companyId fun _ => rfl⟩, each User.standing fun _ => rfl⟩

theorem bumpUsers_writes (userIds : List Nat) :
    (AuthzVersionService.bumpUsers userIds).Writes KeepsStandings :=
  .forEach fun userId => .stmt (keepsStandings_bump userId) fun _ => .done ()

theorem endSessions_writes (config : TokenConfig) (draw : TokenDraw) (userId : Nat)
    (exceptRawToken : Option String) :
    (TokenService.endSessions config draw userId exceptRawToken).Writes KeepsStandings := by
  refine .stmt keepsStandings_id fun _ => .bind ?_ fun version => ?_
  · exact .stmt (keepsStandings_bump userId) fun _ => .check _
  · refine .bind (.read keepsStandings_id _) fun current => .bind ?_ fun _ => .done _
    exact .updateMany keepsStandings_id fun _ db => ⟨⟨rfl, fun _ => rfl⟩, fun _ => rfl⟩

theorem guarded_keepsStandings {ι α : Type} {session : ι} {tx : AccessTx α}
    (writes : tx.Writes KeepsStandings) (rows : AccessDb) :
    (standings ι).Guarded session (fun _ => True)
      (fun _ before after => after.roles = before.roles ∧
        ∀ userId, SameStanding userId before after) [] tx id rows := by
  refine Discipline.wp_harmless writes keepsStandings_id ?_ ?_ ?_
  · intro first second one two db
    exact ⟨(standings ι).grows_trans (one db).1 (two _).1,
      fun userId => ((two _).2 userId).trans ((one db).2 userId)⟩
  · intro write one held db _
    exact ⟨trivial, (one db).1, fun _ _ => trivial, fun _ _ userId _ => (one db).2 userId⟩
  · intro write one _ db
    exact ⟨(one db).1.roles, (one db).2⟩

theorem guarded_statements {ι : Type} (session : ι) (request : AdminRequest) (rows : AccessDb) :
    (standings ι).Guarded session (fun _ => True) request.Ends [] request.statements id rows := by
  cases request with
  | update companyId userId dto callerId =>
    exact (guarded_update fun _ _ _ wrote => wrote).map fun _ _ _ wrote => wrote
  | deactivate companyId userId callerId =>
    exact (guarded_deactivate fun _ _ _ wrote => wrote).map fun _ _ _ wrote => wrote
  | bumpUsers userIds =>
    exact (guarded_keepsStandings (bumpUsers_writes userIds) rows).map fun _ _ _ same => same
  | endSessions config draw userId =>
    exact (guarded_keepsStandings (endSessions_writes config draw userId none) rows).map
      fun _ _ _ same => same

/-! ### What a request leaves -/

section Leaves

variable {companyId asked userId : Nat} {target : UsersService.Target} {needed : Bool}
  {change : User → User} {before after : AccessDb}

theorem sameStanding_updateUser (db : AccessDb) (change : User → User) {id : Nat}
    (different : id ≠ userId) : SameStanding id db (db.updateUser userId change) :=
  congrArg (Option.map User.standing) (Table.find?_modify_of_ne db.users change different)

theorem isActiveSuperAdmin_updateUser_of_ne (db : AccessDb) (change : User → User) {id : Nat}
    (different : id ≠ userId) :
    (db.updateUser userId change).isActiveSuperAdmin asked id = db.isActiveSuperAdmin asked id := by
  have same := sameStanding_updateUser db change different
  refine Bool.eq_iff_iff.mpr ⟨fun holds => ?_, fun holds => same.isActiveSuperAdmin rfl holds⟩
  exact SameStanding.isActiveSuperAdmin same.symm rfl holds

/-- A super admin stays one through a write that leaves company and activity, and gives no other
role than the super admin's. -/
theorem isActiveSuperAdmin_updateUser_self {db : AccessDb} {user : User}
    (holds : db.isActiveSuperAdmin asked userId = true)
    (found : db.users.find? userId = some user)
    (company : (change user).companyId = user.companyId)
    (active : (change user).isActive = user.isActive) :
    (db.updateUser userId change).isActiveSuperAdmin asked userId =
      (db.role? asked (change user).roleId).any isSuperAdminRole := by
  obtain ⟨other, role, userFound, isActive, _, _⟩ := AccessDb.isActiveSuperAdmin_eq_true.mp holds
  obtain ⟨present, mine⟩ := AccessDb.user?_eq_some.mp userFound
  rw [found] at present
  cases present
  have now : (db.updateUser userId change).user? asked userId = some (change user) :=
    AccessDb.user?_eq_some.mpr ⟨AccessDb.find?_updateUser_self found change, company.trans mine⟩
  rw [AccessDb.isActiveSuperAdmin, now, Option.any_some, active, isActive, Bool.true_and]
  rfl

/-- **A write keeps a super admin for the company exactly when there is another one, or its user
still is one.** -/
theorem hasSuperAdmin_updateUser_iff :
    (before.updateUser userId change).HasSuperAdmin asked ↔
      (∀ id, before.isActiveSuperAdmin asked id = true → id = userId) →
        (before.updateUser userId change).isActiveSuperAdmin asked userId = true := by
  constructor
  · rintro ⟨id, holds⟩ only
    by_cases same : id = userId
    · exact same ▸ holds
    · rw [isActiveSuperAdmin_updateUser_of_ne before change same] at holds
      exact absurd (only id holds) same
  · intro still
    by_cases only : ∀ id, before.isActiveSuperAdmin asked id = true → id = userId
    · exact ⟨userId, still only⟩
    · simp only [not_forall] at only
      obtain ⟨id, holds, different⟩ := only
      refine ⟨id, ?_⟩
      rw [isActiveSuperAdmin_updateUser_of_ne before change different]
      exact holds

theorem AccessDb.HasSuperAdmin.of_only (has : before.HasSuperAdmin asked)
    (only : ∀ id, before.isActiveSuperAdmin asked id = true → id = userId) :
    ∃ user, before.users.find? userId = some user ∧
      before.isActiveSuperAdmin asked userId = true := by
  obtain ⟨id, holds⟩ := has
  obtain rfl : id = userId := only id holds
  obtain ⟨user, _, found, _⟩ := AccessDb.isActiveSuperAdmin_eq_true.mp holds
  exact ⟨user, (AccessDb.user?_eq_some.mp found).1, holds⟩

theorem Wrote.company_eq (wrote : Wrote companyId userId target needed change before after)
    (holds : before.isActiveSuperAdmin asked userId = true) : asked = companyId := by
  obtain ⟨user, _, found, _⟩ := AccessDb.isActiveSuperAdmin_eq_true.mp holds
  obtain ⟨present, mine⟩ := AccessDb.user?_eq_some.mp found
  exact mine.symm.trans (wrote.knows.company user present)

theorem Wrote.not_only (wrote : Wrote companyId userId target needed change before after)
    (checked : needed = true) (has : before.HasSuperAdmin asked) :
    ¬∀ id, before.isActiveSuperAdmin asked id = true → id = userId := by
  intro only
  obtain ⟨_, _, holds⟩ := has.of_only only
  obtain ⟨other, different, otherHolds⟩ := wrote.other checked
  obtain rfl := wrote.company_eq holds
  exact different (only other otherHolds)

end Leaves

theorem Wrote.update_iff {companyId userId asked callerId : Nat} {target : UsersService.Target}
    {dto : UpdateUserDto} {before after : AccessDb}
    (wrote : Wrote companyId userId target (UsersService.lockoutCheckNeeded target dto) dto.apply
      before after) (has : before.HasSuperAdmin asked) :
    after.HasSuperAdmin asked ↔
      ¬TakesLast asked (.update companyId userId dto callerId) (some target) before := by
  rw [wrote.after_eq, hasSuperAdmin_updateUser_iff]
  constructor
  · rintro still ⟨_, _, _, _, ⟨rfl, roleId, given, notSuper⟩, only⟩
    obtain ⟨user, found, holds⟩ := has.of_only only
    have now := still only
    rw [isActiveSuperAdmin_updateUser_self holds found rfl rfl] at now
    have given : dto.roleId = some roleId := given
    have same : (dto.apply user).roleId = roleId := by simp [UpdateUserDto.apply, given]
    rw [same, notSuper] at now
    cases now
  · intro spares only
    obtain ⟨user, found, holds⟩ := has.of_only only
    obtain rfl := wrote.company_eq holds
    rw [isActiveSuperAdmin_updateUser_self holds found rfl rfl]
    cases given : dto.roleId with
    | none =>
      have same : (dto.apply user).roleId = user.roleId := by simp [UpdateUserDto.apply, given]
      obtain ⟨other, role, userFound, _, roleFound, super⟩ :=
        AccessDb.isActiveSuperAdmin_eq_true.mp holds
      obtain ⟨present, _⟩ := AccessDb.user?_eq_some.mp userFound
      rw [found] at present
      cases present
      rw [same, roleFound]
      exact super
    | some roleId =>
      have same : (dto.apply user).roleId = roleId := by simp [UpdateUserDto.apply, given]
      rw [same]
      by_contra notSuper
      have notSuper := Bool.eq_false_of_not_eq_true notSuper
      cases super : isSuperAdminRole target.role with
      | false => exact spares ⟨target, userId, rfl, super, ⟨rfl, roleId, given, notSuper⟩, only⟩
      | true =>
        by_cases kept : roleId = target.roleId
        · rw [kept, wrote.knows.role, Option.any_some, super] at notSuper
          cases notSuper
        · refine wrote.not_only ?_ has only
          simp [UsersService.lockoutCheckNeeded, given, super, kept]

theorem Wrote.deactivate_iff {companyId userId asked callerId : Nat}
    {target : UsersService.Target} {before after : AccessDb}
    (wrote : Wrote companyId userId target (isSuperAdminRole target.role)
      User.deactivated before after)
    (has : before.HasSuperAdmin asked) :
    after.HasSuperAdmin asked ↔
      ¬TakesLast asked (.deactivate companyId userId callerId) (some target) before := by
  rw [wrote.after_eq, hasSuperAdmin_updateUser_iff]
  constructor
  · rintro still ⟨_, _, _, _, rfl, only⟩
    obtain ⟨now, _, nowFound, active, _⟩ := AccessDb.isActiveSuperAdmin_eq_true.mp (still only)
    obtain ⟨present, _⟩ := AccessDb.user?_eq_some.mp nowFound
    rcases Table.find?_modify_eq_some.mp present with ⟨_, _, _, rfl⟩ | ⟨different, _⟩
    · exact Bool.false_ne_true active
    · exact different rfl
  · intro spares only
    cases super : isSuperAdminRole target.role with
    | false => exact absurd ⟨target, userId, rfl, super, rfl, only⟩ spares
    | true => exact absurd only (wrote.not_only super has)

/-- **One request that commits** leaves the company an active super admin exactly when it does not
take the last one from a user it has found with another role. -/
theorem AdminRequest.Ends.hasSuperAdmin_iff {request : AdminRequest}
    {answer : Option UsersService.Target} {before after : AccessDb} {companyId : Nat}
    (ends : request.Ends answer before after) (has : before.HasSuperAdmin companyId) :
    after.HasSuperAdmin companyId ↔ ¬TakesLast companyId request answer before := by
  have follows : (∀ target userId, answer = some target →
        ¬request.Takes before companyId userId) →
      (after.roles = before.roles ∧ ∀ userId, SameStanding userId before after) →
      (after.HasSuperAdmin companyId ↔ ¬TakesLast companyId request answer before) := by
    rintro takesNone ⟨roles, same⟩
    obtain ⟨id, holds⟩ := has
    constructor
    · rintro _ ⟨target, userId, answered, _, takes, _⟩
      exact takesNone target userId answered takes
    · exact fun _ => ⟨id, (same id).isActiveSuperAdmin roles holds⟩
  cases request with
  | update _ _ dto _ =>
    cases answer with
    | none => exact ends.elim
    | some target => exact Wrote.update_iff ends has
  | deactivate _ _ _ =>
    cases answer with
    | none => exact ends.elim
    | some target => exact Wrote.deactivate_iff ends has
  | bumpUsers _ =>
    cases answer with
    | none => exact follows (fun _ _ => nofun) ends
    | some target => exact ends.elim
  | endSessions _ _ _ =>
    cases answer with
    | none => exact follows (fun _ _ => nofun) ends
    | some target => exact ends.elim

/-! ### Interleavings -/

def CommitsIn {ι : Type} (session : ι) (answer : Option UsersService.Target)
    (step : Step (World ι AccessDb AccessLock ServiceError (Option UsersService.Target))
      (Choice ι)) : Prop :=
  (∃ written, step.before.sessions session = .active (.done answer) written) ∧
    step.after.sessions session = .committed answer

/-- **The company keeps an active super admin all along exactly when no request that has found its
user with another role takes the last one**, in any interleaving of the requests. -/
theorem super_admin_remains_iff {ι : Type} [DecidableEq ι] (requests : ι → AdminRequest)
    {rows : AccessDb} {companyId : Nat} (has : rows.HasSuperAdmin companyId)
    (schedule : List (Choice ι)) :
    (∀ visited ∈ states World.exec
        (World.start (fun session => (requests session).statements) rows) schedule,
      visited.rows.HasSuperAdmin companyId) ↔
    ∀ step ∈ steps World.exec
        (World.start (fun session => (requests session).statements) rows) schedule,
      ∀ session answer, CommitsIn session answer step →
        ¬TakesLast companyId (requests session) answer step.before.rows := by
  let origin := World.start (fun session => (requests session).statements) rows
  have governed : (standings ι).Governed (fun _ => True) (fun session => (requests session).Ends)
      origin origin :=
    Discipline.governed_start trivial fun session => guarded_statements session _ rows
  exact Discipline.forall_rows_iff governed
    (fun _ _ _ _ ends has => ends.hasSuperAdmin_iff has) schedule has

/-! ### A crossing -/

/-- The owner deactivates the manager; the owner makes the manager a super admin; the manager, then
a super admin, deactivates the owner. -/
inductive Crossing
  | leave | promote | resign
  deriving DecidableEq

def crossingRequests : Crossing → AdminRequest
  | .leave => .deactivate 0 1 0
  | .promote => .update 0 1 { roleId := some 0 } 0
  | .resign => .deactivate 0 0 1

/-- The first request has read the manager's role when the others run from beginning to end. -/
def crossingSchedule : List (Choice Crossing) :=
  List.replicate 4 (.advance .leave) ++ List.replicate 8 (.advance .promote) ++
    List.replicate 9 (.advance .resign) ++ List.replicate 2 (.advance .leave)

def crossingStart : World Crossing AccessDb AccessLock ServiceError (Option UsersService.Target) :=
  World.start (fun session => (crossingRequests session).statements) smallCompany

theorem smallCompany_hasSuperAdmin : smallCompany.HasSuperAdmin 0 := ⟨0, by decide⟩

theorem AccessDb.HasSuperAdmin.any {db : AccessDb} {companyId : Nat}
    (has : db.HasSuperAdmin companyId) :
    (db.users.any fun id _ => db.isActiveSuperAdmin companyId id) = true := by
  obtain ⟨id, holds⟩ := has
  obtain ⟨user, _, found, _⟩ := AccessDb.isActiveSuperAdmin_eq_true.mp holds
  exact Table.any_eq_true.mpr ⟨id, user, (AccessDb.user?_eq_some.mp found).1, holds⟩

theorem crossing_hasSuperAdmin :
    ¬(run World.exec crossingStart crossingSchedule).rows.HasSuperAdmin 0 := by
  intro has
  exact absurd has.any (by decide)

/-- **The crossing leaves the company without an active super admin**: the deactivation of the
manager skips the check, which the deactivation of the owner has passed thanks to the manager. -/
theorem crossing_empties_company : smallCompany.HasSuperAdmin 0 ∧
    ¬∀ visited ∈ states World.exec crossingStart crossingSchedule,
      visited.rows.HasSuperAdmin 0 := by
  refine ⟨smallCompany_hasSuperAdmin, fun always => ?_⟩
  exact crossing_hasSuperAdmin (always _ (run_mem_states _ _))

/-- Some step of the crossing takes the last super admin. -/
theorem crossing_takesLast :
    ¬∀ step ∈ steps World.exec crossingStart crossingSchedule,
      ∀ session answer, CommitsIn session answer step →
        ¬TakesLast 0 (crossingRequests session) answer step.before.rows := by
  intro spares
  have always := (super_admin_remains_iff crossingRequests smallCompany_hasSuperAdmin
    crossingSchedule).mpr spares
  exact crossing_hasSuperAdmin (always _ (run_mem_states _ _))

end OpenEstate
