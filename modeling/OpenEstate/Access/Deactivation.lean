/-
**Deactivated accounts.**

An account is deactivated in one transaction; its sessions are ended and its reset links consumed
afterwards. An invite to the portal is not among what is consumed: it makes the account active again
whenever it is redeemed. Redeeming a reset link does not, since its write asks for an active account.
Each statement is a step of its own, and others may come in between.

* `AccountSession` is where a request stands, `AccountSession.next` its next statement;
* `deactivates`, `reactivates`, `redeemed`: what a step does to an account;
* `AccountSession.next_off`: nothing but a reactivation or an invite makes an account active;
* `deactivation_holds_iff`: in which runs a deactivation holds;
* `reactivated_by_old_invite`: one in which it does not.
-/

import OpenEstate.Access.Invite
import OpenEstate.Access.SuperAdmin

namespace OpenEstate

open Relational
open Function (update update_self update_of_ne)

/-! ### Requests -/

/-- The accounts with the invites and the links of the portal, and the links of the staff. -/
structure AccountStore extends InviteStore where
  staffResets : Table PasswordReset := .empty

namespace AccountStore

def wait (elapsed : Nat) (store : AccountStore) : AccountStore :=
  { store with toInviteStore := store.toInviteStore.wait elapsed }

def withDb (store : AccountStore) (db : AccessDb) : AccountStore :=
  { store with db }

def ofSurface (store : AccountStore) : Surface → ResetStore
  | .portal => store.toResetStore
  | .staff => { store.toResetStore with resets := store.staffResets }

/-- The store after something has been done to the accounts and the links of one surface. -/
def putSurface (store : AccountStore) (surface : Surface) (after : ResetStore) : AccountStore :=
  match surface with
  | .portal => { store with toResetStore := after }
  | .staff => { store with toResetStore := { after with resets := store.resets },
                           staffResets := after.resets }

/-- Consume the links of a user that are live at some instant, on both surfaces. -/
def consumeAllLinks (store : AccountStore) (userId now : Nat) : AccountStore :=
  { store with
    toResetStore := store.toResetStore.consumeResetLinks userId now
    staffResets := store.staffResets.modifyAll (fun _ reset => reset.isLive userId now)
      (PasswordReset.consumed now) }

end AccountStore

/-- A request about invites, about passwords on one surface, or to take an account out of use or
back into it. -/
inductive AccountCall
  | invite (call : InviteCall)
  | password (surface : Surface) (call : PasswordCall)
  | deactivate (companyId userId callerId : Nat)
  | reactivate (companyId userId callerId : Nat)

inductive AccountSession
  | invite (session : InviteSession)
  | password (surface : Surface) (session : PasswordSession)
  | deactivating (userId : Nat) (todo : AccessTx UsersService.Target)
  | closing (userId : Nat)
  | sweeping (userId now : Nat)
  | reactivating (userId : Nat) (todo : AccessTx UsersService.Target)
  | bumping (userId : Nat)
  | done
  | refused (error : ServiceError)

/-! ### The service -/

def User.reactivated (user : User) : User :=
  { user with isActive := true }

def UsersService.reactivate (companyId userId callerId : Nat) : AccessTx UsersService.Target := do
  let caller ← loadCurrentCaller callerId
  Tx.check (assertCallerActive caller)
  let user ← findOne companyId userId
  let currentRole ← loadRoleForSubsetCheck companyId user.roleId
  Tx.check (assertActorIsSuperAdminIfTargetIs caller currentRole.1)
  Tx.check (assertPermissionSubset caller.permissionKeys currentRole.2
    "You cannot reactivate a user whose role holds permissions you do not have.")
  Tx.update (.user userId) fun db => db.updateUser userId User.reactivated
  return { roleId := user.roleId, role := currentRole.1 }

namespace AccountSession

def ofDeactivation (userId : Nat) : AccessTx UsersService.Target → AccountSession
  | .done _ => .closing userId
  | .fail error => .refused error
  | todo => .deactivating userId todo

def ofReactivation (userId : Nat) : AccessTx UsersService.Target → AccountSession
  | .done _ => .bumping userId
  | .fail error => .refused error
  | todo => .reactivating userId todo

end AccountSession

def AccountCall.begin : AccountCall → AccountSession
  | .invite call => .invite call.begin
  | .password surface call => .password surface call.begin
  | .deactivate companyId userId callerId =>
    .ofDeactivation userId (UsersService.deactivate companyId userId callerId)
  | .reactivate companyId userId callerId =>
    .ofReactivation userId (UsersService.reactivate companyId userId callerId)

def AccountSession.next (config : InviteConfig) (draw : TokenDraw) :
    AccountSession → AccountStore → Option (AccountSession × AccountStore)
  | .invite session, store =>
    (session.next config draw store.toInviteStore).map fun moved =>
      (.invite moved.1, { store with toInviteStore := moved.2 })
  | .password surface session, store =>
    (session.next { config.toResetConfig with surface } draw (store.ofSurface surface)).map
      fun moved => (.password surface moved.1, store.putSurface surface moved.2)
  | .deactivating userId (.stmt _ write next), store =>
    some (.ofDeactivation userId (next store.db), store.withDb (write store.db))
  | .closing userId, store =>
    match (TokenService.endSessions config.toTokenConfig draw userId none).run store.db with
    | .ok (_, after) => some (.sweeping userId store.now, store.withDb after)
    | .error error => some (.refused error, store)
  | .sweeping userId now, store => some (.done, store.consumeAllLinks userId now)
  | .reactivating userId (.stmt _ write next), store =>
    some (.ofReactivation userId (next store.db), store.withDb (write store.db))
  | .bumping userId, store =>
    match (AuthzVersionService.bumpUsers [userId]).run store.db with
    | .ok (_, after) => some (.done, store.withDb after)
    | .error error => some (.refused error, store)
  | .deactivating _ _, _ | .reactivating _ _, _ | .done, _ | .refused _, _ => none

def AccountSession.move (config : InviteConfig) (draw : ResetDraw) (session : AccountSession)
    (store : AccountStore) : Option (AccountSession × AccountStore) :=
  session.next config draw.token (store.wait draw.elapsed)

abbrev AccountWorld (ι : Type) : Type := Shared ι AccountStore AccountSession

def AccountSession.exec {ι : Type} [DecidableEq ι] (config : InviteConfig) (input : ι × ResetDraw)
    (world : AccountWorld ι) : Except Unit (AccountWorld ι) :=
  Shared.exec (AccountSession.move config input.2) input.1 world

def accountStart {ι : Type} (calls : ι → AccountCall) (store : AccountStore) : AccountWorld ι where
  rows := store
  sessions := fun session => (calls session).begin

/-! ### Programs that end with a write -/

/-- What a request that is under way has still to write: the account is to be taken out of use, or
back into it, by its last statement. -/
def AccountSession.Sound : AccountSession → Prop
  | .deactivating userId todo => todo.WritesLast fun db => db.updateUser userId User.deactivated
  | .reactivating userId todo => todo.WritesLast fun db => db.updateUser userId User.reactivated
  | _ => True

theorem query_writes {α : Type} (ask : AccessDb → Except ServiceError α) :
    (Tx.query ask : AccessTx α).Writes (· = id) := by
  refine .query ?_ ask
  rfl

theorem deactivate_writesLast (companyId userId callerId : Nat) :
    (UsersService.deactivate companyId userId callerId).WritesLast
      fun db => db.updateUser userId User.deactivated := by
  refine (loadCurrentCaller_readOnly callerId).writes.writesLast_bind fun caller => ?_
  refine (Tx.Writes.check _).writesLast_bind fun _ => ?_
  refine (query_writes _).writesLast_bind fun user => ?_
  refine (query_writes _).writesLast_bind fun currentRole => ?_
  refine (Tx.Writes.check _).writesLast_bind fun _ => ?_
  refine (Tx.Writes.check _).writesLast_bind fun _ => ?_
  exact (guardLastSuperAdmin_writes _ _ _).writesLast_bind fun _ => .last

theorem reactivate_writesLast (companyId userId callerId : Nat) :
    (UsersService.reactivate companyId userId callerId).WritesLast
      fun db => db.updateUser userId User.reactivated := by
  refine (loadCurrentCaller_readOnly callerId).writes.writesLast_bind fun caller => ?_
  refine (Tx.Writes.check _).writesLast_bind fun _ => ?_
  refine (query_writes _).writesLast_bind fun user => ?_
  refine (query_writes _).writesLast_bind fun currentRole => ?_
  refine (Tx.Writes.check _).writesLast_bind fun _ => ?_
  exact (Tx.Writes.check _).writesLast_bind fun _ => .last

/-! ### Accounts that are out of use -/

def AccessDb.Off (db : AccessDb) (userId : Nat) : Prop :=
  ∀ user ∈ db.users.find? userId, user.isActive = false

namespace AccessDb

variable {db after : AccessDb} {userId : Nat}

theorem Off.of_users (off : db.Off userId)
    (same : after.users.find? userId = db.users.find? userId) : after.Off userId := by
  unfold AccessDb.Off
  rw [same]
  exact off

theorem Off.updateUser (off : db.Off userId) (id : Nat) {change : User → User}
    (quiet : ∀ user, user.isActive = false → (change user).isActive = false) :
    (db.updateUser id change).Off userId := by
  intro user found
  rcases Table.find?_modify_eq_some.mp found with ⟨rfl, before, present, rfl⟩ | ⟨_, present⟩
  · exact quiet before (off before present)
  · exact off user present

theorem off_deactivated (db : AccessDb) (userId : Nat) :
    (db.updateUser userId User.deactivated).Off userId := by
  intro user found
  rcases Table.find?_modify_eq_some.mp found with ⟨_, before, _, rfl⟩ | ⟨differs, _⟩
  · rfl
  · exact absurd rfl differs

theorem Off.standing (off : db.Off userId) (same : SameStanding userId db after) :
    after.Off userId := by
  intro user found
  rw [SameStanding, Option.mem_def.mp found] at same
  obtain ⟨before, present, standing⟩ := Option.map_eq_some_iff.mp same.symm
  have active : before.isActive = user.isActive := congrArg (fun figures => figures.2.2) standing
  rw [← active]
  exact off before present

theorem Off.run {α : Type} {tx : AccessTx α} (off : db.Off userId) (writes : tx.Writes KeepsStandings)
    {result : α} (ran : tx.run db = .ok (result, after)) : after.Off userId := by
  have each : ∀ write, KeepsStandings write → ∀ state : AccessDb, state.Off userId →
      (write state).Off userId :=
    fun _ keeps state off => off.standing ((keeps state).2 userId)
  exact writes.run_kept each off ran

end AccessDb

theorem createRefreshToken_writes (config : TokenConfig) (draw : TokenDraw) (userId : Nat)
    (family : Option Nat) (expiresInOverride : Option String) :
    (TokenService.createRefreshToken config draw userId family expiresInOverride).Writes
      KeepsStandings := by
  refine .stmt keepsStandings_id fun _ => .stmt ?_ fun _ => .done _
  exact fun db => ⟨⟨rfl, fun _ => rfl⟩, fun _ => rfl⟩

section Next

variable {config : InviteConfig} {draw : TokenDraw} {userId : Nat}

theorem PasswordSession.next_off {config : ResetConfig} {session next : PasswordSession}
    {store after : ResetStore} (moved : session.next config draw store = some (next, after))
    (off : store.db.Off userId) : after.db.Off userId := by
  cases session with
  | confirming token newHash =>
    simp only [PasswordSession.next] at moved
    split at moved <;> cases moved <;> exact off
  | claiming id reset newHash =>
    simp only [PasswordSession.next] at moved
    split at moved
    · rename_i claims
      unfold ResetStore.claim at claims
      split at claims
      · split at claims <;> cases claims
        cases moved
        exact off
      · cases claims
    · cases moved
      exact off
  | resetting id reset newHash =>
    simp only [PasswordSession.next, AuthService.resetPassword, Option.some.injEq] at moved
    split at moved <;> cases moved
    · exact off.updateUser _ fun _ inactive => inactive
    · exact off
  | changing id currentPassword newHash currentRefreshToken =>
    simp only [PasswordSession.next] at moved
    split at moved
    · split at moved <;> cases moved <;> exact off
    · cases moved
      exact off
  | rewriting id newHash now currentRefreshToken =>
    simp only [PasswordSession.next, AuthService.changePasswordTx, Option.some.injEq] at moved
    split at moved <;> cases moved
    · exact off.updateUser _ fun _ inactive => inactive
    · exact off
  | issuing reset supersedes =>
    cases moved
    show (if supersedes then _ else _ : ResetStore).db.Off userId
    split <;> exact off
  | hashing _ _ _ | rehashing _ _ _ =>
    cases moved
    exact off
  | ending id exceptRawToken =>
    cases moved
    show (AuthService.endSessions _ _ _ _ store.db).2.Off userId
    unfold AuthService.endSessions
    split
    · rename_i ran
      exact off.run (endSessions_writes _ _ _ _) ran
    · exact off
  | ended | refused _ => cases moved

/-- The invite with which a request is about to set up an account, and the account. -/
def InviteSession.setsUp (db : AccessDb) : InviteSession → Option (Nat × Nat)
  | .accepting claim _ _ existingUser _ =>
    some (claim.inviteId, existingUser.getD db.users.nextId)
  | _ => none

theorem InviteSession.next_off {session next : InviteSession} {store after : InviteStore}
    (moved : session.next config draw store = some (next, after)) (off : store.db.Off userId)
    (others : ∀ inviteId, session.setsUp store.db = some (inviteId, userId) →
      next.hasClaimed = false) : after.db.Off userId := by
  cases session with
  | accepting claim roleId contact existingUser now =>
    cases existingUser with
    | some id =>
      simp only [InviteSession.next, PortalAuthService.reinvite, Option.some.injEq] at moved
      split at moved <;> cases moved
      · by_cases mine : id = userId
        · subst mine
          cases others claim.inviteId rfl
        · refine off.of_users ?_
          exact Table.find?_modify_of_ne _ _ (Ne.symm mine)
      · exact off
    | none =>
      simp only [InviteSession.next, PortalAuthService.createAccount, Option.some.injEq] at moved
      split at moved
      · cases moved
        exact off
      · split at moved <;> cases moved
        · by_cases mine : store.db.users.nextId = userId
          · subst mine
            cases others claim.inviteId rfl
          · refine off.of_users ?_
            exact (Table.find?_create _ _ _).trans (if_neg (Ne.symm mine))
        · exact off
  | ending account =>
    simp only [InviteSession.next] at moved
    split at moved <;> cases moved
    · rename_i ran
      exact off.run (endSessions_writes _ _ _ _) ran
    · exact off
  | issuing token =>
    simp only [InviteSession.next] at moved
    split at moved <;> cases moved
    · rename_i ran
      exact off.run (createRefreshToken_writes _ _ _ _ _) ran
    · exact off
  | striking inviteId =>
    simp only [InviteSession.next, PortalAuthService.strike, Option.some.injEq] at moved
    split at moved <;> cases moved
    · rename_i updated
      obtain ⟨_, _, _, _, rfl⟩ := InviteStore.updateOpen_eq_some.mp updated
      exact off
    · exact off
  | claiming claim =>
    simp only [InviteSession.next, PortalAuthService.claimInvite, Option.some.injEq] at moved
    split at moved <;> cases moved
    · rename_i updated
      obtain ⟨_, _, _, _, rfl⟩ := InviteStore.updateOpen_eq_some.mp updated
      exact off
    · exact off
  | reading inviteId dto =>
    simp only [InviteSession.next] at moved
    split at moved
    · split at moved <;> cases moved <;> exact off
    · cases moved
      exact off
  | sending _ _ _ | finalizing _ | naming _ _ =>
    simp only [InviteSession.next] at moved
    split at moved <;> cases moved <;> exact off
  | creating _ _ _ | matching _ _ _ | signing _ =>
    cases moved
    exact off
  | sent _ _ _ | accepted _ | refused _ => cases moved

theorem InviteSession.next_active {session next : InviteSession} {store after : InviteStore}
    {inviteId : Nat} (moved : session.next config draw store = some (next, after))
    (setsUp : session.setsUp store.db = some (inviteId, userId))
    (claimed : next.hasClaimed = true) : ¬after.db.Off userId := by
  cases session with
  | accepting claim roleId contact existingUser now =>
    cases existingUser with
    | some id =>
      cases setsUp
      simp only [InviteSession.next, PortalAuthService.reinvite, Option.some.injEq] at moved
      split at moved <;> cases moved
      · rename_i account found
        obtain ⟨user, present, _⟩ := Option.bind_eq_some_iff.mp found
        intro off
        have present : (store.db.users.modify id (User.invited claim.newHash)).find? id =
          some user := present
        have inactive : user.isActive = false := off user present
        rw [Table.find?_modify_self] at present
        obtain ⟨before, _, rfl⟩ := Option.map_eq_some_iff.mp present
        cases inactive
      · cases claimed
    | none =>
      cases setsUp
      simp only [InviteSession.next, PortalAuthService.createAccount, Option.some.injEq] at moved
      split at moved
      · cases moved
        cases claimed
      · split at moved <;> cases moved
        · intro off
          have inactive := off (claim.invite.newUser roleId contact claim.newHash)
            (Table.find?_create_self _ _)
          cases inactive
        · cases claimed
  | _ => cases setsUp

end Next

/-! ### Deactivations -/

section Steps

variable {ι : Type} (userId : Nat)

def deactivates (step : Step (AccountWorld ι) (ι × ResetDraw)) : Bool :=
  match step.before.sessions step.input.1, step.after.sessions step.input.1 with
  | .deactivating id _, .closing _ => id == userId
  | _, _ => false

def reactivates (step : Step (AccountWorld ι) (ι × ResetDraw)) : Bool :=
  match step.before.sessions step.input.1, step.after.sessions step.input.1 with
  | .reactivating id _, .bumping _ => id == userId
  | _, _ => false

/-- The invite with which a step sets up the account, for the request that has claimed it. -/
def redeemed (step : Step (AccountWorld ι) (ι × ResetDraw)) : Option Nat :=
  match step.before.sessions step.input.1, step.after.sessions step.input.1 with
  | .invite session, .invite next =>
    ((session.setsUp step.before.rows.db).filter fun target =>
      next.hasClaimed && target.2 == userId).map Prod.fst
  | _, _ => none

/-- Whether a deactivation stands after some more steps: the account has not been reactivated, and
no invite issued after the deactivation has been redeemed for it. -/
def StandsThrough (deactivation : Step (AccountWorld ι) (ι × ResetDraw))
    (later : List (Step (AccountWorld ι) (ι × ResetDraw))) : Prop :=
  ∀ step ∈ later, reactivates userId step = false ∧
    ∀ inviteId ∈ redeemed userId step, inviteId < deactivation.after.rows.invites.nextId

/-- **A deactivation holds**: as long as it stands, the account is not active. -/
def DeactivationHolds (history : List (Step (AccountWorld ι) (ι × ResetDraw)))
    (world : AccountWorld ι) : Prop :=
  ∀ earlier deactivation later, history = earlier ++ deactivation :: later →
    deactivates userId deactivation = true → StandsThrough userId deactivation later →
    world.rows.db.Off userId

/-- Whether the last step redeems an invite while a deactivation stands: an invite that was there
before the deactivation. -/
def RedeemsOldInvite (history : List (Step (AccountWorld ι) (ι × ResetDraw))) : Prop :=
  ∃ earlier deactivation between redemption,
    history = earlier ++ deactivation :: (between ++ [redemption]) ∧
    deactivates userId deactivation = true ∧
    StandsThrough userId deactivation (between ++ [redemption]) ∧
    redeemed userId redemption ≠ none

variable {userId} [DecidableEq ι] {config : InviteConfig} {input : ι × ResetDraw}
  {before after : AccountWorld ι}

theorem accountExec_eq_ok (accepted : AccountSession.exec config input before = .ok after) :
    ∃ next store, (before.sessions input.1).next config input.2.token
        (before.rows.wait input.2.elapsed) = some (next, store) ∧
      after = { rows := store, sessions := update before.sessions input.1 next } :=
  Shared.exec_eq_ok.mp accepted

theorem AccountSession.sound_ofDeactivation {todo : AccessTx UsersService.Target}
    (writes : todo.WritesLast fun db => db.updateUser userId User.deactivated) :
    (AccountSession.ofDeactivation userId todo).Sound := by
  cases todo with
  | done target => trivial
  | fail error => trivial
  | stmt locks write next => exact writes

theorem AccountSession.sound_ofReactivation {todo : AccessTx UsersService.Target}
    (writes : todo.WritesLast fun db => db.updateUser userId User.reactivated) :
    (AccountSession.ofReactivation userId todo).Sound := by
  cases todo with
  | done target => trivial
  | fail error => trivial
  | stmt locks write next => exact writes

theorem AccountCall.begin_sound (call : AccountCall) : call.begin.Sound := by
  cases call with
  | deactivate companyId id callerId =>
    exact AccountSession.sound_ofDeactivation (deactivate_writesLast companyId id callerId)
  | reactivate companyId id callerId =>
    exact AccountSession.sound_ofReactivation (reactivate_writesLast companyId id callerId)
  | _ => trivial

section Statements

variable {draw : TokenDraw} {session next : AccountSession} {store left : AccountStore}

theorem AccountSession.next_sound (sound : session.Sound)
    (moved : session.next config draw store = some (next, left)) : next.Sound := by
  cases session with
  | invite _ | password _ _ =>
    obtain ⟨_, _, same⟩ := Option.map_eq_some_iff.mp moved
    cases same
    trivial
  | deactivating id todo =>
    cases sound with
    | fail error => cases moved
    | last =>
      cases moved
      trivial
    | more follows =>
      cases moved
      exact AccountSession.sound_ofDeactivation (follows _)
  | reactivating id todo =>
    cases sound with
    | fail error => cases moved
    | last =>
      cases moved
      trivial
    | more follows =>
      cases moved
      exact AccountSession.sound_ofReactivation (follows _)
  | closing _ | bumping _ =>
    simp only [AccountSession.next] at moved
    split at moved <;> cases moved <;> trivial
  | sweeping _ _ =>
    cases moved
    trivial
  | done | refused _ => cases moved

theorem AccountSession.next_deactivated {todo : AccessTx UsersService.Target} {id : Nat}
    (sound : (AccountSession.deactivating userId todo).Sound)
    (moved : (AccountSession.deactivating userId todo).next config draw store =
      some (.closing id, left)) : left.db.Off userId := by
  cases sound with
  | fail error => cases moved
  | last =>
    cases moved
    exact AccessDb.off_deactivated _ _
  | @more locks rest follows =>
    -- a program that ends with a write does not end before it
    have writes := follows store.db
    obtain ⟨closes, _⟩ := Prod.mk.inj (Option.some.inj moved)
    cases todo : rest store.db with
    | done target =>
      rw [todo] at writes
      cases writes
    | fail error =>
      rw [todo] at closes
      cases closes
    | stmt locks write next =>
      rw [todo] at closes
      cases closes

theorem AccountSession.next_off (sound : session.Sound)
    (moved : session.next config draw store = some (next, left)) (off : store.db.Off userId)
    (unreactivated : ∀ todo id, session = .reactivating userId todo → next ≠ .bumping id)
    (unredeemed : ∀ inviteId began resumed, session = .invite began → next = .invite resumed →
      began.setsUp store.db = some (inviteId, userId) → resumed.hasClaimed = false) :
    left.db.Off userId := by
  cases session with
  | invite session =>
    obtain ⟨⟨resumed, rows⟩, inner, same⟩ := Option.map_eq_some_iff.mp moved
    cases same
    exact InviteSession.next_off inner off fun inviteId setsUp =>
      unredeemed inviteId session resumed rfl rfl setsUp
  | password surface session =>
    obtain ⟨⟨resumed, rows⟩, inner, same⟩ := Option.map_eq_some_iff.mp moved
    cases same
    cases surface with
    | portal => exact PasswordSession.next_off inner off
    | staff =>
      have kept : rows.db.Off userId := PasswordSession.next_off inner off
      exact kept
  | deactivating id todo =>
    cases sound with
    | fail error => cases moved
    | last =>
      cases moved
      exact off.updateUser _ fun _ _ => rfl
    | more follows =>
      cases moved
      exact off
  | reactivating id todo =>
    cases sound with
    | fail error => cases moved
    | last =>
      cases moved
      by_cases mine : id = userId
      · subst mine
        exact absurd rfl (unreactivated _ _ rfl)
      · exact off.of_users (Table.find?_modify_of_ne _ _ (Ne.symm mine))
    | more follows =>
      cases moved
      exact off
  | closing id =>
    simp only [AccountSession.next] at moved
    split at moved
    · rename_i ran
      cases moved
      exact off.run (endSessions_writes _ _ _ _) ran
    · cases moved
      exact off
  | sweeping id now =>
    cases moved
    exact off
  | bumping id =>
    simp only [AccountSession.next] at moved
    split at moved
    · rename_i ran
      cases moved
      exact off.run (bumpUsers_writes _) ran
    · cases moved
      exact off
  | done | refused _ => cases moved

end Statements

/-! ### Runs -/

def AllSound (world : AccountWorld ι) : Prop :=
  ∀ session, (world.sessions session).Sound

omit [DecidableEq ι] in
theorem AllSound.start (calls : ι → AccountCall) (store : AccountStore) :
    AllSound (accountStart calls store) :=
  fun session => (calls session).begin_sound

theorem AllSound.step (sound : AllSound before)
    (accepted : AccountSession.exec config input before = .ok after) : AllSound after := by
  obtain ⟨next, store, moved, rfl⟩ := accountExec_eq_ok accepted
  intro session
  by_cases mine : session = input.1
  · show (update before.sessions input.1 next session).Sound
    rw [mine, update_self]
    exact AccountSession.next_sound (sound input.1) moved
  · show (update before.sessions input.1 next session).Sound
    rw [update_of_ne mine]
    exact sound session

theorem off_of_deactivates (sound : AllSound before)
    (accepted : AccountSession.exec config input before = .ok after)
    (committed : deactivates userId ⟨before, input, after⟩ = true) : after.rows.db.Off userId := by
  have known := sound input.1
  obtain ⟨next, store, moved, rfl⟩ := accountExec_eq_ok accepted
  simp only [deactivates, update_self] at committed
  split at committed
  · rename_i id todo _ place
    obtain rfl : id = userId := by simpa using committed
    rw [place] at known moved
    exact AccountSession.next_deactivated known moved
  · cases committed

/-- An account that is not active stays so through a step that neither reactivates it nor redeems an
invite for it. -/
theorem off_step (sound : AllSound before)
    (accepted : AccountSession.exec config input before = .ok after)
    (unreactivated : reactivates userId ⟨before, input, after⟩ = false)
    (unredeemed : redeemed userId ⟨before, input, after⟩ = none)
    (off : before.rows.db.Off userId) : after.rows.db.Off userId := by
  obtain ⟨next, store, moved, rfl⟩ := accountExec_eq_ok accepted
  refine AccountSession.next_off (sound input.1) moved off (fun todo id place bumps => ?_)
    fun inviteId began resumed place follows setsUp => ?_
  · simp [reactivates, place, bumps] at unreactivated
  · have setsUp : began.setsUp before.rows.db = some (inviteId, userId) := setsUp
    simpa [redeemed, place, follows, setsUp, Option.filter] using unredeemed

theorem not_off_of_redeemed (accepted : AccountSession.exec config input before = .ok after)
    (redeems : redeemed userId ⟨before, input, after⟩ ≠ none) : ¬after.rows.db.Off userId := by
  obtain ⟨next, store, moved, rfl⟩ := accountExec_eq_ok accepted
  obtain ⟨inviteId, isRedeemed⟩ := Option.ne_none_iff_exists'.mp redeems
  simp only [redeemed, update_self] at isRedeemed
  split at isRedeemed
  · rename_i session resumed place
    obtain ⟨⟨_, account⟩, kept, rfl⟩ := Option.map_eq_some_iff.mp isRedeemed
    obtain ⟨setsUp, isMine⟩ := Option.filter_eq_some_iff.mp kept
    obtain ⟨claimed, rfl⟩ : resumed.hasClaimed = true ∧ account = userId := by simpa using isMine
    rw [place] at moved
    obtain ⟨⟨_, rows⟩, inner, same⟩ := Option.map_eq_some_iff.mp moved
    cases same
    exact InviteSession.next_active inner setsUp claimed
  · cases isRedeemed

/-- **Deactivation.** In any interleaving of requests, the deactivations of an account hold at every
moment if and only if at no moment an invite is redeemed for it while a deactivation stands. -/
theorem deactivation_holds_iff (config : InviteConfig) (calls : ι → AccountCall)
    (store : AccountStore) (schedule : List (ι × ResetDraw)) (userId : Nat) :
    (∀ earlier, earlier <+: schedule → DeactivationHolds userId
      (steps (AccountSession.exec config) (accountStart calls store) earlier)
      (run (AccountSession.exec config) (accountStart calls store) earlier)) ↔
    ∀ earlier, earlier <+: schedule → ¬RedeemsOldInvite userId
      (steps (AccountSession.exec config) (accountStart calls store) earlier) := by
  have sound : ∀ inputs, AllSound (run (AccountSession.exec config) (accountStart calls store)
      inputs) := fun inputs => states_invariant AllSound (fun _ _ _ sound accepted (_ : True) =>
    sound.step accepted) (fun _ _ => trivial) (AllSound.start calls store) _ (run_mem_states _ inputs)
  constructor
  · rintro holds earlier isPrefix ⟨first, deactivation, between, redemption, split, committed,
      stands, redeems⟩
    have off := holds earlier isPrefix _ _ _ split committed stands
    have split : steps (AccountSession.exec config) (accountStart calls store) earlier =
        (first ++ deactivation :: between) ++ redemption :: [] := by
      rw [split, List.append_assoc, List.cons_append]
    obtain ⟨_, _, _, _, _, accepted, nothing, ends⟩ := steps_eq_append_cons split
    rw [ends, run_of_steps_eq_nil nothing] at off
    exact not_off_of_redeemed accepted redeems off
  · intro spared earlier isPrefix first deactivation later split committed stands
    obtain ⟨inputs, more, _, _, reached, accepted, follows, ends⟩ := steps_eq_append_cons split
    have soundThen : AllSound deactivation.before := reached ▸ sound inputs
    rw [ends]
    -- no step taken since then redeems an invite: it would be an old one
    have unredeemed : ∀ step ∈ later, redeemed userId step = none := by
      intro step member
      by_contra redeems
      obtain ⟨between, rest, rfl⟩ := List.append_of_mem member
      have splitThere : steps (AccountSession.exec config) (accountStart calls store) earlier =
          (first ++ deactivation :: between) ++ step :: rest := by
        rw [split, List.append_assoc, List.cons_append]
      obtain ⟨inputsThen, after, rfl, before, reachedThen, acceptedThen, _, _⟩ :=
        steps_eq_append_cons splitThere
      have beginning : inputsThen ++ [step.input] <+: schedule := by
        refine (List.prefix_append (inputsThen ++ [step.input]) after).trans ?_
        rw [List.append_assoc]
        exact isPrefix
      refine spared _ beginning ⟨first, deactivation, between, step, ?_, committed, ?_, redeems⟩
      · rw [steps_append, before, reachedThen, steps_cons_ok acceptedThen, List.append_assoc,
          List.cons_append]
        rfl
      · intro other member
        refine stands other ?_
        rcases List.mem_append.mp member with early | last
        · exact List.mem_append_left _ early
        · rw [List.mem_singleton.mp last]
          exact List.mem_append_right _ List.mem_cons_self
    have quiet : ∀ step ∈ steps (AccountSession.exec config) deactivation.after more,
        reactivates userId step = false ∧ redeemed userId step = none := by
      rw [follows]
      exact fun step member => ⟨(stands step member).1, unredeemed step member⟩
    have kept : ∀ visited ∈ states (AccountSession.exec config) deactivation.after more,
        AllSound visited ∧ visited.rows.db.Off userId :=
      states_invariant _ (fun _ _ _ known accepted quiet => ⟨known.1.step accepted,
          off_step known.1 accepted quiet.1 quiet.2 known.2⟩) quiet
        ⟨soundThen.step accepted, off_of_deactivates soundThen accepted committed⟩
    exact (kept _ (run_mem_states _ more)).2

end Steps

/-! ### An old invite -/

def portalCompany : AccountStore :=
  { invitingCompany with
    db := { invitingCompany.db with
      users := invitingCompany.db.users.create
        { companyId := 0, email := some "customer", passwordHash := "old", name := "Customer",
          roleId := 3, applicantId := some 0 } } }

/-- The owner invites the customer, and deactivates the account; the customer follows the invite. -/
inductive OldInvite
  | invitation | deactivation | customer
  deriving DecidableEq

def oldInviteCalls : OldInvite → AccountCall
  | .invitation => .invite (.sendInvite 0 0 ⟨.applicant 0, .email⟩)
  | .deactivation => .deactivate 0 3 0
  | .customer => .invite (.consumeInvite 0 ⟨"raw", "new"⟩)

def oldInviteSchedule : List (OldInvite × ResetDraw) :=
  (List.replicate 2 OldInvite.invitation ++ List.replicate 7 OldInvite.deactivation ++
    List.replicate 6 OldInvite.customer).map fun request =>
      (request, ⟨1, ⟨"raw", 0, 0, 0, 0, 0⟩⟩)

def oldInviteSteps : List (Step (AccountWorld OldInvite) (OldInvite × ResetDraw)) :=
  steps (AccountSession.exec portalConfig) (accountStart oldInviteCalls portalCompany)
    oldInviteSchedule

theorem length_oldInviteSteps : oldInviteSteps.length = 15 := by decide

def oldInviteDeactivation : Step (AccountWorld OldInvite) (OldInvite × ResetDraw) :=
  oldInviteSteps.get ⟨6, by rw [length_oldInviteSteps]; decide⟩

/-- **An invite from before the deactivation makes the account active again**, although nobody has
reactivated it, and no invite has been issued since. -/
theorem reactivated_by_old_invite :
    ¬DeactivationHolds 3 oldInviteSteps (run (AccountSession.exec portalConfig)
      (accountStart oldInviteCalls portalCompany) oldInviteSchedule) := by
  intro holds
  have split : oldInviteSteps =
      oldInviteSteps.take 6 ++ oldInviteDeactivation :: oldInviteSteps.drop 7 := by
    have seventh : 6 < oldInviteSteps.length := by decide
    show _ = oldInviteSteps.take 6 ++ oldInviteSteps[6] :: oldInviteSteps.drop 7
    rw [← List.drop_eq_getElem_cons seventh, List.take_append_drop]
  have stands : StandsThrough 3 oldInviteDeactivation (oldInviteSteps.drop 7) := by
    unfold StandsThrough
    decide
  have off := holds _ _ _ split (by decide) stands
  have active : ((run (AccountSession.exec portalConfig) (accountStart oldInviteCalls portalCompany)
      oldInviteSchedule).rows.db.users.find? 3).any User.isActive = true := by decide
  obtain ⟨user, found, isActive⟩ := (Option.any_eq_true _ _).mp active
  rw [off user found] at isActive
  cases isActive

end OpenEstate
