/-
**The second factor.**

An account is enrolled in two calls: the first stores a secret, and the second, with a code of it,
turns the second factor on and answers the recovery codes. It is turned off by its owner or by an
admin. The first call turns it off as well: an enrolment that is begun and never confirmed leaves the
account without a second factor.

* `TotpOp.perform`: the calls; `TotpOp.perform_done`: what a call does to an account's factor;
* `outstanding`: the recovery codes that have been answered and not used, along a history;
* `SecondFactorHolds`: logins ask for the second factor, and accept these codes and no others;
* `second_factor_holds_iff`: in which runs it holds throughout;
* `reenrolment_turns_off`: one in which it does not.
-/

import OpenEstate.Access.SignIn
import OpenEstate.Access.SuperAdmin

namespace OpenEstate

open Relational

/-! ### Configuration and draws -/

structure SecondFactorConfig extends InviteConfig where
  decrypt : String → String
  encrypt : String → String → String
  verifyTotp : String → String → Nat → Bool
  otpauthUrl : String → String → String
  qrDataUrl : String → String

def SecondFactorConfig.toTotpConfig (config : SecondFactorConfig) : TotpConfig where
  toTokenConfig := config.toTokenConfig
  decrypt := config.decrypt
  verify := config.verifyTotp

/-- What a call draws: a secret, the vector it is encrypted with, five bytes for each recovery code,
and what the token service draws. -/
structure TotpDraw where
  secret : String
  iv : String
  recoveryBytes : Fin 8 → Fin (256 ^ 5)
  token : TokenDraw

def hexDigit (value : Nat) : Char :=
  "0123456789ABCDEF".toList.getD value '0'

def recoveryCode (bytes : Fin (256 ^ 5)) : String :=
  let digits := (List.range 10).reverse.map fun place => hexDigit (bytes / 16 ^ place % 16)
  String.ofList (digits.take 5 ++ '-' :: digits.drop 5)

example : recoveryCode 0x00FF00ABCD = "00FF0-0ABCD" := by decide

def generateRecoveryCodes (bytes : Fin 8 → Fin (256 ^ 5)) : List String :=
  (List.finRange 8).map fun code => recoveryCode (bytes code)

/-! ### Calls -/

inductive TotpOp
  | setupTotp (userId : Nat)
  | confirmTotp (userId : Nat) (code : String) (currentRefreshToken : Option String)
  | verifyTotp (surface : Surface) (userId : Nat) (dto : VerifyTotpDto)
  | disableTotp (userId : Nat) (currentRefreshToken : Option String)
  | resetTotp (companyId userId adminUserId : Nat)
  | adminResetTotp (companyId : Nat) (principal : Principal)

/-- What a call answers. A login that is let through says which recovery code it has spent, if it
has spent one. -/
inductive TotpAnswer
  | enrolment (secret otpauthUrl qrDataUrl : String)
  | recoveryCodes (codes : List String)
  | signedIn (spent : Option String) (answer : LoginAnswer)
  | disabled
  | reset (wasEnabled : Bool)

namespace User

def totpEnrolling (totpSecret : String) (user : User) : User :=
  { user with totpSecret := some totpSecret, totpEnabled := false }

def totpConfirmed (recoveryCodes : List String) (user : User) : User :=
  { user with totpEnabled := true, recoveryCodes }

def totpCleared (user : User) : User :=
  { user.totpAttemptsCleared with totpEnabled := false, totpSecret := none, recoveryCodes := [] }

end User

namespace InviteStore

def withDb (store : InviteStore) (db : AccessDb) : InviteStore :=
  { store with db }

def portalUser? (store : InviteStore) (companyId : Nat) (principal : Principal) :
    Option (Nat × User) :=
  store.db.users.findFirst? fun _ user => user.companyId == companyId && principal.owns user

end InviteStore

def TotpOp.target (store : InviteStore) : TotpOp → Option Nat
  | .setupTotp userId | .confirmTotp userId _ _ | .verifyTotp _ userId _ | .disableTotp userId _
  | .resetTotp _ userId _ => some userId
  | .adminResetTotp companyId principal => (store.portalUser? companyId principal).map Prod.fst

/-! ### The service -/

/-- What is checked of a request to verify a second factor on the portal, and of its account. -/
def PortalAuthService.checkTotpAccount (dto : VerifyTotpDto) (found : Option Account) :
    Except ServiceError Account := do
  ensure (∀ surface ∈ dto.pendingSurface, surface = .portal)
    (.forbidden "This session type may not access this route.")
  let account ← orThrow found (.error "No record was found for a query.")
  ensure (account.user.applicantId.isSome = true ∨ account.user.brokerId.isSome = true)
    AuthService.invalidCredentials
  ensure (account.user.needsTwoFactor = true) (.badRequest "2FA not enabled")
  return account

def checkSecondFactor (surface : Surface) (dto : VerifyTotpDto) (found : Option Account) :
    Except ServiceError Account :=
  match surface with
  | .staff => AuthService.checkTotpAccount dto found
  | .portal => PortalAuthService.checkTotpAccount dto found

def portalUserMessage : String :=
  "This is a portal user — reset their 2FA from their customer or broker record, not here."

/-- The reset of a staff account by an admin. The answer is whether the second factor was on. -/
def UsersService.resetTotp (companyId userId adminUserId : Nat) : AccessTx Bool := do
  Tx.check (ensure (userId ≠ adminUserId)
    (.badRequest "You cannot reset your own 2FA here. Use Settings → Disable 2FA instead."))
  let caller ← loadCurrentCaller adminUserId
  Tx.check (assertCallerActive caller)
  let user ← findOne companyId userId
  Tx.check (ensure (user.applicantId = none ∧ user.brokerId = none) (.badRequest portalUserMessage))
  let targetRole ← loadRoleForSubsetCheck companyId user.roleId
  Tx.check (ensure (targetRole.1.isPortal = false) (.badRequest portalUserMessage))
  Tx.check (assertActorIsSuperAdminIfTargetIs caller targetRole.1)
  Tx.check (assertPermissionSubset caller.permissionKeys targetRole.2
    "You cannot reset 2FA for a user whose role holds permissions you do not have.")
  Tx.updateReturning (.user userId) (fun db => db.updateUser userId User.totpCleared)
    fun db => (db.users.find? userId).any User.totpEnabled

namespace AuthService

variable (config : SecondFactorConfig) (draw : TotpDraw)

def endOtherSessions (userId : Nat) (currentRefreshToken : Option String) (answer : TotpAnswer)
    (db : AccessDb) : Except ServiceError TotpAnswer × AccessDb :=
  match (TokenService.endSessions config.toTokenConfig draw.token userId
      currentRefreshToken).run db with
  | .ok (_, after) => (.ok answer, after)
  | .error error => (.error error, db)

/-- The tokens of an account that has been let through, with the session version as it is now. -/
def letThrough (surface : Surface) (account : Account) (spent : Option String) (db : AccessDb) :
    Except ServiceError TotpAnswer × AccessDb :=
  match db.users.find? account.id with
  | some now =>
    match issueTokens config.toInviteConfig draw.token surface account now.authzVersion db with
    | (.ok answer, after) => (.ok (.signedIn spent answer), after)
    | (.error error, after) => (.error error, after)
  | none => (.error (.error "Cannot issue a token for a user that does not exist"), db)

def setupTotp (userId : Nat) (db : AccessDb) : Except ServiceError TotpAnswer × AccessDb :=
  match db.users.find? userId with
  | some user =>
    let url := config.otpauthUrl ((user.email.or user.phone).getD user.name) draw.secret
    (.ok (.enrolment draw.secret url (config.qrDataUrl url)),
      db.updateUser userId (User.totpEnrolling (config.encrypt draw.iv draw.secret)))
  | none => (.error (.error "No record was found for a query."), db)

def confirmTotp (userId : Nat) (code : String) (currentRefreshToken : Option String)
    (db : AccessDb) : Except ServiceError TotpAnswer × AccessDb :=
  match db.users.find? userId with
  | some user =>
    match user.totpSecret.filter (· ≠ "") with
    | some totpSecret =>
      if config.verifyTotp (config.decrypt totpSecret) code draw.token.judgedAt then
        let codes := generateRecoveryCodes draw.recoveryBytes
        endOtherSessions config draw userId currentRefreshToken (.recoveryCodes codes)
          (db.updateUser userId (User.totpConfirmed codes))
      else (.error (.badRequest "Invalid TOTP code"), db)
    | none => (.error (.badRequest "TOTP setup not started"), db)
  | none => (.error (.error "No record was found for a query."), db)

def verifyTotp (surface : Surface) (userId : Nat) (dto : VerifyTotpDto) (db : AccessDb) :
    Except ServiceError TotpAnswer × AccessDb :=
  match checkSecondFactor surface dto (db.accountOf userId) with
  | .ok account =>
    match reserveTotpAttempt draw.token.comparedAt account.id db with
    | some reserved =>
      if isTotpCode config.toTotpConfig draw.token account dto.code then
        letThrough config draw surface account none
          (reserved.updateUser account.id User.totpAttemptsCleared)
      else if dto.code ∈ account.user.recoveryCodes then
        letThrough config draw surface account (some dto.code) (reserved.updateUser account.id
          (User.withRecoveryCodes (account.user.recoveryCodes.erase dto.code)))
      else (.error (.unauthorized "Invalid TOTP code"), reserved)
    | none => (.error (.tooManyRequests totpLockedMessage), db)
  | .error error => (.error error, db)

def disableTotp (userId : Nat) (currentRefreshToken : Option String) (db : AccessDb) :
    Except ServiceError TotpAnswer × AccessDb :=
  match db.users.find? userId with
  | some _ => endOtherSessions config draw userId currentRefreshToken .disabled
      (db.updateUser userId User.totpCleared)
  | none => (.error (.error "No record was found for an update."), db)

end AuthService

section Service

variable (config : SecondFactorConfig) (draw : TotpDraw)

/-- The reset of an account of the portal by an admin, for the applicant or the broker. -/
def PortalAuthService.adminResetTotp (companyId : Nat) (principal : Principal) (store : InviteStore) :
    Except ServiceError TotpAnswer × AccessDb :=
  if (store.contact? principal).any (·.companyId == companyId) then
    match store.portalUser? companyId principal with
    | some (userId, user) =>
      AuthService.endOtherSessions config draw userId none (.reset user.totpEnabled)
        (store.db.updateUser userId User.totpCleared)
    | none => (.error (.conflict
        "This person has no portal account yet, so there is no 2FA to reset."), store.db)
  else (.error (.notFound principal.notFoundMessage), store.db)

def TotpOp.perform (op : TotpOp) (store : InviteStore) :
    Except ServiceError TotpAnswer × AccessDb :=
  match op with
  | .setupTotp userId => AuthService.setupTotp config draw userId store.db
  | .confirmTotp userId code currentRefreshToken =>
    AuthService.confirmTotp config draw userId code currentRefreshToken store.db
  | .verifyTotp surface userId dto => AuthService.verifyTotp config draw surface userId dto store.db
  | .disableTotp userId currentRefreshToken =>
    AuthService.disableTotp config draw userId currentRefreshToken store.db
  | .resetTotp companyId userId adminUserId =>
    match (UsersService.resetTotp companyId userId adminUserId).run store.db with
    | .ok (wasEnabled, after) =>
      AuthService.endOtherSessions config draw userId none (.reset wasEnabled) after
    | .error error => (.error error, store.db)
  | .adminResetTotp companyId principal =>
    PortalAuthService.adminResetTotp config draw companyId principal store

end Service

def TotpOp.exec (config : SecondFactorConfig) (input : TotpOp × TotpDraw) (store : InviteStore) :
    Except Unit InviteStore :=
  .ok (store.withDb (input.1.perform config input.2 store).2)

/-! ### What a call does to a factor -/

structure Factor where
  enabled : Bool
  secret : Option String
  codes : List String
  deriving DecidableEq

def User.factor (user : User) : Factor :=
  ⟨user.totpEnabled, user.totpSecret, user.recoveryCodes⟩

namespace AccessDb

def factorOf (db : AccessDb) (userId : Nat) : Option Factor :=
  (db.users.find? userId).map User.factor

variable {db after : AccessDb} {userId : Nat}

theorem factorOf_updateUser (db : AccessDb) (id userId : Nat) (change : User → User) :
    (db.updateUser id change).factorOf userId = if userId = id then
      (db.users.find? id).map fun user => (change user).factor else db.factorOf userId := by
  unfold factorOf
  rw [AccessDb.updateUser, Table.find?_modify]
  split
  · rename_i same
    rw [same, Option.map_map]
    rfl
  · rfl

theorem factorOf_updateUser_of_same (db : AccessDb) (id userId : Nat) {change : User → User}
    (same : ∀ user, (change user).factor = user.factor) :
    (db.updateUser id change).factorOf userId = db.factorOf userId := by
  rw [factorOf_updateUser]
  split
  · rename_i mine
    rw [mine, factorOf]
    congr 1
    funext user
    exact same user
  · rfl

end AccessDb

def KeepsFactors (write : AccessDb → AccessDb) : Prop :=
  ∀ db userId, (write db).factorOf userId = db.factorOf userId

theorem endSessions_keepsFactors (config : TokenConfig) (draw : TokenDraw) (userId : Nat)
    (exceptRawToken : Option String) :
    (TokenService.endSessions config draw userId exceptRawToken).Writes KeepsFactors := by
  have nothing : KeepsFactors id := fun _ _ => rfl
  refine .stmt nothing fun _ => .bind ?_ fun version => ?_
  · refine .stmt (fun db id => ?_) fun _ => .check _
    exact db.factorOf_updateUser_of_same userId id fun _ => rfl
  · refine .bind (.read nothing _) fun current => .bind ?_ fun _ => .done _
    exact .updateMany nothing fun _ _ _ => rfl

section Effects

variable {config : SecondFactorConfig} {draw : TotpDraw} {userId : Nat} {db : AccessDb}

theorem endOtherSessions_eq {user : User} (present : db.users.find? userId = some user)
    (currentRefreshToken : Option String) (answer : TotpAnswer) :
    (AuthService.endOtherSessions config draw userId currentRefreshToken answer db).1 = .ok answer ∧
      ∀ id, (AuthService.endOtherSessions config draw userId currentRefreshToken answer
        db).2.factorOf id = db.factorOf id := by
  have ran : ∃ version after, (TokenService.endSessions config.toTokenConfig draw.token userId
      currentRefreshToken).run db = .ok (version, after) := by
    have bumped : (TokenService.bumpVersion userId).run db = .ok (user.authzVersion + 1,
        { db with users := db.users.modify userId User.bump }) := by
      show (Tx.check (orThrow ((db.users.find? userId).map _) _)).run _ = _
      rw [present]
      rfl
    have follows : ∀ version state, ∃ after, (do
        let current ← Tx.read (TokenService.sparedToken config.toTokenConfig currentRefreshToken)
        TokenService.revokeWhere draw.token (TokenService.isOtherSession userId current)
        return version : AccessTx Nat).run state = .ok (version, after) :=
      fun _ _ => ⟨_, rfl⟩
    obtain ⟨after, ended⟩ := follows (user.authzVersion + 1) _
    exact ⟨_, after, (Tx.run_bind_of_eq_ok bumped).trans ended⟩
  obtain ⟨version, after, ran⟩ := ran
  unfold AuthService.endOtherSessions
  rw [ran]
  refine ⟨rfl, fun id => ?_⟩
  have each : ∀ write, KeepsFactors write → ∀ state : AccessDb,
      state.factorOf id = db.factorOf id → (write state).factorOf id = db.factorOf id :=
    fun write keeps state same => (keeps state id).trans same
  exact (endSessions_keepsFactors _ _ _ _).run_kept each rfl ran

/-- What an answer says of the factor of the account that the call was about. -/
def TotpAnswer.effect (encrypted : String) : TotpAnswer → Factor → Factor
  | .enrolment _ _ _, factor => { factor with enabled := false, secret := some encrypted }
  | .recoveryCodes codes, factor => { factor with enabled := true, codes }
  | .signedIn (some code) _, factor => { factor with codes := factor.codes.erase code }
  | .signedIn none _, factor => factor
  | .disabled, _ | .reset _, _ => ⟨false, none, []⟩

/-- Which answers a call gives: an enrolment is what a setup answers, and recovery codes are given
for a factor with a secret. -/
def TotpAnswer.Fits (op : TotpOp) (factor : Factor) : TotpAnswer → Prop
  | .enrolment _ _ _ => ∃ userId, op = .setupTotp userId
  | .recoveryCodes _ => ∃ secret, factor.secret = some secret ∧ secret ≠ ""
  | _ => True

/-- **What a call has done**: it has answered an error and left all factors alone; or it has changed
the factor of its account as its answer says, and those of the others not at all. -/
def TotpDone (encrypted : String) (op : TotpOp) (store : InviteStore)
    (outcome : Except ServiceError TotpAnswer × AccessDb) : Prop :=
  (∃ error, outcome.1 = .error error ∧ ∀ id, outcome.2.factorOf id = store.db.factorOf id) ∨
  ∃ answer userId factor, outcome.1 = .ok answer ∧ op.target store = some userId ∧
    store.db.factorOf userId = some factor ∧ answer.Fits op factor ∧ ∀ id, outcome.2.factorOf id =
      if id = userId then some (answer.effect encrypted factor) else store.db.factorOf id

variable {store : InviteStore} {op : TotpOp} {encrypted : String}

theorem totpDone_error (error : ServiceError) :
    TotpDone encrypted op store (.error error, store.db) :=
  Or.inl ⟨error, rfl, fun _ => rfl⟩

variable {user : User}

theorem AccessDb.factorOf_of_find? (present : db.users.find? userId = some user) :
    db.factorOf userId = some user.factor := by
  rw [AccessDb.factorOf, present]
  rfl

theorem totpDone_endOtherSessions (change : User → User) (answer : TotpAnswer)
    (targets : op.target store = some userId) (present : store.db.users.find? userId = some user)
    (fits : answer.Fits op user.factor)
    (changes : (change user).factor = answer.effect encrypted user.factor)
    (currentRefreshToken : Option String) :
    TotpDone encrypted op store (AuthService.endOtherSessions config draw userId
      currentRefreshToken answer (store.db.updateUser userId change)) := by
  have stays := AccessDb.find?_updateUser_self present change
  obtain ⟨answered, same⟩ := @endOtherSessions_eq config draw userId _ _ stays currentRefreshToken
    answer
  refine Or.inr ⟨answer, userId, user.factor, answered, targets,
    AccessDb.factorOf_of_find? present, fits, fun id => ?_⟩
  rw [same, AccessDb.factorOf_updateUser, present, Option.map_some, changes]

theorem setupTotp_done : TotpDone (config.encrypt draw.iv draw.secret) (.setupTotp userId) store
    (AuthService.setupTotp config draw userId store.db) := by
  unfold AuthService.setupTotp
  split
  · rename_i user present
    refine Or.inr ⟨_, userId, user.factor, rfl, rfl, AccessDb.factorOf_of_find? present,
      ⟨userId, rfl⟩, fun id => ?_⟩
    rw [AccessDb.factorOf_updateUser, present]
    rfl
  · exact totpDone_error _

variable {currentRefreshToken : Option String}

theorem confirmTotp_done {code : String} :
    TotpDone encrypted (.confirmTotp userId code currentRefreshToken) store
      (AuthService.confirmTotp config draw userId code currentRefreshToken store.db) := by
  unfold AuthService.confirmTotp
  split
  · rename_i user present
    split
    · rename_i totpSecret stored
      obtain ⟨stored, given⟩ := Option.filter_eq_some_iff.mp stored
      split
      · exact totpDone_endOtherSessions _ (.recoveryCodes _) rfl present
          ⟨totpSecret, stored, by simpa using given⟩ rfl _
      · exact totpDone_error _
    · exact totpDone_error _
  · exact totpDone_error _

theorem disableTotp_done :
    TotpDone encrypted (.disableTotp userId currentRefreshToken) store
      (AuthService.disableTotp config draw userId currentRefreshToken store.db) := by
  unfold AuthService.disableTotp
  split
  · rename_i user present
    exact totpDone_endOtherSessions _ .disabled rfl present trivial rfl _
  · exact totpDone_error _

variable {companyId : Nat}

theorem adminResetTotp_done {principal : Principal} :
    TotpDone encrypted (.adminResetTotp companyId principal) store
      (PortalAuthService.adminResetTotp config draw companyId principal store) := by
  unfold PortalAuthService.adminResetTotp
  split
  · split
    · rename_i userId user isFound
      have targets : (TotpOp.adminResetTotp companyId principal).target store = some userId := by
        show (store.portalUser? companyId principal).map Prod.fst = some userId
        rw [isFound]
        rfl
      have present : store.db.users.find? userId = some user :=
        Table.find?_eq_some.mpr (List.mem_of_find?_eq_some isFound)
      exact totpDone_endOtherSessions _ (.reset _) targets present trivial rfl _
    · exact totpDone_error _
  · exact totpDone_error _

variable {adminUserId : Nat}

theorem UsersService.resetTotp_run {wasEnabled : Bool} {after : AccessDb}
    (ran : (UsersService.resetTotp companyId userId adminUserId).run db = .ok (wasEnabled, after)) :
    (∃ user, db.users.find? userId = some user) ∧ after = db.updateUser userId User.totpCleared := by
  unfold UsersService.resetTotp UsersService.findOne at ran
  obtain ⟨_, _, ran⟩ := Tx.run_check_bind_eq_ok.mp ran
  obtain ⟨_, _, _, _, _, _, _, ran⟩ := run_loadCurrentCaller_bind ran
  simp only [Tx.run_check_bind_eq_ok, Tx.run_query_bind_eq_ok, orThrow_eq_ok,
    AccessDb.user?_eq_some] at ran
  obtain ⟨_, _, user, ⟨present, _⟩, _, _, ran⟩ := ran
  obtain ⟨role, _, ran⟩ := UsersService.run_loadRoleForSubsetCheck_bind ran
  simp only [Tx.run_check_bind_eq_ok] at ran
  obtain ⟨_, _, _, _, _, _, ran⟩ := ran
  cases ran
  exact ⟨⟨user, present⟩, rfl⟩

theorem resetTotp_done :
    TotpDone encrypted (.resetTotp companyId userId adminUserId) store
      ((TotpOp.resetTotp companyId userId adminUserId).perform config draw store) := by
  simp only [TotpOp.perform]
  split
  · rename_i wasEnabled after ran
    obtain ⟨⟨user, present⟩, rfl⟩ := UsersService.resetTotp_run ran
    exact totpDone_endOtherSessions _ (.reset _) rfl present trivial rfl _
  · exact totpDone_error _

/-! ### A second factor that is verified -/

def Surface.Has (account : Account) : Surface → Prop
  | .staff => account.isPortal = false
  | .portal => account.user.applicantId.isSome = true ∨ account.user.brokerId.isSome = true

/-- What is asked of a request and of its account before a code is looked at, besides the second
factor itself: the surface is that of the pending token and of the account, and the account is not
locked. -/
structure MayVerify (now : Nat) (surface : Surface) (account : Account) (dto : VerifyTotpDto) :
    Prop where
  pending : ∀ pendingSurface ∈ dto.pendingSurface, pendingSurface = surface
  surface : surface.Has account
  unlocked : account.user.totpLockedUntil.all (· ≤ now) = true

variable {surface : Surface} {dto : VerifyTotpDto}
variable {account : Account}

theorem checkSecondFactor_eq_ok {found : Option Account} :
    checkSecondFactor surface dto found = .ok account ↔
      (∀ pendingSurface ∈ dto.pendingSurface, pendingSurface = surface) ∧ found = some account ∧
        surface.Has account ∧ account.user.needsTwoFactor = true := by
  cases surface
  all_goals
    simp only [checkSecondFactor, AuthService.checkTotpAccount, PortalAuthService.checkTotpAccount,
      bind_eq_ok, ensure_eq_ok, orThrow_eq_ok, Surface.Has]
    constructor
    · rintro ⟨_, pending, value, isFound, _, has, _, enabled, same⟩
      cases same
      exact ⟨pending, isFound, has, enabled⟩
    · rintro ⟨pending, isFound, has, enabled⟩
      exact ⟨(), pending, account, isFound, (), has, (), enabled, rfl⟩

theorem reserveTotpAttempt_eq {now : Nat} {reserved : AccessDb}
    (attempt : reserveTotpAttempt now userId db = some reserved) (id : Nat) :
    reserved.factorOf id = db.factorOf id := by
  unfold reserveTotpAttempt at attempt
  split at attempt
  · split at attempt
    · cases attempt
      exact db.factorOf_updateUser_of_same userId id fun _ => rfl
    · cases attempt
  · cases attempt

theorem reserveTotpAttempt_isSome {now : Nat} (present : db.users.find? userId = some user) :
    (reserveTotpAttempt now userId db).isSome = user.totpLockedUntil.all (· ≤ now) := by
  unfold reserveTotpAttempt
  rw [present]
  dsimp only
  split
  · rename_i unlocked
    exact unlocked.symm
  · rename_i locked
    exact (eq_false_of_ne_true locked).symm

theorem letThrough_done {surface : Surface} {account : Account} {spent : Option String}
    {change : User → User} {factor : Factor} (present : db.factorOf account.id = some factor) :
    (∃ answer, (AuthService.letThrough config draw surface account spent
      (db.updateUser account.id change)).1 = .ok (.signedIn spent answer)) ∧
    ∀ id, (AuthService.letThrough config draw surface account spent
      (db.updateUser account.id change)).2.factorOf id =
        (db.updateUser account.id change).factorOf id := by
  obtain ⟨user, isFound, _⟩ := Option.map_eq_some_iff.mp present
  unfold AuthService.letThrough
  rw [AccessDb.find?_updateUser_self isFound]
  exact ⟨⟨_, rfl⟩, fun _ => rfl⟩

/-- **A request to verify a second factor**, for an account that is there: it is let through if it
may be verified, the second factor is on, and the code is one of the authenticator's or a recovery
code that is stored. -/
theorem verifyTotp_letsThrough (isFound : db.accountOf userId = some account) :
    (∃ spent answer, (AuthService.verifyTotp config draw surface userId dto db).1 =
      .ok (.signedIn spent answer)) ↔
      MayVerify draw.token.comparedAt surface account dto ∧ account.user.needsTwoFactor = true ∧
        (AuthService.isTotpCode config.toTotpConfig draw.token account dto.code = true ∨
          dto.code ∈ account.user.recoveryCodes) := by
  obtain ⟨rfl, present⟩ := accountOf_id isFound
  have attempts : (reserveTotpAttempt draw.token.comparedAt account.id db).isSome =
      account.user.totpLockedUntil.all (· ≤ draw.token.comparedAt) :=
    reserveTotpAttempt_isSome present
  unfold AuthService.verifyTotp
  cases checked : checkSecondFactor surface dto (db.accountOf account.id) with
  | error error =>
    constructor
    · rintro ⟨_, _, answered⟩
      cases answered
    · rintro ⟨may, enabled, _⟩
      have passes := checkSecondFactor_eq_ok.mpr ⟨may.pending, isFound, may.surface, enabled⟩
      rw [checked] at passes
      cases passes
  | ok found =>
    obtain ⟨pending, same, has, enabled⟩ := checkSecondFactor_eq_ok.mp checked
    cases isFound.symm.trans same
    cases attempt : reserveTotpAttempt draw.token.comparedAt account.id db with
    | none =>
      simp only [attempt]
      constructor
      · rintro ⟨_, _, answered⟩
        cases answered
      · rintro ⟨may, _⟩
        rw [attempt, may.unlocked] at attempts
        cases attempts
    | some reserved =>
      rw [attempt] at attempts
      have may : MayVerify draw.token.comparedAt surface account dto := ⟨pending, has, attempts.symm⟩
      have there := (reserveTotpAttempt_eq attempt account.id).trans
        (AccessDb.factorOf_of_find? present)
      simp only [attempt]
      split
      · rename_i isCode
        obtain ⟨answer, answered⟩ := (@letThrough_done config draw reserved surface account none
          User.totpAttemptsCleared _ there).1
        exact ⟨fun _ => ⟨may, enabled, Or.inl isCode⟩, fun _ => ⟨none, answer, answered⟩⟩
      · rename_i isNot
        split
        · rename_i stored
          obtain ⟨answer, answered⟩ := (@letThrough_done config draw reserved surface account
            (some dto.code) (User.withRecoveryCodes (account.user.recoveryCodes.erase dto.code)) _
            there).1
          exact ⟨fun _ => ⟨may, enabled, Or.inr stored⟩, fun _ => ⟨_, answer, answered⟩⟩
        · rename_i absent
          constructor
          · rintro ⟨_, _, answered⟩
            cases answered
          · rintro ⟨_, _, isCode | stored⟩
            · exact absurd isCode isNot
            · exact absurd stored absent

theorem totpDone_letThrough {reserved : AccessDb} {spent : Option String} {change : User → User}
    (present : store.db.users.find? account.id = some account.user)
    (same : ∀ id, reserved.factorOf id = store.db.factorOf id)
    (changes : ∀ user answer, user.factor = account.user.factor → (change user).factor =
      (TotpAnswer.signedIn spent answer).effect encrypted account.user.factor) :
    TotpDone encrypted (.verifyTotp surface account.id dto) store
      (AuthService.letThrough config draw surface account spent
        (reserved.updateUser account.id change)) := by
  have before := AccessDb.factorOf_of_find? present
  have there := (same account.id).trans before
  obtain ⟨user, isFound, sameFactor⟩ := Option.map_eq_some_iff.mp there
  obtain ⟨⟨answer, answered⟩, after⟩ := @letThrough_done config draw reserved surface account spent
    change _ there
  refine Or.inr ⟨_, account.id, account.user.factor, answered, rfl, before, trivial, fun id => ?_⟩
  rw [after, AccessDb.factorOf_updateUser, isFound, Option.map_some,
    changes user answer sameFactor, same]

theorem verifyTotp_done :
    TotpDone encrypted (.verifyTotp surface userId dto) store
      (AuthService.verifyTotp config draw surface userId dto store.db) := by
  unfold AuthService.verifyTotp
  split
  · rename_i account checked
    obtain ⟨_, isFound, _⟩ := checkSecondFactor_eq_ok.mp checked
    obtain ⟨rfl, present⟩ := accountOf_id isFound
    split
    · rename_i reserved attempt
      have same := reserveTotpAttempt_eq attempt
      split
      · exact totpDone_letThrough present same fun _ _ sameFactor => sameFactor
      · split
        · refine totpDone_letThrough present same fun user _ sameFactor => ?_
          show (⟨user.totpEnabled, user.totpSecret, _⟩ : Factor) = _
          have enabled : user.totpEnabled = _ := congrArg Factor.enabled sameFactor
          have secret : user.totpSecret = _ := congrArg Factor.secret sameFactor
          rw [enabled, secret]
          rfl
        · exact Or.inl ⟨_, rfl, same⟩
    · exact totpDone_error _
  · exact totpDone_error _

theorem TotpOp.perform_done (config : SecondFactorConfig) (draw : TotpDraw) (op : TotpOp)
    (store : InviteStore) :
    TotpDone (config.encrypt draw.iv draw.secret) op store (op.perform config draw store) := by
  cases op with
  | setupTotp userId => exact setupTotp_done
  | confirmTotp userId code currentRefreshToken => exact confirmTotp_done
  | verifyTotp surface userId dto => exact verifyTotp_done
  | disableTotp userId currentRefreshToken => exact disableTotp_done
  | resetTotp companyId userId adminUserId => exact resetTotp_done
  | adminResetTotp companyId principal => exact adminResetTotp_done

end Effects

/-! ### Histories -/

abbrev TotpStep : Type := Step InviteStore (TotpOp × TotpDraw)

/-- The recovery codes that have been answered and not used, after one more answer. -/
def TotpAnswer.outstanding : TotpAnswer → Option (List String) → Option (List String)
  | .enrolment _ _ _, codes => codes
  | .recoveryCodes codes, _ => some codes
  | .signedIn (some code) _, codes => codes.map fun codes => codes.erase code
  | .signedIn none _, codes => codes
  | .disabled, _ | .reset _, _ => none

section Histories

variable (config : SecondFactorConfig) (userId : Nat)

def outstandingAfter (codes : Option (List String)) (step : TotpStep) : Option (List String) :=
  match (step.input.1.perform config step.input.2 step.before).1 with
  | .ok answer =>
    if step.input.1.target step.before = some userId then answer.outstanding codes else codes
  | .error _ => codes

/-- **The recovery codes of an account that are to be accepted**: those of its latest confirmation
that have not been used. None are if the second factor has been turned off since, or never been
confirmed. -/
def outstanding (history : List TotpStep) : Option (List String) :=
  history.foldl (outstandingAfter config userId) none

/-- **The second factor is on**, if it has been confirmed and not been turned off: every login of the
account ends with the question for it, and the recovery codes that let a request through are exactly
those that were answered and not used. -/
structure SecondFactorHolds (history : List TotpStep) (store : InviteStore) : Prop where
  asked : ∀ codes, outstanding config userId history = some codes →
    ∃ user, store.db.users.find? userId = some user ∧ user.needsTwoFactor = true
  logins : ∀ codes, outstanding config userId history = some codes →
    ∀ (call : LoginCall) found draw answer,
      (call.signIn config.toInviteConfig draw found store.db).1 = .ok answer →
      answer.sub = userId → ∃ surface av, answer = .requiresTwoFactor surface userId av
  accepted : ∀ codes, outstanding config userId history = some codes →
    ∀ draw surface dto account, store.db.accountOf userId = some account →
      AuthService.isTotpCode config.toTotpConfig draw.token account dto.code = false →
      ((∃ spent answer, (AuthService.verifyTotp config draw surface userId dto store.db).1 =
          .ok (.signedIn spent answer)) ↔
        MayVerify draw.token.comparedAt surface account dto ∧ dto.code ∈ codes)

/-- Whether an account is never set up again while its second factor is on. -/
def NeverReenrolled (history : List TotpStep) : Prop :=
  ∀ earlier step later, history = earlier ++ step :: later →
    step.input.1 = .setupTotp userId → outstanding config userId earlier = none

/-- What is kept as long as it is not: the factor is on, with a secret and the codes that were
answered and not used. -/
def Enrolled (history : List TotpStep) (store : InviteStore) : Prop :=
  ∀ codes, outstanding config userId history = some codes →
    ∃ secret, store.db.factorOf userId = some ⟨true, some secret, codes⟩ ∧ secret ≠ ""

variable {config userId} {history : List TotpStep} {store : InviteStore}

theorem outstanding_snoc (history : List TotpStep) (step : TotpStep) :
    outstanding config userId (history ++ [step]) =
      outstandingAfter config userId (outstanding config userId history) step := by
  unfold outstanding
  rw [List.foldl_append]
  rfl

theorem TotpOp.exec_eq_ok {input : TotpOp × TotpDraw} {after : InviteStore} :
    TotpOp.exec config input store = .ok after ↔
      store.withDb (input.1.perform config input.2 store).2 = after :=
  ⟨Except.ok.inj, congrArg Except.ok⟩

theorem NeverReenrolled.of_snoc {step : TotpStep}
    (never : NeverReenrolled config userId (history ++ [step])) :
    NeverReenrolled config userId history := by
  intro earlier other later split setsUp
  refine never earlier other (later ++ [step]) ?_ setsUp
  rw [split, List.append_assoc]
  rfl

variable {codes : List String}

theorem needsTwoFactor_of_factor {user : User} {secret : String}
    (factor : user.factor = ⟨true, some secret, codes⟩) (given : secret ≠ "") :
    user.needsTwoFactor = true := by
  have enabled : user.totpEnabled = true := congrArg Factor.enabled factor
  have stored : user.totpSecret = some secret := congrArg Factor.secret factor
  simp [User.needsTwoFactor, enabled, stored, given]

theorem LoginCall.signIn_needsTwoFactor {config : InviteConfig} {call : LoginCall}
    {found : Option Nat} {draw : TokenDraw} {db : AccessDb} {answer : LoginAnswer} {user : User}
    (present : db.users.find? answer.sub = some user) (enabled : user.needsTwoFactor = true)
    (answered : (call.signIn config draw found db).1 = .ok answer) :
    ∃ surface av, answer = .requiresTwoFactor surface answer.sub av := by
  have sub := call.signIn_sub answered
  unfold LoginCall.signIn at answered
  split at answered
  · rename_i account checked
    have isFound := LoginCall.check_eq_ok checked
    rw [sub, Option.bind_some] at isFound
    obtain ⟨_, mine⟩ := accountOf_id isFound
    cases present.symm.trans mine
    split at answered
    · unfold passPassword at answered
      split at answered
      · rw [if_pos enabled] at answered
        cases answered
        exact ⟨_, _, rfl⟩
      · cases answered
    · cases answered
  · cases answered

theorem Enrolled.holds (enrolled : Enrolled config userId history store) :
    SecondFactorHolds config userId history store := by
  have on : ∀ codes, outstanding config userId history = some codes →
      ∃ user, store.db.users.find? userId = some user ∧ user.needsTwoFactor = true ∧
        user.recoveryCodes = codes := by
    intro codes answered
    obtain ⟨secret, stored, given⟩ := enrolled codes answered
    obtain ⟨user, present, factor⟩ := Option.map_eq_some_iff.mp stored
    exact ⟨user, present, needsTwoFactor_of_factor factor given, congrArg Factor.codes factor⟩
  refine ⟨fun codes answered => ?_, fun codes answered => ?_, fun codes answered => ?_⟩
  · obtain ⟨user, present, enabled, _⟩ := on codes answered
    exact ⟨user, present, enabled⟩
  · intro call found draw answer letIn mine
    obtain ⟨user, present, enabled, _⟩ := on codes answered
    subst mine
    exact LoginCall.signIn_needsTwoFactor present enabled letIn
  · intro draw surface dto account isFound isNot
    obtain ⟨user, present, enabled, rfl⟩ := on codes answered
    obtain ⟨_, mine⟩ := accountOf_id isFound
    cases present.symm.trans mine
    rw [verifyTotp_letsThrough isFound]
    simp [isNot, enabled]

theorem Enrolled.of_answer {op : TotpOp} {answer : TotpAnswer} {factor : Factor}
    {encrypted : String} (enrolled : Enrolled config userId history store)
    (never : op = .setupTotp userId → outstanding config userId history = none)
    (targets : op.target store = some userId) (before : store.db.factorOf userId = some factor)
    (fits : answer.Fits op factor)
    (answered : answer.outstanding (outstanding config userId history) = some codes) :
    ∃ secret, some (answer.effect encrypted factor) = some ⟨true, some secret, codes⟩ ∧
      secret ≠ "" := by
  cases answer with
  | enrolment secret otpauthUrl qrDataUrl =>
    obtain ⟨id, rfl⟩ := fits
    cases targets
    rw [TotpAnswer.outstanding, never rfl] at answered
    cases answered
  | recoveryCodes issued =>
    cases answered
    obtain ⟨secret, stored, given⟩ := fits
    refine ⟨secret, ?_, given⟩
    rw [TotpAnswer.effect, stored]
  | signedIn spent login =>
    cases spent with
    | none =>
      obtain ⟨secret, stored, given⟩ := enrolled codes answered
      cases before.symm.trans stored
      exact ⟨secret, rfl, given⟩
    | some code =>
      obtain ⟨stillThere, issued, rfl⟩ := Option.map_eq_some_iff.mp answered
      obtain ⟨secret, stored, given⟩ := enrolled stillThere issued
      cases before.symm.trans stored
      exact ⟨secret, rfl, given⟩
  | disabled => cases answered
  | reset wasEnabled => cases answered

theorem Enrolled.kept {op : TotpOp} {draw : TotpDraw}
    (enrolled : Enrolled config userId history store)
    (never : op = .setupTotp userId → outstanding config userId history = none) :
    Enrolled config userId
      (history ++ [⟨store, (op, draw), store.withDb (op.perform config draw store).2⟩])
      (store.withDb (op.perform config draw store).2) := by
  intro codes answered
  rw [outstanding_snoc] at answered
  unfold outstandingAfter at answered
  show ∃ secret, (op.perform config draw store).2.factorOf userId = _ ∧ _
  obtain ⟨error, failed, same⟩ | ⟨answer, id, factor, ok, targets, before, fits, after⟩ :=
    op.perform_done config draw store
  · simp only [failed] at answered
    rw [same]
    exact enrolled codes answered
  · simp only [ok, targets, Option.some.injEq] at answered
    rw [after]
    split at answered
    · rename_i mine
      subst mine
      rw [if_pos rfl]
      exact enrolled.of_answer never targets before fits answered
    · rename_i other
      rw [if_neg (Ne.symm other)]
      exact enrolled codes answered

theorem enrolled_run (store : InviteStore) (schedule : List (TotpOp × TotpDraw)) :
    NeverReenrolled config userId (steps (TotpOp.exec config) store schedule) →
      Enrolled config userId (steps (TotpOp.exec config) store schedule)
        (run (TotpOp.exec config) store schedule) := by
  have noCondition : ∀ step ∈ steps (TotpOp.exec config) store schedule, True :=
    fun _ _ => trivial
  refine history_invariant (fun history store => NeverReenrolled config userId history →
    Enrolled config userId history store) ?_ (fun _ _ => nofun) schedule noCondition
  intro history input before after holds accepted _ never
  cases TotpOp.exec_eq_ok.mp accepted
  exact (holds never.of_snoc).kept fun setsUp => never history _ [] rfl setsUp

theorem not_holds_of_reenrolled {draw : TotpDraw}
    (before : SecondFactorHolds config userId history store)
    (issued : outstanding config userId history = some codes) :
    ¬SecondFactorHolds config userId
      (history ++ [⟨store, (.setupTotp userId, draw),
        store.withDb (AuthService.setupTotp config draw userId store.db).2⟩])
      (store.withDb (AuthService.setupTotp config draw userId store.db).2) := by
  intro after
  obtain ⟨user, present, _⟩ := before.asked codes issued
  have setUp : AuthService.setupTotp config draw userId store.db = (.ok (.enrolment draw.secret
      (config.otpauthUrl ((user.email.or user.phone).getD user.name) draw.secret)
      (config.qrDataUrl (config.otpauthUrl ((user.email.or user.phone).getD user.name)
        draw.secret))), store.db.updateUser userId
          (User.totpEnrolling (config.encrypt draw.iv draw.secret))) := by
    unfold AuthService.setupTotp
    rw [present]
  have still : outstanding config userId (history ++ [⟨store, (.setupTotp userId, draw),
      store.withDb (AuthService.setupTotp config draw userId store.db).2⟩]) = some codes := by
    rw [outstanding_snoc, issued]
    unfold outstandingAfter
    simp only [TotpOp.perform, setUp, TotpOp.target, if_true]
    rfl
  obtain ⟨now, isFound, enabled⟩ := after.asked codes still
  rw [setUp] at isFound
  have found := isFound.symm.trans (AccessDb.find?_updateUser_self present _)
  cases found
  cases enabled

end Histories

/-- **When the second factor stays on.** In every run of calls about second factors, from any
accounts, the second factor of an account holds after every call, from the confirmation that turns it
on to the call that turns it off, if and only if the account is never set up in between. -/
theorem second_factor_holds_iff (config : SecondFactorConfig) (userId : Nat) (store : InviteStore)
    (schedule : List (TotpOp × TotpDraw)) :
    (∀ earlier, earlier <+: schedule →
      SecondFactorHolds config userId (steps (TotpOp.exec config) store earlier)
        (run (TotpOp.exec config) store earlier)) ↔
      NeverReenrolled config userId (steps (TotpOp.exec config) store schedule) := by
  constructor
  · intro holds earlier step later split setsUp
    obtain ⟨first, second, rfl, sameSteps, reached, accepted, _⟩ := steps_eq_append_cons split
    obtain ⟨before, ⟨op, draw⟩, after⟩ := step
    subst setsUp
    cases issued : outstanding config userId earlier with
    | none => rfl
    | some codes =>
      have heldBefore := holds first (List.prefix_append _ _)
      have heldAfter := holds (first ++ [(.setupTotp userId, draw)]) (by simp)
      rw [sameSteps, reached] at heldBefore
      rw [steps_append, run_append, sameSteps, reached] at heldAfter
      obtain rfl : before.withDb (AuthService.setupTotp config draw userId before.db).2 = after :=
        TotpOp.exec_eq_ok.mp accepted
      exact absurd heldAfter (not_holds_of_reenrolled heldBefore issued)
  · intro never earlier isEarlier
    obtain ⟨later, rfl⟩ := isEarlier
    refine (enrolled_run store earlier fun first step rest split setsUp => ?_).holds
    rw [steps_append, split] at never
    exact never first step _ (List.append_assoc _ _ _) setsUp

/-! ### An enrolment that is begun again -/

def openAuthenticator : SecondFactorConfig where
  toInviteConfig := portalConfig
  decrypt := id
  encrypt _ secret := secret
  verifyTotp secret code _ := secret == code
  otpauthUrl label secret := label ++ secret
  qrDataUrl := id

def drawnSecret (secret : String) : TotpDraw where
  secret
  iv := "iv"
  recoveryBytes code := ⟨code, by omega⟩
  token := ⟨"raw", 0, 0, 0, 0, 0⟩

def begunAgain : List (TotpOp × TotpDraw) :=
  [(.setupTotp 0, drawnSecret "first"), (.confirmTotp 0 "first" none, drawnSecret "first"),
    (.setupTotp 0, drawnSecret "second")]

/-- **An enrolment that is begun and not confirmed turns the second factor off**: the recovery codes
of the confirmation have not been used, and no login asks for them any more. -/
theorem reenrolment_turns_off :
    ¬∀ earlier, earlier <+: begunAgain →
      SecondFactorHolds openAuthenticator 0 (steps (TotpOp.exec openAuthenticator) invitingCompany
        earlier) (run (TotpOp.exec openAuthenticator) invitingCompany earlier) := by
  intro holds
  have last := holds begunAgain List.prefix_rfl
  have issued : outstanding openAuthenticator 0 (steps (TotpOp.exec openAuthenticator)
      invitingCompany begunAgain) = some (generateRecoveryCodes (drawnSecret "first").recoveryBytes) :=
    rfl
  have off : ((run (TotpOp.exec openAuthenticator) invitingCompany begunAgain).db.users.find? 0).any
      User.needsTwoFactor = false := by decide
  obtain ⟨user, present, enabled⟩ := last.asked _ issued
  rw [present, Option.any_some, enabled] at off
  cases off

end OpenEstate
