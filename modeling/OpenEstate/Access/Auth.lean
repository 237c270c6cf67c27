/-
**Signing in, and ending sessions.**

A login reads the account, verifies the password against what it has read, clears the counter of
failed attempts, reads the session version to sign an access token with, and issues a refresh token.
Each of these is a transaction of its own, and others may commit in between. So are the steps of a
change of password and of a deactivation, which write to the account first and end its sessions
afterwards.

* `AuthSession` is where such a request stands, `AuthSession.move` its next transaction;
* `SessionVersionGuard.canActivate` and `AuthService.refreshTokens` accept what a login has issued.
-/

import OpenEstate.Access.Token
import OpenEstate.Relational.Interference

namespace OpenEstate

open Relational

/-! ### Accounts -/

structure LoginDto where
  email : String
  password : String

/-- An account as it is read: the user, with the role and what is stored for the role. -/
structure Account where
  id : Nat
  user : User
  role : Role
  permissions : List String

/-- What an access token carries, with the session version it was signed with. -/
structure AccessToken where
  sub : Nat
  companyId : Nat
  email : Option String
  roleSlug : String
  permissions : List String
  forcePasswordChange : Bool
  av : Nat

structure SignedIn where
  accessToken : AccessToken
  refreshRaw : String
  expiresAt : Nat

def Account.accessToken (account : Account) (av : Nat) : AccessToken where
  sub := account.id
  companyId := account.user.companyId
  email := account.user.email
  roleSlug := account.role.slug
  permissions := account.permissions
  forcePasswordChange := account.user.forcePasswordChange
  av

/-- Whether an account belongs on the portal: it names an applicant or a broker, or has a portal
role. -/
def Account.isPortal (account : Account) : Bool :=
  account.user.applicantId.isSome || account.user.brokerId.isSome || account.role.isPortal

namespace AccessDb

def accountOf (db : AccessDb) (userId : Nat) : Option Account := do
  let user ← db.users.find? userId
  let role ← db.roles.find? user.roleId
  return { id := userId, user, role, permissions := db.storedKeys role }

def accountWith (db : AccessDb) (email : String) : Option Account := do
  let row ← db.users.findFirst? fun _ user => user.email == some email
  db.accountOf row.1

end AccessDb

/-! ### Writes -/

def maxFailedAttempts : Nat := 5

def lockoutMinutes : Nat := 15

namespace User

def attemptsCleared (user : User) : User :=
  { user with failedLoginAttempts := 0, lockedUntil := none }

/-- The user after a password that was wrong: too many of them lock the account for a while. -/
def failedAttempt (currentAttempts now : Nat) (user : User) : User :=
  { user with
    failedLoginAttempts := currentAttempts + 1
    lockedUntil :=
      if maxFailedAttempts ≤ currentAttempts + 1 then some (now + lockoutMinutes * 60 * 1000)
      else none }

def withPassword (passwordHash : String) (user : User) : User :=
  { user with passwordHash, forcePasswordChange := false }

def needsTwoFactor (user : User) : Bool :=
  user.totpEnabled && user.totpSecret.any (· ≠ "")

end User

/-! ### Requests -/

/-- The configuration of the token service, and how a password is verified against a hash. -/
structure AuthConfig extends TokenConfig where
  verify : String → String → Bool

/-- A request to sign in, to change the password, or to deactivate a user. `newHash` is what hashing
the new password answers. -/
inductive AuthCall
  | login (dto : LoginDto)
  | changePassword (userId : Nat) (currentPassword newHash : String)
      (currentRefreshToken : Option String)
  | deactivate (companyId userId callerId : Nat)

/-- Where a request stands between its transactions. A deactivation goes on by its statements, the
last of which is its write. -/
inductive AuthSession
  | login (dto : LoginDto)
  | verifying (dto : LoginDto) (account : Account)
  | signing (account : Account)
  | issuing (token : AccessToken)
  | loggedIn (tokens : SignedIn)
  | requiresTwoFactor (sub av : Nat)
  | changing (userId : Nat) (currentPassword newHash : String)
      (currentRefreshToken : Option String)
  | rewriting (userId : Nat) (user : User) (currentPassword newHash : String)
      (currentRefreshToken : Option String)
  | deactivating (userId : Nat) (todo : AccessTx UsersService.Target)
  | ending (userId : Nat) (exceptRawToken : Option String)
  | ended (userId : Nat) (exceptRawToken : Option String) (version : Nat)
  | refused (error : ServiceError)

def AuthSession.ofDeactivation (userId : Nat) : AccessTx UsersService.Target → AuthSession
  | .done _ => .ending userId none
  | .fail error => .refused error
  | todo => .deactivating userId todo

def AuthCall.begin : AuthCall → AuthSession
  | .login dto => .login dto
  | .changePassword userId currentPassword newHash currentRefreshToken =>
    .changing userId currentPassword newHash currentRefreshToken
  | .deactivate companyId userId callerId =>
    .ofDeactivation userId (UsersService.deactivate companyId userId callerId)

/-! ### The service -/

namespace AuthService

def invalidCredentials : ServiceError := .unauthorized "Invalid credentials"

/-- What a login checks of the account it has read, before it looks at the password. -/
def checkAccount (now : Nat) (found : Option Account) : Except ServiceError Account := do
  let account ← orThrow (found.filter fun account => account.user.isActive) invalidCredentials
  ensure (account.isPortal = false) invalidCredentials
  ensure (∀ lockedUntil ∈ account.user.lockedUntil, lockedUntil ≤ now)
    (.unauthorized "Account locked. Try again later.")
  return account

variable (config : AuthConfig) (draw : TokenDraw)

def verifyPassword (dto : LoginDto) (account : Account) (db : AccessDb) : AuthSession × AccessDb :=
  if config.verify account.user.passwordHash dto.password then
    (.signing account, db.updateUser account.id User.attemptsCleared)
  else
    (.refused invalidCredentials, db.updateUser account.id
      (User.failedAttempt account.user.failedLoginAttempts draw.stampedAt))

def signAccessToken (account : Account) (db : AccessDb) : AuthSession :=
  match db.users.find? account.id with
  | none => .refused (.error "Cannot issue a token for a user that does not exist")
  | some now =>
    if account.user.needsTwoFactor then .requiresTwoFactor account.id now.authzVersion
    else .issuing (account.accessToken now.authzVersion)

def issueRefreshToken (token : AccessToken) (db : AccessDb) : AuthSession × AccessDb :=
  match (TokenService.createRefreshToken config.toTokenConfig draw token.sub none none).run db with
  | .ok (issued, after) => (.loggedIn ⟨token, issued.raw, issued.expiresAt⟩, after)
  | .error error => (.refused error, db)

/-- The current password is verified against the row that was read, and the new one written. -/
def rewritePassword (userId : Nat) (user : User) (currentPassword newHash : String)
    (currentRefreshToken : Option String) (db : AccessDb) : AuthSession × AccessDb :=
  if config.verify user.passwordHash currentPassword then
    (.ending userId currentRefreshToken, db.updateUser userId (User.withPassword newHash))
  else (.refused (.unauthorized "Current password is incorrect"), db)

def endSessions (userId : Nat) (exceptRawToken : Option String) (db : AccessDb) :
    AuthSession × AccessDb :=
  match (TokenService.endSessions config.toTokenConfig draw userId exceptRawToken).run db with
  | .ok (version, after) => (.ended userId exceptRawToken version, after)
  | .error error => (.refused error, db)

/-- A refresh, run alone: the rotation, and the access token of the account as it is then. -/
def refreshTokens (rawRefreshToken : String) (db : AccessDb) : Option SignedIn :=
  match (TokenService.rotateRefreshToken config.toTokenConfig draw rawRefreshToken none).run db with
  | .ok (some rotated, after) => do
    let account ← (after.accountOf rotated.userId).filter fun account =>
      account.user.isActive && !account.isPortal
    return ⟨account.accessToken rotated.authzVersion, rotated.newRaw, rotated.expiresAt⟩
  | _ => none

end AuthService

def AuthSession.move (config : AuthConfig) (draw : TokenDraw) :
    AuthSession → AccessDb → Option (AuthSession × AccessDb)
  | .login dto, db =>
    match AuthService.checkAccount draw.comparedAt (db.accountWith dto.email) with
    | .ok account => some (.verifying dto account, db)
    | .error error => some (.refused error, db)
  | .verifying dto account, db => some (AuthService.verifyPassword config draw dto account db)
  | .signing account, db => some (AuthService.signAccessToken account db, db)
  | .issuing token, db => some (AuthService.issueRefreshToken config draw token db)
  | .changing userId currentPassword newHash currentRefreshToken, db =>
    match db.users.find? userId with
    | some user => some (.rewriting userId user currentPassword newHash currentRefreshToken, db)
    | none => some (.refused (.error "No record was found for a query."), db)
  | .rewriting userId user currentPassword newHash currentRefreshToken, db =>
    some (AuthService.rewritePassword config userId user currentPassword newHash
      currentRefreshToken db)
  | .deactivating userId (.stmt _ write next), db =>
    some (.ofDeactivation userId (next db), write db)
  | .ending userId exceptRawToken, db =>
    some (AuthService.endSessions config draw userId exceptRawToken db)
  | _, _ => none

def AuthSession.exec {ι : Type} [DecidableEq ι] (config : AuthConfig) (input : ι × TokenDraw)
    (world : Shared ι AccessDb AuthSession) : Except Unit (Shared ι AccessDb AuthSession) :=
  Shared.exec (AuthSession.move config input.2) input.1 world

/-! ### Acceptance -/

/-- An access token is accepted as long as its session version is the user's. -/
def SessionVersionGuard.canActivate (db : AccessDb) (token : AccessToken) : Bool :=
  (db.users.find? token.sub).any fun user => user.authzVersion == token.av

end OpenEstate
