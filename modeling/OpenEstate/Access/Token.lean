/-
**Refresh tokens.**

A refresh token is used once: a refresh consumes it and issues its successor in the same family. A
token presented again shortly after it was consumed rotates the live token of the family; presented
later, it ends the family. Every write to a user's refresh tokens is made under one advisory lock.

The raw tokens and the families are drawn at random and the instants are read off the clock: both
come with the call.
-/

import OpenEstate.Access.Users

namespace OpenEstate

open Relational

/-! ### Configuration and draws -/

structure TokenConfig where
  hashToken : String → String
  refreshExpiresIn : String := "7d"
  reuseGraceMs : Nat := 30 * 1000

/-- What one call draws at random, a raw token and a family, and when it looks at the clock: to
judge a reuse, to judge an expiry, to stamp a revocation, and to date a new token. -/
structure TokenDraw where
  raw : String
  family : Nat
  judgedAt : Nat
  comparedAt : Nat
  stampedAt : Nat
  issuedAt : Nat

/-- When a token issued now expires: after a number of seconds, minutes, hours or days, or after
seven days where the duration does not say. -/
def computeExpiry (now : Nat) (duration : String) : Nat :=
  let digits := duration.toList.dropLast
  let value := digits.foldl (fun value digit => value * 10 + (digit.toNat - '0'.toNat)) 0
  let unit := if digits ≠ [] ∧ digits.all Char.isDigit then duration.toList.getLast? else none
  match unit with
  | some 's' => now + value * 1000
  | some 'm' => now + value * (60 * 1000)
  | some 'h' => now + value * (60 * 60 * 1000)
  | some 'd' => now + value * (24 * 60 * 60 * 1000)
  | _ => now + 7 * 24 * 60 * 60 * 1000

example : computeExpiry 0 "15m" = 900000 := by decide

/-! ### Rows -/

def RefreshToken.revoke (now : Nat) (token : RefreshToken) : RefreshToken :=
  { token with isRevoked := true, revokedAt := some now }

namespace AccessDb

def findToken (db : AccessDb) (tokenHash : String) : Option (Nat × RefreshToken) :=
  db.refreshTokens.findFirst? fun _ token => token.tokenHash == tokenHash

def ownerOf (db : AccessDb) (tokenHash : String) : Option Nat :=
  (db.findToken tokenHash).map fun row => row.2.userId

/-- The most recent token of a family that is neither consumed nor revoked, nor expired. -/
def liveToken (db : AccessDb) (family now : Nat) : Option (Nat × RefreshToken) :=
  (db.refreshTokens.select fun _ token =>
    token.family == family && !token.isRevoked && decide (now < token.expiresAt)).getLast?

def createToken (db : AccessDb) (token : RefreshToken) : AccessDb :=
  { db with refreshTokens := db.refreshTokens.create token }

def updateToken (db : AccessDb) (id : Nat) (change : RefreshToken → RefreshToken) : AccessDb :=
  { db with refreshTokens := db.refreshTokens.modify id change }

end AccessDb

/-! ### The service -/

structure IssuedToken where
  raw : String
  expiresAt : Nat

/-- What a refresh answers: the user, the new token, and the session version to sign the access
token with. -/
structure RotatedToken where
  userId : Nat
  newRaw : String
  expiresAt : Nat
  authzVersion : Nat

namespace TokenService

def withUserLock {α : Type} (userId : Nat) (body : AccessTx α) : AccessTx α :=
  .stmt [.userTokens userId] id fun _ => body

variable (config : TokenConfig) (draw : TokenDraw)

def expiry (expiresInOverride : Option String) : Nat :=
  computeExpiry draw.issuedAt (expiresInOverride.getD config.refreshExpiresIn)

def createRefreshToken (userId : Nat) (family : Option Nat) (expiresInOverride : Option String) :
    AccessTx IssuedToken :=
  withUserLock userId do
    Tx.insert fun db => db.createToken {
      userId
      tokenHash := config.hashToken draw.raw
      family := family.getD draw.family
      expiresAt := expiry config draw expiresInOverride }
    return { raw := draw.raw, expiresAt := expiry config draw expiresInOverride }

def revokeWhere (asked : RefreshToken → Bool) : AccessTx Unit :=
  Tx.updateMany
    (fun db => (db.refreshTokens.select fun _ token => asked token && !token.isRevoked).map Prod.fst)
    .refreshToken
    fun ids db => { db with
      refreshTokens := db.refreshTokens.modifyAll
        (fun id token => decide (id ∈ ids) && (asked token && !token.isRevoked))
        (RefreshToken.revoke draw.stampedAt) }

def revokeFamilyById (family : Nat) : AccessTx Unit :=
  revokeWhere draw fun token => token.family == family

def rotateRow (authzVersion : Nat) (row : Nat × RefreshToken) (expiresInOverride : Option String) :
    AccessTx (Option RotatedToken) := do
  Tx.update (.refreshToken row.1) fun db =>
    db.updateToken row.1 (RefreshToken.revoke draw.stampedAt)
  Tx.insert fun db => db.createToken {
    userId := row.2.userId
    tokenHash := config.hashToken draw.raw
    family := row.2.family
    expiresAt := expiry config draw expiresInOverride }
  return some {
    userId := row.2.userId
    newRaw := draw.raw
    expiresAt := expiry config draw expiresInOverride
    authzVersion }

def withinGrace (token : RefreshToken) : Bool :=
  token.revokedAt.any fun revokedAt => decide (draw.judgedAt ≤ revokedAt + config.reuseGraceMs)

/-- A token presented again: within the window the live token of the family is rotated instead, if
there is one; otherwise the family ends. -/
def rotateReused (authzVersion : Nat) (token : RefreshToken) (expiresInOverride : Option String) :
    AccessTx (Option RotatedToken) := do
  -- the query is only made within the window
  let live ← Tx.read fun db =>
    if withinGrace config draw token then db.liveToken token.family draw.comparedAt else none
  match live with
  | some row => rotateRow config draw authzVersion row expiresInOverride
  | none => do
    revokeFamilyById draw token.family
    return none

def rotateLocked (authzVersion : Nat) (hash : String) (expiresInOverride : Option String) :
    AccessTx (Option RotatedToken) := do
  let existing ← Tx.read fun db => db.findToken hash
  match existing with
  | none => return none
  | some (id, token) =>
    if token.isRevoked then
      rotateReused config draw authzVersion token expiresInOverride
    else if token.expiresAt < draw.comparedAt then do
      Tx.update (.refreshToken id) fun db =>
        db.updateToken id (RefreshToken.revoke draw.stampedAt)
      return none
    else rotateRow config draw authzVersion (id, token) expiresInOverride

/-- A refresh, once the owner of the token is known: under the lock, for an active user. -/
def rotateOwned (owner : Nat) (hash : String) (expiresInOverride : Option String) :
    AccessTx (Option RotatedToken) :=
  withUserLock owner do
    let user ← Tx.read fun db => (db.users.find? owner).filter User.isActive
    match user with
    | none => return none
    | some user => rotateLocked config draw user.authzVersion hash expiresInOverride

def rotateRefreshToken (rawToken : String) (expiresInOverride : Option String) :
    AccessTx (Option RotatedToken) := do
  let owner ← Tx.read fun db => db.ownerOf (config.hashToken rawToken)
  match owner with
  | none => return none
  | some owner => rotateOwned config draw owner (config.hashToken rawToken) expiresInOverride

def revokeFamily (rawToken : String) : AccessTx Unit := do
  let owner ← Tx.read fun db => db.ownerOf (config.hashToken rawToken)
  match owner with
  | none => return
  | some owner => withUserLock owner do
    let existing ← Tx.read fun db => db.findToken (config.hashToken rawToken)
    match existing with
    | none => return
    | some row => revokeFamilyById draw row.2.family

def revokeAllForUser (userId : Nat) : AccessTx Unit :=
  withUserLock userId (revokeWhere draw fun token => token.userId == userId)

def bumpVersion (userId : Nat) : AccessTx Nat :=
  .stmt [.user userId] (fun db => { db with users := db.users.modify userId User.bump }) fun seen =>
    Tx.check (orThrow ((seen.users.find? userId).map fun user => user.authzVersion + 1)
      (.error "Cannot end sessions for a user that does not exist"))

def sparedToken (exceptRawToken : Option String) (db : AccessDb) : Option (Nat × RefreshToken) :=
  ((exceptRawToken.filter (· ≠ "")).map config.hashToken).bind db.findToken

/-- Whether a token is of a user, and of another family than the one that is spared. -/
def isOtherSession (userId : Nat) (spared : Option (Nat × RefreshToken)) (token : RefreshToken) :
    Bool :=
  token.userId == userId && spared.all fun row => token.family != row.2.family

/-- End the sessions of a user, but for the family of the token that asks for it. -/
def endSessions (userId : Nat) (exceptRawToken : Option String) : AccessTx Nat :=
  withUserLock userId do
    let version ← bumpVersion userId
    let current ← Tx.read (sparedToken config exceptRawToken)
    revokeWhere draw (isOtherSession userId current)
    return version

end TokenService

end OpenEstate
