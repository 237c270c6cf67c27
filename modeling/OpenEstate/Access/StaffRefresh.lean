/-
**A staff refresh that is refused.**

A refresh rotates the token in a transaction of its own. Only then does the staff route read the
account, and answer nothing for one that belongs on the portal.

* `AuthService.rotate` and `answerRefresh` are the two halves of `AuthService.refreshTokens`, and what
  the first one leaves in the store;
* `rotate_live`: a live token is consumed for every active user, whoever it is;
* `refused_refresh_unchanged_iff`: a refusal leaves the tokens alone exactly if the user is inactive,
  or is one the staff route serves.
-/

import OpenEstate.Access.Auth

namespace OpenEstate

open Relational

namespace AuthService

variable (config : AuthConfig) (draw : TokenDraw)

def rotate (rawRefreshToken : String) (db : AccessDb) : Option RotatedToken × AccessDb :=
  match (TokenService.rotateRefreshToken config.toTokenConfig draw rawRefreshToken none).run db with
  | .ok (rotated, after) => (rotated, after)
  | .error _ => (none, db)

/-- What a refresh answers, from the account as it is read after the rotation. -/
def answerRefresh (rotated : Option RotatedToken) (db : AccessDb) : Option SignedIn := do
  let rotated ← rotated
  let account ← (db.accountOf rotated.userId).filter fun account =>
    account.user.isActive && !account.isPortal
  return ⟨account.accessToken rotated.authzVersion, rotated.newRaw, rotated.expiresAt⟩

theorem refreshTokens_eq (rawRefreshToken : String) (db : AccessDb) :
    refreshTokens config draw rawRefreshToken db =
      answerRefresh (rotate config draw rawRefreshToken db).1
        (rotate config draw rawRefreshToken db).2 := by
  unfold refreshTokens rotate
  cases (TokenService.rotateRefreshToken config.toTokenConfig draw rawRefreshToken none).run db with
  | error _ => rfl
  | ok answer =>
    obtain ⟨rotated, after⟩ := answer
    cases rotated with
    | none => rfl
    | some rotated => rfl

end AuthService

open AuthService (rotate answerRefresh)

/-! ### One refresh -/

/-- A token that is presented: it is the one under the hash, it is neither consumed nor revoked, and
it has not expired. -/
structure AccessDb.Presents (db : AccessDb) (config : AuthConfig) (draw : TokenDraw)
    (rawRefreshToken : String) (id : Nat) (token : RefreshToken) : Prop where
  found : db.findToken (config.hashToken rawRefreshToken) = some (id, token)
  live : token.isRevoked = false
  inTime : draw.comparedAt ≤ token.expiresAt

def AccessDb.HasActive (db : AccessDb) (userId : Nat) : Prop :=
  ∃ user, db.users.find? userId = some user ∧ user.isActive = true

/-- The staff route serves a user: an active account that does not belong on the portal. -/
def AccessDb.ServesStaff (db : AccessDb) (userId : Nat) : Prop :=
  ∃ account, db.accountOf userId = some account ∧ account.user.isActive = true ∧
    account.isPortal = false

section Refresh

variable {config : AuthConfig} {draw : TokenDraw} {db : AccessDb} {rawRefreshToken : String}
  {id : Nat} {token : RefreshToken}

theorem rotate_live (presents : db.Presents config draw rawRefreshToken id token) :
    rotate config draw rawRefreshToken db =
      match (db.users.find? token.userId).filter User.isActive with
      | none => (none, db)
      | some user =>
        (some {
          userId := token.userId
          newRaw := draw.raw
          expiresAt := TokenService.expiry config.toTokenConfig draw none
          authzVersion := user.authzVersion },
        (db.updateToken id (RefreshToken.revoke draw.stampedAt)).createToken {
          userId := token.userId
          tokenHash := config.hashToken draw.raw
          family := token.family
          expiresAt := TokenService.expiry config.toTokenConfig draw none }) := by
  have notExpired : ¬token.expiresAt < draw.comparedAt := Nat.not_lt.mpr presents.inTime
  unfold rotate TokenService.rotateRefreshToken
  rw [Tx.run_read_bind, AccessDb.ownerOf, presents.found]
  simp only [Option.map_some]
  unfold TokenService.rotateOwned TokenService.withUserLock
  rw [Tx.run, Tx.run_read_bind]
  simp only [id_eq]
  cases (db.users.find? token.userId).filter User.isActive with
  | none => rfl
  | some user =>
    unfold TokenService.rotateLocked
    simp only [Tx.run_read_bind, presents.found, presents.live, Bool.false_eq_true, if_false,
      notExpired]
    rfl

theorem filter_isActive_eq_none {userId : Nat} :
    (db.users.find? userId).filter User.isActive = none ↔ ¬db.HasActive userId := by
  rw [Option.filter_eq_none_iff]
  constructor
  · rintro inactive ⟨user, found, active⟩
    exact inactive user found active
  · intro inactive user found active
    exact inactive ⟨user, found, active⟩

theorem answerRefresh_ne_none {rotated : RotatedToken} :
    answerRefresh (some rotated) db ≠ none ↔ db.ServesStaff rotated.userId := by
  show ((db.accountOf rotated.userId).filter _ >>= _) ≠ none ↔ _
  cases accountIs : db.accountOf rotated.userId with
  | none =>
    refine iff_of_false (fun some_ => some_ rfl) ?_
    rintro ⟨account, found, _⟩
    rw [accountIs] at found
    cases found
  | some account =>
    by_cases served : (account.user.isActive && !account.isPortal) = true
    · have both := Bool.and_eq_true_iff.mp served
      refine iff_of_true ?_ ⟨account, accountIs, both.1, Bool.not_eq_true' _ |>.mp both.2⟩
      rw [Option.filter_some, if_pos served]
      exact Option.some_ne_none _
    · refine iff_of_false ?_ ?_
      · rw [Option.filter_some, if_neg served]
        exact fun some_ => some_ rfl
      · rintro ⟨other, found, active, staff⟩
        rw [accountIs] at found
        cases found
        rw [active, staff] at served
        exact served rfl

/-- **When a refusal leaves the tokens alone**, whatever has been committed by the time the account is
read: if the user was not active, or the staff route serves the account. -/
theorem refused_unchanged_iff (presents : db.Presents config draw rawRefreshToken id token)
    (later : AccessDb) :
    (answerRefresh (rotate config draw rawRefreshToken db).1 later = none →
      (rotate config draw rawRefreshToken db).2.refreshTokens = db.refreshTokens) ↔
        (db.HasActive token.userId → later.ServesStaff token.userId) := by
  rw [rotate_live presents]
  cases owner : (db.users.find? token.userId).filter User.isActive with
  | none =>
    have inactive := filter_isActive_eq_none.mp owner
    exact iff_of_true (fun _ => rfl) fun active => absurd active inactive
  | some user =>
    have active : db.HasActive token.userId := by
      by_contra inactive
      rw [filter_isActive_eq_none.mpr inactive] at owner
      cases owner
    have oneMore : ∀ next, ((db.updateToken id (RefreshToken.revoke draw.stampedAt)).createToken
        next).refreshTokens ≠ db.refreshTokens :=
      fun next same => absurd (congrArg Table.nextId same) (Nat.succ_ne_self _)
    show (answerRefresh (some _) later = none → (AccessDb.createToken _ _).refreshTokens = _) ↔ _
    constructor
    · intro unchanged _
      have answers := mt unchanged (oneMore _)
      exact answerRefresh_ne_none.mp answers
    · intro served refused
      exact absurd refused (answerRefresh_ne_none.mpr (served active))

end Refresh

/-! ### Runs -/

inductive StoreRequest
  | refreshTokens (draw : TokenDraw) (rawRefreshToken : String)
  | other (write : AccessDb → AccessDb)

namespace StoreRequest

variable (config : AuthConfig)

def exec (request : StoreRequest) (db : AccessDb) : Except ServiceError AccessDb :=
  match request with
  | refreshTokens draw rawRefreshToken => .ok (rotate config draw rawRefreshToken db).2
  | other write => .ok (write db)

/-- **A refusal changes nothing**: a staff refresh with a live token that answers nothing leaves the
tokens as they were. -/
def RefusesUnchanged (request : StoreRequest) (db : AccessDb) : Prop :=
  ∀ draw rawRefreshToken id token, request = refreshTokens draw rawRefreshToken →
    db.Presents config draw rawRefreshToken id token →
    AuthService.refreshTokens config draw rawRefreshToken db = none →
    (rotate config draw rawRefreshToken db).2.refreshTokens = db.refreshTokens

/-- A live token that is presented is of an account that the staff route serves, if its user is
active. -/
def OfStaff (request : StoreRequest) (db : AccessDb) : Prop :=
  ∀ draw rawRefreshToken id token, request = refreshTokens draw rawRefreshToken →
    db.Presents config draw rawRefreshToken id token → db.HasActive token.userId →
    db.ServesStaff token.userId

variable {config}

theorem rotate_servesStaff {db : AccessDb} {draw : TokenDraw} {rawRefreshToken : String} {id : Nat}
    {token : RefreshToken} (presents : db.Presents config draw rawRefreshToken id token)
    (userId : Nat) :
    (rotate config draw rawRefreshToken db).2.ServesStaff userId ↔ db.ServesStaff userId := by
  rw [rotate_live presents]
  cases (db.users.find? token.userId).filter User.isActive with
  | none => exact Iff.rfl
  | some user => exact Iff.rfl

theorem refusesUnchanged_iff (request : StoreRequest) (db : AccessDb) :
    request.RefusesUnchanged config db ↔ request.OfStaff config db := by
  refine forall_congr' fun draw => forall_congr' fun rawRefreshToken => forall_congr' fun id =>
    forall_congr' fun token => forall_congr' fun _ => forall_congr' fun presents => ?_
  rw [AuthService.refreshTokens_eq, refused_unchanged_iff presents, rotate_servesStaff presents]

end StoreRequest

/-- **In which runs a refused staff refresh changes nothing**: from any store, with any other commits
in between, exactly in those in which every live token that is presented to the staff route is of an
account it serves, or of a user who is not active. -/
theorem refused_refresh_unchanged_iff (config : AuthConfig) (start : AccessDb)
    (requests : List StoreRequest) :
    (∀ step ∈ steps (StoreRequest.exec config) start requests,
        step.input.RefusesUnchanged config step.before) ↔
      ∀ step ∈ steps (StoreRequest.exec config) start requests,
        step.input.OfStaff config step.before :=
  forall_congr' fun step => forall_congr' fun _ =>
    StoreRequest.refusesUnchanged_iff step.input step.before

/-! ### The portal's token -/

def customerCompany : AccessDb where
  roles := Table.empty.createMany
    [{ companyId := 0, name := "Customer", slug := "customer", isSystem := true, isPortal := true }]
  users := Table.empty.createMany
    [{ companyId := 0, email := some "buyer", passwordHash := "", name := "Buyer", roleId := 0,
       applicantId := some 7 }]

def openConfig : AuthConfig where
  hashToken := id
  verify := fun hash password => hash == password

/-- The customer has signed in to the portal: the store with the token that was issued. -/
def signedInCustomer : AccessDb :=
  match (TokenService.createRefreshToken openConfig.toTokenConfig ⟨"portal", 3, 0, 0, 0, 0⟩ 0 none
      (some "24h")).run customerCompany with
  | .ok (_, after) => after
  | .error _ => customerCompany

/-- The token of the customer is presented to the staff route, an hour after the sign-in. -/
def hourLater : TokenDraw := ⟨"next", 4, 3600000, 3600000, 3600000, 3600000⟩

/-- **The token is consumed, and nothing is answered**: the row that was live is revoked, and its
successor stands behind a raw token that nobody has. -/
theorem portal_token_consumed :
    (∃ token, signedInCustomer.Presents openConfig hourLater "portal" 0 token) ∧
    AuthService.refreshTokens openConfig hourLater "portal" signedInCustomer = none ∧
    ((rotate openConfig hourLater "portal" signedInCustomer).2.refreshTokens.find? 0).map
      (·.isRevoked) = some true ∧
    ((rotate openConfig hourLater "portal" signedInCustomer).2.refreshTokens.find? 1).map
      (·.tokenHash) = some "next" ∧
    (rotate openConfig hourLater "portal" signedInCustomer).2.refreshTokens ≠
      signedInCustomer.refreshTokens := by
  refine ⟨⟨_, rfl, rfl, ?_⟩, ?_, ?_, ?_, ?_⟩
  · decide
  · rfl
  · rfl
  · rfl
  · intro same
    exact absurd (congrArg Table.nextId same) (by decide)

end OpenEstate
