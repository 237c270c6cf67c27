/-
**Reset links.**

A request with a reset link looks the link up, claims it in one statement, hashes the new password,
and writes it. A change of password by the owner verifies the current one, hashes the new one, and
writes it in one transaction with the consumption of the links that are still live. Each of these is
a step of its own, and other requests may commit in between. Staff and portal accounts do the same,
each with links of their own.

* `PasswordSession` is where such a request stands, `PasswordSession.move` its next step;
* `LinkBarred` says of a link that it cannot be used any more; `LinkBarred.step` carries it along;
* `reset_links_retired`: every link is used once at most, and in a run in which no change is made
  over a link that is in use, none is used after a change;
* `change_overwritten`: what happens if one is.
-/

import OpenEstate.Access.RecoveryCode

namespace OpenEstate

open Relational
open Function (update update_self update_of_ne)

/-! ### Links -/

/-- A link to reset the password of a user, of which only the hash of the token is stored. -/
structure PasswordReset where
  companyId : Nat
  userId : Nat
  tokenHash : String
  expiresAt : Nat
  consumedAt : Option Nat := none
  createdById : Option Nat := none
  deriving DecidableEq

structure ResetStore where
  now : Nat
  db : AccessDb
  resets : Table PasswordReset := .empty

namespace PasswordReset

def consumed (now : Nat) (reset : PasswordReset) : PasswordReset :=
  { reset with consumedAt := some now }

def isLive (userId now : Nat) (reset : PasswordReset) : Bool :=
  reset.userId == userId && reset.consumedAt.isNone && decide (now < reset.expiresAt)

end PasswordReset

namespace ResetStore

def wait (elapsed : Nat) (store : ResetStore) : ResetStore :=
  { store with now := store.now + elapsed }

def updateUser (store : ResetStore) (userId : Nat) (change : User → User) : ResetStore :=
  { store with db := store.db.updateUser userId change }

def claim (store : ResetStore) (id : Nat) : Option ResetStore :=
  match store.resets.find? id with
  | some reset =>
    if reset.consumedAt = none then
      some { store with resets := store.resets.modify id (PasswordReset.consumed store.now) }
    else none
  | none => none

def consumeResetLinks (store : ResetStore) (userId now : Nat) : ResetStore :=
  { store with
    resets := store.resets.modifyAll (fun _ reset => reset.isLive userId now)
      (PasswordReset.consumed now) }

def insertReset (store : ResetStore) (reset : PasswordReset) : ResetStore :=
  { store with resets := store.resets.create reset }

end ResetStore

/-! ### Requests -/

/-- The configuration of the token service, how a password is verified against a hash, and which
surface the accounts are of. -/
structure ResetConfig extends AuthConfig where
  surface : Surface

/-- What a step draws: how long it comes after the one before, and what the token service draws. -/
structure ResetDraw where
  elapsed : Nat
  token : TokenDraw

/-- A request. `newHash` is what hashing the new password answers; a change at the first login asks
for no current password. Issuing a link may consume the ones before it. -/
inductive PasswordCall
  | confirmPasswordReset (token newHash : String)
  | changePassword (userId : Nat) (currentPassword newHash : String)
      (currentRefreshToken : Option String)
  | forceChangePassword (userId : Nat) (newHash : String)
  | issue (reset : PasswordReset) (supersedes : Bool)

inductive PasswordSession
  | confirming (token newHash : String)
  | claiming (id : Nat) (reset : PasswordReset) (newHash : String)
  | hashing (id : Nat) (reset : PasswordReset) (newHash : String)
  | resetting (id : Nat) (reset : PasswordReset) (newHash : String)
  | changing (userId : Nat) (currentPassword newHash : String)
      (currentRefreshToken : Option String)
  | rehashing (userId : Nat) (newHash : String) (currentRefreshToken : Option String)
  | rewriting (userId : Nat) (newHash : String) (now : Nat) (currentRefreshToken : Option String)
  | issuing (reset : PasswordReset) (supersedes : Bool)
  | ending (userId : Nat) (exceptRawToken : Option String)
  | ended
  | refused (error : ServiceError)

def PasswordCall.begin : PasswordCall → PasswordSession
  | .confirmPasswordReset token newHash => .confirming token newHash
  | .changePassword userId currentPassword newHash currentRefreshToken =>
    .changing userId currentPassword newHash currentRefreshToken
  | .forceChangePassword userId newHash => .rehashing userId newHash none
  | .issue reset supersedes => .issuing reset supersedes

/-! ### The service -/

/-- The user after the owner has set a password: on the staff surface none is to be changed then. -/
def User.passwordChanged (surface : Surface) (passwordHash : String) (user : User) : User :=
  { user with
    passwordHash
    forcePasswordChange := user.forcePasswordChange && surface == .portal }

def User.passwordReset (surface : Surface) (passwordHash : String) (user : User) : User :=
  { user.passwordChanged surface passwordHash with failedLoginAttempts := 0, lockedUntil := none }

namespace AuthService

def invalidResetToken : ServiceError := .unauthorized "Invalid or expired reset token"

def findReset (config : ResetConfig) (token : String) (store : ResetStore) :
    Except ServiceError (Nat × PasswordReset) := do
  let found ← orThrow
    (store.resets.findFirst? fun _ reset => reset.tokenHash == config.hashToken token)
    invalidResetToken
  ensure (found.2.consumedAt = none ∧ store.now ≤ found.2.expiresAt) invalidResetToken
  return found

def resetPassword (config : ResetConfig) (reset : PasswordReset) (newHash : String)
    (store : ResetStore) : PasswordSession × ResetStore :=
  if (store.db.users.find? reset.userId).any User.isActive then
    (.ending reset.userId none, store.updateUser reset.userId
      (User.passwordReset config.surface newHash))
  else (.refused invalidResetToken, store)

def changePasswordTx (config : ResetConfig) (userId : Nat) (newHash : String) (now : Nat)
    (currentRefreshToken : Option String) (store : ResetStore) : PasswordSession × ResetStore :=
  if (store.db.users.find? userId).isSome then
    (.ending userId currentRefreshToken,
      (store.updateUser userId (User.passwordChanged config.surface newHash)).consumeResetLinks
        userId now)
  else (.refused (.error "No record was found for an update."), store)

end AuthService

def PasswordSession.next (config : ResetConfig) (draw : TokenDraw) :
    PasswordSession → ResetStore → Option (PasswordSession × ResetStore)
  | .confirming token newHash, store =>
    match AuthService.findReset config token store with
    | .ok (id, reset) => some (.claiming id reset newHash, store)
    | .error error => some (.refused error, store)
  | .claiming id reset newHash, store =>
    match store.claim id with
    | some after => some (.hashing id reset newHash, after)
    | none => some (.refused AuthService.invalidResetToken, store)
  | .hashing id reset newHash, store => some (.resetting id reset newHash, store)
  | .resetting _ reset newHash, store =>
    some (AuthService.resetPassword config reset newHash store)
  | .changing userId currentPassword newHash currentRefreshToken, store =>
    match store.db.users.find? userId with
    | some user =>
      if config.verify user.passwordHash currentPassword then
        some (.rehashing userId newHash currentRefreshToken, store)
      else some (.refused (.unauthorized "Current password is incorrect"), store)
    | none => some (.refused (.error "No record was found for a query."), store)
  | .rehashing userId newHash currentRefreshToken, store =>
    some (.rewriting userId newHash store.now currentRefreshToken, store)
  | .rewriting userId newHash now currentRefreshToken, store =>
    some (AuthService.changePasswordTx config userId newHash now currentRefreshToken store)
  | .issuing reset supersedes, store =>
    some (.ended, (if supersedes then store.consumeResetLinks reset.userId store.now
      else store).insertReset { reset with consumedAt := none })
  | .ending userId exceptRawToken, store =>
    some (.ended,
      { store with
        db := (AuthService.endSessions config.toAuthConfig draw userId exceptRawToken store.db).2 })
  | .ended, _ | .refused _, _ => none

def PasswordSession.move (config : ResetConfig) (draw : ResetDraw) (session : PasswordSession)
    (store : ResetStore) : Option (PasswordSession × ResetStore) :=
  session.next config draw.token (store.wait draw.elapsed)

abbrev PasswordWorld (ι : Type) : Type := Shared ι ResetStore PasswordSession

def PasswordSession.exec {ι : Type} [DecidableEq ι] (config : ResetConfig) (input : ι × ResetDraw)
    (world : PasswordWorld ι) : Except Unit (PasswordWorld ι) :=
  Shared.exec (PasswordSession.move config input.2) input.1 world

def passwordStart {ι : Type} (calls : ι → PasswordCall) (store : ResetStore) : PasswordWorld ι where
  rows := store
  sessions := fun session => (calls session).begin

/-! ### What becomes of links -/

structure PasswordReset.Aged (reset now : PasswordReset) : Prop where
  userId : now.userId = reset.userId
  expiresAt : now.expiresAt = reset.expiresAt
  consumed : reset.consumedAt.isSome = true → now.consumedAt.isSome = true

theorem PasswordReset.Aged.refl (reset : PasswordReset) : reset.Aged reset :=
  ⟨rfl, rfl, fun consumed => consumed⟩

theorem PasswordReset.aged_consumed (reset : PasswordReset) (now : Nat) :
    reset.Aged (reset.consumed now) :=
  ⟨rfl, rfl, fun _ => rfl⟩

structure ResetStore.Aged (store after : ResetStore) : Prop where
  clock : store.now ≤ after.now
  resets : ∀ id reset, store.resets.find? id = some reset →
    ∃ now, after.resets.find? id = some now ∧ reset.Aged now

namespace PasswordSession

def found : PasswordSession → Option (Nat × PasswordReset)
  | .claiming id reset _ => some (id, reset)
  | _ => none

def claimed : PasswordSession → Option (Nat × PasswordReset)
  | .hashing id reset _ | .resetting id reset _ => some (id, reset)
  | _ => none

end PasswordSession

section Next

variable {config : ResetConfig} {draw : TokenDraw} {session next : PasswordSession}
  {store after : ResetStore}

theorem ResetStore.aged_of_modifyAll (which : Nat → PasswordReset → Bool) {at_ : Nat}
    (clock : after.now = store.now)
    (resets : after.resets = store.resets.modifyAll which (PasswordReset.consumed at_)) :
    store.Aged after := by
  refine ⟨clock.ge, fun id reset present => ?_⟩
  refine ⟨if which id reset then reset.consumed at_ else reset, ?_, ?_⟩
  · rw [resets, Table.find?_modifyAll, present]
    rfl
  · split
    · exact reset.aged_consumed at_
    · exact .refl reset

theorem ResetStore.aged_of_same (clock : after.now = store.now)
    (resets : after.resets = store.resets) : store.Aged after :=
  ⟨clock.ge, fun _ reset present => ⟨reset, by rw [resets, present], .refl reset⟩⟩

theorem ResetStore.claim_eq_some {id : Nat} (claims : store.claim id = some after) :
    (∃ reset, store.resets.find? id = some reset ∧ reset.consumedAt = none) ∧
      (∃ reset, after.resets.find? id = some reset ∧ reset.consumedAt.isSome = true) ∧
      store.Aged after := by
  unfold ResetStore.claim at claims
  split at claims
  · rename_i reset present
    split at claims
    · rename_i unclaimed
      cases claims
      refine ⟨⟨reset, present, unclaimed⟩, ⟨reset.consumed store.now, ?_, rfl⟩,
        ResetStore.aged_of_modifyAll (fun key _ => key == id) rfl rfl⟩
      show (store.resets.modify id _).find? id = _
      rw [Table.find?_modify_self, present]
      rfl
    · cases claims
  · cases claims

theorem PasswordSession.next_aged (moved : session.next config draw store = some (next, after)) :
    store.Aged after := by
  have same : after = store → store.Aged after := by
    rintro rfl
    exact ResetStore.aged_of_same rfl rfl
  cases session with
  | confirming token newHash =>
    simp only [PasswordSession.next] at moved
    split at moved <;> cases moved <;> exact same rfl
  | claiming id reset newHash =>
    simp only [PasswordSession.next] at moved
    split at moved
    · rename_i claims
      cases moved
      exact (ResetStore.claim_eq_some claims).2.2
    · cases moved
      exact same rfl
  | resetting id reset newHash =>
    simp only [PasswordSession.next, AuthService.resetPassword, Option.some.injEq] at moved
    split at moved <;> cases moved <;> exact ResetStore.aged_of_same rfl rfl
  | changing userId currentPassword newHash currentRefreshToken =>
    simp only [PasswordSession.next] at moved
    split at moved
    · split at moved <;> cases moved <;> exact same rfl
    · cases moved
      exact same rfl
  | rewriting userId newHash now currentRefreshToken =>
    simp only [PasswordSession.next, AuthService.changePasswordTx, Option.some.injEq] at moved
    split at moved <;> cases moved
    · exact ResetStore.aged_of_modifyAll (fun _ reset => reset.isLive userId now) rfl rfl
    · exact same rfl
  | issuing reset supersedes =>
    cases moved
    have aged : store.Aged (if supersedes then store.consumeResetLinks reset.userId store.now
        else store) := by
      split
      · exact ResetStore.aged_of_modifyAll (fun _ row => row.isLive reset.userId store.now)
          rfl rfl
      · exact ResetStore.aged_of_same rfl rfl
    refine ⟨aged.clock, fun id row present => ?_⟩
    obtain ⟨now, nowPresent, ages⟩ := aged.resets id row present
    exact ⟨now, Table.find?_create_old _ nowPresent, ages⟩
  | hashing _ _ _ | rehashing _ _ _ =>
    cases moved
    exact same rfl
  | ending userId exceptRawToken =>
    cases moved
    exact ResetStore.aged_of_same rfl rfl
  | ended | refused _ => cases moved

theorem PasswordSession.next_found {link : Nat × PasswordReset}
    (moved : session.next config draw store = some (next, after)) (finds : next.found = some link) :
    after = store ∧ store.resets.find? link.1 = some link.2 ∧ link.2.consumedAt = none ∧
      store.now ≤ link.2.expiresAt := by
  cases session with
  | confirming token newHash =>
    simp only [PasswordSession.next] at moved
    split at moved <;> cases moved
    · rename_i looked
      cases finds
      obtain ⟨hit, isHit, looked⟩ := bind_eq_ok.mp looked
      obtain ⟨_, passes, looked⟩ := bind_eq_ok.mp looked
      cases looked
      obtain ⟨unclaimed, lasts⟩ := ensure_eq_ok.mp passes
      have member := List.mem_of_find?_eq_some (orThrow_eq_ok.mp isHit)
      exact ⟨rfl, Table.find?_eq_some.mpr member, unclaimed, lasts⟩
    · cases finds
  | claiming id reset newHash =>
    simp only [PasswordSession.next] at moved
    split at moved <;> cases moved <;> cases finds
  | resetting id reset newHash =>
    simp only [PasswordSession.next, AuthService.resetPassword, Option.some.injEq] at moved
    split at moved <;> cases moved <;> cases finds
  | changing userId currentPassword newHash currentRefreshToken =>
    simp only [PasswordSession.next] at moved
    split at moved
    · split at moved <;> cases moved <;> cases finds
    · cases moved
      cases finds
  | rewriting userId newHash now currentRefreshToken =>
    simp only [PasswordSession.next, AuthService.changePasswordTx, Option.some.injEq] at moved
    split at moved <;> cases moved <;> cases finds
  | hashing _ _ _ | rehashing _ _ _ | issuing _ _ | ending _ _ =>
    cases moved
    cases finds
  | ended | refused _ => cases moved

/-- A link that a request has claimed it had claimed before; or it had found it, and the link was
not consumed, and is so from then on. -/
theorem PasswordSession.next_claimed {link : Nat × PasswordReset}
    (moved : session.next config draw store = some (next, after))
    (claims : next.claimed = some link) :
    session.claimed = some link ∨ session.found = some link ∧
      (∃ reset, store.resets.find? link.1 = some reset ∧ reset.consumedAt = none) ∧
      ∃ reset, after.resets.find? link.1 = some reset ∧ reset.consumedAt.isSome = true := by
  cases session with
  | confirming token newHash =>
    simp only [PasswordSession.next] at moved
    split at moved <;> cases moved <;> cases claims
  | claiming id reset newHash =>
    simp only [PasswordSession.next] at moved
    split at moved <;> cases moved
    · rename_i taken
      cases claims
      obtain ⟨unclaimed, consumed, _⟩ := ResetStore.claim_eq_some taken
      exact Or.inr ⟨rfl, unclaimed, consumed⟩
    · cases claims
  | hashing id reset newHash =>
    cases moved
    exact Or.inl claims
  | resetting id reset newHash =>
    simp only [PasswordSession.next, AuthService.resetPassword, Option.some.injEq] at moved
    split at moved <;> cases moved <;> cases claims
  | changing userId currentPassword newHash currentRefreshToken =>
    simp only [PasswordSession.next] at moved
    split at moved
    · split at moved <;> cases moved <;> cases claims
    · cases moved
      cases claims
  | rewriting userId newHash now currentRefreshToken =>
    simp only [PasswordSession.next, AuthService.changePasswordTx, Option.some.injEq] at moved
    split at moved <;> cases moved <;> cases claims
  | rehashing _ _ _ | issuing _ _ | ending _ _ =>
    cases moved
    cases claims
  | ended | refused _ => cases moved

end Next

/-! ### Steps -/

section Steps

variable {ι : Type} [DecidableEq ι] (config : ResetConfig)

/-- What is kept: a link is claimed by one request at most, and consumed then; what a request knows
of its link is so. -/
structure LinksKept (world : PasswordWorld ι) : Prop where
  found : ∀ session link, (world.sessions session).found = some link →
    ∃ reset, world.rows.resets.find? link.1 = some reset ∧ link.2.Aged reset
  claimed : ∀ session link, (world.sessions session).claimed = some link →
    ∃ reset, world.rows.resets.find? link.1 = some reset ∧ link.2.Aged reset ∧
      reset.consumedAt.isSome = true
  once : ∀ first second link other, (world.sessions first).claimed = some link →
    (world.sessions second).claimed = some other → link.1 = other.1 → first = second

/-- A link that cannot be used any more: no request has claimed it, and it is consumed, or has
expired and no request has found it. -/
structure LinkBarred (id : Nat) (world : PasswordWorld ι) : Prop where
  unclaimed : ∀ session link, (world.sessions session).claimed = some link → link.1 ≠ id
  closed : ∃ reset, world.rows.resets.find? id = some reset ∧
    (reset.consumedAt.isSome = true ∨ reset.expiresAt < world.rows.now ∧
      ∀ session link, (world.sessions session).found = some link → link.1 ≠ id)

def UsesLink (id : Nat) (step : Step (PasswordWorld ι) (ι × ResetDraw)) : Prop :=
  ∃ reset newHash, step.before.sessions step.input.1 = .resetting id reset newHash ∧
    step.after.sessions step.input.1 = .ending reset.userId none

/-- A step that commits a change of the password to whose account a link belongs. -/
def ChangesPasswordOf (id : Nat) (step : Step (PasswordWorld ι) (ι × ResetDraw)) : Prop :=
  ∃ userId newHash now currentRefreshToken,
    step.before.sessions step.input.1 = .rewriting userId newHash now currentRefreshToken ∧
      step.after.sessions step.input.1 = .ending userId currentRefreshToken ∧
      ∃ reset, step.before.rows.resets.find? id = some reset ∧ reset.userId = userId

/-- Whether a step is not the commit of a change over a link of the account that is in use. No
request has claimed such a link; those that requests have found live when the change looks at the
clock; and those that are not consumed live then, or have expired at the commit. -/
def SparesLinks (step : Step (PasswordWorld ι) (ι × ResetDraw)) : Prop :=
  ∀ userId newHash now currentRefreshToken,
    step.before.sessions step.input.1 = .rewriting userId newHash now currentRefreshToken →
      (∀ session link, (step.before.sessions session).claimed = some link →
        link.2.userId ≠ userId) ∧
      (∀ session link, (step.before.sessions session).found = some link →
        link.2.userId = userId → now < link.2.expiresAt) ∧
      ∀ id reset, step.before.rows.resets.find? id = some reset → reset.userId = userId →
        reset.consumedAt = none → now < reset.expiresAt ∨
          reset.expiresAt < step.before.rows.now + step.input.2.elapsed

variable {config} {input : ι × ResetDraw} {before after : PasswordWorld ι}

theorem passwordExec_eq_ok (accepted : PasswordSession.exec config input before = .ok after) :
    ∃ next store, (before.sessions input.1).next config input.2.token
        (before.rows.wait input.2.elapsed) = some (next, store) ∧
      before.rows.Aged store ∧
      after = { rows := store, sessions := update before.sessions input.1 next } := by
  obtain ⟨next, store, moved, same⟩ := Shared.exec_eq_ok.mp accepted
  have aged := PasswordSession.next_aged moved
  exact ⟨next, store, moved, ⟨(Nat.le_add_right _ _).trans aged.clock, aged.resets⟩, same⟩

theorem PasswordReset.Aged.trans {reset now later : PasswordReset} (aged : reset.Aged now)
    (more : now.Aged later) : reset.Aged later :=
  ⟨more.userId.trans aged.userId, more.expiresAt.trans aged.expiresAt,
    fun consumed => more.consumed (aged.consumed consumed)⟩

omit [DecidableEq ι] in
theorem LinksKept.start (calls : ι → PasswordCall) (store : ResetStore) :
    LinksKept (passwordStart calls store) := by
  have nothing : ∀ session, ((passwordStart calls store).sessions session).found = none ∧
      ((passwordStart calls store).sessions session).claimed = none := by
    intro session
    show (calls session).begin.found = none ∧ (calls session).begin.claimed = none
    cases calls session <;> exact ⟨rfl, rfl⟩
  refine ⟨fun session link finds => ?_, fun session link claims => ?_,
    fun first second link other claims => ?_⟩
  · rw [(nothing session).1] at finds
    cases finds
  · rw [(nothing session).2] at claims
    cases claims
  · rw [(nothing first).2] at claims
    cases claims

theorem LinksKept.step (kept : LinksKept before)
    (accepted : PasswordSession.exec config input before = .ok after) : LinksKept after := by
  obtain ⟨next, store, moved, aged, rfl⟩ := passwordExec_eq_ok accepted
  have claimedStays : ∀ session link, (before.sessions session).claimed = some link →
      ∃ reset, store.resets.find? link.1 = some reset ∧ link.2.Aged reset ∧
        reset.consumedAt.isSome = true := by
    intro session link claims
    obtain ⟨reset, present, ages, consumed⟩ := kept.claimed session link claims
    obtain ⟨now, nowPresent, more⟩ := aged.resets _ reset present
    exact ⟨now, nowPresent, ages.trans more, more.consumed consumed⟩
  -- a link that is claimed in this step nobody has claimed before
  have fresh : ∀ link, next.claimed = some link → (before.sessions input.1).claimed = some link ∨
      ∀ session other, (before.sessions session).claimed = some other → link.1 ≠ other.1 := by
    intro link claims
    rcases PasswordSession.next_claimed moved claims with old | ⟨_, ⟨reset, present, unclaimed⟩, _⟩
    · exact Or.inl old
    · refine Or.inr fun session other claims same => ?_
      obtain ⟨row, rowPresent, _, consumed⟩ := kept.claimed session other claims
      rw [← same] at rowPresent
      obtain rfl : reset = row := Option.some.inj (present.symm.trans rowPresent)
      rw [unclaimed] at consumed
      cases consumed
  refine ⟨fun session link finds => ?_, fun session link claims => ?_,
    fun first second link other claims claimsOther same => ?_⟩
  · by_cases mine : session = input.1
    · simp only [mine, update_self] at finds
      obtain ⟨rfl, present, _⟩ := PasswordSession.next_found moved finds
      exact ⟨link.2, present, .refl _⟩
    · simp only [update_of_ne mine] at finds
      obtain ⟨reset, present, ages⟩ := kept.found session link finds
      obtain ⟨now, nowPresent, more⟩ := aged.resets _ reset present
      exact ⟨now, nowPresent, ages.trans more⟩
  · by_cases mine : session = input.1
    · simp only [mine, update_self] at claims
      rcases PasswordSession.next_claimed moved claims with old | ⟨finds, _, reset, present, consumed⟩
      · exact claimedStays input.1 link old
      · obtain ⟨row, rowPresent, ages⟩ := kept.found input.1 link finds
        obtain ⟨now, nowPresent, more⟩ := aged.resets _ row rowPresent
        obtain rfl : reset = now := Option.some.inj (present.symm.trans nowPresent)
        exact ⟨reset, present, ages.trans more, consumed⟩
    · simp only [update_of_ne mine] at claims
      exact claimedStays session link claims
  · by_cases mine : first = input.1 <;> by_cases yours : second = input.1
    · rw [mine, yours]
    · simp only [mine, update_self, update_of_ne yours] at claims claimsOther
      rcases fresh link claims with old | apart
      · exact mine.trans (kept.once input.1 second link other old claimsOther same)
      · exact absurd same (apart second other claimsOther)
    · simp only [yours, update_self, update_of_ne mine] at claims claimsOther
      rcases fresh other claimsOther with old | apart
      · exact (kept.once first input.1 link other claims old same).trans yours.symm
      · exact absurd same.symm (apart first link claims)
    · simp only [update_of_ne mine, update_of_ne yours] at claims claimsOther
      exact kept.once first second link other claims claimsOther same

theorem LinkBarred.step {id : Nat} (barred : LinkBarred id before)
    (accepted : PasswordSession.exec config input before = .ok after) : LinkBarred id after := by
  obtain ⟨next, store, moved, aged, rfl⟩ := passwordExec_eq_ok accepted
  obtain ⟨reset, present, closed⟩ := barred.closed
  obtain ⟨now, nowPresent, ages⟩ := aged.resets id reset present
  refine ⟨fun session link claims => ?_, now, nowPresent, ?_⟩
  · by_cases mine : session = input.1
    · simp only [mine, update_self] at claims
      rcases PasswordSession.next_claimed moved claims with old | ⟨finds, ⟨row, rowPresent, is⟩, _⟩
      · exact barred.unclaimed input.1 link old
      · intro same
        rcases closed with consumed | ⟨_, unfound⟩
        · rw [same] at rowPresent
          obtain rfl : row = reset := Option.some.inj (rowPresent.symm.trans present)
          rw [is] at consumed
          cases consumed
        · exact unfound input.1 link finds same
    · simp only [update_of_ne mine] at claims
      exact barred.unclaimed session link claims
  · rcases closed with consumed | ⟨expired, unfound⟩
    · exact Or.inl (ages.consumed consumed)
    · refine Or.inr ⟨?_, fun session link finds => ?_⟩
      · rw [ages.expiresAt]
        exact expired.trans_le aged.clock
      · by_cases mine : session = input.1
        · simp only [mine, update_self] at finds
          obtain ⟨_, rowPresent, _, lasts⟩ := PasswordSession.next_found moved finds
          intro same
          rw [same] at rowPresent
          obtain rfl : link.2 = reset := Option.some.inj (rowPresent.symm.trans present)
          have late : before.rows.now ≤ link.2.expiresAt := (Nat.le_add_right _ _).trans lasts
          exact absurd late (Nat.not_le.mpr expired)
        · simp only [update_of_ne mine] at finds
          exact unfound session link finds

theorem UsesLink.barred {id : Nat} (kept : LinksKept before)
    (accepted : PasswordSession.exec config input before = .ok after)
    (uses : UsesLink id ⟨before, input, after⟩) : LinkBarred id after := by
  obtain ⟨reset, newHash, place, ended⟩ := uses
  have place : before.sessions input.1 = .resetting id reset newHash := place
  have mine : (before.sessions input.1).claimed = some (id, reset) := by
    rw [place]
    rfl
  obtain ⟨row, present, _, consumed⟩ := kept.claimed input.1 _ mine
  obtain ⟨next, store, moved, aged, rfl⟩ := passwordExec_eq_ok accepted
  obtain ⟨now, nowPresent, ages⟩ := aged.resets id row present
  refine ⟨fun session link claims same => ?_, now, nowPresent, Or.inl (ages.consumed consumed)⟩
  by_cases same_ : session = input.1
  · have ended : update before.sessions input.1 next input.1 = .ending reset.userId none := ended
    rw [same_] at claims
    simp only [ended] at claims
    cases claims
  · simp only [update_of_ne same_] at claims
    exact same_ (kept.once session input.1 link (id, reset) claims mine same)

/-- A link of an account whose password has been changed cannot be used any more, if the change was
not made over a link that is in use. -/
theorem ChangesPasswordOf.barred {id : Nat} (kept : LinksKept before)
    (accepted : PasswordSession.exec config input before = .ok after)
    (spares : SparesLinks ⟨before, input, after⟩)
    (changes : ChangesPasswordOf id ⟨before, input, after⟩) : LinkBarred id after := by
  obtain ⟨userId, newHash, now, currentRefreshToken, place, ended, reset, present, mine⟩ := changes
  obtain ⟨unclaimed, live, closed⟩ := spares userId newHash now currentRefreshToken place
  have place : before.sessions input.1 = .rewriting userId newHash now currentRefreshToken := place
  have present : before.rows.resets.find? id = some reset := present
  obtain ⟨next, store, moved, aged, rfl⟩ := passwordExec_eq_ok accepted
  have ended : update before.sessions input.1 next input.1 = .ending userId currentRefreshToken :=
    ended
  rw [update_self] at ended
  subst ended
  rw [place] at moved
  simp only [PasswordSession.next, AuthService.changePasswordTx, Option.some.injEq] at moved
  split at moved
  · cases moved
    have written : ((before.rows.resets.modifyAll (fun _ row => row.isLive userId now)
        (PasswordReset.consumed now)).find? id) =
          some (if reset.isLive userId now then reset.consumed now else reset) := by
      rw [Table.find?_modifyAll, present]
      rfl
    refine ⟨fun session link claims same => ?_, _, written, ?_⟩
    · by_cases changer : session = input.1
      · simp only [changer, update_self] at claims
        cases claims
      · simp only [update_of_ne changer] at claims
        obtain ⟨row, rowPresent, ages, _⟩ := kept.claimed session link claims
        rw [same] at rowPresent
        obtain rfl : row = reset := Option.some.inj (rowPresent.symm.trans present)
        exact unclaimed session link claims (ages.userId.symm.trans mine)
    · cases consumed : reset.consumedAt with
      | some instant =>
        refine Or.inl ?_
        split
        · rfl
        · rw [consumed]
          rfl
      | none =>
        by_cases lives : now < reset.expiresAt
        · have isLive : reset.isLive userId now = true := by
            simp [PasswordReset.isLive, mine, consumed, lives]
          refine Or.inl ?_
          rw [if_pos isLive]
          rfl
        · -- the change leaves the link as it is, but nobody has found it, or will
          have isNotLive : ¬reset.isLive userId now = true := by
            simp [PasswordReset.isLive, lives]
          rw [if_neg isNotLive]
          refine Or.inr ⟨(closed id reset present mine consumed).resolve_left lives,
            fun session link finds same => ?_⟩
          by_cases changer : session = input.1
          · simp only [changer, update_self] at finds
            cases finds
          · simp only [update_of_ne changer] at finds
            obtain ⟨row, rowPresent, ages⟩ := kept.found session link finds
            rw [same] at rowPresent
            obtain rfl : row = reset := Option.some.inj (rowPresent.symm.trans present)
            refine lives ?_
            rw [ages.expiresAt]
            exact live session link finds (ages.userId.symm.trans mine)
  · cases moved

omit [DecidableEq ι] in
theorem LinkBarred.not_usesLink {id : Nat} (barred : LinkBarred id before) :
    ¬UsesLink id ⟨before, input, after⟩ := by
  rintro ⟨reset, newHash, place, _⟩
  have place : before.sessions input.1 = .resetting id reset newHash := place
  have claims : (before.sessions input.1).claimed = some (id, reset) := by
    rw [place]
    rfl
  exact barred.unclaimed input.1 _ claims rfl

/-- **Reset links are used once, and retired by a change of the password.** In any interleaving of
requests every link writes a password once at most. If no change of a password is committed over a
link of the account that is in use, then no link that was there at the commit writes a password
afterwards. -/
theorem reset_links_retired (config : ResetConfig) (calls : ι → PasswordCall) (store : ResetStore)
    (schedule : List (ι × ResetDraw)) :
    ((steps (PasswordSession.exec config) (passwordStart calls store) schedule).Pairwise
      fun first second => ∀ id, UsesLink id first → ¬UsesLink id second) ∧
    ((∀ step ∈ steps (PasswordSession.exec config) (passwordStart calls store) schedule,
        SparesLinks step) →
      (steps (PasswordSession.exec config) (passwordStart calls store) schedule).Pairwise
        fun first second => ∀ id, ChangesPasswordOf id first → ¬UsesLink id second) := by
  refine ⟨?_, fun spares => ?_⟩
  · refine pairwise_steps (fun _ _ _ kept accepted => kept.step accepted)
      (fun _ _ _ _ kept accepted (_ : True) uses => uses.barred kept accepted)
      (fun _ _ _ _ _ accepted barred => barred.step accepted)
      (fun _ _ _ _ _ barred => barred.not_usesLink) (LinksKept.start calls store)
      fun _ _ => trivial
  · refine pairwise_steps (fun _ _ _ kept accepted => kept.step accepted)
      (fun _ _ _ _ kept accepted spares changes => changes.barred kept accepted spares)
      (fun _ _ _ _ _ accepted barred => barred.step accepted)
      (fun _ _ _ _ _ barred => barred.not_usesLink) (LinksKept.start calls store) spares

end Steps

/-! ### A change overwritten -/

def linkedCompany : ResetStore where
  now := 0
  db := { smallCompany with
    users := smallCompany.users.modify 2 fun user => { user with passwordHash := "old" } }
  resets := Table.empty.create
    { companyId := 0, userId := 2, tokenHash := "token", expiresAt := 1000 }

inductive LinkRace
  | link | owner
  deriving DecidableEq

def linkRaceCalls : LinkRace → PasswordCall
  | .link => .confirmPasswordReset "token" "theirs"
  | .owner => .changePassword 2 "old" "mine" none

def staffConfig : ResetConfig where
  hashToken := id
  verify := fun hash password => hash == password
  surface := .staff

/-- The link is found and claimed; the owner's change is made as a whole; the link is used. -/
def linkRaceSchedule : List (LinkRace × ResetDraw) :=
  [.link, .link, .owner, .owner, .owner, .link, .link].map
    fun request => (request, ⟨0, ⟨"raw", 0, 0, 0, 0, 0⟩⟩)

def linkRace (length : Nat) : PasswordWorld LinkRace :=
  run (PasswordSession.exec staffConfig) (passwordStart linkRaceCalls linkedCompany)
    (linkRaceSchedule.take length)

/-- **The owner's password is overwritten**, with a link issued before it was set. -/
theorem change_overwritten :
    (linkRace 4).sessions .owner = .rewriting 2 "mine" 0 none ∧
      (linkRace 5).sessions .owner = .ending 2 none ∧
      ((linkRace 5).rows.db.users.find? 2).map User.passwordHash = some "mine" ∧
      (linkRace 7).sessions .link = .ending 2 none ∧
      ((linkRace 7).rows.db.users.find? 2).map User.passwordHash = some "theirs" := by
  refine ⟨rfl, rfl, by decide, rfl, by decide⟩

/-- That change is committed over the link. -/
theorem linkRace_not_spared :
    ¬∀ step ∈ steps (PasswordSession.exec staffConfig) (passwordStart linkRaceCalls linkedCompany)
      linkRaceSchedule, SparesLinks step := by
  intro spares
  have retired := (reset_links_retired staffConfig linkRaceCalls linkedCompany
    linkRaceSchedule).2 spares
  have apart := List.pairwise_iff_getElem.mp retired 4 6 (by decide) (by decide) (by decide) 0
  refine apart ⟨2, "mine", 0, none, rfl, rfl, _, rfl, rfl⟩ ⟨_, "theirs", rfl, rfl⟩

end OpenEstate
