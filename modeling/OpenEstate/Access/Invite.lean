/-
**Invites to the portal.**

An applicant or a broker is invited with a token, of which only the hash is stored. A request to
consume the invite reads it first, and compares the token it presents with what it has read. A wrong
token is counted, and the one that reaches the cap closes the invite; a right one claims it. Both
are one update each, guarded by the invite being open. The request that has claimed the invite then
sets up the account, statement by statement. Any other requests may commit in between.

* `InviteSession` is where such a request stands, `InviteSession.next` its next statement;
* `InviteSession.next_cases`: what a statement does to the invites;
* `InvitesKept`: what is kept by every statement, `InvitesKept.step`;
* `invite_guesses_capped`: in any interleaving an invite is claimed once at most, the count stays
  within the cap, and no request succeeds on an invite whose count has reached it.
-/

import OpenEstate.Access.PasswordReset
import OpenEstate.Relational.History

namespace OpenEstate

open Relational
open Function (update update_self update_of_ne)

/-! ### Invites -/

/-- Whose account it is: an applicant's or a broker's, exactly one of the two. -/
inductive Principal
  | applicant (id : Nat)
  | broker (id : Nat)
  deriving DecidableEq

inductive InviteChannel
  | email | sms
  deriving DecidableEq

structure PortalInvite where
  companyId : Nat
  principal : Principal
  channel : InviteChannel
  tokenHash : String
  wrongAttempts : Nat := 0
  expiresAt : Nat
  consumedAt : Option Nat := none
  invalidatedReason : Option String := none
  createdById : Option Nat := none
  deriving DecidableEq

structure Contact where
  companyId : Nat
  name : String
  email : Option String
  phone : String

/-- The accounts of the portal with their links, the invites, and those that can be invited. -/
structure InviteStore extends ResetStore where
  invites : Table PortalInvite := .empty
  applicants : Table Contact := .empty
  brokers : Table Contact := .empty

def inviteWrongAttemptCap : Nat := 3

def inviteExpiryDays : Nat := 7

def tooManyAttempts : String := "TOO_MANY_ATTEMPTS"

namespace Principal

def applicantId : Principal → Option Nat
  | .applicant id => some id
  | .broker _ => none

def brokerId : Principal → Option Nat
  | .applicant _ => none
  | .broker id => some id

def roleSlug : Principal → String
  | .applicant _ => "customer"
  | .broker _ => "broker"

def owns (principal : Principal) (user : User) : Bool :=
  match principal with
  | .applicant id => user.applicantId == some id
  | .broker id => user.brokerId == some id

def notFoundMessage : Principal → String
  | .applicant _ => "Applicant not found"
  | .broker _ => "Broker not found"

end Principal

namespace PortalInvite

/-- The invite after a wrong token: the one that reaches the cap closes it. -/
def struck (now : Nat) (invite : PortalInvite) : PortalInvite :=
  { invite with
    wrongAttempts := invite.wrongAttempts + 1
    consumedAt :=
      if inviteWrongAttemptCap ≤ invite.wrongAttempts + 1 then some now else invite.consumedAt
    invalidatedReason :=
      if inviteWrongAttemptCap ≤ invite.wrongAttempts + 1 then some tooManyAttempts
      else invite.invalidatedReason }

def consumed (now : Nat) (invite : PortalInvite) : PortalInvite :=
  { invite with consumedAt := some now }

end PortalInvite

namespace InviteStore

def wait (elapsed : Nat) (store : InviteStore) : InviteStore :=
  { store with toResetStore := store.toResetStore.wait elapsed }

def contact? (store : InviteStore) : Principal → Option Contact
  | .applicant id => store.applicants.find? id
  | .broker id => store.brokers.find? id

/-- Update an invite unless it has been consumed; the row is answered as it is then. -/
def updateOpen (store : InviteStore) (id : Nat) (change : PortalInvite → PortalInvite) :
    Option (PortalInvite × InviteStore) :=
  match store.invites.find? id with
  | some invite =>
    if invite.consumedAt = none then
      some (change invite, { store with invites := store.invites.modify id change })
    else none
  | none => none

end InviteStore

/-! ### Requests -/

structure SendPortalInviteDto where
  principal : Principal
  channel : InviteChannel

structure PortalInviteConsumeDto where
  token : String
  newHash : String

inductive InviteCall
  | sendInvite (companyId createdById : Nat) (dto : SendPortalInviteDto)
  | consumeInvite (inviteId : Nat) (dto : PortalInviteConsumeDto)

/-- What an access token of the portal carries, with the session version it was signed with. -/
structure PortalAccessToken extends AccessToken where
  surface : Surface
  applicantId : Option Nat
  brokerId : Option Nat

structure PortalSignedIn where
  accessToken : PortalAccessToken
  refreshRaw : String
  expiresAt : Nat

/-- The invite whose token a request has presented, as the request has read it. -/
structure InviteClaim where
  inviteId : Nat
  invite : PortalInvite
  newHash : String

inductive InviteSession
  | sending (companyId createdById : Nat) (dto : SendPortalInviteDto)
  | creating (companyId createdById : Nat) (dto : SendPortalInviteDto)
  | sent (inviteId : Nat) (token : String) (expiresAt : Nat)
  | reading (inviteId : Nat) (dto : PortalInviteConsumeDto)
  | striking (inviteId : Nat)
  | claiming (claim : InviteClaim)
  | finalizing (claim : InviteClaim)
  | naming (claim : InviteClaim) (roleId : Nat)
  | matching (claim : InviteClaim) (roleId : Nat) (contact : Contact)
  | accepting (claim : InviteClaim) (roleId : Nat) (contact : Contact) (existingUser : Option Nat)
      (now : Nat)
  | ending (account : Account)
  | signing (account : Account)
  | issuing (token : PortalAccessToken)
  | accepted (tokens : PortalSignedIn)
  | refused (error : ServiceError)

def InviteCall.begin : InviteCall → InviteSession
  | .sendInvite companyId createdById dto => .sending companyId createdById dto
  | .consumeInvite inviteId dto => .reading inviteId dto

structure InviteConfig extends ResetConfig where
  portalRefreshExpiresIn : String := "24h"

/-! ### The service -/

/-- The user whose password comes with an invite: the account is active again. -/
def User.invited (passwordHash : String) (user : User) : User :=
  { user with passwordHash, isActive := true, forcePasswordChange := false }

def PortalInvite.newUser (invite : PortalInvite) (roleId : Nat) (contact : Contact)
    (passwordHash : String) : User where
  companyId := invite.companyId
  email := contact.email
  phone := some contact.phone
  name := contact.name
  passwordHash
  roleId
  applicantId := invite.principal.applicantId
  brokerId := invite.principal.brokerId
  forcePasswordChange := false

def AccessDb.emailTaken (db : AccessDb) (companyId : Nat) (email : Option String) : Bool :=
  db.users.any fun _ user => user.companyId == companyId && email.isSome && user.email == email

def Account.portalAccessToken (account : Account) (av : Nat) : PortalAccessToken where
  toAccessToken := account.accessToken av
  surface := .portal
  applicantId := account.user.applicantId
  brokerId := account.user.brokerId

namespace PortalAuthService

def inviteGone : ServiceError := .unauthorized "Invite is no longer valid"

def inviteOf (config : InviteConfig) (draw : TokenDraw) (now companyId createdById : Nat)
    (dto : SendPortalInviteDto) : PortalInvite where
  companyId
  principal := dto.principal
  channel := dto.channel
  tokenHash := config.hashToken draw.raw
  expiresAt := now + inviteExpiryDays * 24 * 60 * 60 * 1000
  createdById := some createdById

/-- What is checked of an invite that was read: it must be open, and not expired. -/
def checkInvite (now : Nat) (found : Option PortalInvite) : Except ServiceError PortalInvite := do
  let invite ← orThrow found (.unauthorized "Invalid invite")
  ensure (invite.consumedAt = none) inviteGone
  ensure (now ≤ invite.expiresAt) (.unauthorized "Invite has expired")
  return invite

def strike (inviteId : Nat) (store : InviteStore) : InviteSession × InviteStore :=
  match store.updateOpen inviteId (PortalInvite.struck store.now) with
  | some (row, after) =>
    (.refused (if row.invalidatedReason = some tooManyAttempts then
        .forbidden "Too many attempts. Ask staff to resend the invite."
      else .unauthorized "Invalid token"), after)
  | none => (.refused inviteGone, store)

def claimInvite (claim : InviteClaim) (store : InviteStore) : InviteSession × InviteStore :=
  match store.updateOpen claim.inviteId (PortalInvite.consumed store.now) with
  | some (_, after) => (.finalizing claim, after)
  | none => (.refused inviteGone, store)

def inviteRole (invite : PortalInvite) (db : AccessDb) : Except ServiceError Nat :=
  orThrow ((db.roles.findFirst? fun _ role => role.companyId == invite.companyId &&
      role.slug == invite.principal.roleSlug).map Prod.fst)
    (.badRequest s!"No {invite.principal.roleSlug} role configured for this company")

/-- The existing account gets the password, becomes active, and its live links are consumed. -/
def reinvite (claim : InviteClaim) (userId now : Nat) (store : InviteStore) :
    InviteSession × InviteStore :=
  let after := (store.toResetStore.updateUser userId
    (User.invited claim.newHash)).consumeResetLinks userId now
  match after.db.accountOf userId with
  | some account => (.ending account, { store with toResetStore := after })
  | none => (.refused (.error "No record was found for an update."), store)

def createAccount (claim : InviteClaim) (roleId : Nat) (contact : Contact) (store : InviteStore) :
    InviteSession × InviteStore :=
  let user := claim.invite.newUser roleId contact claim.newHash
  let after := store.db.createUser user
  if store.db.emailTaken user.companyId user.email then
    (.refused (.error "Unique constraint failed on the fields: (company_id, email)"), store)
  else match after.accountOf store.db.users.nextId with
    | some account => (.signing account, { store with db := after })
    | none => (.refused (.error "Foreign key constraint violated: role_id"), store)

def signInvited (account : Account) (db : AccessDb) : InviteSession :=
  match db.users.find? account.id with
  | some now => .issuing (account.portalAccessToken now.authzVersion)
  | none => .refused (.error "Cannot issue a token for a user that does not exist")

end PortalAuthService

def InviteSession.next (config : InviteConfig) (draw : TokenDraw) :
    InviteSession → InviteStore → Option (InviteSession × InviteStore)
  | .sending companyId createdById dto, store =>
    if (store.contact? dto.principal).any (·.companyId == companyId) then
      some (.creating companyId createdById dto, store)
    else some (.refused (.badRequest dto.principal.notFoundMessage), store)
  | .creating companyId createdById dto, store =>
    let invite := PortalAuthService.inviteOf config draw store.now companyId createdById dto
    some (.sent store.invites.nextId draw.raw invite.expiresAt,
      { store with invites := store.invites.create invite })
  | .reading inviteId dto, store =>
    match PortalAuthService.checkInvite store.now (store.invites.find? inviteId) with
    | .ok invite =>
      if config.hashToken dto.token = invite.tokenHash then
        some (.claiming ⟨inviteId, invite, dto.newHash⟩, store)
      else some (.striking inviteId, store)
    | .error error => some (.refused error, store)
  | .striking inviteId, store => some (PortalAuthService.strike inviteId store)
  | .claiming claim, store => some (PortalAuthService.claimInvite claim store)
  | .finalizing claim, store =>
    match PortalAuthService.inviteRole claim.invite store.db with
    | .ok roleId => some (.naming claim roleId, store)
    | .error error => some (.refused error, store)
  | .naming claim roleId, store =>
    match store.contact? claim.invite.principal with
    | some contact => some (.matching claim roleId contact, store)
    | none => some (.refused (.error "No record was found for a query."), store)
  | .matching claim roleId contact, store =>
    some (.accepting claim roleId contact ((store.db.users.findFirst? fun _ user =>
      claim.invite.principal.owns user).map Prod.fst) store.now, store)
  | .accepting claim roleId contact existingUser now, store =>
    match existingUser with
    | some userId => some (PortalAuthService.reinvite claim userId now store)
    | none => some (PortalAuthService.createAccount claim roleId contact store)
  | .ending account, store =>
    match (TokenService.endSessions config.toTokenConfig draw account.id none).run store.db with
    | .ok (_, after) => some (.signing account, { store with db := after })
    | .error error => some (.refused error, store)
  | .signing account, store => some (PortalAuthService.signInvited account store.db, store)
  | .issuing token, store =>
    match (TokenService.createRefreshToken config.toTokenConfig draw token.sub none
        (some config.portalRefreshExpiresIn)).run store.db with
    | .ok (issued, after) =>
      some (.accepted ⟨token, issued.raw, issued.expiresAt⟩, { store with db := after })
    | .error error => some (.refused error, store)
  | .sent _ _ _, _ | .accepted _, _ | .refused _, _ => none

def InviteSession.move (config : InviteConfig) (draw : ResetDraw) (session : InviteSession)
    (store : InviteStore) : Option (InviteSession × InviteStore) :=
  session.next config draw.token (store.wait draw.elapsed)

abbrev InviteWorld (ι : Type) : Type := Shared ι InviteStore InviteSession

def InviteSession.exec {ι : Type} [DecidableEq ι] (config : InviteConfig) (input : ι × ResetDraw)
    (world : InviteWorld ι) : Except Unit (InviteWorld ι) :=
  Shared.exec (InviteSession.move config input.2) input.1 world

def inviteStart {ι : Type} (calls : ι → InviteCall) (store : InviteStore) : InviteWorld ι where
  rows := { store with invites := .empty }
  sessions := fun session => (calls session).begin

/-! ### What becomes of invites -/

namespace InviteSession

/-- Whether a request has claimed its invite: its token was right, and it sets up the account. -/
def hasClaimed : InviteSession → Bool
  | .finalizing _ | .naming _ _ | .matching _ _ _ | .accepting _ _ _ _ _ | .ending _ | .signing _
  | .issuing _ | .accepted _ => true
  | _ => false

def asksFor : InviteSession → Option Nat
  | .reading inviteId _ | .striking inviteId => some inviteId
  | .claiming claim => some claim.inviteId
  | _ => none

end InviteSession

section Next

variable {config : InviteConfig} {draw : TokenDraw} {session next : InviteSession}
  {store after : InviteStore}

theorem InviteStore.updateOpen_eq_some {id : Nat} {change : PortalInvite → PortalInvite}
    {row : PortalInvite} :
    store.updateOpen id change = some (row, after) ↔
      ∃ invite, store.invites.find? id = some invite ∧ invite.consumedAt = none ∧
        row = change invite ∧ after = { store with invites := store.invites.modify id change } := by
  unfold InviteStore.updateOpen
  cases found : store.invites.find? id with
  | none => simp
  | some invite =>
    by_cases isOpen : invite.consumedAt = none
    · simp [isOpen, eq_comm]
    · simp [isOpen]

theorem InviteSession.next_cases (moved : session.next config draw store = some (next, after)) :
    (∃ invite, invite.wrongAttempts = 0 ∧ invite.consumedAt = none ∧ next.asksFor = none ∧
      next.hasClaimed = false ∧ after.invites = store.invites.create invite ∧
      session.asksFor = none) ∨
    (∃ id invite, session = .striking id ∧ store.invites.find? id = some invite ∧
      invite.consumedAt = none ∧ next.asksFor = none ∧ next.hasClaimed = false ∧
      after.invites = store.invites.modify id (PortalInvite.struck store.now)) ∨
    (∃ claim invite, session = .claiming claim ∧ next = .finalizing claim ∧
      store.invites.find? claim.inviteId = some invite ∧ invite.consumedAt = none ∧
      after.invites = store.invites.modify claim.inviteId (PortalInvite.consumed store.now)) ∨
    (after.invites = store.invites ∧ (next.hasClaimed = true → session.hasClaimed = true) ∧
      (∀ id, next.asksFor = some id → session.asksFor = some id) ∧
      ∀ id, session = .striking id → ∀ invite, store.invites.find? id = some invite →
        invite.consumedAt ≠ none) := by
  cases session with
  | creating companyId createdById dto =>
    cases moved
    exact Or.inl ⟨_, rfl, rfl, rfl, rfl, rfl, rfl⟩
  | striking inviteId =>
    simp only [InviteSession.next, PortalAuthService.strike, Option.some.injEq] at moved
    split at moved
    · rename_i row struck updated
      obtain ⟨invite, found, isOpen, rfl, rfl⟩ := InviteStore.updateOpen_eq_some.mp updated
      cases moved
      exact Or.inr (Or.inl ⟨inviteId, invite, rfl, found, isOpen, rfl, rfl, rfl⟩)
    · rename_i refused
      cases moved
      refine Or.inr (Or.inr (Or.inr ⟨rfl, nofun, nofun, ?_⟩))
      rintro id ⟨⟩ invite found isOpen
      simp [InviteStore.updateOpen, found, isOpen] at refused
  | claiming claim =>
    simp only [InviteSession.next, PortalAuthService.claimInvite, Option.some.injEq] at moved
    split at moved
    · rename_i row claimed updated
      obtain ⟨invite, found, isOpen, rfl, rfl⟩ := InviteStore.updateOpen_eq_some.mp updated
      cases moved
      exact Or.inr (Or.inr (Or.inl ⟨claim, invite, rfl, rfl, found, isOpen, rfl⟩))
    · cases moved
      exact Or.inr (Or.inr (Or.inr ⟨rfl, nofun, nofun, nofun⟩))
  | reading inviteId dto =>
    refine Or.inr (Or.inr (Or.inr ?_))
    simp only [InviteSession.next] at moved
    split at moved
    · split at moved <;> cases moved <;> exact ⟨rfl, nofun, fun id asks => asks, nofun⟩
    · cases moved
      exact ⟨rfl, nofun, nofun, nofun⟩
  | sending companyId createdById dto =>
    refine Or.inr (Or.inr (Or.inr ?_))
    simp only [InviteSession.next] at moved
    split at moved <;> cases moved <;> exact ⟨rfl, nofun, nofun, nofun⟩
  | finalizing _ | naming _ _ | ending _ | issuing _ =>
    refine Or.inr (Or.inr (Or.inr ?_))
    simp only [InviteSession.next] at moved
    split at moved <;> cases moved <;> exact ⟨rfl, fun _ => rfl, nofun, nofun⟩
  | matching claim roleId contact =>
    cases moved
    exact Or.inr (Or.inr (Or.inr ⟨rfl, fun _ => rfl, nofun, nofun⟩))
  | accepting claim roleId contact existingUser now =>
    refine Or.inr (Or.inr (Or.inr ?_))
    cases existingUser with
    | some userId =>
      simp only [InviteSession.next, PortalAuthService.reinvite, Option.some.injEq] at moved
      split at moved <;> cases moved <;> exact ⟨rfl, fun _ => rfl, nofun, nofun⟩
    | none =>
      simp only [InviteSession.next, PortalAuthService.createAccount, Option.some.injEq] at moved
      split at moved
      · cases moved
        exact ⟨rfl, fun _ => rfl, nofun, nofun⟩
      · split at moved <;> cases moved <;> exact ⟨rfl, fun _ => rfl, nofun, nofun⟩
  | signing account =>
    simp only [InviteSession.next, PortalAuthService.signInvited, Option.some.injEq] at moved
    split at moved <;> cases moved <;>
      exact Or.inr (Or.inr (Or.inr ⟨rfl, fun _ => rfl, nofun, nofun⟩))
  | sent _ _ _ | accepted _ | refused _ => cases moved

end Next

/-! ### Guesses -/

section Steps

variable {ι : Type}

/-- A step that claims an invite: the token was right, and the invite was still open. -/
def ClaimsInvite (id : Nat) (step : Step (InviteWorld ι) (ι × ResetDraw)) : Prop :=
  ∃ claim : InviteClaim, claim.inviteId = id ∧
    step.before.sessions step.input.1 = .claiming claim ∧
    step.after.sessions step.input.1 = .finalizing claim

def recordsWrongToken (id : Nat) (step : Step (InviteWorld ι) (ι × ResetDraw)) : Bool :=
  match step.before.sessions step.input.1 with
  | .striking inviteId => inviteId == id &&
      (step.before.rows.invites.find? id).any fun invite => invite.consumedAt.isNone
  | _ => false

def InviteClosed (id : Nat) (world : InviteWorld ι) : Prop :=
  ∃ invite, world.rows.invites.find? id = some invite ∧ invite.consumedAt ≠ none

/-- **What is kept of the invites**: the count is within the cap, and below it while the invite is
open; and an invite that a request has claimed is closed with a count below the cap. -/
structure InvitesKept (calls : ι → InviteCall) (world : InviteWorld ι) : Prop where
  within : ∀ id invite, world.rows.invites.find? id = some invite →
    invite.wrongAttempts ≤ inviteWrongAttemptCap ∧
      (invite.consumedAt = none → invite.wrongAttempts < inviteWrongAttemptCap)
  asks : ∀ session id, (world.sessions session).asksFor = some id →
    ∃ dto, calls session = .consumeInvite id dto
  claimed : ∀ session id dto, calls session = .consumeInvite id dto →
    (world.sessions session).hasClaimed = true →
      ∃ invite, world.rows.invites.find? id = some invite ∧ invite.consumedAt ≠ none ∧
        invite.wrongAttempts < inviteWrongAttemptCap

theorem InvitesKept.start (calls : ι → InviteCall) (store : InviteStore) :
    InvitesKept calls (inviteStart calls store) := by
  refine ⟨fun id invite found => ?_, fun session id asks => ?_,
    fun session id dto called claims => ?_⟩
  · cases found
  · have asks : (calls session).begin.asksFor = some id := asks
    cases called : calls session with
    | sendInvite companyId createdById dto =>
      rw [called] at asks
      cases asks
    | consumeInvite inviteId dto =>
      rw [called] at asks
      cases asks
      exact ⟨dto, rfl⟩
  · have claims : (calls session).begin.hasClaimed = true := claims
    rw [called] at claims
    cases claims

variable [DecidableEq ι] {config : InviteConfig} {calls : ι → InviteCall} {input : ι × ResetDraw}
  {before after : InviteWorld ι}

theorem inviteExec_eq_ok (accepted : InviteSession.exec config input before = .ok after) :
    ∃ next store, (before.sessions input.1).next config input.2.token
        (before.rows.wait input.2.elapsed) = some (next, store) ∧
      after = { rows := store, sessions := update before.sessions input.1 next } :=
  Shared.exec_eq_ok.mp accepted

variable {invite : PortalInvite}

theorem InviteClosed.step {id : Nat} (accepted : InviteSession.exec config input before = .ok after)
    (found : before.rows.invites.find? id = some invite) (closed : invite.consumedAt ≠ none) :
    after.rows.invites.find? id = some invite := by
  obtain ⟨next, store, moved, rfl⟩ := inviteExec_eq_ok accepted
  show store.invites.find? id = some invite
  rcases InviteSession.next_cases moved with ⟨new, _, _, _, _, created, _⟩ |
    ⟨struck, other, _, open_, isOpen, _, _, counted⟩ |
    ⟨claim, other, _, _, open_, isOpen, claimed⟩ | ⟨same, _⟩
  · rw [created]
    exact Table.find?_create_old _ found
  · have differs : id ≠ struck := by
      rintro rfl
      exact closed (Option.some.inj (found.symm.trans open_) ▸ isOpen)
    rw [counted, Table.find?_modify_of_ne _ _ differs]
    exact found
  · have differs : id ≠ claim.inviteId := by
      rintro rfl
      exact closed (Option.some.inj (found.symm.trans open_) ▸ isOpen)
    rw [claimed, Table.find?_modify_of_ne _ _ differs]
    exact found
  · rw [same]
    exact found

theorem PortalInvite.struck_within (now : Nat)
    (below : invite.wrongAttempts < inviteWrongAttemptCap) :
    (invite.struck now).wrongAttempts ≤ inviteWrongAttemptCap ∧
      ((invite.struck now).consumedAt = none →
        (invite.struck now).wrongAttempts < inviteWrongAttemptCap) := by
  refine ⟨below, fun isOpen => ?_⟩
  show invite.wrongAttempts + 1 < inviteWrongAttemptCap
  by_contra reached
  have capped : inviteWrongAttemptCap ≤ invite.wrongAttempts + 1 := Nat.not_lt.mp reached
  simp [PortalInvite.struck, capped] at isOpen

theorem InvitesKept.within_step (kept : InvitesKept calls before)
    (accepted : InviteSession.exec config input before = .ok after) (id : Nat)
    (invite : PortalInvite) (found : after.rows.invites.find? id = some invite) :
    invite.wrongAttempts ≤ inviteWrongAttemptCap ∧
      (invite.consumedAt = none → invite.wrongAttempts < inviteWrongAttemptCap) := by
  obtain ⟨next, store, moved, rfl⟩ := inviteExec_eq_ok accepted
  have found : store.invites.find? id = some invite := found
  rcases InviteSession.next_cases moved with ⟨new, zero, _, _, _, created, _⟩ |
    ⟨struck, other, _, open_, isOpen, _, _, counted⟩ |
    ⟨claim, other, _, _, open_, _, claimed⟩ | ⟨same, _⟩
  · rw [created] at found
    rcases Table.find?_create_eq_some.mp found with ⟨_, rfl⟩ | old
    · rw [zero]
      exact ⟨Nat.zero_le _, fun _ => by decide⟩
    · exact kept.within id invite old
  · rw [counted] at found
    rcases Table.find?_modify_eq_some.mp found with ⟨rfl, was, wasFound, rfl⟩ | ⟨_, old⟩
    · obtain rfl : was = other := Option.some.inj (wasFound.symm.trans open_)
      exact was.struck_within _ ((kept.within _ _ open_).2 isOpen)
    · exact kept.within id invite old
  · rw [claimed] at found
    rcases Table.find?_modify_eq_some.mp found with ⟨rfl, was, wasFound, rfl⟩ | ⟨_, old⟩
    · exact ⟨(kept.within _ was wasFound).1, nofun⟩
    · exact kept.within id invite old
  · rw [same] at found
    exact kept.within id invite found

theorem InviteSession.asksFor_next {session next : InviteSession} {draw : TokenDraw}
    {store left : InviteStore} (moved : session.next config draw store = some (next, left)) {id : Nat}
    (asks : next.asksFor = some id) : session.asksFor = some id := by
  rcases InviteSession.next_cases moved with ⟨_, _, _, none_, _⟩ | ⟨_, _, _, _, _, none_, _⟩ |
    ⟨_, _, _, rfl, _⟩ | ⟨_, _, kept, _⟩
  · rw [none_] at asks
    cases asks
  · rw [none_] at asks
    cases asks
  · cases asks
  · exact kept id asks

theorem InviteSession.hasClaimed_next {session next : InviteSession} {draw : TokenDraw}
    {store left : InviteStore} (moved : session.next config draw store = some (next, left))
    (claims : next.hasClaimed = true) :
    session.hasClaimed = true ∨ ∃ claim invite, session = .claiming claim ∧
      store.invites.find? claim.inviteId = some invite ∧ invite.consumedAt = none ∧
      left.invites = store.invites.modify claim.inviteId (PortalInvite.consumed store.now) := by
  rcases InviteSession.next_cases moved with ⟨_, _, _, _, unclaimed, _⟩ |
    ⟨_, _, _, _, _, _, unclaimed, _⟩ | ⟨claim, invite, at_, _, open_, isOpen, claimed⟩ |
    ⟨_, kept, _⟩
  · rw [unclaimed] at claims
    cases claims
  · rw [unclaimed] at claims
    cases claims
  · exact Or.inr ⟨claim, invite, at_, open_, isOpen, claimed⟩
  · exact Or.inl (kept claims)

theorem InvitesKept.step (kept : InvitesKept calls before)
    (accepted : InviteSession.exec config input before = .ok after) : InvitesKept calls after := by
  have stays : ∀ id invite, before.rows.invites.find? id = some invite → invite.consumedAt ≠ none →
      invite.wrongAttempts < inviteWrongAttemptCap →
      ∃ now, after.rows.invites.find? id = some now ∧ now.consumedAt ≠ none ∧
        now.wrongAttempts < inviteWrongAttemptCap := fun id invite found closed below =>
    ⟨invite, InviteClosed.step accepted found closed, closed, below⟩
  refine ⟨kept.within_step accepted, ?_, ?_⟩
  · intro session id asks
    obtain ⟨next, store, moved, rfl⟩ := inviteExec_eq_ok accepted
    by_cases mine : session = input.1
    · simp only [mine, update_self] at asks ⊢
      exact kept.asks input.1 id (InviteSession.asksFor_next moved asks)
    · simp only [update_of_ne mine] at asks
      exact kept.asks session id asks
  · intro session id dto called claims
    obtain ⟨next, store, moved, rfl⟩ := inviteExec_eq_ok accepted
    by_cases mine : session = input.1
    · subst mine
      simp only [update_self] at claims
      rcases InviteSession.hasClaimed_next moved claims with
        old | ⟨claim, invite, place, found, isOpen, claimed⟩
      · obtain ⟨invite, found, closed, below⟩ := kept.claimed input.1 id dto called old
        exact stays id invite found closed below
      · -- the request claims the invite it was called with
        have asks : (before.sessions input.1).asksFor = some claim.inviteId := by
          rw [place]
          rfl
        obtain ⟨other, same⟩ := kept.asks input.1 _ asks
        obtain ⟨rfl, _⟩ : id = claim.inviteId ∧ dto = other := by
          simpa using called.symm.trans same
        refine ⟨invite.consumed (before.rows.wait input.2.elapsed).now, ?_, nofun,
          (kept.within _ invite found).2 isOpen⟩
        show store.invites.find? claim.inviteId = _
        rw [claimed, Table.find?_modify_self, found]
        rfl
    · simp only [update_of_ne mine] at claims
      obtain ⟨invite, found, closed, below⟩ := kept.claimed session id dto called claims
      exact stays id invite found closed below

theorem ClaimsInvite.opened {id : Nat}
    (accepted : InviteSession.exec config input before = .ok after)
    (claims : ClaimsInvite id ⟨before, input, after⟩) :
    ∃ invite, before.rows.invites.find? id = some invite ∧ invite.consumedAt = none ∧
      after.rows.invites.find? id =
        some (invite.consumed (before.rows.wait input.2.elapsed).now) := by
  obtain ⟨claim, rfl, place, claimed⟩ := claims
  have place : before.sessions input.1 = .claiming claim := place
  obtain ⟨next, store, moved, rfl⟩ := inviteExec_eq_ok accepted
  have claimed : update before.sessions input.1 next input.1 = .finalizing claim := claimed
  rw [update_self] at claimed
  subst claimed
  rcases InviteSession.hasClaimed_next moved rfl with
    old | ⟨other, invite, same, found, isOpen, written⟩
  · rw [place] at old
    cases old
  · obtain rfl : claim = other := by simpa using place.symm.trans same
    refine ⟨invite, found, isOpen, ?_⟩
    show store.invites.find? claim.inviteId = _
    rw [written, Table.find?_modify_self, found]
    rfl

theorem ClaimsInvite.closed {id : Nat}
    (accepted : InviteSession.exec config input before = .ok after)
    (claims : ClaimsInvite id ⟨before, input, after⟩) : InviteClosed id after := by
  obtain ⟨_, _, _, consumed⟩ := claims.opened accepted
  exact ⟨_, consumed, nofun⟩

theorem InviteClosed.not_claims {id : Nat}
    (accepted : InviteSession.exec config input before = .ok after)
    (closed : InviteClosed id before) : ¬ClaimsInvite id ⟨before, input, after⟩ := by
  intro claims
  obtain ⟨invite, found, shut⟩ := closed
  obtain ⟨other, open_, isOpen, _⟩ := claims.opened accepted
  exact shut (Option.some.inj (open_.symm.trans found) ▸ isOpen)

def wrongAttemptsIn (invites : Table PortalInvite) (id : Nat) : Nat :=
  ((invites.find? id).map PortalInvite.wrongAttempts).getD 0

theorem wrongAttemptsIn_create (invites : Table PortalInvite) (id : Nat)
    (zero : invite.wrongAttempts = 0) :
    wrongAttemptsIn (invites.create invite) id = wrongAttemptsIn invites id := by
  unfold wrongAttemptsIn
  rw [Table.find?_create]
  split
  · rename_i fresh
    rw [fresh, Table.find?_nextId]
    exact zero
  · rfl

theorem wrongAttemptsIn_consumed (invites : Table PortalInvite) (claimed now id : Nat) :
    wrongAttemptsIn (invites.modify claimed (PortalInvite.consumed now)) id =
      wrongAttemptsIn invites id := by
  unfold wrongAttemptsIn
  rw [Table.find?_modify]
  split
  · rw [Option.map_map]
    rfl
  · rfl

theorem wrongAttemptsIn_struck {invites : Table PortalInvite} {struck : Nat} (now id : Nat)
    (found : invites.find? struck = some invite) :
    wrongAttemptsIn (invites.modify struck (PortalInvite.struck now)) id =
      wrongAttemptsIn invites id + if struck = id then 1 else 0 := by
  unfold wrongAttemptsIn
  rw [Table.find?_modify]
  by_cases mine : id = struck
  · rw [if_pos mine, if_pos mine.symm, mine, found]
    rfl
  · rw [if_neg mine, if_neg (Ne.symm mine)]
    rfl

theorem wrongAttemptsIn_step (id : Nat)
    (accepted : InviteSession.exec config input before = .ok after) :
    wrongAttemptsIn after.rows.invites id = wrongAttemptsIn before.rows.invites id +
      if recordsWrongToken id ⟨before, input, after⟩ then 1 else 0 := by
  have quiet : (∀ struck, before.sessions input.1 ≠ .striking struck) →
      recordsWrongToken id ⟨before, input, after⟩ = false := by
    intro elsewhere
    unfold recordsWrongToken
    split
    · rename_i struck place
      exact absurd place (elsewhere struck)
    · rfl
  obtain ⟨next, store, moved, rfl⟩ := inviteExec_eq_ok accepted
  show wrongAttemptsIn store.invites id = _
  rcases InviteSession.next_cases moved with ⟨new, zero, _, _, _, created, asks⟩ |
    ⟨struck, invite, place, found, isOpen, _, _, counted⟩ |
    ⟨claim, invite, place, _, found, _, claimed⟩ | ⟨same, _, _, refused⟩
  · have elsewhere : ∀ struck, before.sessions input.1 ≠ .striking struck := by
      intro struck place
      rw [place] at asks
      cases asks
    rw [created, wrongAttemptsIn_create _ id zero, quiet elsewhere]
    rfl
  · have stored : before.rows.invites.find? struck = some invite := found
    have records : recordsWrongToken id
        ⟨before, input, ⟨store, update before.sessions input.1 next⟩⟩ = decide (struck = id) := by
      by_cases mine : struck = id
      · subst mine
        simp [recordsWrongToken, place, stored, isOpen]
      · simp [recordsWrongToken, place, mine]
    rw [counted, records, wrongAttemptsIn_struck _ id found]
    simp only [decide_eq_true_eq]
    rfl
  · have elsewhere : ∀ struck, before.sessions input.1 ≠ .striking struck := by
      intro struck other
      rw [place] at other
      cases other
    rw [claimed, wrongAttemptsIn_consumed, quiet elsewhere]
    rfl
  · have silent : recordsWrongToken id
        ⟨before, input, ⟨store, update before.sessions input.1 next⟩⟩ = false := by
      unfold recordsWrongToken
      split
      · rename_i struck place
        by_contra records
        simp only [Bool.not_eq_false, Bool.and_eq_true, beq_iff_eq, Option.any_eq_true] at records
        obtain ⟨rfl, invite, found, isOpen⟩ := records
        exact refused struck place invite found (Option.isNone_iff_eq_none.mp isOpen)
      · rfl
    rw [silent, same]
    rfl

/-- **The count is what has been recorded**: at the end of a run it is the number of the steps that
record a wrong token. -/
theorem wrongAttemptsIn_run (config : InviteConfig) (calls : ι → InviteCall) (store : InviteStore)
    (schedule : List (ι × ResetDraw)) (id : Nat) :
    wrongAttemptsIn (run (InviteSession.exec config) (inviteStart calls store) schedule).rows.invites
        id =
      (steps (InviteSession.exec config) (inviteStart calls store) schedule).countP
        (recordsWrongToken id) := by
  refine history_invariant (fun history (world : InviteWorld ι) =>
    wrongAttemptsIn world.rows.invites id = history.countP (recordsWrongToken id)) ?_ rfl schedule
    fun _ _ => trivial
  intro history input before after counted accepted _
  rw [wrongAttemptsIn_step id accepted, counted, List.countP_append, List.countP_singleton]

theorem invitesKept_run (calls : ι → InviteCall) (store : InviteStore)
    (schedule : List (ι × ResetDraw)) :
    ∀ visited ∈ states (InviteSession.exec config) (inviteStart calls store) schedule,
      InvitesKept calls visited :=
  states_invariant _ (fun _ _ _ kept accepted (_ : True) => kept.step accepted)
    (fun _ _ => trivial) (InvitesKept.start calls store)

/-- **The guesses at an invite are capped.** In any interleaving of requests, with any tokens, an
invite is claimed once at most; its count never exceeds the cap; and once as many wrong tokens as
that have been recorded for it, no request made with it gets past the token check, then or later. -/
theorem invite_guesses_capped (config : InviteConfig) (calls : ι → InviteCall) (store : InviteStore)
    (schedule : List (ι × ResetDraw)) :
    ((steps (InviteSession.exec config) (inviteStart calls store) schedule).Pairwise
      fun first second => ∀ id, ClaimsInvite id first → ¬ClaimsInvite id second) ∧
    (∀ visited ∈ states (InviteSession.exec config) (inviteStart calls store) schedule,
      ∀ id invite, visited.rows.invites.find? id = some invite →
        invite.wrongAttempts ≤ inviteWrongAttemptCap) ∧
    ∀ id earlier later,
      inviteWrongAttemptCap ≤ (steps (InviteSession.exec config) (inviteStart calls store)
        earlier).countP (recordsWrongToken id) →
      ∀ visited ∈ states (InviteSession.exec config)
          (run (InviteSession.exec config) (inviteStart calls store) earlier) later,
        ∀ session dto, calls session = .consumeInvite id dto →
          (visited.sessions session).hasClaimed = false := by
  refine ⟨?_, ?_, ?_⟩
  · refine @pairwise_steps _ _ _ _ Nat (fun _ => True) (fun _ => True) InviteClosed ClaimsInvite
      ClaimsInvite (fun _ _ _ _ _ => trivial) (fun _ _ _ _ _ accepted _ claims =>
        claims.closed accepted) ?_ (fun _ _ _ _ accepted closed => closed.not_claims accepted)
      _ schedule trivial fun _ _ => trivial
    rintro id input before after _ accepted ⟨invite, found, closed⟩
    exact ⟨invite, InviteClosed.step accepted found closed, closed⟩
  · intro visited member id invite found
    exact ((invitesKept_run calls store schedule visited member).within id invite found).1
  · intro id earlier later reached visited member session dto called
    obtain ⟨more, rfl⟩ := (mem_states member).exists_run
    rw [← run_append]
    by_contra claims
    obtain ⟨invite, found, _, below⟩ := (invitesKept_run calls store (earlier ++ more) _
      (run_mem_states _ _)).claimed session id dto called (by simpa using claims)
    -- what has been recorded is the count of the invite
    have counted := wrongAttemptsIn_run config calls store (earlier ++ more) id
    rw [steps_append, List.countP_append, wrongAttemptsIn, found] at counted
    have counted : invite.wrongAttempts = _ := counted
    omega

end Steps

def portalConfig : InviteConfig where
  hashToken := id
  verify := fun hash password => hash == password
  surface := .portal

def invitingCompany : InviteStore where
  now := 0
  db := { smallCompany with
    roles := smallCompany.roles.create
      { companyId := 0, name := "Customer", slug := "customer", isSystem := true, isPortal := true } }
  applicants := Table.empty.create
    { companyId := 0, name := "Customer", email := some "customer", phone := "1" }

end OpenEstate
