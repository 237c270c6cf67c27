/-
**Recovery codes.**

A request to verify a second factor reads the account, reserves an attempt, and checks the code
against what it has read. A recovery code it takes out of the codes it has read, and writes the
remaining ones back. Each of these is a statement of its own, and other requests may commit in
between: if the codes are no longer those that were read, one that was spent comes back, or is spent
twice.

* `TotpSession` is where such a request stands, `TotpSession.move` its next statement;
* `TotpSession.move_cases`: what a statement does to the codes;
* `singleUse_iff`: in which runs recovery codes are for single use;
* `recovery_code_spent_twice`: one in which they are not.
-/

import OpenEstate.Access.InFlight

namespace OpenEstate

open Relational
open Function (update update_self update_of_ne)

/-! ### Requests -/

/-- The configuration of the token service, and how secrets are decrypted and codes verified. -/
structure TotpConfig extends TokenConfig where
  decrypt : String → String
  verify : String → String → Nat → Bool

inductive Surface
  | staff | portal
  deriving DecidableEq

structure VerifyTotpDto where
  code : String
  pendingSurface : Option Surface := none

def maxFailedTotpAttempts : Nat := 5

def totpLockoutMinutes : Nat := 5

namespace User

/-- The attempts of a user with one more reserved: a lock that has run out restarts the count. -/
def totpAttempts (user : User) : Nat :=
  if user.totpLockedUntil = none then user.failedTotpAttempts + 1 else 1

def withTotpAttempt (now : Nat) (user : User) : User :=
  { user with
    failedTotpAttempts := user.totpAttempts
    totpLockedUntil :=
      if maxFailedTotpAttempts ≤ user.totpAttempts then some (now + totpLockoutMinutes * 60 * 1000)
      else none }

def totpAttemptsCleared (user : User) : User :=
  { user with failedTotpAttempts := 0, totpLockedUntil := none }

def withRecoveryCodes (recoveryCodes : List String) (user : User) : User :=
  { user.totpAttemptsCleared with recoveryCodes }

end User

/-- Where a request stands between its statements. One that has been let through goes on with the
recovery code it has spent, if it was not a code of the authenticator. -/
inductive TotpSession
  | verifying (dto : VerifyTotpDto)
  | reserving (account : Account) (code : String)
  | checking (account : Account) (code : String)
  | signing (spent : Option String) (account : Account)
  | issuing (spent : Option String) (token : AccessToken)
  | loggedIn (spent : Option String) (tokens : SignedIn)
  | refused (spent : Option String) (error : ServiceError)

/-! ### The service -/

def reserveTotpAttempt (now userId : Nat) (db : AccessDb) : Option AccessDb :=
  match db.users.find? userId with
  | some user =>
    if user.totpLockedUntil.all (· ≤ now) then some (db.updateUser userId (User.withTotpAttempt now))
    else none
  | none => none

def totpLockedMessage : String :=
  "Too many incorrect codes. Wait a few minutes, then sign in again."

namespace AuthService

/-- What is checked of a request and of its account, before any code is looked at. -/
def checkTotpAccount (dto : VerifyTotpDto) (found : Option Account) :
    Except ServiceError Account := do
  ensure (∀ surface ∈ dto.pendingSurface, surface = .staff)
    (.forbidden "This session type may not access this route.")
  let account ← orThrow found (.error "No record was found for a query.")
  ensure (account.isPortal = false) invalidCredentials
  ensure (account.user.needsTwoFactor = true) (.badRequest "2FA not enabled")
  return account

variable (config : TotpConfig) (draw : TokenDraw)

/-- Whether a code is one of the authenticator's, by the secret that was read. -/
def isTotpCode (account : Account) (code : String) : Bool :=
  config.verify (config.decrypt (account.user.totpSecret.getD "")) code draw.judgedAt

/-- The code is checked against the account that was read, and what remains is written. -/
def verifyCode (account : Account) (code : String) (db : AccessDb) : TotpSession × AccessDb :=
  if isTotpCode config draw account code then
    (.signing none account, db.updateUser account.id User.totpAttemptsCleared)
  else if code ∈ account.user.recoveryCodes then
    (.signing (some code) account, db.updateUser account.id
      (User.withRecoveryCodes (account.user.recoveryCodes.erase code)))
  else (.refused none (.unauthorized "Invalid TOTP code"), db)

end AuthService

def TotpSession.move (config : TotpConfig) (userId : Nat) (draw : TokenDraw) :
    TotpSession → AccessDb → Option (TotpSession × AccessDb)
  | .verifying dto, db =>
    match AuthService.checkTotpAccount dto (db.accountOf userId) with
    | .ok account => some (.reserving account dto.code, db)
    | .error error => some (.refused none error, db)
  | .reserving account code, db =>
    match reserveTotpAttempt draw.comparedAt account.id db with
    | some after => some (.checking account code, after)
    | none => some (.refused none (.tooManyRequests totpLockedMessage), db)
  | .checking account code, db => some (AuthService.verifyCode config draw account code db)
  | .signing spent account, db =>
    match db.users.find? account.id with
    | some now => some (.issuing spent (account.accessToken now.authzVersion), db)
    | none =>
      some (.refused spent (.error "Cannot issue a token for a user that does not exist"), db)
  | .issuing spent token, db =>
    match (TokenService.createRefreshToken config.toTokenConfig draw token.sub none none).run db with
    | .ok (issued, after) => some (.loggedIn spent ⟨token, issued.raw, issued.expiresAt⟩, after)
    | .error error => some (.refused spent error, db)
  | _, _ => none

abbrev TotpWorld (ι : Type) : Type := Shared ι AccessDb TotpSession

def TotpSession.exec {ι : Type} [DecidableEq ι] (config : TotpConfig) (userId : Nat)
    (input : ι × TokenDraw) (world : TotpWorld ι) : Except Unit (TotpWorld ι) :=
  Shared.exec (TotpSession.move config userId input.2) input.1 world

def totpStart {ι : Type} (requests : ι → VerifyTotpDto) (rows : AccessDb) : TotpWorld ι where
  rows
  sessions := fun session => .verifying (requests session)

/-! ### Codes -/

def AccessDb.storedCodes (db : AccessDb) (userId : Nat) : Option (List String) :=
  (db.users.find? userId).map User.recoveryCodes

namespace TotpSession

/-- The user whose codes a request has read and may still write, with the codes. -/
def seen : TotpSession → Option (Nat × List String)
  | .reserving account _ | .checking account _ => some (account.id, account.user.recoveryCodes)
  | _ => none

/-- The recovery code that a request has spent: it has been let through with it. -/
def spent : TotpSession → Option String
  | .signing spent _ | .issuing spent _ | .loggedIn spent _ | .refused spent _ => spent
  | _ => none

/-- A request that is about to write the codes that remain without the one it presents. -/
def Spends (config : TotpConfig) (draw : TokenDraw) (account : Account) (code : String)
    (session : TotpSession) : Prop :=
  session = .checking account code ∧ AuthService.isTotpCode config draw account code = false ∧
    code ∈ account.user.recoveryCodes

end TotpSession

section Codes

variable {db after : AccessDb} {userId : Nat}

theorem storedCodes_updateUser_of_same (id : Nat) {change : User → User}
    (same : ∀ user, (change user).recoveryCodes = user.recoveryCodes) :
    (db.updateUser id change).storedCodes userId = db.storedCodes userId := by
  show ((db.users.modify id change).find? userId).map User.recoveryCodes = _
  rw [Table.find?_modify]
  split
  · rw [Option.map_map]
    congr 1
    funext user
    exact same user
  · rfl

theorem storedCodes_withRecoveryCodes {codes stored : List String}
    (present : db.storedCodes userId = some stored) :
    (db.updateUser userId (User.withRecoveryCodes codes)).storedCodes userId = some codes := by
  obtain ⟨user, found, _⟩ := Option.map_eq_some_iff.mp present
  rw [AccessDb.storedCodes, AccessDb.find?_updateUser_self found]
  rfl

theorem storedCodes_reserve {now id : Nat} (reserved : reserveTotpAttempt now id db = some after) :
    after.storedCodes userId = db.storedCodes userId := by
  unfold reserveTotpAttempt at reserved
  split at reserved
  · split at reserved
    · cases reserved
      exact storedCodes_updateUser_of_same id fun _ => rfl
    · cases reserved
  · cases reserved

theorem eq_of_checkTotpAccount {dto : VerifyTotpDto} {found : Option Account} {account : Account}
    (checked : AuthService.checkTotpAccount dto found = .ok account) : found = some account := by
  obtain ⟨_, _, checked⟩ := bind_eq_ok.mp checked
  obtain ⟨value, isFound, checked⟩ := bind_eq_ok.mp checked
  obtain ⟨_, _, checked⟩ := bind_eq_ok.mp checked
  obtain ⟨_, _, checked⟩ := bind_eq_ok.mp checked
  cases checked
  exact orThrow_eq_ok.mp isFound

theorem storedCodes_of_accountOf {account : Account} (found : db.accountOf userId = some account) :
    account.id = userId ∧ db.storedCodes userId = some account.user.recoveryCodes := by
  obtain ⟨user, present, found⟩ := Option.bind_eq_some_iff.mp found
  obtain ⟨role, _, found⟩ := Option.bind_eq_some_iff.mp found
  cases found
  refine ⟨rfl, ?_⟩
  rw [AccessDb.storedCodes, present]
  rfl

theorem TotpSession.move_cases {config : TotpConfig} {draw : TokenDraw} {session next : TotpSession}
    (moved : session.move config userId draw db = some (next, after)) :
    (∃ account code, session.Spends config draw account code ∧
      next = .signing (some code) account ∧ after = db.updateUser account.id
        (User.withRecoveryCodes (account.user.recoveryCodes.erase code))) ∨
    (∀ id, after.storedCodes id = db.storedCodes id) ∧
      (∀ account code, ¬session.Spends config draw account code) ∧
      next.spent = session.spent ∧
      ∀ read, next.seen = some read → session.seen = some read ∨
        read.1 = userId ∧ db.storedCodes userId = some read.2 := by
  have spendsNot : (∀ account code, session ≠ .checking account code) →
      ∀ account code, ¬session.Spends config draw account code :=
    fun differs account code spends => differs account code spends.1
  cases session with
  | verifying dto =>
    refine Or.inr ⟨?_, spendsNot (fun _ _ same => by cases same), ?_⟩ <;> simp only [TotpSession.move] at moved
    · split at moved <;> cases moved <;> exact fun _ => rfl
    · split at moved
      · rename_i account checked
        cases moved
        refine ⟨rfl, fun read same => Or.inr ?_⟩
        cases same
        exact storedCodes_of_accountOf (eq_of_checkTotpAccount checked)
      · cases moved
        exact ⟨rfl, nofun⟩
  | reserving account code =>
    refine Or.inr ⟨?_, spendsNot (fun _ _ same => by cases same), ?_⟩ <;> simp only [TotpSession.move] at moved
    · split at moved
      · rename_i reserved
        cases moved
        exact fun _ => storedCodes_reserve reserved
      · cases moved
        exact fun _ => rfl
    · split at moved <;> cases moved
      · exact ⟨rfl, fun read same => Or.inl same⟩
      · exact ⟨rfl, nofun⟩
  | checking account code =>
    simp only [TotpSession.move, Option.some.injEq, AuthService.verifyCode] at moved
    split at moved
    · rename_i isTotp
      cases moved
      refine Or.inr ⟨fun _ => storedCodes_updateUser_of_same _ fun _ => rfl, ?_, rfl, nofun⟩
      intro other presented ⟨same, isNot, _⟩
      cases same
      rw [isTotp] at isNot
      cases isNot
    · rename_i isNot
      split at moved
      · rename_i member
        cases moved
        exact Or.inl ⟨account, code, ⟨rfl, eq_false_of_ne_true isNot, member⟩, rfl, rfl⟩
      · rename_i absent
        cases moved
        refine Or.inr ⟨fun _ => rfl, ?_, rfl, nofun⟩
        intro other presented ⟨same, _, member⟩
        cases same
        exact absent member
  | signing spent account =>
    refine Or.inr ⟨?_, spendsNot (fun _ _ same => by cases same), ?_⟩ <;> simp only [TotpSession.move] at moved
    · split at moved <;> cases moved <;> exact fun _ => rfl
    · split at moved <;> cases moved <;> exact ⟨rfl, nofun⟩
  | issuing spent token =>
    refine Or.inr ⟨?_, spendsNot (fun _ _ same => by cases same), ?_⟩ <;> simp only [TotpSession.move] at moved
    · split at moved
      · rename_i ran
        cases moved
        cases ran
        exact fun _ => rfl
      · cases moved
        exact fun _ => rfl
    · split at moved <;> cases moved <;> exact ⟨rfl, nofun⟩
  | loggedIn spent tokens => cases moved
  | refused spent error => cases moved

end Codes

/-! ### Runs -/

section Runs

variable {ι : Type} [DecidableEq ι] (config : TotpConfig) (userId : Nat)

/-- **Recovery codes are for single use**: no two requests have been let through with the same one,
and none that was spent is stored. -/
structure SingleUse (world : TotpWorld ι) : Prop where
  once : ∀ first second code, (world.sessions first).spent = some code →
    (world.sessions second).spent = some code → first = second
  gone : ∀ session code stored, (world.sessions session).spent = some code →
    world.rows.storedCodes userId = some stored → code ∉ stored

/-- Whether a request that spends a code finds the codes it has read still stored. -/
def FindsItsCodes (step : Step (TotpWorld ι) (ι × TokenDraw)) : Prop :=
  ∀ account code, (step.before.sessions step.input.1).Spends config step.input.2 account code →
    step.before.rows.storedCodes userId = some account.user.recoveryCodes

/-- What is kept as long as every request finds its codes: no code is stored twice, and what a
request has read and no longer is stored has been spent. -/
structure CodesKept (world : TotpWorld ι) : Prop extends SingleUse userId world where
  nodup : ∀ stored, world.rows.storedCodes userId = some stored → stored.Nodup
  seen : ∀ session read, (world.sessions session).seen = some read → read.1 = userId ∧
    read.2.Nodup ∧ ∃ stored, world.rows.storedCodes userId = some stored ∧
      stored.Sublist read.2 ∧ ∀ code ∈ read.2, code ∉ stored →
        ∃ spender, (world.sessions spender).spent = some code

variable {config userId}

omit [DecidableEq ι] in
theorem CodesKept.start (requests : ι → VerifyTotpDto) {rows : AccessDb}
    (distinct : ∀ stored, rows.storedCodes userId = some stored → stored.Nodup) :
    CodesKept userId (totpStart requests rows) :=
  ⟨⟨nofun, nofun⟩, distinct, nofun⟩

variable {input : ι × TokenDraw} {before after : TotpWorld ι}

omit [DecidableEq ι] in
theorem CodesKept.stored_of_unspent {world : TotpWorld ι} (kept : CodesKept userId world)
    {session : ι} {read : Nat × List String} (seen : (world.sessions session).seen = some read)
    (unspent : ∀ code ∈ read.2, ∀ stored, world.rows.storedCodes userId = some stored →
      (∃ spender, (world.sessions spender).spent = some code) → code ∈ stored) :
    world.rows.storedCodes userId = some read.2 := by
  obtain ⟨_, distinct, stored, present, sublist, others⟩ := kept.seen session read seen
  have all : read.2 ⊆ stored := by
    intro code member
    by_contra absent
    exact absent (unspent code member stored present (others code member absent))
  have same : stored = read.2 :=
    sublist.eq_of_length_le (distinct.subperm all).length_le
  rw [present, same]

omit [DecidableEq ι] in
/-- What a request that spends a code leaves: its own code spent, and what it has read of the codes
stored but for that one. -/
theorem spent_step {account : Account} {code : String} {rows : AccessDb}
    (kept : CodesKept userId before)
    (spends : (before.sessions input.1).Spends config input.2 account code)
    (is : rows = before.rows.updateUser account.id
      (User.withRecoveryCodes (account.user.recoveryCodes.erase code))) :
    (before.sessions input.1).seen = some (userId, account.user.recoveryCodes) ∧
      (before.sessions input.1).spent = none ∧
      rows.storedCodes userId = some (account.user.recoveryCodes.erase code) := by
  have seen : (before.sessions input.1).seen = some (account.id, account.user.recoveryCodes) := by
    rw [spends.1]
    rfl
  obtain ⟨mine, _, stored, present, _⟩ := kept.seen input.1 _ seen
  have mine : account.id = userId := mine
  subst is
  rw [mine] at seen ⊢
  refine ⟨seen, ?_, storedCodes_withRecoveryCodes present⟩
  rw [spends.1]
  rfl

theorem CodesKept.step (kept : CodesKept userId before)
    (accepted : TotpSession.exec config userId input before = .ok after)
    (finds : FindsItsCodes config userId ⟨before, input, after⟩) : CodesKept userId after := by
  obtain ⟨next, rows, moved, rfl⟩ := Shared.exec_eq_ok.mp accepted
  rcases TotpSession.move_cases moved with ⟨account, code, spends, rfl, is⟩ |
    ⟨stays, _, spent, reads⟩
  · obtain ⟨_, unspent, written⟩ := spent_step kept spends is
    have present : before.rows.storedCodes userId = some account.user.recoveryCodes :=
      finds account code spends
    have distinct := kept.nodup _ present
    have others : ∀ session other, session ≠ input.1 →
        (before.sessions session).spent = some other → other ∉ account.user.recoveryCodes :=
      fun session other _ by_ => kept.gone session other _ by_ present
    refine ⟨⟨fun first second other first_ second_ => ?_, fun session other stored by_ is => ?_⟩,
      fun stored is => ?_, fun session read seen => ?_⟩
    · by_cases mine : first = input.1 <;> by_cases yours : second = input.1
      · rw [mine, yours]
      · simp only [mine, update_self, update_of_ne yours] at first_ second_
        cases first_
        exact absurd spends.2.2 (others second code yours second_)
      · simp only [yours, update_self, update_of_ne mine] at first_ second_
        cases second_
        exact absurd spends.2.2 (others first code mine first_)
      · simp only [update_of_ne mine, update_of_ne yours] at first_ second_
        exact kept.once first second other first_ second_
    · obtain rfl : account.user.recoveryCodes.erase code = stored :=
        Option.some.inj (written.symm.trans is)
      by_cases mine : session = input.1
      · simp only [mine, update_self] at by_
        cases by_
        exact distinct.not_mem_erase
      · simp only [update_of_ne mine] at by_
        exact fun member => others session other mine by_ (List.mem_of_mem_erase member)
    · obtain rfl : account.user.recoveryCodes.erase code = stored :=
        Option.some.inj (written.symm.trans is)
      exact distinct.erase code
    · by_cases mine : session = input.1
      · simp only [mine, update_self] at seen
        cases seen
      · simp only [update_of_ne mine] at seen
        obtain ⟨same, nodup, stored, was, sublist, rest⟩ := kept.seen session read seen
        obtain rfl : stored = account.user.recoveryCodes :=
          Option.some.inj (was.symm.trans present)
        refine ⟨same, nodup, _, written, List.erase_sublist.trans sublist,
          fun other member absent => ?_⟩
        by_cases same : other = code
        · refine ⟨input.1, ?_⟩
          simp only [update_self, same]
          rfl
        · have gone : other ∉ account.user.recoveryCodes :=
            fun present => absent ((List.mem_erase_of_ne same).mpr present)
          obtain ⟨spender, by_⟩ := rest other member gone
          refine ⟨spender, ?_⟩
          have differs : spender ≠ input.1 := by
            rintro rfl
            rw [unspent] at by_
            cases by_
          simp only [update_of_ne differs]
          exact by_
  · -- nothing is spent, and nothing is written
    have same : ∀ session,
        (update before.sessions input.1 next session).spent = (before.sessions session).spent := by
      intro session
      by_cases mine : session = input.1
      · rw [mine, update_self, spent]
      · rw [update_of_ne mine]
    refine ⟨⟨fun first second code first_ second_ => ?_, fun session code stored by_ is => ?_⟩,
      fun stored is => ?_, fun session read seen => ?_⟩
    · exact kept.once first second code ((same first).symm.trans first_)
        ((same second).symm.trans second_)
    · exact kept.gone session code stored ((same session).symm.trans by_) ((stays userId).symm.trans is)
    · exact kept.nodup stored ((stays userId).symm.trans is)
    · have spenders : ∀ code, (∃ spender, (before.sessions spender).spent = some code) →
          ∃ spender, (update before.sessions input.1 next spender).spent = some code :=
        fun code ⟨spender, by_⟩ => ⟨spender, (same spender).trans by_⟩
      have old : (∃ reader, (before.sessions reader).seen = some read) → read.1 = userId ∧
          read.2.Nodup ∧ ∃ stored, rows.storedCodes userId = some stored ∧
            stored.Sublist read.2 ∧ ∀ code ∈ read.2, code ∉ stored →
              ∃ spender, (update before.sessions input.1 next spender).spent = some code := by
        rintro ⟨reader, seen⟩
        obtain ⟨mine, nodup, stored, present, sublist, rest⟩ := kept.seen reader read seen
        exact ⟨mine, nodup, stored, (stays userId).trans present, sublist,
          fun code member absent => spenders code (rest code member absent)⟩
      by_cases mine : session = input.1
      · simp only [mine, update_self] at seen
        rcases reads read seen with earlier | ⟨is, present⟩
        · exact old ⟨input.1, earlier⟩
        · exact ⟨is, kept.nodup _ present, read.2, (stays userId).trans present, .refl _,
            fun code member absent => absurd member absent⟩
      · simp only [update_of_ne mine] at seen
        exact old ⟨session, seen⟩

theorem FindsItsCodes.of_singleUse (kept : CodesKept userId before)
    (accepted : TotpSession.exec config userId input before = .ok after)
    (holds : SingleUse userId after) : FindsItsCodes config userId ⟨before, input, after⟩ := by
  obtain ⟨next, rows, moved, rfl⟩ := Shared.exec_eq_ok.mp accepted
  intro account code spends
  rcases TotpSession.move_cases moved with ⟨other, presented, spent, rfl, is⟩ | ⟨_, never, _⟩
  · have same := spends.1.symm.trans spent.1
    cases same
    obtain ⟨seen, unspent, written⟩ := spent_step kept spends is
    refine kept.stored_of_unspent seen fun restored member stored _ ⟨spender, by_⟩ => ?_
    -- a code that was spent since comes back, or is spent a second time
    exfalso
    have differs : spender ≠ input.1 := by
      rintro rfl
      rw [unspent] at by_
      cases by_
    have still : (update before.sessions input.1 (.signing (some code) account) spender).spent =
        some restored := by
      rw [update_of_ne differs]
      exact by_
    by_cases twice : restored = code
    · have mine : (update before.sessions input.1 (.signing (some code) account) input.1).spent =
          some restored := by
        rw [update_self, twice]
        rfl
      exact differs (holds.once spender input.1 restored still mine)
    · exact holds.gone spender restored _ still written ((List.mem_erase_of_ne twice).mpr member)
  · exact absurd spends (never account code)

/-- **When recovery codes are for single use.** In a run of requests of one user, whose stored codes
are distinct, no code is spent twice and none that was spent is stored again if and only if every
request that spends a code finds the codes it has read still stored. -/
theorem singleUse_iff (config : TotpConfig) (userId : Nat) (requests : ι → VerifyTotpDto)
    {rows : AccessDb}
    (distinct : ∀ stored, rows.storedCodes userId = some stored → stored.Nodup)
    (schedule : List (ι × TokenDraw)) :
    (∀ visited ∈ states (TotpSession.exec config userId) (totpStart requests rows) schedule,
      SingleUse userId visited) ↔
      ∀ step ∈ steps (TotpSession.exec config userId) (totpStart requests rows) schedule,
        FindsItsCodes config userId step :=
  forall_states_iff_of_kept (fun _ _ _ kept accepted finds => kept.step accepted finds)
    (fun _ kept => kept.toSingleUse)
    (fun _ _ _ kept accepted holds => .of_singleUse kept accepted holds) schedule
    (CodesKept.start requests distinct)

end Runs

/-! ### A code spent twice -/

/-- The small company, where the manager has a second factor and two recovery codes. -/
def totpCompany : AccessDb :=
  { smallCompany with
    users := smallCompany.users.modify 1 fun user => { user with
      totpEnabled := true, totpSecret := some "secret", recoveryCodes := ["A1", "B2"] } }

def recoveryConfig : TotpConfig where
  hashToken := id
  decrypt := id
  verify := fun _ _ _ => false

inductive RecoveryRace
  | first | second
  deriving DecidableEq

def recoveryDraw : RecoveryRace → TokenDraw
  | .first => ⟨"raw", 0, 0, 0, 0, 0⟩
  | .second => ⟨"other", 1, 0, 0, 0, 0⟩

def recoverySchedule : List (RecoveryRace × TokenDraw) :=
  [.first, .second, .first, .first, .first, .first, .second, .second, .second, .second].map
    fun request => (request, recoveryDraw request)

def sameCode : RecoveryRace → VerifyTotpDto := fun _ => ⟨"A1", none⟩

def ownCodes : RecoveryRace → VerifyTotpDto
  | .first => ⟨"A1", none⟩
  | .second => ⟨"B2", none⟩

def recoveryEnd (requests : RecoveryRace → VerifyTotpDto) : TotpWorld RecoveryRace :=
  run (TotpSession.exec recoveryConfig 1) (totpStart requests totpCompany) recoverySchedule

def TotpSession.loggedInWith : TotpSession → Option String
  | .loggedIn spent _ => spent
  | _ => none

/-- **A recovery code is for two logins**, if both requests have read it; and if each presents its
own, the one that was spent first is stored again. -/
theorem recovery_code_spent_twice :
    totpCompany.storedCodes 1 = some ["A1", "B2"] ∧
      ((recoveryEnd sameCode).sessions .first).loggedInWith = some "A1" ∧
      ((recoveryEnd sameCode).sessions .second).loggedInWith = some "A1" ∧
      ((recoveryEnd ownCodes).sessions .first).loggedInWith = some "A1" ∧
      (recoveryEnd ownCodes).rows.storedCodes 1 = some ["A1"] := by
  decide

/-- In that run some request does not find its codes. -/
theorem recoverySchedule_overwrites :
    ¬∀ step ∈ steps (TotpSession.exec recoveryConfig 1) (totpStart sameCode totpCompany)
      recoverySchedule, FindsItsCodes recoveryConfig 1 step := by
  intro finds
  have distinct : ∀ stored, totpCompany.storedCodes 1 = some stored → stored.Nodup := by
    intro stored is
    obtain rfl : ["A1", "B2"] = stored := Option.some.inj is
    decide
  have singleUse := (singleUse_iff recoveryConfig 1 sameCode distinct recoverySchedule).mpr finds _
    (run_mem_states _ _)
  have both : RecoveryRace.first = .second := singleUse.once .first .second "A1" (by decide) (by decide)
  cases both

end OpenEstate
