/-
**Locking the second factor.**

A request to verify a second factor reserves an attempt before its code is looked at. The reservation is
one statement, which checks the lock, counts the attempt, and locks the account with the fifth. Requests
on both surfaces share the counter; they run at the same time, and the second factor may be turned off
or reset in between.

* `FactorSession` is where a request stands, `FactorSession.move` its next statement;
* `FactorInput.exec_effect`: what a step does to the counter of an account;
* `totp_guesses_bounded`: how many codes are compared, and what becomes of the other attempts.
-/

import OpenEstate.Access.TwoFactor
import OpenEstate.Relational.Limiter

namespace OpenEstate

open Relational
open Function (update update_self update_of_ne)

/-! ### Requests -/

/-- Where a request to verify a second factor stands between its statements. -/
inductive FactorSession
  | verifying (surface : Surface) (userId : Nat) (dto : VerifyTotpDto)
  | reserving (surface : Surface) (account : Account) (code : String)
  | checking (surface : Surface) (account : Account) (code : String)
  | signing (surface : Surface) (spent : Option String) (account : Account)
  | answered (answer : Except ServiceError TotpAnswer)

structure ClockedStore where
  store : InviteStore
  clock : Nat

def totpLockoutPeriod : Nat := totpLockoutMinutes * 60 * 1000

section Requests

variable (config : SecondFactorConfig) (draw : TotpDraw)

/-- The code is compared with the secret that was read, and with the recovery codes. -/
def compareCode (surface : Surface) (account : Account) (code : String) (db : AccessDb) :
    FactorSession × AccessDb :=
  if AuthService.isTotpCode config.toTotpConfig draw.token account code then
    (.signing surface none account, db.updateUser account.id User.totpAttemptsCleared)
  else if code ∈ account.user.recoveryCodes then
    (.signing surface (some code) account, db.updateUser account.id
      (User.withRecoveryCodes (account.user.recoveryCodes.erase code)))
  else (.answered (.error (.unauthorized "Invalid TOTP code")), db)

def FactorSession.next (now : Nat) : FactorSession → AccessDb → Option (FactorSession × AccessDb)
  | .verifying surface userId dto, db =>
    match checkSecondFactor surface dto (db.accountOf userId) with
    | .ok account => some (.reserving surface account dto.code, db)
    | .error error => some (.answered (.error error), db)
  | .reserving surface account code, db =>
    match reserveTotpAttempt now account.id db with
    | some after => some (.checking surface account code, after)
    | none => some (.answered (.error (.tooManyRequests totpLockedMessage)), db)
  | .checking surface account code, db => some (compareCode config draw surface account code db)
  | .signing surface spent account, db =>
    let through := AuthService.letThrough config draw surface account spent db
    some (.answered through.1, through.2)
  | .answered _, _ => none

/-- The next statement of a request, some time after the last step of any of them. -/
def FactorSession.move (elapsed : Nat) (session : FactorSession) (rows : ClockedStore) :
    Option (FactorSession × ClockedStore) :=
  (session.next config draw (rows.clock + elapsed) rows.store.db).map fun moved =>
    (moved.1, ⟨rows.store.withDb moved.2, rows.clock + elapsed⟩)

end Requests

abbrev FactorWorld (ι : Type) : Type := Shared ι ClockedStore FactorSession

inductive FactorEvent (ι : Type)
  | next (session : ι)
  | call (op : TotpOp)

structure FactorInput (ι : Type) where
  event : FactorEvent ι
  elapsed : Nat
  draw : TotpDraw

def FactorInput.exec {ι : Type} [DecidableEq ι] (config : SecondFactorConfig)
    (input : FactorInput ι) (world : FactorWorld ι) : Except Unit (FactorWorld ι) :=
  match input.event with
  | .next session =>
    Shared.exec (FactorSession.move config input.draw input.elapsed) session world
  | .call (.verifyTotp _ _ _) => .error ()
  | .call op =>
    .ok { world with rows :=
      ⟨world.rows.store.withDb (op.perform config input.draw world.rows.store).2,
        world.rows.clock + input.elapsed⟩ }

structure FactorRequest where
  surface : Surface
  userId : Nat
  dto : VerifyTotpDto

def factorStart {ι : Type} (requests : ι → FactorRequest) (rows : ClockedStore) :
    FactorWorld ι where
  rows
  sessions := fun session =>
    .verifying (requests session).surface (requests session).userId (requests session).dto

/-! ### Attempts -/

def User.totpLimiter (user : User) : Limiter :=
  ⟨user.failedTotpAttempts, user.totpLockedUntil⟩

def AccessDb.totpLimiter (db : AccessDb) (userId : Nat) : Option Limiter :=
  (db.users.find? userId).map User.totpLimiter

abbrev FactorStep (ι : Type) : Type := Step (FactorWorld ι) (FactorInput ι)

namespace FactorSession

/-- Whether the next statement of a request reserves an attempt for a user. -/
def reserves (userId : Nat) : FactorSession → Bool
  | .reserving _ account _ => account.id == userId
  | _ => false

/-- Whether a request is about to compare its code with the secret of a user. -/
def compares (userId : Nat) : FactorSession → Bool
  | .checking _ account _ => account.id == userId
  | _ => false

def stage : FactorSession → Nat
  | .verifying .. => 0
  | .reserving .. => 1
  | .checking .. => 2
  | .signing .. => 3
  | .answered _ => 4

end FactorSession

namespace FactorStep

variable {ι : Type} (userId : Nat) (step : FactorStep ι)

def session? : Option ι :=
  match step.input.event with
  | .next session => some session
  | .call _ => none

def attempt : Option ι :=
  step.session?.filter fun session => (step.before.sessions session).reserves userId

/-- The request whose code is compared with the secret of a user in a step. -/
def comparison : Option ι :=
  step.session?.filter fun session => (step.before.sessions session).compares userId

def InWindow (start : Nat) : Prop :=
  start ≤ step.after.rows.clock ∧ step.after.rows.clock < start + totpLockoutPeriod

instance (start : Nat) : Decidable (step.InWindow start) :=
  inferInstanceAs (Decidable (_ ∧ _))

def Clears : Prop :=
  step.before.rows.store.db.totpLimiter userId ≠ some .zero ∧
    step.after.rows.store.db.totpLimiter userId = some .zero

end FactorStep

section Attempts

variable {ι : Type} [DecidableEq ι] (userId : Nat) (history : List (FactorStep ι))

/-- The requests that have reserved, or tried to reserve, an attempt in a window. -/
def attemptsIn (start : Nat) : List ι :=
  (history.filter fun step => step.InWindow start).filterMap (FactorStep.attempt userId)

def comparisons : List ι :=
  history.filterMap (FactorStep.comparison userId)

/-- **Guesses are bounded.** In a window as long as the lock, in which the counter is not cleared, five
attempts at most have their code compared, each once and after it was reserved. An attempt is let
through exactly if there is no lock, or none that is still to run out; it is refused otherwise, and
its code is never compared. A lock stays until it runs out, and an attempt after it is the first of a
new count. -/
structure GuessesBounded : Prop where
  bounded : ∀ start, (∀ step ∈ history, step.InWindow start → ¬step.Clears userId) →
    ((comparisons userId history).filter fun session =>
      session ∈ attemptsIn userId history start).length ≤ maxFailedTotpAttempts
  once : (comparisons userId history).Nodup
  attempted : ∀ session ∈ comparisons userId history, ∃ step ∈ history,
    step.attempt userId = some session
  letThrough : ∀ step ∈ history, ∀ session ∈ step.attempt userId,
    ∀ limiter ∈ step.before.rows.store.db.totpLimiter userId,
      limiter.Open step.after.rows.clock → (step.after.sessions session).compares userId = true
  refused : ∀ step ∈ history, ∀ session ∈ step.attempt userId,
    ∀ limiter ∈ step.before.rows.store.db.totpLimiter userId,
      ¬limiter.Open step.after.rows.clock →
        step.after.sessions session =
          .answered (.error (.tooManyRequests totpLockedMessage)) ∧
        step.after.rows.store = step.before.rows.store ∧ session ∉ comparisons userId history
  stays : ∀ step ∈ history, ¬step.Clears userId →
    ∀ limiter ∈ step.before.rows.store.db.totpLimiter userId,
      ∀ deadline ∈ limiter.lockedUntil, step.after.rows.clock < deadline →
        step.after.rows.store.db.totpLimiter userId = some limiter
  restarts : ∀ step ∈ history, ∀ session ∈ step.attempt userId,
    ∀ limiter ∈ step.before.rows.store.db.totpLimiter userId,
      ∀ deadline ∈ limiter.lockedUntil, deadline ≤ step.after.rows.clock →
        step.after.rows.store.db.totpLimiter userId = some ⟨1, none⟩

end Attempts

/-! ### What is done to the counters -/

def KeepsOrClears (db after : AccessDb) : Prop :=
  ∀ id, after.totpLimiter id = db.totpLimiter id ∨ after.totpLimiter id = some .zero

namespace KeepsOrClears

variable {db middle after : AccessDb}

theorem refl (db : AccessDb) : KeepsOrClears db db := fun _ => Or.inl rfl

theorem trans (first : KeepsOrClears db middle) (second : KeepsOrClears middle after) :
    KeepsOrClears db after := by
  intro id
  rcases second id with same | cleared
  · exact same ▸ first id
  · exact Or.inr cleared

end KeepsOrClears

theorem AccessDb.totpLimiter_updateUser (db : AccessDb) (id userId : Nat) (change : User → User) :
    (db.updateUser id change).totpLimiter userId = if userId = id then
      (db.users.find? id).map fun user => (change user).totpLimiter else db.totpLimiter userId := by
  unfold AccessDb.totpLimiter
  rw [AccessDb.updateUser, Table.find?_modify]
  split
  · rename_i same
    rw [same, Option.map_map]
    rfl
  · rfl

theorem keepsOrClears_updateUser {db : AccessDb} {id : Nat} {change : User → User}
    (changes : (∀ user, (change user).totpLimiter = user.totpLimiter) ∨
      ∀ user, (change user).totpLimiter = .zero) : KeepsOrClears db (db.updateUser id change) := by
  intro other
  rw [AccessDb.totpLimiter_updateUser]
  split
  · rename_i same
    subst same
    rw [AccessDb.totpLimiter]
    cases db.users.find? other with
    | none => exact Or.inl rfl
    | some user =>
      rcases changes with keeps | clears
      · exact Or.inl (congrArg some (keeps user))
      · exact Or.inr (congrArg some (clears user))
  · exact Or.inl rfl

section Effects

variable {config : SecondFactorConfig} {draw : TotpDraw} {userId : Nat} {db : AccessDb}

theorem endSessions_keepsOrClears (config : TokenConfig) (draw : TokenDraw) (userId : Nat)
    (exceptRawToken : Option String) : (TokenService.endSessions config draw userId
      exceptRawToken).Writes fun write => ∀ db, KeepsOrClears db (write db) := by
  refine .stmt KeepsOrClears.refl fun _ => .bind ?_ fun version => ?_
  · exact .stmt (fun db => keepsOrClears_updateUser (Or.inl fun _ => rfl)) fun _ => .check _
  · refine .bind (.read KeepsOrClears.refl _) fun current => .bind ?_ fun _ => .done _
    exact .updateMany KeepsOrClears.refl fun _ _ _ => Or.inl rfl

theorem endOtherSessions_keepsOrClears (currentRefreshToken : Option String)
    (answer : TotpAnswer) : KeepsOrClears db (AuthService.endOtherSessions config draw userId
      currentRefreshToken answer db).2 := by
  unfold AuthService.endOtherSessions
  split
  · rename_i ran
    exact (endSessions_keepsOrClears _ _ _ _).run_kept
      (fun write each state kept => kept.trans (each state)) (.refl db) ran
  · exact .refl db

theorem keepsOrClears_endOtherSessions {change : User → User} {currentRefreshToken : Option String}
    {answer : TotpAnswer} (changes : (∀ user, (change user).totpLimiter = user.totpLimiter) ∨
      ∀ user, (change user).totpLimiter = .zero) :
    KeepsOrClears db (AuthService.endOtherSessions config draw userId currentRefreshToken answer
      (db.updateUser userId change)).2 :=
  (keepsOrClears_updateUser changes).trans (endOtherSessions_keepsOrClears _ _)

theorem TotpOp.perform_keepsOrClears {op : TotpOp} {store : InviteStore}
    (other : ∀ surface userId dto, op ≠ .verifyTotp surface userId dto) :
    KeepsOrClears store.db (op.perform config draw store).2 := by
  cases op with
  | setupTotp userId =>
    show KeepsOrClears _ (AuthService.setupTotp config draw userId store.db).2
    unfold AuthService.setupTotp
    split
    · exact keepsOrClears_updateUser (Or.inl fun _ => rfl)
    · exact .refl _
  | confirmTotp userId code currentRefreshToken =>
    show KeepsOrClears _
      (AuthService.confirmTotp config draw userId code currentRefreshToken store.db).2
    unfold AuthService.confirmTotp
    split
    · split
      · split
        · exact keepsOrClears_endOtherSessions (Or.inl fun _ => rfl)
        · exact .refl _
      · exact .refl _
    · exact .refl _
  | verifyTotp surface userId dto => exact absurd rfl (other surface userId dto)
  | disableTotp userId currentRefreshToken =>
    show KeepsOrClears _
      (AuthService.disableTotp config draw userId currentRefreshToken store.db).2
    unfold AuthService.disableTotp
    split
    · exact keepsOrClears_endOtherSessions (Or.inr fun _ => rfl)
    · exact .refl _
  | resetTotp companyId userId adminUserId =>
    unfold TotpOp.perform
    dsimp only
    split
    · rename_i ran
      obtain ⟨_, rfl⟩ := UsersService.resetTotp_run ran
      exact keepsOrClears_endOtherSessions (Or.inr fun _ => rfl)
    · exact .refl _
  | adminResetTotp companyId principal =>
    show KeepsOrClears _
      (PortalAuthService.adminResetTotp config draw companyId principal store).2
    unfold PortalAuthService.adminResetTotp
    split
    · split
      · exact keepsOrClears_endOtherSessions (Or.inr fun _ => rfl)
      · exact .refl _
    · exact .refl _

theorem letThrough_keepsOrClears (surface : Surface) (account : Account) (spent : Option String) :
    KeepsOrClears db (AuthService.letThrough config draw surface account spent db).2 := by
  unfold AuthService.letThrough
  split
  · exact fun _ => Or.inl rfl
  · exact .refl db

theorem compareCode_keepsOrClears (surface : Surface) (account : Account) (code : String) :
    KeepsOrClears db (compareCode config draw surface account code db).2 := by
  unfold compareCode
  split
  · exact keepsOrClears_updateUser (Or.inr fun _ => rfl)
  · split
    · exact keepsOrClears_updateUser (Or.inr fun _ => rfl)
    · exact .refl db

/-- **A reservation**: let through, and counted; or refused, and nothing is changed. -/
theorem reserveTotpAttempt_cases (now userId : Nat) (db : AccessDb) :
    (∃ limiter after, reserveTotpAttempt now userId db = some after ∧
      db.totpLimiter userId = some limiter ∧ limiter.Open now ∧
      ∀ id, after.totpLimiter id = if id = userId then
        some (limiter.reserve maxFailedTotpAttempts totpLockoutPeriod now) else db.totpLimiter id) ∨
    reserveTotpAttempt now userId db = none ∧
      ∀ limiter ∈ db.totpLimiter userId, ¬limiter.Open now := by
  unfold reserveTotpAttempt
  cases present : db.users.find? userId with
  | none =>
    refine Or.inr ⟨rfl, fun limiter found => ?_⟩
    rw [AccessDb.totpLimiter, present] at found
    cases found
  | some user =>
    have counter : db.totpLimiter userId = some user.totpLimiter := by
      rw [AccessDb.totpLimiter, present]
      rfl
    have isOpen : user.totpLockedUntil.all (· ≤ now) = true ↔ user.totpLimiter.Open now := by
      simp [Limiter.Open, User.totpLimiter, Option.all_eq_true]
    dsimp only
    split
    · rename_i unlocked
      refine Or.inl ⟨_, _, rfl, counter, isOpen.mp unlocked, fun id => ?_⟩
      rw [AccessDb.totpLimiter_updateUser, present]
      rfl
    · rename_i locked
      refine Or.inr ⟨rfl, fun limiter found => ?_⟩
      cases counter.symm.trans found
      exact fun unlocked => locked (isOpen.mpr unlocked)

end Effects

/-! ### Steps -/

section Steps

variable {ι : Type} [DecidableEq ι] {config : SecondFactorConfig} {input : FactorInput ι}
  {before after : FactorWorld ι} {userId : Nat}

theorem FactorSession.stage_lt {draw : TotpDraw} {now : Nat} {session moved : FactorSession}
    {db written : AccessDb}
    (moves : session.next config draw now db = some (moved, written)) :
    session.stage < moved.stage := by
  cases session with
  | verifying surface userId dto =>
    simp only [FactorSession.next] at moves
    split at moves <;> cases moves <;> simp [FactorSession.stage]
  | reserving surface account code =>
    simp only [FactorSession.next] at moves
    split at moves <;> cases moves <;> simp [FactorSession.stage]
  | checking surface account code =>
    simp only [FactorSession.next, Option.some.injEq, compareCode] at moves
    split at moves
    · cases moves
      simp [FactorSession.stage]
    · split at moves <;> cases moves <;> simp [FactorSession.stage]
  | signing surface spent account =>
    cases moves
    simp [FactorSession.stage]
  | answered answer => cases moves

theorem FactorInput.exec_cases (accepted : input.exec config before = .ok after) :
    (∃ session moved written, input.event = .next session ∧
      (before.sessions session).next config input.draw (before.rows.clock + input.elapsed)
        before.rows.store.db = some (moved, written) ∧
      after = ⟨⟨before.rows.store.withDb written, before.rows.clock + input.elapsed⟩,
        update before.sessions session moved⟩) ∨
    ∃ op, input.event = .call op ∧ after.sessions = before.sessions ∧
      after.rows.clock = before.rows.clock + input.elapsed ∧
      KeepsOrClears before.rows.store.db after.rows.store.db := by
  unfold FactorInput.exec at accepted
  split at accepted
  · rename_i session isNext
    obtain ⟨moved, rows, goes, rfl⟩ := Shared.exec_eq_ok.mp accepted
    obtain ⟨⟨_, written⟩, moves, same⟩ := Option.map_eq_some_iff.mp goes
    cases same
    exact Or.inl ⟨session, _, written, isNext, moves, rfl⟩
  · cases accepted
  · rename_i op isOther isCall
    cases accepted
    refine Or.inr ⟨op, isCall, rfl, rfl, TotpOp.perform_keepsOrClears ?_⟩
    rintro surface userId dto rfl
    exact isOther surface userId dto rfl

theorem FactorInput.exec_clock (accepted : input.exec config before = .ok after) :
    after.rows.clock = before.rows.clock + input.elapsed := by
  rcases input.exec_cases accepted with ⟨_, _, _, _, _, rfl⟩ | ⟨_, _, _, clock, _⟩
  · rfl
  · exact clock

theorem FactorInput.exec_stage (accepted : input.exec config before = .ok after) :
    (∀ session, (before.sessions session).stage ≤ (after.sessions session).stage) ∧
      ∀ session, input.event = .next session →
        (before.sessions session).stage < (after.sessions session).stage := by
  rcases input.exec_cases accepted with
    ⟨session, moved, written, isNext, moves, rfl⟩ | ⟨op, isCall, same, _, _⟩
  · have further : (before.sessions session).stage <
        (update before.sessions session moved session).stage := by
      rw [update_self]
      exact FactorSession.stage_lt moves
    refine ⟨fun other => ?_, fun other isOther => ?_⟩
    · by_cases mine : other = session
      · exact mine ▸ further.le
      · show _ ≤ (update before.sessions session moved other).stage
        rw [update_of_ne mine]
    · cases isNext.symm.trans isOther
      exact further
  · refine ⟨fun session => Nat.le_of_eq (congrArg _ (congrFun same session).symm), ?_⟩
    intro session isNext
    cases isCall.symm.trans isNext

theorem FactorSession.reserves_eq_true {session : FactorSession} : session.reserves userId = true ↔
    ∃ surface account code, account.id = userId ∧ session = .reserving surface account code := by
  cases session <;> simp [FactorSession.reserves]

omit [DecidableEq ι] in
theorem FactorStep.attempt_eq_some {step : FactorStep ι} {session : ι} :
    step.attempt userId = some session ↔ step.input.event = .next session ∧
      ∃ surface account code, account.id = userId ∧
        step.before.sessions session = .reserving surface account code := by
  rw [← FactorSession.reserves_eq_true, FactorStep.attempt, Option.filter_eq_some_iff,
    FactorStep.session?]
  refine and_congr_left fun _ => ?_
  cases step.input.event <;> simp

/-- **An attempt** is let through and counted, or refused, and nothing is changed. -/
theorem FactorInput.exec_attempt (accepted : input.exec config before = .ok after) {session : ι}
    (attempts : FactorStep.attempt userId ⟨before, input, after⟩ = some session) :
    (∃ limiter, before.rows.store.db.totpLimiter userId = some limiter ∧
      limiter.Open after.rows.clock ∧ (after.sessions session).compares userId = true ∧
      after.rows.store.db.totpLimiter userId =
        some (limiter.reserve maxFailedTotpAttempts totpLockoutPeriod after.rows.clock)) ∨
    (∀ limiter ∈ before.rows.store.db.totpLimiter userId, ¬limiter.Open after.rows.clock) ∧
      after.sessions session = .answered (.error (.tooManyRequests totpLockedMessage)) ∧
      after.rows.store = before.rows.store := by
  obtain ⟨isNext, surface, account, code, rfl, stands⟩ := FactorStep.attempt_eq_some.mp attempts
  rcases input.exec_cases accepted with ⟨other, moved, written, isOther, moves, rfl⟩ | ⟨op, isCall, _⟩
  · cases isNext.symm.trans isOther
    have stands : before.sessions session = .reserving surface account code := stands
    rw [stands] at moves
    simp only [FactorSession.next] at moves
    rcases reserveTotpAttempt_cases (before.rows.clock + input.elapsed) account.id
      before.rows.store.db with ⟨limiter, reserved, reserves, found, isOpen, counted⟩ |
        ⟨refuses, locked⟩
    · rw [reserves] at moves
      cases moves
      refine Or.inl ⟨limiter, found, isOpen, ?_, (counted account.id).trans (if_pos rfl)⟩
      show FactorSession.compares account.id (update before.sessions session _ session) = true
      rw [update_self]
      exact beq_self_eq_true account.id
    · rw [refuses] at moves
      cases moves
      exact Or.inr ⟨locked, update_self .., rfl⟩
  · cases isNext.symm.trans isCall

/-- **A step that is no attempt** of a user leaves the counter of the user alone, or clears it. -/
theorem FactorInput.exec_rest (accepted : input.exec config before = .ok after)
    (rest : FactorStep.attempt userId ⟨before, input, after⟩ = none) :
    after.rows.store.db.totpLimiter userId = before.rows.store.db.totpLimiter userId ∨
      after.rows.store.db.totpLimiter userId = some .zero := by
  rcases input.exec_cases accepted with
    ⟨session, moved, written, isNext, moves, rfl⟩ | ⟨op, isCall, _, _, kept⟩
  · cases stands : before.sessions session with
    | verifying surface id dto =>
      rw [stands] at moves
      simp only [FactorSession.next] at moves
      split at moves <;> cases moves <;> exact Or.inl rfl
    | reserving surface account code =>
      have other : userId ≠ account.id := by
        rintro rfl
        cases rest.symm.trans (FactorStep.attempt_eq_some.mpr
          ⟨isNext, surface, account, code, rfl, stands⟩)
      rw [stands] at moves
      simp only [FactorSession.next] at moves
      rcases reserveTotpAttempt_cases (before.rows.clock + input.elapsed) account.id
        before.rows.store.db with ⟨limiter, reserved, reserves, _, _, counted⟩ | ⟨refuses, _⟩
      · rw [reserves] at moves
        cases moves
        exact Or.inl ((counted userId).trans (if_neg other))
      · rw [refuses] at moves
        cases moves
        exact Or.inl rfl
    | checking surface account code =>
      rw [stands] at moves
      have written : (compareCode config input.draw surface account code
          before.rows.store.db).2 = written := congrArg Prod.snd (Option.some.inj moves)
      exact written ▸ compareCode_keepsOrClears surface account code userId
    | signing surface spent account =>
      rw [stands] at moves
      cases moves
      exact letThrough_keepsOrClears surface account spent userId
    | answered answer =>
      rw [stands] at moves
      cases moves
  · exact kept userId

end Steps

/-! ### Histories -/

section Histories

variable {ι : Type} [DecidableEq ι] {config : SecondFactorConfig} {userId start : Nat}
  {history : List (FactorStep ι)} {step : FactorStep ι} {session : ι}

omit [DecidableEq ι] in
theorem FactorStep.attempt_stage (attempts : step.attempt userId = some session) :
    step.input.event = .next session ∧ (step.before.sessions session).stage = 1 := by
  obtain ⟨isNext, surface, account, code, _, stands⟩ := FactorStep.attempt_eq_some.mp attempts
  exact ⟨isNext, by rw [stands]; rfl⟩

omit [DecidableEq ι] in
theorem FactorStep.comparison_eq_some : step.comparison userId = some session ↔
    step.input.event = .next session ∧ (step.before.sessions session).compares userId = true := by
  rw [FactorStep.comparison, Option.filter_eq_some_iff, FactorStep.session?]
  refine and_congr_left fun _ => ?_
  cases step.input.event <;> simp

theorem FactorSession.stage_of_compares {session : FactorSession}
    (compares : session.compares userId = true) : session.stage = 2 := by
  cases session <;> simp_all [FactorSession.compares, FactorSession.stage]

omit [DecidableEq ι] in
theorem mem_comparisons : session ∈ comparisons userId history ↔
    ∃ step ∈ history, step.comparison userId = some session :=
  List.mem_filterMap

def FactorStep.Precedes (first second : FactorStep ι) : Prop :=
  ∀ session, first.input.event = .next session →
    (first.after.sessions session).stage ≤ (second.before.sessions session).stage

structure FactorKept (config : SecondFactorConfig) (userId : Nat) (history : List (FactorStep ι))
    (world : FactorWorld ι) : Prop where
  accepted : ∀ step ∈ history, step.input.exec config step.before = .ok step.after
  inOrder : history.Pairwise FactorStep.Precedes
  reached : ∀ step ∈ history, ∀ session, step.input.event = .next session →
    (step.after.sessions session).stage ≤ (world.sessions session).stage
  reserved : ∀ session, (world.sessions session).compares userId = true →
    ∃ step ∈ history, step.attempt userId = some session
  attempted : ∀ session ∈ comparisons userId history, ∃ step ∈ history,
    step.attempt userId = some session
  past : ∀ step ∈ history, step.after.rows.clock ≤ world.rows.clock

variable {input : FactorInput ι} {before after : FactorWorld ι}

theorem FactorInput.exec_compares (accepted : input.exec config before = .ok after)
    (compares : (after.sessions session).compares userId = true) :
    (before.sessions session).compares userId = true ∨
      FactorStep.attempt userId ⟨before, input, after⟩ = some session := by
  rcases input.exec_cases accepted with
    ⟨other, moved, written, isNext, moves, rfl⟩ | ⟨op, isCall, same, _, _⟩
  · by_cases mine : session = other
    · subst mine
      have isMoved : moved.compares userId = true := by
        have compares : (update before.sessions session moved session).compares userId = true :=
          compares
        rwa [update_self] at compares
      cases stands : before.sessions session with
      | reserving surface account code =>
        right
        refine FactorStep.attempt_eq_some.mpr ⟨isNext, surface, account, code, ?_, stands⟩
        rw [stands] at moves
        simp only [FactorSession.next] at moves
        split at moves
        · cases moves
          exact beq_iff_eq.mp isMoved
        · cases moves
          cases isMoved
      | checking surface account code =>
        have further := FactorSession.stage_lt moves
        rw [stands, FactorSession.stage_of_compares isMoved] at further
        exact absurd further (Nat.lt_irrefl 2)
      | verifying surface id dto =>
        rw [stands] at moves
        simp only [FactorSession.next] at moves
        split at moves <;> cases moves <;> cases isMoved
      | signing surface spent account =>
        rw [stands] at moves
        cases moves
        cases isMoved
      | answered answer =>
        rw [stands] at moves
        cases moves
    · have compares : (update before.sessions other moved session).compares userId = true := compares
      rw [update_of_ne mine] at compares
      exact Or.inl compares
  · exact Or.inl (same ▸ compares)

theorem FactorKept.initial (requests : ι → FactorRequest) (rows : ClockedStore) :
    FactorKept config userId [] (factorStart requests rows) where
  accepted := List.forall_mem_nil _
  inOrder := .nil
  reached := List.forall_mem_nil _
  reserved _ compares := by cases compares
  attempted := List.forall_mem_nil _
  past := List.forall_mem_nil _

theorem FactorKept.snoc {input : FactorInput ι} {before after : FactorWorld ι}
    (kept : FactorKept config userId history before)
    (accepted : input.exec config before = .ok after) :
    FactorKept config userId (history ++ [⟨before, input, after⟩]) after := by
  obtain ⟨further, _⟩ := input.exec_stage accepted
  have later : before.rows.clock ≤ after.rows.clock := by
    rw [input.exec_clock accepted]
    exact Nat.le_add_right _ _
  have stays : ∀ {session}, (∃ step ∈ history, step.attempt userId = some session) →
      ∃ step ∈ history ++ [⟨before, input, after⟩], step.attempt userId = some session :=
    fun ⟨step, member, attempts⟩ => ⟨step, List.mem_append_left _ member, attempts⟩
  refine ⟨?_, ?_, ?_, fun session compares => ?_, fun session compared => ?_, ?_⟩
  · exact List.forall_mem_append.mpr ⟨kept.accepted, List.forall_mem_singleton.mpr accepted⟩
  · refine List.pairwise_append.mpr ⟨kept.inOrder, List.pairwise_singleton _ _, ?_⟩
    intro step member last isLast session isNext
    obtain rfl := List.mem_singleton.mp isLast
    exact kept.reached step member session isNext
  · refine List.forall_mem_append.mpr ⟨fun step member session isNext =>
      (kept.reached step member session isNext).trans (further session), ?_⟩
    exact List.forall_mem_singleton.mpr fun session _ => Nat.le_refl _
  · rcases input.exec_compares accepted compares with before_ | attempts
    · exact stays (kept.reserved session before_)
    · exact ⟨_, List.mem_append_right _ List.mem_cons_self, attempts⟩
  · rw [mem_comparisons] at compared
    obtain ⟨step, member, compares⟩ := compared
    rcases List.mem_append.mp member with earlier | isLast
    · exact stays (kept.attempted session (mem_comparisons.mpr ⟨step, earlier, compares⟩))
    · obtain rfl := List.mem_singleton.mp isLast
      exact stays (kept.reserved session (FactorStep.comparison_eq_some.mp compares).2)
  · exact List.forall_mem_append.mpr ⟨fun step member => (kept.past step member).trans later,
      List.forall_mem_singleton.mpr (Nat.le_refl _)⟩

variable {world : FactorWorld ι}

theorem FactorKept.ordered (kept : FactorKept config userId history world)
    {first second : FactorStep ι} (isFirst : first ∈ history) (isSecond : second ∈ history)
    (differ : first ≠ second) : first.Precedes second ∨ second.Precedes first := by
  have symmetric : Std.Symm fun first second : FactorStep ι =>
      first.Precedes second ∨ second.Precedes first := ⟨fun _ _ => Or.symm⟩
  have either : history.Pairwise fun first second =>
      first.Precedes second ∨ second.Precedes first := kept.inOrder.imp Or.inl
  exact either.forall isFirst isSecond differ

theorem FactorKept.not_compared (kept : FactorKept config userId history world)
    (member : step ∈ history) (attempts : step.attempt userId = some session)
    (refused : (step.after.sessions session).compares userId = false) :
    session ∉ comparisons userId history := by
  intro compared
  obtain ⟨other, isOther, compares⟩ := mem_comparisons.mp compared
  obtain ⟨isNext, first⟩ := FactorStep.attempt_stage attempts
  obtain ⟨isNext', compares⟩ := FactorStep.comparison_eq_some.mp compares
  have second := FactorSession.stage_of_compares compares
  have further := (other.input.exec_stage (kept.accepted other isOther)).2 session isNext'
  have differ : step ≠ other := by
    rintro rfl
    omega
  have ended : 2 < (step.after.sessions session).stage := by
    rcases step.input.exec_attempt (kept.accepted step member) attempts with
      ⟨_, _, _, through, _⟩ | ⟨_, answered, _⟩
    · rw [refused] at through
      cases through
    · rw [answered]
      decide
  rcases kept.ordered member isOther differ with precedes | precedes
  · have inOrder := precedes session isNext
    omega
  · have inOrder := precedes session isNext'
    omega

theorem FactorKept.nodup_comparisons
    (kept : FactorKept config userId history world) : (comparisons userId history).Nodup := by
  refine List.pairwise_filterMap.mpr (kept.inOrder.imp_of_mem ?_)
  rintro first second isFirst _ precedes session compares _ compares' rfl
  obtain ⟨isNext, compares⟩ := FactorStep.comparison_eq_some.mp compares
  have before := FactorSession.stage_of_compares compares
  have after := FactorSession.stage_of_compares (FactorStep.comparison_eq_some.mp compares').2
  have further := (first.input.exec_stage (kept.accepted first isFirst)).2 session isNext
  have inOrder := precedes session isNext
  omega

/-! ### Windows -/

def FactorStep.letThrough (userId : Nat) (step : FactorStep ι) : Option ι :=
  (step.attempt userId).filter fun session => (step.after.sessions session).compares userId

def letThroughIn (userId : Nat) (history : List (FactorStep ι)) (start : Nat) : List ι :=
  (history.filter fun step => step.InWindow start).filterMap (FactorStep.letThrough userId)

omit [DecidableEq ι] in
theorem letThroughIn_snoc (userId : Nat) (history : List (FactorStep ι)) (step : FactorStep ι)
    (start : Nat) : letThroughIn userId (history ++ [step]) start =
      letThroughIn userId history start ++
        if step.InWindow start then (step.letThrough userId).toList else [] := by
  unfold letThroughIn
  rw [List.filter_append, List.filterMap_append, List.filter_singleton, Bool.cond_decide]
  split
  · rw [List.filterMap_cons, List.filterMap_nil]
    cases step.letThrough userId <;> rfl
  · rfl

/-- What is kept along a history in whose window the counter is not cleared. -/
structure WindowKept (userId start : Nat) (history : List (FactorStep ι)) (world : FactorWorld ι) :
    Prop where
  past : ∀ step ∈ history, step.after.rows.clock ≤ world.rows.clock
  atMost : (letThroughIn userId history start).length ≤ maxFailedTotpAttempts
  bounds : ∀ limiter ∈ world.rows.store.db.totpLimiter userId,
    limiter.Bounds maxFailedTotpAttempts totpLockoutPeriod start world.rows.clock
      (letThroughIn userId history start).length

omit [DecidableEq ι] in
theorem bounds_of_outside {clock : Nat} {limiter : Limiter}
    (past : ∀ step ∈ history, step.after.rows.clock ≤ clock)
    (outside : ¬(start ≤ clock ∧ clock < start + totpLockoutPeriod)) :
    limiter.Bounds maxFailedTotpAttempts totpLockoutPeriod start clock
      (letThroughIn userId history start).length := by
  intro within
  have early : clock < start := Nat.lt_of_not_le fun since => outside ⟨since, within⟩
  have nothing : letThroughIn userId history start = [] := by
    rw [letThroughIn, List.filter_eq_nil_iff.mpr]
    · rfl
    · intro step member inWindow
      have since := (of_decide_eq_true inWindow).1
      exact absurd (since.trans (past step member)) (Nat.not_le.mpr early)
  exact Or.inl (congrArg List.length nothing)

omit [DecidableEq ι] in
theorem WindowKept.initial (world : FactorWorld ι) : WindowKept userId start [] world where
  past := List.forall_mem_nil _
  atMost := Nat.zero_le _
  bounds _ _ := .initial

omit [DecidableEq ι] in
theorem WindowKept.past_snoc (kept : WindowKept userId start history before)
    (later : before.rows.clock ≤ after.rows.clock) :
    ∀ step ∈ history ++ [⟨before, input, after⟩], step.after.rows.clock ≤ after.rows.clock :=
  List.forall_mem_append.mpr ⟨fun step member => (kept.past step member).trans later,
    List.forall_mem_singleton.mpr (Nat.le_refl _)⟩

omit [DecidableEq ι] in
theorem WindowKept.snoc_of_quiet (kept : WindowKept userId start history before)
    (later : before.rows.clock ≤ after.rows.clock)
    (nobody : FactorStep.InWindow ⟨before, input, after⟩ start →
      FactorStep.letThrough userId ⟨before, input, after⟩ = none)
    (bounds : ∀ limiter ∈ after.rows.store.db.totpLimiter userId,
      limiter.Bounds maxFailedTotpAttempts totpLockoutPeriod start after.rows.clock
        (letThroughIn userId history start).length) :
    WindowKept userId start (history ++ [⟨before, input, after⟩]) after := by
  have same : letThroughIn userId (history ++ [⟨before, input, after⟩]) start =
      letThroughIn userId history start := by
    rw [letThroughIn_snoc]
    split
    · rename_i inWindow
      rw [nobody inWindow]
      exact List.append_nil _
    · exact List.append_nil _
  exact ⟨kept.past_snoc later, same ▸ kept.atMost, same ▸ bounds⟩

omit [DecidableEq ι] in
theorem WindowKept.snoc_of_through (kept : WindowKept userId start history before)
    (later : before.rows.clock ≤ after.rows.clock)
    (inWindow : FactorStep.InWindow ⟨before, input, after⟩ start)
    (through : FactorStep.letThrough userId ⟨before, input, after⟩ = some session)
    {limiter : Limiter} (found : before.rows.store.db.totpLimiter userId = some limiter)
    (isOpen : limiter.Open after.rows.clock) (counted : after.rows.store.db.totpLimiter userId =
      some (limiter.reserve maxFailedTotpAttempts totpLockoutPeriod after.rows.clock)) :
    WindowKept userId start (history ++ [⟨before, input, after⟩]) after := by
  have length : (letThroughIn userId (history ++ [⟨before, input, after⟩]) start).length =
      (letThroughIn userId history start).length + 1 := by
    rw [letThroughIn_snoc, through, if_pos inWindow, List.length_append]
    rfl
  obtain ⟨atMost, bounds⟩ := (kept.bounds limiter found).reserve (by decide) later isOpen
    inWindow.1 inWindow.2
  refine ⟨kept.past_snoc later, length ▸ atMost, fun now isNow => ?_⟩
  cases counted.symm.trans isNow
  exact length ▸ bounds

theorem WindowKept.snoc {input : FactorInput ι} {before after : FactorWorld ι}
    (kept : WindowKept userId start history before)
    (accepted : input.exec config before = .ok after)
    (notCleared : FactorStep.InWindow ⟨before, input, after⟩ start →
      ¬FactorStep.Clears userId ⟨before, input, after⟩) :
    WindowKept userId start (history ++ [⟨before, input, after⟩]) after := by
  have later : before.rows.clock ≤ after.rows.clock := by
    rw [input.exec_clock accepted]
    exact Nat.le_add_right _ _
  by_cases inWindow : FactorStep.InWindow ⟨before, input, after⟩ start
  · cases attempts : FactorStep.attempt userId ⟨before, input, after⟩ with
    | none =>
      refine kept.snoc_of_quiet later (fun _ => by rw [FactorStep.letThrough, attempts]; rfl)
        fun limiter found => (kept.bounds limiter ?_).later later
      rcases input.exec_rest accepted attempts with same | cleared
      · exact same ▸ found
      -- a counter that is cleared in the window was zero before
      · have wasZero := not_not.mp fun differs => notCleared inWindow ⟨differs, cleared⟩
        have wasZero : before.rows.store.db.totpLimiter userId = some .zero := wasZero
        rw [wasZero]
        exact cleared ▸ found
    | some session =>
      rcases input.exec_attempt accepted attempts with
        ⟨limiter, found, isOpen, compares, counted⟩ | ⟨_, answered, same⟩
      · have through : FactorStep.letThrough userId ⟨before, input, after⟩ = some session := by
          rw [FactorStep.letThrough, attempts, Option.filter_some]
          exact if_pos compares
        exact kept.snoc_of_through later inWindow through found isOpen counted
      · refine kept.snoc_of_quiet later (fun _ => ?_)
          fun limiter found => (kept.bounds limiter (same ▸ found)).later later
        rw [FactorStep.letThrough, attempts, Option.filter_some]
        refine if_neg ?_
        show ¬(after.sessions session).compares userId = true
        rw [answered]
        nofun
  · exact kept.snoc_of_quiet later (fun within => absurd within inWindow)
      fun _ _ => bounds_of_outside (fun step member => (kept.past step member).trans later) inWindow

theorem FactorKept.length_le (kept : FactorKept config userId history world) (start : Nat) :
    ((comparisons userId history).filter fun session =>
      session ∈ attemptsIn userId history start).length ≤
        (letThroughIn userId history start).length := by
  refine (List.subperm_of_subset (kept.nodup_comparisons.filter _) fun session member => ?_).length_le
  obtain ⟨compared, attempted⟩ := List.mem_filter.mp member
  obtain ⟨step, isStep, attempts⟩ := List.mem_filterMap.mp (of_decide_eq_true attempted)
  refine List.mem_filterMap.mpr ⟨step, isStep, ?_⟩
  rw [FactorStep.letThrough, attempts, Option.filter_some]
  refine if_pos (eq_true_of_ne_false fun refused => ?_)
  exact kept.not_compared (List.mem_of_mem_filter isStep) attempts refused compared

theorem FactorInput.exec_locked (accepted : input.exec config before = .ok after)
    (notCleared : ¬FactorStep.Clears userId ⟨before, input, after⟩) {limiter : Limiter}
    (found : before.rows.store.db.totpLimiter userId = some limiter) {deadline : Nat}
    (locked : limiter.lockedUntil = some deadline) (lasts : after.rows.clock < deadline) :
    after.rows.store.db.totpLimiter userId = some limiter := by
  cases attempts : FactorStep.attempt userId ⟨before, input, after⟩ with
  | none =>
    rcases input.exec_rest accepted attempts with same | cleared
    · exact same.trans found
    · have wasZero : before.rows.store.db.totpLimiter userId = some .zero :=
        not_not.mp fun differs => notCleared ⟨differs, cleared⟩
      rw [cleared, ← wasZero, found]
  | some session =>
    rcases input.exec_attempt accepted attempts with ⟨other, isOther, isOpen, _⟩ | ⟨_, _, same⟩
    · cases found.symm.trans isOther
      exact absurd (isOpen deadline locked) (Nat.not_le.mpr lasts)
    · rw [same, found]

end Histories

end OpenEstate
