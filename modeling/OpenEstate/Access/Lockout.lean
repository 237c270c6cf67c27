/-
**Locking accounts.**

A login reads the account, verifies the password against the hash it has read, and writes the
counter of failed attempts back: one more than it has read, with a lock if that is too many, and
without one if it is not. Each of these is a step of its own, and other attempts may come in between.
An attempt that writes a counter lower than the one that is stored loses failures from the count, and
clears a lock that has been set since.

* `LoginSession` is where an attempt stands, on either surface; `LoginSession.move` its next step;
* `LocksInOrder`: a lock is set with the count that asks for it, and for no longer than its period;
* `lockout_iff`: in which runs failures are counted and locks hold;
* `lock_cleared`: one in which they do not.
-/

import OpenEstate.Access.Auth
import OpenEstate.Relational.History

namespace OpenEstate

open Relational
open Function (update update_self update_of_ne)

/-! ### Attempts -/

structure PortalLoginDto where
  identifier : String
  password : String

inductive LoginCall
  | staff (dto : LoginDto)
  | portal (dto : PortalLoginDto)

/-- Where an attempt stands. One whose password was right goes on to the second factor or to its
tokens. -/
inductive LoginSession
  | called (call : LoginCall)
  | verifying (account : Account) (password : String)
  | recording (account : Account) (valid : Bool)
  | passed (account : Account)
  | refused (error : ServiceError)

structure ClockedDb where
  db : AccessDb
  clock : Nat

def lockoutPeriod : Nat := lockoutMinutes * 60 * 1000

def AccessDb.portalAccountWith (db : AccessDb) (identifier : String) : Option Account := do
  let row ← db.users.findFirst? fun _ user =>
    (user.email == some identifier || user.phone == some identifier) &&
      !(user.applicantId.isNone && user.brokerId.isNone)
  db.accountOf row.1

/-- What a login to the portal checks of the account it has read, before it looks at the
password. -/
def PortalAuthService.checkAccount (now : Nat) (found : Option Account) :
    Except ServiceError Account := do
  let account ← orThrow (found.filter fun account => account.user.isActive)
    AuthService.invalidCredentials
  ensure (∀ lockedUntil ∈ account.user.lockedUntil, lockedUntil ≤ now)
    (.unauthorized "Account locked. Try again later.")
  return account

def LoginCall.read (now : Nat) (db : AccessDb) : LoginCall → Except ServiceError Account × String
  | .staff dto => (AuthService.checkAccount now (db.accountWith dto.email), dto.password)
  | .portal dto =>
    (PortalAuthService.checkAccount now (db.portalAccountWith dto.identifier), dto.password)

/-- The counter is written: cleared after a password that was right, and otherwise one more than it
was read. -/
def recordAttempt (now : Nat) (account : Account) (valid : Bool) (db : AccessDb) :
    LoginSession × AccessDb :=
  if valid then (.passed account, db.updateUser account.id User.attemptsCleared)
  else (.refused AuthService.invalidCredentials,
    db.updateUser account.id (User.failedAttempt account.user.failedLoginAttempts now))

/-- The next step of an attempt, some time after the last step of any of them. -/
def LoginSession.move (verify : String → String → Bool) (elapsed : Nat) :
    LoginSession → ClockedDb → Option (LoginSession × ClockedDb)
  | .called call, rows =>
    match call.read (rows.clock + elapsed) rows.db with
    | (.ok account, password) =>
      some (.verifying account password, ⟨rows.db, rows.clock + elapsed⟩)
    | (.error error, _) => some (.refused error, ⟨rows.db, rows.clock + elapsed⟩)
  | .verifying account password, rows =>
    some (.recording account (verify account.user.passwordHash password),
      ⟨rows.db, rows.clock + elapsed⟩)
  | .recording account valid, rows =>
    let recorded := recordAttempt (rows.clock + elapsed) account valid rows.db
    some (recorded.1, ⟨recorded.2, rows.clock + elapsed⟩)
  | _, _ => none

abbrev LoginWorld (ι : Type) : Type := Shared ι ClockedDb LoginSession

def LoginSession.exec {ι : Type} [DecidableEq ι] (verify : String → String → Bool)
    (input : ι × Nat) (world : LoginWorld ι) : Except Unit (LoginWorld ι) :=
  Shared.exec (LoginSession.move verify input.2) input.1 world

def loginStart {ι : Type} (calls : ι → LoginCall) (rows : ClockedDb) : LoginWorld ι where
  rows
  sessions := fun session => .called (calls session)

/-- **While a lock lasts** no attempt gets as far as its password, on either surface. -/
theorem unlocked_of_read {now : Nat} {db : AccessDb} {call : LoginCall} {account : Account}
    (read : (call.read now db).1 = .ok account) :
    ∀ deadline ∈ account.user.lockedUntil, deadline ≤ now := by
  cases call with
  | staff dto =>
    obtain ⟨found, _, read⟩ := bind_eq_ok.mp read
    obtain ⟨_, _, read⟩ := bind_eq_ok.mp read
    obtain ⟨_, unlocked, read⟩ := bind_eq_ok.mp read
    cases read
    exact ensure_eq_ok.mp unlocked
  | portal dto =>
    obtain ⟨found, _, read⟩ := bind_eq_ok.mp read
    obtain ⟨_, unlocked, read⟩ := bind_eq_ok.mp read
    cases read
    exact ensure_eq_ok.mp unlocked

/-! ### Steps -/

namespace LoginSession

/-- The counter that an attempt with a wrong password is about to write back for a user, as it has
read it. -/
def failing (userId : Nat) : LoginSession → Option Nat
  | .recording account false =>
    if account.id = userId then some account.user.failedLoginAttempts else none
  | _ => none

def succeeds (userId : Nat) : LoginSession → Bool
  | .recording account true => account.id = userId
  | _ => false

end LoginSession

section Steps

variable {verify : String → String → Bool} {elapsed userId : Nat} {session next : LoginSession}
  {rows after : ClockedDb}

/-- What a step does to an account: the counter that was read goes back one higher, or is cleared, or
nothing changes. The time goes on. -/
theorem LoginSession.move_cases (moved : session.move verify elapsed rows = some (next, after))
    (userId : Nat) :
    after.clock = rows.clock + elapsed ∧
      ((∃ read, session.failing userId = some read ∧ session.succeeds userId = false ∧
          after.db.users.find? userId =
            (rows.db.users.find? userId).map (User.failedAttempt read after.clock)) ∨
        (session.failing userId = none ∧ session.succeeds userId = true ∧
          after.db.users.find? userId =
            (rows.db.users.find? userId).map User.attemptsCleared) ∨
        session.failing userId = none ∧ session.succeeds userId = false ∧
          after.db.users.find? userId = rows.db.users.find? userId) := by
  cases session with
  | called call =>
    simp only [LoginSession.move] at moved
    split at moved <;> cases moved <;> exact ⟨rfl, Or.inr (Or.inr ⟨rfl, rfl, rfl⟩)⟩
  | verifying account password =>
    cases moved
    exact ⟨rfl, Or.inr (Or.inr ⟨rfl, rfl, rfl⟩)⟩
  | recording account valid =>
    cases moved
    refine ⟨rfl, ?_⟩
    by_cases mine : userId = account.id
    · subst mine
      cases valid with
      | false =>
        refine Or.inl ⟨account.user.failedLoginAttempts, if_pos rfl, rfl, ?_⟩
        exact Table.find?_modify_self _ _ _
      | true =>
        refine Or.inr (Or.inl ⟨rfl, decide_eq_true rfl, ?_⟩)
        exact Table.find?_modify_self _ _ _
    · refine Or.inr (Or.inr ?_)
      cases valid with
      | false => exact ⟨if_neg (Ne.symm mine), rfl, Table.find?_modify_of_ne _ _ mine⟩
      | true => exact ⟨rfl, decide_eq_false (Ne.symm mine), Table.find?_modify_of_ne _ _ mine⟩
  | passed account => cases moved
  | refused error => cases moved

end Steps

/-! ### Counts and locks -/

/-- The lock of a user goes with a count that asks for it, and ends within its period. -/
def LocksInOrder (userId : Nat) (rows : ClockedDb) : Prop :=
  ∀ user ∈ rows.db.users.find? userId, ∀ deadline ∈ user.lockedUntil,
    maxFailedAttempts ≤ user.failedLoginAttempts ∧ deadline ≤ rows.clock + lockoutPeriod

section Counts

variable {ι : Type} (userId : Nat)

def failuresSince (history : List (Step (LoginWorld ι) (ι × Nat))) :
    List (Step (LoginWorld ι) (ι × Nat)) :=
  (sinceLast (fun step => (step.before.sessions step.input.1).succeeds userId) history).filter
    fun step => ((step.before.sessions step.input.1).failing userId).isSome

theorem failuresSince_snoc (history : List (Step (LoginWorld ι) (ι × Nat)))
    (step : Step (LoginWorld ι) (ι × Nat)) :
    failuresSince userId (history ++ [step]) =
      if (step.before.sessions step.input.1).succeeds userId then []
      else if ((step.before.sessions step.input.1).failing userId).isSome then
        step :: failuresSince userId history
      else failuresSince userId history := by
  unfold failuresSince
  rw [sinceLast_snoc]
  split
  · rfl
  · rw [List.filter_cons]

/-- **Failures are counted and locks hold**, at the end of a history and in each of its steps: every
failure raises the count, which is no lower than the failures since the latest success; as many as it
takes lock the account for the whole period from each of them on; and a step that is no success
leaves a lock that has not run out at least as it is. -/
structure LockoutHolds (history : List (Step (LoginWorld ι) (ι × Nat))) (world : LoginWorld ι) :
    Prop where
  counted : ∀ step ∈ history, ((step.before.sessions step.input.1).failing userId).isSome = true →
    ∀ user ∈ step.before.rows.db.users.find? userId,
      ∀ now ∈ step.after.rows.db.users.find? userId,
        user.failedLoginAttempts < now.failedLoginAttempts
  atLeast : ∀ user ∈ world.rows.db.users.find? userId,
    (failuresSince userId history).length ≤ user.failedLoginAttempts
  locked : maxFailedAttempts ≤ (failuresSince userId history).length →
    ∀ user ∈ world.rows.db.users.find? userId, ∃ deadline, user.lockedUntil = some deadline ∧
      ∀ failure ∈ failuresSince userId history,
        failure.after.rows.clock + lockoutPeriod ≤ deadline
  stays : ∀ step ∈ history, (step.before.sessions step.input.1).succeeds userId = false →
    ∀ user ∈ step.before.rows.db.users.find? userId, ∀ deadline ∈ user.lockedUntil,
      step.before.rows.clock < deadline →
        ∃ now later, step.after.rows.db.users.find? userId = some now ∧
          now.lockedUntil = some later ∧ deadline ≤ later

/-- Whether an attempt that writes a failure finds the count no higher than it has read it. -/
def FindsItsCount (step : Step (LoginWorld ι) (ι × Nat)) : Prop :=
  ∀ read ∈ (step.before.sessions step.input.1).failing userId,
    ∀ user ∈ step.before.rows.db.users.find? userId, user.failedLoginAttempts ≤ read

instance (step : Step (LoginWorld ι) (ι × Nat)) : Decidable (FindsItsCount userId step) :=
  inferInstanceAs (Decidable (∀ read ∈ (step.before.sessions step.input.1).failing userId,
    ∀ user ∈ step.before.rows.db.users.find? userId, user.failedLoginAttempts ≤ read))

/-- What is kept along a history: the lockout holds, and the history is past. -/
structure LockoutKept (history : List (Step (LoginWorld ι) (ι × Nat))) (world : LoginWorld ι) :
    Prop extends LockoutHolds userId history world where
  inOrder : LocksInOrder userId world.rows
  past : ∀ step ∈ history, step.after.rows.clock ≤ world.rows.clock

variable {userId}

theorem LockoutKept.start (calls : ι → LoginCall) {rows : ClockedDb}
    (inOrder : LocksInOrder userId rows) : LockoutKept userId [] (loginStart calls rows) :=
  ⟨⟨nofun, fun _ _ => Nat.zero_le _, nofun, nofun⟩, inOrder, nofun⟩

variable {history : List (Step (LoginWorld ι) (ι × Nat))} {input : ι × Nat}
  {before after : LoginWorld ι}

theorem LockoutKept.rest (kept : LockoutKept userId history before)
    (clock : before.rows.clock ≤ after.rows.clock)
    (failing : (before.sessions input.1).failing userId = none)
    (succeeds : (before.sessions input.1).succeeds userId = false)
    (same : after.rows.db.users.find? userId = before.rows.db.users.find? userId) :
    LockoutKept userId (history ++ [⟨before, input, after⟩]) after := by
  have since : failuresSince userId (history ++ [⟨before, input, after⟩]) =
      failuresSince userId history := by
    rw [failuresSince_snoc]
    simp [failing, succeeds]
  refine ⟨⟨?_, ?_, ?_, ?_⟩, ?_, ?_⟩
  · refine List.forall_mem_append.mpr ⟨kept.counted, List.forall_mem_singleton.mpr ?_⟩
    simp [failing]
  · rw [since, same]
    exact kept.atLeast
  · rw [since, same]
    exact kept.locked
  · refine List.forall_mem_append.mpr ⟨kept.stays, List.forall_mem_singleton.mpr ?_⟩
    intro _ user found deadline locked _
    exact ⟨user, deadline, same.trans found, locked, Nat.le_refl _⟩
  · intro user found deadline locked
    rw [same] at found
    obtain ⟨enough, within⟩ := kept.inOrder user found deadline locked
    exact ⟨enough, within.trans (Nat.add_le_add_right clock _)⟩
  · refine List.forall_mem_append.mpr ⟨fun step member => (kept.past step member).trans clock,
      List.forall_mem_singleton.mpr (Nat.le_refl _)⟩

theorem LockoutKept.succeed (kept : LockoutKept userId history before)
    (clock : before.rows.clock ≤ after.rows.clock)
    (failing : (before.sessions input.1).failing userId = none)
    (succeeds : (before.sessions input.1).succeeds userId = true)
    (cleared : after.rows.db.users.find? userId =
      (before.rows.db.users.find? userId).map User.attemptsCleared) :
    LockoutKept userId (history ++ [⟨before, input, after⟩]) after := by
  have since : failuresSince userId (history ++ [⟨before, input, after⟩]) = [] := by
    rw [failuresSince_snoc]
    simp [succeeds]
  refine ⟨⟨?_, ?_, ?_, ?_⟩, ?_, ?_⟩
  · refine List.forall_mem_append.mpr ⟨kept.counted, List.forall_mem_singleton.mpr ?_⟩
    simp [failing]
  · rw [since]
    exact fun _ _ => Nat.zero_le _
  · rw [since]
    nofun
  · refine List.forall_mem_append.mpr ⟨kept.stays, List.forall_mem_singleton.mpr ?_⟩
    simp [succeeds]
  · intro user found deadline locked
    rw [cleared] at found
    obtain ⟨was, _, rfl⟩ := Option.map_eq_some_iff.mp found
    cases locked
  · refine List.forall_mem_append.mpr ⟨fun step member => (kept.past step member).trans clock,
      List.forall_mem_singleton.mpr (Nat.le_refl _)⟩

theorem LockoutKept.fail (kept : LockoutKept userId history before) {read : Nat}
    (clock : before.rows.clock ≤ after.rows.clock)
    (failing : (before.sessions input.1).failing userId = some read)
    (succeeds : (before.sessions input.1).succeeds userId = false)
    (failed : after.rows.db.users.find? userId =
      (before.rows.db.users.find? userId).map (User.failedAttempt read after.rows.clock))
    (finds : FindsItsCount userId ⟨before, input, after⟩) :
    LockoutKept userId (history ++ [⟨before, input, after⟩]) after := by
  have since : failuresSince userId (history ++ [⟨before, input, after⟩]) =
      ⟨before, input, after⟩ :: failuresSince userId history := by
    rw [failuresSince_snoc]
    simp [failing, succeeds]
  have lower : ∀ user ∈ before.rows.db.users.find? userId, user.failedLoginAttempts ≤ read :=
    finds read failing
  have was : ∀ now ∈ after.rows.db.users.find? userId, ∃ user ∈ before.rows.db.users.find? userId,
      now = user.failedAttempt read after.rows.clock := by
    intro now found
    rw [failed] at found
    obtain ⟨user, present, rfl⟩ := Option.map_eq_some_iff.mp found
    exact ⟨user, present, rfl⟩
  have locks : ∀ user : User, maxFailedAttempts ≤ read + 1 →
      (user.failedAttempt read after.rows.clock).lockedUntil =
        some (after.rows.clock + lockoutPeriod) :=
    fun user enough => if_pos enough
  have past : ∀ step ∈ history ++ [⟨before, input, after⟩],
      step.after.rows.clock ≤ after.rows.clock :=
    List.forall_mem_append.mpr ⟨fun step member => (kept.past step member).trans clock,
      List.forall_mem_singleton.mpr (Nat.le_refl _)⟩
  refine ⟨⟨?_, ?_, ?_, ?_⟩, ?_, past⟩
  · refine List.forall_mem_append.mpr ⟨kept.counted, List.forall_mem_singleton.mpr ?_⟩
    intro _ user found now later
    obtain ⟨user', present, rfl⟩ := was now later
    cases found.symm.trans present
    exact Nat.lt_succ_of_le (lower user found)
  · rw [since]
    intro now found
    obtain ⟨user, present, rfl⟩ := was now found
    exact Nat.succ_le_succ ((kept.atLeast user present).trans (lower user present))
  · intro enough now found
    obtain ⟨user, present, rfl⟩ := was now found
    rw [since, List.length_cons] at enough
    have counted := (kept.atLeast user present).trans (lower user present)
    refine ⟨_, locks user (enough.trans (Nat.succ_le_succ counted)), fun failure member => ?_⟩
    exact Nat.add_le_add_right
      (past failure (mem_of_mem_sinceLast (List.mem_of_mem_filter member))) _
  · refine List.forall_mem_append.mpr ⟨kept.stays, List.forall_mem_singleton.mpr ?_⟩
    intro _ user found deadline locked _
    obtain ⟨enough, within⟩ := kept.inOrder user found deadline locked
    have found : before.rows.db.users.find? userId = some user := found
    refine ⟨user.failedAttempt read after.rows.clock, _, by rw [failed, found]; rfl,
      locks user ((enough.trans (lower user found)).trans (Nat.le_succ read)), ?_⟩
    exact within.trans (Nat.add_le_add_right clock _)
  · intro now found deadline locked
    obtain ⟨user, present, rfl⟩ := was now found
    by_cases enough : maxFailedAttempts ≤ read + 1
    · rw [locks user enough] at locked
      cases locked
      exact ⟨enough, Nat.le_refl _⟩
    · have open_ : (user.failedAttempt read after.rows.clock).lockedUntil = none := if_neg enough
      rw [open_] at locked
      cases locked

variable [DecidableEq ι] {verify : String → String → Bool}

/-- **A step keeps the lockout**, if a failure finds the count no higher than it was read. -/
theorem LockoutKept.step (kept : LockoutKept userId history before)
    (accepted : LoginSession.exec verify input before = .ok after)
    (finds : FindsItsCount userId ⟨before, input, after⟩) :
    LockoutKept userId (history ++ [⟨before, input, after⟩]) after := by
  obtain ⟨next, rows, moved, rfl⟩ := Shared.exec_eq_ok.mp accepted
  obtain ⟨clock, effect⟩ := LoginSession.move_cases moved userId
  have later : before.rows.clock ≤ rows.clock := by
    rw [clock]
    exact Nat.le_add_right _ _
  rcases effect with ⟨read, failing, succeeds, failed⟩ | ⟨failing, succeeds, cleared⟩ |
    ⟨failing, succeeds, same⟩
  · exact kept.fail later failing succeeds failed finds
  · exact kept.succeed later failing succeeds cleared
  · exact kept.rest later failing succeeds same

theorem findsItsCount_of_counted (accepted : LoginSession.exec verify input before = .ok after)
    (counted : ((before.sessions input.1).failing userId).isSome = true →
      ∀ user ∈ before.rows.db.users.find? userId, ∀ now ∈ after.rows.db.users.find? userId,
        user.failedLoginAttempts < now.failedLoginAttempts) :
    FindsItsCount userId ⟨before, input, after⟩ := by
  obtain ⟨next, rows, moved, rfl⟩ := Shared.exec_eq_ok.mp accepted
  intro read asked user found
  have asked : (before.sessions input.1).failing userId = some read := asked
  have found : before.rows.db.users.find? userId = some user := found
  obtain ⟨_, ⟨written, failing, _, failed⟩ | ⟨failing, _⟩ | ⟨failing, _⟩⟩ :=
    LoginSession.move_cases moved userId
  · cases failing.symm.trans asked
    rw [found] at failed
    exact Nat.le_of_lt_succ (counted (by rw [asked]; rfl) user found _ failed)
  · cases failing.symm.trans asked
  · cases failing.symm.trans asked

/-- **Failures are counted and locks hold** throughout a run exactly if every attempt that writes a
failure finds the count no higher than it has read it. -/
theorem lockout_iff (verify : String → String → Bool) (calls : ι → LoginCall) {rows : ClockedDb}
    (inOrder : LocksInOrder userId rows) (schedule : List (ι × Nat)) :
    (∀ earlier, earlier <+: schedule →
        LockoutHolds userId (steps (LoginSession.exec verify) (loginStart calls rows) earlier)
          (run (LoginSession.exec verify) (loginStart calls rows) earlier)) ↔
      ∀ step ∈ steps (LoginSession.exec verify) (loginStart calls rows) schedule,
        FindsItsCount userId step := by
  constructor
  · intro holds step member
    refine findsItsCount_of_counted (mem_steps member).2 ?_
    exact (holds schedule (List.prefix_refl _)).counted step member
  · rintro finds earlier ⟨rest, rfl⟩
    rw [steps_append] at finds
    exact (history_invariant (LockoutKept userId)
      (fun history input before after kept accepted met => kept.step accepted met)
      (.start calls inOrder) earlier
      fun step member => finds step (List.mem_append_left _ member)).toLockoutHolds

end Counts

/-! ### A lock that is cleared -/

def clerkRows : ClockedDb where
  db :=
    { roles := Table.empty.create { companyId := 1, name := "Clerk", slug := "clerk" }
      users := Table.empty.create
        { companyId := 1, email := some "clerk@example.com", passwordHash := "right", name := "Clerk"
          roleId := 0 } }
  clock := 1000

def samePassword (passwordHash password : String) : Bool := passwordHash == password

def wrongPassword (_ : Nat) : LoginCall := .staff ⟨"clerk@example.com", "wrong"⟩

theorem clerkRows_locksInOrder : LocksInOrder 0 clerkRows := by
  rintro user ⟨⟩ deadline locked
  cases locked

/-- Attempt 5 reads the account and verifies its password; attempts 0 to 4 fail one after the other
and lock the account. -/
def fiveFailures : List (Nat × Nat) :=
  [5, 5, 0, 0, 0, 1, 1, 1, 2, 2, 2, 3, 3, 3, 4, 4, 4].map fun session => (session, 10)

def attackedWorld (schedule : List (Nat × Nat)) : LoginWorld Nat :=
  run (LoginSession.exec samePassword) (loginStart wrongPassword clerkRows) schedule

def AccessDb.lockState (db : AccessDb) (userId : Nat) : Option (Nat × Option Nat) :=
  (db.users.find? userId).map fun user => (user.failedLoginAttempts, user.lockedUntil)

def failuresAtOnce : List (Nat × Nat) :=
  [0, 1, 2, 3, 4, 0, 1, 2, 3, 4, 0, 1, 2, 3, 4].map fun session => (session, 10)

/-- **A lock is cleared** by an attempt that has read the account before the others failed: after six
failures the count is one. So it is after five at once. -/
theorem lock_cleared :
    (attackedWorld fiveFailures).rows.clock = 1170 ∧
      (attackedWorld fiveFailures).rows.db.lockState 0 = some (5, some (1170 + lockoutPeriod)) ∧
      (attackedWorld (fiveFailures ++ [(5, 10)])).rows.db.lockState 0 = some (1, none) ∧
      (attackedWorld failuresAtOnce).rows.db.lockState 0 = some (1, none) := by
  decide

/-- Five failures in turn lock the account. -/
theorem fiveFailures_locked :
    LockoutHolds 0 (steps (LoginSession.exec samePassword) (loginStart wrongPassword clerkRows)
      fiveFailures) (attackedWorld fiveFailures) :=
  (lockout_iff samePassword wrongPassword clerkRows_locksInOrder fiveFailures).mpr (by decide)
    fiveFailures (List.prefix_refl _)

end OpenEstate
