/-
**Interleavings of transactions under READ COMMITTED.**

Sessions run one transaction each over a common database. A statement sees the rows committed by
the time it is issued, and the session's own writes on top of them; a row lock is held from the
statement that takes it to the end of the transaction, and a statement that needs a row another
session holds does not proceed. A schedule says which session moves next, or is aborted.

* `exec` is one move, `moved` says what a move can do; a world is reachable when some schedule
  leads to it;
* `first_ran_alone`: the first session to commit might as well have run alone;
* `kept_of_reachable`: what every statement of every session keeps, holds throughout;
* `serialized`: sessions that only read until they take a common lock commit as if what they do
  under the lock ran one after the other;
* `exists_overtaking`: a session can be paused at any point and overtaken by one that needs none
  of its locks.
-/

import OpenEstate.Relational.Run
import OpenEstate.Relational.Transaction

set_option linter.unusedSectionVars false

namespace Relational

open Function (update update_self update_of_ne)

variable {ι σ κ ε α : Type}

/-- Where a session stands: what it has still to do and has written so far, or how it ended. -/
inductive Session (σ κ ε α : Type) where
  | active (todo : Tx σ κ ε α) (written : σ → σ)
  | committed (result : α)
  | aborted

structure World (ι σ κ ε α : Type) where
  rows : σ
  sessions : ι → Session σ κ ε α
  holder : κ → Option ι

inductive Choice (ι : Type) where
  | advance (session : ι)
  | abort (session : ι)

inductive Stuck
  | ended
  | waiting

namespace World

variable [DecidableEq ι] [DecidableEq κ]

/-! ### Moves -/

def Free (world : World ι σ κ ε α) (session : ι) (locks : List κ) : Prop :=
  ∀ lock ∈ locks, world.holder lock = none ∨ world.holder lock = some session

instance (world : World ι σ κ ε α) (session : ι) (locks : List κ) :
    Decidable (world.Free session locks) :=
  inferInstanceAs (Decidable (∀ lock ∈ locks, _))

def acquire (world : World ι σ κ ε α) (session : ι) (locks : List κ) : κ → Option ι :=
  fun lock => if lock ∈ locks then some session else world.holder lock

def release (world : World ι σ κ ε α) (session : ι) : κ → Option ι :=
  fun lock => if world.holder lock = some session then none else world.holder lock

def issue (world : World ι σ κ ε α) (session : ι) (locks : List κ) (todo : Tx σ κ ε α)
    (written : σ → σ) : World ι σ κ ε α :=
  { rows := world.rows
    sessions := update world.sessions session (.active todo written)
    holder := world.acquire session locks }

def commit (world : World ι σ κ ε α) (session : ι) (result : α) (written : σ → σ) :
    World ι σ κ ε α :=
  { rows := written world.rows
    sessions := update world.sessions session (.committed result)
    holder := world.release session }

def rollback (world : World ι σ κ ε α) (session : ι) : World ι σ κ ε α :=
  { rows := world.rows
    sessions := update world.sessions session .aborted
    holder := world.release session }

def exec : Choice ι → World ι σ κ ε α → Except Stuck (World ι σ κ ε α)
  | .advance session, world =>
    match world.sessions session with
    | .active (.stmt locks write next) written =>
      if world.Free session locks then
        .ok (world.issue session locks (next (written world.rows)) (write ∘ written))
      else .error .waiting
    | .active (.done result) written => .ok (world.commit session result written)
    | .active (.fail _) _ => .ok (world.rollback session)
    | _ => .error .ended
  | .abort session, world =>
    match world.sessions session with
    | .active _ _ => .ok (world.rollback session)
    | _ => .error .ended

def start (programs : ι → Tx σ κ ε α) (rows : σ) : World ι σ κ ε α :=
  { rows
    sessions := fun session => .active (programs session) id
    holder := fun _ => none }

/-- What a move of a session that has still `todo` to do, and has `written` so far, leads to. -/
inductive Moved (world : World ι σ κ ε α) (session : ι) (todo : Tx σ κ ε α) (written : σ → σ) :
    World ι σ κ ε α → Prop
  | issue {locks : List κ} {write : σ → σ} {next : σ → Tx σ κ ε α}
      (same : todo = .stmt locks write next) (free : world.Free session locks) :
      Moved world session todo written
        (world.issue session locks (next (written world.rows)) (write ∘ written))
  | commit {result : α} (same : todo = .done result) :
      Moved world session todo written (world.commit session result written)
  | rollback : Moved world session todo written (world.rollback session)

theorem moved {choice : Choice ι} {world after : World ι σ κ ε α}
    (accepted : exec choice world = .ok after) :
    ∃ session todo written, world.sessions session = .active todo written ∧
      Moved world session todo written after := by
  cases choice with
  | advance session =>
    simp only [exec] at accepted
    split at accepted
    · rename_i locks write next written stands
      split at accepted
      · rename_i free
        cases accepted
        exact ⟨session, _, written, stands, .issue rfl free⟩
      · cases accepted
    · rename_i result written stands
      cases accepted
      exact ⟨session, _, written, stands, .commit rfl⟩
    · rename_i error written stands
      cases accepted
      exact ⟨session, _, written, stands, .rollback⟩
    · cases accepted
  | abort session =>
    simp only [exec] at accepted
    split at accepted
    · rename_i todo written stands
      cases accepted
      exact ⟨session, todo, written, stands, .rollback⟩
    · cases accepted

def answerIn (step : Step (World ι σ κ ε α) (Choice ι)) : Option α :=
  match step.input with
  | .abort _ => none
  | .advance session =>
    match step.before.sessions session with
    | .active (.done result) _ => some result
    | _ => none

variable {choice : Choice ι} {after : World ι σ κ ε α}

/-- **What a step commits**: nothing, or what a session has written and answers. -/
theorem answerIn_cases {world : World ι σ κ ε α} (accepted : exec choice world = .ok after) :
    (answerIn ⟨world, choice, after⟩ = none ∧ after.rows = world.rows) ∨
      ∃ session result written, answerIn ⟨world, choice, after⟩ = some result ∧
        world.sessions session = .active (.done result) written ∧
        after.rows = written world.rows := by
  cases choice with
  | advance session =>
    simp only [exec] at accepted
    split at accepted
    · rename_i locks write next written stands
      split at accepted
      · cases accepted
        exact Or.inl ⟨by simp only [answerIn, stands], rfl⟩
      · cases accepted
    · rename_i result written stands
      cases accepted
      exact Or.inr ⟨session, result, written, by simp only [answerIn, stands], stands, rfl⟩
    · rename_i error written stands
      cases accepted
      exact Or.inl ⟨by simp only [answerIn, stands], rfl⟩
    · cases accepted
  | abort session =>
    simp only [exec] at accepted
    split at accepted
    · cases accepted
      exact Or.inl ⟨rfl, rfl⟩
    · cases accepted

abbrev Occurs (programs : ι → Tx σ κ ε α) (rows : σ) (world : World ι σ κ ε α) : Prop :=
  Reachable exec (start programs rows) world

def HasCommitted (world : World ι σ κ ε α) (session : ι) : Prop :=
  ∃ result, world.sessions session = .committed result

def CommitsIn (session : ι) (answer : α) (step : Step (World ι σ κ ε α) (Choice ι)) : Prop :=
  (∃ written, step.before.sessions session = .active (.done answer) written) ∧
    step.after.sessions session = .committed answer

def BothCommitted (world : World Bool σ κ ε α) : Prop :=
  world.HasCommitted false ∧ world.HasCommitted true

theorem BothCommitted.each {world : World Bool σ κ ε α} (both : world.BothCommitted)
    (session : Bool) : world.HasCommitted session := by
  cases session with
  | false => exact both.1
  | true => exact both.2

def Finished (world : World ι σ κ ε α) : Prop :=
  ∀ session todo written, world.sessions session ≠ .active todo written

def interleave (programs : ι → Tx σ κ ε α) (rows : σ) (schedule : List (Choice ι)) :
    World ι σ κ ε α :=
  run exec (start programs rows) schedule

theorem occurs_interleave (programs : ι → Tx σ κ ε α) (rows : σ) (schedule : List (Choice ι)) :
    Occurs programs rows (interleave programs rows schedule) :=
  reachable_run _ schedule

/-! ### What a move leaves alone -/

section Frame

variable {world : World ι σ κ ε α} {session other : ι} {locks : List κ} {todo : Tx σ κ ε α}
  {written : σ → σ} {result : α}

@[simp] theorem rows_commit : (world.commit session result written).rows = written world.rows := rfl

@[simp] theorem sessions_issue : (world.issue session locks todo written).sessions session =
    .active todo written := update_self ..

@[simp] theorem sessions_commit : (world.commit session result written).sessions session =
    .committed result := update_self ..

@[simp] theorem sessions_rollback : (world.rollback session).sessions session = .aborted :=
  update_self ..

theorem holder_issue (lock : κ) : (world.issue session locks todo written).holder lock =
    if lock ∈ locks then some session else world.holder lock := rfl

theorem release_eq_some {lock : κ} :
    world.release session lock = some other ↔ world.holder lock = some other ∧ other ≠ session := by
  unfold release
  by_cases held : world.holder lock = some session
  · rw [if_pos held, held]
    simp [eq_comm]
  · rw [if_neg held]
    constructor
    · intro holds
      exact ⟨holds, fun same => held (same ▸ holds)⟩
    · exact fun holds => holds.1

end Frame

theorem Moved.sessions_of_ne {world : World ι σ κ ε α} {session : ι} {todo : Tx σ κ ε α}
    {written : σ → σ} (move : Moved world session todo written after) {other : ι}
    (different : other ≠ session) : after.sessions other = world.sessions other := by
  cases move with
  | issue same free => exact update_of_ne different ..
  | commit same => exact update_of_ne different ..
  | rollback => exact update_of_ne different ..

theorem Moved.committed {world : World ι σ κ ε α} {session : ι} {todo : Tx σ κ ε α}
    {written : σ → σ} (stands : world.sessions session = .active todo written)
    (move : Moved world session todo written after) {other : ι} {result : α}
    (ended : world.sessions other = .committed result) : after.sessions other = .committed result := by
  rw [move.sessions_of_ne, ended]
  intro same
  rw [same, stands] at ended
  cases ended

variable {before : World ι σ κ ε α}

theorem eq_of_commitsIn {session other : ι} {todo : Tx σ κ ε α} {written : σ → σ} {answer : α}
    (active : before.sessions session = .active todo written)
    (move : Moved before session todo written after)
    (commits : CommitsIn other answer ⟨before, choice, after⟩) :
    other = session ∧ todo = .done answer := by
  obtain ⟨⟨_, stands⟩, ended⟩ := commits
  by_cases same : other = session
  · subst same
    rw [active] at stands
    cases stands
    exact ⟨rfl, rfl⟩
  · have stays := move.sessions_of_ne same
    exact absurd (ended.symm.trans (stays.trans stands)) nofun

/-- **Who commits in a step**: nobody, and the rows stay; or one session, with one answer. -/
theorem commitsIn_cases (accepted : exec choice before = .ok after) :
    (after.rows = before.rows ∧
      ∀ session answer, ¬CommitsIn session answer ⟨before, choice, after⟩) ∨
    ∃ session answer, CommitsIn session answer ⟨before, choice, after⟩ ∧
      ∀ other answered, CommitsIn other answered ⟨before, choice, after⟩ →
        other = session ∧ answered = answer := by
  obtain ⟨session, todo, written, active, move⟩ := moved accepted
  have nobody : (∀ answer, after.sessions session ≠ .committed answer) →
      ∀ other answer, ¬CommitsIn other answer ⟨before, choice, after⟩ := by
    intro uncommitted other answer commits
    obtain ⟨rfl, _⟩ := eq_of_commitsIn active move commits
    exact uncommitted answer commits.2
  cases move with
  | issue same free => exact Or.inl ⟨rfl, nobody (by simp)⟩
  | rollback => exact Or.inl ⟨rfl, nobody (by simp)⟩
  | @commit answer is =>
    subst is
    refine Or.inr ⟨session, answer, ⟨⟨written, active⟩, sessions_commit⟩, ?_⟩
    intro other answered commits
    obtain ⟨rfl, same⟩ := eq_of_commitsIn active (.commit rfl) commits
    cases same
    exact ⟨rfl, rfl⟩

/-- **How a session goes on** in a step: not at all, or it issues a statement, or it ends. -/
theorem sessions_cases (accepted : exec choice before = .ok after) (session : ι) :
    after.sessions session = before.sessions session ∨
    (choice = .advance session ∧ ∃ locks write next written,
      before.sessions session = .active (.stmt locks write next) written ∧
      after.sessions session = .active (next (written before.rows)) (write ∘ written)) ∨
    (∃ result written, before.sessions session = .active (.done result) written ∧
      after.sessions session = .committed result) ∨
    after.sessions session = .aborted := by
  cases choice with
  | advance mover =>
    simp only [exec] at accepted
    by_cases same : session = mover
    · subst same
      split at accepted
      · rename_i locks write next written stands
        split at accepted
        · cases accepted
          exact Or.inr (Or.inl ⟨rfl, locks, write, next, written, stands, sessions_issue⟩)
        · cases accepted
      · rename_i result written stands
        cases accepted
        exact Or.inr (Or.inr (Or.inl ⟨result, written, stands, sessions_commit⟩))
      · cases accepted
        exact Or.inr (Or.inr (Or.inr sessions_rollback))
      · cases accepted
    · refine Or.inl ?_
      split at accepted
      · split at accepted
        · cases accepted
          exact update_of_ne same ..
        · cases accepted
      · cases accepted
        exact update_of_ne same ..
      · cases accepted
        exact update_of_ne same ..
      · cases accepted
  | abort mover =>
    simp only [exec] at accepted
    split at accepted
    · cases accepted
      by_cases same : session = mover
      · subst same
        exact Or.inr (Or.inr (Or.inr sessions_rollback))
      · exact Or.inl (update_of_ne same ..)
    · cases accepted

def MayAnswer (ends : α → Prop) (world : World ι σ κ ε α) (session : ι) : Prop :=
  match world.sessions session with
  | .active todo _ => todo.Keeps (fun _ => True) ends
  | .committed result => ends result
  | .aborted => True

theorem MayAnswer.step {ends : α → Prop} {session : ι} (may : before.MayAnswer ends session)
    (accepted : exec choice before = .ok after) : after.MayAnswer ends session := by
  unfold MayAnswer at may ⊢
  obtain same | ⟨_, locks, write, next, written, stands, goes⟩ | ⟨result, written, stands, goes⟩ |
    goes := sessions_cases accepted session
  · rwa [same]
  · rw [stands] at may
    rw [goes]
    cases may with
    | stmt stays follows => exact follows _ trivial
  · rw [stands] at may
    rw [goes]
    cases may with
    | done ended => exact ended
  · rw [goes]
    trivial

theorem MayAnswer.of_commitsIn {ends : α → Prop} {step : Step (World ι σ κ ε α) (Choice ι)}
    {session : ι} {answer : α} (may : step.before.MayAnswer ends session)
    (commits : CommitsIn session answer step) : ends answer := by
  obtain ⟨⟨written, stands⟩, _⟩ := commits
  unfold MayAnswer at may
  rw [stands] at may
  cases may with
  | done ended => exact ended

/-! ### The first to commit -/

/-- Before anyone commits, every session stands where running alone would have brought it; after
that, the first to commit has its own run to show for it. -/
def FirstAlone (programs : ι → Tx σ κ ε α) (rows : σ) (world : World ι σ κ ε α) : Prop :=
  (world.rows = rows ∧ (∀ session, ¬world.HasCommitted session) ∧
    ∀ session todo written, world.sessions session = .active todo written →
      (programs session).run rows = todo.run (written rows)) ∨
  ∃ first result after, (programs first).run rows = .ok (result, after) ∧
    world.sessions first = .committed result ∧
    (world.rows = after ∨ ∃ second, second ≠ first ∧ world.HasCommitted second)

variable {programs : ι → Tx σ κ ε α} {rows : σ}

theorem firstAlone {world : World ι σ κ ε α}
    (occurs : Occurs programs rows world) : FirstAlone programs rows world := by
  refine occurs.invariant ?_ ?_
  · refine Or.inl ⟨rfl, ?_, ?_⟩
    · rintro session ⟨result, ended⟩
      cases ended
    · intro session todo written stands
      cases stands
      rfl
  · intro choice before after holds accepted
    obtain ⟨session, todo, written, stands, move⟩ := moved accepted
    rcases holds with ⟨same, nobody, along⟩ | ⟨first, result, reached, ran, ended, only⟩
    · -- nobody has committed yet; the other sessions are as they were
      have still : (∀ result, after.sessions session ≠ .committed result) →
          (∀ todo written, after.sessions session = .active todo written →
            (programs session).run rows = todo.run (written rows)) →
          after.rows = rows → FirstAlone programs rows after := by
        intro uncommitted alone sameRows
        refine Or.inl ⟨sameRows, fun other => ?_, fun other todo written active => ?_⟩
        · by_cases mine : other = session
          · rintro ⟨result, ended⟩
            exact uncommitted result (mine ▸ ended)
          · rw [HasCommitted, move.sessions_of_ne mine]
            exact nobody other
        · by_cases mine : other = session
          · subst mine
            exact alone todo written active
          · rw [move.sessions_of_ne mine] at active
            exact along other todo written active
      cases move with
      | @issue locks write next is free =>
        refine still (by simp) ?_ same
        intro todo' written' active
        rw [sessions_issue] at active
        cases active
        rw [along _ _ _ stands, is, same]
        rfl
      | @commit result is =>
        refine Or.inr ⟨session, result, written rows, ?_, sessions_commit, Or.inl ?_⟩
        · rw [along _ _ _ stands, is, Tx.run_done]
        · rw [rows_commit, same]
      | rollback => exact still (by simp) (by simp) same
    · refine Or.inr ⟨first, result, reached, ran, move.committed stands ended, ?_⟩
      rcases only with reachedStill | ⟨second, different, value, endedToo⟩
      · cases move with
        | issue same free => exact Or.inl reachedStill
        | rollback => exact Or.inl reachedStill
        | commit same =>
          refine Or.inr ⟨session, ?_, _, sessions_commit⟩
          intro mine
          rw [mine, ended] at stands
          cases stands
      · exact Or.inr ⟨second, different, value, move.committed stands endedToo⟩

theorem first_ran_alone {world : World ι σ κ ε α} (occurs : Occurs programs rows world)
    {session : ι} (committed : world.HasCommitted session) :
    ∃ first result after, (programs first).run rows = .ok (result, after) ∧
      world.HasCommitted first ∧
      ((∀ second, world.HasCommitted second → second = first) → world.rows = after) := by
  rcases firstAlone occurs with ⟨_, nobody, _⟩ | ⟨first, result, after, ran, ended, only⟩
  · exact absurd committed (nobody session)
  · refine ⟨first, result, after, ran, ⟨result, ended⟩, fun alone => ?_⟩
    rcases only with same | ⟨second, different, committed⟩
    · exact same
    · exact absurd (alone second committed) different

theorem rows_of_nobody {world : World ι σ κ ε α} (occurs : Occurs programs rows world)
    (nobody : ∀ session, ¬world.HasCommitted session) :
    world.rows = rows := by
  rcases firstAlone occurs with ⟨same, _, _⟩ | ⟨first, result, _, _, ended, _⟩
  · exact same
  · exact absurd ⟨result, ended⟩ (nobody first)

/-- **While not both of two sessions have committed, the rows are the first ones or those that one
of them leaves when run alone.** -/
theorem rows_of_one (property : σ → Prop) {programs : Bool → Tx σ κ ε α}
    {world : World Bool σ κ ε α} (occurs : Occurs programs rows world) (one : ¬world.BothCommitted)
    (initially : property rows)
    (alone : ∀ session result after, (programs session).run rows = .ok (result, after) →
      property after) : property world.rows := by
  by_cases nobody : ∀ session, ¬world.HasCommitted session
  · rw [rows_of_nobody occurs nobody]
    exact initially
  · obtain ⟨session, committed⟩ := not_forall_not.mp nobody
    obtain ⟨first, result, after, ran, firstCommitted, only⟩ := first_ran_alone occurs committed
    rw [only]
    · exact alone first result after ran
    · intro second secondCommitted
      cases first <;> cases second
      · rfl
      · exact absurd ⟨firstCommitted, secondCommitted⟩ one
      · exact absurd ⟨secondCommitted, firstCommitted⟩ one
      · rfl

/-! ### What every statement keeps -/

def Session.Keeps (kept : σ → Prop) (ends : α → Prop) : Session σ κ ε α → Prop
  | .active todo written => todo.Keeps kept ends ∧ ∀ state, kept state → kept (written state)
  | .committed result => ends result
  | .aborted => True

theorem kept_of_reachable {world : World ι σ κ ε α} {kept : σ → Prop} {ends : ι → α → Prop}
    (keeps : ∀ session, (programs session).Keeps kept (ends session)) (initially : kept rows)
    (occurs : Occurs programs rows world) :
    kept world.rows ∧ ∀ session, Session.Keeps kept (ends session) (world.sessions session) := by
  refine Reachable.invariant (P := fun world => kept world.rows ∧
    ∀ session, Session.Keeps kept (ends session) (world.sessions session)) occurs ?_ ?_
  · exact ⟨initially, fun session => ⟨keeps session, fun _ holds => holds⟩⟩
  rintro choice before after ⟨holds, each⟩ accepted
  obtain ⟨session, todo, written, stands, move⟩ := moved accepted
  have statements := each session
  rw [stands] at statements
  obtain ⟨statements, soFar⟩ := statements
  have others : Session.Keeps kept (ends session) (after.sessions session) →
      ∀ other, Session.Keeps kept (ends other) (after.sessions other) := by
    intro mine other
    by_cases same : other = session
    · exact same ▸ mine
    · rw [move.sessions_of_ne same]
      exact each other
  cases move with
  | @issue locks write next is free =>
    subst is
    refine ⟨holds, others ?_⟩
    rw [sessions_issue]
    cases statements with
    | stmt stays follows =>
      exact ⟨follows _ (soFar _ holds), fun state known => stays _ (soFar state known)⟩
  | commit is =>
    subst is
    refine ⟨soFar _ holds, others ?_⟩
    rw [sessions_commit]
    cases statements with
    | done ended => exact ended
  | rollback =>
    refine ⟨holds, others ?_⟩
    rw [sessions_rollback]
    trivial

theorem answered_of_committed {world : World ι σ κ ε α} {kept : σ → Prop} {ends : ι → α → Prop}
    (keeps : ∀ session, (programs session).Keeps kept (ends session)) (initially : kept rows)
    (occurs : Occurs programs rows world) {session : ι} (committed : world.HasCommitted session) :
    ∃ result, ends session result := by
  obtain ⟨result, ended⟩ := committed
  have answered := (kept_of_reachable keeps initially occurs).2 session
  rw [ended] at answered
  exact ⟨result, answered⟩

/-! ### A common lock -/

/-- Rows that come from running tails of the sessions one after the other. -/
inductive Serial (tails : ι → Tx σ κ ε α → Prop) (rows : σ) : List ι → σ → Prop
  | nil : Serial tails rows [] rows
  | snoc {history : List ι} {before after : σ} {session : ι} {tail : Tx σ κ ε α} {result : α}
      (earlier : Serial tails rows history before) (one : tails session tail)
      (ran : tail.run before = .ok (result, after)) :
      Serial tails rows (history ++ [session]) after

/-- Where a session stands that takes `lock` before it writes: it still only reads, or it holds the
lock and has run a part of its tail on the committed rows. -/
def Queued (lock : κ) (kept : σ → Prop) (tails : ι → Tx σ κ ε α → Prop) (world : World ι σ κ ε α)
    (session : ι) : Prop :=
  ∀ todo written, world.sessions session = .active todo written →
    (todo.Defers lock kept (tails session) ∧ written = id) ∨
      (world.holder lock = some session ∧
        ∃ tail, tails session tail ∧ tail.run world.rows = todo.run (written world.rows))

/-- The committed sessions have run one after the other, and the others queue for the lock. -/
structure Serialized (lock : κ) (kept : σ → Prop) (tails : ι → Tx σ κ ε α → Prop) (rows : σ)
    (world : World ι σ κ ε α) : Prop where
  holds : kept world.rows
  history : ∃ history, Serial tails rows history world.rows ∧ history.Nodup ∧
    ∀ session, session ∈ history ↔ world.HasCommitted session
  queued : ∀ session, world.Queued lock kept tails session

section Serialized

variable {lock : κ} {kept : σ → Prop} {tails : ι → Tx σ κ ε α → Prop}

theorem Queued.of_same {before after : World ι σ κ ε α} {session : ι}
    (queued : before.Queued lock kept tails session)
    (sameSession : after.sessions session = before.sessions session)
    (sameHold : before.holder lock = some session →
      after.holder lock = some session ∧ after.rows = before.rows) :
    after.Queued lock kept tails session := by
  intro todo written active
  rw [sameSession] at active
  rcases queued todo written active with waits | ⟨holds, tail, one, along⟩
  · exact Or.inl waits
  · obtain ⟨holdsStill, sameRows⟩ := sameHold holds
    exact Or.inr ⟨holdsStill, tail, one, by rw [sameRows, along]⟩

theorem Moved.hasCommitted_iff {world after : World ι σ κ ε α} {session : ι} {todo : Tx σ κ ε α}
    {written : σ → σ} (stands : world.sessions session = .active todo written)
    (move : Moved world session todo written after)
    (uncommitted : ∀ result, after.sessions session ≠ .committed result) (other : ι) :
    after.HasCommitted other ↔ world.HasCommitted other := by
  constructor
  · rintro ⟨result, ended⟩
    have different : other ≠ session := by
      intro same
      exact uncommitted result (same ▸ ended)
    exact ⟨result, by rw [← move.sessions_of_ne different, ended]⟩
  · rintro ⟨result, ended⟩
    exact ⟨result, move.committed stands ended⟩

theorem serialized {programs : ι → Tx σ κ ε α} {rows : σ} {world : World ι σ κ ε α}
    (defers : ∀ session, (programs session).Defers lock kept (tails session)) (initially : kept rows)
    (stays : ∀ session tail before result after, tails session tail → kept before →
      tail.run before = .ok (result, after) → kept after)
    (occurs : Occurs programs rows world) : Serialized lock kept tails rows world := by
  refine occurs.invariant ?_ ?_
  · refine ⟨initially, ⟨[], .nil, List.nodup_nil, fun session => ?_⟩, fun session => ?_⟩
    · constructor
      · nofun
      · rintro ⟨result, ended⟩
        cases ended
    · intro todo written active
      cases active
      exact Or.inl ⟨defers session, rfl⟩
  · rintro choice before after ⟨holds, ⟨history, serial, nodup, members⟩, queued⟩ accepted
    obtain ⟨session, todo, written, stands, move⟩ := moved accepted
    have step := move
    cases move with
    | @issue locks write next is free =>
      subst is
      refine ⟨holds, ⟨history, serial, nodup, fun other => ?_⟩, fun other => ?_⟩
      · rw [members, step.hasCommitted_iff stands (by simp)]
      · by_cases mine : other = session
        · subst mine
          intro todo' written' active
          rw [sessions_issue] at active
          cases active
          rcases queued _ _ _ stands with ⟨waits, rfl⟩ | ⟨holdsLock, tail, one, along⟩
          · cases waits with
            | read follows => exact Or.inl ⟨follows _ holds, rfl⟩
            | tail takes one =>
              refine Or.inr ⟨if_pos takes, _, one, ?_⟩
              rfl
          · refine Or.inr ⟨?_, tail, one, along⟩
            show (if lock ∈ locks then some other else before.holder lock) = some other
            rw [holdsLock, ite_self]
        · refine (queued other).of_same (step.sessions_of_ne mine) fun held => ⟨?_, rfl⟩
          have elsewhere : lock ∉ locks := by
            intro taken
            rcases free lock taken with nobody | self
            · rw [nobody] at held
              cases held
            · rw [self] at held
              cases held
              exact mine rfl
          exact (if_neg elsewhere).trans held
    | @commit result is =>
      subst is
      rcases queued session _ _ stands with ⟨waits, _⟩ | ⟨held, tail, one, along⟩
      · cases waits
      · have alone : ∀ other, before.holder lock = some other → other = session := by
          intro other holdsToo
          rw [held] at holdsToo
          exact (Option.some.inj holdsToo).symm
        refine ⟨stays session tail _ _ _ one holds along,
          ⟨history ++ [session], .snoc serial one along, ?_, fun other => ?_⟩, fun other => ?_⟩
        · refine List.nodup_append.mpr ⟨nodup, List.pairwise_singleton _ _, ?_⟩
          intro earlier old later new same
          rw [List.mem_singleton.mp new] at same
          obtain ⟨value, ended⟩ := (members earlier).mp old
          rw [same, stands] at ended
          cases ended
        · rw [List.mem_append, List.mem_singleton, members]
          constructor
          · rintro (⟨value, ended⟩ | rfl)
            · exact ⟨value, step.committed stands ended⟩
            · exact ⟨result, sessions_commit⟩
          · rintro ⟨value, ended⟩
            by_cases mine : other = session
            · exact Or.inr mine
            · exact Or.inl ⟨value, by rw [← step.sessions_of_ne mine, ended]⟩
        · by_cases mine : other = session
          · subst mine
            intro todo written active
            rw [sessions_commit] at active
            cases active
          · exact (queued other).of_same (step.sessions_of_ne mine)
              fun holdsToo => absurd (alone other holdsToo) mine
    | rollback =>
      refine ⟨holds, ⟨history, serial, nodup, fun other => ?_⟩, fun other => ?_⟩
      · rw [members, step.hasCommitted_iff stands (by simp)]
      · by_cases mine : other = session
        · subst mine
          intro todo written active
          rw [sessions_rollback] at active
          cases active
        · exact (queued other).of_same (step.sessions_of_ne mine)
            fun held => ⟨release_eq_some.mpr ⟨held, mine⟩, rfl⟩

end Serialized

/-! ### Being overtaken -/

theorem issue_nil {world : World ι σ κ ε α} {session : ι} {todo : Tx σ κ ε α} {written : σ → σ}
    (stands : world.sessions session = .active todo written) :
    world.issue session [] todo written = world := by
  have same : update world.sessions session (.active todo written) = world.sessions := by
    rw [← stands]
    exact Function.update_eq_self session world.sessions
  have hold : world.acquire session [] = world.holder := by
    funext lock
    exact if_neg List.not_mem_nil
  unfold issue
  rw [same, hold]

theorem issue_issue (world : World ι σ κ ε α) (session : ι) (first second : List κ)
    (todo rest : Tx σ κ ε α) (written later : σ → σ) :
    (world.issue session first todo written).issue session second rest later =
      world.issue session (first ++ second) rest later := by
  have hold : (world.issue session first todo written).acquire session second =
      world.acquire session (first ++ second) := by
    funext lock
    simp only [acquire, issue, List.mem_append]
    by_cases early : lock ∈ first <;> simp [early]
  unfold issue at hold ⊢
  rw [hold]
  simp only [Function.update_idem]

/-- **A session whose locks are free can be taken along its own path.** -/
theorem reachable_issue {world : World ι σ κ ε α} {session : ι} {todo rest : Tx σ κ ε α}
    {written writes : σ → σ} {locks : List κ}
    (stands : world.sessions session = .active todo written)
    (path : todo.Path (written world.rows) rest writes locks) (free : world.Free session locks) :
    Reachable exec world (world.issue session locks rest (writes ∘ written)) := by
  generalize seen : written world.rows = state at path
  induction path generalizing world written with
  | refl tx state =>
    have same : world.issue session [] tx (id ∘ written) = world := issue_nil stands
    rw [same]
    exact .init
  | @stmt first later write next state rest writes follows ih =>
    have freeFirst : world.Free session first :=
      fun lock taken => free lock (List.mem_append_left _ taken)
    have move : exec (.advance session) world =
        .ok (world.issue session first (next state) (write ∘ written)) := by
      simp only [exec, stands, seen]
      exact if_pos freeFirst
    have freeLater : (world.issue session first (next state) (write ∘ written)).Free session
        later := by
      intro lock taken
      by_cases already : lock ∈ first
      · exact Or.inr (if_pos already)
      · rcases free lock (List.mem_append_right _ taken) with nobody | self
        · exact Or.inl ((if_neg already).trans nobody)
        · exact Or.inr ((if_neg already).trans self)
    have further := ih sessions_issue freeLater (congrArg write seen)
    rw [issue_issue] at further
    exact (Reachable.step (.advance session) .init move).trans further

theorem reachable_commit {world : World ι σ κ ε α} {session : ι} {todo : Tx σ κ ε α}
    {written writes : σ → σ} {locks : List κ} {result : α}
    (stands : world.sessions session = .active todo written)
    (path : todo.Path (written world.rows) (.done result) writes locks)
    (free : world.Free session locks) :
    Reachable exec world
      ((world.issue session locks (.done result) (writes ∘ written)).commit session result
        (writes ∘ written)) := by
  refine .step (.advance session) (reachable_issue stands path free) ?_
  simp only [exec, sessions_issue]

/-- **Overtaking.** -/
theorem exists_overtaking {after : σ} {first second : ι} (different : first ≠ second)
    {rest : Tx σ κ ε α} {before writes : σ → σ} {held taken : List κ} {one other : α}
    (pauses : (programs first).Path rows rest before held)
    (overtakes : (programs second).Path rows (.done other) writes taken)
    (apart : ∀ lock ∈ taken, lock ∉ held)
    (resumes : rest.run (before (writes rows)) = .ok (one, after)) :
    ∃ world, Occurs programs rows world ∧ world.rows = after ∧
      world.sessions first = .committed one ∧ world.sessions second = .committed other := by
  obtain ⟨later, more, finishes, ends⟩ := Tx.Path.of_run resumes
  -- the first session up to its pause
  let paused := (start programs rows).issue first held rest before
  have toPause : Reachable exec (start programs rows) paused :=
    reachable_issue rfl pauses fun _ _ => Or.inl rfl
  -- the second session, from beginning to end
  let overtaken := (paused.issue second taken (.done other) writes).commit second other writes
  have secondStands : paused.sessions second = .active (programs second) id :=
    update_of_ne different.symm ..
  have secondCommits : Reachable exec paused overtaken :=
    reachable_commit secondStands overtakes fun lock needs => Or.inl (if_neg (apart lock needs))
  -- the first session to its end
  have firstStands : overtaken.sessions first = .active rest before := by
    show update (update paused.sessions second _) second _ first = _
    rw [update_of_ne different, update_of_ne different]
    exact sessions_issue
  have free : overtaken.Free first more := by
    intro lock _
    cases holds : overtaken.holder lock with
    | none => exact Or.inl rfl
    | some session =>
      obtain ⟨heldBefore, notSecond⟩ := release_eq_some.mp holds
      rw [holder_issue] at heldBefore
      split at heldBefore
      · exact absurd (Option.some.inj heldBefore).symm notSecond
      · rw [holder_issue] at heldBefore
        split at heldBefore
        · exact Or.inr heldBefore.symm
        · cases heldBefore
  have firstCommits := reachable_commit firstStands finishes free
  refine ⟨_, (toPause.trans secondCommits).trans firstCommits, ends, sessions_commit, ?_⟩
  show update (update overtaken.sessions first _) first _ second = _
  rw [update_of_ne different.symm, update_of_ne different.symm]
  exact sessions_commit

end World

end Relational
