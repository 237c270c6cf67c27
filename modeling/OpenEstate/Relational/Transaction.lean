/-
**Transactions as sequences of statements.**

A `Tx` is what a service sends to the database between `BEGIN` and `COMMIT`: statements, each with
the row locks it takes and the rows it writes, and the checks between them. The next statement
depends on what the last one saw. Written with `do`, a transaction reads like the service.

* `Tx.run` runs a transaction alone, to its commit or its error;
* `Tx.Path` is a part of such a run: the writes made and the locks taken on the way;
* `Tx.Keeps` says that every statement keeps a condition on the state, and that a commit answers
  only certain results (none at all, if the transaction is bound to fail);
* `Tx.Writes` says what the statements write, `Tx.WritesLast` that only the last one writes;
* `Tx.ReadOnly` and `Tx.Defers` single out the transactions that only read until they take a lock.
-/

import OpenEstate.Relational.Outcome

namespace Relational

variable {σ κ ε α β γ : Type}

/-- A transaction. A statement takes locks and writes, and the rest depends on the state the
statement was issued in. -/
inductive Tx (σ κ ε α : Type) where
  | done (result : α)
  | fail (error : ε)
  | stmt (locks : List κ) (write : σ → σ) (next : σ → Tx σ κ ε α)

namespace Tx

/-! ### Building transactions -/

def bind : Tx σ κ ε α → (α → Tx σ κ ε β) → Tx σ κ ε β
  | done result, later => later result
  | fail error, _ => fail error
  | stmt locks write next, later => stmt locks write fun seen => (next seen).bind later

instance : Monad (Tx σ κ ε) where
  pure := done
  bind := bind

def check : Except ε α → Tx σ κ ε α
  | .ok value => done value
  | .error error => fail error

def read (query : σ → α) : Tx σ κ ε α :=
  stmt [] id fun seen => done (query seen)

def query (ask : σ → Except ε α) : Tx σ κ ε α :=
  stmt [] id fun seen => check (ask seen)

def insert (change : σ → σ) : Tx σ κ ε Unit :=
  stmt [] change fun _ => done ()

def insertReturning (change : σ → σ) (query : σ → α) : Tx σ κ ε α :=
  stmt [] change fun seen => done (query seen)

def update (lock : κ) (change : σ → σ) : Tx σ κ ε Unit :=
  stmt [lock] change fun _ => done ()

def updateReturning (lock : κ) (change : σ → σ) (query : σ → α) : Tx σ κ ε α :=
  stmt [lock] change fun seen => done (query seen)

/-- An update of many rows. It locks the rows it finds, and writes those that are still to be
written when it has them. -/
def updateMany (find : σ → List β) (lock : β → κ) (change : List β → σ → σ) : Tx σ κ ε Unit :=
  stmt [] id fun seen => stmt ((find seen).map lock) (change (find seen)) fun _ => done ()

def forEach : List α → (α → Tx σ κ ε Unit) → Tx σ κ ε Unit
  | [], _ => done ()
  | element :: rest, issue => (issue element).bind fun _ => forEach rest issue

def answering (query : σ → Option β) : Tx σ κ ε α → Tx σ κ ε (Option β)
  | done _ => done none
  | fail error => fail error
  | stmt locks write next => stmt locks write fun seen => (next seen).bind fun _ => done (query seen)

theorem bind_eq (first : Tx σ κ ε α) (later : α → Tx σ κ ε β) :
    first >>= later = first.bind later := rfl

theorem bind_bind (first : Tx σ κ ε α) (second : α → Tx σ κ ε β) (third : β → Tx σ κ ε γ) :
    (first.bind second).bind third = first.bind fun value => (second value).bind third := by
  induction first with
  | done result => rfl
  | fail error => rfl
  | stmt locks write next ih =>
    simp only [bind]
    congr 1
    funext seen
    exact ih seen

theorem forEach_append (first second : List α) (issue : α → Tx σ κ ε Unit) :
    forEach (first ++ second) issue =
      (forEach first issue).bind fun _ => forEach second issue := by
  induction first with
  | nil => rfl
  | cons element rest ih =>
    rw [List.cons_append, forEach, forEach, bind_bind]
    simp only [ih]

/-! ### Running alone -/

/-- Run a transaction with nothing else going on: its result and the state it commits, or the
error it fails with. -/
def run : Tx σ κ ε α → σ → Except ε (α × σ)
  | done result, state => .ok (result, state)
  | fail error, _ => .error error
  | stmt _ write next, state => (next state).run (write state)

@[simp] theorem run_done (result : α) (state : σ) :
    (done result : Tx σ κ ε α).run state = .ok (result, state) := rfl

@[simp] theorem run_read (query : σ → α) (state : σ) :
    (read query : Tx σ κ ε α).run state = .ok (query state, state) := rfl

@[simp] theorem run_insert (change : σ → σ) (state : σ) :
    (insert change : Tx σ κ ε Unit).run state = .ok ((), change state) := rfl

@[simp] theorem run_insertReturning (change : σ → σ) (query : σ → α) (state : σ) :
    (insertReturning change query : Tx σ κ ε α).run state = .ok (query state, change state) := rfl

@[simp] theorem run_update (lock : κ) (change : σ → σ) (state : σ) :
    (update lock change : Tx σ κ ε Unit).run state = .ok ((), change state) := rfl

@[simp] theorem run_updateReturning (lock : κ) (change : σ → σ) (query : σ → α) (state : σ) :
    (updateReturning lock change query : Tx σ κ ε α).run state = .ok (query state, change state) :=
  rfl

@[simp] theorem run_check (computed : Except ε α) (state : σ) :
    (check computed : Tx σ κ ε α).run state = computed >>= fun value => .ok (value, state) := by
  cases computed with
  | ok value => rfl
  | error error => rfl

/-! The first statement of a transaction that goes on. -/

theorem run_read_bind (query : σ → α) (later : α → Tx σ κ ε β) (state : σ) :
    (read query >>= later).run state = (later (query state)).run state := rfl

theorem run_insert_bind (change : σ → σ) (later : Unit → Tx σ κ ε β) (state : σ) :
    (insert change >>= later).run state = (later ()).run (change state) := rfl

theorem run_update_bind (lock : κ) (change : σ → σ) (later : Unit → Tx σ κ ε β) (state : σ) :
    (update lock change >>= later).run state = (later ()).run (change state) := rfl

variable {answer : β × σ}

theorem run_check_bind_eq_ok {computed : Except ε α} {later : α → Tx σ κ ε β} {state : σ} :
    (check computed >>= later).run state = .ok answer ↔
      ∃ value, computed = .ok value ∧ (later value).run state = .ok answer := by
  cases computed with
  | ok value =>
    constructor
    · exact fun ran => ⟨value, rfl, ran⟩
    · rintro ⟨_, same, ran⟩
      cases same
      exact ran
  | error error =>
    constructor
    · intro ran
      cases ran
    · rintro ⟨_, impossible, _⟩
      cases impossible

theorem run_query_bind_eq_ok {ask : σ → Except ε α} {later : α → Tx σ κ ε β} {state : σ} :
    (query ask >>= later).run state = .ok answer ↔
      ∃ value, ask state = .ok value ∧ (later value).run state = .ok answer :=
  run_check_bind_eq_ok

theorem run_bind (first : Tx σ κ ε α) (later : α → Tx σ κ ε β) (state : σ) :
    (first >>= later).run state =
      first.run state >>= fun answer => (later answer.1).run answer.2 := by
  rw [bind_eq]
  induction first generalizing state with
  | done result => rfl
  | fail error => rfl
  | stmt locks write next ih => exact ih state (write state)

variable {first : Tx σ κ ε α}

/-- **A sequence commits exactly when both halves do.** -/
theorem run_bind_eq_ok {later : α → Tx σ κ ε β} {state : σ} :
    (first >>= later).run state = .ok answer ↔
      ∃ value middle, first.run state = .ok (value, middle) ∧
        (later value).run middle = .ok answer := by
  rw [run_bind, bind_eq_ok]
  constructor
  · rintro ⟨⟨value, middle⟩, ran, continued⟩
    exact ⟨value, middle, ran, continued⟩
  · rintro ⟨value, middle, ran, continued⟩
    exact ⟨(value, middle), ran, continued⟩

theorem run_bind_of_eq_ok {later : α → Tx σ κ ε β} {state middle : σ} {value : α}
    (ran : first.run state = .ok (value, middle)) :
    (first >>= later).run state = (later value).run middle := by
  rw [run_bind, ran]
  rfl

theorem run_check_eq_ok {computed : Except ε α} {state : σ} {answer : α × σ} :
    (check computed : Tx σ κ ε α).run state = .ok answer ↔
      computed = .ok answer.1 ∧ state = answer.2 := by
  cases computed with
  | ok value =>
    simp only [check, run, Except.ok.injEq]
    exact Prod.ext_iff
  | error error => simp [check, run]

/-! ### Parts of a run -/

/-- `first.Path state rest write locks`: run alone from `state`, the transaction comes to `rest`
after writing `write`, with `locks` taken. -/
inductive Path : Tx σ κ ε α → σ → Tx σ κ ε α → (σ → σ) → List κ → Prop
  | refl (tx : Tx σ κ ε α) (state : σ) : Path tx state tx id []
  | stmt {locks later : List κ} {write : σ → σ} {next : σ → Tx σ κ ε α} {state : σ}
      {rest : Tx σ κ ε α} {writes : σ → σ} (follows : Path (next state) (write state) rest writes later) :
      Path (.stmt locks write next) state rest (writes ∘ write) (locks ++ later)

theorem Path.trans {middle last : Tx σ κ ε α} {state : σ} {before after : σ → σ}
    {taken more : List κ} (path : first.Path state middle before taken)
    (further : middle.Path (before state) last after more) :
    first.Path state last (after ∘ before) (taken ++ more) := by
  induction path with
  | refl tx state => exact further
  | stmt follows ih =>
    rw [List.append_assoc]
    exact Path.stmt (ih further)

theorem Path.bind {rest : Tx σ κ ε α} {state : σ} {writes : σ → σ} {locks : List κ}
    (path : first.Path state rest writes locks) (later : α → Tx σ κ ε β) :
    (first >>= later).Path state (rest >>= later) writes locks := by
  induction path with
  | refl tx state => exact .refl _ _
  | stmt follows ih => exact Path.stmt ih

theorem Path.run_eq {rest : Tx σ κ ε α} {state : σ} {writes : σ → σ} {locks : List κ}
    (path : first.Path state rest writes locks) : first.run state = rest.run (writes state) := by
  induction path with
  | refl tx state => rfl
  | stmt follows ih => exact ih

theorem Path.of_run {tx : Tx σ κ ε α} {state after : σ} {result : α}
    (ran : tx.run state = .ok (result, after)) :
    ∃ writes locks, tx.Path state (.done result) writes locks ∧ writes state = after := by
  induction tx generalizing state with
  | done value =>
    cases ran
    exact ⟨id, [], .refl _ _, rfl⟩
  | fail error => cases ran
  | stmt locks write next ih =>
    obtain ⟨writes, later, path, ends⟩ := ih state ran
    exact ⟨writes ∘ write, locks ++ later, Path.stmt path, ends⟩

theorem Path.insert (change : σ → σ) (state : σ) :
    (Tx.insert change : Tx σ κ ε Unit).Path state (.done ()) change [] :=
  Path.stmt (.refl _ _)

theorem Path.update (lock : κ) (change : σ → σ) (state : σ) :
    (Tx.update lock change : Tx σ κ ε Unit).Path state (.done ()) change [lock] :=
  Path.stmt (.refl _ _)

section Path

variable {later : α → Tx σ κ ε β} {rest : Tx σ κ ε β} {state : σ} {writes : σ → σ} {locks : List κ}

theorem Path.read_bind {query : σ → α} (follows : (later (query state)).Path state rest writes locks) :
    (Tx.read query >>= later).Path state rest writes locks := by
  show (Tx.stmt [] id fun seen => later (query seen)).Path state rest (writes ∘ id) ([] ++ locks)
  exact .stmt follows

variable {value : α}

theorem Path.check_bind {computed : Except ε α} (answered : computed = .ok value)
    (follows : (later value).Path state rest writes locks) :
    (Tx.check computed >>= later).Path state rest writes locks := by
  subst answered
  exact follows

theorem Path.ensure_bind {condition : Prop} [Decidable condition] {error : ε}
    {later : Unit → Tx σ κ ε β} (holds : condition)
    (follows : (later ()).Path state rest writes locks) :
    (Tx.check (ensure condition error) >>= later).Path state rest writes locks :=
  .check_bind (ensure_eq_ok.mpr holds) follows

theorem Path.orThrow_bind {found : Option α} {error : ε} (present : found = some value)
    (follows : (later value).Path state rest writes locks) :
    (Tx.check (orThrow found error) >>= later).Path state rest writes locks :=
  .check_bind (orThrow_eq_ok.mpr present) follows

theorem Path.check {computed : Except ε α} (answered : computed = .ok value)
    (state : σ) : (Tx.check computed : Tx σ κ ε α).Path state (.done value) id [] := by
  subst answered
  exact .refl _ _

theorem Path.updateReturning_bind {lock : κ} {change : σ → σ} {query : σ → α}
    (follows : (later (query state)).Path (change state) rest writes locks) :
    (Tx.updateReturning lock change query >>= later).Path state rest (writes ∘ change)
      (lock :: locks) :=
  .stmt follows

theorem Path.insert_bind {change : σ → σ} {later : Unit → Tx σ κ ε β}
    (follows : (later ()).Path (change state) rest writes locks) :
    (Tx.insert change >>= later).Path state rest (writes ∘ change) locks := by
  show (Tx.stmt [] change fun _ => later ()).Path state rest (writes ∘ change) ([] ++ locks)
  exact .stmt follows

end Path

theorem Path.andThen {later : α → Tx σ κ ε β} {rest : Tx σ κ ε β} {state : σ} {value : α}
    {before after : σ → σ} {taken more : List κ}
    (path : first.Path state (.done value) before taken)
    (further : (later value).Path (before state) rest after more) :
    (first >>= later).Path state rest (after ∘ before) (taken ++ more) :=
  (path.bind later).trans further

/-! ### What the statements keep -/

/-- Every statement keeps `kept`, and a commit answers a result in `ends`. -/
inductive Keeps (kept : σ → Prop) (ends : α → Prop) : Tx σ κ ε α → Prop
  | done {result : α} (ended : ends result) : Keeps kept ends (.done result)
  | fail (error : ε) : Keeps kept ends (.fail error)
  | stmt {locks : List κ} {write : σ → σ} {next : σ → Tx σ κ ε α}
      (stays : ∀ state, kept state → kept (write state))
      (follows : ∀ state, kept state → Keeps kept ends (next state)) :
      Keeps kept ends (.stmt locks write next)

section Keeps

variable {kept : σ → Prop} {ends : α → Prop} {finally_ : β → Prop}
variable {later : α → Tx σ κ ε β}

theorem Keeps.bind {first : Tx σ κ ε α} (keeps : first.Keeps kept ends)
    (then_ : ∀ value, ends value → (later value).Keeps kept finally_) :
    (first >>= later).Keeps kept finally_ := by
  induction keeps with
  | done ended => exact then_ _ ended
  | fail error => exact .fail error
  | stmt stays follows ih => exact .stmt stays ih

theorem keeps_true (tx : Tx σ κ ε α) : tx.Keeps (fun _ => True) fun _ => True := by
  induction tx with
  | done result => exact .done trivial
  | fail error => exact .fail error
  | stmt locks write next ih => exact .stmt (fun _ _ => trivial) fun state _ => ih state

theorem Keeps.mono {tx : Tx σ κ ε α} {loosely : α → Prop} (keeps : tx.Keeps kept ends)
    (implies : ∀ result, ends result → loosely result) : tx.Keeps kept loosely := by
  induction keeps with
  | done ended => exact .done (implies _ ended)
  | fail error => exact .fail error
  | stmt stays follows ih => exact .stmt stays ih

theorem Keeps.read_bind {query : σ → α}
    (follows : ∀ state, kept state → (later (query state)).Keeps kept finally_) :
    (Tx.read query >>= later).Keeps kept finally_ :=
  .stmt (fun _ holds => holds) follows

theorem Keeps.check_bind {computed : Except ε α}
    (follows : ∀ value, computed = .ok value → (later value).Keeps kept finally_) :
    (Tx.check computed >>= later).Keeps kept finally_ := by
  cases computed with
  | ok value => exact follows value rfl
  | error error => exact .fail error

variable {change : σ → σ}

theorem Keeps.insert_bind {later : Unit → Tx σ κ ε β}
    (stays : ∀ state, kept state → kept (change state)) (follows : (later ()).Keeps kept finally_) :
    (Tx.insert change >>= later).Keeps kept finally_ :=
  .stmt stays fun _ _ => follows

variable {lock : κ}

theorem Keeps.update_bind {later : Unit → Tx σ κ ε β}
    (stays : ∀ state, kept state → kept (change state)) (follows : (later ()).Keeps kept finally_) :
    (Tx.update lock change >>= later).Keeps kept finally_ :=
  .stmt stays fun _ _ => follows

theorem Keeps.updateReturning_bind {query : σ → α}
    (stays : ∀ state, kept state → kept (change state))
    (follows : ∀ value, (later value).Keeps kept finally_) :
    (Tx.updateReturning lock change query >>= later).Keeps kept finally_ :=
  .stmt stays fun _ _ => follows _

theorem Keeps.insert {ends : Unit → Prop} (stays : ∀ state, kept state → kept (change state))
    (ended : ends ()) :
    (Tx.insert change : Tx σ κ ε Unit).Keeps kept ends :=
  .stmt stays fun _ _ => .done ended

theorem Keeps.update {ends : Unit → Prop} (stays : ∀ state, kept state → kept (change state))
    (ended : ends ()) :
    (Tx.update lock change : Tx σ κ ε Unit).Keeps kept ends :=
  .stmt stays fun _ _ => .done ended

theorem Keeps.check {computed : Except ε α} (answers : ∀ value, computed = .ok value → ends value) :
    (Tx.check computed : Tx σ κ ε α).Keeps kept ends := by
  cases computed with
  | ok value => exact .done (answers value rfl)
  | error error => exact .fail error

theorem Keeps.run {tx : Tx σ κ ε α} (keeps : tx.Keeps kept ends) {state after : σ} {result : α}
    (holds : kept state) (ran : tx.run state = .ok (result, after)) : kept after ∧ ends result := by
  induction keeps generalizing state with
  | done ended =>
    cases ran
    exact ⟨holds, ended⟩
  | fail error => cases ran
  | stmt stays follows ih => exact ih state holds (stays state holds) ran

theorem Keeps.forEach {elements : List α} {issue : α → Tx σ κ ε Unit}
    (each : ∀ element ∈ elements, (issue element).Keeps kept fun _ => True) :
    (Tx.forEach elements issue).Keeps kept fun _ => True := by
  induction elements with
  | nil => exact .done trivial
  | cons element rest ih =>
    obtain ⟨first, later⟩ := List.forall_mem_cons.mp each
    exact first.bind fun _ _ => ih later

end Keeps

/-! ### What the statements write -/

inductive Writes (allowed : (σ → σ) → Prop) : Tx σ κ ε α → Prop
  | done (result : α) : Writes allowed (.done result)
  | fail (error : ε) : Writes allowed (.fail error)
  | stmt {locks : List κ} {write : σ → σ} {next : σ → Tx σ κ ε α} (one : allowed write)
      (follows : ∀ state, Writes allowed (next state)) : Writes allowed (.stmt locks write next)

section Writes

variable {allowed : (σ → σ) → Prop}
variable {later : α → Tx σ κ ε β}

theorem Writes.bind {first : Tx σ κ ε α} (writes : first.Writes allowed)
    (then_ : ∀ value, (later value).Writes allowed) : (first >>= later).Writes allowed := by
  induction writes with
  | done result => exact then_ result
  | fail error => exact .fail error
  | stmt one follows ih => exact .stmt one ih

variable {tx : Tx σ κ ε α}

theorem Writes.mono {loosely : (σ → σ) → Prop} (writes : tx.Writes allowed)
    (implies : ∀ write, allowed write → loosely write) : tx.Writes loosely := by
  induction writes with
  | done result => exact .done result
  | fail error => exact .fail error
  | stmt one follows ih => exact .stmt (implies _ one) ih

theorem Writes.read (nothing : allowed id) (query : σ → α) :
    (Tx.read query : Tx σ κ ε α).Writes allowed :=
  .stmt nothing fun _ => .done _

theorem Writes.check (computed : Except ε α) : (Tx.check computed : Tx σ κ ε α).Writes allowed := by
  cases computed with
  | ok value => exact .done value
  | error error => exact .fail error

theorem Writes.query (nothing : allowed id) (ask : σ → Except ε α) :
    (Tx.query ask : Tx σ κ ε α).Writes allowed :=
  .stmt nothing fun seen => .check (ask seen)

theorem Writes.forEach {elements : List α} {issue : α → Tx σ κ ε Unit}
    (each : ∀ element, (issue element).Writes allowed) :
    (Tx.forEach elements issue).Writes allowed := by
  induction elements with
  | nil => exact .done ()
  | cons element rest ih => exact (each element).bind fun _ => ih

theorem Writes.updateMany {find : σ → List β} {lock : β → κ} {change : List β → σ → σ}
    (nothing : allowed id) (each : ∀ found, allowed (change found)) :
    (Tx.updateMany find lock change : Tx σ κ ε Unit).Writes allowed :=
  .stmt nothing fun _ => .stmt (each _) fun _ => .done ()

variable {state : σ}

theorem Writes.run_eq (writes : tx.Writes (· = id)) {answer : α × σ}
    (ran : tx.run state = .ok answer) : answer.2 = state := by
  induction writes generalizing state with
  | done result =>
    cases ran
    rfl
  | fail error => cases ran
  | stmt one follows ih =>
    subst one
    exact ih state ran

theorem Writes.run_bind {first : Tx σ κ ε α} (writes : first.Writes (· = id)) {answer : β × σ}
    (ran : (first >>= later).run state = .ok answer) :
    ∃ value, first.run state = .ok (value, state) ∧ (later value).run state = .ok answer := by
  obtain ⟨value, middle, firstRan, laterRan⟩ := run_bind_eq_ok.mp ran
  obtain rfl : middle = state := writes.run_eq firstRan
  exact ⟨value, firstRan, laterRan⟩

/-- The last statement of a program is a certain write, and those before it write nothing. -/
inductive WritesLast (write : σ → σ) : Tx σ κ ε α → Prop
  | fail (error : ε) : WritesLast write (.fail error)
  | last {locks : List κ} {result : σ → α} :
    WritesLast write (.stmt locks write fun seen => .done (result seen))
  | more {locks : List κ} {next : σ → Tx σ κ ε α} (follows : ∀ seen, WritesLast write (next seen)) :
    WritesLast write (.stmt locks id next)

theorem Writes.writesLast_bind {write : σ → σ} {first : Tx σ κ ε α} (reads : first.Writes (· = id))
    (then_ : ∀ value, (later value).WritesLast write) :
    (first >>= later).WritesLast write := by
  induction reads with
  | done result => exact then_ result
  | fail error => exact .fail error
  | stmt one _ ih =>
    subst one
    exact .more ih

theorem Writes.run_kept {kept : σ → Prop} (writes : tx.Writes allowed)
    (each : ∀ write, allowed write → ∀ state, kept state → kept (write state)) {after : σ}
    {result : α} (initially : kept state)
    (ran : tx.run state = .ok (result, after)) : kept after := by
  induction writes generalizing state with
  | done result =>
    cases ran
    exact initially
  | fail error => cases ran
  | stmt one _ ih => exact ih state (each _ one state initially) ran

end Writes

/-! ### Reading before the first lock -/

inductive ReadOnly (kept : σ → Prop) (ends : α → Prop) : Tx σ κ ε α → Prop
  | done {result : α} (ended : ends result) : ReadOnly kept ends (.done result)
  | fail (error : ε) : ReadOnly kept ends (.fail error)
  | read {next : σ → Tx σ κ ε α} (follows : ∀ state, kept state → ReadOnly kept ends (next state)) :
      ReadOnly kept ends (.stmt [] id next)

/-- A transaction that only reads until it takes `lock`, and goes on as one of `tails`. -/
inductive Defers (lock : κ) (kept : σ → Prop) (tails : Tx σ κ ε α → Prop) : Tx σ κ ε α → Prop
  | fail (error : ε) : Defers lock kept tails (.fail error)
  | read {next : σ → Tx σ κ ε α} (follows : ∀ state, kept state → Defers lock kept tails (next state)) :
      Defers lock kept tails (.stmt [] id next)
  | tail {locks : List κ} {write : σ → σ} {next : σ → Tx σ κ ε α} (takes : lock ∈ locks)
      (one : tails (.stmt locks write next)) : Defers lock kept tails (.stmt locks write next)

section ReadOnly

variable {kept : σ → Prop} {ends : α → Prop} {finally_ : β → Prop}
variable {later : α → Tx σ κ ε β}

theorem ReadOnly.bind {first : Tx σ κ ε α} (reads : first.ReadOnly kept ends)
    (then_ : ∀ value, ends value → (later value).ReadOnly kept finally_) :
    (first >>= later).ReadOnly kept finally_ := by
  induction reads with
  | done ended => exact then_ _ ended
  | fail error => exact .fail error
  | read follows ih => exact .read ih

variable {tx : Tx σ κ ε α}

theorem ReadOnly.mono {loosely : α → Prop} (reads : tx.ReadOnly kept ends)
    (implies : ∀ result, ends result → loosely result) : tx.ReadOnly kept loosely := by
  induction reads with
  | done ended => exact .done (implies _ ended)
  | fail error => exact .fail error
  | read follows ih => exact .read ih

theorem ReadOnly.read_bind {query : σ → α}
    (follows : ∀ state, kept state → (later (query state)).ReadOnly kept finally_) :
    (Tx.read query >>= later).ReadOnly kept finally_ :=
  .read follows

theorem ReadOnly.check_bind {computed : Except ε α}
    (follows : ∀ value, computed = .ok value → (later value).ReadOnly kept finally_) :
    (Tx.check computed >>= later).ReadOnly kept finally_ := by
  cases computed with
  | ok value => exact follows value rfl
  | error error => exact .fail error

theorem ReadOnly.query_bind {ask : σ → Except ε α}
    (follows : ∀ value, (later value).ReadOnly kept finally_) :
    (Tx.query ask >>= later).ReadOnly kept finally_ :=
  .read fun _ _ => .check_bind fun value _ => follows value

theorem ReadOnly.check {computed : Except ε α} (answers : ∀ value, computed = .ok value → ends value) :
    (Tx.check computed : Tx σ κ ε α).ReadOnly kept ends := by
  cases computed with
  | ok value => exact .done (answers value rfl)
  | error error => exact .fail error

theorem Defers.bind {lock : κ} {tails : Tx σ κ ε β → Prop} {first : Tx σ κ ε α}
    (reads : first.ReadOnly kept ends)
    (then_ : ∀ value, ends value → (later value).Defers lock kept tails) :
    (first >>= later).Defers lock kept tails := by
  induction reads with
  | done ended => exact then_ _ ended
  | fail error => exact .fail error
  | read follows ih => exact .read ih

theorem ReadOnly.keeps (reads : tx.ReadOnly kept ends) : tx.Keeps kept ends := by
  induction reads with
  | done ended => exact .done ended
  | fail error => exact .fail error
  | read follows ih => exact .stmt (fun _ holds => holds) ih

theorem ReadOnly.writes (reads : tx.ReadOnly (fun _ => True) ends) :
    tx.Writes (· = id) := by
  induction reads with
  | done ended => exact .done _
  | fail error => exact .fail error
  | read follows ih => exact .stmt rfl fun state => ih state trivial

theorem ReadOnly.path (reads : tx.ReadOnly kept ends) {state : σ} (holds : kept state)
    {answer : α × σ} (ran : tx.run state = .ok answer) :
    tx.Path state (.done answer.1) id [] ∧ answer.2 = state := by
  induction reads with
  | done ended =>
    cases ran
    exact ⟨.refl _ _, rfl⟩
  | fail error => cases ran
  | read follows ih =>
    obtain ⟨path, same⟩ := ih state holds ran
    have read : (Tx.stmt [] id _ : Tx σ κ ε α).Path state _ (id ∘ id) ([] ++ []) := Path.stmt path
    exact ⟨read, same⟩

end ReadOnly

end Tx

end Relational
