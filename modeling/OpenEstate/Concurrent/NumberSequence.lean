/-
**Gap-free document numbers**, in the database as concurrent transactions see it.

`Store` adds the rows of `number_sequences`, and `RowLock` names the rows that transactions update.
`Statements` are a transaction of the services, run at READ COMMITTED: reads and insertions take no
row lock that another of these transactions would have to wait for, updates and the upsert of a
number sequence do. (The key-share locks of foreign keys do not block updates of other columns.)
Generated keys are random, so no other transaction can guess them; an inserted row is referred to
as the last one of its table, among the rows its own transaction sees.

`allocate` reads and increments the counter of a (company, kind, scope) in one upsert, whose row
lock is held to the end of the transaction. A `Caller` is any transaction that allocates numbers
among other statements; it answers the numbers it carries.

* `Store.allocated` is the next number of a sequence; what a session has allocated but not
  committed is, under every key, the run of numbers that starts there (`Caller.Counted`), and only
  the holder of a sequence's lock has any (`Numbered`);
* **`gap_free_numbering`**: in every schedule of any number of callers, the numbers that committed
  transactions carry under a key are exactly `1..n`, each carried once, and two of one company and
  kind are never formatted alike.
-/

import OpenEstate.Commission.Schema
import OpenEstate.Relational.Interleaving
import OpenEstate.Shared.FinancialYear

set_option linter.unusedSectionVars false

namespace OpenEstate

open Relational

/-! ### The database -/

structure SequenceKey where
  companyId : Nat
  kind : String
  scopeLabel : String
  deriving DecidableEq

/-- All tables, and the next value of every number sequence that has a row. -/
structure Store extends CommissionDb where
  nextValue : SequenceKey → Option Nat := fun _ => none

inductive RowLock
  | sequence (key : SequenceKey)
  | unit (id : Nat)
  | booking (id : Nat)
  | installment (id : Nat)
  | receipt (id : Nat)
  | refund (id : Nat)
  | commissionPayment (id : Nat)
  deriving DecidableEq

abbrev Statements (α : Type) := Tx Store RowLock ServiceError α

def Store.onDb (store : Store) (change : Db → Db) : Store :=
  { store with toDb := change store.toDb }

def Store.onBooks (store : Store) (change : Books → Books) : Store :=
  store.onDb fun db => { db with toBooks := change db.toBooks }

def Store.onCommission (store : Store) (change : CommissionDb → CommissionDb) : Store :=
  { store with toCommissionDb := change store.toCommissionDb }

/-! ### Allocation -/

/-- The number the next allocation under a key answers: one less than the next value it leaves. -/
def Store.allocated (store : Store) (key : SequenceKey) : Nat :=
  (store.nextValue key).getD 1

/-- Insert a sequence with the next value 2, or increment the one there is. -/
def Store.incrementSequence (store : Store) (key : SequenceKey) : Store :=
  { store with nextValue := Function.update store.nextValue key (some (store.allocated key + 1)) }

def NumberSequence.allocate (companyId : Nat) (kind scopeLabel : String) : Statements Nat :=
  Tx.updateReturning (.sequence ⟨companyId, kind, scopeLabel⟩)
    (fun store => store.incrementSequence ⟨companyId, kind, scopeLabel⟩)
    (fun store => store.allocated ⟨companyId, kind, scopeLabel⟩)

def NumberSequence.allocateForFy (companyId : Nat) (kind : String) (date : Date) (fyStartMonth : Nat) :
    Statements (Nat × String) := do
  let fyLabel := financialYearLabel date fyStartMonth
  let seq ← NumberSequence.allocate companyId kind fyLabel
  return (seq, fyLabel)

theorem Store.allocated_incrementSequence (store : Store) (key other : SequenceKey) :
    (store.incrementSequence key).allocated other =
      store.allocated other + if other = key then 1 else 0 := by
  show (Function.update store.nextValue key (some (store.allocated key + 1)) other).getD 1 = _
  by_cases same : other = key
  · subst same
    rw [if_pos rfl, Function.update_self, Option.getD_some]
  · rw [if_neg same, add_zero, Function.update_of_ne same]
    rfl

/-! ### Transactions that allocate -/

/-- A transaction that allocates numbers, among other statements that leave the sequences alone. -/
inductive Caller
  | commit
  | abort (error : ServiceError)
  | allocate (companyId : Nat) (kind scopeLabel : String) (next : Nat → Caller)
  | other (locks : List RowLock) (write : CommissionDb → CommissionDb) (next : Store → Caller)

/-- The statements of a caller that carries some numbers already; it answers all it carries. -/
def Caller.statements : Caller → List (SequenceKey × Nat) → Statements (List (SequenceKey × Nat))
  | .commit, carried => .done carried
  | .abort error, _ => .fail error
  | .allocate companyId kind scopeLabel next, carried =>
    (NumberSequence.allocate companyId kind scopeLabel).bind fun seq =>
      (next seq).statements (carried ++ [(⟨companyId, kind, scopeLabel⟩, seq)])
  | .other locks write next, carried =>
    .stmt locks (fun store => { store with toCommissionDb := write store.toCommissionDb })
      fun seen => (next seen).statements carried

def numbersOf (key : SequenceKey) (carried : List (SequenceKey × Nat)) : List Nat :=
  (carried.filter fun number => number.1 = key).map Prod.snd

def numbersCarried {ι : Type} (world : World ι Store RowLock ServiceError (List (SequenceKey × Nat)))
    (session : ι) : List (SequenceKey × Nat) :=
  match world.sessions session with
  | .committed carried => carried
  | _ => []

structure GapFree {ι : Type} (carried : ι → List (SequenceKey × Nat)) : Prop where
  exact : ∀ key, ∃ n, ∀ seq, (∃ session, (key, seq) ∈ carried session) ↔ 1 ≤ seq ∧ seq ≤ n
  once : ∀ (first second : ι) (i j : Nat) (number : SequenceKey × Nat),
    (carried first)[i]? = some number → (carried second)[j]? = some number →
      first = second ∧ i = j

def Store.opening (db : CommissionDb) : Store :=
  { toCommissionDb := db }

theorem numbersOf_append_singleton (key own : SequenceKey) (carried : List (SequenceKey × Nat))
    (seq : Nat) :
    numbersOf key (carried ++ [(own, seq)]) =
      numbersOf key carried ++ if key = own then [seq] else [] := by
  unfold numbersOf
  rw [List.filter_append, List.map_append]
  by_cases same : key = own
  · simp [same]
  · simp [same, Ne.symm same]

theorem mem_numbersOf {key : SequenceKey} {carried : List (SequenceKey × Nat)} {seq : Nat} :
    seq ∈ numbersOf key carried ↔ (key, seq) ∈ carried := by
  simp [numbersOf]

theorem nodup_of_numbersOf {carried : List (SequenceKey × Nat)}
    (nodup : ∀ key, (numbersOf key carried).Nodup) : carried.Nodup := by
  rw [List.nodup_iff_count_le_one]
  rintro ⟨key, seq⟩
  have here : List.count (key, seq) (carried.filter fun number => number.1 = key) =
      List.count (key, seq) carried := List.count_filter (by simp)
  calc List.count (key, seq) carried
      = List.count (key, seq) (carried.filter fun number => number.1 = key) := here.symm
    _ ≤ List.count (key, seq).2 ((carried.filter fun number => number.1 = key).map Prod.snd) :=
        List.count_le_count_map
    _ ≤ 1 := List.nodup_iff_count_le_one.mp (nodup key) seq

/-! ### The invariant -/

section Numbered

variable {ι : Type} [DecidableEq ι]
  {world after : World ι Store RowLock ServiceError (List (SequenceKey × Nat))} {session : ι}
  {todo : Statements (List (SequenceKey × Nat))} {written : Store → Store}
  {carried : List (SequenceKey × Nat)}

/-- What a session has allocated and not committed: under every key the numbers from the next
committed one on, which only the holder of the lock can have. -/
structure Counted (world : World ι Store RowLock ServiceError (List (SequenceKey × Nat)))
    (session : ι) (written : Store → Store) (carried : List (SequenceKey × Nat)) : Prop where
  counts : ∀ store key, (written store).allocated key =
    store.allocated key + (numbersOf key carried).length
  consecutive : ∀ key, numbersOf key carried =
    List.range' (world.rows.allocated key) (numbersOf key carried).length
  holds : ∀ key, numbersOf key carried ≠ [] → world.holder (.sequence key) = some session

/-- The numbers of the committed sessions are those below the counters, each in one place, and the
other sessions have counted on from there. -/
structure Numbered (world : World ι Store RowLock ServiceError (List (SequenceKey × Nat))) :
    Prop where
  positive : ∀ key, 1 ≤ world.rows.allocated key
  exact : ∀ key seq, (∃ session, (key, seq) ∈ numbersCarried world session) ↔
    1 ≤ seq ∧ seq < world.rows.allocated key
  once : ∀ first second number, number ∈ numbersCarried world first →
    number ∈ numbersCarried world second → first = second
  nodup : ∀ session, (numbersCarried world session).Nodup
  counted : ∀ session todo written, world.sessions session = .active todo written →
    ∃ (caller : Caller) (carried : List (SequenceKey × Nat)),
      todo = caller.statements carried ∧ Counted world session written carried

/-- A session that did not move has counted as before, if the counters of its sequences are where
they were and it still holds their locks. -/
theorem Counted.of_same (counted : Counted world session written carried)
    (same : ∀ key, world.holder (.sequence key) = some session →
      after.holder (.sequence key) = some session ∧
        after.rows.allocated key = world.rows.allocated key) :
    Counted after session written carried where
  counts := counted.counts
  consecutive := by
    intro key
    by_cases none : numbersOf key carried = []
    · rw [none]
      rfl
    · rw [(same key (counted.holds key none)).2]
      exact counted.consecutive key
  holds := fun key some => (same key (counted.holds key some)).1

theorem Counted.allocate {key : SequenceKey} (counted : Counted world session written carried) :
    Counted (world.issue session [.sequence key] todo ((·.incrementSequence key) ∘ written)) session
      ((·.incrementSequence key) ∘ written)
      (carried ++ [(key, (written world.rows).allocated key)]) where
  counts := by
    intro store other
    show ((written store).incrementSequence key).allocated other = _
    rw [Store.allocated_incrementSequence, counted.counts, numbersOf_append_singleton,
      List.length_append, add_assoc]
    congr 2
    split <;> rfl
  consecutive := by
    intro other
    show _ = List.range' (world.rows.allocated other) _
    rw [numbersOf_append_singleton, List.length_append]
    by_cases same : other = key
    · subst same
      rw [if_pos rfl, List.length_singleton, List.range'_concat, ← counted.consecutive,
        counted.counts, one_mul]
    · rw [if_neg same, List.append_nil, List.length_nil, add_zero]
      exact counted.consecutive other
  holds := by
    intro other some
    rw [World.holder_issue]
    by_cases same : other = key
    · rw [same, if_pos (List.mem_singleton.mpr rfl)]
    · rw [if_neg (by simpa using same)]
      refine counted.holds other ?_
      rwa [numbersOf_append_singleton, if_neg same, List.append_nil] at some

theorem numbersCarried_of_active (stands : world.sessions session = .active todo written) :
    numbersCarried world session = [] := by
  rw [numbersCarried, stands]

theorem numbersCarried_congr {other : ι} (same : after.sessions other = world.sessions other) :
    numbersCarried after other = numbersCarried world other := by
  rw [numbersCarried, numbersCarried, same]

theorem Numbered.of_uncommitted (numbered : Numbered world) (sameRows : after.rows = world.rows)
    (sameCarried : ∀ other, numbersCarried after other = numbersCarried world other)
    (counted : ∀ other todo written, after.sessions other = .active todo written →
      ∃ (caller : Caller) (carried : List (SequenceKey × Nat)),
        todo = caller.statements carried ∧ Counted after other written carried) :
    Numbered after where
  positive := sameRows ▸ numbered.positive
  exact := by
    intro key seq
    rw [sameRows, ← numbered.exact key seq]
    exact exists_congr fun session => by rw [sameCarried]
  once := by
    intro first second number
    rw [sameCarried, sameCarried]
    exact numbered.once first second number
  nodup := by
    intro session
    rw [sameCarried]
    exact numbered.nodup session
  counted := counted

theorem Numbered.issue (numbered : Numbered world) {locks : List RowLock} {write : Store → Store}
    {next : Store → Statements (List (SequenceKey × Nat))}
    (stands : world.sessions session = .active (.stmt locks write next) written)
    (free : world.Free session locks) :
    Numbered (world.issue session locks (next (written world.rows)) (write ∘ written)) := by
  have step : World.Moved world session (.stmt locks write next) written _ := .issue rfl free
  refine numbered.of_uncommitted rfl (fun other => ?_) fun other todo' written' active => ?_
  · by_cases mine : other = session
    · subst mine
      rw [numbersCarried_of_active stands, numbersCarried_of_active World.sessions_issue]
    · exact numbersCarried_congr (step.sessions_of_ne mine)
  · by_cases mine : other = session
    · subst mine
      rw [World.sessions_issue] at active
      cases active
      obtain ⟨caller, carried, is, counted⟩ := numbered.counted _ _ _ stands
      cases caller with
      | commit => cases is
      | abort error => cases is
      | allocate companyId kind scopeLabel next' =>
        cases is
        exact ⟨next' _, _, rfl, counted.allocate⟩
      | other others change next' =>
        cases is
        refine ⟨next' _, carried, rfl, ?_, counted.consecutive, fun key some => ?_⟩
        · exact counted.counts
        · rw [World.holder_issue, counted.holds key some, ite_self]
    · rw [step.sessions_of_ne mine] at active
      obtain ⟨caller, carried, is, counted⟩ := numbered.counted _ _ _ active
      refine ⟨caller, carried, is, counted.of_same fun key held => ⟨?_, rfl⟩⟩
      have elsewhere : RowLock.sequence key ∉ locks := by
        intro taken
        rcases free _ taken with nobody | self
        · rw [nobody] at held
          cases held
        · rw [self] at held
          exact mine (Option.some.inj held).symm
      rw [World.holder_issue, if_neg elsewhere, held]

theorem Numbered.rollback (numbered : Numbered world)
    (stands : world.sessions session = .active todo written) :
    Numbered (world.rollback session) := by
  have step : World.Moved world session todo written _ := .rollback
  refine numbered.of_uncommitted rfl (fun other => ?_) fun other todo' written' active => ?_
  · by_cases mine : other = session
    · subst mine
      rw [numbersCarried_of_active stands, numbersCarried, World.sessions_rollback]
    · exact numbersCarried_congr (step.sessions_of_ne mine)
  · by_cases mine : other = session
    · subst mine
      rw [World.sessions_rollback] at active
      cases active
    · rw [step.sessions_of_ne mine] at active
      obtain ⟨caller, carried, is, counted⟩ := numbered.counted _ _ _ active
      exact ⟨caller, carried, is, counted.of_same fun key held =>
        ⟨World.release_eq_some.mpr ⟨held, mine⟩, rfl⟩⟩

/-- **A commit keeps the numbering**: the numbers the session carries are the next ones under each
of its keys, and no other session has counted under those. -/
theorem Numbered.commit (numbered : Numbered world)
    (stands : world.sessions session = .active (.done carried) written) :
    Numbered (world.commit session carried written) := by
  have step : World.Moved world session (.done carried) written _ := .commit rfl
  obtain ⟨caller, own, is, counted⟩ := numbered.counted _ _ _ stands
  have same : own = carried := by
    cases caller with
    | commit => exact (Tx.done.inj is).symm
    | abort error => cases is
    | allocate companyId kind scopeLabel next => cases is
    | other locks change next => cases is
  subst same
  have mine : numbersCarried (world.commit session own written) session = own := by
    rw [numbersCarried, World.sessions_commit]
  have others : ∀ {other}, other ≠ session →
      numbersCarried (world.commit session own written) other = numbersCarried world other :=
    fun different => numbersCarried_congr (step.sessions_of_ne different)
  have counter : ∀ key, (written world.rows).allocated key =
      world.rows.allocated key + (numbersOf key own).length := counted.counts world.rows
  have fresh : ∀ key seq, (key, seq) ∈ own ↔
      world.rows.allocated key ≤ seq ∧ seq < (written world.rows).allocated key := by
    intro key seq
    rw [← mem_numbersOf, counted.consecutive key, List.mem_range'_1, counter]
  have older : ∀ other number, number ∈ numbersCarried world other → number ∉ own := by
    rintro other ⟨key, seq⟩ carries inOwn
    have below := ((numbered.exact key seq).mp ⟨other, carries⟩).2
    exact absurd ((fresh key seq).mp inOwn).1 (Nat.not_le.mpr below)
  have carries : ∀ key seq,
      (∃ other, (key, seq) ∈ numbersCarried (world.commit session own written) other) ↔
        (∃ other, (key, seq) ∈ numbersCarried world other) ∨ (key, seq) ∈ own := by
    intro key seq
    constructor
    · rintro ⟨other, member⟩
      by_cases self : other = session
      · exact Or.inr (mine ▸ self ▸ member)
      · exact Or.inl ⟨other, others self ▸ member⟩
    · rintro (⟨other, member⟩ | member)
      · refine ⟨other, ?_⟩
        rwa [others]
        intro self
        rw [self, numbersCarried_of_active stands] at member
        cases member
      · exact ⟨session, mine.symm ▸ member⟩
  refine ⟨fun key => ?_, fun key seq => ?_, fun first second number one two => ?_,
    fun other => ?_, fun other todo' written' active => ?_⟩
  · show 1 ≤ (written world.rows).allocated key
    exact le_trans (numbered.positive key) (by rw [counter]; exact Nat.le_add_right _ _)
  · rw [carries, numbered.exact, fresh]
    show _ ↔ 1 ≤ seq ∧ seq < (written world.rows).allocated key
    have positive := numbered.positive key
    have := counter key
    omega
  · by_cases isFirst : first = session
    · by_cases isSecond : second = session
      · rw [isFirst, isSecond]
      · rw [isFirst, mine] at one
        rw [others isSecond] at two
        exact absurd one (older second number two)
    · rw [others isFirst] at one
      by_cases isSecond : second = session
      · rw [isSecond, mine] at two
        exact absurd two (older first number one)
      · rw [others isSecond] at two
        exact numbered.once first second number one two
  · by_cases self : other = session
    · rw [self, mine]
      refine nodup_of_numbersOf fun key => ?_
      rw [counted.consecutive key]
      exact List.nodup_range'
    · rw [others self]
      exact numbered.nodup other
  · by_cases self : other = session
    · subst self
      rw [World.sessions_commit] at active
      cases active
    · rw [step.sessions_of_ne self] at active
      obtain ⟨caller, carried, is, waits⟩ := numbered.counted _ _ _ active
      refine ⟨caller, carried, is, waits.of_same fun key held => ⟨?_, ?_⟩⟩
      · exact World.release_eq_some.mpr ⟨held, self⟩
      · -- the lock is another's, so this session has counted nothing under the key
        have none : numbersOf key own = [] := by
          by_contra some
          rw [counted.holds key some] at held
          exact self (Option.some.inj held).symm
        show (written world.rows).allocated key = _
        rw [counter, none]
        rfl

/-- **Every schedule keeps the numbering.** -/
theorem numbered_of_occurs (db : CommissionDb) (callers : ι → Caller)
    (occurs : World.Occurs (fun session => (callers session).statements []) (Store.opening db)
      world) : Numbered world := by
  refine occurs.invariant ?_ ?_
  · refine ⟨fun _ => le_rfl, fun key seq => ?_, ?_, fun _ => List.nodup_nil, ?_⟩
    · constructor
      · rintro ⟨session, member⟩
        cases member
      · rintro ⟨positive, below⟩
        exact absurd below (Nat.not_lt.mpr positive)
    · intro first second number one
      cases one
    · intro session todo written active
      cases active
      exact ⟨callers session, [], rfl, fun _ _ => rfl, fun _ => rfl, fun _ some => absurd rfl some⟩
  · intro choice before after numbered accepted
    obtain ⟨session, todo, written, stands, move⟩ := World.moved accepted
    cases move with
    | issue same free => exact numbered.issue (same ▸ stands) free
    | commit same => exact numbered.commit (same ▸ stands)
    | rollback => exact numbered.rollback stands

end Numbered

theorem Numbered.place_eq {ι : Type} [DecidableEq ι]
    {world : World ι Store RowLock ServiceError (List (SequenceKey × Nat))}
    (numbered : Numbered world) {first second : ι} {i j : Nat} {number : SequenceKey × Nat}
    (one : (numbersCarried world first)[i]? = some number)
    (two : (numbersCarried world second)[j]? = some number) : first = second ∧ i = j := by
  have same := numbered.once first second number (List.mem_of_getElem? one)
    (List.mem_of_getElem? two)
  subst same
  refine ⟨rfl, ?_⟩
  obtain ⟨inside, _⟩ := List.getElem?_eq_some_iff.mp one
  exact (List.getElem?_inj inside (numbered.nodup first)).mp (one.trans two.symm)

/-- **Gap-free numbering.** However many transactions allocate however many numbers, and in whatever
order their statements, commits and aborts interleave: under every key the committed transactions
carry exactly the numbers `1..n`, each in one place, and two numbers of one company and kind that
are formatted alike are one allocation. -/
theorem gap_free_numbering {ι : Type} [DecidableEq ι] (db : CommissionDb) (callers : ι → Caller)
    (schedule : List (Choice ι)) :
    let world := World.interleave (fun session => (callers session).statements [])
      (Store.opening db) schedule
    GapFree (numbersCarried world) ∧
      ∀ format ∈ [formatReceiptNumber, formatBookingNumber],
        ∀ (first second : ι) (i j companyId : Nat) (kind scope other : String) (seq later : Nat),
          (numbersCarried world first)[i]? = some (⟨companyId, kind, scope⟩, seq) →
          (numbersCarried world second)[j]? = some (⟨companyId, kind, other⟩, later) →
          format scope seq = format other later → first = second ∧ i = j := by
  intro world
  have numbered : Numbered world := numbered_of_occurs db callers (World.occurs_interleave _ _ schedule)
  refine ⟨⟨fun key => ⟨world.rows.allocated key - 1, fun seq => ?_⟩, ?_⟩, ?_⟩
  · rw [numbered.exact key seq]
    have positive := numbered.positive key
    omega
  · exact fun first second i j number one two => numbered.place_eq one two
  · intro format listed first second i j companyId kind scope other seq later one two same
    have injective : scope = other ∧ seq = later := by
      rcases List.mem_pair.mp listed with rfl | rfl
      · exact formatReceiptNumber_injective same
      · exact formatBookingNumber_injective same
    obtain ⟨rfl, rfl⟩ := injective
    exact numbered.place_eq one two

end OpenEstate
