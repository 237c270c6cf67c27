/-
**Clawing back, broker by broker.**

A cancellation reverses what is outstanding on a booking and recovers what has been paid out on it,
all in the name of the broker the booking has by then. The booking as a whole is left settled; its
brokers are if the earlier ones had nothing left to settle.

* `CommissionDb.Settled` is what a cancellation is to leave: every broker with minus what has been
  paid out to him, or with nothing under a write-off;
* `CommissionDb.unsettled` is what is missing to that: `unsettledForBooking_clawback` says what a
  cancellation leaves of it;
* **`settled_iff`**: in any run, a cancellation leaves every broker settled exactly when only the
  current broker had something to settle.
-/

import OpenEstate.Commission.AccrualBound

namespace OpenEstate

open Relational

/-! ### Brokers of a booking -/

def CommissionLedgerEntry.isOf (entry : CommissionLedgerEntry) (bookingId brokerId : Nat) : Bool :=
  entry.bookingId = bookingId ∧ entry.brokerId = brokerId

def CommissionDb.commissionOn (db : CommissionDb) (bookingId brokerId : Nat) : Int :=
  db.commissionLedger.sum fun _ entry =>
    if entry.isOf bookingId brokerId then entry.signedAmountPaise else 0

def CommissionDb.paidTo (db : CommissionDb) (bookingId brokerId : Nat) : Int :=
  db.commissionLedger.sum fun _ entry =>
    if entry.isOf bookingId brokerId ∧ entry.entryType = .payment then -entry.signedAmountPaise
    else 0

def CommissionDb.Settled (db : CommissionDb) (policy : CommissionClawbackPolicy)
    (bookingId : Nat) : Prop :=
  ∀ brokerId, db.commissionOn bookingId brokerId = match policy with
    | .recover => -db.paidTo bookingId brokerId
    | .writeOff => 0

/-! ### What is to be settled -/

/-- The part of an entry that a cancellation has to bring to nothing: not the payments, if these are
recovered. -/
def CommissionLedgerEntry.toSettle (policy : CommissionClawbackPolicy)
    (entry : CommissionLedgerEntry) : Int :=
  if policy = .recover ∧ entry.entryType = .payment then 0 else entry.signedAmountPaise

def CommissionDb.unsettled (db : CommissionDb) (policy : CommissionClawbackPolicy)
    (bookingId brokerId : Nat) : Int :=
  db.commissionLedger.sum fun _ entry =>
    if entry.isOf bookingId brokerId then entry.toSettle policy else 0

def CommissionDb.unsettledForBooking (db : CommissionDb) (policy : CommissionClawbackPolicy)
    (bookingId : Nat) : Int :=
  db.commissionLedger.sum fun _ entry =>
    if entry.bookingId = bookingId then entry.toSettle policy else 0

variable {db : CommissionDb} {policy : CommissionClawbackPolicy} {bookingId : Nat}

theorem settled_iff_unsettled :
    db.Settled policy bookingId ↔ ∀ brokerId, db.unsettled policy bookingId brokerId = 0 := by
  refine forall_congr' fun brokerId => ?_
  cases policy with
  | writeOff =>
    have same : db.unsettled .writeOff bookingId brokerId = db.commissionOn bookingId brokerId := by
      refine Table.sum_congr fun id entry _ => ?_
      simp [CommissionLedgerEntry.toSettle]
    rw [same]
  | recover =>
    have same : db.unsettled .recover bookingId brokerId =
        db.commissionOn bookingId brokerId + db.paidTo bookingId brokerId := by
      unfold CommissionDb.unsettled CommissionDb.commissionOn CommissionDb.paidTo
      rw [← Table.sum_add]
      refine Table.sum_congr fun id entry _ => ?_
      by_cases mine : entry.isOf bookingId brokerId = true
      · by_cases paid : entry.entryType = .payment
        · simp [CommissionLedgerEntry.toSettle, mine, paid]
        · simp [CommissionLedgerEntry.toSettle, mine, paid]
      · simp [mine]
    rw [same, eq_neg_iff_add_eq_zero]

variable {brokerId : Nat}

/-- **A booking is settled with one broker** when it is with all others and as a whole. -/
theorem unsettled_eq_zero_of_others (whole : db.unsettledForBooking policy bookingId = 0)
    (others : ∀ other, other ≠ brokerId → db.unsettled policy bookingId other = 0) :
    db.unsettled policy bookingId brokerId = 0 := by
  -- the figures of the others, group by group
  have rest : (db.commissionLedger.sum fun _ entry =>
      if entry.bookingId = bookingId ∧ entry.brokerId ≠ brokerId then entry.toSettle policy
      else 0) = 0 := by
    refine Table.sum_eq_zero_of_groups (·.brokerId) fun other => ?_
    by_cases same : other = brokerId
    · refine Table.sum_eq_zero fun id entry _ => ?_
      grind
    · refine Eq.trans (Table.sum_congr fun id entry _ => ?_) (others other same)
      unfold CommissionLedgerEntry.isOf
      grind
  have split : db.unsettledForBooking policy bookingId = db.unsettled policy bookingId brokerId +
      db.commissionLedger.sum fun _ entry =>
        if entry.bookingId = bookingId ∧ entry.brokerId ≠ brokerId then entry.toSettle policy
        else 0 := by
    unfold CommissionDb.unsettledForBooking CommissionDb.unsettled
    rw [← Table.sum_add]
    refine Table.sum_congr fun id entry _ => ?_
    unfold CommissionLedgerEntry.isOf
    grind
  rw [rest, add_zero, whole] at split
  exact split.symm

/-! ### What a cancellation leaves -/

def CommissionDb.PaymentsPaid (db : CommissionDb) : Prop :=
  ∀ id entry, db.commissionLedger.find? id = some entry → entry.entryType = .payment →
    entry.signedAmountPaise ≤ 0

theorem CommissionDb.PaymentsPaid.netPaid_nonneg (paid : db.PaymentsPaid)
    (bookingId : Nat) : 0 ≤ db.netPaid bookingId := by
  refine Table.sum_nonneg fun id entry found => ?_
  split
  · rename_i payment
    have nonpos := paid id entry found payment.2
    omega
  · exact le_refl 0

theorem sum_clawbackEntries (db : CommissionDb) (policy : CommissionClawbackPolicy)
    (nonneg : 0 ≤ db.netPaid bookingId) (brokerId : Nat) :
    ((db.clawbackEntries policy bookingId brokerId).map fun entry =>
      if entry.bookingId = bookingId then entry.toSettle policy else 0).sum =
      -(db.outstandingForBooking bookingId +
        if policy = .recover then db.netPaid bookingId else 0) := by
  unfold CommissionDb.clawbackEntries
  rw [List.map_append, List.sum_append, neg_add]
  congr 1
  · by_cases nothing : db.outstandingForBooking bookingId = 0
    · simp [nothing]
    · simp [nothing, CommissionLedgerEntry.toSettle]
  · by_cases unpaid : 0 < db.netPaid bookingId
    · cases policy with
      | recover => simp [unpaid, CommissionLedgerEntry.toSettle]
      | writeOff => simp [unpaid, CommissionLedgerEntry.toSettle]
    · have none : db.netPaid bookingId = 0 := by omega
      simp [none]

theorem unsettledForBooking_eq (db : CommissionDb) (policy : CommissionClawbackPolicy)
    (bookingId : Nat) : db.unsettledForBooking policy bookingId =
      db.outstandingForBooking bookingId +
        if policy = .recover then db.netPaid bookingId else 0 := by
  unfold CommissionDb.unsettledForBooking CommissionDb.outstandingForBooking CommissionDb.netPaid
  by_cases recovers : policy = .recover
  · rw [if_pos recovers, ← Table.sum_add]
    refine Table.sum_congr fun id entry _ => ?_
    unfold CommissionLedgerEntry.toSettle
    grind
  · rw [if_neg recovers, add_zero]
    refine Table.sum_congr fun id entry _ => ?_
    unfold CommissionLedgerEntry.toSettle
    grind

theorem unsettledForBooking_clawback (paid : db.PaymentsPaid) (policy : CommissionClawbackPolicy)
    (bookingId brokerId : Nat) :
    (db.handleBookingCancelled policy bookingId brokerId).unsettledForBooking policy bookingId
      = 0 := by
  show (db.commissionLedger.createMany (db.clawbackEntries policy bookingId brokerId)).sum
    (fun _ entry => if entry.bookingId = bookingId then entry.toSettle policy else 0) = 0
  rw [Table.sum_createMany, sum_clawbackEntries db policy (paid.netPaid_nonneg bookingId),
    ← unsettledForBooking_eq]
  exact add_neg_cancel _

theorem mem_clawbackEntries {entry : CommissionLedgerEntry}
    (member : entry ∈ db.clawbackEntries policy bookingId brokerId) :
    entry.brokerId = brokerId ∧ entry.entryType ≠ .payment := by
  unfold CommissionDb.clawbackEntries at member
  rcases List.mem_append.mp member with reversal | paid
  · split at reversal
    · rw [List.mem_singleton.mp reversal]
      exact ⟨rfl, nofun⟩
    · cases reversal
  · split at paid
    · cases policy with
      | recover =>
        rw [List.mem_singleton.mp paid]
        exact ⟨rfl, nofun⟩
      | writeOff =>
        rw [List.mem_singleton.mp paid]
        exact ⟨rfl, nofun⟩
    · cases paid

theorem unsettled_clawback_of_ne (db : CommissionDb) (policy : CommissionClawbackPolicy)
    (bookingId : Nat) {other : Nat} (differs : other ≠ brokerId) :
    (db.handleBookingCancelled policy bookingId brokerId).unsettled policy bookingId other =
      db.unsettled policy bookingId other := by
  show (db.commissionLedger.createMany (db.clawbackEntries policy bookingId brokerId)).sum
    (fun _ entry => if entry.isOf bookingId other then entry.toSettle policy else 0) =
    db.commissionLedger.sum _
  rw [Table.sum_createMany, add_eq_left]
  refine List.sum_eq_zero fun amount member => ?_
  obtain ⟨entry, posted, rfl⟩ := List.mem_map.mp member
  have mine := (mem_clawbackEntries posted).1
  refine if_neg ?_
  simp only [CommissionLedgerEntry.isOf, decide_eq_true_eq, not_and]
  exact fun _ named => differs (named.symm.trans mine)

def CommissionDb.OnlyCurrentUnsettled (db : CommissionDb) (policy : CommissionClawbackPolicy)
    (bookingId : Nat) : Prop :=
  ∀ brokerId, db.brokerOf bookingId ≠ some brokerId → db.unsettled policy bookingId brokerId = 0

theorem settled_cancellation_iff (paid : db.PaymentsPaid) (policy : CommissionClawbackPolicy)
    (bookingId : Nat) :
    (db.postCommission (db.cancellationEntries policy bookingId)).Settled policy bookingId ↔
      db.OnlyCurrentUnsettled policy bookingId := by
  rw [settled_iff_unsettled]
  unfold CommissionDb.OnlyCurrentUnsettled CommissionDb.cancellationEntries
  cases db.brokerOf bookingId with
  | none => exact ⟨fun settled brokerId _ => settled brokerId, fun only brokerId => only brokerId nofun⟩
  | some current =>
    constructor
    · intro settled brokerId differs
      have other : brokerId ≠ current := fun same => differs (same ▸ rfl)
      rw [← unsettled_clawback_of_ne db policy bookingId other]
      exact settled brokerId
    · intro only
      have others : ∀ other, other ≠ current →
          (db.handleBookingCancelled policy bookingId current).unsettled policy bookingId other
            = 0 := by
        intro other differs
        rw [unsettled_clawback_of_ne db policy bookingId differs]
        exact only other fun same => differs (Option.some.inj same).symm
      intro brokerId
      by_cases mine : brokerId = current
      · subst mine
        exact unsettled_eq_zero_of_others (unsettledForBooking_clawback paid policy bookingId _)
          others
      · exact others brokerId mine

/-! ### Runs -/

variable {after : CommissionDb}

theorem CommissionDb.PaymentsPaid.post (paid : db.PaymentsPaid)
    {entries : List CommissionLedgerEntry}
    (ledger : after.commissionLedger = db.commissionLedger.createMany entries)
    (posted : ∀ entry ∈ entries, entry.entryType = .payment → entry.signedAmountPaise ≤ 0) :
    after.PaymentsPaid := by
  intro id entry found payment
  rw [ledger] at found
  rcases Table.find?_createMany found with old | fresh
  · exact paid id entry old payment
  · exact posted entry fresh.2 payment

theorem paymentsPaid_leaves {session : AccrualSession} (leaves : session.Leaves db after)
    (paid : db.PaymentsPaid) : after.PaymentsPaid := by
  cases leaves with
  | operation asked accepted =>
    obtain ⟨entries, posts, ledger⟩ := (execCommission_changes accepted).posts
    refine paid.post ledger fun entry member payment => ?_
    cases posts with
    | nothing => cases member
    | payment distributed =>
      exact ((paymentEntries_paid (outstandingBookings_pos db _) distributed).each entry member).2
    | cancellation masters bookingId dto =>
      unfold CommissionDb.cancellationEntries at member
      split at member
      · cases member
      · exact absurd payment (mem_clawbackEntries member).2
  | posting creating =>
    refine paid.post rfl fun entry member payment => ?_
    rw [List.mem_singleton.mp member] at payment
    cases payment
  | snapshot snapshot =>
    intro id entry found
    rw [CommissionDb.insertSnapshot] at found
    split at found
    · exact paid id entry found
    · exact paid id entry found
  | nothing => exact paid

def IsCancellation {ι : Type} (step : Step (Shared ι CommissionDb AccrualSession) ι)
    (masters : BrokerMasters) (bookingId : Nat) : Prop :=
  ∃ dto, step.before.sessions step.input = .request ⟨masters, .core (.cancel bookingId dto)⟩ ∧
    execCommission ⟨masters, .core (.cancel bookingId dto)⟩ step.before.rows = .ok step.after.rows

/-- **A cancellation settles every broker exactly when only the current one had something to
settle**, in any run of accruals, assignments, payments and cancellations, in any order of their
statements. -/
theorem settled_iff {ι : Type} [DecidableEq ι] (calls : ι → CommissionCall) (schedule : List ι) :
    ∀ step ∈ steps (Shared.exec AccrualSession.move) (accrualStart calls) schedule,
      ∀ masters bookingId, IsCancellation step masters bookingId →
        (step.after.rows.Settled masters.clawbackPolicy bookingId ↔
          step.before.rows.OnlyCurrentUnsettled masters.clawbackPolicy bookingId) := by
  intro step member masters bookingId cancellation
  obtain ⟨dto, _, accepted⟩ := cancellation
  have kept : ∀ world ∈ states (Shared.exec AccrualSession.move) (accrualStart calls) schedule,
      world.rows.PaymentsPaid :=
    accrualRun_kept nofun (fun _ _ _ => paymentsPaid_leaves) calls schedule
  obtain ⟨cancelled, _, same⟩ := cancelBooking_eq_ok accepted
  rw [same]
  exact settled_cancellation_iff (kept _ (before_mem_states member)) _ _

/-! ### The small estate -/

def cancelSmall : CommissionRequest where
  masters := {}
  op := .core (.cancel 0 { cancellationType := .cancel })

theorem exists_cancelSmall {earlier : List CommissionCall} (accepted : execCommission cancelSmall
      (accrualRun (earlier ++ [.request cancelSmall]) (oneByOne earlier)).rows = .ok after) :
    ∃ step ∈ steps (Shared.exec AccrualSession.move)
        (accrualStart (callAt (earlier ++ [.request cancelSmall])))
        (oneByOne earlier ++ [earlier.length]),
      IsCancellation step {} 0 ∧
        step.before.rows = (accrualRun (earlier ++ [.request cancelSmall]) (oneByOne earlier)).rows ∧
        step.after.rows = after := by
  obtain ⟨step, member, asked, answered, before, same⟩ := exists_last_request accepted
  exact ⟨step, member, ⟨_, asked, answered⟩, before, same⟩

def smallPaidBroker : List CommissionCall :=
  smallSourced 1000 25 inRange_twentyFive ++
    [.accrue {} 0,
      .request ⟨{}, .requestPayment { brokerId := 0, amountPaise := 400, amount_pos := by decide }⟩,
      .request ⟨{}, .approvePayment 0⟩, .request ⟨{}, .payPayment 0 0⟩]

/-- The broker of the small booking is left with minus the 400 he was paid. -/
theorem settled_iff_smallPaidBroker :
    ∃ step ∈ steps (Shared.exec AccrualSession.move)
        (accrualStart (callAt (smallPaidBroker ++ [.request cancelSmall])))
        (oneByOne smallPaidBroker ++ [smallPaidBroker.length]),
      IsCancellation step {} 0 ∧ step.after.rows.paidTo 0 0 = 400 ∧
        step.after.rows.Settled .recover 0 := by
  have figures : (fun after => after.paidTo 0 0) <$> execCommission cancelSmall (accrualRun
      (smallPaidBroker ++ [.request cancelSmall]) (oneByOne smallPaidBroker)).rows = .ok 400 := by
    decide +kernel
  obtain ⟨after, answered, paid⟩ := map_eq_ok.mp figures
  obtain ⟨step, member, cancellation, before, rfl⟩ := exists_cancelSmall answered
  refine ⟨step, member, cancellation, paid,
    (settled_iff _ _ step member {} 0 cancellation).mpr fun brokerId differs => ?_⟩
  rw [before] at differs ⊢
  -- all entries are in the name of the current broker
  have sole : ∀ row ∈ (accrualRun (smallPaidBroker ++ [.request cancelSmall])
      (oneByOne smallPaidBroker)).rows.commissionLedger.rows, row.2.brokerId = 0 := by decide +kernel
  have current : (accrualRun (smallPaidBroker ++ [.request cancelSmall])
      (oneByOne smallPaidBroker)).rows.brokerOf 0 = some 0 := by decide +kernel
  refine Table.sum_eq_zero fun id entry found => if_neg fun mine => differs ?_
  simp only [CommissionLedgerEntry.isOf, decide_eq_true_eq] at mine
  rw [current, ← mine.2, sole (id, entry) (Table.find?_eq_some.mp found)]

def smallHandedOn : List CommissionCall :=
  smallSourced 1000 25 inRange_twentyFive ++ [.accrue {} 0, .request ⟨{}, .assignToBooking 0 1⟩]

/-- **The earlier broker keeps the 1000 accrued to him**, and the new one is charged for it. -/
theorem handedOn_not_settled :
    ∃ step ∈ steps (Shared.exec AccrualSession.move)
        (accrualStart (callAt (smallHandedOn ++ [.request cancelSmall])))
        (oneByOne smallHandedOn ++ [smallHandedOn.length]),
      IsCancellation step {} 0 ∧ step.after.rows.commissionOn 0 0 = 1000 ∧
        step.after.rows.commissionOn 0 1 = -1000 ∧ ¬step.after.rows.Settled .recover 0 := by
  have figures : (fun after => (after.commissionOn 0 0, after.commissionOn 0 1, after.paidTo 0 0)) <$>
      execCommission cancelSmall (accrualRun (smallHandedOn ++ [.request cancelSmall])
        (oneByOne smallHandedOn)).rows = .ok (1000, -1000, 0) := by decide +kernel
  obtain ⟨after, answered, amounts⟩ := map_eq_ok.mp figures
  obtain ⟨step, member, cancellation, _, rfl⟩ := exists_cancelSmall answered
  obtain ⟨kept, charged, paid⟩ : step.after.rows.commissionOn 0 0 = 1000 ∧
      step.after.rows.commissionOn 0 1 = -1000 ∧ step.after.rows.paidTo 0 0 = 0 := by
    simpa using amounts
  refine ⟨step, member, cancellation, kept, charged, fun settled => ?_⟩
  have first : step.after.rows.commissionOn 0 0 = -step.after.rows.paidTo 0 0 := settled 0
  rw [kept, paid] at first
  cases first

end OpenEstate
