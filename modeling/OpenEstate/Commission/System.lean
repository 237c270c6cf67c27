/-
**The commission system**: every operation that writes the tables of the commission engine, next to
the operations of the financial core, but for the evaluation of what is to accrue, which is not one
transaction.

* `CommissionDb.handleBookingCancelled` claws back what a cancelled booking has accrued;
* `execCommission_changes`: what an operation changes, and what it posts;
* `execCommission_leaves`: no operation touches a snapshot or an accrual.
-/

import OpenEstate.Commission.Payment
import OpenEstate.Commission.Rule
import OpenEstate.Postsales.System

namespace OpenEstate

open Relational

/-! ### Masters -/

inductive CommissionClawbackPolicy
  | recover | writeOff
  deriving DecidableEq

/-- The masters of the commission engine: which brokers there are, the project a unit lies in by its
floor and tower (none for a unit without a floor), whether the broker of a booking has approved its
cancellation or is inactive, and what happens to commission already paid. -/
structure BrokerMasters extends CommissionMasters where
  brokers : Nat → Bool := fun _ => true
  towerProject : Nat → Option Nat := fun _ => none
  nocApproved : Nat → Bool := fun _ => true
  clawbackPolicy : CommissionClawbackPolicy := .recover

/-! ### Settings and assignments -/

def setAccrualTrigger (trigger : Option CommissionAccrualTrigger) (db : CommissionDb) :
    CommissionDb :=
  { db with accrualTrigger := trigger }

def assignToBooking (masters : BrokerMasters) (bookingId brokerId : Nat) (db : CommissionDb) :
    Except ServiceError CommissionDb := do
  ensure (masters.brokers brokerId = true) (.notFound "Broker not found")
  let _ ← orThrow (db.bookings.find? bookingId) (.notFound "Booking not found")
  return { db with brokerOf := Function.update db.brokerOf bookingId (some brokerId) }

/-! ### Payments -/

def CommissionDb.brokerBalance (db : CommissionDb) (brokerId : Nat) : Int :=
  db.commissionLedger.sum fun _ entry =>
    if entry.brokerId = brokerId then entry.signedAmountPaise else 0

structure RequestCommissionPaymentDto where
  brokerId : Nat
  amountPaise : Int
  amount_pos : 1 ≤ amountPaise

def requestCommissionPayment (masters : BrokerMasters) (dto : RequestCommissionPaymentDto)
    (db : CommissionDb) : Except ServiceError CommissionDb := do
  ensure (masters.brokers dto.brokerId = true) (.notFound "Broker not found")
  let outstanding := db.brokerBalance dto.brokerId
  ensure (dto.amountPaise ≤ outstanding) (.badRequest (s!"Requested amount ({dto.amountPaise}) " ++
    s!"exceeds the broker's outstanding commission ({outstanding})"))
  return { db with
    commissionPayments := db.commissionPayments.create
      { brokerId := dto.brokerId, amountPaise := dto.amountPaise, status := .requested } }

def decideCommissionPayment (verb : String) (status : CommissionPaymentStatus) (paymentId : Nat)
    (db : CommissionDb) : Except ServiceError CommissionDb := do
  let payment ← orThrow (db.commissionPayments.find? paymentId)
    (.notFound "Commission payment not found")
  ensure (payment.status = .requested) (.conflict
    s!"Commission payment is {payment.status.text}; only REQUESTED can be {verb}")
  return db.setPaymentStatus paymentId status

def approveCommissionPayment : Nat → CommissionDb → Except ServiceError CommissionDb :=
  decideCommissionPayment "approved" .approved

def rejectCommissionPayment : Nat → CommissionDb → Except ServiceError CommissionDb :=
  decideCommissionPayment "rejected" .rejected

/-! ### Cancellation -/

def CommissionDb.outstandingForBooking (db : CommissionDb) (bookingId : Nat) : Int :=
  db.commissionLedger.sum fun _ entry =>
    if entry.bookingId = bookingId then entry.signedAmountPaise else 0

def CommissionDb.netPaid (db : CommissionDb) (bookingId : Nat) : Int :=
  db.commissionLedger.sum fun _ entry =>
    if entry.bookingId = bookingId ∧ entry.entryType = .payment then -entry.signedAmountPaise else 0

/-- The entries of a clawback: the reversal of what is outstanding, and the recovery of what has
been paid, or an entry of nothing that it is written off. -/
def CommissionDb.clawbackEntries (db : CommissionDb) (policy : CommissionClawbackPolicy)
    (bookingId brokerId : Nat) : List CommissionLedgerEntry :=
  let outstanding := db.outstandingForBooking bookingId
  let netPaid := db.netPaid bookingId
  (if outstanding ≠ 0 then
    [{ brokerId, bookingId, entryType := .clawbackReversal, signedAmountPaise := -outstanding }]
  else []) ++
  if 0 < netPaid then
    match policy with
    | .writeOff =>
      [{ brokerId, bookingId, entryType := .clawbackWriteoff, signedAmountPaise := 0 }]
    | .recover =>
      [{ brokerId, bookingId, entryType := .clawbackRecovery, signedAmountPaise := -netPaid }]
  else []

def CommissionDb.handleBookingCancelled (db : CommissionDb) (policy : CommissionClawbackPolicy)
    (bookingId brokerId : Nat) : CommissionDb :=
  db.postCommission (db.clawbackEntries policy bookingId brokerId)

/-- Cancel a booking, with the consent of its broker, and claw back its commission. -/
def cancelBooking (masters : BrokerMasters) (bookingId : Nat) (dto : CancellationDto)
    (db : CommissionDb) : Except ServiceError CommissionDb :=
  match (db.bookings.find? bookingId).bind fun _ => db.brokerOf bookingId with
  | none => (db.onDb fun _ => ·) <$> cancel masters.toMasters bookingId dto db.toDb
  | some brokerId => do
    ensure (masters.nocApproved bookingId = true) (.badRequest
      ("Cancellation is blocked: this booking has a sourcing broker and no APPROVED NOC exists. " ++
        "Request and approve an NOC first."))
    let cancelled ← cancel masters.toMasters bookingId dto db.toDb
    return (db.onDb fun _ => cancelled).handleBookingCancelled masters.clawbackPolicy bookingId
      brokerId

/-! ### Requests -/

inductive CommissionOp
  | core (op : Op)
  | assignToBooking (bookingId brokerId : Nat)
  | setAccrualTrigger (trigger : Option CommissionAccrualTrigger)
  | createRule (dto : CreateCommissionRuleDto)
  | updateRule (ruleId : Nat) (dto : UpdateCommissionRuleDto)
  | deactivateRule (ruleId : Nat)
  | requestPayment (dto : RequestCommissionPaymentDto)
  | approvePayment (paymentId : Nat)
  | rejectPayment (paymentId : Nat)
  | payPayment (paymentId : Nat) (paymentDate : Date)

structure CommissionRequest where
  masters : BrokerMasters := {}
  op : CommissionOp

/-- Carry out one operation. Bookings are only cancelled together with their commission. -/
def execCommission (request : CommissionRequest) (db : CommissionDb) :
    Except ServiceError CommissionDb :=
  match request.op with
  | .core (.cancel bookingId dto) => cancelBooking request.masters bookingId dto db
  | .core op => (db.onDb fun _ => ·) <$> exec ⟨request.masters.toMasters, op⟩ db.toDb
  | .assignToBooking bookingId brokerId => assignToBooking request.masters bookingId brokerId db
  | .setAccrualTrigger trigger => .ok (setAccrualTrigger trigger db)
  | .createRule dto => createCommissionRule request.masters.brokers dto db
  | .updateRule ruleId dto => updateCommissionRule ruleId dto db
  | .deactivateRule ruleId => deactivateCommissionRule ruleId db
  | .requestPayment dto => requestCommissionPayment request.masters dto db
  | .approvePayment paymentId => approveCommissionPayment paymentId db
  | .rejectPayment paymentId => rejectCommissionPayment paymentId db
  | .payPayment paymentId paymentDate =>
    payCommission request.masters.toCommissionMasters paymentId paymentDate db

/-! ### What has accrued -/

/-- A share of a commission: its milestone, none for the accrual on booking, and its amount. -/
structure AccrualLine where
  milestonePercent : Option Nat
  sharePaise : Int
  deriving DecidableEq

def CommissionLedgerEntry.isAccrualOf (entry : CommissionLedgerEntry) (bookingId : Nat) : Bool :=
  entry.bookingId = bookingId ∧ entry.entryType = .accrual

def CommissionLedgerEntry.line (entry : CommissionLedgerEntry) : AccrualLine where
  milestonePercent := entry.milestonePercent
  sharePaise := entry.signedAmountPaise

def CommissionDb.accrualLines (db : CommissionDb) (bookingId : Nat) : List AccrualLine :=
  ((db.commissionLedger.select fun _ entry => entry.isAccrualOf bookingId).map Prod.snd).map
    (·.line)

def CommissionDb.accrued (db : CommissionDb) (bookingId : Nat) : Int :=
  ((db.accrualLines bookingId).map (·.sharePaise)).sum

def CommissionDb.snapshotOf (db : CommissionDb) (bookingId : Nat) :
    Option BrokerBookingCommission :=
  (db.snapshots.findFirst? fun _ snapshot => snapshot.bookingId = bookingId).map Prod.snd

theorem accrualLines_postCommission (db : CommissionDb) (entries : List CommissionLedgerEntry)
    (bookingId : Nat) : (db.postCommission entries).accrualLines bookingId =
      db.accrualLines bookingId ++ (entries.filter (·.isAccrualOf bookingId)).map (·.line) := by
  unfold CommissionDb.accrualLines CommissionDb.postCommission
  rw [Table.map_snd_select_createMany, List.map_append]

variable {entries : List CommissionLedgerEntry}

theorem accrualLines_postCommission_of_ne (db : CommissionDb)
    (others : ∀ entry ∈ entries, entry.entryType ≠ .accrual) (bookingId : Nat) :
    (db.postCommission entries).accrualLines bookingId = db.accrualLines bookingId := by
  have none : entries.filter (·.isAccrualOf bookingId) = [] := by
    refine List.filter_eq_nil_iff.mpr fun entry member isAccrual => ?_
    rw [CommissionLedgerEntry.isAccrualOf, decide_eq_true_eq] at isAccrual
    exact others entry member isAccrual.2
  rw [accrualLines_postCommission, none, List.map_nil, List.append_nil]

/-! ### What the operations post -/

def CommissionDb.cancellationEntries (db : CommissionDb) (policy : CommissionClawbackPolicy)
    (bookingId : Nat) : List CommissionLedgerEntry :=
  match db.brokerOf bookingId with
  | none => []
  | some brokerId => db.clawbackEntries policy bookingId brokerId

variable {db : CommissionDb}

theorem cancelBooking_eq_ok {masters : BrokerMasters} {bookingId : Nat} {dto : CancellationDto}
    {after : CommissionDb} (accepted : cancelBooking masters bookingId dto db = .ok after) :
    ∃ cancelled, cancel masters.toMasters bookingId dto db.toDb = .ok cancelled ∧
      after = (db.onDb fun _ => cancelled).postCommission
        (db.cancellationEntries masters.clawbackPolicy bookingId) := by
  unfold cancelBooking at accepted
  unfold CommissionDb.cancellationEntries
  split at accepted
  · rename_i nobody
    obtain ⟨cancelled, answered, rfl⟩ := map_eq_ok.mp accepted
    have answered' := answered
    simp only [cancel, bind_eq_ok, orThrow_eq_ok] at answered'
    obtain ⟨booking, found, _⟩ := answered'
    rw [found, Option.bind_some] at nobody
    rw [nobody]
    exact ⟨cancelled, answered, rfl⟩
  · rename_i brokerId sourced
    simp only [bind_eq_ok, pure_eq_ok] at accepted
    obtain ⟨_, _, cancelled, answered, rfl⟩ := accepted
    obtain ⟨_, _, broker⟩ := Option.bind_eq_some_iff.mp sourced
    rw [broker]
    exact ⟨cancelled, answered, rfl⟩

inductive CommissionDb.Posts (db : CommissionDb) :
    CommissionRequest → List CommissionLedgerEntry → Prop
  | nothing (request : CommissionRequest) : Posts db request []
  | payment {masters : BrokerMasters} {paymentId : Nat} {paymentDate : Date}
      {payment : CommissionPayment} {entries : List CommissionLedgerEntry}
      (distributed : paymentEntries masters.toCommissionMasters paymentDate payment
        (db.outstandingBookings payment.brokerId) = .ok entries) :
      Posts db ⟨masters, .payPayment paymentId paymentDate⟩ entries
  | cancellation (masters : BrokerMasters) (bookingId : Nat) (dto : CancellationDto) :
      Posts db ⟨masters, .core (.cancel bookingId dto)⟩
        (db.cancellationEntries masters.clawbackPolicy bookingId)

/-- What a request changes: the tables of the financial core by an operation of its own, the broker
of a booking by an assignment, the commission ledger by what it posts, and no snapshot. -/
structure CommissionDb.Changes (db : CommissionDb) (request : CommissionRequest)
    (after : CommissionDb) : Prop where
  core : after.toDb = db.toDb ∨ ∃ op, request.op = .core op ∧
    exec ⟨request.masters.toMasters, op⟩ db.toDb = .ok after.toDb
  brokerOf : after.brokerOf = match request.op with
    | .assignToBooking bookingId brokerId => Function.update db.brokerOf bookingId (some brokerId)
    | _ => db.brokerOf
  snapshots : after.snapshots = db.snapshots
  posts : ∃ entries, db.Posts request entries ∧
    after.commissionLedger = db.commissionLedger.createMany entries

variable {request : CommissionRequest}

theorem decideCommissionPayment_eq_ok {verb : String} {status : CommissionPaymentStatus}
    {paymentId : Nat} {after : CommissionDb}
    (decided : decideCommissionPayment verb status paymentId db = .ok after) :
    after = db.setPaymentStatus paymentId status := by
  simp only [decideCommissionPayment, bind_eq_ok, pure_eq_ok] at decided
  obtain ⟨_, _, _, _, rfl⟩ := decided
  rfl

theorem execCommission_changes {after : CommissionDb}
    (accepted : execCommission request db = .ok after) : db.Changes request after := by
  obtain ⟨masters, op⟩ := request
  cases op with
  | core op =>
    by_cases cancels : ∃ bookingId dto, op = .cancel bookingId dto
    · obtain ⟨bookingId, dto, rfl⟩ := cancels
      have accepted : cancelBooking masters bookingId dto db = .ok after := accepted
      obtain ⟨cancelled, answered, rfl⟩ := cancelBooking_eq_ok accepted
      have cancels : exec ⟨masters.toMasters, .cancel bookingId dto⟩ db.toDb = .ok cancelled :=
        answered
      exact ⟨Or.inr ⟨_, rfl, cancels⟩, rfl, rfl, _, .cancellation _ _ _, rfl⟩
    · have accepted :
          (db.onDb fun _ => ·) <$> exec ⟨masters.toMasters, op⟩ db.toDb = .ok after := by
        cases op <;> first | exact accepted | exact absurd ⟨_, _, rfl⟩ cancels
      obtain ⟨_, answered, rfl⟩ := map_eq_ok.mp accepted
      exact ⟨Or.inr ⟨op, rfl, answered⟩, rfl, rfl, [], .nothing _, rfl⟩
  | assignToBooking bookingId brokerId =>
    have accepted : assignToBooking masters bookingId brokerId db = .ok after := accepted
    simp only [assignToBooking, bind_eq_ok, pure_eq_ok] at accepted
    obtain ⟨_, _, _, _, rfl⟩ := accepted
    exact ⟨Or.inl rfl, rfl, rfl, [], .nothing _, rfl⟩
  | setAccrualTrigger trigger =>
    cases accepted
    exact ⟨Or.inl rfl, rfl, rfl, [], .nothing _, rfl⟩
  | createRule dto =>
    have accepted : createCommissionRule masters.brokers dto db = .ok after := accepted
    simp only [createCommissionRule, bind_eq_ok, pure_eq_ok] at accepted
    obtain ⟨_, _, _, _, rfl⟩ := accepted
    exact ⟨Or.inl rfl, rfl, rfl, [], .nothing _, rfl⟩
  | updateRule ruleId dto =>
    have accepted : updateCommissionRule ruleId dto db = .ok after := accepted
    simp only [updateCommissionRule, bind_eq_ok, pure_eq_ok] at accepted
    obtain ⟨_, _, _, _, rfl⟩ := accepted
    exact ⟨Or.inl rfl, rfl, rfl, [], .nothing _, rfl⟩
  | deactivateRule ruleId =>
    have accepted : deactivateCommissionRule ruleId db = .ok after := accepted
    simp only [deactivateCommissionRule, bind_eq_ok, pure_eq_ok] at accepted
    obtain ⟨_, _, rfl⟩ := accepted
    exact ⟨Or.inl rfl, rfl, rfl, [], .nothing _, rfl⟩
  | requestPayment dto =>
    have accepted : requestCommissionPayment masters dto db = .ok after := accepted
    simp only [requestCommissionPayment, bind_eq_ok, pure_eq_ok] at accepted
    obtain ⟨_, _, _, _, rfl⟩ := accepted
    exact ⟨Or.inl rfl, rfl, rfl, [], .nothing _, rfl⟩
  | approvePayment paymentId =>
    cases decideCommissionPayment_eq_ok accepted
    exact ⟨Or.inl rfl, rfl, rfl, [], .nothing _, rfl⟩
  | rejectPayment paymentId =>
    cases decideCommissionPayment_eq_ok accepted
    exact ⟨Or.inl rfl, rfl, rfl, [], .nothing _, rfl⟩
  | payPayment paymentId paymentDate =>
    obtain ⟨payment, entries, _, _, distributed, rfl⟩ := payCommission_eq_ok.mp accepted
    exact ⟨Or.inl rfl, rfl, rfl, entries, .payment distributed, rfl⟩

/-! ### What the operations leave alone -/

/-- A step of the commission system that leaves snapshots and accruals as they are. -/
structure CommissionDb.Leaves (before after : CommissionDb) : Prop where
  core : ReachableDb before.toDb → ReachableDb after.toDb
  snapshots : after.snapshots = before.snapshots
  accrualLines : ∀ bookingId, after.accrualLines bookingId = before.accrualLines bookingId

theorem paymentEntries_ne_accrual {masters : CommissionMasters} {paymentDate : Date}
    {payment : CommissionPayment} {outstandingBookings : List (Nat × Int)}
    (distributed : paymentEntries masters paymentDate payment outstandingBookings = .ok entries) :
    ∀ entry ∈ entries, entry.entryType ≠ .accrual := by
  simp only [paymentEntries, bind_eq_ok, pure_eq_ok] at distributed
  obtain ⟨_, _, _, _, shares, _, rfl⟩ := distributed
  intro entry member
  rw [← List.map_uncurry_zip_eq_zipWith] at member
  obtain ⟨list, inside, member⟩ := List.mem_flatten.mp member
  obtain ⟨⟨share, tdsShare⟩, _, rfl⟩ := List.mem_map.mp inside
  have member : entry ∈ shareEntries payment.brokerId share tdsShare := member
  rw [shareEntries, List.mem_cons] at member
  rcases member with rfl | withheld
  · intro same
    cases same
  · split at withheld
    · rw [List.mem_singleton] at withheld
      subst withheld
      intro same
      cases same
    · cases withheld

theorem clawbackEntries_ne_accrual (db : CommissionDb) (policy : CommissionClawbackPolicy)
    (bookingId brokerId : Nat) :
    ∀ entry ∈ db.clawbackEntries policy bookingId brokerId, entry.entryType ≠ .accrual := by
  intro entry member
  rcases List.mem_append.mp member with reversal | paid
  · split at reversal
    · rw [List.mem_singleton] at reversal
      subst reversal
      intro same
      cases same
    · cases reversal
  · split at paid
    · cases policy with
      | writeOff =>
        rw [List.mem_singleton] at paid
        subst paid
        intro same
        cases same
      | recover =>
        rw [List.mem_singleton] at paid
        subst paid
        intro same
        cases same
    · cases paid

theorem CommissionDb.Posts.ne_accrual (posts : db.Posts request entries) :
    ∀ entry ∈ entries, entry.entryType ≠ .accrual := by
  cases posts with
  | nothing => exact fun entry member => absurd member List.not_mem_nil
  | payment distributed => exact paymentEntries_ne_accrual distributed
  | cancellation masters bookingId dto =>
    unfold cancellationEntries
    split
    · exact fun entry member => absurd member List.not_mem_nil
    · exact clawbackEntries_ne_accrual db _ bookingId _

theorem execCommission_leaves {after : CommissionDb}
    (accepted : execCommission request db = .ok after) : db.Leaves after := by
  have changes := execCommission_changes accepted
  obtain ⟨entries, posts, ledger⟩ := changes.posts
  refine ⟨fun reachable => ?_, changes.snapshots, fun bookingId => ?_⟩
  · rcases changes.core with same | ⟨op, _, answered⟩
    · exact same ▸ reachable
    · exact .step _ reachable answered
  · have posted := accrualLines_postCommission_of_ne db posts.ne_accrual bookingId
    unfold CommissionDb.accrualLines at posted ⊢
    rw [ledger]
    exact posted

end OpenEstate
