/-
**The statements of the money decisions.**

A decision reads the status of what it decides on, posts its entries, and writes the new status
last; a bounce writes it first. The reads take no lock, and no constraint of the schema ties an
entry, a voucher or a cancellation to its decision.

* `Decision.Takable` is what a decision needs;
* `decision_run_iff`: run alone, the statements of a decision do what the sequential model does;
* `takable_iff`: what a decision needs is what it is accepted by.
-/

import OpenEstate.Commission.Payment
import OpenEstate.Concurrent.Booking
import OpenEstate.Concurrent.Receipt
import OpenEstate.Postsales.UnitGuards

set_option linter.unusedSectionVars false

namespace OpenEstate

open Relational

/-! ### Refunds -/

def RefundService.approve (refundId : Nat) : Statements Unit := do
  let found ← Tx.read fun store => store.refunds.find? refundId
  let refund ← Tx.check (orThrow found (.notFound "Refund not found"))
  Tx.check (ensure (refund.status = .requested) (.conflict
    s!"Refund is {refund.status.text}; only REQUESTED can be approved"))
  Tx.insert fun store => store.onDb
    (·.post [refundApprovedEntry refund.bookingId refund.amountPaise])
  Tx.update (.refund refundId) fun store => store.onDb (·.setRefundStatus refundId .approved)

def RefundService.pay (refundId : Nat) : Statements Unit := do
  let found ← Tx.read fun store => store.refunds.find? refundId
  let refund ← Tx.check (orThrow found (.notFound "Refund not found"))
  Tx.check (ensure (refund.status = .approved) (.conflict
    s!"Refund is {refund.status.text}; only APPROVED can be paid"))
  Tx.insert fun store => store.onDb (·.addVoucher (refundVoucher refundId refund))
  Tx.update (.refund refundId) fun store => store.onDb (·.setRefundStatus refundId .paid)

/-! ### Receipts -/

/-- Reverse one entry of a receipt, and take a credit back from its installment. -/
def ReceiptService.reverseEntry (receiptId : Nat) (receipt : Receipt)
    (reversalType : LedgerEntryType) (row : Nat × LedgerEntry) : Statements Unit := do
  Tx.insert fun store => store.onBooks
    (·.post [reversalEntry receiptId receipt reversalType row])
  match row.2.entryType, row.2.installmentId with
  | .receiptAlloc, some installmentId =>
    ReceiptService.bumpInstallment installmentId row.2.signedAmountPaise
  | _, _ => return

def ReceiptService.postBounceCharge (receiptId : Nat) (receipt : Receipt)
    (bounceChargePaise : Int) : Statements Unit :=
  if 0 < bounceChargePaise then
    Tx.insert fun store => store.onBooks
      (·.post [bounceChargeEntry receipt.bookingId receiptId bounceChargePaise])
  else .done ()

def ReceiptService.reverseEntries (receiptId : Nat) (receipt : Receipt)
    (reversalType : LedgerEntryType) (rows : List (Nat × LedgerEntry)) : Statements Unit :=
  Tx.forEach rows (ReceiptService.reverseEntry receiptId receipt reversalType)

def ReceiptService.reverseReceiptLedger (receiptId : Nat) (receipt : Receipt)
    (reversalType : LedgerEntryType) (bounceChargePaise : Int) : Statements Unit := do
  let entries ← Tx.read fun store => store.ledger.select fun _ entry => entry.isOwnOf receiptId
  let alreadyReversed ← Tx.read fun store => store.alreadyReversed
  ReceiptService.reverseEntries receiptId receipt reversalType
    (entries.filter fun row => !alreadyReversed row.1)
  ReceiptService.postBounceCharge receiptId receipt bounceChargePaise

def ReceiptService.reverseReceipt (receiptId : Nat) : Statements Unit := do
  let found ← Tx.read fun store => store.receipts.find? receiptId
  let receipt ← Tx.check (orThrow found (.notFound "Receipt not found"))
  Tx.check (ensure (receipt.isReversed = false) (.conflict "Receipt already reversed"))
  Tx.check (ensure (receipt.clearanceStatus ≠ .bounced)
    (.conflict "A bounced cheque receipt is already reversed"))
  ReceiptService.reverseReceiptLedger receiptId receipt .adjustment 0
  Tx.update (.receipt receiptId) fun store => store.onBooks (·.markReversed receiptId)

def ReceiptService.recordChequeEvent (masters : Masters) (receiptId : Nat)
    (status : ChequeEventStatus) : Statements Unit := do
  let found ← Tx.read fun store => store.receipts.find? receiptId
  let receipt ← Tx.check (orThrow found (.notFound "Receipt not found"))
  Tx.check (ensure (chequeLike receipt.mode = true)
    (.badRequest "Cheque events only apply to cheque/DD receipts"))
  Tx.check (ensure (receipt.clearanceStatus ≠ .cleared ∧ receipt.clearanceStatus ≠ .bounced)
    (.conflict (if receipt.clearanceStatus = .cleared then "Cheque is already CLEARED"
      else "Cheque is already BOUNCED")))
  Tx.update (.receipt receiptId) fun store => store.onBooks (·.recordClearance receiptId status)
  if status = .bounced then
    ReceiptService.reverseReceiptLedger receiptId receipt .bounceReversal
      masters.chequeBounceChargePaise

/-! ### Commission payments -/

def CommissionPaymentService.pay (masters : CommissionMasters) (paymentId : Nat)
    (paymentDate : Date) : Statements Unit := do
  let found ← Tx.read fun store => store.commissionPayments.find? paymentId
  let payment ← Tx.check (orThrow found (.notFound "Commission payment not found"))
  Tx.check (ensure (payment.status = .approved) (.conflict
    s!"Commission payment is {payment.status.text}; only APPROVED can be paid"))
  let outstandingBookings ← Tx.read fun store => store.outstandingBookings payment.brokerId
  let entries ← Tx.check (paymentEntries masters paymentDate payment outstandingBookings)
  Tx.forEach entries fun entry => Tx.insert fun store => store.onCommission
    (·.postCommission [entry])
  Tx.update (.commissionPayment paymentId) fun store => store.onCommission
    (·.setPaymentStatus paymentId .paid)

/-! ### Cancellation -/

def CancellationService.deduction (masters : Masters) (bookingId : Nat) (booking : Booking)
    (dto : CancellationDto) : Statements Int :=
  match dto.cancellationRuleId with
  | none => return 0
  | some ruleId => do
    let rule ← Tx.check (orThrow (masters.cancellationRules ruleId)
      (.notFound "Cancellation rule not found"))
    let levy := match rule.deductionType with
      | .flat => rule.deductionAmountPaise.getD 0
      | .percent => percentOf booking.agreedPricePaise (rule.deductionBasisPoints.getD 0)
    if rule.forfeitBookingAmount then do
      let firstInst ← Tx.read fun store => store.firstInstallment bookingId
      return levy + (firstInst.map (·.amountPaise)).getD 0
    else return levy

def CancellationService.releaseUnit (unitId : Nat) : Statements Unit := do
  let found ← Tx.read fun store => store.units.find? unitId
  match found with
  | none => return
  | some unit =>
    if unit.status = .available then return
    else if unit.status = .cancelled then
      UnitStateMachineService.transition unitId .available .system (some "Cancellation")
    else do
      UnitStateMachineService.transition unitId .cancelled .system (some "Cancellation")
      UnitStateMachineService.transition unitId .available .system (some "Cancellation")

def CancellationService.settle (masters : Masters) (bookingId : Nat) (booking : Booking)
    (dto : CancellationDto) : Statements Unit := do
  let netReceived ← Tx.read fun store => store.netReceived bookingId
  let deduction ← CancellationService.deduction masters bookingId booking dto
  let refundable := refundableOf netReceived deduction
  let currentBalance ← Tx.read fun store => store.balance bookingId
  Tx.insert fun store => store.onDb
    (·.post (settlementEntries bookingId currentBalance deduction refundable))
  Tx.update (.booking bookingId) fun store => store.onDb
    (·.setBookingStatus bookingId dto.cancellationType.status)
  Tx.insert fun store => store.onDb
    (·.addCancellation (cancellationRow bookingId dto deduction refundable))

def CancellationService.cancel (masters : Masters) (bookingId : Nat) (dto : CancellationDto) :
    Statements Unit := do
  let found ← Tx.read fun store => store.bookings.find? bookingId
  let booking ← Tx.check (orThrow found (.notFound "Booking not found"))
  Tx.check (ensure
    (booking.status = .booked ∨ booking.status = .allotted ∨ booking.status = .registered)
    (.badRequest s!"Booking is {booking.status.text} and cannot be cancelled"))
  CancellationService.settle masters bookingId booking dto
  CancellationService.releaseUnit booking.unitId

/-! ### Decisions -/

inductive Decision
  | refundApproval (refundId : Nat)
  | refundPayment (refundId : Nat)
  | receiptReversal (receiptId : Nat)
  | chequeBounce (receiptId : Nat)
  | commissionPayout (paymentId : Nat) (paymentDate : Date)
  | cancellation (bookingId : Nat) (dto : CancellationDto)

def Decision.statements (masters : CommissionMasters) : Decision → Statements Unit
  | .refundApproval refundId => RefundService.approve refundId
  | .refundPayment refundId => RefundService.pay refundId
  | .receiptReversal receiptId => ReceiptService.reverseReceipt receiptId
  | .chequeBounce receiptId => ReceiptService.recordChequeEvent masters.toMasters receiptId .bounced
  | .commissionPayout paymentId paymentDate =>
    CommissionPaymentService.pay masters paymentId paymentDate
  | .cancellation bookingId dto => CancellationService.cancel masters.toMasters bookingId dto

def decisionSessions (masters : Bool → CommissionMasters) (decision : Bool → Decision) :
    Bool → Statements Unit :=
  fun request => (decision request).statements (masters request)

/-! ### What a decision needs -/

/-- Whether the unit of a cancelled booking can be returned to the market. -/
def Db.IsReleasable (db : Db) (unitId : Nat) : Prop :=
  ∀ unit, db.units.find? unitId = some unit → unit.status = .available ∨
    unit.status = .cancelled ∨ isValidTransition unit.status .cancelled = true

def Decision.Takable (masters : CommissionMasters) (db : CommissionDb) : Decision → Prop
  | .refundApproval refundId =>
    ∃ refund, db.refunds.find? refundId = some refund ∧ refund.status = .requested
  | .refundPayment refundId =>
    ∃ refund, db.refunds.find? refundId = some refund ∧ refund.status = .approved
  | .receiptReversal receiptId =>
    ∃ receipt, db.receipts.find? receiptId = some receipt ∧ receipt.isReversed = false ∧
      receipt.clearanceStatus ≠ .bounced
  | .chequeBounce receiptId =>
    ∃ receipt, db.receipts.find? receiptId = some receipt ∧ chequeLike receipt.mode = true ∧
      receipt.clearanceStatus ≠ .cleared ∧ receipt.clearanceStatus ≠ .bounced
  | .commissionPayout paymentId _ =>
    ∃ payment, db.commissionPayments.find? paymentId = some payment ∧ payment.status = .approved ∧
      0 < payment.amountPaise ∧
      payment.amountPaise ≤ ((db.outstandingBookings payment.brokerId).map Prod.snd).sum
  | .cancellation bookingId dto =>
    (∃ booking, db.bookings.find? bookingId = some booking ∧
      (booking.status = .booked ∨ booking.status = .allotted ∨ booking.status = .registered) ∧
      db.IsReleasable booking.unitId) ∧
    ∀ ruleId, dto.cancellationRuleId = some ruleId → (masters.cancellationRules ruleId).isSome

def Decision.apply (masters : CommissionMasters) (db : CommissionDb) :
    Decision → Except ServiceError CommissionDb
  | .refundApproval refundId => (db.onDb fun _ => ·) <$> approveRefund refundId db.toDb
  | .refundPayment refundId => (db.onDb fun _ => ·) <$> payRefund refundId db.toDb
  | .receiptReversal receiptId => (db.onDb fun _ => ·) <$> reverseReceipt receiptId db.toDb
  | .chequeBounce receiptId =>
    (db.onDb fun _ => ·) <$> recordChequeEvent masters.toMasters receiptId .bounced db.toDb
  | .commissionPayout paymentId paymentDate => payCommission masters paymentId paymentDate db
  | .cancellation bookingId dto =>
    (db.onDb fun _ => ·) <$> cancel masters.toMasters bookingId dto db.toDb

/-! ### The statements run alone -/

section Run

variable {store after : Store}

theorem approveRefund_run_eq_ok {refundId : Nat} :
    (RefundService.approve refundId).run store = .ok ((), after) ↔
      ∃ db, approveRefund refundId store.toDb = .ok db ∧ after = store.onDb fun _ => db := by
  simp only [RefundService.approve, approveRefund, Tx.run_read_bind, Tx.run_check_bind_eq_ok,
    Tx.run_insert_bind, Tx.run_update, bind_eq_ok, orThrow_eq_ok, ensure_eq_ok, pure_eq_ok,
    Except.ok.injEq, Prod.mk.injEq, true_and]
  constructor
  · rintro ⟨refund, found, _, requested, rfl⟩
    exact ⟨_, ⟨refund, found, (), requested, rfl⟩, rfl⟩
  · rintro ⟨_, ⟨refund, found, _, requested, rfl⟩, rfl⟩
    exact ⟨refund, found, (), requested, rfl⟩

theorem payRefund_run_eq_ok {refundId : Nat} :
    (RefundService.pay refundId).run store = .ok ((), after) ↔
      ∃ db, payRefund refundId store.toDb = .ok db ∧ after = store.onDb fun _ => db := by
  simp only [RefundService.pay, payRefund, Tx.run_read_bind, Tx.run_check_bind_eq_ok,
    Tx.run_insert_bind, Tx.run_update, bind_eq_ok, orThrow_eq_ok, ensure_eq_ok, pure_eq_ok,
    Except.ok.injEq, Prod.mk.injEq, true_and]
  constructor
  · rintro ⟨refund, found, _, approved, rfl⟩
    exact ⟨_, ⟨refund, found, (), approved, rfl⟩, rfl⟩
  · rintro ⟨_, ⟨refund, found, _, approved, rfl⟩, rfl⟩
    exact ⟨refund, found, (), approved, rfl⟩

theorem reverseEntries_run (receiptId : Nat) (receipt : Receipt) (reversalType : LedgerEntryType)
    (rows : List (Nat × LedgerEntry)) (store : Store) :
    (ReceiptService.reverseEntries receiptId receipt reversalType rows).run store =
      .ok ((), store.onBooks fun books =>
        rows.foldl (fun books row => books.reverseEntry receiptId receipt reversalType row)
          books) := by
  induction rows generalizing store with
  | nil => rfl
  | cons row rest ih =>
    have first : (ReceiptService.reverseEntry receiptId receipt reversalType row).run store =
        .ok ((), store.onBooks (·.reverseEntry receiptId receipt reversalType row)) := by
      rw [ReceiptService.reverseEntry, Tx.run_insert_bind]
      unfold Books.reverseEntry
      generalize row.2.entryType = kind, row.2.installmentId = named
      cases kind <;> cases named <;> first | rfl | exact bumpInstallment_run _ _ _
    exact Tx.run_bind_eq_ok.mpr ⟨(), _, first, ih _⟩

theorem postBounceCharge_run (receiptId : Nat) (receipt : Receipt) (bounceChargePaise : Int)
    (store : Store) :
    (ReceiptService.postBounceCharge receiptId receipt bounceChargePaise).run store =
      .ok ((), store.onBooks fun books =>
        if 0 < bounceChargePaise then
          books.post [bounceChargeEntry receipt.bookingId receiptId bounceChargePaise]
        else books) := by
  unfold ReceiptService.postBounceCharge
  split
  · rfl
  · rfl

theorem reverseReceiptLedger_run (receiptId : Nat) (receipt : Receipt)
    (reversalType : LedgerEntryType) (bounceChargePaise : Int) (store : Store) :
    (ReceiptService.reverseReceiptLedger receiptId receipt reversalType bounceChargePaise).run
        store =
      .ok ((), store.onBooks
        (·.reverseReceiptLedger receiptId receipt reversalType bounceChargePaise)) := by
  rw [ReceiptService.reverseReceiptLedger, Tx.run_read_bind, Tx.run_read_bind, Tx.run_bind_eq_ok]
  refine ⟨(), _, reverseEntries_run _ _ _ _ _, ?_⟩
  exact postBounceCharge_run _ _ _ _

theorem reverseReceipt_run_eq_ok {receiptId : Nat} :
    (ReceiptService.reverseReceipt receiptId).run store = .ok ((), after) ↔
      ∃ db, reverseReceipt receiptId store.toDb = .ok db ∧ after = store.onDb fun _ => db := by
  simp only [ReceiptService.reverseReceipt, reverseReceipt, Tx.run_read_bind,
    Tx.run_check_bind_eq_ok, Tx.run_bind_of_eq_ok (reverseReceiptLedger_run _ _ _ _ _),
    Tx.run_update, bind_eq_ok, orThrow_eq_ok, ensure_eq_ok, pure_eq_ok, Except.ok.injEq,
    Prod.mk.injEq, true_and]
  constructor
  · rintro ⟨receipt, found, _, unreversed, _, notBounced, rfl⟩
    exact ⟨_, ⟨receipt, found, (), unreversed, (), notBounced, rfl⟩, rfl⟩
  · rintro ⟨_, ⟨receipt, found, _, unreversed, _, notBounced, rfl⟩, rfl⟩
    exact ⟨receipt, found, (), unreversed, (), notBounced, rfl⟩

variable {masters : Masters}

theorem recordChequeEvent_run_eq_ok {receiptId : Nat} {status : ChequeEventStatus} :
    (ReceiptService.recordChequeEvent masters receiptId status).run store = .ok ((), after) ↔
      ∃ db, recordChequeEvent masters receiptId status store.toDb = .ok db ∧
        after = store.onDb fun _ => db := by
  simp only [ReceiptService.recordChequeEvent, recordChequeEvent, Tx.run_read_bind,
    Tx.run_check_bind_eq_ok, Tx.run_update_bind, bind_eq_ok, orThrow_eq_ok, ensure_eq_ok]
  by_cases bounced : status = .bounced
  · simp only [if_pos bounced, reverseReceiptLedger_run, pure_eq_ok, Except.ok.injEq,
      Prod.mk.injEq, true_and]
    constructor
    · rintro ⟨receipt, found, _, cheque, _, open_, rfl⟩
      exact ⟨_, ⟨receipt, found, (), cheque, (), open_, rfl⟩, rfl⟩
    · rintro ⟨_, ⟨receipt, found, _, cheque, _, open_, rfl⟩, rfl⟩
      exact ⟨receipt, found, (), cheque, (), open_, rfl⟩
  · simp only [if_neg bounced, pure_eq_ok]
    constructor
    · rintro ⟨receipt, found, _, cheque, _, open_, ran⟩
      cases ran
      exact ⟨_, ⟨receipt, found, (), cheque, (), open_, rfl⟩, rfl⟩
    · rintro ⟨_, ⟨receipt, found, _, cheque, _, open_, rfl⟩, rfl⟩
      exact ⟨receipt, found, (), cheque, (), open_, rfl⟩

theorem postEntries_run (entries : List CommissionLedgerEntry) (store : Store) :
    (Tx.forEach entries (fun entry => Tx.insert fun store : Store =>
      store.onCommission (·.postCommission [entry])) : Statements Unit).run store =
      .ok ((), store.onCommission (·.postCommission entries)) := by
  induction entries generalizing store with
  | nil => rfl
  | cons entry rest ih => exact ih _

theorem payCommission_run_eq_ok {masters : CommissionMasters} {paymentId : Nat}
    {paymentDate : Date} :
    (CommissionPaymentService.pay masters paymentId paymentDate).run store = .ok ((), after) ↔
      ∃ db, payCommission masters paymentId paymentDate store.toCommissionDb = .ok db ∧
        after = store.onCommission fun _ => db := by
  simp only [CommissionPaymentService.pay, payCommission, Tx.run_read_bind,
    Tx.run_check_bind_eq_ok, Tx.run_bind_of_eq_ok (postEntries_run _ _), Tx.run_update,
    bind_eq_ok, orThrow_eq_ok, ensure_eq_ok, pure_eq_ok, Except.ok.injEq, Prod.mk.injEq, true_and]
  constructor
  · rintro ⟨payment, found, _, approved, entries, distributed, rfl⟩
    exact ⟨_, ⟨payment, found, (), approved, entries, distributed, rfl⟩, rfl⟩
  · rintro ⟨_, ⟨payment, found, _, approved, entries, distributed, rfl⟩, rfl⟩
    exact ⟨payment, found, (), approved, entries, distributed, rfl⟩

theorem forfeit_run (levy : Int) (bookingId : Nat) (forfeits : Bool) (store : Store) :
    (if forfeits = true then do
      let firstInst ← Tx.read fun store => store.firstInstallment bookingId
      return levy + (firstInst.map (·.amountPaise)).getD 0
    else return levy : Statements Int).run store =
      .ok (levy + if forfeits = true then
        ((store.firstInstallment bookingId).map (·.amountPaise)).getD 0 else 0, store) := by
  cases forfeits with
  | false =>
    show Except.ok (levy, store) = .ok (levy + 0, store)
    rw [add_zero]
  | true => rfl

variable {bookingId : Nat}
variable {dto : CancellationDto}

theorem deduction_run_eq_ok {booking : Booking} {deduction : Int} :
    (CancellationService.deduction masters bookingId booking dto).run store =
        .ok (deduction, after) ↔
      cancellationDeduction masters bookingId booking dto store.toDb = .ok deduction ∧
        after = store := by
  unfold CancellationService.deduction cancellationDeduction
  cases dto.cancellationRuleId with
  | none =>
    constructor
    · intro ran
      cases ran
      exact ⟨rfl, rfl⟩
    · rintro ⟨answered, rfl⟩
      cases answered
      rfl
  | some ruleId =>
    simp only [Tx.run_check_bind_eq_ok, bind_eq_ok, orThrow_eq_ok, pure_eq_ok, forfeit_run,
      Except.ok.injEq, Prod.mk.injEq]
    constructor
    · rintro ⟨rule, found, answered, same⟩
      exact ⟨⟨rule, found, answered⟩, same.symm⟩
    · rintro ⟨⟨rule, found, answered⟩, same⟩
      exact ⟨rule, found, answered, same.symm⟩

theorem releaseUnit_run_eq_ok {unitId : Nat} :
    (CancellationService.releaseUnit unitId).run store = .ok ((), after) ↔
      ∃ db, releaseUnit unitId store.toDb = .ok db ∧ after = store.onDb fun _ => db := by
  have nothing : ((pure () : Statements Unit).run store = .ok ((), after) ↔
      ∃ db, (pure store.toDb : Except ServiceError Db) = .ok db ∧ after = store.onDb fun _ => db) := by
    constructor
    · intro ran
      cases ran
      exact ⟨_, rfl, rfl⟩
    · rintro ⟨_, answered, rfl⟩
      cases answered
      rfl
  rw [CancellationService.releaseUnit, Tx.run_read_bind, releaseUnit]
  cases found : store.units.find? unitId with
  | none => exact nothing
  | some unit =>
    simp only
    split
    · exact nothing
    · split
      · exact transition_run_eq_ok
      · constructor
        · intro ran
          obtain ⟨_, _, first, second⟩ := Tx.run_bind_eq_ok.mp ran
          obtain ⟨middle, cancelled, rfl⟩ := transition_run_eq_ok.mp first
          obtain ⟨db, released, rfl⟩ := transition_run_eq_ok.mp second
          exact ⟨db, bind_eq_ok.mpr ⟨middle, cancelled, released⟩, rfl⟩
        · rintro ⟨db, accepted, rfl⟩
          obtain ⟨middle, cancelled, released⟩ := bind_eq_ok.mp accepted
          exact Tx.run_bind_eq_ok.mpr ⟨(), _, transition_run_eq_ok.mpr ⟨middle, cancelled, rfl⟩,
            transition_run_eq_ok.mpr ⟨db, released, rfl⟩⟩

theorem settle_run_eq_ok {booking : Booking} :
    (CancellationService.settle masters bookingId booking dto).run store = .ok ((), after) ↔
      ∃ deduction, cancellationDeduction masters bookingId booking dto store.toDb = .ok deduction ∧
        after = store.onDb (·.settle bookingId dto deduction) := by
  rw [CancellationService.settle, Tx.run_read_bind, Tx.run_bind_eq_ok]
  simp only [deduction_run_eq_ok]
  constructor
  · rintro ⟨deduction, _, ⟨deducted, rfl⟩, ran⟩
    cases ran
    exact ⟨deduction, deducted, rfl⟩
  · rintro ⟨deduction, deducted, rfl⟩
    exact ⟨deduction, store, ⟨deducted, rfl⟩, rfl⟩

theorem cancel_run_eq_ok :
    (CancellationService.cancel masters bookingId dto).run store = .ok ((), after) ↔
      ∃ db, cancel masters bookingId dto store.toDb = .ok db ∧ after = store.onDb fun _ => db := by
  simp only [CancellationService.cancel, cancel, Tx.run_read_bind, Tx.run_check_bind_eq_ok,
    orThrow_eq_ok, ensure_eq_ok]
  constructor
  · rintro ⟨booking, found, _, cancellable, ran⟩
    obtain ⟨_, _, first, second⟩ := Tx.run_bind_eq_ok.mp ran
    obtain ⟨deduction, deducted, rfl⟩ := settle_run_eq_ok.mp first
    obtain ⟨db, released, rfl⟩ := releaseUnit_run_eq_ok.mp second
    refine ⟨db, ?_, rfl⟩
    simp only [bind_eq_ok, orThrow_eq_ok, ensure_eq_ok]
    exact ⟨booking, found, (), cancellable, deduction, deducted, released⟩
  · rintro ⟨db, accepted, rfl⟩
    simp only [bind_eq_ok, orThrow_eq_ok, ensure_eq_ok] at accepted
    obtain ⟨booking, found, _, cancellable, deduction, deducted, released⟩ := accepted
    refine ⟨booking, found, (), cancellable, Tx.run_bind_eq_ok.mpr
      ⟨(), store.onDb (·.settle bookingId dto deduction), ?_, ?_⟩⟩
    · exact settle_run_eq_ok.mpr ⟨deduction, deducted, rfl⟩
    · exact releaseUnit_run_eq_ok.mpr ⟨db, released, rfl⟩

theorem exists_map_onDb_eq_ok {store after : Store} {first : Except ServiceError Db} :
    (∃ db, first = .ok db ∧ after = store.onDb fun _ => db) ↔
      ∃ db, (store.toCommissionDb.onDb fun _ => ·) <$> first = .ok db ∧
        after = store.onCommission fun _ => db := by
  simp only [map_eq_ok]
  constructor
  · rintro ⟨db, accepted, rfl⟩
    exact ⟨_, ⟨db, accepted, rfl⟩, rfl⟩
  · rintro ⟨_, ⟨db, accepted, rfl⟩, rfl⟩
    exact ⟨db, accepted, rfl⟩

theorem decision_run_iff {masters : CommissionMasters} {decision : Decision} :
    (decision.statements masters).run store = .ok ((), after) ↔
      ∃ db, decision.apply masters store.toCommissionDb = .ok db ∧
        after = store.onCommission fun _ => db := by
  cases decision with
  | refundApproval refundId => exact approveRefund_run_eq_ok.trans exists_map_onDb_eq_ok
  | refundPayment refundId => exact payRefund_run_eq_ok.trans exists_map_onDb_eq_ok
  | receiptReversal receiptId => exact reverseReceipt_run_eq_ok.trans exists_map_onDb_eq_ok
  | chequeBounce receiptId => exact recordChequeEvent_run_eq_ok.trans exists_map_onDb_eq_ok
  | commissionPayout paymentId paymentDate => exact payCommission_run_eq_ok
  | cancellation bookingId dto => exact cancel_run_eq_ok.trans exists_map_onDb_eq_ok

end Run

/-! ### What a decision is accepted by -/

variable {db : Db}

theorem releaseUnit_isOk_iff {unitId : Nat} :
    (∃ after, releaseUnit unitId db = .ok after) ↔ db.IsReleasable unitId := by
  unfold releaseUnit Db.IsReleasable
  cases found : db.units.find? unitId with
  | none => exact ⟨fun _ => nofun, fun _ => ⟨db, rfl⟩⟩
  | some unit =>
    simp only [Option.some.injEq, forall_eq']
    by_cases available : unit.status = .available
    · simp only [if_pos available]
      exact ⟨fun _ => Or.inl available, fun _ => ⟨db, rfl⟩⟩
    by_cases cancelled : unit.status = .cancelled
    · simp only [if_neg available, if_pos cancelled]
      have valid : isValidTransition unit.status .available = true := by
        rw [cancelled]
        rfl
      exact ⟨fun _ => Or.inr (Or.inl cancelled), fun _ => ⟨_, transitionUnit_of_valid found valid rfl⟩⟩
    simp only [if_neg available, if_neg cancelled]
    constructor
    · rintro ⟨after, accepted⟩
      obtain ⟨middle, first, _⟩ := bind_eq_ok.mp accepted
      obtain ⟨other, again, valid, _⟩ := transitionUnit_eq_ok first
      rw [found] at again
      cases again
      exact Or.inr (Or.inr valid)
    · intro releasable
      have valid := (releasable.resolve_left available).resolve_left cancelled
      exact ⟨_, cancel_and_release found valid rfl⟩

theorem available_of_releaseUnit {unitId : Nat} {after : Db}
    (accepted : releaseUnit unitId db = .ok after) {unit : EstateUnit}
    (found : after.units.find? unitId = some unit) : unit.status = .available := by
  have released := congrArg (·.units unitId) (occupancy_releaseUnit accepted)
  simp only [occupancy_unit found, Occupancy.release, Function.update_self] at released
  exact (Option.map_eq_some_iff.mp released.symm).choose_spec.2.symm

theorem cancellationDeduction_isOk_iff {masters : Masters} {bookingId : Nat} {booking : Booking}
    {dto : CancellationDto} :
    (∃ deduction, cancellationDeduction masters bookingId booking dto db = .ok deduction) ↔
      ∀ ruleId, dto.cancellationRuleId = some ruleId →
        (masters.cancellationRules ruleId).isSome := by
  unfold cancellationDeduction
  cases dto.cancellationRuleId with
  | none => exact ⟨fun _ => nofun, fun _ => ⟨0, rfl⟩⟩
  | some ruleId =>
    simp only [bind_eq_ok, orThrow_eq_ok, pure_eq_ok, Option.some.injEq, forall_eq']
    constructor
    · rintro ⟨_, rule, found, _⟩
      exact Option.isSome_of_eq_some found
    · intro present
      obtain ⟨rule, found⟩ := Option.isSome_iff_exists.mp present
      exact ⟨_, rule, found, rfl⟩

theorem cancel_isOk_iff {masters : Masters} {bookingId : Nat} {dto : CancellationDto} :
    (∃ after, cancel masters bookingId dto db = .ok after) ↔
      (∃ booking, db.bookings.find? bookingId = some booking ∧
        (booking.status = .booked ∨ booking.status = .allotted ∨ booking.status = .registered) ∧
        db.IsReleasable booking.unitId) ∧
      ∀ ruleId, dto.cancellationRuleId = some ruleId →
        (masters.cancellationRules ruleId).isSome := by
  constructor
  · rintro ⟨after, accepted⟩
    obtain ⟨booking, deduction, found, cancellable, deducted, released⟩ := cancel_eq_ok accepted
    have releasable : (db.settle bookingId dto deduction).IsReleasable booking.unitId :=
      releaseUnit_isOk_iff.mp ⟨after, released⟩
    exact ⟨⟨booking, found, cancellable, releasable⟩,
      cancellationDeduction_isOk_iff.mp ⟨deduction, deducted⟩⟩
  · rintro ⟨⟨booking, found, cancellable, releasable⟩, rule⟩
    obtain ⟨deduction, deducted⟩ :
        ∃ deduction, cancellationDeduction masters bookingId booking dto db = .ok deduction :=
      cancellationDeduction_isOk_iff.mpr rule
    have releasable : (db.settle bookingId dto deduction).IsReleasable booking.unitId := releasable
    obtain ⟨after, released⟩ := releaseUnit_isOk_iff.mpr releasable
    simp only [cancel, bind_eq_ok, orThrow_eq_ok, ensure_eq_ok]
    exact ⟨after, booking, found, (), cancellable, deduction, deducted, released⟩

theorem takable_iff {masters : CommissionMasters} {decision : Decision} {db : CommissionDb} :
    decision.Takable masters db ↔ ∃ after, decision.apply masters db = .ok after := by
  cases decision with
  | refundApproval refundId =>
    simp only [Decision.Takable, Decision.apply, map_eq_ok, approveRefund, bind_eq_ok,
      orThrow_eq_ok, ensure_eq_ok, pure_eq_ok]
    constructor
    · rintro ⟨refund, found, requested⟩
      exact ⟨_, _, ⟨refund, found, (), requested, rfl⟩, rfl⟩
    · rintro ⟨_, _, ⟨refund, found, _, requested, _⟩, _⟩
      exact ⟨refund, found, requested⟩
  | refundPayment refundId =>
    simp only [Decision.Takable, Decision.apply, map_eq_ok, payRefund, bind_eq_ok,
      orThrow_eq_ok, ensure_eq_ok, pure_eq_ok]
    constructor
    · rintro ⟨refund, found, approved⟩
      exact ⟨_, _, ⟨refund, found, (), approved, rfl⟩, rfl⟩
    · rintro ⟨_, _, ⟨refund, found, _, approved, _⟩, _⟩
      exact ⟨refund, found, approved⟩
  | receiptReversal receiptId =>
    simp only [Decision.Takable, Decision.apply, map_eq_ok, reverseReceipt, bind_eq_ok,
      orThrow_eq_ok, ensure_eq_ok, pure_eq_ok]
    constructor
    · rintro ⟨receipt, found, unreversed, notBounced⟩
      exact ⟨_, _, ⟨receipt, found, (), unreversed, (), notBounced, rfl⟩, rfl⟩
    · rintro ⟨_, _, ⟨receipt, found, _, unreversed, _, notBounced, _⟩, _⟩
      exact ⟨receipt, found, unreversed, notBounced⟩
  | chequeBounce receiptId =>
    simp only [Decision.Takable, Decision.apply, map_eq_ok, recordChequeEvent, bind_eq_ok,
      orThrow_eq_ok, ensure_eq_ok, if_true, pure_eq_ok]
    constructor
    · rintro ⟨receipt, found, cheque, open_⟩
      exact ⟨_, _, ⟨receipt, found, (), cheque, (), open_, rfl⟩, rfl⟩
    · rintro ⟨_, _, ⟨receipt, found, _, cheque, _, open_, _⟩, _⟩
      exact ⟨receipt, found, cheque, open_⟩
  | commissionPayout paymentId paymentDate =>
    simp only [Decision.Takable, Decision.apply, payCommission_eq_ok]
    constructor
    · rintro ⟨payment, found, approved, within⟩
      obtain ⟨entries, distributed⟩ :=
        (paymentEntries_isOk_iff (outstandingBookings_pos db payment.brokerId)).mpr within
      exact ⟨_, payment, entries, found, approved, distributed, rfl⟩
    · rintro ⟨_, payment, entries, found, approved, distributed, _⟩
      have within := (paymentEntries_isOk_iff (outstandingBookings_pos db payment.brokerId)).mp
        ⟨entries, distributed⟩
      exact ⟨payment, found, approved, within⟩
  | cancellation bookingId dto =>
    refine (cancel_isOk_iff : (∃ after, cancel masters.toMasters bookingId dto db.toDb = .ok after) ↔
      _).symm.trans ?_
    simp only [Decision.apply, map_eq_ok]
    constructor
    · rintro ⟨after, accepted⟩
      exact ⟨_, after, accepted, rfl⟩
    · rintro ⟨_, after, accepted, _⟩
      exact ⟨after, accepted⟩

/-! ### Overtaking -/

/-- **A decision paused before it has written anything can be overtaken by one that can be taken**,
and both commit. -/
theorem exists_overtaken {masters : Bool → CommissionMasters} {decision : Bool → Decision}
    {store after : Store} {first second : Bool} (different : first ≠ second)
    {rest : Statements Unit} {db : CommissionDb}
    (pauses : ((decision first).statements (masters first)).Path store rest id [])
    (accepted : (decision second).apply (masters second) store.toCommissionDb = .ok db)
    (resumes : rest.run (store.onCommission fun _ => db) = .ok ((), after)) :
    ∃ schedule,
      (World.interleave (decisionSessions masters decision) store schedule).rows = after ∧
      ∀ request, (World.interleave (decisionSessions masters decision) store
        schedule).HasCommitted request := by
  have ran := decision_run_iff.mpr ⟨db, accepted, rfl⟩
  obtain ⟨writes, locks, overtakes, wrote⟩ := Tx.Path.of_run ran
  have pauses : (decisionSessions masters decision first).Path store rest id [] := pauses
  have overtakes : (decisionSessions masters decision second).Path store _ _ _ := overtakes
  rw [← wrote] at resumes
  obtain ⟨world, occurs, rows, one, other⟩ := World.exists_overtaking different pauses overtakes
    (fun _ _ => List.not_mem_nil) resumes
  obtain ⟨schedule, leads⟩ := occurs.exists_run
  refine ⟨schedule, ?_⟩
  rw [World.interleave, leads]
  refine ⟨rows, fun request => ?_⟩
  by_cases same : request = first
  · exact ⟨(), same ▸ one⟩
  · have same : request = second :=
      (Bool.eq_not_of_ne same).trans (Bool.eq_not_of_ne different.symm).symm
    exact ⟨(), same ▸ other⟩

end OpenEstate
