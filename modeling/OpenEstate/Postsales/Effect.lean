/-
**What an accepted operation did.**

`Effect request before after` lists, operation by operation, the checks that passed and the state
that was written, with the writes named. `exec_effect` is the only place where the operations are
opened: every invariant of the system is a case analysis on `Effect`.
-/

import OpenEstate.Postsales.ReceiptEffect
import OpenEstate.Postsales.System

namespace OpenEstate

open Relational

def Db.withUnits (db : Db) (units : Table EstateUnit) : Db := { db with units }

def Db.recordAccruals (db : Db) (entries : List LedgerEntry) (accruals : List InterestAccrual) :
    Db :=
  { db.post entries with accruals := db.accruals.createMany accruals }

/-- The books with a receipt undone: its pending entries reversed, its row marked. -/
def Books.undo (books : Books) (receiptId : Nat) (receipt : Receipt)
    (reversalType : LedgerEntryType) (bounceChargePaise : Int) (mark : Receipt → Receipt) : Books :=
  { books with
    receipts := books.receipts.modify receiptId mark
    installments := bumpAll books.installments (reversalDeltas (books.pendingEntries receiptId))
    ledger := books.ledger.createMany (reversalEntries receiptId receipt reversalType
      bounceChargePaise (books.pendingEntries receiptId)) }

def Receipt.asBounced (receipt : Receipt) : Receipt :=
  { receipt with clearanceStatus := .bounced, isReversed := true }

def Receipt.asReversed (receipt : Receipt) : Receipt :=
  { receipt with isReversed := true }

def Receipt.withClearance (status : ChequeClearanceStatus) (receipt : Receipt) : Receipt :=
  { receipt with clearanceStatus := status }

def Books.markReceipt (books : Books) (receiptId : Nat) (mark : Receipt → Receipt) : Books :=
  { books with receipts := books.receipts.modify receiptId mark }

def Db.withBooks (db : Db) (books : Books) : Db := { db with toBooks := books }

inductive Effect : Request → Db → Db → Prop
  | createApplicant {masters db} : Effect ⟨masters, .createApplicant⟩ db (createApplicant db)
  | mergeApplicant {masters db applicantId intoId} :
    Effect ⟨masters, .mergeApplicant applicantId intoId⟩ db (mergeApplicant applicantId intoId db)
  | createUnit {masters db number projectId} :
    Effect ⟨masters, .createUnit number projectId⟩ db (createUnit number projectId db)
  | moveUnit {masters db unitId toStatus reason}
    (accepted : transitionUnit unitId toStatus .user reason db =
      .ok (db.setUnitStatus unitId toStatus)) :
    Effect ⟨masters, .moveUnit unitId toStatus reason⟩ db (db.setUnitStatus unitId toStatus)
  | createBooking {masters db dto unit placeOfSupplyStateCode} {lineTotals : List Int}
    (unitFound : db.units.find? dto.unitId = some unit)
    (bookable : unit.status = .available ∨ unit.status = .held)
    (nonneg : ∀ total ∈ lineTotals, 0 ≤ total) :
    Effect ⟨masters, .createBooking dto⟩ db
      (((db.addBooking (bookingRow dto placeOfSupplyStateCode lineTotals.sum)).post
        (lineTotals.map (chargeEntry db.bookings.nextId))).setUnitStatus dto.unitId .booked)
  | advance {masters db bookingId target booking unit}
    (found : db.bookings.find? bookingId = some booking)
    (expected : booking.status = target.expectedFrom)
    (unitFound : db.units.find? booking.unitId = some unit)
    (valid : isValidTransition unit.status target.unitStatus = true) :
    Effect ⟨masters, .advance bookingId target⟩ db
      ((db.setBookingStatus bookingId target.status).setUnitStatus booking.unitId target.unitStatus)
  | setInterestRule {masters db bookingId ruleId} :
    Effect ⟨masters, .setInterestRule bookingId ruleId⟩ db (setInterestRule bookingId ruleId db)
  | instantiateFromTemplate {masters db bookingId templateId booking cleared rows}
    (found : db.bookings.find? bookingId = some booking)
    (deactivated : deactivateExistingPlans bookingId db = .ok cleared)
    (schedule : 0 ≤ booking.agreedPricePaise →
      IsSchedule rows bookingId cleared.plans.nextId booking.agreedPricePaise) :
    Effect ⟨masters, .instantiateFromTemplate bookingId templateId⟩ db
      ((cleared.addPlan { bookingId, templateId := some templateId }).addInstallments rows)
  | createCustomPlan {masters db bookingId dto booking cleared rows}
    (found : db.bookings.find? bookingId = some booking)
    (deactivated : deactivateExistingPlans bookingId db = .ok cleared)
    (schedule : 0 ≤ booking.agreedPricePaise →
      IsSchedule rows bookingId cleared.plans.nextId booking.agreedPricePaise) :
    Effect ⟨masters, .createCustomPlan bookingId dto⟩ db
      ((cleared.addPlan { bookingId }).addInstallments rows)
  | editPlan {masters db bookingId dto booking} {plan : Nat × PaymentPlan} {rows}
    (found : db.bookings.find? bookingId = some booking)
    (active : db.activePlan bookingId = some plan)
    (unreferenced : db.Unreferenced fun _ inst => inst.planId = plan.1 ∧ inst.allocatedPaise = 0)
    (schedule : IsSchedule rows bookingId plan.1
      (booking.agreedPricePaise - db.frozenSum plan.1))
    (appended : ∀ id frozen, db.installments.find? id = some frozen → frozen.planId = plan.1 →
      0 < frozen.allocatedPaise → ∀ inst ∈ rows, frozen.seq < inst.seq) :
    Effect ⟨masters, .editPlan bookingId dto⟩ db
      ((db.dropInstallments fun _ inst =>
        inst.planId = plan.1 ∧ inst.allocatedPaise = 0).addInstallments rows)
  | raiseStage {masters db projectId dto dueDate stageRaiseId} {raised : Db}
    (stage : raised = db ∨ ∃ stageRaise, raised = db.addStageRaise stageRaise) :
    Effect ⟨masters, .raiseStage projectId dto⟩ db
      (raised.setRaised (db.raises projectId dto) dueDate stageRaiseId)
  | addExtraCharge {masters db bookingId dto booking lineTotal}
    (found : db.bookings.find? bookingId = some booking) (nonneg : 0 ≤ lineTotal)
    (accepted : addExtraCharge masters bookingId dto db =
      .ok (db.post [extraChargeEntry bookingId lineTotal])) :
    Effect ⟨masters, .addExtraCharge bookingId dto⟩ db
      (db.post [extraChargeEntry bookingId lineTotal])
  | createReceipt {masters db dto booking}
    (found : db.bookings.find? dto.bookingId = some booking)
    (withheld : checkTds masters dto booking = .ok ()) (accepts : db.AcceptsReceipt dto) :
    Effect ⟨masters, .createReceipt dto⟩ db (db.withBooks (db.recordReceipt dto))
  | recordClearance {masters db receiptId status receipt}
    (found : db.receipts.find? receiptId = some receipt)
    (cheque : chequeLike receipt.mode = true) (notCleared : receipt.clearanceStatus ≠ .cleared)
    (notBounced : receipt.clearanceStatus ≠ .bounced) (stands : status ≠ .bounced) :
    Effect ⟨masters, .recordChequeEvent receiptId status⟩ db
      (db.withBooks (db.markReceipt receiptId (Receipt.withClearance status.clearance)))
  | recordBounce {masters db receiptId receipt}
    (found : db.receipts.find? receiptId = some receipt)
    (cheque : chequeLike receipt.mode = true) (notCleared : receipt.clearanceStatus ≠ .cleared)
    (notBounced : receipt.clearanceStatus ≠ .bounced) :
    Effect ⟨masters, .recordChequeEvent receiptId .bounced⟩ db
      (db.withBooks (db.undo receiptId receipt .bounceReversal masters.chequeBounceChargePaise
        Receipt.asBounced))
  | reverseReceipt {masters db receiptId receipt}
    (found : db.receipts.find? receiptId = some receipt) (unreversed : receipt.isReversed = false)
    (notBounced : receipt.clearanceStatus ≠ .bounced) :
    Effect ⟨masters, .reverseReceipt receiptId⟩ db
      (db.withBooks (db.undo receiptId receipt .adjustment 0 Receipt.asReversed))
  | recordTdsCertificate {masters db tdsDeductionId ded}
    (found : db.tdsDeductions.find? tdsDeductionId = some ded)
    (fresh : ∀ id row, db.tdsCertificates.find? id = some row →
      row.tdsDeductionId ≠ tdsDeductionId) :
    Effect ⟨masters, .recordTdsCertificate tdsDeductionId⟩ db
      (db.withBooks (db.recordCertificate tdsDeductionId ded))
  | accrueForBooking {masters db bookingId asOf booking entries accruals}
    (found : db.bookings.find? bookingId = some booking)
    (posted : ∀ entry ∈ entries, ∃ installmentId amount, 0 < amount ∧
      entry = interestEntry bookingId installmentId amount)
    (recorded : ∀ entry ∈ entries, ∃ accrual ∈ accruals,
      entry = interestEntry bookingId accrual.installmentId accrual.accruedPaise)
    (accepted : accrueForBooking masters bookingId asOf db =
      .ok (db.recordAccruals entries accruals)) :
    Effect ⟨masters, .accrueForBooking bookingId asOf⟩ db (db.recordAccruals entries accruals)
  | waiveInterest {masters db bookingId dto booking}
    (found : db.bookings.find? bookingId = some booking) :
    Effect ⟨masters, .waiveInterest bookingId dto⟩ db
      (db.post [interestWaiverEntry bookingId dto.amountPaise])
  | requestRefund {masters db bookingId dto booking}
    (found : db.bookings.find? bookingId = some booking)
    (owed : dto.amountPaise ≤ db.owedToCustomer bookingId) :
    Effect ⟨masters, .requestRefund bookingId dto⟩ db
      (db.addRefund { bookingId, amountPaise := dto.amountPaise, status := .requested })
  | approveRefund {masters db refundId refund}
    (found : db.refunds.find? refundId = some refund) (requested : refund.status = .requested) :
    Effect ⟨masters, .approveRefund refundId⟩ db
      ((db.post [refundApprovedEntry refund.bookingId refund.amountPaise]).setRefundStatus refundId
        .approved)
  | payRefund {masters db refundId refund}
    (found : db.refunds.find? refundId = some refund) (approved : refund.status = .approved) :
    Effect ⟨masters, .payRefund refundId⟩ db
      ((db.addVoucher (refundVoucher refundId refund)).setRefundStatus refundId .paid)
  | voucherBounced {masters db voucherId voucher}
    (found : db.vouchers.find? voucherId = some voucher) (issued : voucher.status = .issued) :
    Effect ⟨masters, .voucherBounced voucherId⟩ db
      (((db.post (voucherBouncedEntries voucher.bookingId voucher.amountPaise
        masters.chequeBounceChargePaise)).markBounced voucherId).reopenRefund voucher.refundId)
  | transfer {masters db fromBookingId dto booking fee unitId applicantId units}
    (found : db.bookings.find? fromBookingId = some booking)
    (transferable : booking.status = .booked ∨ booking.status = .allotted)
    (charged : transferFee masters dto booking = .ok fee)
    (target : transferTarget dto booking db = .ok (unitId, applicantId))
    (moved : moveUnits dto.transferType booking.unitId unitId (db.carryOver fromBookingId
      (transferredBooking masters booking unitId applicantId) (db.balance fromBookingId) fee) =
      .ok ((db.carryOver fromBookingId (transferredBooking masters booking unitId applicantId)
        (db.balance fromBookingId) fee).withUnits units)) :
    Effect ⟨masters, .transfer fromBookingId dto⟩ db
      (((db.carryOver fromBookingId (transferredBooking masters booking unitId applicantId)
        (db.balance fromBookingId) fee).withUnits units).addTransfer (transferRow fromBookingId
          db.bookings.nextId dto.transferType fee (db.balance fromBookingId)))
  | cancel {masters db bookingId dto booking deduction units}
    (found : db.bookings.find? bookingId = some booking)
    (cancellable : booking.status = .booked ∨ booking.status = .allotted ∨
      booking.status = .registered)
    (deducted : cancellationDeduction masters bookingId booking dto db = .ok deduction)
    (released : releaseUnit booking.unitId (db.settle bookingId dto deduction) =
      .ok ((db.settle bookingId dto deduction).withUnits units)) :
    Effect ⟨masters, .cancel bookingId dto⟩ db
      ((db.settle bookingId dto deduction).withUnits units)

theorem foldl_accrueInstallment (rule : InterestRule) (bookingId : Nat) (asOf : Date)
    (rows : List (Nat × Installment)) (db : Db) :
    ∃ entries accruals, rows.foldl (accrueInstallment rule bookingId asOf) db =
        db.recordAccruals entries accruals ∧
      (∀ entry ∈ entries, ∃ installmentId amount, 0 < amount ∧
        entry = interestEntry bookingId installmentId amount) ∧
      ∀ entry ∈ entries, ∃ accrual ∈ accruals,
        entry = interestEntry bookingId accrual.installmentId accrual.accruedPaise := by
  induction rows generalizing db with
  | nil => exact ⟨[], [], rfl, by simp, by simp⟩
  | cons row rest ih =>
    rw [List.foldl_cons]
    rcases accrueInstallment_eq rule bookingId asOf db row with
      same | ⟨amount, accrual, owed, ofRow, ofAmount, same⟩
    · rw [same]
      exact ih db
    · rw [same]
      obtain ⟨entries, accruals, result, posted, recorded⟩ :=
        ih ((db.post [interestEntry bookingId row.1 amount]).addAccrual accrual)
      refine ⟨interestEntry bookingId row.1 amount :: entries, accrual :: accruals, result, ?_, ?_⟩
      · exact List.forall_mem_cons.mpr ⟨⟨row.1, amount, owed, rfl⟩, posted⟩
      · refine List.forall_mem_cons.mpr ⟨⟨accrual, List.mem_cons_self, ?_⟩, fun entry member => ?_⟩
        · rw [ofRow, ofAmount]
        · obtain ⟨later, listed, same⟩ := recorded entry member
          exact ⟨later, List.mem_cons_of_mem _ listed, same⟩

theorem accrueForBooking_effect {masters : Masters} {bookingId : Nat} {asOf : Option Date}
    {db after : Db} (accepted : accrueForBooking masters bookingId asOf db = .ok after) :
    Effect ⟨masters, .accrueForBooking bookingId asOf⟩ db after := by
  obtain ⟨booking, found, ⟨_, same⟩ | ⟨rule, _, same⟩⟩ := accrueForBooking_eq_ok accepted
  · subst same
    have nothing : Effect ⟨masters, .accrueForBooking bookingId asOf⟩ after
        (after.recordAccruals [] []) := .accrueForBooking found (by simp) (by simp) accepted
    exact nothing
  · obtain ⟨entries, accruals, result, posted, recorded⟩ := foldl_accrueInstallment rule bookingId
      (asOf.getD masters.now) (db.overdue bookingId (asOf.getD masters.now)) db
    rw [same, result] at accepted ⊢
    exact .accrueForBooking found posted recorded accepted

theorem recordChequeEvent_effect {masters : Masters} {receiptId : Nat}
    {status : ChequeEventStatus} {db after : Db}
    (accepted : recordChequeEvent masters receiptId status db = .ok after) :
    Effect ⟨masters, .recordChequeEvent receiptId status⟩ db after := by
  obtain ⟨receipt, found, cheque, notCleared, notBounced, rfl⟩ := recordChequeEvent_eq_ok accepted
  by_cases bounced : status = .bounced
  · subst bounced
    rw [if_pos rfl, reverseReceiptLedger_eq]
    exact .recordBounce found cheque notCleared notBounced
  · have cleared : db.toBooks.recordClearance receiptId status =
        db.markReceipt receiptId (Receipt.withClearance status.clearance) := by
      unfold Books.recordClearance
      simp only [if_neg bounced]
      rfl
    rw [if_neg bounced, cleared]
    exact .recordClearance found cheque notCleared notBounced bounced

/-- **Every accepted operation has its effect.** -/
theorem exec_effect {request : Request} {db after : Db} (accepted : exec request db = .ok after) :
    Effect request db after := by
  obtain ⟨masters, op⟩ := request
  cases op with
  | createApplicant =>
    cases accepted
    exact .createApplicant
  | mergeApplicant applicantId intoId =>
    cases accepted
    exact .mergeApplicant
  | createUnit number projectId =>
    cases accepted
    exact .createUnit
  | moveUnit unitId toStatus reason =>
    have accepted : transitionUnit unitId toStatus .user reason db = .ok after := accepted
    obtain ⟨_, _, _, rfl⟩ := transitionUnit_eq_ok accepted
    exact .moveUnit accepted
  | createBooking dto =>
    obtain ⟨answer, answered, rfl⟩ := map_eq_ok.mp accepted
    obtain ⟨unit, _, _, unitFound, bookable, nonneg, rfl⟩ := createBooking_eq_ok answered
    exact .createBooking unitFound bookable nonneg
  | advance bookingId target =>
    obtain ⟨booking, unit, found, expected, unitFound, valid, rfl⟩ := advance_eq_ok accepted
    exact .advance found expected unitFound valid
  | setInterestRule bookingId ruleId =>
    cases accepted
    exact .setInterestRule
  | instantiateFromTemplate bookingId templateId =>
    obtain ⟨_, _, _, found, deactivated, schedule, rfl⟩ := instantiateFromTemplate_eq_ok accepted
    exact .instantiateFromTemplate found deactivated schedule
  | createCustomPlan bookingId dto =>
    obtain ⟨_, _, _, found, deactivated, schedule, rfl⟩ := createCustomPlan_eq_ok accepted
    exact .createCustomPlan found deactivated schedule
  | editPlan bookingId dto =>
    obtain ⟨_, _, _, found, active, unreferenced, schedule, appended, rfl⟩ := editPlan_eq_ok accepted
    exact .editPlan found active unreferenced schedule appended
  | raiseStage projectId dto =>
    obtain ⟨_, _, _, stage, rfl⟩ := raiseStage_eq_ok accepted
    exact .raiseStage stage
  | addExtraCharge bookingId dto =>
    have accepted : addExtraCharge masters bookingId dto db = .ok after := accepted
    obtain ⟨_, _, found, nonneg, rfl⟩ := addExtraCharge_eq_ok accepted
    exact .addExtraCharge found nonneg accepted
  | createReceipt dto =>
    obtain ⟨answer, answered, rfl⟩ := map_eq_ok.mp accepted
    obtain ⟨_, found, withheld, accepts, rfl⟩ := createReceipt_eq_ok answered
    exact .createReceipt found withheld accepts
  | recordChequeEvent receiptId status => exact recordChequeEvent_effect accepted
  | reverseReceipt receiptId =>
    obtain ⟨_, found, unreversed, notBounced, rfl⟩ := reverseReceipt_eq_ok accepted
    rw [reverseReceiptLedger_eq]
    exact .reverseReceipt found unreversed notBounced
  | recordTdsCertificate tdsDeductionId =>
    obtain ⟨_, found, fresh, rfl⟩ := recordTdsCertificate_eq_ok accepted
    exact .recordTdsCertificate found fresh
  | accrueForBooking bookingId asOf => exact accrueForBooking_effect accepted
  | waiveInterest bookingId dto =>
    obtain ⟨_, found, rfl⟩ := waiveInterest_eq_ok accepted
    exact .waiveInterest found
  | requestRefund bookingId dto =>
    obtain ⟨answer, answered, rfl⟩ := map_eq_ok.mp accepted
    obtain ⟨_, found, owed, rfl⟩ := requestRefund_eq_ok answered
    exact .requestRefund found owed
  | approveRefund refundId =>
    obtain ⟨_, found, requested, rfl⟩ := approveRefund_eq_ok accepted
    exact .approveRefund found requested
  | payRefund refundId =>
    obtain ⟨_, found, approved, rfl⟩ := payRefund_eq_ok accepted
    exact .payRefund found approved
  | voucherBounced voucherId =>
    obtain ⟨_, found, issued, rfl⟩ := voucherBounced_eq_ok accepted
    exact .voucherBounced found issued
  | transfer fromBookingId dto =>
    obtain ⟨answer, answered, rfl⟩ := map_eq_ok.mp accepted
    obtain ⟨_, _, _, _, _, found, transferable, charged, target, moved, rfl⟩ :=
      transfer_eq_ok answered
    obtain ⟨units, rfl⟩ := moveUnits_eq_ok moved
    exact .transfer found transferable charged target moved
  | cancel bookingId dto =>
    obtain ⟨_, _, found, cancellable, deducted, released⟩ := cancel_eq_ok accepted
    obtain ⟨units, rfl⟩ := releaseUnit_eq_ok released
    exact .cancel found cancellable deducted released

end OpenEstate
