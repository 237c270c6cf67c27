/-
**Operations as the receipts see them.**

Of all operations five touch a receipt: entering one, the two sorts of cheque events, the reversal
and the certificate. `ReceiptStep` names them with what they write, and says of every other
operation that it appends plain entries and leaves receipts, allocations and tax rows alone. A
property of receipts then needs six cases, not one for each operation.
-/

import OpenEstate.Postsales.Sound

namespace OpenEstate

open Relational

inductive ReceiptStep (request : Request) (db after : Db) : Prop
  | foreign (entries : List LedgerEntry)
    (ledger : after.ledger = db.ledger.createMany entries)
    (plain : ∀ entry ∈ entries, entry.IsPlain)
    (receipts : after.receipts = db.receipts)
    (allocations : after.allocations = db.allocations)
    (deductions : after.tdsDeductions = db.tdsDeductions)
    (certificates : after.tdsCertificates = db.tdsCertificates)
    (notOutcome : ∀ receiptId, request.op ≠ .reverseReceipt receiptId ∧
      ∀ status, request.op ≠ .recordChequeEvent receiptId status)
    (notCertificate : ∀ tdsDeductionId, request.op ≠ .recordTdsCertificate tdsDeductionId)
  | received (dto : CreateReceiptDto) (op : request.op = .createReceipt dto)
    (accepts : db.AcceptsReceipt dto) (same : after = db.withBooks (db.recordReceipt dto))
  | cleared (receiptId : Nat) (status : ChequeEventStatus) (receipt : Receipt)
    (op : request.op = .recordChequeEvent receiptId status) (stands : status ≠ .bounced)
    (found : db.receipts.find? receiptId = some receipt)
    (cheque : chequeLike receipt.mode = true) (notCleared : receipt.clearanceStatus ≠ .cleared)
    (notBounced : receipt.clearanceStatus ≠ .bounced)
    (same : after =
      db.withBooks (db.markReceipt receiptId (Receipt.withClearance status.clearance)))
  | bounced (receiptId : Nat) (receipt : Receipt)
    (op : request.op = .recordChequeEvent receiptId .bounced)
    (found : db.receipts.find? receiptId = some receipt)
    (cheque : chequeLike receipt.mode = true) (notCleared : receipt.clearanceStatus ≠ .cleared)
    (notBounced : receipt.clearanceStatus ≠ .bounced)
    (same : after = db.withBooks (db.undo receiptId receipt .bounceReversal
      request.masters.chequeBounceChargePaise Receipt.asBounced))
  | reversed (receiptId : Nat) (receipt : Receipt) (op : request.op = .reverseReceipt receiptId)
    (found : db.receipts.find? receiptId = some receipt) (unreversed : receipt.isReversed = false)
    (notBounced : receipt.clearanceStatus ≠ .bounced)
    (same : after = db.withBooks (db.undo receiptId receipt .adjustment 0 Receipt.asReversed))
  | certified (tdsDeductionId : Nat) (ded : TdsDeduction)
    (op : request.op = .recordTdsCertificate tdsDeductionId)
    (found : db.tdsDeductions.find? tdsDeductionId = some ded)
    (fresh : ∀ id row, db.tdsCertificates.find? id = some row →
      row.tdsDeductionId ≠ tdsDeductionId)
    (same : after = db.withBooks (db.recordCertificate tdsDeductionId ded))

theorem ReceiptStep.silent {request : Request} {db after : Db}
    (ledger : after.ledger = db.ledger) (receipts : after.receipts = db.receipts)
    (allocations : after.allocations = db.allocations)
    (deductions : after.tdsDeductions = db.tdsDeductions)
    (certificates : after.tdsCertificates = db.tdsCertificates)
    (notOutcome : ∀ receiptId, request.op ≠ .reverseReceipt receiptId ∧
      ∀ status, request.op ≠ .recordChequeEvent receiptId status)
    (notCertificate : ∀ tdsDeductionId, request.op ≠ .recordTdsCertificate tdsDeductionId) :
    ReceiptStep request db after :=
  .foreign [] ledger (by simp) receipts allocations deductions certificates notOutcome notCertificate

theorem ReceiptStep.posting {request : Request} {db after : Db} {entry : LedgerEntry}
    (ledger : after.ledger = db.ledger.create entry) (plain : entry.IsPlain)
    (receipts : after.receipts = db.receipts)
    (allocations : after.allocations = db.allocations)
    (deductions : after.tdsDeductions = db.tdsDeductions)
    (certificates : after.tdsCertificates = db.tdsCertificates)
    (notOutcome : ∀ receiptId, request.op ≠ .reverseReceipt receiptId ∧
      ∀ status, request.op ≠ .recordChequeEvent receiptId status)
    (notCertificate : ∀ tdsDeductionId, request.op ≠ .recordTdsCertificate tdsDeductionId) :
    ReceiptStep request db after := by
  have posted : ∀ each ∈ [entry], each.IsPlain := by
    intro each member
    rw [List.mem_singleton.mp member]
    exact plain
  exact .foreign [entry] ledger posted receipts allocations deductions certificates notOutcome
    notCertificate

theorem Effect.receiptStep {request : Request} {db after : Db} (effect : Effect request db after) :
    ReceiptStep request db after := by
  cases effect with
  | createReceipt found withheld accepts => exact .received _ rfl accepts rfl
  | recordClearance found cheque notCleared notBounced stands =>
    exact .cleared _ _ _ rfl stands found cheque notCleared notBounced rfl
  | recordBounce found cheque notCleared notBounced =>
    exact .bounced _ _ rfl found cheque notCleared notBounced rfl
  | reverseReceipt found unreversed notBounced =>
    exact .reversed _ _ rfl found unreversed notBounced rfl
  | recordTdsCertificate found fresh => exact .certified _ _ rfl found fresh rfl
  | instantiateFromTemplate found deactivated =>
    rw [deactivateExistingPlans_frame deactivated]
    exact .silent rfl rfl rfl rfl rfl (by simp) (by simp)
  | createCustomPlan found deactivated =>
    rw [deactivateExistingPlans_frame deactivated]
    exact .silent rfl rfl rfl rfl rfl (by simp) (by simp)
  | raiseStage stage =>
    rcases stage with rfl | ⟨stageRaise, rfl⟩ <;>
      exact .silent rfl rfl rfl rfl rfl (by simp) (by simp)
  | createBooking =>
    refine .foreign _ rfl ?_ rfl rfl rfl rfl (by simp) (by simp)
    intro entry member
    obtain ⟨total, _, rfl⟩ := List.mem_map.mp member
    exact isPlain_chargeEntry _ total
  | @addExtraCharge _ _ bookingId _ _ lineTotal =>
    have plain : (extraChargeEntry bookingId lineTotal).IsPlain := ⟨rfl, rfl, rfl⟩
    exact .posting rfl plain rfl rfl rfl rfl (by simp) (by simp)
  | @accrueForBooking _ _ _ _ _ entries _ found posted =>
    refine .foreign entries rfl ?_ rfl rfl rfl rfl (by simp) (by simp)
    intro entry member
    obtain ⟨installmentId, amount, _, rfl⟩ := posted entry member
    exact ⟨rfl, rfl, rfl⟩
  | @waiveInterest _ _ bookingId dto =>
    have plain : (interestWaiverEntry bookingId dto.amountPaise).IsPlain := ⟨rfl, rfl, rfl⟩
    exact .posting rfl plain rfl rfl rfl rfl (by simp) (by simp)
  | @approveRefund _ _ _ refund =>
    have plain : (refundApprovedEntry refund.bookingId refund.amountPaise).IsPlain := ⟨rfl, rfl, rfl⟩
    exact .posting rfl plain rfl rfl rfl rfl (by simp) (by simp)
  | @voucherBounced masters _ _ voucher =>
    have plain : ∀ entry ∈ voucherBouncedEntries voucher.bookingId voucher.amountPaise
        masters.chequeBounceChargePaise, entry.IsPlain :=
      fun entry member => (isPlain_voucherBouncedEntries _ _ _ entry member).1
    cases named : voucher.refundId <;>
      exact .foreign _ rfl plain rfl rfl rfl rfl (by simp) (by simp)
  | @transfer _ _ fromBookingId dto booking fee unitId applicantId units =>
    refine .foreign (carryOutEntry fromBookingId (db.balance fromBookingId) ::
      carryInEntries db.bookings.nextId (db.balance fromBookingId) fee) rfl ?_ rfl rfl rfl rfl
      (by simp) (by simp)
    refine List.forall_mem_cons.mpr ⟨⟨rfl, rfl, rfl⟩, fun entry member => ?_⟩
    exact (isPlain_carryInEntries _ _ _ entry member).1
  | @cancel _ _ bookingId dto booking deduction units =>
    refine .foreign (settlementEntries bookingId (db.balance bookingId) deduction
      (refundableOf (db.netReceived bookingId) deduction)) rfl ?_ rfl rfl rfl rfl (by simp) (by simp)
    exact fun entry member => (isPlain_settlementEntries _ _ _ _ entry member).1
  | _ => exact .silent rfl rfl rfl rfl rfl (by simp) (by simp)

end OpenEstate
