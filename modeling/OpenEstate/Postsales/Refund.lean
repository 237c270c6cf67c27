/-
**Refunds**: requested against the balance, approved (which is when the debit is posted), paid with
a voucher (which posts nothing), and re-opened when the voucher bounces.
-/

import OpenEstate.Postsales.Schema

namespace OpenEstate

open Relational

def Db.addRefund (db : Db) (refund : Refund) : Db :=
  { db with refunds := db.refunds.create refund }

def Db.setRefundStatus (db : Db) (refundId : Nat) (status : RefundStatus) : Db :=
  { db with refunds := db.refunds.modify refundId fun refund => { refund with status } }

def Db.addVoucher (db : Db) (voucher : PaymentVoucher) : Db :=
  { db with vouchers := db.vouchers.create voucher }

def Db.markBounced (db : Db) (voucherId : Nat) : Db :=
  { db with
    vouchers := db.vouchers.modify voucherId fun voucher => { voucher with status := .bounced } }

def requestRefund (bookingId : Nat) (dto : RequestRefundDto) (db : Db) :
    Except ServiceError (Db × Nat) := do
  let _ ← orThrow (db.bookings.find? bookingId) (.notFound "Booking not found")
  let owedToCustomer := db.owedToCustomer bookingId
  ensure (dto.amountPaise ≤ owedToCustomer) (.badRequest
    s!"Refund ({dto.amountPaise}) exceeds the amount owed to the customer ({owedToCustomer})")
  return (db.addRefund { bookingId, amountPaise := dto.amountPaise, status := .requested },
    db.refunds.nextId)

def refundApprovedEntry (bookingId : Nat) (amountPaise : Int) : LedgerEntry :=
  { bookingId
    entryType := .refundApproved
    signedAmountPaise := amountPaise }

def approveRefund (refundId : Nat) (db : Db) : Except ServiceError Db := do
  let refund ← orThrow (db.refunds.find? refundId) (.notFound "Refund not found")
  ensure (refund.status = .requested) (.conflict
    s!"Refund is {refund.status.text}; only REQUESTED can be approved")
  let posted := db.post [refundApprovedEntry refund.bookingId refund.amountPaise]
  return posted.setRefundStatus refundId .approved

def refundVoucher (refundId : Nat) (refund : Refund) : PaymentVoucher :=
  { bookingId := refund.bookingId
    refundId := some refundId
    amountPaise := refund.amountPaise
    status := .issued }

def payRefund (refundId : Nat) (db : Db) : Except ServiceError Db := do
  let refund ← orThrow (db.refunds.find? refundId) (.notFound "Refund not found")
  ensure (refund.status = .approved) (.conflict
    s!"Refund is {refund.status.text}; only APPROVED can be paid")
  return (db.addVoucher (refundVoucher refundId refund)).setRefundStatus refundId .paid

/-- The entries of a bounced voucher: the obligation re-opened, and the charge when there is one. -/
def voucherBouncedEntries (bookingId : Nat) (amountPaise bounceChargePaise : Int) :
    List LedgerEntry :=
  { bookingId
    entryType := .refundBounceReversal
    signedAmountPaise := -amountPaise } ::
  if 0 < bounceChargePaise then
    [{ bookingId
       entryType := .bounceCharge
       signedAmountPaise := bounceChargePaise }]
  else []

/-- Move the refund of a voucher back to approved, so it can be paid again. -/
def Db.reopenRefund (db : Db) (refundId : Option Nat) : Db :=
  match refundId with
  | some id => db.setRefundStatus id .approved
  | none => db

/-- A refund cheque bounced: re-open the obligation and charge for the bounce. -/
def voucherBounced (masters : Masters) (voucherId : Nat) (db : Db) : Except ServiceError Db := do
  let voucher ← orThrow (db.vouchers.find? voucherId) (.notFound "Payment voucher not found")
  ensure (voucher.status = .issued) (.conflict s!"Voucher is {voucher.status.text}")
  let posted := db.post (voucherBouncedEntries voucher.bookingId voucher.amountPaise
    masters.chequeBounceChargePaise)
  return (posted.markBounced voucherId).reopenRefund voucher.refundId

/-! ### What an accepted call checked and did -/

theorem requestRefund_eq_ok {bookingId : Nat} {dto : RequestRefundDto} {db : Db}
    {answer : Db × Nat} (accepted : requestRefund bookingId dto db = .ok answer) :
    ∃ booking, db.bookings.find? bookingId = some booking ∧
      dto.amountPaise ≤ db.owedToCustomer bookingId ∧
      answer = (db.addRefund { bookingId, amountPaise := dto.amountPaise, status := .requested },
        db.refunds.nextId) := by
  simp only [requestRefund, bind_eq_ok, ensure_eq_ok, orThrow_eq_ok, pure_eq_ok] at accepted
  obtain ⟨booking, found, _, owed, rfl⟩ := accepted
  exact ⟨booking, found, owed, rfl⟩

theorem approveRefund_eq_ok {refundId : Nat} {db after : Db}
    (accepted : approveRefund refundId db = .ok after) :
    ∃ refund, db.refunds.find? refundId = some refund ∧ refund.status = .requested ∧
      after = (db.post [refundApprovedEntry refund.bookingId refund.amountPaise]).setRefundStatus
        refundId .approved := by
  simp only [approveRefund, bind_eq_ok, ensure_eq_ok, orThrow_eq_ok, pure_eq_ok] at accepted
  obtain ⟨refund, found, _, requested, rfl⟩ := accepted
  exact ⟨refund, found, requested, rfl⟩

theorem payRefund_eq_ok {refundId : Nat} {db after : Db}
    (accepted : payRefund refundId db = .ok after) :
    ∃ refund, db.refunds.find? refundId = some refund ∧ refund.status = .approved ∧
      after = (db.addVoucher (refundVoucher refundId refund)).setRefundStatus refundId .paid := by
  simp only [payRefund, bind_eq_ok, ensure_eq_ok, orThrow_eq_ok, pure_eq_ok] at accepted
  obtain ⟨refund, found, _, approved, rfl⟩ := accepted
  exact ⟨refund, found, approved, rfl⟩

theorem voucherBounced_eq_ok {masters : Masters} {voucherId : Nat} {db after : Db}
    (accepted : voucherBounced masters voucherId db = .ok after) :
    ∃ voucher, db.vouchers.find? voucherId = some voucher ∧ voucher.status = .issued ∧
      after = ((db.post (voucherBouncedEntries voucher.bookingId voucher.amountPaise
        masters.chequeBounceChargePaise)).markBounced voucherId).reopenRefund voucher.refundId := by
  simp only [voucherBounced, bind_eq_ok, ensure_eq_ok, orThrow_eq_ok, pure_eq_ok] at accepted
  obtain ⟨voucher, found, _, issued, rfl⟩ := accepted
  exact ⟨voucher, found, issued, rfl⟩

end OpenEstate
