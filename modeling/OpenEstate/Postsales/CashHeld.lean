/-
**The cash held on a booking**: what its receipts brought in, less the refunds that stand.

A receipt counts until it is reversed, net of the tax withheld on it. A refund stands once it is
approved; the bounce of its voucher undoes it until it is paid again. `leftOn` moves by one amount
on one booking with every operation that touches a receipt or a refund, and by nothing otherwise.
-/

import OpenEstate.Postsales.Balance
import OpenEstate.Postsales.RefundStep

namespace OpenEstate

open Relational

/-- The cash received on a booking: of the receipts that are not reversed, net of the tax
withheld. -/
def Books.cashReceived (books : Books) (bookingId : Nat) : Int :=
  books.receipts.sum fun id receipt =>
    if receipt.bookingId = bookingId then books.standingCash id receipt else 0

def Db.hasBounced (db : Db) (refundId : Nat) : Bool :=
  db.vouchers.any fun _ voucher => voucher.refundId = some refundId ∧ voucher.status = .bounced

/-- What stands of a refund: its amount once it is approved, unless a voucher of it has bounced and
it was not paid again. -/
def Db.standingRefund (db : Db) (refundId : Nat) (refund : Refund) : Int :=
  if refund.status = .paid ∨ refund.status = .approved ∧ db.hasBounced refundId = false then
    refund.amountPaise
  else 0

def Db.standingRefunds (db : Db) (bookingId : Nat) : Int :=
  db.refunds.sum fun id refund =>
    if refund.bookingId = bookingId then db.standingRefund id refund else 0

def Db.leftOn (db : Db) (bookingId : Nat) : Int :=
  db.cashReceived bookingId - db.standingRefunds bookingId

/-! ### Cash -/

section Cash

variable {books next : Books}

theorem cashReceived_congr (receipts : next.receipts = books.receipts)
    (deductions : next.tdsDeductions = books.tdsDeductions) (bookingId : Nat) :
    next.cashReceived bookingId = books.cashReceived bookingId := by
  unfold Books.cashReceived Books.standingCash Books.netCash Books.tdsWithheld
  rw [receipts, deductions]

theorem cashReceived_recordReceipt {known : Nat → Prop} (linked : books.Linked known)
    (dto : CreateReceiptDto) (bookingId : Nat) :
    (books.recordReceipt dto).cashReceived bookingId = books.cashReceived bookingId +
      if dto.bookingId = bookingId then dto.grossAmountPaise - dto.tdsDeductedPaise else 0 := by
  unfold Books.cashReceived
  rw [recordReceipt_receipts, Table.sum_create]
  congr 1
  · refine Table.sum_congr fun id receipt found => ?_
    unfold Books.standingCash
    rw [netCash_recordReceipt_old books dto (Table.lt_nextId found).ne]
  · unfold Books.standingCash
    rw [netCash_recordReceipt_new linked]
    rfl

theorem cashReceived_undo {receiptId : Nat} {receipt : Receipt}
    (found : books.receipts.find? receiptId = some receipt) {mark : Receipt → Receipt}
    (undoes : Receipt.Undoes mark) (reversalType : LedgerEntryType) (bounceChargePaise : Int)
    (bookingId : Nat) :
    (books.undo receiptId receipt reversalType bounceChargePaise mark).cashReceived bookingId =
      books.cashReceived bookingId +
        if receipt.bookingId = bookingId then -books.standingCash receiptId receipt else 0 := by
  have marked : (books.undo receiptId receipt reversalType bounceChargePaise mark).cashReceived
      bookingId = (books.receipts.modify receiptId mark).sum fun id row =>
        if row.bookingId = bookingId then books.standingCash id row else 0 := rfl
  have nothing : books.standingCash receiptId (mark receipt) = 0 := by
    unfold Books.standingCash
    rw [undoes.reversed, if_pos rfl]
  rw [marked, Table.sum_modify found, undoes.booking, nothing]
  unfold Books.cashReceived
  split <;> simp

theorem cashReceived_markReceipt {receiptId : Nat} {receipt : Receipt}
    (found : books.receipts.find? receiptId = some receipt) (status : ChequeClearanceStatus)
    (bookingId : Nat) :
    (books.markReceipt receiptId (Receipt.withClearance status)).cashReceived bookingId =
      books.cashReceived bookingId := by
  have marked : (books.markReceipt receiptId (Receipt.withClearance status)).cashReceived
      bookingId = (books.receipts.modify receiptId (Receipt.withClearance status)).sum fun id row =>
        if row.bookingId = bookingId then books.standingCash id row else 0 := rfl
  have same : books.standingCash receiptId (Receipt.withClearance status receipt) =
      books.standingCash receiptId receipt := rfl
  rw [marked, Table.sum_modify found, same]
  show books.cashReceived bookingId + ((if receipt.bookingId = bookingId then _ else 0) -
    if receipt.bookingId = bookingId then _ else 0) = _
  rw [sub_self, add_zero]

end Cash

/-! ### Refunds -/

section Refunds

variable {db after : Db}
variable {refundId : Nat}

theorem hasBounced_eq_false : db.hasBounced refundId = false ↔
    ∀ id voucher, db.vouchers.find? id = some voucher → voucher.refundId = some refundId →
      voucher.status ≠ .bounced := by
  simp [Db.hasBounced, Table.any_eq_false]

theorem standingRefunds_congr (refunds : after.refunds = db.refunds)
    (vouchers : after.vouchers = db.vouchers) (bookingId : Nat) :
    after.standingRefunds bookingId = db.standingRefunds bookingId := by
  unfold Db.standingRefunds Db.standingRefund Db.hasBounced
  rw [refunds, vouchers]

variable {refund : Refund}

theorem standingRefunds_of_modify (after : Db) {id : Nat} {status : RefundStatus}
    (found : db.refunds.find? id = some refund)
    (refunds : after.refunds = db.refunds.modify id fun row => { row with status })
    (others : ∀ other, other ≠ id → after.hasBounced other = db.hasBounced other)
    (bookingId : Nat) : after.standingRefunds bookingId = db.standingRefunds bookingId +
      if refund.bookingId = bookingId then
        after.standingRefund id { refund with status } - db.standingRefund id refund
      else 0 := by
  have moved : after.standingRefunds bookingId = (db.refunds.sum fun key row =>
      (if row.bookingId = bookingId then db.standingRefund key row else 0) +
        if key = id then (if refund.bookingId = bookingId then
          after.standingRefund id { refund with status } - db.standingRefund id refund else 0)
        else 0) := by
    unfold Db.standingRefunds
    rw [refunds, Table.modify, Table.sum_modifyAll]
    refine Table.sum_congr fun key row present => ?_
    by_cases same : key = id
    · subst same
      rw [found] at present
      cases present
      by_cases own : refund.bookingId = bookingId <;> simp [own]
    · have kept : after.standingRefund key row = db.standingRefund key row := by
        unfold Db.standingRefund
        rw [others key same]
      simp [same, kept]
  rw [moved, Table.sum_add, Table.sum_single, found]
  rfl

theorem standingRefunds_addRefund (refund : Refund) (requested : refund.status = .requested)
    (bookingId : Nat) :
    (db.addRefund refund).standingRefunds bookingId = db.standingRefunds bookingId := by
  have created : (db.addRefund refund).standingRefunds bookingId =
      (db.refunds.create refund).sum fun id row =>
        if row.bookingId = bookingId then db.standingRefund id row else 0 := rfl
  have nothing : db.standingRefund db.refunds.nextId refund = 0 := by
    unfold Db.standingRefund
    rw [requested]
    simp
  rw [created, Table.sum_create, nothing, ite_self, add_zero]
  rfl

theorem standingRefunds_approved (lifecycle : db.RefundLifecycle)
    (found : db.refunds.find? refundId = some refund) (requested : refund.status = .requested)
    (entries : List LedgerEntry) (bookingId : Nat) :
    ((db.post entries).setRefundStatus refundId .approved).standingRefunds bookingId =
      db.standingRefunds bookingId +
        if refund.bookingId = bookingId then refund.amountPaise else 0 := by
  rw [standingRefunds_of_modify ((db.post entries).setRefundStatus refundId .approved) found rfl
    fun _ _ => rfl]
  have unpaid : db.hasBounced refundId = false := by
    refine hasBounced_eq_false.mpr fun id voucher voucherFound named => ?_
    exact absurd requested (lifecycle.requested id voucher refundId refund voucherFound named found)
  have before : db.standingRefund refundId refund = 0 := by
    unfold Db.standingRefund
    rw [requested]
    simp
  have now : ((db.post entries).setRefundStatus refundId .approved).standingRefund refundId
      { refund with status := .approved } = refund.amountPaise := by
    refine if_pos (Or.inr ⟨rfl, ?_⟩)
    exact unpaid
  rw [before, now, sub_zero]

theorem standingRefunds_paid (found : db.refunds.find? refundId = some refund)
    (approved : refund.status = .approved) (bookingId : Nat) :
    ((db.addVoucher (refundVoucher refundId refund)).setRefundStatus refundId .paid).standingRefunds
        bookingId = db.standingRefunds bookingId +
      if refund.bookingId = bookingId then
        (if db.hasBounced refundId then refund.amountPaise else 0) else 0 := by
  have issued : ∀ other, ((db.addVoucher (refundVoucher refundId refund)).setRefundStatus refundId
      .paid).hasBounced other = db.hasBounced other := by
    intro other
    show (db.vouchers.create (refundVoucher refundId refund)).any _ = _
    rw [Table.any_create]
    simp [refundVoucher, Db.hasBounced]
  rw [standingRefunds_of_modify ((db.addVoucher (refundVoucher refundId refund)).setRefundStatus
    refundId .paid) found rfl fun other _ => issued other]
  have now : ((db.addVoucher (refundVoucher refundId refund)).setRefundStatus refundId
      .paid).standingRefund refundId { refund with status := .paid } = refund.amountPaise :=
    if_pos (Or.inl rfl)
  rw [now]
  unfold Db.standingRefund
  rw [approved]
  cases db.hasBounced refundId <;> simp

theorem standingRefunds_bounced (grounded : db.Grounded) (lifecycle : db.RefundLifecycle)
    {voucherId : Nat} {voucher : PaymentVoucher}
    (found : db.vouchers.find? voucherId = some voucher) (issued : voucher.status = .issued)
    (entries : List LedgerEntry) (bookingId : Nat) :
    (((db.post entries).markBounced voucherId).reopenRefund voucher.refundId).standingRefunds
        bookingId = db.standingRefunds bookingId +
      if voucher.bookingId = bookingId then -voucher.amountPaise else 0 := by
  obtain ⟨refundId, refund, named, refundFound, sameBooking, sameAmount⟩ :=
    grounded.voucher_refund voucherId voucher found
  have paid := lifecycle.issued voucherId voucher refundId refund found issued named refundFound
  have others : ∀ other, other ≠ refundId →
      (((db.post entries).markBounced voucherId).setRefundStatus refundId .approved).hasBounced
        other = db.hasBounced other := by
    intro other different
    have unnamed : voucher.refundId ≠ some other := by
      rw [named]
      exact fun same => different (Option.some.inj same).symm
    rw [Bool.eq_iff_iff]
    unfold Db.hasBounced
    rw [Table.any_eq_true, Table.any_eq_true]
    constructor
    · rintro ⟨id, row, present, counts⟩
      rcases Table.find?_modify_eq_some.mp present with ⟨_, before, old, rfl⟩ | ⟨_, old⟩
      · have old : db.vouchers.find? voucherId = some before := old
        rw [found] at old
        cases old
        simp [unnamed] at counts
      · exact ⟨id, row, old, counts⟩
    · rintro ⟨id, row, present, counts⟩
      have apart : id ≠ voucherId := by
        rintro rfl
        rw [found] at present
        cases present
        simp [unnamed] at counts
      exact ⟨id, row, Table.find?_modify_eq_some.mpr (Or.inr ⟨apart, present⟩), counts⟩
  have bounced : (((db.post entries).markBounced voucherId).setRefundStatus refundId
      .approved).hasBounced refundId = true := by
    refine Table.any_eq_true.mpr ⟨voucherId, { voucher with status := .bounced }, ?_, ?_⟩
    · exact Table.find?_modify_eq_some.mpr (Or.inl ⟨rfl, voucher, found, rfl⟩)
    · simp [named]
  have before : db.standingRefund refundId refund = refund.amountPaise := if_pos (Or.inl paid)
  have now : (((db.post entries).markBounced voucherId).setRefundStatus refundId
      .approved).standingRefund refundId { refund with status := .approved } = 0 := by
    unfold Db.standingRefund
    rw [bounced]
    simp
  rw [named]
  show (((db.post entries).markBounced voucherId).setRefundStatus refundId
    .approved).standingRefunds bookingId = _
  rw [standingRefunds_of_modify (((db.post entries).markBounced voucherId).setRefundStatus refundId
    .approved) refundFound rfl others, before, now, sameBooking, sameAmount, zero_sub]

end Refunds

end OpenEstate
