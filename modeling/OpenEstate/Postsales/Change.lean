/-
**The changes of the books.**

Seen from the books (receipts, allocations, installments, ledger, tax rows), the operations come
down to a few kinds of change. `Effect.changes` takes every operation apart into them, so an
invariant of the books needs one proof per kind of change and none per operation.
-/

import OpenEstate.Postsales.Effect

namespace OpenEstate

open Relational

/-! ### Kinds of entries -/

def LedgerEntryType.ofReceipt : LedgerEntryType → Bool
  | .receiptAlloc => true
  | .tdsReceivable => true
  | .tdsCertAdjustment => true
  | .bounceReversal => true
  | .adjustment => true
  | _ => false

/-- An entry posted outside the receipt operations: it names no receipt and reverses nothing. -/
structure LedgerEntry.IsPlain (entry : LedgerEntry) : Prop where
  kind : entry.entryType.ofReceipt = false
  receipt : entry.receiptId = none
  reversal : entry.reversalOfEntryId = none

/-! ### Kinds of changes -/

structure Receipt.Undoes (mark : Receipt → Receipt) : Prop where
  reversed : ∀ receipt, (mark receipt).isReversed = true
  booking : ∀ receipt, (mark receipt).bookingId = receipt.bookingId
  gross : ∀ receipt, (mark receipt).grossAmountPaise = receipt.grossAmountPaise

structure Receipt.Keeps (mark : Receipt → Receipt) : Prop where
  reversed : ∀ receipt, (mark receipt).isReversed = receipt.isReversed
  booking : ∀ receipt, (mark receipt).bookingId = receipt.bookingId
  gross : ∀ receipt, (mark receipt).grossAmountPaise = receipt.grossAmountPaise

structure Installment.KeepsAmounts (change : Installment → Installment) : Prop where
  booking : ∀ inst, (change inst).bookingId = inst.bookingId
  plan : ∀ inst, (change inst).planId = inst.planId
  amount : ∀ inst, (change inst).amountPaise = inst.amountPaise
  allocated : ∀ inst, (change inst).allocatedPaise = inst.allocatedPaise
  status : ∀ inst, (change inst).status = inst.status

def Books.drop (books : Books) (dropped : Nat → Installment → Bool) : Books :=
  { books with installments := books.installments.delete dropped }

def Books.schedule (books : Books) (rows : List Installment) : Books :=
  { books with installments := books.installments.createMany rows }

def Books.rewrite (books : Books) (which : Nat → Installment → Bool)
    (change : Installment → Installment) : Books :=
  { books with installments := books.installments.modifyAll which change }

inductive Books.Change (known : Nat → Prop) (books : Books) : Books → Prop
  | posted (entries : List LedgerEntry) (plain : ∀ entry ∈ entries, entry.IsPlain)
    (booked : ∀ entry ∈ entries, known entry.bookingId) : Change known books (books.post entries)
  | received (dto : CreateReceiptDto) (booked : known dto.bookingId)
    (accepts : books.AcceptsReceipt dto) : Change known books (books.recordReceipt dto)
  | marked (receiptId : Nat) (mark : Receipt → Receipt) (keeps : Receipt.Keeps mark) :
    Change known books (books.markReceipt receiptId mark)
  | undone (receiptId : Nat) (receipt : Receipt) (reversalType : LedgerEntryType)
    (bounceChargePaise : Int) (mark : Receipt → Receipt)
    (found : books.receipts.find? receiptId = some receipt)
    (kind : reversalType = .adjustment ∨ reversalType = .bounceReversal)
    (undoes : Receipt.Undoes mark) :
    Change known books (books.undo receiptId receipt reversalType bounceChargePaise mark)
  | certified (tdsDeductionId : Nat) (ded : TdsDeduction)
    (found : books.tdsDeductions.find? tdsDeductionId = some ded) :
    Change known books (books.recordCertificate tdsDeductionId ded)
  | dropped (which : Nat → Installment → Bool)
    (unallocated : ∀ id row inst, books.allocations.find? id = some row →
      books.installments.find? row.installmentId = some inst → which row.installmentId inst = false)
    (unposted : ∀ id entry installmentId inst, books.ledger.find? id = some entry →
      entry.installmentId = some installmentId →
      books.installments.find? installmentId = some inst → which installmentId inst = false) :
    Change known books (books.drop which)
  | scheduled (rows : List Installment) (booked : ∀ inst ∈ rows, known inst.bookingId)
    (untouched : ∀ inst ∈ rows, inst.allocatedPaise = 0 ∧ inst.status = .unpaid)
    (nonneg : ∀ inst ∈ rows, 0 ≤ inst.amountPaise) : Change known books (books.schedule rows)
  | rewritten (which : Nat → Installment → Bool) (change : Installment → Installment)
    (keeps : Installment.KeepsAmounts change) : Change known books (books.rewrite which change)

abbrev Books.Changes (known : Nat → Prop) : Books → Books → Prop :=
  Relation.ReflTransGen (Books.Change known)

/-- **An invariant of the books that every change keeps is kept by a sequence of them.** -/
theorem Books.Changes.invariant {known : Nat → Prop} {property : Books → Prop} {before after : Books}
    (changes : Books.Changes known before after) (initially : property before)
    (kept : ∀ books next, property books → Books.Change known books next → property next) :
    property after := by
  induction changes with
  | refl => exact initially
  | tail _ change ih => exact kept _ _ ih change

/-! ### Entries posted outside the receipt operations -/

theorem isPlain_chargeEntry (bookingId : Nat) (lineTotalPaise : Int) :
    (chargeEntry bookingId lineTotalPaise).IsPlain := ⟨rfl, rfl, rfl⟩

theorem isPlain_settlementEntries (bookingId : Nat) (balance deduction refundable : Int) :
    ∀ entry ∈ settlementEntries bookingId balance deduction refundable,
      entry.IsPlain ∧ entry.bookingId = bookingId := by
  intro entry member
  simp only [settlementEntries, List.mem_cons, List.not_mem_nil, or_false] at member
  rcases member with rfl | rfl <;> exact ⟨⟨rfl, rfl, rfl⟩, rfl⟩

theorem isPlain_voucherBouncedEntries (bookingId : Nat) (amountPaise bounceChargePaise : Int) :
    ∀ entry ∈ voucherBouncedEntries bookingId amountPaise bounceChargePaise,
      entry.IsPlain ∧ entry.bookingId = bookingId := by
  intro entry member
  rcases List.mem_cons.mp member with rfl | charge
  · exact ⟨⟨rfl, rfl, rfl⟩, rfl⟩
  · split at charge
    · rw [List.mem_singleton.mp charge]
      exact ⟨⟨rfl, rfl, rfl⟩, rfl⟩
    · cases charge

theorem isPlain_carryInEntries (toBookingId : Nat) (carryForwardPaise transferFeePaise : Int) :
    ∀ entry ∈ carryInEntries toBookingId carryForwardPaise transferFeePaise,
      entry.IsPlain ∧ entry.bookingId = toBookingId := by
  intro entry member
  rcases List.mem_cons.mp member with rfl | fee
  · exact ⟨⟨rfl, rfl, rfl⟩, rfl⟩
  · split at fee
    · rw [List.mem_singleton.mp fee]
      exact ⟨⟨rfl, rfl, rfl⟩, rfl⟩
    · cases fee

theorem Books.Change.post {known : Nat → Prop} {bookingId : Nat} (books : Books)
    {entries : List LedgerEntry} (booked : known bookingId)
    (plain : ∀ entry ∈ entries, entry.IsPlain ∧ entry.bookingId = bookingId) :
    Books.Change known books (books.post entries) := by
  refine .posted entries (fun entry member => (plain entry member).1) fun entry member => ?_
  rw [(plain entry member).2]
  exact booked

theorem Books.Change.postOne {known : Nat → Prop} (books : Books) {entry : LedgerEntry}
    (booked : known entry.bookingId) (plain : entry.IsPlain) :
    Books.Change known books (books.post [entry]) := by
  refine .post books booked fun posted member => ?_
  rw [List.mem_singleton.mp member]
  exact ⟨plain, rfl⟩

/-! ### Operations as changes -/

def Db.hasBooking (db : Db) (bookingId : Nat) : Prop := bookingId < db.bookings.nextId

theorem Db.hasBooking_of_find? {db : Db} {bookingId : Nat} {booking : Booking}
    (found : db.bookings.find? bookingId = some booking) : db.hasBooking bookingId :=
  Table.lt_nextId found

theorem deactivateExistingPlans_changes (known : Nat → Prop) {bookingId : Nat} {db cleared : Db}
    (deactivated : deactivateExistingPlans bookingId db = .ok cleared) :
    Books.Changes known db.toBooks cleared.toBooks ∧
      cleared = { db with
        toBooks := { db.toBooks with installments := cleared.installments }
        plans := cleared.plans } := by
  refine foldlM_invariant (fun state => Books.Changes known db.toBooks state.toBooks ∧
    state = { db with
      toBooks := { db.toBooks with installments := state.installments }, plans := state.plans })
    deactivated ⟨.refl, rfl⟩ ?_
  rintro state row after ⟨changes, same⟩ accepted
  obtain ⟨unreferenced, rfl⟩ := deactivatePlan_eq_ok accepted
  refine ⟨changes.tail ?_, ?_⟩
  · exact .dropped _ unreferenced.allocations unreferenced.ledger
  · rw [same]
    rfl

theorem deactivateExistingPlans_frame {bookingId : Nat} {db cleared : Db}
    (deactivated : deactivateExistingPlans bookingId db = .ok cleared) :
    cleared = { db with
      toBooks := { db.toBooks with installments := cleared.installments }
      plans := cleared.plans } :=
  (deactivateExistingPlans_changes (fun _ => True) deactivated).2

structure Db.Grounded (db : Db) : Prop where
  price_nonneg : ∀ id booking, db.bookings.find? id = some booking → 0 ≤ booking.agreedPricePaise
  refund_booking : ∀ id refund, db.refunds.find? id = some refund → db.hasBooking refund.bookingId
  refund_pos : ∀ id refund, db.refunds.find? id = some refund → 0 < refund.amountPaise
  voucher_refund : ∀ id voucher, db.vouchers.find? id = some voucher →
    ∃ refundId refund, voucher.refundId = some refundId ∧
      db.refunds.find? refundId = some refund ∧ voucher.bookingId = refund.bookingId ∧
      voucher.amountPaise = refund.amountPaise
  transfer_bookings : ∀ id row, db.transfers.find? id = some row →
    row.fromBookingId < row.toBookingId ∧ db.hasBooking row.toBookingId

theorem Db.Grounded.voucher_booking {db : Db} (grounded : db.Grounded) {id : Nat}
    {voucher : PaymentVoucher} (found : db.vouchers.find? id = some voucher) :
    db.hasBooking voucher.bookingId := by
  obtain ⟨refundId, refund, _, present, sameBooking, _⟩ := grounded.voucher_refund id voucher found
  exact sameBooking ▸ grounded.refund_booking refundId refund present

theorem changes_planned {known : Nat → Prop} {bookingId : Nat} {booking : Booking} {db cleared : Db}
    {rows : List Installment} (plan : PaymentPlan) (grounded : db.Grounded)
    (found : db.bookings.find? bookingId = some booking) (booked : known bookingId)
    (deactivated : deactivateExistingPlans bookingId db = .ok cleared)
    (schedule : 0 ≤ booking.agreedPricePaise →
      IsSchedule rows bookingId cleared.plans.nextId booking.agreedPricePaise) :
    Books.Changes known db.toBooks ((cleared.addPlan plan).addInstallments rows).toBooks := by
  obtain ⟨changes, _⟩ := deactivateExistingPlans_changes known deactivated
  have shape := schedule (grounded.price_nonneg _ _ found)
  refine changes.tail (.scheduled rows ?_ shape.untouched shape.nonneg)
  intro inst member
  rw [shape.booking inst member]
  exact booked

/-- **An operation is a sequence of changes of the books**, on bookings that exist after it. -/
theorem Effect.changes {request : Request} {db after : Db} (effect : Effect request db after)
    (grounded : db.Grounded) : Books.Changes after.hasBooking db.toBooks after.toBooks := by
  cases effect with
  | createApplicant => exact .refl
  | mergeApplicant => exact .refl
  | createUnit => exact .refl
  | moveUnit => exact .refl
  | createBooking =>
    refine .single (.posted _ ?_ ?_)
    · intro entry member
      obtain ⟨total, _, rfl⟩ := List.mem_map.mp member
      exact isPlain_chargeEntry _ total
    · intro entry member
      obtain ⟨total, _, rfl⟩ := List.mem_map.mp member
      exact Nat.lt_succ_self _
  | advance => exact .refl
  | setInterestRule => exact .refl
  | @instantiateFromTemplate _ _ bookingId _ booking cleared rows found deactivated schedule =>
    refine changes_planned _ grounded found ?_ deactivated schedule
    rw [(deactivateExistingPlans_changes (fun _ => True) deactivated).2]
    exact Db.hasBooking_of_find? found
  | @createCustomPlan _ _ bookingId _ booking cleared rows found deactivated schedule =>
    refine changes_planned _ grounded found ?_ deactivated schedule
    rw [(deactivateExistingPlans_changes (fun _ => True) deactivated).2]
    exact Db.hasBooking_of_find? found
  | @editPlan _ _ bookingId _ booking plan rows found active unreferenced schedule _ =>
    refine (Relation.ReflTransGen.single (.dropped _ unreferenced.allocations
      unreferenced.ledger)).tail (.scheduled rows ?_ schedule.untouched schedule.nonneg)
    intro inst member
    rw [schedule.booking inst member]
    exact Db.hasBooking_of_find? found
  | raiseStage stage =>
    rcases stage with rfl | ⟨stageRaise, rfl⟩
    · exact .single (.rewritten _ _ ⟨fun _ => rfl, fun _ => rfl, fun _ => rfl, fun _ => rfl,
        fun _ => rfl⟩)
    · exact .single (.rewritten _ _ ⟨fun _ => rfl, fun _ => rfl, fun _ => rfl, fun _ => rfl,
        fun _ => rfl⟩)
  | addExtraCharge found =>
    exact .single (.postOne _ (Db.hasBooking_of_find? found) ⟨rfl, rfl, rfl⟩)
  | createReceipt found withheld accepts =>
    exact .single (.received _ (Db.hasBooking_of_find? found) accepts)
  | recordClearance =>
    exact .single (.marked _ _ ⟨fun _ => rfl, fun _ => rfl, fun _ => rfl⟩)
  | recordBounce found =>
    exact .single (.undone _ _ _ _ _ found (Or.inr rfl)
      ⟨fun _ => rfl, fun _ => rfl, fun _ => rfl⟩)
  | reverseReceipt found =>
    exact .single (.undone _ _ _ _ _ found (Or.inl rfl)
      ⟨fun _ => rfl, fun _ => rfl, fun _ => rfl⟩)
  | recordTdsCertificate found => exact .single (.certified _ _ found)
  | accrueForBooking found posted =>
    refine .single (.post _ (Db.hasBooking_of_find? found) fun entry member => ?_)
    obtain ⟨installmentId, amount, _, rfl⟩ := posted entry member
    exact ⟨⟨rfl, rfl, rfl⟩, rfl⟩
  | waiveInterest found =>
    exact .single (.postOne _ (Db.hasBooking_of_find? found) ⟨rfl, rfl, rfl⟩)
  | requestRefund => exact .refl
  | approveRefund found =>
    exact .single (.postOne _ (grounded.refund_booking _ _ found) ⟨rfl, rfl, rfl⟩)
  | payRefund => exact .refl
  | @voucherBounced masters _ voucherId voucher found issued =>
    have booked := grounded.voucher_booking found
    unfold Db.reopenRefund
    split
    · exact .single (.post _ booked (isPlain_voucherBouncedEntries _ _ _))
    · exact .single (.post _ booked (isPlain_voucherBouncedEntries _ _ _))
  | @transfer _ _ fromBookingId dto booking fee unitId applicantId units found =>
    have older : fromBookingId < db.bookings.nextId := Table.lt_nextId found
    have closed : (carryOutEntry fromBookingId (db.balance fromBookingId)).IsPlain :=
      ⟨rfl, rfl, rfl⟩
    have opened := isPlain_carryInEntries db.bookings.nextId (db.balance fromBookingId) fee
    exact (Relation.ReflTransGen.single (.postOne _ (Nat.lt_succ_of_lt older) closed)).tail
      (.post _ (Nat.lt_succ_self _) opened)
  | cancel found =>
    have booked := Db.hasBooking_of_find? found
    exact .single (.post _ booked (isPlain_settlementEntries _ _ _ _))

/-! ### The rows outside the books -/

inductive Db.BookingsChange (db : Db) : Table Booking → Prop
  | kept : BookingsChange db db.bookings
  | opened (booking : Booking) (nonneg : 0 ≤ booking.agreedPricePaise) :
    BookingsChange db (db.bookings.create booking)
  | restated (bookingId : Nat) (change : Booking → Booking)
    (price : ∀ booking, (change booking).agreedPricePaise = booking.agreedPricePaise) :
    BookingsChange db (db.bookings.modify bookingId change)
  | replaced (bookingId : Nat) (change : Booking → Booking) (booking opened : Booking)
    (found : db.bookings.find? bookingId = some booking)
    (price : ∀ booking, (change booking).agreedPricePaise = booking.agreedPricePaise)
    (samePrice : opened.agreedPricePaise = booking.agreedPricePaise) :
    BookingsChange db ((db.bookings.modify bookingId change).create opened)

theorem Effect.bookings {request : Request} {db after : Db} (effect : Effect request db after) :
    db.BookingsChange after.bookings := by
  cases effect with
  | createBooking unitFound bookable nonneg => exact .opened _ (List.sum_nonneg nonneg)
  | @advance _ _ bookingId target =>
    exact .restated bookingId (fun row => { row with status := target.status }) fun _ => rfl
  | @setInterestRule _ _ bookingId ruleId =>
    exact .restated bookingId (fun row => { row with interestRuleId := ruleId }) fun _ => rfl
  | transfer found => exact .replaced _ _ _ _ found (fun _ => rfl) rfl
  | @cancel _ _ bookingId dto =>
    exact .restated bookingId (fun row => { row with status := dto.cancellationType.status })
      fun _ => rfl
  | instantiateFromTemplate found deactivated =>
    rw [(deactivateExistingPlans_frame deactivated)]
    exact .kept
  | createCustomPlan found deactivated =>
    rw [(deactivateExistingPlans_frame deactivated)]
    exact .kept
  | raiseStage stage => rcases stage with rfl | ⟨stageRaise, rfl⟩ <;> exact .kept
  | @voucherBounced _ _ _ voucher => cases named : voucher.refundId <;> exact .kept
  | _ => exact .kept

theorem Db.BookingsChange.grows {db : Db} {bookings : Table Booking}
    (change : db.BookingsChange bookings) : db.bookings.nextId ≤ bookings.nextId := by
  cases change <;> simp

theorem Effect.hasBooking {request : Request} {db after : Db} (effect : Effect request db after)
    {bookingId : Nat} (known : db.hasBooking bookingId) : after.hasBooking bookingId :=
  Nat.lt_of_lt_of_le known effect.bookings.grows

theorem Db.BookingsChange.price {db : Db} {bookings : Table Booking}
    (change : db.BookingsChange bookings) {bookingId : Nat} {booking : Booking}
    (found : bookings.find? bookingId = some booking) :
    (∃ before, db.bookings.find? bookingId = some before ∧
        booking.agreedPricePaise = before.agreedPricePaise) ∨
      bookingId = db.bookings.nextId ∧
        (0 ≤ booking.agreedPricePaise ∨ ∃ id before, db.bookings.find? id = some before ∧
          booking.agreedPricePaise = before.agreedPricePaise) := by
  have restated : ∀ id (change : Booking → Booking),
      (∀ row, (change row).agreedPricePaise = row.agreedPricePaise) →
      (db.bookings.modify id change).find? bookingId = some booking →
      ∃ before, db.bookings.find? bookingId = some before ∧
        booking.agreedPricePaise = before.agreedPricePaise := by
    intro id change price found
    rw [Table.find?_modify] at found
    split at found
    · obtain ⟨before, present, rfl⟩ := Option.map_eq_some_iff.mp found
      exact ⟨before, present, price before⟩
    · exact ⟨booking, found, rfl⟩
  cases change with
  | kept => exact Or.inl ⟨booking, found, rfl⟩
  | opened opened nonneg =>
    rw [Table.find?_create] at found
    split at found
    · rename_i fresh
      cases found
      exact Or.inr ⟨fresh, Or.inl nonneg⟩
    · exact Or.inl ⟨booking, found, rfl⟩
  | restated id change price => exact Or.inl (restated id change price found)
  | replaced id change source opened sourceFound price samePrice =>
    rw [Table.find?_create, Table.nextId_modify] at found
    split at found
    · rename_i fresh
      cases found
      exact Or.inr ⟨fresh, Or.inr ⟨id, source, sourceFound, samePrice⟩⟩
    · exact Or.inl (restated id change price found)

inductive Db.RefundsChange (db : Db) : Table Refund → Prop
  | kept : RefundsChange db db.refunds
  | requested (bookingId : Nat) (amountPaise : Int) (known : db.hasBooking bookingId)
    (positive : 0 < amountPaise) :
    RefundsChange db (db.refunds.create { bookingId, amountPaise, status := .requested })
  | restated (refundId : Nat) (status : RefundStatus) :
    RefundsChange db (db.refunds.modify refundId fun refund => { refund with status })

theorem Effect.refunds {request : Request} {db after : Db} (effect : Effect request db after) :
    db.RefundsChange after.refunds := by
  cases effect with
  | @requestRefund _ _ bookingId dto booking found =>
    exact .requested _ _ (Db.hasBooking_of_find? found) dto.amount_pos
  | approveRefund => exact .restated _ _
  | payRefund => exact .restated _ _
  | @voucherBounced _ _ _ voucher =>
    cases named : voucher.refundId with
    | none => exact .kept
    | some refundId => exact .restated _ _
  | instantiateFromTemplate _ deactivated =>
    rw [deactivateExistingPlans_frame deactivated]
    exact .kept
  | createCustomPlan _ deactivated =>
    rw [deactivateExistingPlans_frame deactivated]
    exact .kept
  | raiseStage stage => rcases stage with rfl | ⟨stageRaise, rfl⟩ <;> exact .kept
  | _ => exact .kept

theorem Db.RefundsChange.before {db : Db} {refunds : Table Refund}
    (change : db.RefundsChange refunds) {refundId : Nat} {refund : Refund}
    (found : refunds.find? refundId = some refund) :
    (∃ before, db.refunds.find? refundId = some before ∧ refund.bookingId = before.bookingId ∧
        refund.amountPaise = before.amountPaise) ∨
      db.hasBooking refund.bookingId ∧ 0 < refund.amountPaise := by
  cases change with
  | kept => exact Or.inl ⟨refund, found, rfl, rfl⟩
  | requested bookingId amountPaise known positive =>
    rw [Table.find?_create] at found
    split at found
    · cases found
      exact Or.inr ⟨known, positive⟩
    · exact Or.inl ⟨refund, found, rfl, rfl⟩
  | restated id status =>
    rw [Table.find?_modify] at found
    split at found
    · obtain ⟨before, present, rfl⟩ := Option.map_eq_some_iff.mp found
      exact Or.inl ⟨before, present, rfl, rfl⟩
    · exact Or.inl ⟨refund, found, rfl, rfl⟩

theorem Db.RefundsChange.after {db : Db} {refunds : Table Refund}
    (change : db.RefundsChange refunds) {refundId : Nat} {refund : Refund}
    (found : db.refunds.find? refundId = some refund) :
    ∃ after, refunds.find? refundId = some after ∧ after.bookingId = refund.bookingId ∧
      after.amountPaise = refund.amountPaise := by
  cases change with
  | kept => exact ⟨refund, found, rfl, rfl⟩
  | requested => exact ⟨refund, Table.find?_create_old _ found, rfl, rfl⟩
  | restated id status =>
    rw [Table.find?_modify, found]
    split
    · exact ⟨_, rfl, rfl, rfl⟩
    · exact ⟨refund, rfl, rfl, rfl⟩

/-- What an operation does to a voucher: its booking, refund and amount stay, its status stays or
becomes bounced, and a new one is of a refund on record. -/
theorem Effect.voucher {request : Request} {db after : Db} (effect : Effect request db after)
    {voucherId : Nat} {voucher : PaymentVoucher}
    (found : after.vouchers.find? voucherId = some voucher) :
    (∃ before, db.vouchers.find? voucherId = some before ∧
        (voucher = before ∨ voucher = { before with status := .bounced })) ∨
      voucherId = db.vouchers.nextId ∧ ∃ refundId refund,
        db.refunds.find? refundId = some refund ∧ voucher = refundVoucher refundId refund := by
  cases effect with
  | payRefund refundFound =>
    rw [Db.setRefundStatus, Db.addVoucher, Table.find?_create] at found
    split at found
    · rename_i fresh
      cases found
      exact Or.inr ⟨fresh, _, _, refundFound, rfl⟩
    · exact Or.inl ⟨voucher, found, Or.inl rfl⟩
  | @voucherBounced masters _ bouncedId bounced =>
    have marked : (db.vouchers.modify bouncedId fun row => { row with status := .bounced }).find?
        voucherId = some voucher := by
      cases named : bounced.refundId <;> (rw [named] at found; exact found)
    rw [Table.find?_modify] at marked
    split at marked
    · obtain ⟨before, present, rfl⟩ := Option.map_eq_some_iff.mp marked
      exact Or.inl ⟨before, present, Or.inr rfl⟩
    · exact Or.inl ⟨voucher, marked, Or.inl rfl⟩
  | instantiateFromTemplate _ deactivated =>
    rw [deactivateExistingPlans_frame deactivated] at found
    exact Or.inl ⟨voucher, found, Or.inl rfl⟩
  | createCustomPlan _ deactivated =>
    rw [deactivateExistingPlans_frame deactivated] at found
    exact Or.inl ⟨voucher, found, Or.inl rfl⟩
  | raiseStage stage =>
    rcases stage with rfl | ⟨stageRaise, rfl⟩ <;> exact Or.inl ⟨voucher, found, Or.inl rfl⟩
  | _ => exact Or.inl ⟨voucher, found, Or.inl rfl⟩

/-- **What an operation does to the transfers**: it leaves them alone, or records one into the
booking it opens. -/
theorem Effect.transfers {request : Request} {db after : Db} (effect : Effect request db after) :
    after.transfers = db.transfers ∨ ∃ row, after.transfers = db.transfers.create row ∧
      db.hasBooking row.fromBookingId ∧ row.toBookingId = db.bookings.nextId ∧
      after.bookings.nextId = db.bookings.nextId + 1 := by
  cases effect with
  | transfer found => exact Or.inr ⟨_, rfl, Db.hasBooking_of_find? found, rfl, rfl⟩
  | @voucherBounced _ _ _ voucher => cases named : voucher.refundId <;> exact Or.inl rfl
  | instantiateFromTemplate _ deactivated =>
    rw [deactivateExistingPlans_frame deactivated]
    exact Or.inl rfl
  | createCustomPlan _ deactivated =>
    rw [deactivateExistingPlans_frame deactivated]
    exact Or.inl rfl
  | raiseStage stage => rcases stage with rfl | ⟨stageRaise, rfl⟩ <;> exact Or.inl rfl
  | _ => exact Or.inl rfl

theorem Effect.grounded {request : Request} {db after : Db} (effect : Effect request db after)
    (grounded : db.Grounded) : after.Grounded where
  price_nonneg := by
    intro id booking found
    rcases effect.bookings.price found with ⟨before, present, same⟩ |
      ⟨_, nonneg | ⟨source, before, present, same⟩⟩
    · exact same ▸ grounded.price_nonneg id before present
    · exact nonneg
    · exact same ▸ grounded.price_nonneg source before present
  refund_booking := by
    intro id refund found
    rcases effect.refunds.before found with ⟨before, present, sameBooking, _⟩ | ⟨known, _⟩
    · exact effect.hasBooking (sameBooking ▸ grounded.refund_booking id before present)
    · exact effect.hasBooking known
  refund_pos := by
    intro id refund found
    rcases effect.refunds.before found with ⟨before, present, _, sameAmount⟩ | ⟨_, positive⟩
    · exact sameAmount ▸ grounded.refund_pos id before present
    · exact positive
  voucher_refund := by
    intro id voucher found
    have ofRefund : ∀ refundId refund, db.refunds.find? refundId = some refund →
        voucher.refundId = some refundId → voucher.bookingId = refund.bookingId →
        voucher.amountPaise = refund.amountPaise → ∃ refundId refund,
          voucher.refundId = some refundId ∧ after.refunds.find? refundId = some refund ∧
          voucher.bookingId = refund.bookingId ∧ voucher.amountPaise = refund.amountPaise := by
      intro refundId refund present named sameBooking sameAmount
      obtain ⟨later, stays, keepsBooking, keepsAmount⟩ := effect.refunds.after present
      exact ⟨refundId, later, named, stays, sameBooking.trans keepsBooking.symm,
        sameAmount.trans keepsAmount.symm⟩
    rcases effect.voucher found with ⟨before, present, same⟩ | ⟨_, refundId, refund, present, rfl⟩
    · obtain ⟨refundId, refund, named, refundFound, sameBooking, sameAmount⟩ :=
        grounded.voucher_refund id before present
      rcases same with rfl | rfl
      · exact ofRefund refundId refund refundFound named sameBooking sameAmount
      · exact ofRefund refundId refund refundFound named sameBooking sameAmount
    · exact ofRefund refundId refund present rfl rfl rfl
  transfer_bookings := by
    intro id row found
    rcases effect.transfers with same | ⟨last, same, older, toNew, opened⟩
    · obtain ⟨backward, known⟩ := grounded.transfer_bookings id row (same ▸ found)
      exact ⟨backward, effect.hasBooking known⟩
    · rw [same] at found
      rcases Table.find?_create_eq_some.mp found with ⟨_, rfl⟩ | old
      · unfold Db.hasBooking at older ⊢
        rw [toNew, opened]
        exact ⟨older, Nat.lt_succ_self _⟩
      · obtain ⟨backward, known⟩ := grounded.transfer_bookings id row old
        exact ⟨backward, effect.hasBooking known⟩

theorem grounded_empty : ({} : Db).Grounded where
  price_nonneg := by rintro id booking ⟨⟩
  refund_booking := by rintro id refund ⟨⟩
  refund_pos := by rintro id refund ⟨⟩
  voucher_refund := by rintro id voucher ⟨⟩
  transfer_bookings := by rintro id row ⟨⟩

end OpenEstate
