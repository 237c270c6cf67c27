/-
**Cancelling after transfers.**

A transfer without a fee carries the balance of the old booking to the new one
(`TransferChain.balance`), but not its receipts (`TransferChain.netReceived`), and a cancellation
refunds out of receipts. So cancelling at the end of a chain of transfers comes to the same as
cancelling the original booking only when that would have refunded nothing
(`cancel_after_transfers_iff`).
-/

import OpenEstate.Postsales.Balance

namespace OpenEstate

open Relational

def Db.TransfersFree (db : Db) (fromBookingId : Nat) (after : Db) (toBookingId : Nat) : Prop :=
  ∃ masters dto row, transfer masters fromBookingId dto db = .ok (after, toBookingId) ∧
    after.transfers.find? db.transfers.nextId = some row ∧ row.transferFeePaise = 0

/-- **A chain of one or more transfers without a fee**, from a booking in a state to one in a later
state. -/
abbrev TransferChain : Db × Nat → Db × Nat → Prop :=
  Relation.TransGen fun here there => here.1.TransfersFree here.2 there.1 there.2

/-- A cancellation with the given deduction, and the refundable amount it records. -/
def Db.Cancels (db : Db) (bookingId : Nat) (deductionPaise refundablePaise : Int) (after : Db) :
    Prop :=
  ∃ masters dto row, exec ⟨masters, .cancel bookingId dto⟩ db = .ok after ∧
    after.cancellations.find? db.cancellations.nextId = some row ∧
    row.deductionPaise = deductionPaise ∧ row.refundablePaise = refundablePaise

/-! ### One transfer -/

section Transfer

variable {db after : Db} {fromBookingId toBookingId : Nat}

theorem Db.TransfersFree.accepted (moved : db.TransfersFree fromBookingId after toBookingId) :
    ∃ request, exec request db = .ok after := by
  obtain ⟨masters, dto, _, accepted, _⟩ := moved
  refine ⟨⟨masters, .transfer fromBookingId dto⟩, ?_⟩
  show Prod.fst <$> transfer masters fromBookingId dto db = .ok after
  rw [accepted]
  rfl

theorem Db.TransfersFree.balance (sound : db.Sound)
    (moved : db.TransfersFree fromBookingId after toBookingId) :
    after.balance toBookingId = db.balance fromBookingId := by
  obtain ⟨masters, dto, row, accepted, recorded, free⟩ := moved
  obtain ⟨booking, fee, unitId, applicantId, carried, found, _, _, _, units, same⟩ :=
    transfer_eq_ok accepted
  obtain ⟨unitsAfter, rfl⟩ := moveUnits_eq_ok units
  cases same
  have noFee : fee = 0 := by
    have recorded : (db.transfers.create (transferRow fromBookingId db.bookings.nextId
        dto.transferType fee (db.balance fromBookingId))).find? db.transfers.nextId = some row :=
      recorded
    rw [Table.find?_create_self] at recorded
    cases recorded
    exact free
  have known := Db.hasBooking_of_find? found
  have fresh : db.bookings.nextId ≠ fromBookingId := (Table.lt_nextId found).ne'
  have opened := balance_carryOver sound (transferredBooking masters booking unitId applicantId) fee
    known db.bookings.nextId
  rw [if_neg fresh, if_pos rfl, noFee] at opened
  rw [noFee]
  show Books.balance (db.carryOver _ _ _ _).toBooks _ = _
  rw [opened]
  omega

theorem Db.TransfersFree.netReceived (sound : db.Sound)
    (moved : db.TransfersFree fromBookingId after toBookingId) :
    after.netReceived toBookingId = 0 := by
  obtain ⟨masters, dto, row, accepted, _⟩ := moved
  obtain ⟨booking, fee, unitId, applicantId, carried, found, _, _, _, units, same⟩ :=
    transfer_eq_ok accepted
  obtain ⟨unitsAfter, rfl⟩ := moveUnits_eq_ok units
  cases same
  refine Table.sum_eq_zero fun id receipt present => if_neg ?_
  rintro ⟨fresh, _⟩
  have older : receipt.bookingId < db.bookings.nextId := sound.books.linked.receipt id receipt present
  exact absurd fresh older.ne

end Transfer

/-! ### A chain -/

section Chain

variable {db moved : Db} {bookingId lastId : Nat}

theorem TransferChain.reachable (reachable : ReachableDb db)
    (chain : TransferChain (db, bookingId) (moved, lastId)) : ReachableDb moved := by
  have along : ∀ there, TransferChain (db, bookingId) there → ReachableDb there.1 := by
    intro there chain
    induction chain with
    | single step =>
      obtain ⟨request, accepted⟩ := step.accepted
      exact reachable.step request accepted
    | tail _ step ih =>
      obtain ⟨request, accepted⟩ := step.accepted
      exact ih.step request accepted
  exact along _ chain

/-- **A chain carries the balance**: the last booking has that of the original one. -/
theorem TransferChain.balance (reachable : ReachableDb db)
    (chain : TransferChain (db, bookingId) (moved, lastId)) :
    moved.balance lastId = db.balance bookingId := by
  have along : ∀ there, TransferChain (db, bookingId) there →
      there.1.balance there.2 = db.balance bookingId := by
    intro there chain
    induction chain with
    | single step => exact step.balance (ReachableDb.sound reachable)
    | tail earlier step ih =>
      rw [step.balance (ReachableDb.sound (TransferChain.reachable reachable earlier)), ih]
  exact along _ chain

/-- **It does not carry the receipts**: nothing was received on the last booking. -/
theorem TransferChain.netReceived (reachable : ReachableDb db)
    (chain : TransferChain (db, bookingId) (moved, lastId)) : moved.netReceived lastId = 0 := by
  cases chain with
  | single step => exact step.netReceived (ReachableDb.sound reachable)
  | tail earlier step =>
    exact step.netReceived (ReachableDb.sound (TransferChain.reachable reachable earlier))

end Chain

/-! ### Cancelling before and after -/

theorem netReceived_nonneg {db : Db} (sound : db.Sound) (bookingId : Nat) :
    0 ≤ db.netReceived bookingId := by
  refine Table.sum_nonneg fun id receipt found => ?_
  split
  · exact netCash_nonneg sound.books found
  · exact le_rfl

/-- **Cancelling at the end of a chain of transfers refunds and leaves owed what cancelling the
original booking would have, exactly when** nothing had been received on it, or no more than the
deduction. -/
theorem cancel_after_transfers_iff {db moved : Db} (reachable : ReachableDb db)
    {bookingId lastId : Nat} (chain : TransferChain (db, bookingId) (moved, lastId))
    {deductionPaise refundablePaise lastRefundablePaise : Int} {cancelled lastCancelled : Db}
    (direct : db.Cancels bookingId deductionPaise refundablePaise cancelled)
    (last : moved.Cancels lastId deductionPaise lastRefundablePaise lastCancelled) :
    (lastRefundablePaise = refundablePaise ∧
        lastCancelled.balance lastId = cancelled.balance bookingId) ↔
      db.netReceived bookingId = 0 ∨ db.netReceived bookingId ≤ deductionPaise := by
  obtain ⟨_, _, row, accepted, recorded, rfl, rfl⟩ := direct
  obtain ⟨_, _, lastRow, lastAccepted, lastRecorded, deduction, rfl⟩ := last
  obtain ⟨balance, refundable⟩ := cancel_posts accepted recorded
  obtain ⟨lastBalance, lastRefundable⟩ := cancel_posts lastAccepted lastRecorded
  have nothing : moved.netReceived lastId = 0 := TransferChain.netReceived reachable chain
  have received := netReceived_nonneg (ReachableDb.sound reachable) bookingId
  rw [nothing, deduction] at lastRefundable
  omega

def paidBeforeTransfer : List Request := smallPaid ++ [⟨{}, .createApplicant⟩]

/-- With a deduction of the full price the way over a transfer makes no difference. -/
theorem cancel_after_transfers_forfeited :
    let db := run exec {} paidBeforeTransfer
    let moved := run exec db [smallTransfer 0 1]
    let forfeit := ({ cancellationType := .cancel, cancellationRuleId := some 0 } : CancellationDto)
    let cancelled := run exec db [⟨smallMasters 0 1000, .cancel 0 forfeit⟩]
    let lastCancelled := run exec moved [⟨smallMasters 0 1000, .cancel 1 forfeit⟩]
    lastCancelled.balance 1 = cancelled.balance 0 := by
  intro db moved forfeit cancelled lastCancelled
  have chain : TransferChain (db, 0) (moved, 1) :=
    .single ⟨{}, { transferType := .applicant, toApplicantId := some 1 }, _, rfl, rfl, rfl⟩
  have direct : db.Cancels 0 1000 0 cancelled := ⟨smallMasters 0 1000, forfeit, _, rfl, rfl, rfl, rfl⟩
  have last : moved.Cancels 1 1000 0 lastCancelled :=
    ⟨smallMasters 0 1000, forfeit, _, rfl, rfl, rfl, rfl⟩
  exact ((cancel_after_transfers_iff (reachable_run _ _) chain direct last).mpr
    (Or.inr (by decide))).2

/-- Without a deduction 1000 would have been refunded; after one transfer nothing is. -/
theorem refund_lost_by_transfer :
    ∃ db, ReachableDb db ∧ ∃ moved, TransferChain (db, 0) (moved, 1) ∧
      (∃ cancelled, db.Cancels 0 0 1000 cancelled ∧ cancelled.balance 0 = -1000) ∧
      ∃ cancelled, moved.Cancels 1 0 0 cancelled ∧ cancelled.balance 1 = 0 :=
  ⟨run exec {} paidBeforeTransfer, reachable_run _ _,
    run exec (run exec {} paidBeforeTransfer) [smallTransfer 0 1],
    .single ⟨{}, { transferType := .applicant, toApplicantId := some 1 }, _, rfl, rfl, rfl⟩,
    ⟨_, ⟨{}, { cancellationType := .cancel }, _, rfl, rfl, rfl, rfl⟩, by decide⟩,
    ⟨_, ⟨{}, { cancellationType := .cancel }, _, rfl, rfl, rfl, rfl⟩, by decide⟩⟩

end OpenEstate
