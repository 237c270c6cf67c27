/-
**Cancellation and surrender** of a booking.

What is refundable is the cash collected on the booking's receipts at that moment less a deduction;
the settlement entry brings the ledger balance to exactly minus that amount.
-/

import OpenEstate.Postsales.Booking

namespace OpenEstate

open Relational

def Books.tdsWithheld (books : Books) (receiptId : Nat) : Int :=
  books.tdsDeductions.sum fun _ ded => if ded.receiptId = receiptId then ded.deductedPaise else 0

def Books.netCash (books : Books) (receiptId : Nat) (receipt : Receipt) : Int :=
  receipt.grossAmountPaise - books.tdsWithheld receiptId

/-- Whether a receipt's money is in hand: not reversed, and immediate or cleared. -/
def Receipt.isCollected (receipt : Receipt) : Bool :=
  receipt.isReversed = false ∧
    (receipt.clearanceStatus = .notApplicable ∨ receipt.clearanceStatus = .cleared)

def Books.netReceived (books : Books) (bookingId : Nat) : Int :=
  books.receipts.sum fun id receipt =>
    if receipt.bookingId = bookingId ∧ receipt.isCollected then books.netCash id receipt else 0

/-- The active installment of a booking with the smallest sequence number. -/
def Books.firstInstallment (books : Books) (bookingId : Nat) : Option Installment :=
  (books.installments.select fun _ inst => inst.bookingId = bookingId ∧ inst.isActive).foldl
    (fun first row => match first with
      | none => some row.2
      | some best => if row.2.seq < best.seq then some row.2 else some best) none

def cancellationDeduction (masters : Masters) (bookingId : Nat) (booking : Booking)
    (dto : CancellationDto) (db : Db) : Except ServiceError Int :=
  match dto.cancellationRuleId with
  | none => return 0
  | some ruleId => do
    let rule ← orThrow (masters.cancellationRules ruleId) (.notFound "Cancellation rule not found")
    let levy := match rule.deductionType with
      | .flat => rule.deductionAmountPaise.getD 0
      | .percent => percentOf booking.agreedPricePaise (rule.deductionBasisPoints.getD 0)
    let forfeited :=
      if rule.forfeitBookingAmount then ((db.firstInstallment bookingId).map (·.amountPaise)).getD 0
      else 0
    return levy + forfeited

def refundableOf (netReceived deduction : Int) : Int :=
  if 0 < netReceived - deduction then netReceived - deduction else 0

def CancellationType.status : CancellationType → BookingStatus
  | .cancel => .cancelled
  | .surrender => .surrendered

/-- Return a unit to the market, over the cancelled status. A unit that is already available, or
gone, is left alone. -/
def releaseUnit (unitId : Nat) (db : Db) : Except ServiceError Db :=
  match db.units.find? unitId with
  | none => return db
  | some unit =>
    if unit.status = .available then return db
    else if unit.status = .cancelled then
      transitionUnit unitId .available .system (some "Cancellation") db
    else do
      let cancelled ← transitionUnit unitId .cancelled .system (some "Cancellation") db
      transitionUnit unitId .available .system (some "Cancellation") cancelled

/-- The two entries of a cancellation: the deduction, and the settlement that drives the balance
to minus the refundable amount. -/
def settlementEntries (bookingId : Nat) (balance deduction refundable : Int) :
    List LedgerEntry :=
  [{ bookingId
     entryType := .cancellationDeduction
     signedAmountPaise := deduction },
   { bookingId
     entryType := .cancellationSettlement
     signedAmountPaise := -refundable - balance - deduction }]

def Db.addCancellation (db : Db) (row : Cancellation) : Db :=
  { db with cancellations := db.cancellations.create row }

def cancellationRow (bookingId : Nat) (dto : CancellationDto) (deductionPaise refundablePaise : Int) :
    Cancellation :=
  { bookingId
    cancellationType := dto.cancellationType
    deductionPaise
    refundablePaise }

def cancel (masters : Masters) (bookingId : Nat) (dto : CancellationDto) (db : Db) :
    Except ServiceError Db := do
  let booking ← orThrow (db.bookings.find? bookingId) (.notFound "Booking not found")
  ensure (booking.status = .booked ∨ booking.status = .allotted ∨ booking.status = .registered)
    (.badRequest s!"Booking is {booking.status.text} and cannot be cancelled")
  let netReceived := db.netReceived bookingId
  let deduction ← cancellationDeduction masters bookingId booking dto db
  let refundable := refundableOf netReceived deduction
  let currentBalance := db.balance bookingId
  let settled := (db.post (settlementEntries bookingId currentBalance deduction refundable)
    ).setBookingStatus bookingId dto.cancellationType.status
  releaseUnit booking.unitId
    (settled.addCancellation (cancellationRow bookingId dto deduction refundable))

/-! ### What an accepted call checked and did -/

theorem releaseUnit_eq_ok {unitId : Nat} {db after : Db}
    (accepted : releaseUnit unitId db = .ok after) : ∃ units, after = { db with units } := by
  unfold releaseUnit at accepted
  split at accepted
  · rw [pure_eq_ok] at accepted
    exact ⟨db.units, accepted.symm⟩
  · split at accepted
    · rw [pure_eq_ok] at accepted
      exact ⟨db.units, accepted.symm⟩
    · split at accepted
      · obtain ⟨_, _, _, rfl⟩ := transitionUnit_eq_ok accepted
        exact ⟨_, rfl⟩
      · rw [bind_eq_ok] at accepted
        obtain ⟨_, cancelled, released⟩ := accepted
        obtain ⟨_, _, _, rfl⟩ := transitionUnit_eq_ok cancelled
        obtain ⟨_, _, _, rfl⟩ := transitionUnit_eq_ok released
        exact ⟨_, rfl⟩

def Db.settle (db : Db) (bookingId : Nat) (dto : CancellationDto) (deduction : Int) : Db :=
  let refundable := refundableOf (db.netReceived bookingId) deduction
  let settled := (db.post (settlementEntries bookingId (db.balance bookingId) deduction refundable)
    ).setBookingStatus bookingId dto.cancellationType.status
  settled.addCancellation (cancellationRow bookingId dto deduction refundable)

theorem cancel_eq_ok {masters : Masters} {bookingId : Nat} {dto : CancellationDto} {db after : Db}
    (accepted : cancel masters bookingId dto db = .ok after) :
    ∃ booking deduction, db.bookings.find? bookingId = some booking ∧
      (booking.status = .booked ∨ booking.status = .allotted ∨ booking.status = .registered) ∧
      cancellationDeduction masters bookingId booking dto db = .ok deduction ∧
      releaseUnit booking.unitId (db.settle bookingId dto deduction) = .ok after := by
  simp only [cancel, bind_eq_ok, ensure_eq_ok, orThrow_eq_ok] at accepted
  obtain ⟨booking, found, _, cancellable, deduction, deducted, released⟩ := accepted
  exact ⟨booking, deduction, found, cancellable, deducted, released⟩

end OpenEstate
