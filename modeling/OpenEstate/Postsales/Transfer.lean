/-
**Transfers**: a booking moved to another unit or another applicant.

The old ledger is closed with a carry-out that brings its balance to zero, and the new booking
opens with an equal carry-in, so the money over the two ledgers stays the same; a transfer fee is
charged on top.
-/

import OpenEstate.Postsales.Booking

namespace OpenEstate

open Relational

def transferFee (masters : Masters) (dto : CreateTransferDto) (booking : Booking) :
    Except ServiceError Int :=
  match dto.transferFeeRuleId with
  | none => return 0
  | some ruleId => do
    let rule ← orThrow (masters.transferFeeRules ruleId) (.notFound "Transfer fee rule not found")
    match rule.feeType with
    | .fixed => return rule.amountPaise.getD 0
    | .percentage => return percentOf booking.agreedPricePaise (rule.basisPoints.getD 0)

def transferTarget (dto : CreateTransferDto) (booking : Booking) (db : Db) :
    Except ServiceError (Nat × Nat) :=
  match dto.transferType with
  | .unit => do
    let toUnitId ← orThrow dto.toUnitId (.badRequest "UNIT transfer requires toUnitId")
    let newUnit ← orThrow (db.units.find? toUnitId) (.notFound "Destination unit not found")
    ensure (newUnit.status = .available ∨ newUnit.status = .held) (.badRequest
      s!"Destination unit is {newUnit.status.text}; must be AVAILABLE or HELD")
    return (toUnitId, booking.primaryApplicantId)
  | .applicant => do
    let toApplicantId ← orThrow dto.toApplicantId
      (.badRequest "APPLICANT transfer requires toApplicantId")
    let _ ← orThrow (db.applicants.find? toApplicantId)
      (.notFound "Destination applicant not found")
    return (booking.unitId, toApplicantId)

def checkTransferDto (dto : CreateTransferDto) : Except ServiceError Unit := do
  ensure (dto.transferType = .unit → dto.toUnitId ≠ none)
    (.badRequest "UNIT transfer requires toUnitId")
  ensure (dto.transferType = .applicant → dto.toApplicantId ≠ none)
    (.badRequest "APPLICANT transfer requires toApplicantId")

/-- Release the old unit and book the new one; another applicant keeps the unit. -/
def moveUnits (transferType : TransferType) (fromUnitId toUnitId : Nat) (db : Db) :
    Except ServiceError Db :=
  match transferType with
  | .applicant => return db
  | .unit => do
    let cancelled ← transitionUnit fromUnitId .cancelled .system (some "Transfer") db
    let released ← transitionUnit fromUnitId .available .system (some "Transfer") cancelled
    transitionUnit toUnitId .booked .system (some "Transfer") released

def transferredBooking (masters : Masters) (booking : Booking) (unitId applicantId : Nat) :
    Booking :=
  { booking with
    unitId
    primaryApplicantId := applicantId
    coApplicantIds := []
    status := .booked
    bookingDate := toUtcMidnight masters.now }

def carryOutEntry (fromBookingId : Nat) (carryForwardPaise : Int) : LedgerEntry :=
  { bookingId := fromBookingId
    entryType := .transferCarryOut
    signedAmountPaise := -carryForwardPaise }

/-- The entries that open the new ledger: the balance carried over, and the fee when there is
one. -/
def carryInEntries (toBookingId : Nat) (carryForwardPaise transferFeePaise : Int) :
    List LedgerEntry :=
  { bookingId := toBookingId
    entryType := .transferCarryIn
    signedAmountPaise := carryForwardPaise } ::
  if 0 < transferFeePaise then
    [{ bookingId := toBookingId
       entryType := .transferFee
       signedAmountPaise := transferFeePaise }]
  else []

def Db.carryOver (db : Db) (fromBookingId : Nat) (opened : Booking)
    (carryForwardPaise transferFeePaise : Int) : Db :=
  let closed := (db.post [carryOutEntry fromBookingId carryForwardPaise]).setBookingStatus
    fromBookingId .transferredOut
  (closed.addBooking opened).post (carryInEntries db.bookings.nextId carryForwardPaise transferFeePaise)

def Db.addTransfer (db : Db) (row : Transfer) : Db :=
  { db with transfers := db.transfers.create row }

def transferRow (fromBookingId toBookingId : Nat) (transferType : TransferType)
    (transferFeePaise carryForwardPaise : Int) : Transfer :=
  { fromBookingId, toBookingId, transferType, transferFeePaise, carryForwardPaise }

def transfer (masters : Masters) (fromBookingId : Nat) (dto : CreateTransferDto) (db : Db) :
    Except ServiceError (Db × Nat) := do
  let booking ← orThrow (db.bookings.find? fromBookingId) (.notFound "Source booking not found")
  ensure (booking.status = .booked ∨ booking.status = .allotted) (.badRequest
    s!"Booking is {booking.status.text}; only BOOKED/ALLOTTED can transfer")
  checkTransferDto dto
  let carryForward := db.balance fromBookingId
  let fee ← transferFee masters dto booking
  let (toUnitId, toApplicantId) ← transferTarget dto booking db
  let toBookingId := db.bookings.nextId
  let opened := transferredBooking masters booking toUnitId toApplicantId
  let carried := db.carryOver fromBookingId opened carryForward fee
  let moved ← moveUnits dto.transferType booking.unitId toUnitId carried
  return (moved.addTransfer
    (transferRow fromBookingId toBookingId dto.transferType fee carryForward), toBookingId)

/-! ### What an accepted call checked and did -/

theorem moveUnits_eq_ok {transferType : TransferType} {fromUnitId toUnitId : Nat} {db after : Db}
    (accepted : moveUnits transferType fromUnitId toUnitId db = .ok after) :
    ∃ units, after = { db with units } := by
  cases transferType with
  | applicant =>
    rw [moveUnits, pure_eq_ok] at accepted
    exact ⟨db.units, accepted.symm⟩
  | unit =>
    simp only [moveUnits, bind_eq_ok] at accepted
    obtain ⟨_, cancelled, _, released, booked⟩ := accepted
    obtain ⟨_, _, _, rfl⟩ := transitionUnit_eq_ok cancelled
    obtain ⟨_, _, _, rfl⟩ := transitionUnit_eq_ok released
    obtain ⟨_, _, _, rfl⟩ := transitionUnit_eq_ok booked
    exact ⟨_, rfl⟩

theorem transfer_eq_ok {masters : Masters} {fromBookingId : Nat} {dto : CreateTransferDto}
    {db : Db} {answer : Db × Nat}
    (accepted : transfer masters fromBookingId dto db = .ok answer) :
    ∃ booking fee unitId applicantId moved, db.bookings.find? fromBookingId = some booking ∧
      (booking.status = .booked ∨ booking.status = .allotted) ∧
      transferFee masters dto booking = .ok fee ∧
      transferTarget dto booking db = .ok (unitId, applicantId) ∧
      moveUnits dto.transferType booking.unitId unitId (db.carryOver fromBookingId
        (transferredBooking masters booking unitId applicantId) (db.balance fromBookingId) fee) =
        .ok moved ∧
      answer = (moved.addTransfer (transferRow fromBookingId db.bookings.nextId dto.transferType fee
        (db.balance fromBookingId)), db.bookings.nextId) := by
  simp only [transfer, bind_eq_ok, ensure_eq_ok, orThrow_eq_ok, pure_eq_ok] at accepted
  obtain ⟨booking, found, _, transferable, _, _, fee, charged, ⟨unitId, applicantId⟩, target, after,
    moved, rfl⟩ := accepted
  exact ⟨booking, fee, unitId, applicantId, after, found, transferable, charged, target, moved, rfl⟩

end OpenEstate
