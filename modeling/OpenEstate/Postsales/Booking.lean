/-
**Bookings**: the sale of a unit, its progress to registration, and charges added later.

`createBooking` computes the cost lines with their GST, posts them as charges, and moves the unit
through its state machine. The agreed price is the sum of the line totals.
-/

import OpenEstate.Postsales.Schema

namespace OpenEstate

open Relational

/-! ### The unit state machine -/

def Db.setUnitStatus (db : Db) (unitId : Nat) (status : UnitStatus) : Db :=
  { db with units := db.units.modify unitId fun unit => { unit with status } }

def transitionUnit (unitId : Nat) (toStatus : UnitStatus) (actorType : ActorType)
    (reason : Option String) (db : Db) : Except ServiceError Db := do
  ensure (toStatus ∈ reasonRequiredStatuses → reason.any (· != "") = true)
    (.badRequest s!"Reason is mandatory when transitioning to {toStatus.text}")
  ensure (¬(actorType = .user ∧ isSystemOnlyTarget toStatus = true)) (.badRequest
    s!"Transition to {toStatus.text} is system-only and must go through the booking lifecycle, not the manual transition endpoint")
  let unit ← orThrow (db.units.find? unitId) (.notFound "Unit not found")
  ensure (isValidTransition unit.status toStatus = true)
    (.badRequest s!"Invalid transition from {unit.status.text} to {toStatus.text}")
  return db.setUnitStatus unitId toStatus

/-! ### Cost lines -/

def computeCostLineGst (basePaise : Int) (rateBasisPoints : Nat) (intraState : Bool) :
    Except ServiceError Int := do
  let components ← gstComponents basePaise rateBasisPoints intraState
  return basePaise + (components.cgstPaise + components.sgstPaise + components.igstPaise)

/-- The GST rate of a line: its own, else its charge type's, else the one of the base line. -/
def resolveGstRateId (masters : Masters) (baseLineGstRateId : Option Nat)
    (line : BookingCostLineInput) : Except ServiceError (Option Nat) := do
  match line.gstRateId, line.chargeTypeId with
  | some own, _ => return some own
  | none, none => return baseLineGstRateId
  | none, some chargeTypeId =>
    let chargeType ← orThrow (masters.chargeTypes chargeTypeId)
      (.notFound s!"Charge type {chargeTypeId} not found")
    return chargeType.gstRateId <|> baseLineGstRateId

def costLineTotal (masters : Masters) (intraState : Bool) (baseLineGstRateId : Option Nat)
    (line : BookingCostLineInput) : Except ServiceError Int := do
  let resolved ← resolveGstRateId masters baseLineGstRateId line
  let effectiveGstRateId ← orThrow resolved (.badRequest
    s!"Cannot determine GST for cost line \"{line.label}\": select a GST rate for the base line (fixes every line that falls back to it), or set one for this charge type in Masters.")
  let rate ← orThrow (masters.gstRateBasisPoints effectiveGstRateId)
    (.notFound s!"GST rate {effectiveGstRateId} not found")
  computeCostLineGst line.baseAmountPaise rate intraState

def asBadRequest {α : Type} : Except ServiceError α → Except ServiceError α
  | .error (.notFound message) => .error (.badRequest message)
  | .error (.conflict message) => .error (.badRequest message)
  | .error (.error message) => .error (.badRequest message)
  | answer => answer

/-! ### Booking a unit -/

def projectStateCode (masters : Masters) (unit : EstateUnit) : Option String :=
  (masters.projects unit.projectId).bind (·.areaLocationStateCode)

def bookingRow (dto : CreateBookingDto) (placeOfSupplyStateCode : Option String)
    (agreedPricePaise : Int) : Booking :=
  { unitId := dto.unitId
    primaryApplicantId := dto.primaryApplicantId
    coApplicantIds := dto.coApplicantIds
    status := .booked
    agreedPricePaise
    placeOfSupplyStateCode
    paymentPlanTemplateId := dto.paymentPlanTemplateId
    bookingDate := toUtcMidnight dto.bookingDate }

def chargeEntry (bookingId : Nat) (lineTotalPaise : Int) : LedgerEntry :=
  { bookingId
    entryType := .charge
    signedAmountPaise := lineTotalPaise }

def Db.addBooking (db : Db) (booking : Booking) : Db :=
  { db with bookings := db.bookings.create booking }

def Db.setBookingStatus (db : Db) (bookingId : Nat) (status : BookingStatus) : Db :=
  { db with bookings := db.bookings.modify bookingId fun booking => { booking with status } }

def createBooking (masters : Masters) (dto : CreateBookingDto) (db : Db) :
    Except ServiceError (Db × Nat) := do
  let unit ← orThrow (db.units.find? dto.unitId) (.notFound "Unit not found")
  ensure (unit.status = .available ∨ unit.status = .held) (.badRequest
    s!"Unit {unit.number} is {unit.status.text}; only AVAILABLE or HELD units can be booked")
  let applicant ← orThrow (db.applicants.find? dto.primaryApplicantId)
    (.notFound "Primary applicant not found")
  ensure (applicant.mergedIntoId = none)
    (.badRequest "Primary applicant has been merged into another applicant")
  let placeOfSupplyStateCode := dto.placeOfSupplyStateCode <|> projectStateCode masters unit
  let intraState ← asBadRequest
    (isIntraStateSupply (masters.config.bind (·.gstStateCode)) placeOfSupplyStateCode)
  let baseLineGstRateId := (dto.costLines.find? (·.kind = .base)).bind (·.gstRateId)
  let lineTotals ← dto.costLines.mapM (costLineTotal masters intraState baseLineGstRateId)
  let bookingId := db.bookings.nextId
  -- the rows of the co-applicants name applicants that must exist, each of them once
  ensure (dto.coApplicantIds.Nodup ∧ ∀ id ∈ dto.coApplicantIds, (db.applicants.find? id).isSome)
    (.error "Constraint violated on booking_co_applicants")
  let booking := bookingRow dto placeOfSupplyStateCode lineTotals.sum
  let posted := (db.addBooking booking).post (lineTotals.map (chargeEntry bookingId))
  let moved ← transitionUnit dto.unitId .booked .system (some "Booking") posted
  return (moved, bookingId)

inductive BookingAdvance
  | allotted | registered
  deriving DecidableEq

def BookingAdvance.expectedFrom : BookingAdvance → BookingStatus
  | .allotted => .booked
  | .registered => .allotted

def BookingAdvance.status : BookingAdvance → BookingStatus
  | .allotted => .allotted
  | .registered => .registered

def BookingAdvance.unitStatus : BookingAdvance → UnitStatus
  | .allotted => .allotted
  | .registered => .registered

def advance (bookingId : Nat) (target : BookingAdvance) (db : Db) : Except ServiceError Db := do
  let booking ← orThrow (db.bookings.find? bookingId) (.notFound "Booking not found")
  ensure (booking.status = target.expectedFrom) (.badRequest
    s!"Booking is {booking.status.text}; expected {target.expectedFrom.text} before {target.status.text}")
  transitionUnit booking.unitId target.unitStatus .system (some "Booking")
    (db.setBookingStatus bookingId target.status)

/-! ### Charges added later -/

/-- The rate of an extra charge: the one given, else its charge type's, else none, which is no
tax. -/
def extraChargeRate (masters : Masters) (dto : ExtraChargeDto) : Except ServiceError Nat :=
  match dto.gstRateId <|> (dto.chargeTypeId.bind masters.chargeTypes).bind (·.gstRateId) with
  | none => return 0
  | some gstRateId => orThrow (masters.gstRateBasisPoints gstRateId) (.notFound "GST rate not found")

def extraChargeEntry (bookingId : Nat) (lineTotalPaise : Int) : LedgerEntry :=
  { bookingId
    entryType := .extraCharge
    signedAmountPaise := lineTotalPaise }

def addExtraCharge (masters : Masters) (bookingId : Nat) (dto : ExtraChargeDto) (db : Db) :
    Except ServiceError Db := do
  let booking ← orThrow (db.bookings.find? bookingId) (.notFound "Booking not found")
  let intraState ← asBadRequest
    (isIntraStateSupply (masters.config.bind (·.gstStateCode)) booking.placeOfSupplyStateCode)
  let rate ← extraChargeRate masters dto
  let lineTotal ← computeCostLineGst dto.baseAmountPaise rate intraState
  return db.post [extraChargeEntry bookingId lineTotal]

/-! ### What an accepted call checked and did -/

variable {db after : Db}

theorem transitionUnit_eq_ok {unitId : Nat} {toStatus : UnitStatus} {actorType : ActorType}
    {reason : Option String}
    (accepted : transitionUnit unitId toStatus actorType reason db = .ok after) :
    ∃ unit, db.units.find? unitId = some unit ∧ isValidTransition unit.status toStatus = true ∧
      after = db.setUnitStatus unitId toStatus := by
  simp only [transitionUnit, bind_eq_ok, ensure_eq_ok, orThrow_eq_ok, pure_eq_ok] at accepted
  obtain ⟨_, _, _, _, unit, found, _, valid, rfl⟩ := accepted
  exact ⟨unit, found, valid, rfl⟩

variable {masters : Masters}

theorem costLineTotal_nonneg {intraState : Bool} {baseLineGstRateId : Option Nat}
    {line : BookingCostLineInput} {total : Int}
    (accepted : costLineTotal masters intraState baseLineGstRateId line = .ok total) :
    0 ≤ total := by
  simp only [costLineTotal, computeCostLineGst, bind_eq_ok, orThrow_eq_ok, pure_eq_ok] at accepted
  obtain ⟨_, _, _, _, _, _, components, computed, rfl⟩ := accepted
  obtain ⟨cgst, sgst, igst⟩ := gstComponents_nonneg line.base_nonneg computed
  have base := line.base_nonneg
  omega

theorem createBooking_eq_ok {dto : CreateBookingDto} {answer : Db × Nat}
    (accepted : createBooking masters dto db = .ok answer) :
    ∃ unit placeOfSupplyStateCode, ∃ lineTotals : List Int,
      db.units.find? dto.unitId = some unit ∧ (unit.status = .available ∨ unit.status = .held) ∧
      (∀ total ∈ lineTotals, 0 ≤ total) ∧
      answer = (((db.addBooking (bookingRow dto placeOfSupplyStateCode lineTotals.sum)).post
        (lineTotals.map (chargeEntry db.bookings.nextId))).setUnitStatus dto.unitId .booked,
        db.bookings.nextId) := by
  simp only [createBooking, bind_eq_ok, ensure_eq_ok, orThrow_eq_ok, pure_eq_ok] at accepted
  obtain ⟨unit, found, _, bookable, _, _, _, _, intraState, _, lineTotals, computed, _, _, moved,
    transitioned, rfl⟩ := accepted
  obtain ⟨_, _, _, rfl⟩ := transitionUnit_eq_ok transitioned
  refine ⟨unit, _, lineTotals, found, bookable, fun total member => ?_, rfl⟩
  obtain ⟨line, _, lineTotal⟩ := mem_of_mapM_eq_ok computed total member
  exact costLineTotal_nonneg lineTotal

theorem advance_eq_ok {bookingId : Nat} {target : BookingAdvance}
    (accepted : advance bookingId target db = .ok after) :
    ∃ booking unit, db.bookings.find? bookingId = some booking ∧
      booking.status = target.expectedFrom ∧ db.units.find? booking.unitId = some unit ∧
      isValidTransition unit.status target.unitStatus = true ∧
      after = (db.setBookingStatus bookingId target.status).setUnitStatus booking.unitId
        target.unitStatus := by
  simp only [advance, bind_eq_ok, ensure_eq_ok, orThrow_eq_ok] at accepted
  obtain ⟨booking, found, _, expected, transitioned⟩ := accepted
  obtain ⟨unit, present, valid, rfl⟩ := transitionUnit_eq_ok transitioned
  exact ⟨booking, unit, found, expected, present, valid, rfl⟩

theorem addExtraCharge_eq_ok {bookingId : Nat} {dto : ExtraChargeDto}
    (accepted : addExtraCharge masters bookingId dto db = .ok after) :
    ∃ booking lineTotal, db.bookings.find? bookingId = some booking ∧ 0 ≤ lineTotal ∧
      after = db.post [extraChargeEntry bookingId lineTotal] := by
  simp only [addExtraCharge, computeCostLineGst, bind_eq_ok, orThrow_eq_ok, pure_eq_ok] at accepted
  obtain ⟨booking, found, _, _, _, _, lineTotal, ⟨components, computed, rfl⟩, rfl⟩ := accepted
  obtain ⟨cgst, sgst, igst⟩ := gstComponents_nonneg dto.base_nonneg computed
  have base := dto.base_nonneg
  exact ⟨booking, _, found, by omega, rfl⟩

end OpenEstate
