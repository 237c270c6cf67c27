/-
**The statements of a booking.**

`BookingService.createBooking` is the transaction of the sequential model, statement by statement:
the unit and the applicant are read and checked, the price is computed, a number is allocated, the
rows are inserted, and only then the unit is read again and moved, by a statement of its own.

* `Db.CanBook` is what a request needs to be accepted alone, `createBooking_run_eq_ok` what it
  does then;
* `createBooking_run_iff`: run alone, the statements do what the sequential model does, and take a
  number.
-/

import OpenEstate.Concurrent.NumberSequence
import OpenEstate.Postsales.Booking

namespace OpenEstate

open Relational

/-! ### Moving a unit -/

def UnitStateMachineService.transition (unitId : Nat) (toStatus : UnitStatus)
    (actorType : ActorType) (reason : Option String) : Statements Unit := do
  Tx.check (ensure (toStatus ∈ reasonRequiredStatuses → reason.any (· != "") = true)
    (.badRequest s!"Reason is mandatory when transitioning to {toStatus.text}"))
  Tx.check (ensure (¬(actorType = .user ∧ isSystemOnlyTarget toStatus = true)) (.badRequest
    s!"Transition to {toStatus.text} is system-only and must go through the booking lifecycle, not the manual transition endpoint"))
  let found ← Tx.read fun store => store.units.find? unitId
  let unit ← Tx.check (orThrow found (.notFound "Unit not found"))
  Tx.check (ensure (isValidTransition unit.status toStatus = true)
    (.badRequest s!"Invalid transition from {unit.status.text} to {toStatus.text}"))
  Tx.update (.unit unitId) fun store => store.onDb (·.setUnitStatus unitId toStatus)

/-! ### Booking a unit -/

structure BookingPrice where
  placeOfSupplyStateCode : Option String
  lineTotals : List Int

def bookingPrice (masters : Masters) (dto : CreateBookingDto) (unit : EstateUnit) :
    Except ServiceError BookingPrice := do
  let placeOfSupplyStateCode := dto.placeOfSupplyStateCode <|> projectStateCode masters unit
  let intraState ← asBadRequest
    (isIntraStateSupply (masters.config.bind (·.gstStateCode)) placeOfSupplyStateCode)
  let baseLineGstRateId := (dto.costLines.find? (·.kind = .base)).bind (·.gstRateId)
  let lineTotals ← dto.costLines.mapM (costLineTotal masters intraState baseLineGstRateId)
  return { placeOfSupplyStateCode, lineTotals }

/-- Whether the rows of the co-applicants can be inserted: each names another applicant. -/
def coApplicantsExist (dto : CreateBookingDto) (db : Db) : Bool :=
  dto.coApplicantIds.Nodup ∧ ∀ id ∈ dto.coApplicantIds, (db.applicants.find? id).isSome

def BookingService.check (masters : Masters) (dto : CreateBookingDto) : Statements BookingPrice := do
  let found ← Tx.read fun store => store.units.find? dto.unitId
  let unit ← Tx.check (orThrow found (.notFound "Unit not found"))
  Tx.check (ensure (unit.status = .available ∨ unit.status = .held) (.badRequest
    s!"Unit {unit.number} is {unit.status.text}; only AVAILABLE or HELD units can be booked"))
  let primary ← Tx.read fun store => store.applicants.find? dto.primaryApplicantId
  let applicant ← Tx.check (orThrow primary (.notFound "Primary applicant not found"))
  Tx.check (ensure (applicant.mergedIntoId = none)
    (.badRequest "Primary applicant has been merged into another applicant"))
  Tx.check (bookingPrice masters dto unit)

/-- Number a booking and insert its rows. The booking is the last row of its table. -/
def BookingService.insertRows (companyId : Nat) (masters : Masters) (dto : CreateBookingDto)
    (price : BookingPrice) : Statements Unit := do
  let _ ← NumberSequence.allocateForFy companyId "BOOKING" dto.bookingDate masters.fyStartMonth
  Tx.insert fun store => store.onDb
    (·.addBooking (bookingRow dto price.placeOfSupplyStateCode price.lineTotals.sum))
  let exist ← Tx.read fun store => coApplicantsExist dto store.toDb
  Tx.check (ensure (exist = true) (.error "Constraint violated on booking_co_applicants"))
  Tx.insert fun store => store.onDb fun db =>
    db.post (price.lineTotals.map (chargeEntry (db.bookings.nextId - 1)))

def BookingService.record (companyId : Nat) (masters : Masters) (dto : CreateBookingDto)
    (price : BookingPrice) : Statements Unit := do
  BookingService.insertRows companyId masters dto price
  UnitStateMachineService.transition dto.unitId .booked .system (some "Booking")

def BookingService.createBooking (companyId : Nat) (masters : Masters) (dto : CreateBookingDto) :
    Statements Unit := do
  let price ← BookingService.check masters dto
  BookingService.record companyId masters dto price

def bookingSequence (companyId : Nat) (masters : Masters) (dto : CreateBookingDto) : SequenceKey :=
  { companyId
    kind := "BOOKING"
    scopeLabel := financialYearLabel dto.bookingDate masters.fyStartMonth }

/-! ### What a request needs -/

def Db.IsBookable (db : Db) (unitId : Nat) : Prop :=
  ∃ unit, db.units.find? unitId = some unit ∧ (unit.status = .available ∨ unit.status = .held)

structure Db.IsPriced (db : Db) (masters : Masters) (dto : CreateBookingDto)
    (price : BookingPrice) : Prop where
  applicant : ∃ applicant, db.applicants.find? dto.primaryApplicantId = some applicant ∧
    applicant.mergedIntoId = none
  price : ∃ unit, db.units.find? dto.unitId = some unit ∧
    bookingPrice masters dto unit = .ok price
  coApplicants : coApplicantsExist dto db = true

structure Db.CanBook (db : Db) (masters : Masters) (dto : CreateBookingDto) : Prop where
  bookable : db.IsBookable dto.unitId
  priced : ∃ price, db.IsPriced masters dto price

def Db.withBooking (db : Db) (dto : CreateBookingDto) (price : BookingPrice) : Db :=
  (db.addBooking (bookingRow dto price.placeOfSupplyStateCode price.lineTotals.sum)).post
    (price.lineTotals.map (chargeEntry db.bookings.nextId))

/-! ### The statements run alone -/

variable {store after : Store}

theorem transition_run_eq_ok {unitId : Nat} {toStatus : UnitStatus} {actorType : ActorType}
    {reason : Option String} :
    (UnitStateMachineService.transition unitId toStatus actorType reason).run store =
        .ok ((), after) ↔
      ∃ db, transitionUnit unitId toStatus actorType reason store.toDb = .ok db ∧
        after = store.onDb fun _ => db := by
  simp only [UnitStateMachineService.transition, transitionUnit, Tx.run_read_bind,
    Tx.run_check_bind_eq_ok, Tx.run_update, bind_eq_ok, pure_eq_ok, ensure_eq_ok, orThrow_eq_ok,
    Except.ok.injEq, Prod.mk.injEq, true_and]
  constructor
  · rintro ⟨_, reasoned, _, allowed, unit, found, _, valid, rfl⟩
    exact ⟨_, ⟨(), reasoned, (), allowed, unit, found, (), valid, rfl⟩, rfl⟩
  · rintro ⟨_, ⟨_, reasoned, _, allowed, unit, found, _, valid, rfl⟩, rfl⟩
    exact ⟨(), reasoned, (), allowed, unit, found, (), valid, rfl⟩

theorem transitionUnit_booked_eq_ok {unitId : Nat} {db after : Db} :
    transitionUnit unitId .booked .system (some "Booking") db = .ok after ↔
      db.IsBookable unitId ∧ after = db.setUnitStatus unitId .booked := by
  constructor
  · intro accepted
    obtain ⟨unit, found, valid, rfl⟩ := transitionUnit_eq_ok accepted
    refine ⟨⟨unit, found, ?_⟩, rfl⟩
    revert valid
    cases unit.status <;> decide
  · rintro ⟨⟨unit, found, bookable⟩, rfl⟩
    have valid : isValidTransition unit.status .booked = true := by
      rcases bookable with available | held
      · rw [available]
        decide
      · rw [held]
        decide
    simp only [transitionUnit, bind_eq_ok, ensure_eq_ok, orThrow_eq_ok, pure_eq_ok]
    exact ⟨(), by decide, (), by decide, unit, found, (), valid, trivial⟩

variable {masters : Masters} {dto : CreateBookingDto}

theorem check_run_eq_ok {price : BookingPrice} :
    (BookingService.check masters dto).run store = .ok (price, after) ↔
      (∃ unit, store.units.find? dto.unitId = some unit ∧
        (unit.status = .available ∨ unit.status = .held) ∧
        bookingPrice masters dto unit = .ok price) ∧
      (∃ applicant, store.applicants.find? dto.primaryApplicantId = some applicant ∧
        applicant.mergedIntoId = none) ∧ after = store := by
  simp only [BookingService.check, Tx.run_read_bind, Tx.run_check_bind_eq_ok, Tx.run_check_eq_ok,
    ensure_eq_ok, orThrow_eq_ok]
  constructor
  · rintro ⟨unit, found, _, bookable, applicant, present, _, unmerged, priced, rfl⟩
    exact ⟨⟨unit, found, bookable, priced⟩, ⟨applicant, present, unmerged⟩, rfl⟩
  · rintro ⟨⟨unit, found, bookable, priced⟩, ⟨applicant, present, unmerged⟩, rfl⟩
    exact ⟨unit, found, (), bookable, applicant, present, (), unmerged, priced, rfl⟩

def Store.withBooking (store : Store) (companyId : Nat) (masters : Masters) (dto : CreateBookingDto)
    (price : BookingPrice) : Store :=
  (store.incrementSequence (bookingSequence companyId masters dto)).onDb (·.withBooking dto price)

variable {companyId : Nat}

theorem insertRows_run_eq_ok {price : BookingPrice} :
    (BookingService.insertRows companyId masters dto price).run store = .ok ((), after) ↔
      coApplicantsExist dto store.toDb = true ∧
        after = store.withBooking companyId masters dto price := by
  let numbered := store.incrementSequence (bookingSequence companyId masters dto)
  let booked := numbered.onDb
    (·.addBooking (bookingRow dto price.placeOfSupplyStateCode price.lineTotals.sum))
  have steps : (BookingService.insertRows companyId masters dto price).run store =
      (Tx.check (ensure (coApplicantsExist dto store.toDb = true)
          (.error "Constraint violated on booking_co_applicants")) >>= fun _ =>
        (Tx.insert fun store => store.onDb fun db =>
          db.post (price.lineTotals.map (chargeEntry (db.bookings.nextId - 1))) :
          Statements Unit)).run booked := rfl
  rw [steps, Tx.run_check_bind_eq_ok]
  simp only [ensure_eq_ok, Tx.run_insert, Except.ok.injEq, Prod.mk.injEq, true_and, exists_const]
  refine and_congr_right fun _ => ?_
  constructor
  · rintro rfl
    rfl
  · rintro rfl
    rfl

theorem record_run_eq_ok {price : BookingPrice} :
    (BookingService.record companyId masters dto price).run store = .ok ((), after) ↔
      coApplicantsExist dto store.toDb = true ∧ store.IsBookable dto.unitId ∧
        after = (store.withBooking companyId masters dto price).onDb
          (·.setUnitStatus dto.unitId .booked) := by
  rw [BookingService.record, Tx.run_bind_eq_ok]
  constructor
  · rintro ⟨_, middle, inserted, transitioned⟩
    obtain ⟨exist, rfl⟩ := insertRows_run_eq_ok.mp inserted
    obtain ⟨db, moved, rfl⟩ := transition_run_eq_ok.mp transitioned
    obtain ⟨bookable, rfl⟩ := transitionUnit_booked_eq_ok.mp moved
    exact ⟨exist, bookable, rfl⟩
  · rintro ⟨exist, bookable, rfl⟩
    refine ⟨(), _, insertRows_run_eq_ok.mpr ⟨exist, rfl⟩, transition_run_eq_ok.mpr ⟨_, ?_, rfl⟩⟩
    exact transitionUnit_booked_eq_ok.mpr ⟨bookable, rfl⟩

theorem createBooking_run_eq_ok :
    (BookingService.createBooking companyId masters dto).run store = .ok ((), after) ↔
      store.IsBookable dto.unitId ∧ ∃ price, store.IsPriced masters dto price ∧
        after = (store.withBooking companyId masters dto price).onDb
          (·.setUnitStatus dto.unitId .booked) := by
  rw [BookingService.createBooking, Tx.run_bind_eq_ok]
  constructor
  · rintro ⟨price, middle, checked, recorded⟩
    obtain ⟨⟨unit, found, bookable, priced⟩, applicant, rfl⟩ := check_run_eq_ok.mp checked
    obtain ⟨exist, _, rfl⟩ := record_run_eq_ok.mp recorded
    exact ⟨⟨unit, found, bookable⟩, price, ⟨applicant, ⟨unit, found, priced⟩, exist⟩, rfl⟩
  · rintro ⟨⟨unit, found, bookable⟩, price, ⟨applicant, ⟨other, otherFound, priced⟩, exist⟩, rfl⟩
    rw [found] at otherFound
    cases otherFound
    exact ⟨price, store, check_run_eq_ok.mpr ⟨⟨unit, found, bookable, priced⟩, applicant, rfl⟩,
      record_run_eq_ok.mpr ⟨exist, ⟨unit, found, bookable⟩, rfl⟩⟩

theorem createBooking_run_iff :
    (BookingService.createBooking companyId masters dto).run store = .ok ((), after) ↔
      ∃ db, createBooking masters dto store.toDb = .ok (db, store.bookings.nextId) ∧
        after = (store.incrementSequence (bookingSequence companyId masters dto)).onDb
          fun _ => db := by
  rw [createBooking_run_eq_ok]
  simp only [createBooking, bind_eq_ok, ensure_eq_ok, orThrow_eq_ok, pure_eq_ok, Prod.mk.injEq]
  constructor
  · rintro ⟨⟨unit, found, bookable⟩, price, ⟨⟨applicant, present, unmerged⟩,
      ⟨other, otherFound, priced⟩, exist⟩, rfl⟩
    rw [found] at otherFound
    cases otherFound
    simp only [bookingPrice, bind_eq_ok, pure_eq_ok] at priced
    obtain ⟨intraState, supplied, lineTotals, computed, rfl⟩ := priced
    exact ⟨_, ⟨unit, found, (), bookable, applicant, present, (), unmerged, intraState, supplied,
      lineTotals, computed, (), of_decide_eq_true exist, _,
      transitionUnit_booked_eq_ok.mpr ⟨⟨unit, found, bookable⟩, rfl⟩, rfl, trivial⟩, rfl⟩
  · rintro ⟨db, ⟨unit, found, _, bookable, applicant, present, _, unmerged, intraState, supplied,
      lineTotals, computed, _, exist, moved, transitioned, rfl, _⟩, rfl⟩
    obtain ⟨_, rfl⟩ := transitionUnit_booked_eq_ok.mp transitioned
    refine ⟨⟨unit, found, bookable⟩, ⟨_, lineTotals⟩, ⟨⟨applicant, present, unmerged⟩,
      ⟨unit, found, ?_⟩, decide_eq_true exist⟩, rfl⟩
    simp only [bookingPrice, bind_eq_ok, pure_eq_ok]
    exact ⟨intraState, supplied, lineTotals, computed, rfl⟩

end OpenEstate
