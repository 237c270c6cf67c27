/-
**The units of live bookings.**

The operations refine the moves of `Occupancy` (`Effect.occupancyMoves`), so single occupancy holds
in every reachable state. The status of a live booking and of its unit also stay in step, up to the
transfer of an allotted booking to another applicant: the new booking starts over as booked and the
unit stays allotted.
-/

import OpenEstate.Postsales.Occupancy

namespace OpenEstate

open Relational

/-! ### The occupancy of the database -/

def Db.occupancy (db : Db) : Occupancy where
  bookings := fun id => (db.bookings.find? id).map fun booking => (booking.status, booking.unitId)
  units := fun id => (db.units.find? id).map (·.status)

variable {db : Db} {booking : Booking}

theorem occupancy_booking {id : Nat} (found : db.bookings.find? id = some booking) :
    db.occupancy.bookings id = some (booking.status, booking.unitId) := by
  show Option.map _ _ = _
  rw [found, Option.map_some]

theorem occupancy_unit {id : Nat} {unit : EstateUnit}
    (found : db.units.find? id = some unit) : db.occupancy.units id = some unit.status := by
  show Option.map _ _ = _
  rw [found, Option.map_some]

theorem occupancy_newBooking (db : Db) : db.occupancy.bookings db.bookings.nextId = none := by
  show Option.map _ _ = _
  rw [Table.find?_nextId, Option.map_none]

variable {unitId : Nat}

theorem occupancy_setUnitStatus {unit : EstateUnit} (found : db.units.find? unitId = some unit)
    (status : UnitStatus) :
    (db.setUnitStatus unitId status).occupancy = db.occupancy.setUnit unitId status := by
  ext1
  · rfl
  · funext id
    rw [Occupancy.units_setUnit]
    show Option.map _ ((db.units.modify unitId _).find? id) = _
    rw [Table.find?_modify]
    by_cases same : id = unitId
    · rw [if_pos same, if_pos same, same, found]
      rfl
    · rw [if_neg same, if_neg same]
      rfl

theorem occupancy_setBookingStatus {bookingId : Nat}
    (found : db.bookings.find? bookingId = some booking) (status : BookingStatus) :
    (db.setBookingStatus bookingId status).occupancy =
      db.occupancy.setBooking bookingId status booking.unitId := by
  ext1
  · funext id
    rw [Occupancy.bookings_setBooking]
    show Option.map _ ((db.bookings.modify bookingId _).find? id) = _
    rw [Table.find?_modify]
    by_cases same : id = bookingId
    · rw [if_pos same, if_pos same, same, found]
      rfl
    · rw [if_neg same, if_neg same]
      rfl
  · rfl

theorem occupancy_addBooking (db : Db) (booking : Booking) :
    (db.addBooking booking).occupancy =
      db.occupancy.setBooking db.bookings.nextId booking.status booking.unitId := by
  ext1
  · funext id
    rw [Occupancy.bookings_setBooking]
    show Option.map _ ((db.bookings.create booking).find? id) = _
    rw [Table.find?_create]
    by_cases same : id = db.bookings.nextId
    · rw [if_pos same, if_pos same]
      rfl
    · rw [if_neg same, if_neg same]
      rfl
  · rfl

theorem occupancy_transitionUnit {toStatus : UnitStatus} {actorType : ActorType}
    {reason : Option String} {after : Db}
    (accepted : transitionUnit unitId toStatus actorType reason db = .ok after) :
    after.occupancy = db.occupancy.setUnit unitId toStatus := by
  obtain ⟨unit, found, _, rfl⟩ := transitionUnit_eq_ok accepted
  exact occupancy_setUnitStatus found toStatus

theorem occupancy_releaseUnit {after : Db} (accepted : releaseUnit unitId db = .ok after) :
    after.occupancy = db.occupancy.release unitId := by
  unfold releaseUnit at accepted
  unfold Occupancy.release
  split at accepted
  · rename_i absent
    rw [pure_eq_ok] at accepted
    have none : db.occupancy.units unitId = none := by
      show Option.map _ _ = _
      rw [absent, Option.map_none]
    rw [← accepted, none, Option.map_none, ← none, Function.update_eq_self]
  · rename_i unit found
    rw [occupancy_unit found, Option.map_some]
    split at accepted
    · rename_i available
      rw [pure_eq_ok] at accepted
      rw [← accepted, ← available, ← occupancy_unit found, Function.update_eq_self]
    · split at accepted
      · exact occupancy_transitionUnit accepted
      · rw [bind_eq_ok] at accepted
        obtain ⟨middle, cancelled, released⟩ := accepted
        rw [occupancy_transitionUnit released, occupancy_transitionUnit cancelled]
        exact Occupancy.setUnit_setUnit db.occupancy unitId .cancelled .available

/-! ### The moves of the operations -/

def Request.move (request : Request) (db : Db) : Occupancy.Move :=
  match request.op with
  | .createUnit _ _ => .enter db.units.nextId
  | .moveUnit unitId toStatus _ => .shift unitId toStatus
  | .createBooking dto => .book db.bookings.nextId dto.unitId
  | .advance bookingId target => .advance bookingId target
  | .transfer fromBookingId dto =>
    match dto.transferType with
    | .applicant => .reassign fromBookingId db.bookings.nextId
    | .unit => .relocate fromBookingId db.bookings.nextId (dto.toUnitId.getD 0)
  | .cancel bookingId dto => .vacate bookingId dto.cancellationType.status
  | _ => .stay

theorem transferTarget_unit_eq_ok {dto : CreateTransferDto} {applicantId : Nat}
    (kind : dto.transferType = .unit)
    (accepted : transferTarget dto booking db = .ok (unitId, applicantId)) :
    dto.toUnitId = some unitId ∧ db.occupancy.Bookable unitId := by
  unfold transferTarget at accepted
  rw [kind] at accepted
  simp only [bind_eq_ok, orThrow_eq_ok, ensure_eq_ok, pure_eq_ok, Prod.mk.injEq] at accepted
  obtain ⟨_, named, unit, found, _, bookable, rfl, _⟩ := accepted
  exact ⟨named, unit.status, occupancy_unit found, bookable⟩

theorem transferTarget_applicant_eq_ok {dto : CreateTransferDto} {applicantId : Nat}
    (kind : dto.transferType = .applicant)
    (accepted : transferTarget dto booking db = .ok (unitId, applicantId)) :
    unitId = booking.unitId := by
  unfold transferTarget at accepted
  rw [kind] at accepted
  simp only [bind_eq_ok, orThrow_eq_ok, pure_eq_ok, Prod.mk.injEq] at accepted
  obtain ⟨_, _, _, _, rfl, _⟩ := accepted
  rfl

theorem occupancy_carryOver {fromBookingId : Nat}
    (found : db.bookings.find? fromBookingId = some booking) (opened : Booking)
    (carryForwardPaise transferFeePaise : Int) :
    (db.carryOver fromBookingId opened carryForwardPaise transferFeePaise).occupancy =
      (db.occupancy.setBooking fromBookingId .transferredOut booking.unitId).setBooking
        db.bookings.nextId opened.status opened.unitId := by
  rw [← occupancy_setBookingStatus found]
  exact occupancy_addBooking (db.setBookingStatus fromBookingId .transferredOut) opened

theorem occupancy_createUnit (number : String) (projectId : Nat) (db : Db) :
    (createUnit number projectId db).occupancy =
      db.occupancy.setUnit db.units.nextId .available := by
  ext1
  · rfl
  · funext id
    rw [Occupancy.units_setUnit]
    show Option.map _ ((db.units.create _).find? id) = _
    rw [Table.find?_create]
    by_cases same : id = db.units.nextId
    · rw [if_pos same, if_pos same]
      rfl
    · rw [if_neg same, if_neg same]
      rfl

theorem occupancy_setInterestRule (bookingId : Nat) (ruleId : Option Nat) (db : Db) :
    (setInterestRule bookingId ruleId db).occupancy = db.occupancy := by
  ext1
  · funext id
    show Option.map _ ((db.bookings.modify bookingId _).find? id) = _
    rw [Table.find?_modify]
    split
    · rw [Option.map_map]
      rfl
    · rfl
  · rfl

/-- **The operations refine the moves.** -/
theorem Effect.occupancyMoves {request : Request} {after : Db} (effect : Effect request db after) :
    db.occupancy.Moves (request.move db) after.occupancy := by
  cases effect with
  | createUnit =>
    rw [occupancy_createUnit]
    refine .enter db.units.nextId ?_
    show Option.map _ _ = _
    rw [Table.find?_nextId, Option.map_none]
  | @moveUnit _ _ unitId toStatus reason accepted =>
    rw [occupancy_transitionUnit accepted]
    obtain ⟨unit, found, valid, _⟩ := transitionUnit_eq_ok accepted
    refine .shift unitId unit.status toStatus (occupancy_unit found) valid ?_
    simp only [transitionUnit, bind_eq_ok, ensure_eq_ok] at accepted
    obtain ⟨_, _, _, manual, _⟩ := accepted
    simpa using manual
  | @createBooking _ _ dto unit placeOfSupplyStateCode lineTotals unitFound bookable =>
    have booked := occupancy_addBooking (db.setUnitStatus dto.unitId .booked)
      (bookingRow dto placeOfSupplyStateCode lineTotals.sum)
    rw [occupancy_setUnitStatus unitFound] at booked
    have move := Occupancy.Moves.book db.bookings.nextId dto.unitId (occupancy_newBooking db)
      ⟨unit.status, occupancy_unit unitFound, bookable⟩
    exact booked ▸ move
  | @advance _ _ bookingId target booking unit found expected unitFound valid =>
    have present : (db.setBookingStatus bookingId target.status).units.find? booking.unitId =
        some unit := unitFound
    rw [occupancy_setUnitStatus present, occupancy_setBookingStatus found]
    refine .advance bookingId target booking.unitId unit.status ?_ (occupancy_unit unitFound) valid
    rw [occupancy_booking found, expected]
  | @transfer masters _ fromBookingId dto booking fee unitId applicantId units found transferable
      charged target moved =>
    have fresh := occupancy_newBooking db
    have old := occupancy_booking found
    have carried := occupancy_carryOver found
      (transferredBooking masters booking unitId applicantId) (db.balance fromBookingId) fee
    show db.occupancy.Moves _ ((db.carryOver fromBookingId
      (transferredBooking masters booking unitId applicantId) (db.balance fromBookingId)
        fee).withUnits units).occupancy
    cases kind : dto.transferType with
    | applicant =>
      have label : Request.move ⟨masters, .transfer fromBookingId dto⟩ db =
          .reassign fromBookingId db.bookings.nextId := by
        simp [Request.move, kind]
      rw [kind, moveUnits, pure_eq_ok] at moved
      rw [label, ← moved, carried, transferTarget_applicant_eq_ok kind target]
      exact .reassign fromBookingId db.bookings.nextId booking.status booking.unitId old
        transferable fresh
    | unit =>
      obtain ⟨named, bookable⟩ := transferTarget_unit_eq_ok kind target
      have label : Request.move ⟨masters, .transfer fromBookingId dto⟩ db =
          .relocate fromBookingId db.bookings.nextId unitId := by
        simp [Request.move, kind, named]
      simp only [kind, moveUnits, bind_eq_ok] at moved
      obtain ⟨_, cancelled, _, released, booked⟩ := moved
      rw [label, occupancy_transitionUnit booked, occupancy_transitionUnit released,
        occupancy_transitionUnit cancelled, carried, Occupancy.setUnit_setUnit]
      exact .relocate fromBookingId db.bookings.nextId booking.status booking.unitId unitId old
        transferable fresh bookable
  | @cancel _ _ bookingId dto booking deduction units found cancellable deducted released =>
    have live : booking.status.isLive = true := by simpa [BookingStatus.isLive] using cancellable
    have ended : dto.cancellationType.status.isLive = false := by
      cases dto.cancellationType <;> rfl
    have settled : (db.settle bookingId dto deduction).occupancy = _ :=
      occupancy_setBookingStatus found dto.cancellationType.status
    rw [occupancy_releaseUnit released, settled]
    exact .vacate bookingId booking.status dto.cancellationType.status booking.unitId
      (occupancy_booking found) live ended
  | instantiateFromTemplate found deactivated =>
    rw [deactivateExistingPlans_frame deactivated]
    exact .stay
  | createCustomPlan found deactivated =>
    rw [deactivateExistingPlans_frame deactivated]
    exact .stay
  | setInterestRule =>
    rw [occupancy_setInterestRule]
    exact .stay
  | raiseStage stage => rcases stage with rfl | ⟨stageRaise, rfl⟩ <;> exact .stay
  | @voucherBounced _ _ _ voucher => cases voucher.refundId <;> exact .stay
  | _ => exact .stay

/-! ### Single occupancy -/

theorem occupancySound_empty : ({} : Db).occupancy.Sound where
  sold := by
    rintro bookingId unitId ⟨status, found, _⟩
    cases found
  one := by
    rintro first second unitId ⟨status, found, _⟩
    cases found
  registered := by
    intro bookingId unitId found
    cases found

/-- **In every reachable state a live booking is the only one on its unit.** -/
theorem ReachableDb.occupancySound (reachable : ReachableDb db) : db.occupancy.Sound := by
  refine reachable.invariant (P := fun db => db.occupancy.Sound) occupancySound_empty ?_
  intro request before after sound accepted
  exact (exec_effect accepted).occupancyMoves.sound sound

theorem Db.holds_iff {bookingId : Nat} :
    db.occupancy.Holds bookingId unitId ↔ ∃ booking, db.bookings.find? bookingId = some booking ∧
      booking.unitId = unitId ∧ booking.status.isLive = true := by
  constructor
  · rintro ⟨status, found, live⟩
    obtain ⟨booking, present, same⟩ := Option.map_eq_some_iff.mp found
    cases same
    exact ⟨booking, present, rfl, live⟩
  · rintro ⟨booking, present, rfl, live⟩
    exact ⟨booking.status, occupancy_booking present, live⟩

/-- **A unit has at most one live booking**, and is booked, allotted or registered when it has. -/
theorem one_live_booking_per_unit {db : Db} (reachable : ReachableDb db) :
    (∀ first second booking other, db.bookings.find? first = some booking →
      db.bookings.find? second = some other → booking.status.isLive = true →
      other.status.isLive = true → booking.unitId = other.unitId → first = second) ∧
    ∀ id booking, db.bookings.find? id = some booking → booking.status.isLive = true →
      ∃ unit, db.units.find? booking.unitId = some unit ∧
        (unit.status = .booked ∨ unit.status = .allotted ∨ unit.status = .registered) := by
  have sound := ReachableDb.occupancySound reachable
  constructor
  · intro first second booking other found otherFound live otherLive same
    exact sound.one first second booking.unitId (Db.holds_iff.mpr ⟨booking, found, rfl, live⟩)
      (Db.holds_iff.mpr ⟨other, otherFound, same.symm, otherLive⟩)
  · intro id booking found live
    obtain ⟨status, unitFound, sold⟩ :=
      sound.sold id booking.unitId (Db.holds_iff.mpr ⟨booking, found, rfl, live⟩)
    obtain ⟨unit, present, rfl⟩ := Option.map_eq_some_iff.mp unitFound
    exact ⟨unit, present, by simpa [UnitStatus.isSold] using sold⟩

/-- The unit of the sale has one live booking and is booked. -/
theorem one_live_booking_per_unit_smallSale :
    ∃ unit, (run exec {} smallSale).units.find? 0 = some unit ∧
      (unit.status = .booked ∨ unit.status = .allotted ∨ unit.status = .registered) :=
  (one_live_booking_per_unit (reachable_run _ _)).2 0 _
    (rfl : (run exec {} smallSale).bookings.find? 0 = some _) rfl

/-! ### Booking and unit in step -/

/-- **Booking and unit in step**: every live booking has a unit with the same status. -/
def Db.InStep (db : Db) : Prop :=
  ∀ id booking, db.bookings.find? id = some booking → booking.status.isLive = true →
    ∃ unit, db.units.find? booking.unitId = some unit ∧ unit.status.text = booking.status.text

def reassignsNoAllotted (step : Step Db Request) : Prop :=
  match step.input.op with
  | .transfer fromBookingId dto => dto.transferType = .applicant →
    ∀ booking, step.before.bookings.find? fromBookingId = some booking →
      booking.status ≠ .allotted
  | _ => True

theorem Db.inStep_iff : db.InStep ↔ db.occupancy.InStep := by
  constructor
  · intro inStep id status unitId found live
    obtain ⟨booking, present, same⟩ := Option.map_eq_some_iff.mp found
    cases same
    obtain ⟨unit, unitFound, sameText⟩ := inStep id booking present live
    exact ⟨unit.status, occupancy_unit unitFound, sameText⟩
  · intro inStep id booking found live
    obtain ⟨status, unitFound, sameText⟩ :=
      inStep id booking.status booking.unitId (occupancy_booking found) live
    obtain ⟨unit, present, rfl⟩ := Option.map_eq_some_iff.mp unitFound
    exact ⟨unit, present, sameText⟩

theorem keepsInStep_iff (request : Request) (db after : Db) :
    db.occupancy.KeepsInStep (request.move db) ↔ reassignsNoAllotted ⟨db, request, after⟩ := by
  obtain ⟨masters, op⟩ := request
  cases op with
  | transfer fromBookingId dto =>
    cases kind : dto.transferType with
    | unit => simp [Request.move, reassignsNoAllotted, Occupancy.KeepsInStep, kind]
    | applicant =>
      simp only [Request.move, reassignsNoAllotted, Occupancy.KeepsInStep, kind, true_imp_iff]
      constructor
      · intro keeps booking found allotted
        exact keeps booking.unitId (by rw [occupancy_booking found, allotted])
      · intro keeps unitId found
        obtain ⟨booking, present, same⟩ := Option.map_eq_some_iff.mp found
        exact keeps booking present (Prod.mk.inj same).1
  | _ => exact iff_of_true trivial trivial

/-- **Bookings and units stay in step** through a run exactly as long as no allotted booking goes to
another applicant. -/
theorem booking_and_unit_in_step_iff (requests : List Request) :
    (∀ db ∈ states exec {} requests, db.InStep) ↔
      ∀ step ∈ steps exec {} requests, reassignsNoAllotted step := by
  refine forall_states_iff (fun request before after (sound : before.occupancy.Sound) accepted =>
    (exec_effect accepted).occupancyMoves.sound sound) ?_ requests occupancySound_empty
    (by rintro id booking ⟨⟩)
  intro request before after sound inStep accepted
  have step := (exec_effect accepted).occupancyMoves.inStep_iff sound (Db.inStep_iff.mp inStep)
  exact Db.inStep_iff.trans (step.trans (keepsInStep_iff request before after))

def smallReassigned : Db :=
  run exec {} (smallSale ++
    [⟨{}, .advance 0 .allotted⟩, ⟨{}, .createApplicant⟩, smallTransfer 0 1])

/-- The new booking is booked, its unit is allotted. -/
theorem reassigned_not_in_step : ReachableDb smallReassigned ∧ ¬smallReassigned.InStep := by
  refine ⟨reachable_run _ _, fun inStep => ?_⟩
  obtain ⟨unit, found, same⟩ := inStep 1 _ (rfl : smallReassigned.bookings.find? 1 = some _) rfl
  cases found
  revert same
  decide

end OpenEstate
