/-
**Who occupies which unit.**

Nothing in the tables keeps two bookings off one unit; the status of the unit is the only guard.
`Occupancy` forgets everything of the database but the status and the unit of each booking and the
status of each unit, and `Occupancy.Moves` says what the operations do to them
(`Effect.occupancyMoves`). `Occupancy.Sound` is the invariant behind single occupancy: a live
booking is the only one on its unit, and the unit is sold.
-/

import OpenEstate.Postsales.Change

namespace OpenEstate

open Relational

def BookingStatus.isLive (status : BookingStatus) : Bool :=
  status = .booked ∨ status = .allotted ∨ status = .registered

def UnitStatus.isSold (status : UnitStatus) : Bool :=
  status = .booked ∨ status = .allotted ∨ status = .registered

/-! ### Occupancies -/

/-- The status and the unit of every booking, and the status of every unit. -/
@[ext]
structure Occupancy where
  bookings : Nat → Option (BookingStatus × Nat)
  units : Nat → Option UnitStatus

namespace Occupancy

def setBooking (occupancy : Occupancy) (bookingId : Nat) (status : BookingStatus) (unitId : Nat) :
    Occupancy :=
  { occupancy with
    bookings := Function.update occupancy.bookings bookingId (some (status, unitId)) }

def setUnit (occupancy : Occupancy) (unitId : Nat) (status : UnitStatus) : Occupancy :=
  { occupancy with units := Function.update occupancy.units unitId (some status) }

@[simp] theorem units_setBooking (occupancy : Occupancy) (bookingId : Nat) (status : BookingStatus)
    (unitId : Nat) : (occupancy.setBooking bookingId status unitId).units = occupancy.units := rfl

@[simp] theorem bookings_setUnit (occupancy : Occupancy) (unitId : Nat) (status : UnitStatus) :
    (occupancy.setUnit unitId status).bookings = occupancy.bookings := rfl

theorem bookings_setBooking (occupancy : Occupancy) (bookingId : Nat) (status : BookingStatus)
    (unitId id : Nat) : (occupancy.setBooking bookingId status unitId).bookings id =
      if id = bookingId then some (status, unitId) else occupancy.bookings id := by
  show Function.update _ _ _ _ = _
  rw [Function.update_apply]

theorem units_setUnit (occupancy : Occupancy) (unitId : Nat) (status : UnitStatus) (id : Nat) :
    (occupancy.setUnit unitId status).units id =
      if id = unitId then some status else occupancy.units id := by
  show Function.update _ _ _ _ = _
  rw [Function.update_apply]

theorem units_setUnit_self (occupancy : Occupancy) (unitId : Nat) (status : UnitStatus) :
    (occupancy.setUnit unitId status).units unitId = some status := by
  rw [units_setUnit, if_pos rfl]

theorem setUnit_setUnit (occupancy : Occupancy) (unitId : Nat) (first second : UnitStatus) :
    (occupancy.setUnit unitId first).setUnit unitId second =
      occupancy.setUnit unitId second := by
  ext1
  · rfl
  · exact Function.update_idem _ _ _

def Holds (occupancy : Occupancy) (bookingId unitId : Nat) : Prop :=
  ∃ status, occupancy.bookings bookingId = some (status, unitId) ∧ status.isLive = true

def Free (occupancy : Occupancy) (unitId : Nat) : Prop :=
  ∀ bookingId, ¬occupancy.Holds bookingId unitId

/-! ### Single occupancy -/

/-- **Single occupancy.** A unit that a booking holds is sold, to that booking alone, and it is
registered when the booking is. -/
structure Sound (occupancy : Occupancy) : Prop where
  sold : ∀ bookingId unitId, occupancy.Holds bookingId unitId →
    ∃ status, occupancy.units unitId = some status ∧ status.isSold = true
  one : ∀ first second unitId, occupancy.Holds first unitId → occupancy.Holds second unitId →
    first = second
  registered : ∀ bookingId unitId, occupancy.bookings bookingId = some (.registered, unitId) →
    occupancy.units unitId = some .registered

variable {occupancy : Occupancy} {bookingId unitId : Nat}

theorem Sound.free (sound : occupancy.Sound) {status : UnitStatus}
    (found : occupancy.units unitId = some status) (unsold : status.isSold = false) :
    occupancy.Free unitId := by
  intro id holds
  obtain ⟨other, otherFound, sold⟩ := sound.sold id unitId holds
  rw [found] at otherFound
  cases otherFound
  rw [unsold] at sold
  cases sold

variable {status : BookingStatus}

theorem holds_setBooking {id otherUnitId : Nat} :
    (occupancy.setBooking bookingId status unitId).Holds id otherUnitId ↔
      (id = bookingId ∧ otherUnitId = unitId ∧ status.isLive = true) ∨
        (id ≠ bookingId ∧ occupancy.Holds id otherUnitId) := by
  unfold Holds
  rw [bookings_setBooking]
  by_cases same : id = bookingId
  · rw [if_pos same]
    constructor
    · rintro ⟨other, found, live⟩
      cases found
      exact Or.inl ⟨same, rfl, live⟩
    · rintro (⟨_, rfl, live⟩ | ⟨different, _⟩)
      · exact ⟨status, rfl, live⟩
      · exact absurd same different
  · rw [if_neg same]
    simp [same]

theorem Sound.free_of_ended (sound : occupancy.Sound) (holds : occupancy.Holds bookingId unitId)
    (ended : status.isLive = false) :
    (occupancy.setBooking bookingId status unitId).Free unitId := by
  intro id other
  rcases holds_setBooking.mp other with ⟨_, _, live⟩ | ⟨different, otherHolds⟩
  · rw [ended] at live
    cases live
  · exact different (sound.one id bookingId unitId otherHolds holds)

theorem Sound.ended (sound : occupancy.Sound)
    (ended : status.isLive = false) : (occupancy.setBooking bookingId status unitId).Sound where
  sold := by
    intro id otherUnitId holds
    rcases holds_setBooking.mp holds with ⟨_, _, live⟩ | ⟨_, otherHolds⟩
    · rw [ended] at live
      cases live
    · exact sound.sold id otherUnitId otherHolds
  one := by
    intro first second otherUnitId firstHolds secondHolds
    rcases holds_setBooking.mp firstHolds with ⟨_, _, live⟩ | ⟨_, firstHeld⟩
    · rw [ended] at live
      cases live
    · rcases holds_setBooking.mp secondHolds with ⟨_, _, live⟩ | ⟨_, secondHeld⟩
      · rw [ended] at live
        cases live
      · exact sound.one first second otherUnitId firstHeld secondHeld
  registered := by
    intro id otherUnitId found
    rw [bookings_setBooking] at found
    split at found
    · cases found
      cases ended
    · exact sound.registered id otherUnitId found

theorem Sound.setUnit_of_free (sound : occupancy.Sound) (free : occupancy.Free unitId)
    (status : UnitStatus) : (occupancy.setUnit unitId status).Sound where
  sold := by
    intro id otherUnitId holds
    have holds : occupancy.Holds id otherUnitId := holds
    have different : otherUnitId ≠ unitId := by
      rintro rfl
      exact free id holds
    rw [units_setUnit, if_neg different]
    exact sound.sold id otherUnitId holds
  one := sound.one
  registered := by
    intro id otherUnitId found
    have different : otherUnitId ≠ unitId := by
      rintro rfl
      exact free id ⟨.registered, found, rfl⟩
    rw [units_setUnit, if_neg different]
    exact sound.registered id otherUnitId found

theorem Sound.occupied (sound : occupancy.Sound) {unitStatus : UnitStatus}
    (others : ∀ id, occupancy.Holds id unitId → id = bookingId)
    (found : occupancy.units unitId = some unitStatus) (sold : unitStatus.isSold = true)
    (registered : status = .registered → unitStatus = .registered) :
    (occupancy.setBooking bookingId status unitId).Sound where
  sold := by
    intro id otherUnitId holds
    rcases holds_setBooking.mp holds with ⟨_, rfl, _⟩ | ⟨_, otherHolds⟩
    · exact ⟨unitStatus, found, sold⟩
    · exact sound.sold id otherUnitId otherHolds
  one := by
    intro first second otherUnitId firstHolds secondHolds
    rcases holds_setBooking.mp firstHolds with ⟨rfl, rfl, _⟩ | ⟨firstOther, firstHeld⟩ <;>
      rcases holds_setBooking.mp secondHolds with ⟨rfl, same, _⟩ | ⟨secondOther, secondHeld⟩
    · rfl
    · exact absurd (others second secondHeld) secondOther
    · subst same
      exact absurd (others first firstHeld) firstOther
    · exact sound.one first second otherUnitId firstHeld secondHeld
  registered := by
    intro id otherUnitId present
    rw [bookings_setBooking] at present
    split at present
    · cases present
      rw [units_setBooking, found, registered rfl]
    · exact sound.registered id otherUnitId present

/-! ### Moves -/

inductive Move
  | stay
  | enter (unitId : Nat)
  | shift (unitId : Nat) (toStatus : UnitStatus)
  | book (bookingId unitId : Nat)
  | advance (bookingId : Nat) (target : BookingAdvance)
  | reassign (fromBookingId toBookingId : Nat)
  | relocate (fromBookingId toBookingId toUnitId : Nat)
  | vacate (bookingId : Nat) (status : BookingStatus)

def release (occupancy : Occupancy) (unitId : Nat) : Occupancy :=
  { occupancy with
    units := Function.update occupancy.units unitId
      ((occupancy.units unitId).map fun _ => .available) }

def Bookable (occupancy : Occupancy) (unitId : Nat) : Prop :=
  ∃ status, occupancy.units unitId = some status ∧ (status = .available ∨ status = .held)

/-- **The moves**: a unit is entered, moved by a user or booked; a booking advances with its unit,
goes to another applicant who keeps the unit, goes to another unit, or ends. -/
inductive Moves (before : Occupancy) : Move → Occupancy → Prop
  | stay : Moves before .stay before
  | enter (id : Nat) (fresh : before.units id = none) :
    Moves before (.enter id) (before.setUnit id .available)
  | shift (id : Nat) (fromStatus toStatus : UnitStatus) (found : before.units id = some fromStatus)
    (valid : isValidTransition fromStatus toStatus = true)
    (manual : isSystemOnlyTarget toStatus = false) :
    Moves before (.shift id toStatus) (before.setUnit id toStatus)
  | book (newId onUnitId : Nat) (fresh : before.bookings newId = none)
    (bookable : before.Bookable onUnitId) :
    Moves before (.book newId onUnitId)
      ((before.setUnit onUnitId .booked).setBooking newId .booked onUnitId)
  | advance (id : Nat) (target : BookingAdvance) (ofUnitId : Nat) (fromStatus : UnitStatus)
    (found : before.bookings id = some (target.expectedFrom, ofUnitId))
    (unitFound : before.units ofUnitId = some fromStatus)
    (valid : isValidTransition fromStatus target.unitStatus = true) :
    Moves before (.advance id target)
      ((before.setBooking id target.status ofUnitId).setUnit ofUnitId target.unitStatus)
  | reassign (fromId newId : Nat) (status : BookingStatus) (ofUnitId : Nat)
    (found : before.bookings fromId = some (status, ofUnitId))
    (transferable : status = .booked ∨ status = .allotted)
    (fresh : before.bookings newId = none) :
    Moves before (.reassign fromId newId)
      ((before.setBooking fromId .transferredOut ofUnitId).setBooking newId .booked ofUnitId)
  | relocate (fromId newId : Nat) (status : BookingStatus) (ofUnitId toUnitId : Nat)
    (found : before.bookings fromId = some (status, ofUnitId))
    (transferable : status = .booked ∨ status = .allotted)
    (fresh : before.bookings newId = none) (bookable : before.Bookable toUnitId) :
    Moves before (.relocate fromId newId toUnitId)
      ((((before.setBooking fromId .transferredOut ofUnitId).setUnit ofUnitId .available).setUnit
        toUnitId .booked).setBooking newId .booked toUnitId)
  | vacate (id : Nat) (status newStatus : BookingStatus) (ofUnitId : Nat)
    (found : before.bookings id = some (status, ofUnitId)) (live : status.isLive = true)
    (ended : newStatus.isLive = false) :
    Moves before (.vacate id newStatus) ((before.setBooking id newStatus ofUnitId).release ofUnitId)

theorem unsold_of_manual {fromStatus toStatus : UnitStatus}
    (valid : isValidTransition fromStatus toStatus = true)
    (manual : isSystemOnlyTarget toStatus = false) : fromStatus.isSold = false := by
  cases fromStatus <;> cases toStatus <;> simp_all [isValidTransition, unitTransitions,
    isSystemOnlyTarget, systemOnlyTargetStatuses, UnitStatus.isSold]

theorem Bookable.free (bookable : occupancy.Bookable unitId) (sound : occupancy.Sound) :
    occupancy.Free unitId := by
  obtain ⟨status, found, available | held⟩ := bookable
  · exact sound.free found (by rw [available]; rfl)
  · exact sound.free found (by rw [held]; rfl)

theorem Bookable.free_of_ended {toUnitId : Nat} (bookable : occupancy.Bookable toUnitId)
    (sound : occupancy.Sound) (ended : status.isLive = false) :
    (occupancy.setBooking bookingId status unitId).Free toUnitId := by
  intro holder holds
  rcases holds_setBooking.mp holds with ⟨_, _, live⟩ | ⟨_, held⟩
  · rw [ended] at live
    cases live
  · exact bookable.free sound holder held

theorem sold_unitStatus (target : BookingAdvance) : target.unitStatus.isSold = true := by
  cases target <;> rfl

theorem live_expectedFrom (target : BookingAdvance) : target.expectedFrom.isLive = true := by
  cases target <;> rfl

theorem live_of_transferable
    (transferable : status = .booked ∨ status = .allotted) : status.isLive = true := by
  rcases transferable with rfl | rfl <;> rfl

theorem setBooking_setUnit_setBooking (first second : BookingStatus) (status : UnitStatus) :
    ((occupancy.setBooking bookingId first unitId).setUnit unitId status).setBooking bookingId second
        unitId = (occupancy.setBooking bookingId second unitId).setUnit unitId status := by
  ext1
  · exact Function.update_idem _ _ _
  · rfl

theorem Sound.release_eq (sound : occupancy.Sound) (holds : occupancy.Holds bookingId unitId)
    (status : BookingStatus) : (occupancy.setBooking bookingId status unitId).release unitId =
      (occupancy.setBooking bookingId status unitId).setUnit unitId .available := by
  obtain ⟨unitStatus, found, _⟩ := sound.sold bookingId unitId holds
  unfold release setUnit
  rw [units_setBooking, found]
  rfl

/-- **Every move keeps single occupancy.** -/
theorem Moves.sound {move : Move} {before after : Occupancy} (moves : before.Moves move after)
    (sound : before.Sound) : after.Sound := by
  cases moves with
  | stay => exact sound
  | enter id fresh =>
    refine sound.setUnit_of_free (fun holder holds => ?_) .available
    obtain ⟨status, found, _⟩ := sound.sold holder id holds
    rw [fresh] at found
    cases found
  | shift id fromStatus toStatus found valid manual =>
    exact sound.setUnit_of_free (sound.free found (unsold_of_manual valid manual)) toStatus
  | book newId onUnitId fresh bookable =>
    have free := bookable.free sound
    have booked := sound.setUnit_of_free free .booked
    exact booked.occupied (fun holder holds => absurd holds (free holder))
      (units_setUnit_self before onUnitId .booked) rfl nofun
  | advance id target ofUnitId fromStatus found unitFound valid =>
    -- the booking lets go of its unit for a moment
    have holds : before.Holds id ofUnitId := ⟨target.expectedFrom, found, live_expectedFrom target⟩
    have ended : BookingStatus.cancelled.isLive = false := rfl
    have gone : (before.setBooking id .cancelled ofUnitId).Sound := sound.ended ended
    have free := sound.free_of_ended holds ended
    have moved := gone.setUnit_of_free free target.unitStatus
    rw [← setBooking_setUnit_setBooking .cancelled]
    refine moved.occupied (fun holder other => absurd other (free holder))
      (units_setUnit_self _ ofUnitId target.unitStatus) (sold_unitStatus target) ?_
    cases target
    · nofun
    · exact fun _ => rfl
  | reassign fromId newId status ofUnitId found transferable fresh =>
    have holds : before.Holds fromId ofUnitId :=
      ⟨status, found, live_of_transferable transferable⟩
    obtain ⟨unitStatus, unitFound, sold⟩ := sound.sold fromId ofUnitId holds
    have ended : BookingStatus.transferredOut.isLive = false := rfl
    have free := sound.free_of_ended holds ended
    exact (sound.ended ended).occupied (fun holder other => absurd other (free holder)) unitFound sold
      nofun
  | relocate fromId newId status ofUnitId toUnitId found transferable fresh bookable =>
    have holds : before.Holds fromId ofUnitId :=
      ⟨status, found, live_of_transferable transferable⟩
    have ended : BookingStatus.transferredOut.isLive = false := rfl
    have free := sound.free_of_ended holds ended
    have left := (sound.ended ended).setUnit_of_free free .available
    have stillFree : (before.setBooking fromId .transferredOut ofUnitId).Free toUnitId :=
      bookable.free_of_ended sound ended
    exact (left.setUnit_of_free stillFree .booked).occupied
      (fun holder other => absurd other (stillFree holder))
      (units_setUnit_self _ toUnitId .booked) rfl nofun
  | vacate id status newStatus ofUnitId found live ended =>
    have holds : before.Holds id ofUnitId := ⟨status, found, live⟩
    rw [sound.release_eq holds]
    exact (sound.ended ended).setUnit_of_free (sound.free_of_ended holds ended) .available

/-! ### Bookings and units in step -/

/-- **In step**: the unit of a live booking has the status of the booking. -/
def InStep (occupancy : Occupancy) : Prop :=
  ∀ bookingId status unitId, occupancy.bookings bookingId = some (status, unitId) →
    status.isLive = true →
    ∃ unitStatus, occupancy.units unitId = some unitStatus ∧ unitStatus.text = status.text

theorem InStep.ended (inStep : occupancy.InStep)
    (ended : status.isLive = false) : (occupancy.setBooking bookingId status unitId).InStep := by
  intro id other otherUnitId found live
  rw [bookings_setBooking] at found
  split at found
  · cases found
    rw [ended] at live
    cases live
  · exact inStep id other otherUnitId found live

theorem InStep.setUnit_of_free (inStep : occupancy.InStep) (free : occupancy.Free unitId)
    (status : UnitStatus) : (occupancy.setUnit unitId status).InStep := by
  intro id other otherUnitId found live
  have different : otherUnitId ≠ unitId := by
    rintro rfl
    exact free id ⟨other, found, live⟩
  rw [units_setUnit, if_neg different]
  exact inStep id other otherUnitId found live

theorem InStep.setBooking_iff (inStep : occupancy.InStep) {unitStatus : UnitStatus}
    (live : status.isLive = true) (found : occupancy.units unitId = some unitStatus) :
    (occupancy.setBooking bookingId status unitId).InStep ↔ unitStatus.text = status.text := by
  constructor
  · intro after
    have own : (occupancy.setBooking bookingId status unitId).bookings bookingId =
        some (status, unitId) := by
      rw [bookings_setBooking, if_pos rfl]
    obtain ⟨other, otherFound, same⟩ := after bookingId status unitId own live
    rw [units_setBooking, found] at otherFound
    cases otherFound
    exact same
  · intro same id other otherUnitId present otherLive
    rw [bookings_setBooking] at present
    split at present
    · cases present
      exact ⟨unitStatus, found, same⟩
    · exact inStep id other otherUnitId present otherLive

/-- A move that leaves bookings and units in step: any but giving an allotted booking to another
applicant. -/
def KeepsInStep (before : Occupancy) : Move → Prop
  | .reassign fromId _ => ∀ ofUnitId, before.bookings fromId ≠ some (.allotted, ofUnitId)
  | _ => True

theorem text_unitStatus (target : BookingAdvance) : target.unitStatus.text = target.status.text := by
  cases target <;> rfl

theorem live_status (target : BookingAdvance) : target.status.isLive = true := by
  cases target <;> rfl

/-- **Move by move**, bookings and units stay in step exactly when no allotted booking is given to
another applicant. -/
theorem Moves.inStep_iff {move : Move} {before after : Occupancy} (moves : before.Moves move after)
    (sound : before.Sound) (inStep : before.InStep) :
    after.InStep ↔ before.KeepsInStep move := by
  cases moves with
  | stay => exact iff_of_true inStep trivial
  | enter id fresh =>
    refine iff_of_true (inStep.setUnit_of_free (fun holder holds => ?_) .available) trivial
    obtain ⟨status, found, _⟩ := sound.sold holder id holds
    rw [fresh] at found
    cases found
  | shift id fromStatus toStatus found valid manual =>
    have free := sound.free found (unsold_of_manual valid manual)
    exact iff_of_true (inStep.setUnit_of_free free toStatus) trivial
  | book newId onUnitId fresh bookable =>
    have booked := inStep.setUnit_of_free (bookable.free sound) .booked
    have unitFound := units_setUnit_self before onUnitId .booked
    exact iff_of_true ((booked.setBooking_iff rfl unitFound).mpr rfl) trivial
  | advance id target ofUnitId fromStatus found unitFound valid =>
    have holds : before.Holds id ofUnitId := ⟨target.expectedFrom, found, live_expectedFrom target⟩
    have ended : BookingStatus.cancelled.isLive = false := rfl
    have gone : (before.setBooking id .cancelled ofUnitId).InStep := inStep.ended ended
    have moved := gone.setUnit_of_free (sound.free_of_ended holds ended) target.unitStatus
    have unitMoved := units_setUnit_self (before.setBooking id .cancelled ofUnitId) ofUnitId
      target.unitStatus
    rw [← setBooking_setUnit_setBooking .cancelled]
    exact iff_of_true ((moved.setBooking_iff (live_status target) unitMoved).mpr
      (text_unitStatus target)) trivial
  | reassign fromId newId status ofUnitId found transferable fresh =>
    have ended : BookingStatus.transferredOut.isLive = false := rfl
    have left : (before.setBooking fromId .transferredOut ofUnitId).InStep := inStep.ended ended
    obtain ⟨unitStatus, unitFound, same⟩ :=
      inStep fromId status ofUnitId found (live_of_transferable transferable)
    refine Iff.trans (left.setBooking_iff rfl unitFound) ?_
    show unitStatus.text = _ ↔ ∀ other, before.bookings fromId ≠ some (.allotted, other)
    rw [same, found]
    rcases transferable with rfl | rfl <;> simp [BookingStatus.text]
  | relocate fromId newId status ofUnitId toUnitId found transferable fresh bookable =>
    have holds : before.Holds fromId ofUnitId :=
      ⟨status, found, live_of_transferable transferable⟩
    have ended : BookingStatus.transferredOut.isLive = false := rfl
    have left : (before.setBooking fromId .transferredOut ofUnitId).InStep := inStep.ended ended
    have released := left.setUnit_of_free (sound.free_of_ended holds ended) .available
    have booked := released.setUnit_of_free (bookable.free_of_ended sound ended) .booked
    have unitBooked := units_setUnit_self ((before.setBooking fromId .transferredOut
      ofUnitId).setUnit ofUnitId .available) toUnitId .booked
    exact iff_of_true ((booked.setBooking_iff rfl unitBooked).mpr rfl) trivial
  | vacate id status newStatus ofUnitId found live ended =>
    have holds : before.Holds id ofUnitId := ⟨status, found, live⟩
    rw [sound.release_eq holds]
    exact iff_of_true ((inStep.ended ended).setUnit_of_free
      (sound.free_of_ended holds ended) .available) trivial

end Occupancy

end OpenEstate
