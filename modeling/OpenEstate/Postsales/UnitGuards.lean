/-
**The guards of the bookings and the unit state machine.**

Allotting, registering, cancelling and transferring a booking check the status of the booking, and
then move its unit, which has a table of transitions of its own. The two agree as long as every
booking is in step with its unit and none is registered (`guardsAgree_iff`): a registered unit has
no transition, though a registered booking may be cancelled.
-/

import OpenEstate.Postsales.UnitStatus

namespace OpenEstate

open Relational

/-! ### What the operations need of the units -/

theorem transitionUnit_of_valid {db : Db} {unitId : Nat} {unit : EstateUnit} {toStatus : UnitStatus}
    {reason : String} (found : db.units.find? unitId = some unit)
    (valid : isValidTransition unit.status toStatus = true) (given : (reason != "") = true) :
    transitionUnit unitId toStatus .system (some reason) db =
      .ok (db.setUnitStatus unitId toStatus) := by
  have reasoned : toStatus ∈ reasonRequiredStatuses → (some reason).any (· != "") = true :=
    fun _ => given
  have system : ¬(ActorType.system = .user ∧ isSystemOnlyTarget toStatus = true) := by
    rintro ⟨impossible, _⟩
    cases impossible
  unfold transitionUnit
  rw [ensure_bind reasoned, ensure_bind system, found]
  show ensure _ _ >>= _ = _
  rw [ensure_bind valid]
  rfl

theorem find?_setUnitStatus {db : Db} {unitId : Nat} {unit : EstateUnit}
    (found : db.units.find? unitId = some unit) (status : UnitStatus) :
    (db.setUnitStatus unitId status).units.find? unitId = some { unit with status } := by
  show (db.units.modify unitId _).find? unitId = _
  rw [Table.find?_modify_self, found, Option.map_some]

theorem find?_setUnitStatus_of_ne (db : Db) {unitId id : Nat} (different : id ≠ unitId)
    (status : UnitStatus) : (db.setUnitStatus unitId status).units.find? id = db.units.find? id :=
  Table.find?_modify_of_ne db.units _ different

theorem cancel_and_release {db : Db} {unitId : Nat} {unit : EstateUnit} {reason : String}
    (found : db.units.find? unitId = some unit)
    (valid : isValidTransition unit.status .cancelled = true) (given : (reason != "") = true) :
    (transitionUnit unitId .cancelled .system (some reason) db >>= fun cancelled =>
      transitionUnit unitId .available .system (some reason) cancelled) =
        .ok ((db.setUnitStatus unitId .cancelled).setUnitStatus unitId .available) := by
  have released : isValidTransition .cancelled .available = true := rfl
  rw [transitionUnit_of_valid found valid given]
  exact transitionUnit_of_valid (find?_setUnitStatus found .cancelled) released given

/-! ### Guards that agree with the machine -/

/-- **What the guards admit goes through**: a booking whose status admits an operation is not
refused by the unit state machine afterwards. -/
structure Db.GuardsAgree (db : Db) : Prop where
  advance : ∀ bookingId booking target, db.bookings.find? bookingId = some booking →
    booking.status = target.expectedFrom → ∃ after, advance bookingId target db = .ok after
  cancel : ∀ masters bookingId booking dto deduction,
    db.bookings.find? bookingId = some booking →
    booking.status = .booked ∨ booking.status = .allotted ∨ booking.status = .registered →
    cancellationDeduction masters bookingId booking dto db = .ok deduction →
    ∃ after, cancel masters bookingId dto db = .ok after
  transfer : ∀ masters bookingId booking dto fee target,
    db.bookings.find? bookingId = some booking →
    booking.status = .booked ∨ booking.status = .allotted → checkTransferDto dto = .ok () →
    transferFee masters dto booking = .ok fee → transferTarget dto booking db = .ok target →
    ∃ after, transfer masters bookingId dto db = .ok after

def Db.NoneRegistered (db : Db) : Prop :=
  ∀ id booking, db.bookings.find? id = some booking → booking.status ≠ .registered

theorem Db.InStep.unit {db : Db} (inStep : db.InStep) (status : UnitStatus) {id : Nat}
    {booking : Booking} (found : db.bookings.find? id = some booking)
    (live : booking.status.isLive = true) (same : status.text = booking.status.text) :
    ∃ unit, db.units.find? booking.unitId = some unit ∧ unit.status = status := by
  obtain ⟨unit, present, sameText⟩ := inStep id booking found live
  rw [← same] at sameText
  exact ⟨unit, present, UnitStatus.text_injective sameText⟩

theorem Db.InStep.cancellable {db : Db} (inStep : db.InStep) {id : Nat} {booking : Booking}
    (found : db.bookings.find? id = some booking)
    (transferable : booking.status = .booked ∨ booking.status = .allotted) :
    ∃ unit, db.units.find? booking.unitId = some unit ∧
      (unit.status = .booked ∨ unit.status = .allotted) ∧
      isValidTransition unit.status .cancelled = true := by
  have live := Occupancy.live_of_transferable transferable
  rcases transferable with booked | allotted
  · obtain ⟨unit, present, same⟩ := inStep.unit .booked found live (by rw [booked]; rfl)
    exact ⟨unit, present, Or.inl same, by rw [same]; rfl⟩
  · obtain ⟨unit, present, same⟩ := inStep.unit .allotted found live (by rw [allotted]; rfl)
    exact ⟨unit, present, Or.inr same, by rw [same]; rfl⟩

theorem Db.InStep.advances {db : Db} (inStep : db.InStep) {id : Nat} {booking : Booking}
    (found : db.bookings.find? id = some booking) {target : BookingAdvance}
    (expected : booking.status = target.expectedFrom) :
    ∃ unit, db.units.find? booking.unitId = some unit ∧
      isValidTransition unit.status target.unitStatus = true := by
  have live : booking.status.isLive = true := by
    rw [expected]
    exact Occupancy.live_expectedFrom target
  cases target with
  | allotted =>
    obtain ⟨unit, present, same⟩ := inStep.unit .booked found live (by rw [expected]; rfl)
    exact ⟨unit, present, by rw [same]; rfl⟩
  | registered =>
    obtain ⟨unit, present, same⟩ := inStep.unit .allotted found live (by rw [expected]; rfl)
    exact ⟨unit, present, by rw [same]; rfl⟩

theorem releaseUnit_of_valid {db : Db} {unitId : Nat} {unit : EstateUnit}
    (found : db.units.find? unitId = some unit)
    (sold : unit.status = .booked ∨ unit.status = .allotted)
    (valid : isValidTransition unit.status .cancelled = true) :
    ∃ after, releaseUnit unitId db = .ok after := by
  have taken : unit.status ≠ .available ∧ unit.status ≠ .cancelled := by
    rcases sold with booked | allotted
    · rw [booked]
      decide
    · rw [allotted]
      decide
  unfold releaseUnit
  simp only [found, if_neg taken.1, if_neg taken.2]
  exact ⟨_, cancel_and_release found valid rfl⟩

theorem moveUnits_of_valid {db : Db} {kind : TransferType} {fromUnitId toUnitId : Nat}
    {unit : EstateUnit} (found : db.units.find? fromUnitId = some unit)
    (sold : unit.status = .booked ∨ unit.status = .allotted)
    (valid : isValidTransition unit.status .cancelled = true)
    (bookable : kind = .unit → db.occupancy.Bookable toUnitId) :
    ∃ after, moveUnits kind fromUnitId toUnitId db = .ok after := by
  cases kind with
  | applicant => exact ⟨db, rfl⟩
  | unit =>
    obtain ⟨status, toFound, free⟩ := bookable rfl
    obtain ⟨toUnit, present, rfl⟩ := Option.map_eq_some_iff.mp toFound
    have different : toUnitId ≠ fromUnitId := by
      rintro rfl
      rw [found] at present
      cases present
      rcases sold with sold | sold <;> rcases free with free | free <;> rw [sold] at free <;>
        cases free
    have toValid : isValidTransition toUnit.status .booked = true := by
      rcases free with available | held
      · rw [available]
        rfl
      · rw [held]
        rfl
    have kept : ((db.setUnitStatus fromUnitId .cancelled).setUnitStatus fromUnitId
        .available).units.find? toUnitId = some toUnit := by
      rw [find?_setUnitStatus_of_ne _ different, find?_setUnitStatus_of_ne _ different, present]
    unfold moveUnits
    rw [← bind_assoc, cancel_and_release found valid rfl]
    have given : ("Transfer" != "") = true := rfl
    exact ⟨_, transitionUnit_of_valid kept toValid given⟩

/-- **Bookings in step, none registered: the guards agree with the machine.** -/
theorem Db.InStep.guardsAgree {db : Db} (inStep : db.InStep) (none : db.NoneRegistered) :
    db.GuardsAgree := by
  constructor
  case advance =>
    intro bookingId booking target found expected
    obtain ⟨unit, present, valid⟩ := inStep.advances found expected
    have kept : (db.setBookingStatus bookingId target.status).units.find? booking.unitId =
        some unit := present
    unfold OpenEstate.advance
    rw [found]
    show ∃ after, ensure _ _ >>= _ = Except.ok after
    rw [ensure_bind expected]
    exact ⟨_, transitionUnit_of_valid kept valid rfl⟩
  case cancel =>
    intro masters bookingId booking dto deduction found cancellable deducted
    have transferable : booking.status = .booked ∨ booking.status = .allotted := by
      rcases cancellable with booked | allotted | registered
      · exact Or.inl booked
      · exact Or.inr allotted
      · exact absurd registered (none bookingId booking found)
    obtain ⟨unit, present, sold, valid⟩ := inStep.cancellable found transferable
    have kept : (db.settle bookingId dto deduction).units.find? booking.unitId = some unit := present
    unfold OpenEstate.cancel
    rw [found]
    show ∃ after, ensure _ _ >>= _ = Except.ok after
    rw [ensure_bind cancellable, deducted]
    exact releaseUnit_of_valid kept sold valid
  case transfer =>
    intro masters bookingId booking dto fee target found transferable named charged targeted
    obtain ⟨unitId, applicantId⟩ := target
    obtain ⟨unit, present, sold, valid⟩ := inStep.cancellable found transferable
    unfold OpenEstate.transfer
    rw [found]
    show ∃ after, ensure _ _ >>= _ = Except.ok after
    rw [ensure_bind transferable, named]
    show ∃ after, transferFee masters dto booking >>= _ = Except.ok after
    rw [charged]
    show ∃ after, transferTarget dto booking db >>= _ = Except.ok after
    rw [targeted]
    have kept : (db.carryOver bookingId (transferredBooking masters booking unitId applicantId)
        (db.balance bookingId) fee).units.find? booking.unitId = some unit := present
    obtain ⟨after, moved⟩ := moveUnits_of_valid kept sold valid fun kind => by
      obtain ⟨_, status, unitFound, bookable⟩ := transferTarget_unit_eq_ok kind targeted
      exact ⟨status, unitFound, bookable⟩
    show ∃ after, moveUnits _ _ _ _ >>= _ = Except.ok after
    rw [moved]
    exact ⟨_, rfl⟩

theorem releaseUnit_of_registered {db : Db} {unitId : Nat} {unit : EstateUnit}
    (found : db.units.find? unitId = some unit) (registered : unit.status = .registered) :
    ¬∃ after, releaseUnit unitId db = .ok after := by
  rintro ⟨after, accepted⟩
  unfold releaseUnit at accepted
  simp only [found, registered, reduceCtorEq, if_false] at accepted
  rw [bind_eq_ok] at accepted
  obtain ⟨_, cancelled, _⟩ := accepted
  obtain ⟨other, present, valid, _⟩ := transitionUnit_eq_ok cancelled
  rw [found] at present
  cases present
  rw [registered] at valid
  cases valid

theorem text_of_valid {target : BookingAdvance} {status : UnitStatus}
    (valid : isValidTransition status target.unitStatus = true) :
    status.text = target.expectedFrom.text := by
  revert valid
  cases target <;> cases status <;> decide

/-- **The guards agree with the machine exactly when** every live booking is in step with its unit
and none is registered. -/
theorem guardsAgree_iff {db : Db} (sound : db.occupancy.Sound) :
    db.GuardsAgree ↔ db.InStep ∧ db.NoneRegistered := by
  constructor
  · intro agree
    have none : db.NoneRegistered := by
      intro id booking found registered
      have unitRegistered := sound.registered id booking.unitId
        (by rw [occupancy_booking found, registered])
      obtain ⟨unit, present, status⟩ := Option.map_eq_some_iff.mp unitRegistered
      obtain ⟨after, accepted⟩ := agree.cancel {} id booking { cancellationType := .cancel } 0 found
        (Or.inr (Or.inr registered)) rfl
      obtain ⟨other, deduction, otherFound, _, _, released⟩ := cancel_eq_ok accepted
      rw [found] at otherFound
      cases otherFound
      have kept : (db.settle id { cancellationType := .cancel } deduction).units.find?
          booking.unitId = some unit := present
      exact releaseUnit_of_registered kept status ⟨after, released⟩
    refine ⟨fun id booking found live => ?_, none⟩
    have advances : ∀ target : BookingAdvance, booking.status = target.expectedFrom →
        ∃ unit, db.units.find? booking.unitId = some unit ∧
          unit.status.text = booking.status.text := by
      intro target expected
      obtain ⟨after, accepted⟩ := agree.advance id booking target found expected
      obtain ⟨other, unit, otherFound, _, present, valid, _⟩ := advance_eq_ok accepted
      rw [found] at otherFound
      cases otherFound
      exact ⟨unit, present, by rw [expected, text_of_valid valid]⟩
    have cases : booking.status = .booked ∨ booking.status = .allotted ∨
        booking.status = .registered := by simpa [BookingStatus.isLive] using live
    rcases cases with booked | allotted | registered
    · exact advances .allotted booked
    · exact advances .registered allotted
    · exact absurd registered (none id booking found)
  · rintro ⟨inStep, none⟩
    exact inStep.guardsAgree none

/-! ### Runs -/

namespace Occupancy

def NoneRegistered (occupancy : Occupancy) : Prop :=
  ∀ bookingId unitId, occupancy.bookings bookingId ≠ some (.registered, unitId)

def RegistersNone : Move → Prop
  | .advance _ .registered => False
  | _ => True

variable {occupancy : Occupancy} {bookingId unitId : Nat}

theorem NoneRegistered.setBooking (none : occupancy.NoneRegistered) {status : BookingStatus}
    (other : status ≠ .registered) :
    (occupancy.setBooking bookingId status unitId).NoneRegistered := by
  intro id otherUnitId found
  rw [bookings_setBooking] at found
  split at found
  · cases found
    exact other rfl
  · exact none id otherUnitId found

/-- **Move by move**, bookings stay unregistered exactly when none is registered. -/
theorem Moves.noneRegistered_iff {move : Move} {before after : Occupancy}
    (moves : before.Moves move after) (none : before.NoneRegistered) :
    after.NoneRegistered ↔ RegistersNone move := by
  cases moves with
  | advance id target ofUnitId =>
    cases target with
    | allotted =>
      refine iff_of_true ?_ trivial
      show (before.setBooking id .allotted ofUnitId).NoneRegistered
      exact none.setBooking nofun
    | registered =>
      refine iff_of_false (fun after => after id ofUnitId ?_) not_false
      rw [bookings_setUnit, bookings_setBooking, if_pos rfl]
      rfl
  | book newId onUnitId =>
    have entered : (before.setUnit onUnitId .booked).NoneRegistered := none
    refine iff_of_true ?_ trivial
    exact entered.setBooking nofun
  | reassign fromId newId status ofUnitId =>
    have left : (before.setBooking fromId .transferredOut ofUnitId).NoneRegistered :=
      none.setBooking nofun
    refine iff_of_true ?_ trivial
    exact left.setBooking nofun
  | relocate fromId newId status ofUnitId toUnitId =>
    have left : (((before.setBooking fromId .transferredOut ofUnitId).setUnit ofUnitId
        .available).setUnit toUnitId .booked).NoneRegistered := by
      show (before.setBooking fromId .transferredOut ofUnitId).NoneRegistered
      exact none.setBooking nofun
    refine iff_of_true ?_ trivial
    exact left.setBooking nofun
  | vacate id status newStatus ofUnitId found live ended =>
    have other : newStatus ≠ .registered := by
      rintro rfl
      cases ended
    refine iff_of_true ?_ trivial
    show (before.setBooking id newStatus ofUnitId).NoneRegistered
    exact none.setBooking other
  | _ => exact iff_of_true none trivial

end Occupancy

def registersNone (step : Step Db Request) : Prop :=
  match step.input.op with
  | .advance _ .registered => False
  | _ => True

theorem Db.noneRegistered_iff {db : Db} : db.NoneRegistered ↔ db.occupancy.NoneRegistered := by
  constructor
  · intro none id unitId found
    obtain ⟨booking, present, same⟩ := Option.map_eq_some_iff.mp found
    exact none id booking present (Prod.mk.inj same).1
  · intro none id booking found registered
    exact none id booking.unitId (by rw [occupancy_booking found, registered])

theorem registersNone_iff (request : Request) (db after : Db) :
    Occupancy.RegistersNone (request.move db) ↔ registersNone ⟨db, request, after⟩ := by
  obtain ⟨masters, op⟩ := request
  cases op with
  | advance bookingId target => cases target <;> exact Iff.rfl
  | transfer fromBookingId dto =>
    cases kind : dto.transferType <;>
      simp [Request.move, registersNone, Occupancy.RegistersNone, kind]
  | _ => exact iff_of_true trivial trivial

/-- **The guards agree with the unit state machine** throughout a run exactly as long as no booking
is registered and no allotted booking goes to another applicant. -/
theorem guards_agree_iff (requests : List Request) :
    (∀ db ∈ states exec {} requests, db.GuardsAgree) ↔
      ∀ step ∈ steps exec {} requests, reassignsNoAllotted step ∧ registersNone step := by
  have initially : ({} : Db).GuardsAgree :=
    (guardsAgree_iff occupancySound_empty).mpr ⟨by rintro id booking ⟨⟩, by rintro id booking ⟨⟩⟩
  refine forall_states_iff (fun request before after (sound : before.occupancy.Sound) accepted =>
    (exec_effect accepted).occupancyMoves.sound sound) ?_ requests occupancySound_empty initially
  intro request before after sound agree accepted
  obtain ⟨inStep, none⟩ := (guardsAgree_iff sound).mp agree
  have moves := (exec_effect accepted).occupancyMoves
  refine (guardsAgree_iff (moves.sound sound)).trans (and_congr ?_ ?_)
  · have step := moves.inStep_iff sound (Db.inStep_iff.mp inStep)
    exact Db.inStep_iff.trans (step.trans (keepsInStep_iff request before after))
  · have step := moves.noneRegistered_iff (Db.noneRegistered_iff.mp none)
    exact Db.noneRegistered_iff.trans (step.trans (registersNone_iff request before after))

def smallRegistered : Db :=
  run exec {} (smallSale ++ [⟨{}, .advance 0 .allotted⟩, ⟨{}, .advance 0 .registered⟩])

/-- A registered booking passes the guard of a cancellation and is refused by the machine, and so is
the allotment of a booking that took over an allotted unit. -/
theorem guards_disagree :
    (ReachableDb smallRegistered ∧ ¬smallRegistered.GuardsAgree) ∧
      (ReachableDb smallReassigned ∧ ¬smallReassigned.GuardsAgree) := by
  refine ⟨⟨reachable_run _ _, fun agree => ?_⟩, reachable_run _ _, fun agree => ?_⟩
  · obtain ⟨after, accepted⟩ := agree.cancel {} 0 _ { cancellationType := .cancel } 0
      (rfl : smallRegistered.bookings.find? 0 = some _) (Or.inr (Or.inr rfl)) rfl
    cases accepted
  · obtain ⟨after, accepted⟩ := agree.advance 1 _ .allotted
      (rfl : smallReassigned.bookings.find? 1 = some _) rfl
    cases accepted

end OpenEstate
