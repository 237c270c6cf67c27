/-
**Accruing after a cancellation.**

An evaluation does not look at the status of its booking. On a cancelled booking it posts every
share it finds due and not posted, over the clawback.

* `Occupancy.Moves.isCancelled`: a booking is cancelled only by a cancellation, and stays so;
* `Timely` is the condition on a step: an evaluation of a cancelled booking finds nothing to post,
  and no booking is cancelled between the look of an evaluation and its posting;
* **`accrualLines_after_cancellation`**: in a run of timely steps, a booking accrues nothing once it
  is cancelled.
-/

import OpenEstate.Commission.Clawback
import OpenEstate.Postsales.UnitStatus

namespace OpenEstate

open Relational

/-! ### Cancelled bookings -/

def BookingStatus.isCancelled (status : BookingStatus) : Bool :=
  status = .cancelled ∨ status = .surrendered

def Db.isCancelled (db : Db) (bookingId : Nat) : Bool :=
  (db.bookings.find? bookingId).any (·.status.isCancelled)

namespace Occupancy

def isCancelled (occupancy : Occupancy) (bookingId : Nat) : Bool :=
  (occupancy.bookings bookingId).any (·.1.isCancelled)

theorem isCancelled_setUnit (occupancy : Occupancy) (unitId : Nat) (status : UnitStatus)
    (bookingId : Nat) :
    (occupancy.setUnit unitId status).isCancelled bookingId = occupancy.isCancelled bookingId := rfl

theorem isCancelled_setBooking (occupancy : Occupancy) (id : Nat) (status : BookingStatus)
    (unitId bookingId : Nat) :
    (occupancy.setBooking id status unitId).isCancelled bookingId =
      if bookingId = id then status.isCancelled else occupancy.isCancelled bookingId := by
  rw [isCancelled, bookings_setBooking]
  split
  · rfl
  · rfl

variable {occupancy : Occupancy}

theorem isCancelled_of_bookings {bookingId unitId : Nat} {status : BookingStatus}
    (found : occupancy.bookings bookingId = some (status, unitId)) :
    occupancy.isCancelled bookingId = status.isCancelled := by
  rw [isCancelled, found]
  rfl

theorem isCancelled_of_none {bookingId : Nat}
    (missing : occupancy.bookings bookingId = none) : occupancy.isCancelled bookingId = false := by
  rw [isCancelled, missing]
  rfl

theorem isCancelled_setBooking_of_standing {id : Nat} {status : BookingStatus}
    (was : occupancy.isCancelled id = false) (becomes : status.isCancelled = false)
    (unitId bookingId : Nat) :
    (occupancy.setBooking id status unitId).isCancelled bookingId =
      occupancy.isCancelled bookingId := by
  rw [isCancelled_setBooking]
  split
  · rename_i same
    rw [same, was, becomes]
  · rfl

/-- **Only what vacates a booking cancels it**, and nothing takes that back. -/
theorem Moves.isCancelled {move : Move} {before after : Occupancy} (moves : before.Moves move after)
    (bookingId : Nat) : (before.isCancelled bookingId = true → after.isCancelled bookingId = true) ∧
      (after.isCancelled bookingId = true → before.isCancelled bookingId = true ∨
        ∃ status, move = .vacate bookingId status) := by
  -- the other moves cancel nothing
  have unchanged : ∀ {other : Move},
      after.isCancelled bookingId = before.isCancelled bookingId →
      (before.isCancelled bookingId = true → after.isCancelled bookingId = true) ∧
        (after.isCancelled bookingId = true → before.isCancelled bookingId = true ∨
          ∃ status, other = .vacate bookingId status) :=
    fun same => ⟨fun cancelled => same ▸ cancelled, fun cancelled => Or.inl (same ▸ cancelled)⟩
  have standing_of_transferable : ∀ {id status ofUnitId},
      before.bookings id = some (status, ofUnitId) → status = .booked ∨ status = .allotted →
        before.isCancelled id = false := by
    intro id status ofUnitId found transferable
    rw [isCancelled_of_bookings found]
    rcases transferable with rfl | rfl <;> rfl
  cases moves with
  | stay => exact unchanged rfl
  | enter unitId => exact unchanged rfl
  | shift unitId => exact unchanged rfl
  | book newId onUnitId fresh =>
    refine unchanged (isCancelled_setBooking_of_standing ?_ rfl _ _)
    exact isCancelled_of_none fresh
  | advance id target ofUnitId fromStatus found =>
    refine unchanged (isCancelled_setBooking_of_standing ?_ ?_ _ _)
    · rw [isCancelled_of_bookings found]
      cases target <;> rfl
    · cases target <;> rfl
  | reassign fromId newId status ofUnitId found transferable fresh =>
    have was := standing_of_transferable found transferable
    refine unchanged ((isCancelled_setBooking_of_standing ?_ rfl _ _).trans
      (isCancelled_setBooking_of_standing was rfl _ _))
    rw [isCancelled_setBooking_of_standing was rfl]
    exact isCancelled_of_none fresh
  | relocate fromId newId status ofUnitId toUnitId found transferable fresh =>
    have was := standing_of_transferable found transferable
    refine unchanged ((isCancelled_setBooking_of_standing ?_ rfl _ _).trans
      (isCancelled_setBooking_of_standing was rfl ofUnitId _))
    rw [isCancelled_setUnit, isCancelled_setUnit, isCancelled_setBooking_of_standing was rfl]
    exact isCancelled_of_none fresh
  | vacate id status newStatus ofUnitId found live =>
    have standing : before.isCancelled id = false := by
      rw [isCancelled_of_bookings found]
      cases status with
      | cancelled => cases live
      | surrendered => cases live
      | _ => rfl
    by_cases mine : bookingId = id
    · subst mine
      refine ⟨fun cancelled => ?_, fun _ => Or.inr ⟨newStatus, rfl⟩⟩
      rw [standing] at cancelled
      cases cancelled
    · refine unchanged ?_
      show (before.setBooking id newStatus ofUnitId).isCancelled bookingId = _
      rw [isCancelled_setBooking, if_neg mine]

end Occupancy

theorem isCancelled_occupancy (db : Db) (bookingId : Nat) :
    db.occupancy.isCancelled bookingId = db.isCancelled bookingId := by
  show ((db.bookings.find? bookingId).map _).any _ = (db.bookings.find? bookingId).any _
  rw [Option.any_map]

/-- **Only a cancellation cancels a booking**, and nothing takes that back. -/
theorem isCancelled_of_exec {masters : Masters} {op : Op} {db after : Db}
    (accepted : exec ⟨masters, op⟩ db = .ok after) (bookingId : Nat) :
    (db.isCancelled bookingId = true → after.isCancelled bookingId = true) ∧
      (after.isCancelled bookingId = true → db.isCancelled bookingId = true ∨
        ∃ dto, op = .cancel bookingId dto) := by
  obtain ⟨stays, only⟩ := (exec_effect accepted).occupancyMoves.isCancelled bookingId
  simp only [isCancelled_occupancy] at stays only
  refine ⟨stays, fun cancelled => (only cancelled).imp_right ?_⟩
  rintro ⟨status, vacates⟩
  cases op with
  | cancel id dto =>
    cases vacates
    exact ⟨dto, rfl⟩
  | transfer fromBookingId dto =>
    cases moved : dto.transferType <;> simp [Request.move, moved] at vacates
  | _ => cases vacates

/-! ### Steps -/

def AccrualSession.cancels (session : AccrualSession) (db : CommissionDb) : Option Nat :=
  match session with
  | .request ⟨masters, .core (.cancel bookingId dto)⟩ =>
    if (cancelBooking masters bookingId dto db).isOk then some bookingId else none
  | _ => none

/-- The booking to which a session is about to post a share it has found missing. -/
def AccrualSession.postsTo : AccrualSession → Option Nat
  | .creating plan _ _ => some plan.bookingId
  | _ => none

def AccrualSession.missesCancelled (session : AccrualSession) (db : CommissionDb) : Bool :=
  match session with
  | .posting plan (line :: _) => db.isCancelled plan.bookingId ∧ ¬db.isAccrued plan.bookingId line
  | _ => false

/-- **Timely.** An evaluation that looks for a share of a cancelled booking finds it posted, and no
booking is cancelled while an evaluation is about to post to it. -/
structure Timely {ι : Type} (step : Step (Shared ι CommissionDb AccrualSession) ι) : Prop where
  finds : (step.before.sessions step.input).missesCancelled step.before.rows = false
  alone : ∀ bookingId, (step.before.sessions step.input).cancels step.before.rows = some bookingId →
    ∀ session, (step.before.sessions session).postsTo ≠ some bookingId

variable {session : AccrualSession}
variable {db after : CommissionDb}

theorem AccrualSession.Leaves.isCancelled (leaves : session.Leaves db after) (bookingId : Nat) :
    (db.isCancelled bookingId = true → after.isCancelled bookingId = true) ∧
      (after.isCancelled bookingId = true → db.isCancelled bookingId = true ∨
        session.cancels db = some bookingId) := by
  cases leaves with
  | @operation request _ asked accepted =>
    rcases (execCommission_changes accepted).core with same | ⟨op, named, answered⟩
    · rw [same]
      exact ⟨id, Or.inl⟩
    · obtain ⟨stays, only⟩ := isCancelled_of_exec answered bookingId
      refine ⟨stays, fun cancelled => (only cancelled).imp_right ?_⟩
      rintro ⟨dto, rfl⟩
      obtain ⟨masters, _⟩ := request
      cases named
      have cancels : cancelBooking masters bookingId dto db = .ok after := accepted
      subst asked
      show (if _ then some bookingId else none) = _
      rw [cancels]
      rfl
  | posting creating => exact ⟨id, Or.inl⟩
  | snapshot snapshot =>
    rw [toDb_insertSnapshot]
    exact ⟨id, Or.inl⟩
  | nothing => exact ⟨id, Or.inl⟩

theorem AccrualSession.Leaves.accrualLines (leaves : session.Leaves db after) {bookingId : Nat}
    (other : session.postsTo ≠ some bookingId) :
    after.accrualLines bookingId = db.accrualLines bookingId := by
  cases leaves with
  | operation asked accepted => exact (execCommission_leaves accepted).accrualLines bookingId
  | @posting plan line due creating =>
    have differs : plan.bookingId ≠ bookingId := by
      rintro rfl
      exact other (creating ▸ rfl)
    rw [accrualLines_post, if_neg differs, List.append_nil]
  | snapshot snapshot => exact accrualLines_insertSnapshot db snapshot bookingId
  | nothing => rfl

theorem AccrualSession.postsTo_of_move {next : AccrualSession}
    (moved : session.move db = some (next, after)) {bookingId : Nat}
    (posts : next.postsTo = some bookingId) (finds : session.missesCancelled db = false) :
    after = db ∧ db.isCancelled bookingId = false := by
  cases session with
  | request asked =>
    rw [move] at moved
    split at moved <;> cases moved <;> cases posts
  | evaluating todo =>
    cases todo with
    | done plan => cases plan <;> cases moved <;> cases posts
    | fail error => cases moved; cases posts
    | stmt locks write following => cases moved; cases posts
  | posting plan due =>
    cases due with
    | nil => cases moved; cases posts
    | cons line due =>
      rw [move] at moved
      split at moved
      · cases moved
        cases posts
      · rename_i missing
        cases moved
        cases posts
        have finds : decide (db.isCancelled plan.bookingId = true ∧
          ¬db.isAccrued plan.bookingId line = true) = false := finds
        simp only [decide_eq_false_iff_not, not_and, not_not] at finds
        exact ⟨rfl, Bool.eq_false_iff.mpr fun cancelled => missing (finds cancelled)⟩
  | creating plan line due => cases moved; cases posts
  | completed plan => cases moved
  | ended => cases moved

/-! ### Runs -/

variable {ι : Type} [DecidableEq ι]

theorem postsTo_standing (calls : ι → CommissionCall) (schedule : List ι)
    (timely : ∀ step ∈ steps (Shared.exec AccrualSession.move) (accrualStart calls) schedule,
      Timely step) :
    ∀ world ∈ states (Shared.exec AccrualSession.move) (accrualStart calls) schedule,
      ∀ session bookingId, (world.sessions session).postsTo = some bookingId →
        world.rows.isCancelled bookingId = false := by
  have kept : ∀ session (before after : Shared ι CommissionDb AccrualSession),
      (∀ session bookingId, (before.sessions session).postsTo = some bookingId →
        before.rows.isCancelled bookingId = false) →
      Shared.exec AccrualSession.move session before = .ok after →
      Timely ⟨before, session, after⟩ ∧
        (before.sessions session).Leaves before.rows after.rows →
      ∀ session bookingId, (after.sessions session).postsTo = some bookingId →
        after.rows.isCancelled bookingId = false := by
    rintro session before after standing accepted ⟨timely, leaves⟩ other bookingId posts
    obtain ⟨next, rows, moved, rfl⟩ := Shared.exec_eq_ok.mp accepted
    by_cases mine : other = session
    · subst mine
      have posts : (Function.update before.sessions other next other).postsTo = some bookingId :=
        posts
      rw [Function.update_self] at posts
      obtain ⟨rfl, stands⟩ := AccrualSession.postsTo_of_move moved posts timely.finds
      exact stands
    · have posts : (Function.update before.sessions session next other).postsTo = some bookingId :=
        posts
      rw [Function.update_of_ne mine] at posts
      refine Bool.eq_false_iff.mpr fun cancelled => ?_
      rcases (leaves.isCancelled bookingId).2 cancelled with already | cancels
      · rw [standing other bookingId posts] at already
        cases already
      · exact timely.alone bookingId cancels other posts
  have initially : ∀ session bookingId,
      ((accrualStart calls).sessions session).postsTo = some bookingId →
        (accrualStart calls).rows.isCancelled bookingId = false := fun _ _ _ => rfl
  have meets : ∀ step ∈ steps (Shared.exec AccrualSession.move) (accrualStart calls) schedule,
      Timely step ∧ (step.before.sessions step.input).Leaves step.before.rows step.after.rows :=
    fun step member => ⟨timely step member, accrualRun_leaves calls schedule step member⟩
  exact states_invariant _ kept meets initially

/-- **Nothing accrues after a cancellation** in a run of timely steps: what a booking has accrued
when it is cancelled is all it ever accrues. -/
theorem accrualLines_after_cancellation (calls : ι → CommissionCall) (schedule : List ι)
    (timely : ∀ step ∈ steps (Shared.exec AccrualSession.move) (accrualStart calls) schedule,
      Timely step)
    {earlier : List ι} (isPrefix : earlier <+: schedule) {bookingId : Nat}
    (cancelled : (run (Shared.exec AccrualSession.move) (accrualStart calls)
      earlier).rows.isCancelled bookingId = true) :
    (run (Shared.exec AccrualSession.move) (accrualStart calls) schedule).rows.accrualLines
        bookingId =
      (run (Shared.exec AccrualSession.move) (accrualStart calls) earlier).rows.accrualLines
        bookingId := by
  let accrued := (run (Shared.exec AccrualSession.move) (accrualStart calls)
    earlier).rows.accrualLines bookingId
  have stays : ∀ step ∈ steps (Shared.exec AccrualSession.move) (accrualStart calls) schedule,
      step.before.rows.isCancelled bookingId = true ∧
        step.before.rows.accrualLines bookingId = accrued →
      step.after.rows.isCancelled bookingId = true ∧
        step.after.rows.accrualLines bookingId = accrued := by
    rintro step member ⟨already, same⟩
    have leaves := accrualRun_leaves calls schedule step member
    have standing := postsTo_standing calls schedule timely _ (before_mem_states member)
      step.input bookingId
    refine ⟨(leaves.isCancelled bookingId).1 already,
      (leaves.accrualLines fun posts => ?_).trans same⟩
    rw [standing posts] at already
    cases already
  exact (run_of_isPrefix (fun world : Shared ι CommissionDb AccrualSession =>
    world.rows.isCancelled bookingId = true ∧ world.rows.accrualLines bookingId = accrued) stays
    isPrefix ⟨cancelled, rfl⟩).2

/-! ### The small estate -/

instance [Fintype ι] (step : Step (Shared ι CommissionDb AccrualSession) ι) :
    Decidable (Timely step) :=
  decidable_of_iff ((step.before.sessions step.input).missesCancelled step.before.rows = false ∧
    ∀ bookingId ∈ (step.before.sessions step.input).cancels step.before.rows,
      ∀ session, (step.before.sessions session).postsTo ≠ some bookingId)
    ⟨fun both => ⟨both.1, both.2⟩, fun timely => ⟨timely.finds, timely.alone⟩⟩

def smallEnded : List CommissionCall :=
  smallSourced 1000 25 inRange_twentyFive ++ [.accrue {} 0, .request cancelSmall, .accrue {} 0]

def uptoCall (count : Nat) (calls : List CommissionCall) : List (Fin calls.length) :=
  ((List.finRange calls.length).take count).flatMap fun session => List.replicate 16 session

theorem accrualLines_after_cancellation_smallEnded :
    (run (Shared.exec AccrualSession.move) (accrualStart smallEnded.get)
        (uptoCall 10 smallEnded)).rows.accrualLines 0 =
      (run (Shared.exec AccrualSession.move) (accrualStart smallEnded.get)
        (uptoCall 9 smallEnded)).rows.accrualLines 0 :=
  accrualLines_after_cancellation smallEnded.get (uptoCall 10 smallEnded) (by decide +kernel)
    (by decide +kernel) (by decide +kernel)

def smallLate : List CommissionCall :=
  smallSourced 1000 25 inRange_twentyFive ++ [.request cancelSmall, .accrue {} 0]

/-- **A cancelled booking accrues its whole commission.** -/
theorem accrued_after_cancellation :
    let ended := run (Shared.exec AccrualSession.move) (accrualStart smallLate.get)
      (uptoCall 8 smallLate)
    let evaluated := run (Shared.exec AccrualSession.move) (accrualStart smallLate.get)
      (uptoCall 9 smallLate)
    uptoCall 8 smallLate <+: uptoCall 9 smallLate ∧ ended.rows.isCancelled 0 = true ∧
      ended.rows.accrualLines 0 = [] ∧ evaluated.rows.accrualLines 0 = [⟨none, 1000⟩] := by
  decide +kernel

end OpenEstate
