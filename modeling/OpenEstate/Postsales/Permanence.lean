/-
**What stays.**

The operations add to the books and correct them by further rows; none takes a row back. A booking
keeps its unit and its price, and goes on from status to status until it has ended.

* `Books.Stays`: what is written stays; `exec_stays`: no operation takes it back;
* `Occupancy.Moves.onward`: what a move does to a booking; `bookings_onward`: what a run does.
-/

import OpenEstate.Postsales.Schedule
import OpenEstate.Postsales.UnitStatus

namespace OpenEstate

open Relational

/-! ### The books -/

variable {books next : Books}

theorem Books.Refers.grow {installmentId : Nat} (refers : books.Refers installmentId)
    (grows : books.Grows next) : next.Refers installmentId := by
  rcases refers with ⟨id, row, found, named⟩ | ⟨id, entry, found, named⟩
  · exact .inl ⟨id, row, grows.allocations id row found, named⟩
  · exact .inr ⟨id, entry, grows.ledger id entry found, named⟩

theorem Books.Grows.trans {last : Books} (one : books.Grows next) (other : next.Grows last) :
    books.Grows last where
  ledger id row found := other.ledger id row (one.ledger id row found)
  allocations id row found := other.allocations id row (one.allocations id row found)
  deductions id row found := other.deductions id row (one.deductions id row found)
  certificates id row found := other.certificates id row (one.certificates id row found)
  receipts id receipt found := by
    obtain ⟨middle, present, booking, gross⟩ := one.receipts id receipt found
    obtain ⟨after, stays, sameBooking, sameGross⟩ := other.receipts id middle present
    exact ⟨after, stays, sameBooking.trans booking, sameGross.trans gross⟩
  installments id inst refers found := by
    obtain ⟨middle, present, booking⟩ := one.installments id inst refers found
    obtain ⟨after, stays, same⟩ := other.installments id middle (refers.grow one) present
    exact ⟨after, stays, same.trans booking⟩

def Books.TakenBack (books : Books) (receiptId : Nat) : Prop :=
  ∃ receipt, books.receipts.find? receiptId = some receipt ∧ receipt.isReversed = true

theorem takenBack_mark {receiptId id : Nat} {mark : Receipt → Receipt}
    (keeps : ∀ receipt, receipt.isReversed = true → (mark receipt).isReversed = true)
    (reversed : books.TakenBack id) :
    ∃ receipt, (books.receipts.modify receiptId mark).find? id = some receipt ∧
      receipt.isReversed = true := by
  obtain ⟨receipt, found, was⟩ := reversed
  rw [Table.find?_modify, found]
  split
  · exact ⟨mark receipt, rfl, keeps receipt was⟩
  · exact ⟨receipt, rfl, was⟩

theorem Books.Change.takenBack {known : Nat → Prop} (change : Books.Change known books next)
    {receiptId : Nat} (reversed : books.TakenBack receiptId) : next.TakenBack receiptId := by
  cases change with
  | received dto =>
    obtain ⟨receipt, found, was⟩ := reversed
    rw [recordReceipt_eq]
    exact ⟨receipt, Table.find?_create_old _ found, was⟩
  | marked _ _ keeps =>
    exact takenBack_mark (fun receipt was => (keeps.reversed receipt).trans was) reversed
  | undone _ _ _ _ _ _ _ undoes =>
    exact takenBack_mark (fun receipt _ => undoes.reversed receipt) reversed
  | _ => exact reversed

/-- What is written stays, and what is reversed is so for good. -/
structure Books.Stays (books next : Books) : Prop extends books.Grows next where
  takenBack : ∀ receiptId, books.TakenBack receiptId → next.TakenBack receiptId

theorem Books.Stays.refl (books : Books) : books.Stays books := ⟨.refl books, fun _ => id⟩

theorem Books.Stays.trans {last : Books} (one : books.Stays next) (other : next.Stays last) :
    books.Stays last :=
  ⟨one.toGrows.trans other.toGrows, fun id was => other.takenBack id (one.takenBack id was)⟩

/-- **No operation takes a row of the books back**: the entries, the allocations and the rows of the
tax stay as they were written, a receipt stays with its booking and amount, an installment that rows
refer to stays with its booking, and what is reversed is so for good. -/
theorem exec_stays {request : Request} {db after : Db} (sound : db.Sound)
    (accepted : exec request db = .ok after) : db.toBooks.Stays after.toBooks := by
  refine ((exec_effect accepted).changes sound.grounded).invariant (.refl db.toBooks) ?_
  intro books next stays change
  exact stays.trans ⟨change.grows, fun _ => change.takenBack⟩

/-! ### The bookings -/

def BookingStatus.rank : BookingStatus → Nat
  | .booked => 0
  | .allotted => 1
  | .registered => 2
  | _ => 3

/-- A status stays or goes on. From one that is not of a live booking it cannot go on. -/
def BookingStatus.Onward (before after : BookingStatus) : Prop :=
  before = after ∨ before.rank < after.rank

theorem BookingStatus.Onward.trans {first second third : BookingStatus}
    (one : first.Onward second) (other : second.Onward third) : first.Onward third := by
  rcases one with rfl | less
  · exact other
  · rcases other with rfl | further
    · exact .inr less
    · exact .inr (less.trans further)

namespace Occupancy

variable {occupancy before after : Occupancy} {id unitId : Nat} {status : BookingStatus}

theorem onward_setBooking (found : occupancy.bookings id = some (status, unitId))
    {other otherUnitId : Nat} {next : BookingStatus}
    (goes : id = other → status.Onward next ∧ unitId = otherUnitId) :
    ∃ later, (occupancy.setBooking other next otherUnitId).bookings id = some (later, unitId) ∧
      status.Onward later := by
  rw [bookings_setBooking]
  split
  · rename_i same
    obtain ⟨onward, rfl⟩ := goes same
    exact ⟨next, rfl, onward⟩
  · exact ⟨status, found, .inl rfl⟩

theorem onward_of_live {next : BookingStatus} (live : status.isLive = true)
    (ended : next.isLive = false) : status.Onward next := by
  revert live ended
  unfold BookingStatus.Onward
  cases status <;> cases next <;> decide

theorem Moves.onward {move : Move} (moves : before.Moves move after)
    (found : before.bookings id = some (status, unitId)) :
    ∃ later, after.bookings id = some (later, unitId) ∧ status.Onward later := by
  have new : ∀ {newId}, before.bookings newId = none → id ≠ newId := by
    rintro newId fresh rfl
    rw [found] at fresh
    cases fresh
  -- a booking that is transferred ends, and the new one is another
  have transferred : ∀ {fromId ofUnitId fromStatus},
      before.bookings fromId = some (fromStatus, ofUnitId) →
      fromStatus = .booked ∨ fromStatus = .allotted →
      ∃ later, (before.setBooking fromId .transferredOut ofUnitId).bookings id = some (later, unitId) ∧
        status.Onward later := by
    intro fromId ofUnitId fromStatus isFrom transferable
    refine onward_setBooking found fun same => ?_
    subst same
    cases found.symm.trans isFrom
    exact ⟨onward_of_live (live_of_transferable transferable) rfl, rfl⟩
  cases moves with
  | stay => exact ⟨status, found, .inl rfl⟩
  | enter => exact ⟨status, found, .inl rfl⟩
  | shift => exact ⟨status, found, .inl rfl⟩
  | book newId onUnitId fresh =>
    exact onward_setBooking found fun same => absurd same (new fresh)
  | advance other target ofUnitId fromStatus isOther =>
    refine onward_setBooking found fun same => ?_
    subst same
    cases found.symm.trans isOther
    exact ⟨by cases target <;> exact .inr (by decide), rfl⟩
  | reassign fromId newId fromStatus ofUnitId isFrom transferable fresh =>
    obtain ⟨later, isLater, onward⟩ := transferred isFrom transferable
    rw [bookings_setBooking, if_neg (new fresh)]
    exact ⟨later, isLater, onward⟩
  | relocate fromId newId fromStatus ofUnitId toUnitId isFrom transferable fresh =>
    obtain ⟨later, isLater, onward⟩ := transferred isFrom transferable
    rw [bookings_setBooking, if_neg (new fresh)]
    exact ⟨later, isLater, onward⟩
  | vacate other otherStatus newStatus ofUnitId isOther live ended =>
    show ∃ later, (before.setBooking other newStatus ofUnitId).bookings id = some (later, unitId) ∧ _
    refine onward_setBooking found fun same => ?_
    subst same
    cases found.symm.trans isOther
    exact ⟨onward_of_live live ended, rfl⟩

end Occupancy

/-- **A booking keeps its unit and its price, and only goes on**: its status moves from booked through
allotted and registered to an end, where it stays. -/
theorem bookings_onward (earlier later : List Request) :
    ∀ id booking, (run exec {} earlier).bookings.find? id = some booking →
      ∃ row, (run exec {} (earlier ++ later)).bookings.find? id = some row ∧
        row.unitId = booking.unitId ∧ row.agreedPricePaise = booking.agreedPricePaise ∧
        booking.status.Onward row.status := by
  intro id booking found
  have on : Reachable exec (run exec {} earlier) (run exec {} (earlier ++ later)) :=
    reachable_of_isPrefix _ (List.prefix_append _ _)
  refine on.invariant (P := fun db => ∃ row, db.bookings.find? id = some row ∧
    row.unitId = booking.unitId ∧ row.agreedPricePaise = booking.agreedPricePaise ∧
    booking.status.Onward row.status) ⟨booking, found, rfl, rfl, .inl rfl⟩ ?_
  rintro request before after ⟨row, present, unit, price, onward⟩ accepted
  have effect := exec_effect accepted
  obtain ⟨status, isStatus, further⟩ := effect.occupancyMoves.onward (occupancy_booking present)
  obtain ⟨next, there, same⟩ := Option.map_eq_some_iff.mp isStatus
  obtain ⟨rfl, sameUnit⟩ := Prod.mk.inj same
  obtain ⟨was, isWas, samePrice⟩ := effect.price_of_booked (Db.hasBooking_of_find? present) there
  cases present.symm.trans isWas
  exact ⟨next, there, sameUnit.trans unit, samePrice.trans price, onward.trans further⟩

theorem bookings_onward_smallCancelled :
    ∃ row, (run exec {} smallCancelled).bookings.find? 0 = some row ∧ row.unitId = 0 ∧
      row.agreedPricePaise = 1000 ∧ BookingStatus.booked.Onward row.status :=
  bookings_onward smallPaid [smallCancellation] 0 _ rfl

end OpenEstate
