/-
**Two bookings of one unit.**

A booking checks its unit before it takes its first lock, the row of its number sequence, and reads
the unit again just before it moves it. Two requests whose dates fall in one financial year queue
for that row, and the second finds the unit sold; two requests for different years take different
rows, and nothing keeps both from reading the unit as available twice.

* `sold_of_serial`: under a common number sequence a second booking of the unit fails;
* `createBooking_keeps`: no booking of the unit touches anything else a request needs;
* `createBooking_path`: a request that can be accepted gets as far as the update of the unit with
  no other lock than its number sequence;
* **`no_double_sale_iff`**: no schedule of two requests sells the unit twice, exactly when they
  fall in one financial year or one of them cannot be accepted.
-/

import OpenEstate.Concurrent.Booking
import OpenEstate.Postsales.System

namespace OpenEstate

open Relational

/-! ### One number sequence -/

def bookingTail (companyId : Nat) (masters : Masters) (dto : CreateBookingDto)
    (tail : Statements Unit) : Prop :=
  ∃ price, tail = BookingService.record companyId masters dto price

theorem createBooking_defers (companyId : Nat) (masters : Masters) (dto : CreateBookingDto) :
    (BookingService.createBooking companyId masters dto).Defers
      (.sequence (bookingSequence companyId masters dto)) (fun _ => True)
      (bookingTail companyId masters dto) := by
  have reads : (BookingService.check masters dto).ReadOnly (fun _ => True) fun _ => True := by
    refine .read_bind fun _ _ => .check_bind fun unit _ => .check_bind fun _ _ => ?_
    refine .read_bind fun _ _ => .check_bind fun applicant _ => .check_bind fun _ _ => ?_
    exact .check fun _ _ => trivial
  exact .bind reads fun price _ => .tail List.mem_cons_self ⟨price, rfl⟩

theorem not_isBookable_setUnitStatus (db : Db) (unitId : Nat) :
    ¬(db.setUnitStatus unitId .booked).IsBookable unitId := by
  rintro ⟨unit, found, bookable⟩
  rw [Db.setUnitStatus, Table.find?_modify_self] at found
  obtain ⟨before, _, rfl⟩ := Option.map_eq_some_iff.mp found
  rcases bookable with available | held
  · cases available
  · cases held

/-- **One after the other, only the first booking of a unit is recorded.** -/
theorem sold_of_serial {companyId unitId : Nat} {masters : Bool → Masters}
    {dto : Bool → CreateBookingDto} (sameUnit : ∀ request, (dto request).unitId = unitId)
    {store after : Store} {history : List Bool}
    (serial : World.Serial (fun request => bookingTail companyId (masters request) (dto request))
      store history after) :
    history.length ≤ 1 ∧ (history ≠ [] → ¬after.IsBookable unitId) := by
  induction serial with
  | nil => exact ⟨Nat.zero_le 1, fun none => absurd rfl none⟩
  | @snoc history before after request tail result earlier one ran ih =>
    obtain ⟨price, rfl⟩ := one
    obtain ⟨_, bookable, rfl⟩ := record_run_eq_ok.mp ran
    rw [sameUnit] at bookable ⊢
    have first : history = [] := by
      by_contra later
      exact ih.2 later bookable
    subst first
    exact ⟨le_rfl, fun _ => not_isBookable_setUnitStatus _ unitId⟩

/-! ### What a booking leaves alone -/

/-- The applicants, and the project a unit lies in, are those of the first state. -/
structure Store.SameOffer (first : Store) (unitId : Nat) (store : Store) : Prop where
  applicants : store.applicants = first.applicants
  project : ∀ unit, store.units.find? unitId = some unit →
    ∃ before, first.units.find? unitId = some before ∧ before.projectId = unit.projectId

theorem Store.SameOffer.setUnitStatus {first store : Store} {unitId : Nat}
    (same : first.SameOffer unitId store) (status : UnitStatus) :
    first.SameOffer unitId (store.onDb (·.setUnitStatus unitId status)) where
  applicants := same.applicants
  project := by
    intro unit found
    have found : (store.units.modify unitId fun unit => { unit with status }).find? unitId =
      some unit := found
    rw [Table.find?_modify_self] at found
    obtain ⟨before, present, rfl⟩ := Option.map_eq_some_iff.mp found
    exact same.project before present

theorem bookingPrice_congr {masters : Masters} {dto : CreateBookingDto} {unit other : EstateUnit}
    (same : unit.projectId = other.projectId) :
    bookingPrice masters dto unit = bookingPrice masters dto other := by
  unfold bookingPrice projectStateCode
  rw [same]

/-- **What a request needs apart from the status of its unit, no booking of the unit changes.** -/
theorem createBooking_keeps (companyId : Nat) (masters : Masters) (dto : CreateBookingDto)
    (first : Store) :
    (BookingService.createBooking companyId masters dto).Keeps (first.SameOffer dto.unitId)
      fun _ => ∃ price, first.IsPriced masters dto price := by
  have checks : (BookingService.check masters dto).Keeps (first.SameOffer dto.unitId) fun price =>
      (∃ applicant, first.applicants.find? dto.primaryApplicantId = some applicant ∧
        applicant.mergedIntoId = none) ∧
      ∃ unit, first.units.find? dto.unitId = some unit ∧ bookingPrice masters dto unit = .ok price := by
    refine .read_bind fun seen offer => .check_bind fun unit found => .check_bind fun _ _ => ?_
    obtain ⟨before, present, sameProject⟩ := offer.project unit (orThrow_eq_ok.mp found)
    refine .read_bind fun seen offer => .check_bind fun applicant found => ?_
    rw [orThrow_eq_ok, offer.applicants] at found
    refine .check_bind fun _ unmerged => .check fun price priced => ?_
    rw [ensure_eq_ok] at unmerged
    exact ⟨⟨applicant, found, unmerged⟩, before, present, bookingPrice_congr sameProject ▸ priced⟩
  have inserts : ∀ price, (BookingService.insertRows companyId masters dto price).Keeps
      (first.SameOffer dto.unitId) fun _ => coApplicantsExist dto first.toDb = true := by
    intro price
    refine .updateReturning_bind (fun store offer => ⟨offer.applicants, offer.project⟩) fun _ => ?_
    refine .insert_bind (fun store offer => ⟨offer.applicants, offer.project⟩) ?_
    refine .read_bind fun seen offer => .check_bind fun _ exist => ?_
    rw [ensure_eq_ok, coApplicantsExist, offer.applicants] at exist
    exact .insert (fun store offer => ⟨offer.applicants, offer.project⟩) exist
  refine checks.bind fun price ⟨applicant, priced⟩ => (inserts price).bind fun _ exist => ?_
  refine .check_bind fun _ _ => .check_bind fun _ _ => .read_bind fun _ _ => ?_
  refine .check_bind fun _ _ => .check_bind fun _ _ => ?_
  exact .update (fun store offer => offer.setUnitStatus .booked) ⟨price, applicant, priced, exist⟩

/-! ### As far as the unit -/

def bookUnit (unitId : Nat) : Statements Unit :=
  Tx.update (.unit unitId) fun store => store.onDb (·.setUnitStatus unitId .booked)

theorem createBooking_path {companyId : Nat} {masters : Masters} {dto : CreateBookingDto}
    {store : Store} (can : store.CanBook masters dto) :
    ∃ writes, (BookingService.createBooking companyId masters dto).Path store (bookUnit dto.unitId)
      writes [.sequence (bookingSequence companyId masters dto)] := by
  obtain ⟨⟨unit, found, bookable⟩, price, ⟨applicant, present, unmerged⟩,
    ⟨other, otherFound, priced⟩, exist⟩ := can
  rw [found] at otherFound
  cases otherFound
  have checks : (BookingService.check masters dto).Path store (.done price) id [] := by
    refine .read_bind (.orThrow_bind found (.ensure_bind bookable ?_))
    refine .read_bind (.orThrow_bind present (.ensure_bind unmerged ?_))
    exact .check priced store
  obtain ⟨writes, inserts⟩ : ∃ writes, (BookingService.insertRows companyId masters dto price).Path
      store (.done ()) writes [.sequence (bookingSequence companyId masters dto)] := by
    exact ⟨_, .updateReturning_bind (.insert_bind (.read_bind (.ensure_bind exist (.insert _ _))))⟩
  have inserted : writes store = store.withBooking companyId masters dto price := by
    have ran := inserts.run_eq
    rw [insertRows_run_eq_ok.mpr ⟨exist, rfl⟩] at ran
    exact (Prod.mk.inj (Except.ok.inj ran)).2.symm
  have moves : (UnitStateMachineService.transition dto.unitId .booked .system
      (some "Booking")).Path (writes store) (bookUnit dto.unitId) id [] := by
    rw [inserted]
    refine .ensure_bind (by decide) (.ensure_bind (by decide) ?_)
    refine .read_bind (.orThrow_bind found (.ensure_bind ?_ (.refl _ _)))
    rcases bookable with available | held
    · rw [available]
      decide
    · rw [held]
      decide
  exact ⟨_, checks.andThen (inserts.andThen moves)⟩

/-! ### Two sessions -/

def bookingSessions (companyId : Nat) (masters : Bool → Masters) (dto : Bool → CreateBookingDto) :
    Bool → Statements Unit :=
  fun request => BookingService.createBooking companyId (masters request) (dto request)

section Race

variable {companyId unitId : Nat} {masters : Bool → Masters} {dto : Bool → CreateBookingDto}
  {store : Store} {world : World Bool Store RowLock ServiceError Unit}

theorem canBook_of_committed (sameUnit : ∀ request, (dto request).unitId = unitId)
    (occurs : World.Occurs (bookingSessions companyId masters dto) store world)
    (committed : ∀ request, world.HasCommitted request) (request : Bool) :
    store.CanBook (masters request) (dto request) := by
  obtain ⟨first, _, _, ran, _, _⟩ := World.first_ran_alone occurs (committed false)
  have bookable := (createBooking_run_eq_ok.mp ran).1
  rw [sameUnit first, ← sameUnit request] at bookable
  have keeps : ∀ request, (bookingSessions companyId masters dto request).Keeps
      (store.SameOffer unitId)
      fun _ => ∃ price, store.IsPriced (masters request) (dto request) price := by
    intro request
    have keeps := createBooking_keeps companyId (masters request) (dto request) store
    rwa [sameUnit] at keeps
  have initially : store.SameOffer unitId store := ⟨rfl, fun unit found => ⟨unit, found, rfl⟩⟩
  obtain ⟨_, priced⟩ := World.answered_of_committed keeps initially occurs (committed request)
  exact ⟨bookable, priced⟩

theorem not_bothCommitted_of_sameSequence (sameUnit : ∀ request, (dto request).unitId = unitId)
    {key : SequenceKey}
    (sameSequence : ∀ request, bookingSequence companyId (masters request) (dto request) = key)
    (occurs : World.Occurs (fun request =>
      BookingService.createBooking companyId (masters request) (dto request)) store world) :
    ¬world.BothCommitted := by
  intro both
  have defers : ∀ request, (bookingSessions companyId masters dto request).Defers
      (.sequence key) (fun _ => True)
      (bookingTail companyId (masters request) (dto request)) := by
    intro request
    rw [← sameSequence request]
    exact createBooking_defers companyId (masters request) (dto request)
  have serialized := World.serialized defers trivial (fun _ _ _ _ _ _ _ _ => trivial) occurs
  obtain ⟨history, serial, nodup, members⟩ := serialized.history
  have committed : [false, true] ⊆ history :=
    fun request _ => (members request).mpr (both.each request)
  have long : [false, true].length ≤ history.length :=
    (List.subperm_of_subset (by decide) committed).length_le
  exact absurd (sold_of_serial sameUnit serial).1 (Nat.not_le.mpr long)

theorem exists_bothCommitted (can : ∀ request, store.CanBook (masters request) (dto request))
    (apart : bookingSequence companyId (masters true) (dto true) ≠
      bookingSequence companyId (masters false) (dto false)) :
    ∃ schedule, (World.interleave (bookingSessions companyId masters dto) store
      schedule).BothCommitted := by
  have path : ∀ request, ∃ writes, (bookingSessions companyId masters dto request).Path store
      (bookUnit (dto request).unitId) writes
      [.sequence (bookingSequence companyId (masters request) (dto request))] :=
    fun request => createBooking_path (can request)
  obtain ⟨before, pauses⟩ := path false
  obtain ⟨writes, reaches⟩ := path true
  have free : ∀ lock ∈ [RowLock.sequence (bookingSequence companyId (masters true) (dto true))] ++
      [.unit (dto true).unitId],
      lock ∉ [RowLock.sequence (bookingSequence companyId (masters false) (dto false))] := by
    intro lock taken
    rcases List.mem_pair.mp taken with rfl | rfl
    · simpa using apart
    · simp
  obtain ⟨world, occurs, _, one, two⟩ := World.exists_overtaking Bool.false_ne_true pauses
    (reaches.trans (.update _ _ _)) free (Tx.run_update _ _ _)
  obtain ⟨schedule, leads⟩ := occurs.exists_run
  refine ⟨schedule, ?_⟩
  rw [World.interleave, leads]
  exact ⟨⟨(), one⟩, ⟨(), two⟩⟩

end Race

/-- **Two bookings of one unit.** No schedule commits both, exactly when their dates fall in one
financial year, so that they queue for one number sequence, or one of them cannot be accepted. -/
theorem no_double_sale_iff (companyId : Nat) (masters : Bool → Masters)
    (dto : Bool → CreateBookingDto) (sameUnit : (dto false).unitId = (dto true).unitId)
    (store : Store) :
    (∀ schedule, ¬(World.interleave (bookingSessions companyId masters dto) store
        schedule).BothCommitted) ↔
      financialYearLabel (dto false).bookingDate (masters false).fyStartMonth =
          financialYearLabel (dto true).bookingDate (masters true).fyStartMonth ∨
        ¬∀ request, store.CanBook (masters request) (dto request) := by
  have units : ∀ request, (dto request).unitId = (dto false).unitId := by
    intro request
    cases request with
    | false => rfl
    | true => exact sameUnit.symm
  constructor
  · intro never
    by_contra both
    obtain ⟨years, can⟩ := not_or.mp both
    have apart : bookingSequence companyId (masters true) (dto true) ≠
        bookingSequence companyId (masters false) (dto false) := by
      intro same
      exact years (congrArg SequenceKey.scopeLabel same).symm
    obtain ⟨schedule, committed⟩ := exists_bothCommitted (not_not.mp can) apart
    exact never schedule committed
  · rintro (years | refused) schedule committed
    · have sameSequence : ∀ request, bookingSequence companyId (masters request) (dto request) =
          bookingSequence companyId (masters false) (dto false) := by
        intro request
        cases request with
        | false => rfl
        | true => rw [bookingSequence, bookingSequence, years]
      exact not_bothCommitted_of_sameSequence units sameSequence
        (World.occurs_interleave _ _ schedule) committed
    · have each : ∀ request, (World.interleave (bookingSessions companyId masters dto) store
          schedule).HasCommitted request := by
        intro request
        cases request with
        | false => exact committed.1
        | true => exact committed.2
      exact refused (canBook_of_committed units (World.occurs_interleave _ _ schedule) each)

def smallMarket : Store := { toDb := run exec {} (smallSale.take 2) }

def smallBookingAtYearEnd (nextDay : Bool) : CreateBookingDto :=
  { smallBooking with bookingDate := if nextDay then 1775001600000 else 1774915200000 }

theorem no_double_sale_iff_atYearEnd :
    (∀ schedule, ¬(World.interleave (bookingSessions 0 (fun _ => smallMasters 0 0)
        smallBookingAtYearEnd) smallMarket schedule).BothCommitted) ↔
      financialYearLabel 1774915200000 4 = financialYearLabel 1775001600000 4 ∨
        ¬∀ request, smallMarket.CanBook (smallMasters 0 0) (smallBookingAtYearEnd request) :=
  no_double_sale_iff 0 (fun _ => smallMasters 0 0) smallBookingAtYearEnd rfl smallMarket

/-- **The unit is sold twice**: the first booking is paused before it moves the unit, the second
runs from beginning to end, and the first goes on. -/
theorem unit_sold_twice :
    (World.interleave (bookingSessions 0 (fun _ => smallMasters 0 0) smallBookingAtYearEnd)
      smallMarket (List.replicate 7 (.advance false) ++ List.replicate 9 (.advance true) ++
        List.replicate 2 (.advance false))).BothCommitted :=
  ⟨⟨(), rfl⟩, ⟨(), rfl⟩⟩

end OpenEstate
