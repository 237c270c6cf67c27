/-
**Applicants that were merged away.**

A merge moves the inquiries of an applicant to the one it is merged into; its bookings stay with it.
A new booking asks whether its primary applicant was merged away, and neither that of its other
applicants nor a transfer that of the new one. `keepsNames` says of each operation when it leaves no
live booking in the name of an applicant that was merged away, and `live_names_unmerged_iff` that a
run keeps to that exactly when its steps do.
-/

import OpenEstate.Postsales.Occupancy
import OpenEstate.Presales.Timeline

namespace OpenEstate

open Relational
open Presales (PresalesDb PresalesDraw PresalesOp execPresales applicant?_eq_some)

/-! ### Presales and sales -/

structure Estate where
  presales : PresalesDb := {}
  sales : Db := {}

def asCustomer (companyId : Nat) (applicant : Presales.Applicant) : Option Applicant :=
  if applicant.companyId = companyId then some { mergedIntoId := applicant.mergedIntoId } else none

def Estate.salesDb (companyId : Nat) (estate : Estate) : Db :=
  { estate.sales with applicants := estate.presales.applicants.filterMap (asCustomer companyId) }

def Op.isOfSales : Op → Bool
  | .createApplicant | .mergeApplicant _ _ => false
  | _ => true

inductive EstateRequest
  | presales (draws : Nat → PresalesDraw) (op : PresalesOp)
  | sales (request : Request) (isOfSales : request.op.isOfSales = true)

def execEstate (toLowerCase : String → String) (companyId : Nat) (request : EstateRequest)
    (estate : Estate) : Except ServiceError Estate :=
  match request with
  | .presales draws op => do
    let presales ← execPresales toLowerCase { companyId, draws, op } estate.presales
    return { estate with presales }
  | .sales request _ => do
    let sales ← exec request (estate.salesDb companyId)
    return { estate with sales }

/-! ### Who is named by live bookings -/

def Booking.applicants (booking : Booking) : List Nat :=
  booking.primaryApplicantId :: booking.coApplicantIds

def NamedLive (bookings : Table Booking) (applicantId : Nat) : Prop :=
  ∃ id booking, bookings.find? id = some booking ∧ booking.status.isLive = true ∧
    applicantId ∈ booking.applicants

def Estate.NamesUnmerged (estate : Estate) : Prop :=
  ∀ applicantId, NamedLive estate.sales.bookings applicantId →
    estate.presales.mergedInto applicantId = none

section Named

variable {bookings : Table Booking} {applicantId : Nat}

theorem namedLive_create {opened : Booking} (live : opened.status.isLive = true) :
    NamedLive (bookings.create opened) applicantId ↔
      NamedLive bookings applicantId ∨ applicantId ∈ opened.applicants := by
  constructor
  · rintro ⟨id, booking, found, isLive, named⟩
    rcases Table.find?_create_eq_some.mp found with ⟨_, rfl⟩ | old
    · exact Or.inr named
    · exact Or.inl ⟨id, booking, old, isLive, named⟩
  · rintro (⟨id, booking, found, isLive, named⟩ | named)
    · exact ⟨id, booking, Table.find?_create_old opened found, isLive, named⟩
    · exact ⟨_, opened, Table.find?_create_self bookings opened, live, named⟩

theorem namedLive_of_modify {bookingId : Nat} (change : Booking → Booking)
    (same : ∀ booking, (change booking).applicants = booking.applicants)
    (live : ∀ booking, bookings.find? bookingId = some booking →
      (change booking).status.isLive = true → booking.status.isLive = true)
    (named : NamedLive (bookings.modify bookingId change) applicantId) :
    NamedLive bookings applicantId := by
  obtain ⟨id, booking, found, isLive, named⟩ := named
  rcases Table.find?_modify_eq_some.mp found with ⟨rfl, before, there, rfl⟩ | ⟨_, there⟩
  · exact ⟨id, before, there, live before there isLive, same before ▸ named⟩
  · exact ⟨id, booking, there, isLive, named⟩

end Named

/-! ### Operations of sales -/

section Sales

variable {masters : Masters} {db after : Db} {applicantId : Nat}

/-- **The primary applicant of a new booking** has not been merged away. -/
theorem primary_of_createBooking {dto : CreateBookingDto} {answer : Db × Nat}
    (accepted : createBooking masters dto db = .ok answer) :
    ∃ applicant, db.applicants.find? dto.primaryApplicantId = some applicant ∧
      applicant.mergedIntoId = none := by
  simp only [createBooking, bind_eq_ok, ensure_eq_ok, orThrow_eq_ok] at accepted
  obtain ⟨_, _, _, _, applicant, found, _, live, _⟩ := accepted
  exact ⟨applicant, found, live⟩

def Op.bringsIn (op : Op) (db : Db) (applicantId : Nat) : Prop :=
  match op with
  | .createBooking dto => applicantId ∈ dto.primaryApplicantId :: dto.coApplicantIds
  | .transfer fromBookingId dto =>
    ∃ booking unitId, db.bookings.find? fromBookingId = some booking ∧
      transferTarget dto booking db = .ok (unitId, applicantId)
  | _ => False

/-- **Live bookings name whom they named before**, and whom the operation brings in. -/
theorem namedLive_exec {request : Request} (accepted : exec request db = .ok after)
    (named : NamedLive after.bookings applicantId) :
    NamedLive db.bookings applicantId ∨ request.op.bringsIn db applicantId := by
  cases exec_effect accepted with
  | createBooking => exact (namedLive_create rfl).mp named
  | @advance _ _ id target booking _ found expected =>
    refine Or.inl (namedLive_of_modify (fun row => { row with status := target.status })
      (fun _ => rfl) (fun row there _ => ?_) named)
    obtain rfl : booking = row := Option.some.inj (found.symm.trans there)
    rw [expected]
    exact Occupancy.live_expectedFrom target
  | @setInterestRule _ _ _ ruleId =>
    exact Or.inl (namedLive_of_modify (fun row => { row with interestRuleId := ruleId })
      (fun _ => rfl) (fun _ _ live => live) named)
  | instantiateFromTemplate found deactivated =>
    rw [deactivateExistingPlans_frame deactivated] at named
    exact Or.inl named
  | createCustomPlan found deactivated =>
    rw [deactivateExistingPlans_frame deactivated] at named
    exact Or.inl named
  | raiseStage stage =>
    rcases stage with rfl | ⟨stageRaise, rfl⟩
    · exact Or.inl named
    · exact Or.inl named
  | @voucherBounced _ _ _ voucher =>
    cases refund : voucher.refundId with
    | none =>
      rw [refund] at named
      exact Or.inl named
    | some id =>
      rw [refund] at named
      exact Or.inl named
  | @transfer _ _ id dto booking _ unitId _ _ found _ _ target =>
    have over_ : BookingStatus.transferredOut.isLive = false := rfl
    rcases (namedLive_create rfl).mp named with old | brought
    · exact Or.inl (namedLive_of_modify (fun row => { row with status := .transferredOut })
        (fun _ => rfl) (fun _ _ live => by cases over_.symm.trans live) old)
    · rw [List.mem_singleton.mp brought]
      exact Or.inr ⟨booking, unitId, found, target⟩
  | @cancel _ _ id dto booking =>
    have over_ : dto.cancellationType.status.isLive = false := by
      cases dto.cancellationType <;> rfl
    exact Or.inl (namedLive_of_modify (fun row => { row with status := dto.cancellationType.status })
      (fun _ => rfl) (fun _ _ live => by cases over_.symm.trans live) named)
  | _ => exact Or.inl named

theorem namedLive_of_bringsIn {request : Request} (accepted : exec request db = .ok after)
    (brought : request.op.bringsIn db applicantId) : NamedLive after.bookings applicantId := by
  cases exec_effect accepted with
  | createBooking => exact (namedLive_create rfl).mpr (Or.inr brought)
  | @transfer _ _ id dto booking _ unitId newApplicantId _ found _ _ target =>
    obtain ⟨row, toUnitId, there, found'⟩ := brought
    obtain rfl : booking = row := Option.some.inj (found.symm.trans there)
    obtain ⟨_, rfl⟩ := Prod.mk.inj (Except.ok.inj (target.symm.trans found'))
    exact (namedLive_create rfl).mpr (Or.inr List.mem_cons_self)
  | _ => cases brought

theorem applicant_of_transferTarget {dto : CreateTransferDto} {booking : Booking} {unitId : Nat}
    (target : transferTarget dto booking db = .ok (unitId, applicantId)) :
    (dto.transferType = .unit ∧ applicantId = booking.primaryApplicantId) ∨
      (dto.transferType = .applicant ∧ dto.toApplicantId = some applicantId) := by
  unfold transferTarget at target
  split at target
  · rename_i kind
    simp only [bind_eq_ok, ensure_eq_ok, orThrow_eq_ok, pure_eq_ok] at target
    obtain ⟨_, _, _, _, _, _, is⟩ := target
    exact Or.inl ⟨kind, (Prod.mk.inj is).2.symm⟩
  · rename_i kind
    simp only [bind_eq_ok, orThrow_eq_ok, pure_eq_ok] at target
    obtain ⟨toApplicantId, named, _, _, is⟩ := target
    exact Or.inr ⟨kind, (Prod.mk.inj is).2 ▸ named⟩

end Sales

/-! ### Steps -/

/-- **A step that leaves no live booking in the name of an applicant that was merged away**: it merges
none that a live booking names, and brings none in that was merged away. -/
def keepsNames (step : Step Estate EstateRequest) : Prop :=
  match step.input with
  | .presales _ (.merge _ mergedId _) => ¬NamedLive step.before.sales.bookings mergedId
  | .sales ⟨_, .createBooking dto⟩ _ =>
    ∀ applicantId ∈ dto.coApplicantIds, step.before.presales.mergedInto applicantId = none
  | .sales ⟨_, .transfer _ dto⟩ _ => dto.transferType = .applicant →
    ∀ applicantId ∈ dto.toApplicantId, step.before.presales.mergedInto applicantId = none
  | _ => True

section Steps

variable {toLowerCase : String → String} {companyId : Nat} {before after : Estate}

theorem mergedInto_of_customer {applicantId : Nat} {applicant : Applicant}
    (found : (before.salesDb companyId).applicants.find? applicantId = some applicant) :
    before.presales.mergedInto applicantId = applicant.mergedIntoId := by
  have seen : (before.presales.applicants.filterMap (asCustomer companyId)).find? applicantId =
      some applicant := found
  rw [Table.find?_filterMap] at seen
  obtain ⟨row, there, shown⟩ := Option.bind_eq_some_iff.mp seen
  unfold asCustomer at shown
  split at shown
  · cases shown
    rw [PresalesDb.mergedInto, there]
    rfl
  · cases shown

theorem namesUnmerged_presales (names : before.NamesUnmerged) {draws : Nat → PresalesDraw}
    {op : PresalesOp} {presales : PresalesDb}
    (accepted : execPresales toLowerCase { companyId, draws, op } before.presales = .ok presales) :
    ({ before with presales } : Estate).NamesUnmerged ↔
      keepsNames ⟨before, .presales draws op, { before with presales }⟩ := by
  rcases (Presales.effect_of_exec accepted).undisturbed with ⟨same, notMerge⟩ |
    ⟨survivorId, mergedId, actorId, is, _, _, merged, effect⟩ | ⟨_, _, _, _, _, is, _, _, effect⟩
  · refine iff_of_true (fun applicantId named => ?_) ?_
    · rw [same.mergedInto]
      exact names applicantId named
    · cases op with
      | merge survivorId mergedId actorId => exact absurd rfl (notMerge survivorId mergedId actorId)
      | _ => trivial
  · have is : op = .merge survivorId mergedId actorId := is
    have effect : presales = before.presales.merge companyId survivorId mergedId actorId := effect
    subst is effect
    show (∀ applicantId, NamedLive before.sales.bookings applicantId →
      (before.presales.merge companyId survivorId mergedId actorId).mergedInto applicantId = none) ↔
        ¬NamedLive before.sales.bookings mergedId
    rw [Presales.mergedInto_merge merged]
    constructor
    · intro after named
      have unmerged := after mergedId named
      rw [Function.update_self] at unmerged
      cases unmerged
    · intro unnamed applicantId named
      have different : applicantId ≠ mergedId := by
        rintro rfl
        exact unnamed named
      rw [Function.update_of_ne different]
      exact names applicantId named
  · have is : op = .send _ _ _ _ := is
    have effect : presales = before.presales.insertCommunication _ := effect
    subst is effect
    exact iff_of_true names trivial

theorem unmerged_bringsIn_iff (names : before.NamesUnmerged) {request : Request}
    (isOfSales : request.op.isOfSales = true) {sales : Db}
    (accepted : exec request (before.salesDb companyId) = .ok sales) :
    (∀ applicantId, request.op.bringsIn (before.salesDb companyId) applicantId →
        before.presales.mergedInto applicantId = none) ↔
      keepsNames ⟨before, .sales request isOfSales, { before with sales }⟩ := by
  obtain ⟨masters, op⟩ := request
  cases op with
  | createBooking dto =>
    obtain ⟨answer, answered, _⟩ := map_eq_ok.mp accepted
    obtain ⟨applicant, found, live⟩ := primary_of_createBooking answered
    have primary := (mergedInto_of_customer found).trans live
    exact List.forall_mem_cons.trans ⟨fun all => all.2, fun others => ⟨primary, others⟩⟩
  | transfer fromBookingId dto =>
    cases exec_effect accepted with
    | @transfer _ _ _ _ booking _ unitId applicantId _ found transferable _ target =>
      have one : ∀ other, (Op.transfer fromBookingId dto).bringsIn (before.salesDb companyId) other ↔
          other = applicantId := by
        intro other
        constructor
        · rintro ⟨row, toUnitId, there, found'⟩
          obtain rfl : booking = row := Option.some.inj (found.symm.trans there)
          exact (Prod.mk.inj (Except.ok.inj (found'.symm.trans target))).2
        · rintro rfl
          exact ⟨booking, unitId, found, target⟩
      have only : (∀ other, (Op.transfer fromBookingId dto).bringsIn (before.salesDb companyId) other →
          before.presales.mergedInto other = none) ↔
            before.presales.mergedInto applicantId = none := by
        simp only [one, forall_eq]
      refine only.trans ?_
      show _ ↔ (dto.transferType = .applicant →
        ∀ applicantId ∈ dto.toApplicantId, before.presales.mergedInto applicantId = none)
      rcases applicant_of_transferTarget target with ⟨kind, rfl⟩ | ⟨kind, named⟩
      · have live := Occupancy.live_of_transferable transferable
        have unmerged := names booking.primaryApplicantId
          ⟨fromBookingId, booking, found, live, List.mem_cons_self⟩
        exact iff_of_true unmerged fun impossible => by cases kind.symm.trans impossible
      · rw [named]
        exact ⟨fun unmerged _ other is => Option.some.inj is ▸ unmerged,
          fun all => all kind applicantId rfl⟩
  | _ => exact iff_of_true (fun _ brought => by cases brought) trivial

theorem namesUnmerged_sales (names : before.NamesUnmerged) {request : Request}
    {isOfSales : request.op.isOfSales = true} {sales : Db}
    (accepted : exec request (before.salesDb companyId) = .ok sales) :
    ({ before with sales } : Estate).NamesUnmerged ↔
      keepsNames ⟨before, .sales request isOfSales, { before with sales }⟩ := by
  rw [← unmerged_bringsIn_iff names isOfSales accepted]
  constructor
  · exact fun after applicantId brought => after applicantId (namedLive_of_bringsIn accepted brought)
  · intro unmerged applicantId named
    rcases namedLive_exec accepted named with old | brought
    · exact names applicantId old
    · exact unmerged applicantId brought

theorem namesUnmerged_iff {request : EstateRequest} (names : before.NamesUnmerged)
    (accepted : execEstate toLowerCase companyId request before = .ok after) :
    after.NamesUnmerged ↔ keepsNames ⟨before, request, after⟩ := by
  cases request with
  | presales draws op =>
    obtain ⟨presales, done, is⟩ := bind_eq_ok.mp accepted
    cases is
    exact namesUnmerged_presales names done
  | sales request isOfSales =>
    obtain ⟨sales, done, is⟩ := bind_eq_ok.mp accepted
    cases is
    exact namesUnmerged_sales names done

end Steps

/-- **A run leaves no live booking in the name of an applicant that was merged away** exactly if none
of its steps does, whatever presales had before. -/
theorem live_names_unmerged_iff (toLowerCase : String → String) (companyId : Nat)
    (presales : PresalesDb) (requests : List EstateRequest) :
    (∀ estate ∈ states (execEstate toLowerCase companyId) { presales } requests,
        estate.NamesUnmerged) ↔
      ∀ step ∈ steps (execEstate toLowerCase companyId) { presales } requests, keepsNames step := by
  have initially : ({ presales } : Estate).NamesUnmerged := by
    rintro applicantId ⟨id, booking, found, _⟩
    cases (Table.find?_empty id).symm.trans found
  exact forall_states_iff (fun _ _ _ (_ : True) _ => trivial)
    (fun _ _ _ _ names accepted => namesUnmerged_iff names accepted) requests trivial initially

/-! ### A second applicant -/

def noon : Nat → PresalesDraw := fun _ => { now := 43200000 }

/-- Two entries of one person are merged, and a unit is then booked with the second of them as its
other applicant. -/
def bookedWithMerged : List EstateRequest :=
  [.presales noon (.createApplicant { name := "Asha", primaryPhone := "9800000001" }),
    .presales noon (.createApplicant { name := "A. Rao", primaryPhone := "9800000002" }),
    .presales noon (.merge 0 1 none),
    .sales ⟨{}, .createUnit "A-101" 0⟩ rfl,
    .sales ⟨smallMasters 0 0, .createBooking { smallBooking with
      coApplicantIds := [1]
      coApplicants_max := by decide }⟩ rfl]

/-- **A live booking names an applicant that was merged away.** -/
theorem merged_named_live :
    ¬∀ estate ∈ states (execEstate id 7) {} bookedWithMerged, estate.NamesUnmerged := by
  intro all
  have last := all _ (run_mem_states _ _)
  have booked : ((run (execEstate id 7) {} bookedWithMerged).sales.bookings.find? 0).map
      (fun booking => (booking.status.isLive, booking.applicants)) = some (true, [0, 1]) := by
    rfl
  obtain ⟨booking, found, is⟩ := Option.map_eq_some_iff.mp booked
  obtain ⟨live, named⟩ := Prod.mk.inj is
  have unmerged := last 1 ⟨0, booking, found, live, by rw [named]; decide⟩
  have merged : (run (execEstate id 7) {} bookedWithMerged).presales.mergedInto 1 = some 0 := rfl
  cases merged.symm.trans unmerged

end OpenEstate
