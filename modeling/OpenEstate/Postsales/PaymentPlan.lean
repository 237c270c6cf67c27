/-
**Payment plans**: a booking's schedule of installments.

A plan comes from a template's milestones, from explicit amounts, or from an edit that replaces
the installments nothing is allocated to. Each path is meant to leave a schedule that adds up to
the agreed price. Stage-linked installments have no due date until their construction stage is
raised for the whole project.
-/

import Mathlib.Data.List.Fold
import Mathlib.Data.List.MinMax
import OpenEstate.Postsales.Schema

namespace OpenEstate

open Relational

/-! ### Reading -/

structure BookingForPlan where
  agreedPricePaise : Int
  bookingDate : Date
  projectId : Nat

def loadBookingForPlan (bookingId : Nat) (db : Db) : Except ServiceError BookingForPlan := do
  let booking ← orThrow (db.bookings.find? bookingId) (.notFound "Booking not found")
  let unit ← orThrow (db.units.find? booking.unitId)
    (.error "Field unit is required to return data, got `null` instead")
  return { agreedPricePaise := booking.agreedPricePaise
           bookingDate := booking.bookingDate
           projectId := unit.projectId }

def Db.findStageRaise (db : Db) (projectId templateId milestoneSeq : Nat) :
    Option (Nat × StageRaise) :=
  db.stageRaises.findFirst? fun _ raise =>
    raise.projectId = projectId ∧ raise.templateId = templateId ∧ raise.milestoneSeq = milestoneSeq

def computeRaisedDueDate (stageCompletedOn : Date) (graceDaysAfterRaise : Int) : Date :=
  addDays stageCompletedOn graceDaysAfterRaise

/-! ### Writing -/

def Db.dropInstallments (db : Db) (dropped : Nat → Installment → Bool) : Db :=
  { db with installments := db.installments.delete dropped }

def Db.addInstallments (db : Db) (rows : List Installment) : Db :=
  { db with installments := db.installments.createMany rows }

def Db.addPlan (db : Db) (plan : PaymentPlan) : Db :=
  { db with plans := db.plans.create plan }

def Db.retirePlan (db : Db) (planId : Nat) : Db :=
  { db with plans := db.plans.modify planId fun plan => { plan with isActive := false } }

def Db.addStageRaise (db : Db) (stageRaise : StageRaise) : Db :=
  { db with stageRaises := db.stageRaises.create stageRaise }

def Db.setRaised (db : Db) (which : Installment → Bool) (dueDate : Date) (stageRaiseId : Nat) : Db :=
  { db with
    installments := db.installments.modifyAll (fun _ inst => which inst) fun inst =>
      { inst with dueDate := some dueDate, stageRaiseId := some stageRaiseId } }

/-! ### Dropping installments -/

/-- Delete installments. The keys that allocations, ledger entries and accruals hold are
restricting, so the deletion of a referenced installment fails the whole call. -/
def Db.deleteInstallments (db : Db) (dropped : Nat → Installment → Bool) :
    Except ServiceError Db := do
  let isDropped (id : Nat) : Bool := ((db.installments.find? id).map (dropped id)).getD false
  ensure (db.allocations.any (fun _ row => isDropped row.installmentId) = false)
    (.error "Foreign key constraint violated: receipt_allocations_installment_id_fkey")
  ensure (db.ledger.any (fun _ entry => (entry.installmentId.map isDropped).getD false) = false)
    (.conflict "This installment has interest charged and can't be removed.")
  ensure (db.accruals.any (fun _ row => isDropped row.installmentId) = false)
    (.conflict "This installment has interest charged and can't be removed.")
  return db.dropInstallments dropped

def deactivatePlan (db : Db) (planId : Nat) : Except ServiceError Db := do
  ensure (db.installments.any
      (fun _ inst => inst.planId = planId ∧ 0 < inst.allocatedPaise) = false)
    (.badRequest "Cannot replace a plan that already has paid installments; edit it instead")
  let cleared ← db.deleteInstallments fun _ inst => inst.planId = planId
  return cleared.retirePlan planId

def deactivateExistingPlans (bookingId : Nat) (db : Db) : Except ServiceError Db :=
  (db.plans.select fun _ plan => plan.bookingId = bookingId ∧ plan.isActive).foldlM
    (fun db row => deactivatePlan db row.1) db

/-! ### Building a schedule -/

/-- The amounts of a custom schedule: explicit ones that sum to the total, or percentages
allocated over it. -/
def resolveAmounts (installments : List InstallmentInput) (total : Int) :
    Except ServiceError (List Int) := do
  let anyPercent := installments.any (·.milestonePercent.isSome)
  let anyAmount := installments.any (·.amountPaise.isSome)
  ensure (¬(anyPercent ∧ anyAmount))
    (.badRequest "Use either amounts or percents for all installments, not a mix")
  if anyPercent then
    allocate total (installments.map fun input => input.milestonePercent.getD 0)
  else
    let amounts := installments.map fun input => input.amountPaise.getD 0
    ensure (amounts.sum = total) (.badRequest
      s!"Installment amounts ({amounts.sum}) must sum to the amount to schedule ({total})")
    return amounts

def customInstallments (bookingId planId seq : Nat) :
    List InstallmentInput → List Int → List Installment
  | input :: inputs, amount :: amounts =>
    { bookingId
      planId
      seq
      label := input.label
      milestoneType := .dateLinked
      dueDate := some (toUtcMidnight input.dueDate)
      amountPaise := amount } :: customInstallments bookingId planId (seq + 1) inputs amounts
  | _, _ => []

/-- The installment of a milestone. A stage raised before the booking existed is picked up here,
since nothing would come back for it later. -/
def milestoneInstallment (db : Db) (booking : BookingForPlan) (bookingId planId templateId : Nat)
    (milestone : PaymentPlanMilestone) (amountPaise : Int) : Installment :=
  match milestone.milestoneType with
  | .stageLinked =>
    let existingRaise := db.findStageRaise booking.projectId templateId milestone.seq
    { bookingId
      planId
      seq := milestone.seq
      label := milestone.label
      milestoneType := .stageLinked
      milestoneSeq := some milestone.seq
      dueDate := existingRaise.map fun raise =>
        computeRaisedDueDate raise.2.stageCompletedOn milestone.graceDaysAfterRaise
      stageRaiseId := existingRaise.map Prod.fst
      amountPaise }
  | .dateLinked =>
    { bookingId
      planId
      seq := milestone.seq
      label := milestone.label
      milestoneType := .dateLinked
      milestoneSeq := some milestone.seq
      dueDate := some (addDays booking.bookingDate milestone.dueOffsetDays)
      amountPaise }

def instantiateFromTemplate (masters : Masters) (bookingId templateId : Nat) (db : Db) :
    Except ServiceError Db := do
  let booking ← loadBookingForPlan bookingId db
  let template ← orThrow (masters.templates templateId)
    (.notFound "Payment plan template not found")
  ensure (template.milestones ≠ []) (.badRequest "Template has no milestones")
  let cleared ← deactivateExistingPlans bookingId db
  let amounts ← allocate booking.agreedPricePaise (template.milestones.map (·.percent))
  let planId := cleared.plans.nextId
  return (cleared.addPlan { bookingId, templateId := some templateId }).addInstallments
    (List.zipWith (milestoneInstallment db booking bookingId planId templateId)
      template.milestones amounts)

/-- A plan from explicit amounts, or from percentages allocated over the price. -/
def createCustomPlan (bookingId : Nat) (dto : CreatePaymentPlanDto) (db : Db) :
    Except ServiceError Db := do
  let booking ← loadBookingForPlan bookingId db
  let cleared ← deactivateExistingPlans bookingId db
  let amounts ← resolveAmounts dto.installments booking.agreedPricePaise
  let planId := cleared.plans.nextId
  return (cleared.addPlan { bookingId }).addInstallments
    (customInstallments bookingId planId 1 dto.installments amounts)

def Db.activePlan (db : Db) (bookingId : Nat) : Option (Nat × PaymentPlan) :=
  db.plans.findFirst? fun _ plan => plan.bookingId = bookingId ∧ plan.isActive

/-- Edit the active plan: installments with an allocation are frozen, the others are replaced by
new ones that must cover the rest of the price. -/
def editPlan (bookingId : Nat) (dto : CreatePaymentPlanDto) (db : Db) : Except ServiceError Db := do
  let booking ← loadBookingForPlan bookingId db
  let plan ← orThrow (db.activePlan bookingId) (.notFound "No active payment plan to edit")
  let frozen := db.installments.select fun _ inst =>
    inst.planId = plan.1 ∧ 0 < inst.allocatedPaise
  let residual := booking.agreedPricePaise - (frozen.map (·.2.amountPaise)).sum
  ensure (0 ≤ residual) (.badRequest "Frozen installments already exceed the agreed price")
  let amounts ← resolveAmounts dto.installments residual
  let cleared ← db.deleteInstallments fun _ inst =>
    inst.planId = plan.1 ∧ inst.allocatedPaise = 0
  let maxFrozenSeq := (frozen.map (·.2.seq)).foldl max 0
  return cleared.addInstallments
    (customInstallments bookingId plan.1 (maxFrozenSeq + 1) dto.installments amounts)

/-! ### Raising a stage -/

def Db.raises (db : Db) (projectId : Nat) (dto : RaiseStageDto) (inst : Installment) : Bool :=
  inst.isActive ∧ inst.milestoneType = .stageLinked ∧ inst.milestoneSeq = some dto.milestoneSeq ∧
    inst.dueDate = none ∧
    ((db.plans.find? inst.planId).any fun plan =>
      plan.isActive ∧ plan.templateId = some dto.templateId) ∧
    ((db.bookings.find? inst.bookingId).any fun booking =>
      (db.units.find? booking.unitId).any fun unit => unit.projectId = projectId)

def Db.findOrCreateRaise (db : Db) (newRaise : StageRaise) : Db × Nat × StageRaise :=
  match db.findStageRaise newRaise.projectId newRaise.templateId newRaise.milestoneSeq with
  | some existing => (db, existing)
  | none =>
    (db.addStageRaise newRaise, db.stageRaises.nextId, newRaise)

/-- Raise a construction stage for every booking of a project that waits for it. A second raise
keeps the first one's date. -/
def raiseStage (masters : Masters) (projectId : Nat) (dto : RaiseStageDto) (db : Db) :
    Except ServiceError Db := do
  let _ ← orThrow (masters.projects projectId) (.notFound "Project not found")
  let milestone ← orThrow
    ((masters.templates dto.templateId).bind fun template =>
      template.milestones.find? fun milestone => milestone.seq = dto.milestoneSeq)
    (.notFound "Milestone not found on this template")
  ensure (milestone.milestoneType = .stageLinked) (.badRequest
    "This milestone is DATE_LINKED — it becomes due automatically and does not need raising")
  let raised := db.findOrCreateRaise
    { projectId
      templateId := dto.templateId
      milestoneSeq := dto.milestoneSeq
      stageCompletedOn := toUtcMidnight dto.stageCompletedOn }
  let stageRaise := raised.2
  let dueDate := computeRaisedDueDate stageRaise.2.stageCompletedOn milestone.graceDaysAfterRaise
  return raised.1.setRaised (db.raises projectId dto) dueDate stageRaise.1

/-! ### What an accepted call checked and did -/

variable {bookingId : Nat} {db : Db}

theorem loadBookingForPlan_eq_ok {answer : BookingForPlan}
    (accepted : loadBookingForPlan bookingId db = .ok answer) :
    ∃ booking, db.bookings.find? bookingId = some booking ∧
      answer.agreedPricePaise = booking.agreedPricePaise := by
  simp only [loadBookingForPlan, bind_eq_ok, orThrow_eq_ok, pure_eq_ok] at accepted
  obtain ⟨booking, found, _, _, rfl⟩ := accepted
  exact ⟨booking, found, rfl⟩

structure Db.Unreferenced (db : Db) (dropped : Nat → Installment → Bool) : Prop where
  allocations : ∀ id row inst, db.allocations.find? id = some row →
    db.installments.find? row.installmentId = some inst → dropped row.installmentId inst = false
  ledger : ∀ id entry installmentId inst, db.ledger.find? id = some entry →
    entry.installmentId = some installmentId → db.installments.find? installmentId = some inst →
    dropped installmentId inst = false
  accruals : ∀ id row inst, db.accruals.find? id = some row →
    db.installments.find? row.installmentId = some inst → dropped row.installmentId inst = false

variable {after : Db}

theorem deleteInstallments_eq_ok {dropped : Nat → Installment → Bool}
    (accepted : db.deleteInstallments dropped = .ok after) :
    db.Unreferenced dropped ∧ after = db.dropInstallments dropped := by
  simp only [Db.deleteInstallments, bind_eq_ok, ensure_eq_ok, pure_eq_ok, Table.any_eq_false]
    at accepted
  obtain ⟨_, allocations, _, ledger, _, accruals, rfl⟩ := accepted
  refine ⟨⟨?_, ?_, ?_⟩, rfl⟩
  · intro id row inst found present
    have kept := allocations id row found
    rw [present] at kept
    exact kept
  · intro id entry installmentId inst found named present
    have kept := ledger id entry found
    rw [named, Option.map_some, present] at kept
    exact kept
  · intro id row inst found present
    have kept := accruals id row found
    rw [present] at kept
    exact kept

theorem deactivatePlan_eq_ok {planId : Nat} (accepted : deactivatePlan db planId = .ok after) :
    db.Unreferenced (fun _ inst => inst.planId = planId) ∧
      after = (db.dropInstallments fun _ inst => inst.planId = planId).retirePlan planId := by
  simp only [deactivatePlan, bind_eq_ok, ensure_eq_ok, pure_eq_ok] at accepted
  obtain ⟨_, _, cleared, deleted, rfl⟩ := accepted
  obtain ⟨unreferenced, rfl⟩ := deleteInstallments_eq_ok deleted
  exact ⟨unreferenced, rfl⟩

/-- What a schedule to be recorded looks like: untouched installments of one plan, numbered in
order, with amounts that add up to a total. -/
structure IsSchedule (rows : List Installment) (bookingId planId : Nat) (total : Int) : Prop where
  booking : ∀ inst ∈ rows, inst.bookingId = bookingId
  plan : ∀ inst ∈ rows, inst.planId = planId
  active : ∀ inst ∈ rows, inst.isActive = true
  untouched : ∀ inst ∈ rows, inst.allocatedPaise = 0 ∧ inst.status = .unpaid
  nonneg : ∀ inst ∈ rows, 0 ≤ inst.amountPaise
  ascending : rows.Pairwise fun first second => first.seq < second.seq
  sum : (rows.map (·.amountPaise)).sum = total

variable {amounts : List Int}

theorem resolveAmounts_eq_ok {installments : List InstallmentInput} {total : Int}
    (totalNonneg : 0 ≤ total) (accepted : resolveAmounts installments total = .ok amounts) :
    amounts.length = installments.length ∧ amounts.sum = total ∧ ∀ amount ∈ amounts, 0 ≤ amount := by
  simp only [resolveAmounts, bind_eq_ok, ensure_eq_ok] at accepted
  obtain ⟨_, _, answered⟩ := accepted
  split at answered
  · obtain ⟨positive, rfl⟩ := allocate_eq_ok totalNonneg answered
    refine ⟨?_, largestRemainder_sum totalNonneg positive, largestRemainder_nonneg totalNonneg _⟩
    rw [length_largestRemainder, List.length_map]
  · simp only [bind_eq_ok, ensure_eq_ok, pure_eq_ok] at answered
    obtain ⟨_, sum, rfl⟩ := answered
    refine ⟨List.length_map _, sum, fun amount member => ?_⟩
    obtain ⟨input, _, rfl⟩ := List.mem_map.mp member
    cases given : input.amountPaise with
    | none => exact le_refl 0
    | some value => exact input.amount_nonneg value given

variable {inputs : List InstallmentInput}

theorem le_seq_customInstallments {planId seq : Nat} {inst : Installment}
    (member : inst ∈ customInstallments bookingId planId seq inputs amounts) : seq ≤ inst.seq := by
  induction inputs generalizing amounts seq with
  | nil => cases member
  | cons input inputs ih =>
    cases amounts with
    | nil => cases member
    | cons amount amounts =>
      rw [customInstallments] at member
      rcases List.mem_cons.mp member with rfl | later
      · exact le_refl seq
      · exact (Nat.le_succ seq).trans (ih later)

theorem isSchedule_customInstallments (bookingId planId : Nat)
    (sameLength : amounts.length = inputs.length) (nonneg : ∀ amount ∈ amounts, 0 ≤ amount)
    (seq : Nat) :
    IsSchedule (customInstallments bookingId planId seq inputs amounts) bookingId planId
      amounts.sum := by
  induction inputs generalizing amounts seq with
  | nil =>
    rw [List.length_nil, List.length_eq_zero_iff] at sameLength
    subst sameLength
    constructor <;> simp [customInstallments]
  | cons input inputs ih =>
    cases amounts with
    | nil => cases sameLength
    | cons amount amounts =>
      obtain ⟨headNonneg, tailNonneg⟩ := List.forall_mem_cons.mp nonneg
      have rest := ih (Nat.succ.inj sameLength) tailNonneg (seq + 1)
      rw [customInstallments]
      exact {
        booking := List.forall_mem_cons.mpr ⟨rfl, rest.booking⟩
        plan := List.forall_mem_cons.mpr ⟨rfl, rest.plan⟩
        active := List.forall_mem_cons.mpr ⟨rfl, rest.active⟩
        untouched := List.forall_mem_cons.mpr ⟨⟨rfl, rfl⟩, rest.untouched⟩
        nonneg := List.forall_mem_cons.mpr ⟨headNonneg, rest.nonneg⟩
        ascending := .cons (fun _ later => le_seq_customInstallments later) rest.ascending
        sum := by rw [List.map_cons, List.sum_cons, List.sum_cons, rest.sum] }

theorem seq_milestoneInstallment (db : Db) (booking : BookingForPlan)
    (bookingId planId templateId : Nat) (milestone : PaymentPlanMilestone) (amountPaise : Int) :
    (milestoneInstallment db booking bookingId planId templateId milestone amountPaise).seq =
      milestone.seq := by
  unfold milestoneInstallment
  split <;> rfl

theorem isSchedule_milestoneInstallment (db : Db) (booking : BookingForPlan)
    (bookingId planId templateId : Nat) {milestones : List PaymentPlanMilestone}
    (sameLength : amounts.length = milestones.length) (nonneg : ∀ amount ∈ amounts, 0 ≤ amount)
    (ascending : milestones.Pairwise fun first second => first.seq < second.seq) :
    IsSchedule (List.zipWith (milestoneInstallment db booking bookingId planId templateId)
      milestones amounts) bookingId planId amounts.sum := by
  induction milestones generalizing amounts with
  | nil =>
    rw [List.length_nil, List.length_eq_zero_iff] at sameLength
    subst sameLength
    constructor <;> simp
  | cons milestone milestones ih =>
    cases amounts with
    | nil => cases sameLength
    | cons amount amounts =>
      obtain ⟨headNonneg, tailNonneg⟩ := List.forall_mem_cons.mp nonneg
      obtain ⟨before, tailAscending⟩ := List.pairwise_cons.mp ascending
      have rest := ih (Nat.succ.inj sameLength) tailNonneg tailAscending
      rw [List.zipWith_cons_cons]
      have head : ∀ inst, inst =
          milestoneInstallment db booking bookingId planId templateId milestone amount →
          inst.bookingId = bookingId ∧ inst.planId = planId ∧ inst.isActive = true ∧
            inst.allocatedPaise = 0 ∧ inst.status = .unpaid ∧ inst.amountPaise = amount := by
        rintro _ rfl
        unfold milestoneInstallment
        split <;> exact ⟨rfl, rfl, rfl, rfl, rfl, rfl⟩
      obtain ⟨sameBooking, samePlan, active, unallocated, unpaid, sameAmount⟩ := head _ rfl
      exact {
        booking := List.forall_mem_cons.mpr ⟨sameBooking, rest.booking⟩
        plan := List.forall_mem_cons.mpr ⟨samePlan, rest.plan⟩
        active := List.forall_mem_cons.mpr ⟨active, rest.active⟩
        untouched := List.forall_mem_cons.mpr ⟨⟨unallocated, unpaid⟩, rest.untouched⟩
        nonneg := List.forall_mem_cons.mpr ⟨sameAmount.symm ▸ headNonneg, rest.nonneg⟩
        ascending := by
          refine .cons (fun inst later => ?_) rest.ascending
          rw [← List.map_uncurry_zip_eq_zipWith] at later
          obtain ⟨⟨other, share⟩, listed, rfl⟩ := List.mem_map.mp later
          rw [Function.uncurry_apply_pair, seq_milestoneInstallment, seq_milestoneInstallment]
          exact before other (List.of_mem_zip listed).1
        sum := by rw [List.map_cons, List.sum_cons, List.sum_cons, rest.sum, sameAmount] }

variable {masters : Masters}

theorem instantiateFromTemplate_eq_ok_iff {templateId : Nat} :
    instantiateFromTemplate masters bookingId templateId db = .ok after ↔
      ∃ loaded template cleared amounts, loadBookingForPlan bookingId db = .ok loaded ∧
        masters.templates templateId = some template ∧ template.milestones ≠ [] ∧
        deactivateExistingPlans bookingId db = .ok cleared ∧
        allocate loaded.agreedPricePaise (template.milestones.map (·.percent)) = .ok amounts ∧
        after = (cleared.addPlan { bookingId, templateId := some templateId }).addInstallments
          (List.zipWith (milestoneInstallment db loaded bookingId cleared.plans.nextId templateId)
            template.milestones amounts) := by
  simp only [instantiateFromTemplate, bind_eq_ok, ensure_eq_ok, orThrow_eq_ok, pure_eq_ok]
  constructor
  · intro accepted
    obtain ⟨loaded, load, template, found, _, some, cleared, deactivated, amounts, allocated, rfl⟩ :=
      accepted
    exact ⟨loaded, template, cleared, amounts, load, found, some, deactivated, allocated, rfl⟩
  · intro accepted
    obtain ⟨loaded, template, cleared, amounts, load, found, some, deactivated, allocated, rfl⟩ :=
      accepted
    exact ⟨loaded, load, template, found, (), some, cleared, deactivated, amounts, allocated, rfl⟩

theorem instantiateFromTemplate_eq_ok {templateId : Nat}
    (accepted : instantiateFromTemplate masters bookingId templateId db = .ok after) :
    ∃ booking cleared rows, db.bookings.find? bookingId = some booking ∧
      deactivateExistingPlans bookingId db = .ok cleared ∧
      (0 ≤ booking.agreedPricePaise →
        IsSchedule rows bookingId cleared.plans.nextId booking.agreedPricePaise) ∧
      after = (cleared.addPlan { bookingId, templateId := some templateId }).addInstallments rows := by
  obtain ⟨loaded, template, cleared, amounts, load, _, _, deactivated, allocated, rfl⟩ :=
    instantiateFromTemplate_eq_ok_iff.mp accepted
  obtain ⟨booking, found, samePrice⟩ := loadBookingForPlan_eq_ok load
  refine ⟨booking, cleared, _, found, deactivated, fun priceNonneg => ?_, rfl⟩
  rw [samePrice] at allocated
  obtain ⟨positive, rfl⟩ := allocate_eq_ok priceNonneg allocated
  have sameLength : (largestRemainder booking.agreedPricePaise
      (template.milestones.map (·.percent))).length = template.milestones.length := by
    rw [length_largestRemainder, List.length_map]
  have schedule := isSchedule_milestoneInstallment db loaded bookingId cleared.plans.nextId
    templateId sameLength (largestRemainder_nonneg priceNonneg _) template.ascending
  rw [largestRemainder_sum priceNonneg positive] at schedule
  exact schedule

theorem milestoneType_customInstallments {planId seq : Nat} {inst : Installment}
    (member : inst ∈ customInstallments bookingId planId seq inputs amounts) :
    inst.milestoneType = .dateLinked := by
  induction inputs generalizing amounts seq with
  | nil => cases member
  | cons input inputs ih =>
    cases amounts with
    | nil => cases member
    | cons amount amounts =>
      rw [customInstallments] at member
      rcases List.mem_cons.mp member with rfl | later
      · rfl
      · exact ih later

theorem createCustomPlan_eq_ok {dto : CreatePaymentPlanDto}
    (accepted : createCustomPlan bookingId dto db = .ok after) :
    ∃ booking cleared rows, db.bookings.find? bookingId = some booking ∧
      deactivateExistingPlans bookingId db = .ok cleared ∧
      (0 ≤ booking.agreedPricePaise →
        IsSchedule rows bookingId cleared.plans.nextId booking.agreedPricePaise) ∧
      after = (cleared.addPlan { bookingId }).addInstallments rows := by
  simp only [createCustomPlan, bind_eq_ok, pure_eq_ok] at accepted
  obtain ⟨loaded, load, cleared, deactivated, amounts, resolved, rfl⟩ := accepted
  obtain ⟨booking, found, samePrice⟩ := loadBookingForPlan_eq_ok load
  refine ⟨booking, cleared, _, found, deactivated, fun priceNonneg => ?_, rfl⟩
  rw [samePrice] at resolved
  obtain ⟨sameLength, sum, nonneg⟩ := resolveAmounts_eq_ok priceNonneg resolved
  have schedule :=
    isSchedule_customInstallments bookingId cleared.plans.nextId sameLength nonneg 1
  rw [sum] at schedule
  exact schedule

def Books.frozenSum (books : Books) (planId : Nat) : Int :=
  ((books.installments.select fun _ inst =>
    inst.planId = planId ∧ 0 < inst.allocatedPaise).map (·.2.amountPaise)).sum

theorem editPlan_eq_ok {dto : CreatePaymentPlanDto}
    (accepted : editPlan bookingId dto db = .ok after) :
    ∃ booking plan rows, db.bookings.find? bookingId = some booking ∧
      db.activePlan bookingId = some plan ∧
      db.Unreferenced (fun _ inst => inst.planId = plan.1 ∧ inst.allocatedPaise = 0) ∧
      IsSchedule rows bookingId plan.1
        (booking.agreedPricePaise - db.frozenSum plan.1) ∧
      (∀ id frozen, db.installments.find? id = some frozen → frozen.planId = plan.1 →
        0 < frozen.allocatedPaise → ∀ inst ∈ rows, frozen.seq < inst.seq) ∧
      after = (db.dropInstallments fun _ inst =>
        inst.planId = plan.1 ∧ inst.allocatedPaise = 0).addInstallments rows := by
  simp only [editPlan, bind_eq_ok, ensure_eq_ok, orThrow_eq_ok, pure_eq_ok] at accepted
  obtain ⟨loaded, load, plan, active, _, residualNonneg, amounts, resolved, cleared, deleted, rfl⟩ :=
    accepted
  obtain ⟨booking, found, samePrice⟩ := loadBookingForPlan_eq_ok load
  obtain ⟨unreferenced, rfl⟩ := deleteInstallments_eq_ok deleted
  refine ⟨booking, plan, _, found, active, unreferenced, ?_, ?_, rfl⟩
  · rw [samePrice] at residualNonneg resolved
    obtain ⟨sameLength, sum, nonneg⟩ := resolveAmounts_eq_ok residualNonneg resolved
    have schedule := isSchedule_customInstallments bookingId plan.1 sameLength nonneg
      (((db.installments.select fun _ inst =>
        inst.planId = plan.1 ∧ 0 < inst.allocatedPaise).map (·.2.seq)).foldl max 0 + 1)
    rw [sum] at schedule
    exact schedule
  · intro id frozen present own allocated inst member
    have listed : frozen.seq ∈ (db.installments.select fun _ inst =>
        inst.planId = plan.1 ∧ 0 < inst.allocatedPaise).map (·.2.seq) :=
      List.mem_map.mpr ⟨(id, frozen), Table.mem_select.mpr ⟨present, by simp [own, allocated]⟩, rfl⟩
    have bounded : frozen.seq ≤ ((db.installments.select fun _ inst =>
        inst.planId = plan.1 ∧ 0 < inst.allocatedPaise).map (·.2.seq)).foldl max 0 := by
      rw [List.foldl_eq_foldr]
      exact List.le_max_of_le listed (le_refl frozen.seq)
    exact (Nat.lt_succ_of_le bounded).trans_le (le_seq_customInstallments member)

def RaiseStageDto.newRaise (dto : RaiseStageDto) (projectId : Nat) : StageRaise where
  projectId
  templateId := dto.templateId
  milestoneSeq := dto.milestoneSeq
  stageCompletedOn := toUtcMidnight dto.stageCompletedOn

def Masters.Raisable (masters : Masters) (projectId : Nat) (dto : RaiseStageDto)
    (milestone : PaymentPlanMilestone) : Prop :=
  (∃ project, masters.projects projectId = some project) ∧
    ((masters.templates dto.templateId).bind fun template =>
      template.milestones.find? fun milestone => milestone.seq = dto.milestoneSeq) =
        some milestone ∧
    milestone.milestoneType = .stageLinked

def Db.raised (db : Db) (projectId : Nat) (dto : RaiseStageDto) (graceDays : Int) : Db :=
  let raised := db.findOrCreateRaise (dto.newRaise projectId)
  raised.1.setRaised (db.raises projectId dto)
    (computeRaisedDueDate raised.2.2.stageCompletedOn graceDays) raised.2.1

theorem raiseStage_eq_ok_iff {projectId : Nat} {dto : RaiseStageDto} :
    raiseStage masters projectId dto db = .ok after ↔ ∃ milestone,
      masters.Raisable projectId dto milestone ∧
        after = db.raised projectId dto milestone.graceDaysAfterRaise := by
  simp only [raiseStage, bind_eq_ok, ensure_eq_ok, orThrow_eq_ok, pure_eq_ok]
  constructor
  · intro accepted
    obtain ⟨project, found, milestone, listed, _, linked, rfl⟩ := accepted
    exact ⟨milestone, ⟨⟨project, found⟩, listed, linked⟩, rfl⟩
  · intro accepted
    obtain ⟨milestone, ⟨⟨project, found⟩, listed, linked⟩, rfl⟩ := accepted
    exact ⟨project, found, milestone, listed, (), linked, rfl⟩

theorem raiseStage_eq_ok {projectId : Nat} {dto : RaiseStageDto}
    (accepted : raiseStage masters projectId dto db = .ok after) :
    ∃ raised dueDate stageRaiseId, (raised = db ∨ ∃ stageRaise, raised = db.addStageRaise stageRaise) ∧
      after = raised.setRaised (db.raises projectId dto) dueDate stageRaiseId := by
  obtain ⟨milestone, _, rfl⟩ := raiseStage_eq_ok_iff.mp accepted
  refine ⟨_, _, _, ?_, rfl⟩
  unfold Db.findOrCreateRaise
  split
  · exact Or.inl rfl
  · exact Or.inr ⟨_, rfl⟩

end OpenEstate
