/-
**Stages and the installments that wait for them.**

A booking stays on its unit and a unit in its project, whatever the operations do
(`Effect.keepsSites`), so the project a booking belongs to never changes.

Two paths date an installment that is linked to a construction stage: raising the stage dates those
on record, and a plan made later reads the raise. Both come to the same (`Db.Staged`): an
installment of a raised stage carries the raise and its due date, and one of a stage that was not
raised has no due date. The invariant is over runs of all operations, as long as the templates keep
their grace days (`Masters.KeepsGrace`).
-/

import OpenEstate.Postsales.Schedule

namespace OpenEstate

open Relational

/-! ### Where a booking is -/

def Db.projectOf (db : Db) (bookingId : Nat) : Option Nat :=
  (db.bookings.find? bookingId).bind fun booking =>
    (db.units.find? booking.unitId).map (·.projectId)

structure Db.KeepsSites (db after : Db) : Prop where
  bookings : ∀ id booking, db.bookings.find? id = some booking →
    ∃ later, after.bookings.find? id = some later ∧ later.unitId = booking.unitId
  units : ∀ id unit, db.units.find? id = some unit →
    ∃ later, after.units.find? id = some later ∧ later.projectId = unit.projectId

theorem Db.KeepsSites.refl (db : Db) : db.KeepsSites db where
  bookings := fun _ booking found => ⟨booking, found, rfl⟩
  units := fun _ unit found => ⟨unit, found, rfl⟩

theorem Db.KeepsSites.trans {db middle after : Db} (first : db.KeepsSites middle)
    (second : middle.KeepsSites after) : db.KeepsSites after where
  bookings := by
    intro id booking found
    obtain ⟨between, present, same⟩ := first.bookings id booking found
    obtain ⟨later, stays, still⟩ := second.bookings id between present
    exact ⟨later, stays, still.trans same⟩
  units := by
    intro id unit found
    obtain ⟨between, present, same⟩ := first.units id unit found
    obtain ⟨later, stays, still⟩ := second.units id between present
    exact ⟨later, stays, still.trans same⟩

theorem Db.KeepsSites.projectOf {db after : Db} (keeps : db.KeepsSites after)
    {bookingId projectId : Nat} (project : db.projectOf bookingId = some projectId) :
    after.projectOf bookingId = some projectId := by
  obtain ⟨booking, found, located⟩ := Option.bind_eq_some_iff.mp project
  obtain ⟨unit, unitFound, rfl⟩ := Option.map_eq_some_iff.mp located
  obtain ⟨later, present, sameUnit⟩ := keeps.bookings _ booking found
  obtain ⟨laterUnit, unitPresent, sameProject⟩ := keeps.units _ unit unitFound
  unfold Db.projectOf
  rw [present, Option.bind_some, sameUnit, unitPresent, Option.map_some, sameProject]

theorem find?_modify_keeps {α β : Type} {table : Table α} {key : Nat} {change : α → α} (read : α → β)
    (kept : ∀ row, read (change row) = read row) {id : Nat} {row : α}
    (found : table.find? id = some row) :
    ∃ later, (table.modify key change).find? id = some later ∧ read later = read row := by
  rw [Table.find?_modify]
  split
  · exact ⟨change row, by rw [found]; rfl, kept row⟩
  · exact ⟨row, found, rfl⟩

theorem Db.keepsSites_setBookingStatus (db : Db) (bookingId : Nat) (status : BookingStatus) :
    db.KeepsSites (db.setBookingStatus bookingId status) where
  bookings := by
    intro id booking found
    apply find?_modify_keeps Booking.unitId ?_ found
    exact fun _ => rfl
  units := fun _ unit found => ⟨unit, found, rfl⟩

theorem Db.keepsSites_setUnitStatus (db : Db) (unitId : Nat) (status : UnitStatus) :
    db.KeepsSites (db.setUnitStatus unitId status) where
  bookings := fun _ booking found => ⟨booking, found, rfl⟩
  units := by
    intro id unit found
    apply find?_modify_keeps EstateUnit.projectId ?_ found
    exact fun _ => rfl

theorem transitionUnit_keepsSites {unitId : Nat} {toStatus : UnitStatus} {actorType : ActorType}
    {reason : Option String} {db after : Db}
    (accepted : transitionUnit unitId toStatus actorType reason db = .ok after) :
    db.KeepsSites after := by
  obtain ⟨_, _, _, rfl⟩ := transitionUnit_eq_ok accepted
  exact db.keepsSites_setUnitStatus unitId toStatus

theorem moveUnits_keepsSites {transferType : TransferType} {fromUnitId toUnitId : Nat}
    {db after : Db} (accepted : moveUnits transferType fromUnitId toUnitId db = .ok after) :
    db.KeepsSites after := by
  cases transferType with
  | applicant =>
    rw [moveUnits, pure_eq_ok] at accepted
    rw [accepted]
    exact .refl after
  | unit =>
    simp only [moveUnits, bind_eq_ok] at accepted
    obtain ⟨_, cancelled, _, released, booked⟩ := accepted
    exact (transitionUnit_keepsSites cancelled).trans
      ((transitionUnit_keepsSites released).trans (transitionUnit_keepsSites booked))

theorem releaseUnit_keepsSites {unitId : Nat} {db after : Db}
    (accepted : releaseUnit unitId db = .ok after) : db.KeepsSites after := by
  unfold releaseUnit at accepted
  split at accepted
  · rw [pure_eq_ok] at accepted
    rw [accepted]
    exact .refl after
  · split at accepted
    · rw [pure_eq_ok] at accepted
      rw [accepted]
      exact .refl after
    · split at accepted
      · exact transitionUnit_keepsSites accepted
      · rw [bind_eq_ok] at accepted
        obtain ⟨_, cancelled, released⟩ := accepted
        exact (transitionUnit_keepsSites cancelled).trans (transitionUnit_keepsSites released)

/-- **No operation moves a booking to another unit, or a unit to another project.** -/
theorem Effect.keepsSites {request : Request} {db after : Db} (effect : Effect request db after) :
    db.KeepsSites after := by
  cases effect with
  | createUnit =>
    exact {
      bookings := fun _ booking found => ⟨booking, found, rfl⟩
      units := fun _ unit found => ⟨unit, Table.find?_create_old _ found, rfl⟩ }
  | moveUnit accepted => exact db.keepsSites_setUnitStatus _ _
  | createBooking =>
    exact {
      bookings := fun _ booking found => ⟨booking, Table.find?_create_old _ found, rfl⟩
      units := (db.keepsSites_setUnitStatus _ _).units }
  | @advance _ _ bookingId target booking =>
    exact (db.keepsSites_setBookingStatus bookingId target.status).trans
      (Db.keepsSites_setUnitStatus _ _ _)
  | @setInterestRule _ _ bookingId ruleId =>
    refine ⟨fun id booking found => ?_, (Db.KeepsSites.refl db).units⟩
    apply find?_modify_keeps Booking.unitId ?_ found
    exact fun _ => rfl
  | instantiateFromTemplate found deactivated =>
    rw [deactivateExistingPlans_frame deactivated]
    exact ⟨(Db.KeepsSites.refl db).bookings, (Db.KeepsSites.refl db).units⟩
  | createCustomPlan found deactivated =>
    rw [deactivateExistingPlans_frame deactivated]
    exact ⟨(Db.KeepsSites.refl db).bookings, (Db.KeepsSites.refl db).units⟩
  | raiseStage stage =>
    rcases stage with rfl | ⟨stageRaise, rfl⟩ <;>
      exact ⟨fun _ booking found => ⟨booking, found, rfl⟩, fun _ unit found => ⟨unit, found, rfl⟩⟩
  | @voucherBounced _ _ _ voucher =>
    cases voucher.refundId <;>
      exact ⟨(Db.KeepsSites.refl db).bookings, (Db.KeepsSites.refl db).units⟩
  | @transfer masters _ fromBookingId dto booking fee unitId applicantId units found _ _ _ moved =>
    have closed := db.keepsSites_setBookingStatus fromBookingId .transferredOut
    have carried : db.KeepsSites (db.carryOver fromBookingId
        (transferredBooking masters booking unitId applicantId) (db.balance fromBookingId) fee) := by
      refine ⟨fun id row present => ?_, closed.units⟩
      obtain ⟨later, stays, same⟩ := closed.bookings id row present
      exact ⟨later, Table.find?_create_old _ stays, same⟩
    have both := carried.trans (moveUnits_keepsSites moved)
    exact ⟨both.bookings, both.units⟩
  | @cancel _ _ bookingId dto booking deduction units found _ _ released =>
    have closed := db.keepsSites_setBookingStatus bookingId dto.cancellationType.status
    have settled : db.KeepsSites (db.settle bookingId dto deduction) :=
      ⟨closed.bookings, closed.units⟩
    have both := settled.trans (releaseUnit_keepsSites released)
    exact ⟨both.bookings, both.units⟩
  | _ => exact ⟨(Db.KeepsSites.refl db).bookings, (Db.KeepsSites.refl db).units⟩

/-! ### Stages -/

def Masters.KeepsGrace (masters : Masters) (grace : Nat → Nat → Int) : Prop :=
  ∀ templateId template, masters.templates templateId = some template →
    ∀ milestone ∈ template.milestones,
      milestone.graceDaysAfterRaise = grace templateId milestone.seq

/-- **An installment follows its stage**: it carries the raise of its project, template and
milestone with the due date that goes with it, and nothing while there is none. -/
structure Db.Follows (db : Db) (grace : Nat → Nat → Int) (inst : Installment)
    (projectId templateId seq : Nat) : Prop where
  active : inst.isActive = true
  milestone : inst.milestoneSeq = some seq
  plan : ∃ plan, db.plans.find? inst.planId = some plan ∧ plan.isActive = true ∧
    plan.templateId = some templateId
  project : db.projectOf inst.bookingId = some projectId
  due : inst.dueDate = (db.findStageRaise projectId templateId seq).map fun raise =>
    computeRaisedDueDate raise.2.stageCompletedOn (grace templateId seq)
  raised : inst.stageRaiseId = (db.findStageRaise projectId templateId seq).map Prod.fst

/-- **The invariant**: installments linked to a stage follow it, and a stage is raised once. -/
structure Db.Staged (db : Db) (grace : Nat → Nat → Int) : Prop where
  follows : ∀ id inst, db.installments.find? id = some inst → inst.milestoneType = .stageLinked →
    ∃ projectId templateId seq, db.Follows grace inst projectId templateId seq
  one : ∀ first second raise other, db.stageRaises.find? first = some raise →
    db.stageRaises.find? second = some other → raise.projectId = other.projectId →
    raise.templateId = other.templateId → raise.milestoneSeq = other.milestoneSeq → first = second

theorem staged_empty (grace : Nat → Nat → Int) : ({} : Db).Staged grace where
  follows := by rintro id inst ⟨⟩
  one := by rintro first second raise other ⟨⟩

/-! ### What raising reaches -/

theorem Db.projectOf_eq_some {db : Db} {bookingId projectId : Nat} :
    db.projectOf bookingId = some projectId ↔
      ((db.bookings.find? bookingId).any fun booking =>
        (db.units.find? booking.unitId).any fun unit => unit.projectId = projectId) = true := by
  unfold Db.projectOf
  cases db.bookings.find? bookingId with
  | none => simp
  | some booking =>
    cases found : db.units.find? booking.unitId with
    | none => simp [found]
    | some unit => simp [found]

theorem Db.raises_eq_true {db : Db} {projectId : Nat} {dto : RaiseStageDto} {inst : Installment} :
    db.raises projectId dto inst = true ↔ inst.isActive = true ∧
      inst.milestoneType = .stageLinked ∧ inst.milestoneSeq = some dto.milestoneSeq ∧
      inst.dueDate = none ∧
      (∃ plan, db.plans.find? inst.planId = some plan ∧ plan.isActive = true ∧
        plan.templateId = some dto.templateId) ∧
      db.projectOf inst.bookingId = some projectId := by
  rw [Db.projectOf_eq_some]
  unfold Db.raises
  cases db.plans.find? inst.planId with
  | none => simp
  | some plan => simp

theorem Db.Follows.unique {db : Db} {grace : Nat → Nat → Int} {inst : Installment}
    {projectId templateId seq : Nat} (follows : db.Follows grace inst projectId templateId seq)
    {otherProject : Nat} {dto : RaiseStageDto} (reached : db.raises otherProject dto inst = true) :
    projectId = otherProject ∧ templateId = dto.templateId ∧ seq = dto.milestoneSeq := by
  obtain ⟨_, _, milestone, _, ⟨plan, found, _, named⟩, project⟩ := Db.raises_eq_true.mp reached
  obtain ⟨same, sameFound, _, sameNamed⟩ := follows.plan
  rw [found] at sameFound
  cases sameFound
  rw [named] at sameNamed
  rw [follows.project] at project
  rw [follows.milestone] at milestone
  exact ⟨Option.some.inj project, (Option.some.inj sameNamed).symm, Option.some.inj milestone⟩

/-- **Raising a stage again changes nothing.** -/
theorem Db.Staged.raised_eq_self {db : Db} {grace : Nat → Nat → Int} (staged : db.Staged grace)
    {projectId : Nat} {dto : RaiseStageDto} {existing : Nat × StageRaise}
    (found : db.findStageRaise projectId dto.templateId dto.milestoneSeq = some existing)
    (graceDays : Int) : db.raised projectId dto graceDays = db := by
  have same : db.findOrCreateRaise (dto.newRaise projectId) = (db, existing) := by
    unfold Db.findOrCreateRaise RaiseStageDto.newRaise
    rw [found]
  unfold Db.raised Db.setRaised
  rw [same]
  have none : ∀ id inst, db.installments.find? id = some inst →
      db.raises projectId dto inst = false := by
    intro id inst present
    refine Bool.eq_false_of_not_eq_true fun reached => ?_
    obtain ⟨_, linked, _, undue, _⟩ := Db.raises_eq_true.mp reached
    obtain ⟨_, _, _, follows⟩ := staged.follows id inst present linked
    obtain ⟨rfl, rfl, rfl⟩ := follows.unique reached
    rw [follows.due, found] at undue
    cases undue
  show { db with installments := db.installments.modifyAll _ _ } = db
  rw [Table.modifyAll_eq_self _ none]

theorem Db.findStageRaise_addStageRaise (db : Db) (stageRaise : StageRaise)
    (projectId templateId seq : Nat) :
    (db.addStageRaise stageRaise).findStageRaise projectId templateId seq =
      (db.findStageRaise projectId templateId seq).or
        (if stageRaise.projectId = projectId ∧ stageRaise.templateId = templateId ∧
            stageRaise.milestoneSeq = seq then
          some (db.stageRaises.nextId, stageRaise) else none) := by
  unfold Db.findStageRaise Db.addStageRaise
  rw [Table.findFirst?_create]
  simp

theorem Db.raised_eq {db : Db} {projectId : Nat} {dto : RaiseStageDto}
    (fresh : db.findStageRaise projectId dto.templateId dto.milestoneSeq = none) (graceDays : Int) :
    db.raised projectId dto graceDays =
      (db.addStageRaise (dto.newRaise projectId)).setRaised (db.raises projectId dto)
        (computeRaisedDueDate (toUtcMidnight dto.stageCompletedOn) graceDays)
        db.stageRaises.nextId := by
  have created : db.findOrCreateRaise (dto.newRaise projectId) =
      (db.addStageRaise (dto.newRaise projectId), db.stageRaises.nextId, dto.newRaise projectId) := by
    unfold Db.findOrCreateRaise
    have fresh : db.findStageRaise (dto.newRaise projectId).projectId
      (dto.newRaise projectId).templateId (dto.newRaise projectId).milestoneSeq = none := fresh
    rw [fresh]
  unfold Db.raised
  rw [created]
  rfl

/-- **Raising a stage for the first time** dates what waits for it, and nothing else. -/
theorem Db.Staged.raise {db : Db} {grace : Nat → Nat → Int} (staged : db.Staged grace)
    {projectId : Nat} {dto : RaiseStageDto}
    (fresh : db.findStageRaise projectId dto.templateId dto.milestoneSeq = none) :
    (db.raised projectId dto (grace dto.templateId dto.milestoneSeq)).Staged grace := by
  rw [Db.raised_eq fresh]
  constructor
  case follows =>
    intro id inst found linked
    have found : (db.installments.modifyAll _ _).find? id = some inst := found
    rw [Table.find?_modifyAll] at found
    obtain ⟨before, present, rfl⟩ := Option.map_eq_some_iff.mp found
    by_cases reached : db.raises projectId dto before = true
    · rw [if_pos reached] at linked ⊢
      obtain ⟨project, template, seq, follows⟩ := staged.follows id before present linked
      obtain ⟨rfl, rfl, rfl⟩ := follows.unique reached
      have raise : (db.addStageRaise (dto.newRaise project)).findStageRaise project
          dto.templateId dto.milestoneSeq =
            some (db.stageRaises.nextId, dto.newRaise project) := by
        rw [Db.findStageRaise_addStageRaise, fresh, Option.none_or, if_pos ⟨rfl, rfl, rfl⟩]
      refine ⟨project, dto.templateId, dto.milestoneSeq, ?_⟩
      exact {
        active := follows.active
        milestone := follows.milestone
        plan := follows.plan
        project := follows.project
        due := by
          show _ = Option.map _ ((db.addStageRaise _).findStageRaise _ _ _)
          rw [raise]
          rfl
        raised := by
          show _ = Option.map _ ((db.addStageRaise _).findStageRaise _ _ _)
          rw [raise]
          rfl }
    · rw [if_neg reached] at linked ⊢
      obtain ⟨project, template, seq, follows⟩ := staged.follows id before present linked
      have other : (db.addStageRaise (dto.newRaise projectId)).findStageRaise project template seq =
          db.findStageRaise project template seq := by
        rw [Db.findStageRaise_addStageRaise, if_neg, Option.or_none]
        rintro ⟨rfl, rfl, rfl⟩
        have undue := follows.due
        have fresh : db.findStageRaise (dto.newRaise projectId).projectId
          (dto.newRaise projectId).templateId (dto.newRaise projectId).milestoneSeq = none := fresh
        rw [fresh] at undue
        exact reached (Db.raises_eq_true.mpr ⟨follows.active, linked, follows.milestone, undue,
          follows.plan, follows.project⟩)
      refine ⟨project, template, seq, ?_⟩
      exact {
        active := follows.active
        milestone := follows.milestone
        plan := follows.plan
        project := follows.project
        due := follows.due.trans (congrArg (Option.map _) other).symm
        raised := follows.raised.trans (congrArg (Option.map _) other).symm }
  case one =>
    have new : ∀ id raise, db.stageRaises.find? id = some raise →
        raise.projectId = projectId → raise.templateId = dto.templateId →
        raise.milestoneSeq ≠ dto.milestoneSeq := by
      intro id raise found sameProject sameTemplate sameSeq
      have unmet := Table.findFirst?_eq_none.mp fresh id raise found
      simp [sameProject, sameTemplate, sameSeq] at unmet
    intro first second raise other found otherFound sameProject sameTemplate sameSeq
    rcases Table.find?_create_eq_some.mp found with ⟨rfl, rfl⟩ | old <;>
      rcases Table.find?_create_eq_some.mp otherFound with ⟨rfl, rfl⟩ | otherOld
    · rfl
    · exact absurd sameSeq.symm (new second other otherOld sameProject.symm sameTemplate.symm)
    · exact absurd sameSeq (new first raise old sameProject sameTemplate)
    · exact staged.one first second raise other old otherOld sameProject sameTemplate sameSeq

/-! ### Every operation -/

def Installment.SameButPaid (before inst : Installment) : Prop :=
  inst = { before with allocatedPaise := inst.allocatedPaise, status := inst.status }

theorem Db.Follows.keep {db after : Db} {grace : Nat → Nat → Int} {before inst : Installment}
    {projectId templateId seq : Nat} (follows : db.Follows grace before projectId templateId seq)
    (same : before.SameButPaid inst) (raises : after.stageRaises = db.stageRaises)
    (sites : db.KeepsSites after)
    (plans : ∀ plan, db.plans.find? before.planId = some plan → plan.isActive = true →
      after.plans.find? before.planId = some plan) :
    after.Follows grace inst projectId templateId seq := by
  obtain ⟨plan, found, active, named⟩ := follows.plan
  have unchanged : after.findStageRaise projectId templateId seq =
      db.findStageRaise projectId templateId seq := by
    unfold Db.findStageRaise
    rw [raises]
  rw [same]
  exact {
    active := follows.active
    milestone := follows.milestone
    plan := ⟨plan, plans plan found active, active, named⟩
    project := sites.projectOf follows.project
    due := follows.due.trans (congrArg (Option.map _) unchanged).symm
    raised := follows.raised.trans (congrArg (Option.map _) unchanged).symm }

/-- **What an operation other than a raise does to staged installments**: those it leaves keep
their plans, and those it adds follow their stages. -/
theorem Db.Staged.keep {db after : Db} {grace : Nat → Nat → Int} (staged : db.Staged grace)
    (sites : db.KeepsSites after) (raises : after.stageRaises = db.stageRaises)
    (installments : ∀ id inst, after.installments.find? id = some inst →
      inst.milestoneType = .stageLinked →
      (∃ before, db.installments.find? id = some before ∧ before.SameButPaid inst ∧
        ∀ plan, db.plans.find? before.planId = some plan → plan.isActive = true →
          after.plans.find? before.planId = some plan) ∨
      ∃ projectId templateId seq, after.Follows grace inst projectId templateId seq) :
    after.Staged grace where
  follows := by
    intro id inst found linked
    rcases installments id inst found linked with ⟨before, present, same, plans⟩ | new
    · have stillLinked : before.milestoneType = .stageLinked := by
        rw [same] at linked
        exact linked
      obtain ⟨projectId, templateId, seq, follows⟩ := staged.follows id before present stillLinked
      exact ⟨projectId, templateId, seq, follows.keep same raises sites plans⟩
    · exact new
  one := by
    rw [raises]
    exact staged.one

theorem Db.PlansDropped.left {db cleared after : Db} {bookingId : Nat}
    (dropped : db.PlansDropped bookingId cleared) {opened : PaymentPlan}
    (plans : after.plans = cleared.plans.create opened) {id : Nat} {inst : Installment}
    (found : cleared.installments.find? id = some inst) :
    ∃ before, db.installments.find? id = some before ∧ before.SameButPaid inst ∧
      ∀ plan, db.plans.find? before.planId = some plan → plan.isActive = true →
        after.plans.find? before.planId = some plan := by
  obtain ⟨present, others⟩ := dropped.installments id inst found
  refine ⟨inst, present, rfl, fun plan planFound active => ?_⟩
  rw [plans]
  apply Table.find?_create_old
  exact dropped.stays _ plan planFound active (others plan planFound active)

theorem projectOf_of_load {bookingId : Nat} {db : Db} {loaded : BookingForPlan}
    (load : loadBookingForPlan bookingId db = .ok loaded) :
    db.projectOf bookingId = some loaded.projectId := by
  simp only [loadBookingForPlan, bind_eq_ok, orThrow_eq_ok, pure_eq_ok] at load
  obtain ⟨booking, found, unit, unitFound, rfl⟩ := load
  unfold Db.projectOf
  rw [found, Option.bind_some, unitFound]
  rfl

theorem milestoneType_milestoneInstallment (db : Db) (loaded : BookingForPlan)
    (bookingId planId templateId : Nat) (milestone : PaymentPlanMilestone) (amountPaise : Int) :
    (milestoneInstallment db loaded bookingId planId templateId milestone amountPaise).milestoneType =
      milestone.milestoneType := by
  unfold milestoneInstallment
  split <;> rename_i kind <;> rw [kind]

theorem follows_milestoneInstallment {db after : Db} {grace : Nat → Nat → Int}
    {loaded : BookingForPlan} {bookingId planId templateId : Nat} {milestone : PaymentPlanMilestone}
    (linked : milestone.milestoneType = .stageLinked)
    (kept : milestone.graceDaysAfterRaise = grace templateId milestone.seq)
    (raises : after.stageRaises = db.stageRaises)
    (plan : ∃ plan, after.plans.find? planId = some plan ∧ plan.isActive = true ∧
      plan.templateId = some templateId)
    (project : after.projectOf bookingId = some loaded.projectId) (amountPaise : Int) :
    after.Follows grace
      (milestoneInstallment db loaded bookingId planId templateId milestone amountPaise)
      loaded.projectId templateId milestone.seq := by
  have unchanged : after.findStageRaise loaded.projectId templateId milestone.seq =
      db.findStageRaise loaded.projectId templateId milestone.seq := by
    unfold Db.findStageRaise
    rw [raises]
  unfold milestoneInstallment
  rw [linked]
  exact {
    active := rfl
    milestone := rfl
    plan := plan
    project := project
    due := by rw [unchanged, ← kept]
    raised := by rw [unchanged] }

/-- **Where an installment linked to a stage comes from** in an operation that is no raise: it was
there and keeps its plan, or it is that of a milestone of a template. -/
inductive Db.LinkedFrom (masters : Masters) (db after : Db) (id : Nat) (inst : Installment) : Prop
  | left {before : Installment} (present : db.installments.find? id = some before)
      (same : before.SameButPaid inst)
      (plans : ∀ plan, db.plans.find? before.planId = some plan → plan.isActive = true →
        after.plans.find? before.planId = some plan) : LinkedFrom masters db after id inst
  | planned {loaded : BookingForPlan} {bookingId planId templateId : Nat}
      {template : PaymentPlanTemplate} {milestone : PaymentPlanMilestone} {amountPaise : Int}
      (found : masters.templates templateId = some template)
      (listed : milestone ∈ template.milestones) (linked : milestone.milestoneType = .stageLinked)
      (plan : ∃ plan, after.plans.find? planId = some plan ∧ plan.isActive = true ∧
        plan.templateId = some templateId)
      (project : db.projectOf bookingId = some loaded.projectId)
      (is : inst =
        milestoneInstallment db loaded bookingId planId templateId milestone amountPaise) :
      LinkedFrom masters db after id inst

/-- An operation that is no raise: every installment linked to a stage comes from one, or from a
milestone, and the raises stay. -/
structure Db.KeepsLinks (masters : Masters) (db after : Db) : Prop where
  raises : after.stageRaises = db.stageRaises
  installments : ∀ id inst, after.installments.find? id = some inst →
    inst.milestoneType = .stageLinked → db.LinkedFrom masters after id inst

theorem Db.KeepsLinks.createMany {masters : Masters} {db after : Db}
    (raises : after.stageRaises = db.stageRaises) {kept : Table Installment}
    {rows : List Installment} (installments : after.installments = kept.createMany rows)
    (left : ∀ id inst, kept.find? id = some inst →
      ∃ before, db.installments.find? id = some before ∧ before.SameButPaid inst ∧
        ∀ plan, db.plans.find? before.planId = some plan → plan.isActive = true →
          after.plans.find? before.planId = some plan)
    (new : ∀ id, ∀ inst ∈ rows, inst.milestoneType = .stageLinked →
      db.LinkedFrom masters after id inst) : db.KeepsLinks masters after := by
  refine ⟨raises, fun id inst found linked => ?_⟩
  rw [installments] at found
  rcases Table.find?_createMany found with old | ⟨_, written⟩
  · obtain ⟨before, present, same, plans⟩ := left id inst old
    exact .left present same plans
  · exact new id inst written linked

theorem instantiateFromTemplate_keepsLinks {masters : Masters} {bookingId templateId : Nat}
    {db after : Db} (accepted : instantiateFromTemplate masters bookingId templateId db = .ok after) :
    db.KeepsLinks masters after := by
  obtain ⟨loaded, template, cleared, amounts, load, templateFound, _, deactivated, _, rfl⟩ :=
    instantiateFromTemplate_eq_ok_iff.mp accepted
  have raises : cleared.stageRaises = db.stageRaises := by
    rw [deactivateExistingPlans_frame deactivated]
  refine .createMany raises rfl (fun id inst present =>
    (deactivateExistingPlans_dropped deactivated).left rfl present) fun id inst written linked => ?_
  rw [← List.map_uncurry_zip_eq_zipWith] at written
  obtain ⟨⟨milestone, amount⟩, listed, rfl⟩ := List.mem_map.mp written
  rw [Function.uncurry_apply_pair, milestoneType_milestoneInstallment] at linked
  exact .planned templateFound (List.of_mem_zip listed).1 linked
    ⟨_, Table.find?_create_self _ _, rfl, rfl⟩ (projectOf_of_load load) rfl

theorem Db.KeepsLinks.addCustom {masters : Masters} {db after : Db}
    (raises : after.stageRaises = db.stageRaises)
    {kept : Table Installment} {bookingId planId seq : Nat} {inputs : List InstallmentInput}
    {amounts : List Int}
    (installments : after.installments =
      kept.createMany (customInstallments bookingId planId seq inputs amounts))
    (left : ∀ id inst, kept.find? id = some inst →
      ∃ before, db.installments.find? id = some before ∧ before.SameButPaid inst ∧
        ∀ plan, db.plans.find? before.planId = some plan → plan.isActive = true →
          after.plans.find? before.planId = some plan) :
    db.KeepsLinks masters after := by
  apply Db.KeepsLinks.createMany raises installments left
  intro id inst written linked
  rw [milestoneType_customInstallments written] at linked
  cases linked

theorem exec_keepsLinks {db after : Db} {request : Request}
    (other : ∀ projectId dto, request.op ≠ .raiseStage projectId dto)
    (accepted : exec request db = .ok after) : db.KeepsLinks request.masters after := by
  have bumped : ∀ (deltas : List (Nat × Int)) (id : Nat) (inst : Installment),
      (bumpAll db.installments deltas).find? id = some inst →
      ∃ before, db.installments.find? id = some before ∧ before.SameButPaid inst := by
    intro deltas id inst found
    obtain ⟨before, present, moved⟩ := exists_of_find?_bumpAll found
    refine ⟨before, present, ?_⟩
    unfold Installment.SameButPaid
    rw [moved.allocated]
    exact moved.kept
  -- what is paid on installments does not touch plans
  have moved : ∀ {after : Db} (deltas : List (Nat × Int)), after.stageRaises = db.stageRaises →
      after.plans = db.plans → after.installments = bumpAll db.installments deltas →
      db.KeepsLinks request.masters after := by
    intro after deltas raises plans installments
    refine ⟨raises, fun id inst found _ => ?_⟩
    rw [installments] at found
    obtain ⟨before, present, same⟩ := bumped deltas id inst found
    exact .left present same fun plan planFound _ => plans ▸ planFound
  have unchanged : ∀ {after : Db}, after.stageRaises = db.stageRaises → after.plans = db.plans →
      after.installments = db.installments → db.KeepsLinks request.masters after := by
    intro after raises plans installments
    refine ⟨raises, fun id inst found _ => ?_⟩
    rw [installments] at found
    exact .left found rfl fun plan planFound _ => plans ▸ planFound
  cases exec_effect accepted with
  | instantiateFromTemplate => exact instantiateFromTemplate_keepsLinks accepted
  | createCustomPlan found deactivated =>
    have accepted : createCustomPlan _ _ db = .ok _ := accepted
    simp only [createCustomPlan, bind_eq_ok, pure_eq_ok] at accepted
    obtain ⟨_, _, cleared, dropped, amounts, _, same⟩ := accepted
    rw [← same]
    have raises : cleared.stageRaises = db.stageRaises := by
      rw [deactivateExistingPlans_frame dropped]
    exact .addCustom raises rfl fun id inst present =>
      (deactivateExistingPlans_dropped dropped).left rfl present
  | editPlan =>
    have accepted : editPlan _ _ db = .ok _ := accepted
    simp only [editPlan, bind_eq_ok, ensure_eq_ok, orThrow_eq_ok, pure_eq_ok] at accepted
    obtain ⟨_, _, plan, _, _, _, amounts, _, cleared, deleted, same⟩ := accepted
    obtain ⟨_, rfl⟩ := deleteInstallments_eq_ok deleted
    rw [← same]
    refine .addCustom rfl rfl fun id inst present => ?_
    have present : (db.installments.delete _).find? id = some inst := present
    rw [Table.find?_delete, Option.filter_eq_some_iff] at present
    exact ⟨inst, present.1, rfl, fun _ planFound _ => planFound⟩
  | @raiseStage _ _ projectId dto => exact absurd rfl (other projectId dto)
  | @createReceipt _ _ dto =>
    exact moved _ rfl rfl (recordReceipt_installments _ _)
  | recordBounce => exact moved _ rfl rfl rfl
  | reverseReceipt => exact moved _ rfl rfl rfl
  | @voucherBounced _ _ _ voucher =>
    cases named : voucher.refundId <;> exact unchanged rfl rfl rfl
  | _ => exact unchanged rfl rfl rfl

/-- **The links that are kept follow their stages**, and those of a new plan follow theirs, raised
before or not. -/
theorem Db.Staged.keepsLinks {masters : Masters} {db after : Db} {grace : Nat → Nat → Int}
    (staged : db.Staged grace) (kept : masters.KeepsGrace grace) (sites : db.KeepsSites after)
    (links : db.KeepsLinks masters after) : after.Staged grace := by
  apply staged.keep sites links.raises
  intro id inst found linked
  cases links.installments id inst found linked with
  | left present same plans => exact Or.inl ⟨_, present, same, plans⟩
  | planned templateFound listed stage plan project is =>
    rw [is]
    exact Or.inr ⟨_, _, _, follows_milestoneInstallment stage (kept _ _ templateFound _ listed)
      links.raises plan (sites.projectOf project) _⟩

theorem instantiateFromTemplate_staged {masters : Masters} {bookingId templateId : Nat}
    {db after : Db} {grace : Nat → Nat → Int} (staged : db.Staged grace)
    (kept : masters.KeepsGrace grace) (sites : db.KeepsSites after)
    (accepted : instantiateFromTemplate masters bookingId templateId db = .ok after) :
    after.Staged grace :=
  staged.keepsLinks kept sites (instantiateFromTemplate_keepsLinks accepted)

theorem Masters.Raisable.grace {masters : Masters} {projectId : Nat} {dto : RaiseStageDto}
    {milestone : PaymentPlanMilestone} (raisable : masters.Raisable projectId dto milestone)
    {grace : Nat → Nat → Int} (kept : masters.KeepsGrace grace) :
    milestone.graceDaysAfterRaise = grace dto.templateId dto.milestoneSeq := by
  obtain ⟨template, found, listed⟩ := Option.bind_eq_some_iff.mp raisable.2.1
  rw [kept dto.templateId template found milestone (List.mem_of_find?_eq_some listed)]
  have seq := List.find?_some listed
  rw [of_decide_eq_true seq]

theorem Db.Staged.step {db after : Db} {grace : Nat → Nat → Int} (staged : db.Staged grace)
    {request : Request} (kept : request.masters.KeepsGrace grace)
    (accepted : exec request db = .ok after) : after.Staged grace := by
  by_cases raise : ∃ projectId dto, request.op = .raiseStage projectId dto
  · obtain ⟨projectId, dto, is⟩ := raise
    rw [exec, is] at accepted
    obtain ⟨milestone, raisable, rfl⟩ := raiseStage_eq_ok_iff.mp accepted
    rw [raisable.grace kept]
    cases found : db.findStageRaise projectId dto.templateId dto.milestoneSeq with
    | none => exact staged.raise found
    | some existing =>
      rw [staged.raised_eq_self found]
      exact staged
  · have other : ∀ projectId dto, request.op ≠ .raiseStage projectId dto :=
      fun projectId dto is => raise ⟨projectId, dto, is⟩
    exact staged.keepsLinks kept (exec_effect accepted).keepsSites (exec_keepsLinks other accepted)

theorem staged_run {grace : Nat → Nat → Int} {requests : List Request}
    (kept : ∀ request ∈ requests, request.masters.KeepsGrace grace) :
    (run exec {} requests).Staged grace := by
  have step : ∀ request before after, request.masters.KeepsGrace grace → before.Staged grace →
      exec request before = .ok after → after.Staged grace :=
    fun request before after met staged accepted => staged.step met accepted
  exact run_invariant kept step (staged_empty grace)

theorem Db.Follows.raise_iff {db : Db} {grace : Nat → Nat → Int} (staged : db.Staged grace)
    {inst : Installment} {projectId templateId seq : Nat}
    (follows : db.Follows grace inst projectId templateId seq) :
    (∀ raiseId raise, db.stageRaises.find? raiseId = some raise → raise.projectId = projectId →
      raise.templateId = templateId → raise.milestoneSeq = seq →
      inst.stageRaiseId = some raiseId ∧
        inst.dueDate = some (computeRaisedDueDate raise.stageCompletedOn (grace templateId seq))) ∧
    ((∀ raiseId raise, db.stageRaises.find? raiseId = some raise → raise.projectId = projectId →
      raise.templateId = templateId → raise.milestoneSeq ≠ seq) →
      inst.stageRaiseId = none ∧ inst.dueDate = none) := by
  cases found : db.findStageRaise projectId templateId seq with
  | none =>
    have unmet := Table.findFirst?_eq_none.mp found
    refine ⟨fun raiseId raise present sameProject sameTemplate sameSeq => ?_, fun _ => ?_⟩
    · have none := unmet raiseId raise present
      simp [sameProject, sameTemplate, sameSeq] at none
    · rw [follows.raised, follows.due, found]
      exact ⟨rfl, rfl⟩
  | some existing =>
    obtain ⟨present, met⟩ := Table.findFirst?_eq_some found
    simp only [Bool.decide_and, Bool.and_eq_true, decide_eq_true_eq] at met
    refine ⟨fun raiseId raise other sameProject sameTemplate sameSeq => ?_, fun never => ?_⟩
    · have same := staged.one raiseId existing.1 raise existing.2 other present
        (sameProject.trans met.1.symm) (sameTemplate.trans met.2.1.symm)
        (sameSeq.trans met.2.2.symm)
      subst same
      rw [present] at other
      cases other
      rw [follows.raised, follows.due, found]
      exact ⟨rfl, rfl⟩
    · exact absurd met.2.2 (never existing.1 existing.2 present met.1 met.2.1)

end OpenEstate
