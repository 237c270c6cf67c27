/-
**Raising a stage and making a plan commute.**

A stage raised before a plan is made is read by the plan; one raised after it dates the plan's
installments. The database is the same in the end (`instantiateFromTemplate_raised`), since a raise
dates installments without touching what the plans of a booking are dropped by, and a new
installment is dated alike by the plan and by the raise.
-/

import OpenEstate.Postsales.StageRaise

namespace OpenEstate

open Relational

def Installment.dated (dueDate : Date) (stageRaiseId : Nat) (inst : Installment) : Installment :=
  { inst with dueDate := some dueDate, stageRaiseId := some stageRaiseId }

/-- The database with the first raise of a stage recorded, and installments dated by it. -/
def Db.dated (db : Db) (stageRaise : StageRaise) (which : Installment → Bool) (dueDate : Date)
    (stageRaiseId : Nat) : Db :=
  { db with
    stageRaises := db.stageRaises.create stageRaise
    installments := db.installments.modifyAll (fun _ => which)
      (Installment.dated dueDate stageRaiseId) }

section Dropping

variable (stageRaise : StageRaise) (which : Installment → Bool) (dueDate : Date) (stageRaiseId : Nat)

theorem deleteInstallments_dated (db : Db) {dropped : Nat → Installment → Bool}
    (undated : ∀ id inst, dropped id (Installment.dated dueDate stageRaiseId inst) = dropped id inst) :
    (db.dated stageRaise which dueDate stageRaiseId).deleteInstallments dropped =
      (·.dated stageRaise which dueDate stageRaiseId) <$> db.deleteInstallments dropped := by
  have sameRow : ∀ id, (((db.dated stageRaise which dueDate stageRaiseId).installments.find? id).map
      (dropped id)).getD false = ((db.installments.find? id).map (dropped id)).getD false := by
    intro id
    show (((db.installments.modifyAll _ _).find? id).map (dropped id)).getD false = _
    rw [Table.find?_modifyAll, Option.map_map]
    congr 2
    funext inst
    show dropped id (if which inst then Installment.dated dueDate stageRaiseId inst else inst) =
      dropped id inst
    split
    · exact undated id inst
    · rfl
  have sameDrop : (db.dated stageRaise which dueDate stageRaiseId).dropInstallments dropped =
      (db.dropInstallments dropped).dated stageRaise which dueDate stageRaiseId := by
    unfold Db.dropInstallments Db.dated
    rw [Table.delete_modifyAll _ _ _ undated]
  unfold Db.deleteInstallments
  simp only [sameRow, sameDrop, map_bind, map_pure]
  rfl

theorem deactivatePlan_dated (db : Db) (planId : Nat) :
    deactivatePlan (db.dated stageRaise which dueDate stageRaiseId) planId =
      (·.dated stageRaise which dueDate stageRaiseId) <$> deactivatePlan db planId := by
  unfold deactivatePlan
  have paid : (db.dated stageRaise which dueDate stageRaiseId).installments.any
      (fun _ inst => inst.planId = planId ∧ 0 < inst.allocatedPaise) =
      db.installments.any (fun _ inst => inst.planId = planId ∧ 0 < inst.allocatedPaise) := by
    show (db.installments.modifyAll (fun _ => which) (Installment.dated dueDate stageRaiseId)).any
      (fun _ inst => inst.planId = planId ∧ 0 < inst.allocatedPaise) = _
    exact Table.any_modifyAll _ _ _ fun _ _ => rfl
  rw [paid, deleteInstallments_dated stageRaise which dueDate stageRaiseId db fun _ _ => rfl]
  simp only [map_bind, bind_map_left, map_pure]
  rfl

/-- **The plans of a booking are dropped before a raise or after it.** -/
theorem deactivateExistingPlans_dated (db : Db) (bookingId : Nat) :
    deactivateExistingPlans bookingId (db.dated stageRaise which dueDate stageRaiseId) =
      (·.dated stageRaise which dueDate stageRaiseId) <$> deactivateExistingPlans bookingId db := by
  unfold deactivateExistingPlans
  show (db.plans.select fun _ plan => plan.bookingId = bookingId ∧ plan.isActive).foldlM _ _ = _
  generalize (db.plans.select fun _ plan => plan.bookingId = bookingId ∧ plan.isActive) = rows
  induction rows generalizing db with
  | nil => rfl
  | cons row rest ih =>
    rw [List.foldlM_cons, List.foldlM_cons, deactivatePlan_dated, bind_map_left, map_bind]
    congr 1
    funext middle
    exact ih middle

end Dropping

/-! ### One database in the end -/

variable {projectId : Nat}
variable {db : Db} {dto : RaiseStageDto}

theorem Db.raised_eq_dated
    (fresh : db.findStageRaise projectId dto.templateId dto.milestoneSeq = none) (graceDays : Int) :
    db.raised projectId dto graceDays = db.dated (dto.newRaise projectId) (db.raises projectId dto)
      (computeRaisedDueDate (toUtcMidnight dto.stageCompletedOn) graceDays)
      db.stageRaises.nextId :=
  Db.raised_eq fresh graceDays

variable {bookingId templateId : Nat}
variable {after : Db}

/-- **A new installment is dated alike** by a plan that reads the raise and by a raise that finds
the installment. -/
theorem milestoneInstallment_dated {loaded : BookingForPlan} {planId : Nat}
    {milestone : PaymentPlanMilestone} {graceDays : Int}
    (fresh : db.findStageRaise projectId dto.templateId dto.milestoneSeq = none)
    (plan : ∃ plan, after.plans.find? planId = some plan ∧ plan.isActive = true ∧
      plan.templateId = some templateId)
    (project : after.projectOf bookingId = some loaded.projectId)
    (sameGrace : templateId = dto.templateId → milestone.seq = dto.milestoneSeq →
      milestone.graceDaysAfterRaise = graceDays) (amountPaise : Int) :
    milestoneInstallment (db.addStageRaise (dto.newRaise projectId)) loaded bookingId planId
        templateId milestone amountPaise =
      (fun inst => if after.raises projectId dto inst then
          Installment.dated (computeRaisedDueDate (toUtcMidnight dto.stageCompletedOn) graceDays)
            db.stageRaises.nextId inst
        else inst)
        (milestoneInstallment db loaded bookingId planId templateId milestone amountPaise) := by
  show _ = if _ then _ else _
  cases kind : milestone.milestoneType with
  | dateLinked =>
    rw [if_neg]
    · unfold milestoneInstallment
      rw [kind]
    · intro reached
      have linked := (Db.raises_eq_true.mp reached).2.1
      rw [milestoneType_milestoneInstallment, kind] at linked
      cases linked
  | stageLinked =>
    have raise := db.findStageRaise_addStageRaise (dto.newRaise projectId) loaded.projectId
      templateId milestone.seq
    by_cases same : (dto.newRaise projectId).projectId = loaded.projectId ∧
        (dto.newRaise projectId).templateId = templateId ∧
        (dto.newRaise projectId).milestoneSeq = milestone.seq
    · obtain ⟨sameProject, sameTemplate, sameSeq⟩ := same
      have unraised : db.findStageRaise loaded.projectId templateId milestone.seq = none := by
        rw [← sameProject, ← sameTemplate, ← sameSeq]
        exact fresh
      rw [if_pos]
      · unfold milestoneInstallment
        rw [kind]
        simp only [raise, unraised, Option.none_or, if_pos (And.intro sameProject
          (And.intro sameTemplate sameSeq))]
        rw [sameGrace sameTemplate.symm sameSeq.symm]
        rfl
      · obtain ⟨found, planFound, active, named⟩ := plan
        unfold milestoneInstallment
        rw [kind]
        refine Db.raises_eq_true.mpr ⟨rfl, rfl, ?_, ?_, ⟨found, planFound, active, ?_⟩, ?_⟩
        · exact congrArg some sameSeq.symm
        · simp only [unraised]
          rfl
        · rw [named, ← sameTemplate]
          rfl
        · exact project.trans (congrArg some sameProject.symm)
    · rw [if_neg same, Option.or_none] at raise
      rw [if_neg]
      · unfold milestoneInstallment
        rw [kind]
        simp only [raise]
      · intro reached
        apply same
        obtain ⟨_, _, milestoneSeq, _, ⟨found, planFound, _, named⟩, sameProject⟩ :=
          Db.raises_eq_true.mp reached
        unfold milestoneInstallment at milestoneSeq planFound sameProject
        rw [kind] at milestoneSeq planFound sameProject
        obtain ⟨other, otherFound, _, otherNamed⟩ := plan
        have planFound : after.plans.find? planId = some found := planFound
        rw [planFound] at otherFound
        cases otherFound
        have sameProject : after.projectOf bookingId = some projectId := sameProject
        rw [project] at sameProject
        rw [named] at otherNamed
        exact ⟨(Option.some.inj sameProject).symm, Option.some.inj otherNamed,
          (Option.some.inj milestoneSeq).symm⟩

theorem Db.raises_congr {inst : Installment}
    (plans : after.plans.find? inst.planId = db.plans.find? inst.planId)
    (bookings : after.bookings = db.bookings) (units : after.units = db.units) (projectId : Nat)
    (dto : RaiseStageDto) : after.raises projectId dto inst = db.raises projectId dto inst := by
  unfold Db.raises
  rw [plans, bookings, units]

theorem dated_addInstallments {cleared : Db} {stageRaise : StageRaise}
    {which other : Installment → Bool} {dueDate : Date} {stageRaiseId : Nat} {plan : PaymentPlan}
    {dated rows : List Installment}
    (left : ∀ id inst, cleared.installments.find? id = some inst → which inst = other inst)
    (new : dated = rows.map fun inst =>
      if other inst then Installment.dated dueDate stageRaiseId inst else inst) :
    ((cleared.dated stageRaise which dueDate stageRaiseId).addPlan plan).addInstallments dated =
      ((cleared.addPlan plan).addInstallments rows).dated stageRaise other dueDate stageRaiseId := by
  unfold Db.addInstallments Db.addPlan Db.dated
  rw [Table.modifyAll_createMany, Table.modifyAll_congr left, new]

theorem addInstallments_raised {masters : Masters} {cleared : Db} {grace : Nat → Nat → Int}
    (planned : db.Planned) (kept : masters.KeepsGrace grace)
    (fresh : db.findStageRaise projectId dto.templateId dto.milestoneSeq = none)
    {loaded : BookingForPlan} (load : loadBookingForPlan bookingId db = .ok loaded)
    {template : PaymentPlanTemplate} (found : masters.templates templateId = some template)
    (deactivated : deactivateExistingPlans bookingId db = .ok cleared) (amounts : List Int) :
    ((cleared.dated (dto.newRaise projectId) (db.raises projectId dto)
        (computeRaisedDueDate (toUtcMidnight dto.stageCompletedOn)
          (grace dto.templateId dto.milestoneSeq)) db.stageRaises.nextId).addPlan
            { bookingId, templateId := some templateId }).addInstallments
        (List.zipWith (milestoneInstallment (db.addStageRaise (dto.newRaise projectId)) loaded
          bookingId cleared.plans.nextId templateId) template.milestones amounts) =
      ((cleared.addPlan { bookingId, templateId := some templateId }).addInstallments
        (List.zipWith (milestoneInstallment db loaded bookingId cleared.plans.nextId templateId)
          template.milestones amounts)).raised projectId dto
            (grace dto.templateId dto.milestoneSeq) := by
  have frame := deactivateExistingPlans_frame deactivated
  have raises : cleared.stageRaises = db.stageRaises := by rw [frame]
  have bookings : cleared.bookings = db.bookings := by rw [frame]
  have units : cleared.units = db.units := by rw [frame]
  generalize rows : List.zipWith
    (milestoneInstallment db loaded bookingId cleared.plans.nextId templateId)
      template.milestones amounts = schedule
  have stillFresh : ((cleared.addPlan { bookingId, templateId := some templateId }).addInstallments
      schedule).findStageRaise projectId dto.templateId dto.milestoneSeq = none := by
    unfold Db.findStageRaise at fresh ⊢
    rw [← raises] at fresh
    exact fresh
  rw [Db.raised_eq_dated stillFresh]
  show _ = Db.dated _ _ _ _ cleared.stageRaises.nextId
  rw [raises]
  apply dated_addInstallments
  · intro id inst present
    have dropped := deactivateExistingPlans_dropped deactivated
    obtain ⟨plan, planFound, active, own⟩ := planned.home id inst (dropped.installments id inst present).1
    have stays : ((cleared.addPlan { bookingId, templateId := some templateId }).addInstallments
        schedule).plans.find? inst.planId = some plan :=
      Table.find?_create_old _ (dropped.stays _ plan planFound active
        ((dropped.installments id inst present).2 plan planFound active))
    exact (Db.raises_congr (stays.trans planFound.symm) bookings units projectId dto).symm
  · rw [← rows, ← List.map_uncurry_zip_eq_zipWith, ← List.map_uncurry_zip_eq_zipWith, List.map_map]
    refine List.map_congr_left fun line listed => ?_
    have ofTemplate := kept templateId template found line.1 (List.of_mem_zip listed).1
    apply milestoneInstallment_dated fresh
    · exact ⟨_, Table.find?_create_self _ _, rfl, rfl⟩
    · show Db.projectOf _ bookingId = _
      unfold Db.projectOf
      show (cleared.bookings.find? bookingId).bind
        (fun booking => (cleared.units.find? booking.unitId).map (·.projectId)) = _
      rw [bookings, units]
      exact projectOf_of_load load
    · intro sameTemplate sameSeq
      rw [ofTemplate, sameTemplate, sameSeq]

/-- **A plan made after a stage is raised is the plan made before it**, with the stage raised. -/
theorem instantiateFromTemplate_raised {masters : Masters} {grace : Nat → Nat → Int}
    (staged : db.Staged grace) (planned : db.Planned) (kept : masters.KeepsGrace grace)
    (projectId : Nat) (dto : RaiseStageDto) :
    instantiateFromTemplate masters bookingId templateId
        (db.raised projectId dto (grace dto.templateId dto.milestoneSeq)) = .ok after ↔
      ∃ middle, instantiateFromTemplate masters bookingId templateId db = .ok middle ∧
        after = middle.raised projectId dto (grace dto.templateId dto.milestoneSeq) := by
  cases raise : db.findStageRaise projectId dto.templateId dto.milestoneSeq with
  | some existing =>
    rw [staged.raised_eq_self raise]
    have unchanged : ∀ middle, instantiateFromTemplate masters bookingId templateId db = .ok middle →
        middle.raised projectId dto (grace dto.templateId dto.milestoneSeq) = middle := by
      intro middle accepted
      have sites : db.KeepsSites middle := by
        have accepted : exec ⟨masters, .instantiateFromTemplate bookingId templateId⟩ db =
          .ok middle := accepted
        exact (exec_effect accepted).keepsSites
      have still := instantiateFromTemplate_staged staged kept sites accepted
      obtain ⟨_, _, cleared, _, _, _, _, deactivated, _, rfl⟩ :=
        instantiateFromTemplate_eq_ok_iff.mp accepted
      have raises : cleared.stageRaises = db.stageRaises := by
        rw [deactivateExistingPlans_frame deactivated]
      apply still.raised_eq_self
      unfold Db.findStageRaise at raise ⊢
      rw [← raises] at raise
      exact raise
    constructor
    · intro accepted
      exact ⟨after, accepted, (unchanged after accepted).symm⟩
    · rintro ⟨middle, accepted, rfl⟩
      rw [unchanged middle accepted]
      exact accepted
  | none =>
    rw [Db.raised_eq_dated raise, instantiateFromTemplate_eq_ok_iff, deactivateExistingPlans_dated]
    constructor
    · intro accepted
      obtain ⟨loaded, template, _, amounts, load, found, some, deactivated, allocated, rfl⟩ := accepted
      obtain ⟨cleared, dropped, rfl⟩ := map_eq_ok.mp deactivated
      refine ⟨_, instantiateFromTemplate_eq_ok_iff.mpr ⟨loaded, template, cleared, amounts, load,
        found, some, dropped, allocated, rfl⟩, ?_⟩
      exact addInstallments_raised planned kept raise load found dropped amounts
    · rintro ⟨middle, accepted, rfl⟩
      obtain ⟨loaded, template, cleared, amounts, load, found, some, dropped, allocated, rfl⟩ :=
        instantiateFromTemplate_eq_ok_iff.mp accepted
      refine ⟨loaded, template, _, amounts, load, found, some, map_eq_ok.mpr ⟨cleared, dropped, rfl⟩,
        allocated, ?_⟩
      exact (addInstallments_raised planned kept raise load found dropped amounts).symm

/-- **Raising a stage commutes with making plans.** After any run of the operations in which the
templates keep their grace days: every installment linked to a stage is of an active plan, and
carries the raise of its project, template and milestone with its due date, or no date while there
is none; raising and making a plan give one database in either order; and raising a stage again
changes nothing. -/
theorem raising_commutes {grace : Nat → Nat → Int} {requests : List Request}
    (kept : ∀ request ∈ requests, request.masters.KeepsGrace grace) :
    (∀ id inst, (run exec {} requests).installments.find? id = some inst →
      inst.milestoneType = .stageLinked →
      ∃ projectId plan templateId seq,
        (run exec {} requests).projectOf inst.bookingId = some projectId ∧
        (run exec {} requests).plans.find? inst.planId = some plan ∧ plan.isActive = true ∧
        plan.templateId = some templateId ∧ inst.milestoneSeq = some seq ∧
        (∀ raiseId raise, (run exec {} requests).stageRaises.find? raiseId = some raise →
          raise.projectId = projectId → raise.templateId = templateId → raise.milestoneSeq = seq →
          inst.stageRaiseId = some raiseId ∧
            inst.dueDate = some (computeRaisedDueDate raise.stageCompletedOn (grace templateId seq))) ∧
        ((∀ raiseId raise, (run exec {} requests).stageRaises.find? raiseId = some raise →
          raise.projectId = projectId → raise.templateId = templateId → raise.milestoneSeq ≠ seq) →
          inst.stageRaiseId = none ∧ inst.dueDate = none)) ∧
    (∀ first second projectId dto bookingId templateId after, first.KeepsGrace grace →
      second.KeepsGrace grace →
      ((∃ middle, exec ⟨first, .raiseStage projectId dto⟩ (run exec {} requests) = .ok middle ∧
          exec ⟨second, .instantiateFromTemplate bookingId templateId⟩ middle = .ok after) ↔
        ∃ middle, exec ⟨second, .instantiateFromTemplate bookingId templateId⟩
            (run exec {} requests) = .ok middle ∧
          exec ⟨first, .raiseStage projectId dto⟩ middle = .ok after)) ∧
    ∀ masters projectId dto raiseId raise after,
      (run exec {} requests).stageRaises.find? raiseId = some raise → raise.projectId = projectId →
      raise.templateId = dto.templateId → raise.milestoneSeq = dto.milestoneSeq →
      exec ⟨masters, .raiseStage projectId dto⟩ (run exec {} requests) = .ok after →
      after = run exec {} requests := by
  have staged := staged_run kept
  have planned : (run exec {} requests).Planned := ReachableDb.planned (reachable_run _ _)
  refine ⟨?_, ?_, ?_⟩
  · intro id inst found linked
    obtain ⟨projectId, templateId, seq, follows⟩ := staged.follows id inst found linked
    obtain ⟨plan, planFound, active, named⟩ := follows.plan
    exact ⟨projectId, plan, templateId, seq, follows.project, planFound, active, named,
      follows.milestone, follows.raise_iff staged⟩
  · intro first second projectId dto bookingId templateId after firstKept secondKept
    have raising : ∀ db after, exec ⟨first, .raiseStage projectId dto⟩ db = .ok after ↔
        ∃ milestone, first.Raisable projectId dto milestone ∧
          after = db.raised projectId dto (grace dto.templateId dto.milestoneSeq) := by
      intro db after
      refine raiseStage_eq_ok_iff.trans (exists_congr fun milestone => and_congr_right ?_)
      intro raisable
      rw [raisable.grace firstKept]
    constructor
    · rintro ⟨middle, raise, instantiated⟩
      obtain ⟨milestone, raisable, rfl⟩ := (raising _ _).mp raise
      obtain ⟨made, accepted, rfl⟩ :=
        (instantiateFromTemplate_raised staged planned secondKept projectId dto).mp instantiated
      exact ⟨made, accepted, (raising _ _).mpr ⟨milestone, raisable, rfl⟩⟩
    · rintro ⟨made, accepted, raise⟩
      obtain ⟨milestone, raisable, rfl⟩ := (raising _ _).mp raise
      exact ⟨_, (raising _ _).mpr ⟨milestone, raisable, rfl⟩,
        (instantiateFromTemplate_raised staged planned secondKept projectId dto).mpr
          ⟨made, accepted, rfl⟩⟩
  · intro masters projectId dto raiseId raise after found sameProject sameTemplate sameSeq accepted
    obtain ⟨milestone, _, rfl⟩ := raiseStage_eq_ok_iff.mp accepted
    cases earlier : (run exec {} requests).findStageRaise projectId dto.templateId
        dto.milestoneSeq with
    | none =>
      have unmet := Table.findFirst?_eq_none.mp earlier raiseId raise found
      simp [sameProject, sameTemplate, sameSeq] at unmet
    | some existing => exact staged.raised_eq_self earlier _

def smallStage : Masters where
  projects := fun _ => some {}
  templates := fun _ => some {
    milestones := [{ seq := 1, label := "Slab", percent := 100000, milestoneType := .stageLinked,
                     graceDaysAfterRaise := 7 }]
    ascending := List.pairwise_singleton _ _ }

def smallStageDto : RaiseStageDto where
  templateId := 0
  milestoneSeq := 1
  stageCompletedOn := 0
  seq_pos := le_refl 1

def smallRaise : Request := ⟨smallStage, .raiseStage 0 smallStageDto⟩

def smallInstantiation : Request := ⟨smallStage, .instantiateFromTemplate 0 0⟩

theorem smallStage_keepsGrace : smallStage.KeepsGrace fun _ _ => 7 := by
  intro templateId template found milestone listed
  cases found
  rw [List.mem_singleton.mp listed]

/-- The sale's plan waits for the stage or finds it raised: its one installment is due a week after
the stage in either order. -/
theorem raising_commutes_smallSale :
    ∃ after inst, after.installments.find? 1 = some inst ∧ inst.dueDate = some (addDays 0 7) ∧
      inst.stageRaiseId = some 0 ∧
      (∃ middle, exec smallRaise (run exec {} smallSale) = .ok middle ∧
        exec smallInstantiation middle = .ok after) ∧
      ∃ middle, exec smallInstantiation (run exec {} smallSale) = .ok middle ∧
        exec smallRaise middle = .ok after := by
  have kept : ∀ request ∈ smallSale, request.masters.KeepsGrace fun _ _ => 7 := by
    intro request listed templateId template found
    have none : request.masters.templates templateId = none := by
      simp only [smallSale, List.mem_cons, List.not_mem_nil, or_false] at listed
      rcases listed with rfl | rfl | rfl | rfl <;> rfl
    rw [none] at found
    cases found
  have raiseFirst : ∃ middle, exec smallRaise (run exec {} smallSale) = .ok middle ∧
    exec smallInstantiation middle = .ok (run exec {} (smallSale ++
      [smallRaise, smallInstantiation])) := ⟨_, rfl, rfl⟩
  have commutes := (raising_commutes kept).2.1 smallStage smallStage 0 smallStageDto 0 0
    (run exec {} (smallSale ++ [smallRaise, smallInstantiation]))
    smallStage_keepsGrace smallStage_keepsGrace
  exact ⟨_, _, rfl, rfl, rfl, raiseFirst, commutes.mp raiseFirst⟩

end OpenEstate
