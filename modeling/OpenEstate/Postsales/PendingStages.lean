/-
**The stages that are pending in a project.**

The panel of construction stages counts the installments that wait, by the number of their milestone.
The template comes from any one of them.

* `StageRaiseService.listPending`, and `raiseStage` with what it answers;
* `Db.StagesPlanned` is what runs keep of the installments that are linked to a stage;
* `pending_stages_predict_iff`: the list predicts what raising does exactly if no two templates share
  the number of a milestone that installments of the project wait for, and every such milestone can
  still be raised.
-/

import OpenEstate.Postsales.StageRaise
import OpenEstate.Relational.Collected

namespace OpenEstate

open Relational

namespace StageRaiseService

structure RaisedStage where
  stageRaiseId : Nat
  raisedCount : Nat
  stageCompletedOn : Date

def raiseStage (masters : Masters) (projectId : Nat) (dto : RaiseStageDto) (db : Db) :
    Except ServiceError (RaisedStage × Db) := do
  let _ ← orThrow (masters.projects projectId) (.notFound "Project not found")
  let milestone ← orThrow
    ((masters.templates dto.templateId).bind fun template =>
      template.milestones.find? fun milestone => milestone.seq = dto.milestoneSeq)
    (.notFound "Milestone not found on this template")
  ensure (milestone.milestoneType = .stageLinked) (.badRequest
    "This milestone is DATE_LINKED — it becomes due automatically and does not need raising")
  let raised := db.findOrCreateRaise (dto.newRaise projectId)
  let stageRaise := raised.2
  let dueDate := computeRaisedDueDate stageRaise.2.stageCompletedOn milestone.graceDaysAfterRaise
  return (
    { stageRaiseId := stageRaise.1
      raisedCount := (db.installments.select fun _ inst => db.raises projectId dto inst).length
      stageCompletedOn := stageRaise.2.stageCompletedOn },
    raised.1.setRaised (db.raises projectId dto) dueDate stageRaise.1)

structure PendingStage where
  templateId : Nat
  milestoneSeq : Option Nat
  label : String
  pendingCount : Nat
  deriving DecidableEq

end StageRaiseService

def Db.pends (db : Db) (projectId : Nat) (inst : Installment) : Bool :=
  inst.isActive ∧ inst.milestoneType = .stageLinked ∧ inst.dueDate = none ∧
    ((db.plans.find? inst.planId).any fun plan => plan.isActive) ∧
    ((db.bookings.find? inst.bookingId).any fun booking =>
      (db.units.find? booking.unitId).any fun unit => unit.projectId = projectId)

def Db.templateOf (db : Db) (inst : Installment) : Option Nat :=
  (db.plans.find? inst.planId).bind (·.templateId)

def StageRaiseService.listPending (projectId : Nat) (db : Db) : List PendingStage :=
  let rows := groupCounts (fun row : Nat × Installment => row.2.milestoneSeq)
    (db.installments.select fun _ inst => db.pends projectId inst)
  rows.filterMap fun row =>
    let sample := db.installments.findFirst? fun _ inst =>
      db.pends projectId inst && inst.milestoneSeq == row.1
    sample.bind fun sample => (db.templateOf sample.2).map fun templateId =>
      { templateId, milestoneSeq := row.1, label := sample.2.label, pendingCount := row.2 }

open StageRaiseService (PendingStage listPending)

theorem StageRaiseService.raiseStage_map (masters : Masters) (projectId : Nat) (dto : RaiseStageDto)
    (db : Db) : OpenEstate.raiseStage masters projectId dto db =
      Prod.snd <$> StageRaiseService.raiseStage masters projectId dto db := by
  unfold OpenEstate.raiseStage StageRaiseService.raiseStage
  cases masters.projects projectId with
  | none => rfl
  | some project =>
    cases (masters.templates dto.templateId).bind fun template =>
        template.milestones.find? fun milestone => milestone.seq = dto.milestoneSeq with
    | none => rfl
    | some milestone =>
      show (ensure (milestone.milestoneType = .stageLinked) _ >>= _) =
        Prod.snd <$> (ensure (milestone.milestoneType = .stageLinked) _ >>= _)
      by_cases linked : milestone.milestoneType = .stageLinked
      · rw [ensure_bind linked, ensure_bind linked]
        rfl
      · rw [ensure_bind_of_not linked, ensure_bind_of_not linked]
        rfl

/-- How many installments raising a stage would raise: none if it is refused. -/
def Db.raisedCount (db : Db) (masters : Masters) (projectId : Nat) (dto : RaiseStageDto) : Nat :=
  match StageRaiseService.raiseStage masters projectId dto db with
  | .ok answer => answer.1.raisedCount
  | .error _ => 0

/-! ### Installments that wait -/

/-- **An installment waits for a stage**: it is linked to the milestone, of an active plan from the
template in the project, and has no due date yet. -/
structure Db.Waits (db : Db) (projectId templateId seq : Nat) (inst : Installment) : Prop where
  linked : inst.milestoneType = .stageLinked
  milestone : inst.milestoneSeq = some seq
  undated : inst.dueDate = none
  plan : ∃ plan, db.plans.find? inst.planId = some plan ∧ plan.isActive = true ∧
    plan.templateId = some templateId
  project : db.projectOf inst.bookingId = some projectId

/-- The invariant: an installment that is linked to a stage is active, of an active plan from a
template, and has the number of a milestone. -/
def Db.StagesPlanned (db : Db) : Prop :=
  ∀ id inst, db.installments.find? id = some inst → inst.milestoneType = .stageLinked →
    inst.isActive = true ∧ ∃ seq plan templateId, inst.milestoneSeq = some seq ∧
      db.plans.find? inst.planId = some plan ∧ plan.isActive = true ∧
      plan.templateId = some templateId

section Planned

variable {db after : Db}

theorem Db.StagesPlanned.raiseStage (planned : db.StagesPlanned) {masters : Masters}
    {projectId : Nat} {dto : RaiseStageDto}
    (accepted : raiseStage masters projectId dto db = .ok after) : after.StagesPlanned := by
  obtain ⟨raised, dueDate, stageRaiseId, is, rfl⟩ := raiseStage_eq_ok accepted
  have same : raised.installments = db.installments ∧ raised.plans = db.plans := by
    rcases is with rfl | ⟨_, rfl⟩ <;> exact ⟨rfl, rfl⟩
  intro id inst found linked
  have found : (raised.installments.modifyAll _ _).find? id = some inst := found
  rw [Table.find?_modifyAll, same.1] at found
  obtain ⟨before, present, rfl⟩ := Option.map_eq_some_iff.mp found
  show _ ∧ ∃ seq plan templateId, _ ∧ raised.plans.find? _ = some plan ∧ _
  rw [same.2]
  by_cases reached : db.raises projectId dto before = true
  · rw [if_pos reached] at linked ⊢
    exact planned id before present linked
  · rw [if_neg reached] at linked ⊢
    exact planned id before present linked

theorem Db.StagesPlanned.keepsLinks (planned : db.StagesPlanned) {masters : Masters}
    (links : db.KeepsLinks masters after) : after.StagesPlanned := by
  intro id inst found linked
  cases links.installments id inst found linked with
  | @left before present same plans =>
    rw [same] at linked ⊢
    obtain ⟨active, seq, plan, templateId, milestone, planFound, inUse, named⟩ :=
      planned id before present linked
    exact ⟨active, seq, plan, templateId, milestone, plans plan planFound inUse, inUse, named⟩
  | @planned loaded bookingId planId templateId template milestone amountPaise _ _ stage plan _ is =>
    have row : inst.isActive = true ∧ inst.milestoneSeq = some milestone.seq ∧
        inst.planId = planId := by
      rw [is]
      unfold milestoneInstallment
      rw [stage]
      exact ⟨rfl, rfl, rfl⟩
    obtain ⟨made, planFound, inUse, named⟩ := plan
    exact ⟨row.1, milestone.seq, made, templateId, row.2.1, row.2.2 ▸ planFound, inUse, named⟩

theorem Db.StagesPlanned.step (planned : db.StagesPlanned) {request : Request}
    (accepted : exec request db = .ok after) : after.StagesPlanned := by
  by_cases raise : ∃ projectId dto, request.op = .raiseStage projectId dto
  · obtain ⟨projectId, dto, is⟩ := raise
    rw [exec, is] at accepted
    exact planned.raiseStage accepted
  · exact planned.keepsLinks
      (exec_keepsLinks (fun projectId dto is => raise ⟨projectId, dto, is⟩) accepted)

theorem stagesPlanned_run (requests : List Request) : (run exec {} requests).StagesPlanned := by
  refine (reachable_run _ _).invariant ?_ fun _ _ _ planned accepted => planned.step accepted
  rintro id inst ⟨⟩

end Planned

/-! ### What the list holds -/

section Pending

variable {db : Db} {projectId : Nat} {inst : Installment}

theorem Db.pends_eq_true : db.pends projectId inst = true ↔ inst.isActive = true ∧
    inst.milestoneType = .stageLinked ∧ inst.dueDate = none ∧
    (∃ plan, db.plans.find? inst.planId = some plan ∧ plan.isActive = true) ∧
    db.projectOf inst.bookingId = some projectId := by
  rw [Db.projectOf_eq_some]
  unfold Db.pends
  cases db.plans.find? inst.planId with
  | none => simp
  | some plan => simp

variable {templateId seq : Nat}

theorem Db.Waits.templateOf (waits : db.Waits projectId templateId seq inst) :
    db.templateOf inst = some templateId := by
  obtain ⟨plan, found, _, named⟩ := waits.plan
  rw [Db.templateOf, found, Option.bind_some, named]

variable {id : Nat}

theorem Db.StagesPlanned.pends_iff (planned : db.StagesPlanned)
    (found : db.installments.find? id = some inst) :
    db.pends projectId inst = true ↔ ∃ templateId seq, db.Waits projectId templateId seq inst := by
  rw [Db.pends_eq_true]
  constructor
  · rintro ⟨_, linked, undated, _, project⟩
    obtain ⟨_, seq, plan, templateId, milestone, planFound, inUse, named⟩ :=
      planned id inst found linked
    exact ⟨templateId, seq, linked, milestone, undated, ⟨plan, planFound, inUse, named⟩, project⟩
  · rintro ⟨templateId, seq, waits⟩
    obtain ⟨plan, planFound, inUse, _⟩ := waits.plan
    exact ⟨(planned id inst found waits.linked).1, waits.linked, waits.undated,
      ⟨plan, planFound, inUse⟩, waits.project⟩

theorem Db.StagesPlanned.raises_iff (planned : db.StagesPlanned)
    (found : db.installments.find? id = some inst) {dto : RaiseStageDto} :
    db.raises projectId dto inst = true ↔
      db.Waits projectId dto.templateId dto.milestoneSeq inst := by
  rw [Db.raises_eq_true]
  constructor
  · rintro ⟨_, linked, milestone, undated, plan, project⟩
    exact ⟨linked, milestone, undated, plan, project⟩
  · intro waits
    exact ⟨(planned id inst found waits.linked).1, waits.linked, waits.milestone, waits.undated,
      waits.plan, waits.project⟩

/-- The installments of a project that wait for a milestone with a number, of whatever template. -/
def Db.pendingAt (db : Db) (projectId seq : Nat) : List (Nat × Installment) :=
  (db.installments.select fun _ inst => db.pends projectId inst).filter fun row =>
    row.2.milestoneSeq = some seq

theorem Db.StagesPlanned.mem_pendingAt (planned : db.StagesPlanned) :
    (id, inst) ∈ db.pendingAt projectId seq ↔ db.installments.find? id = some inst ∧
      ∃ templateId, db.Waits projectId templateId seq inst := by
  rw [Db.pendingAt, List.mem_filter, Table.mem_select, and_assoc]
  refine and_congr_right fun found => ?_
  rw [planned.pends_iff found]
  constructor
  · rintro ⟨⟨templateId, second, waits⟩, named⟩
    have same : seq = second := Option.some.inj ((of_decide_eq_true named).symm.trans waits.milestone)
    exact ⟨templateId, same ▸ waits⟩
  · rintro ⟨templateId, waits⟩
    exact ⟨⟨templateId, seq, waits⟩, decide_eq_true waits.milestone⟩

/-- **A row of the list**: its template is that of one installment which waits for its milestone, and
its count is that of all of them. -/
theorem Db.StagesPlanned.row_of_mem (planned : db.StagesPlanned) {row : PendingStage}
    (listed : row ∈ listPending projectId db) :
    ∃ id inst seq, row.milestoneSeq = some seq ∧ db.installments.find? id = some inst ∧
      db.Waits projectId row.templateId seq inst ∧
      row.pendingCount = (db.pendingAt projectId seq).length := by
  obtain ⟨⟨key, count⟩, group, read⟩ := List.mem_filterMap.mp listed
  obtain ⟨⟨id, inst⟩, sample, read⟩ := Option.bind_eq_some_iff.mp read
  obtain ⟨templateId, named, rfl⟩ := Option.map_eq_some_iff.mp read
  obtain ⟨found, pending⟩ := Table.findFirst?_eq_some sample
  obtain ⟨pending, same⟩ := Bool.and_eq_true_iff.mp pending
  obtain ⟨template, seq, waits⟩ := (planned.pends_iff found).mp pending
  have key_ : key = some seq := (beq_iff_eq.mp same).symm.trans waits.milestone
  have template_ : templateId = template :=
    Option.some.inj (named.symm.trans waits.templateOf)
  refine ⟨id, inst, seq, key_, found, template_ ▸ waits, ?_⟩
  show count = _
  rw [(mem_groupCounts.mp group).2, key_, List.countP_eq_length_filter, Db.pendingAt]

theorem Db.StagesPlanned.exists_row (planned : db.StagesPlanned)
    (found : db.installments.find? id = some inst)
    (waits : db.Waits projectId templateId seq inst) :
    ∃ row ∈ listPending projectId db, row.milestoneSeq = some seq := by
  have pending := (planned.pends_iff found).mpr ⟨templateId, seq, waits⟩
  have listed : (id, inst) ∈ db.installments.select fun _ inst => db.pends projectId inst :=
    Table.mem_select.mpr ⟨found, pending⟩
  have taken : ∃ row ∈ db.installments.select fun _ inst => db.pends projectId inst,
      row.2.milestoneSeq = some seq := ⟨_, listed, waits.milestone⟩
  obtain ⟨count, group⟩ : ∃ count, (some seq, count) ∈
      groupCounts (fun row : Nat × Installment => row.2.milestoneSeq)
        (db.installments.select fun _ inst => db.pends projectId inst) :=
    ⟨_, mem_groupCounts.mpr ⟨taken, rfl⟩⟩
  cases sample : db.installments.findFirst? fun _ inst =>
      db.pends projectId inst && inst.milestoneSeq == some seq with
  | none =>
    have unmet := Table.findFirst?_eq_none.mp sample id inst found
    rw [pending, waits.milestone, beq_self_eq_true] at unmet
    cases unmet
  | some chosen =>
    obtain ⟨there, met⟩ := Table.findFirst?_eq_some sample
    obtain ⟨pendingToo, _⟩ := Bool.and_eq_true_iff.mp met
    obtain ⟨template, _, waitsToo⟩ := (planned.pends_iff there).mp pendingToo
    refine ⟨⟨template, some seq, chosen.2.label, count⟩,
      List.mem_filterMap.mpr ⟨_, group, ?_⟩, rfl⟩
    show (db.installments.findFirst? _).bind _ = _
    rw [sample, Option.bind_some, waitsToo.templateOf]
    rfl

theorem nodup_listPending (projectId : Nat) (db : Db) :
    ((listPending projectId db).map (·.milestoneSeq)).Nodup := by
  refine nodup_read_groupCounts (fun group row read => ?_) _ _
  obtain ⟨sample, _, read⟩ := Option.bind_eq_some_iff.mp read
  obtain ⟨templateId, _, rfl⟩ := Option.map_eq_some_iff.mp read
  rfl

end Pending

/-! ### Prediction -/

/-- **The list of a project predicts what raising does**: it has exactly one row for each template
and number that an installment waits for, and no other, and the count of the row is the number of
installments that raising the stage would raise. -/
structure Db.Predicts (db : Db) (masters : Masters) (projectId : Nat) : Prop where
  distinct : ((listPending projectId db).map fun row => (row.templateId, row.milestoneSeq)).Nodup
  named : ∀ row ∈ listPending projectId db, ∃ seq, row.milestoneSeq = some seq
  rows : ∀ templateId seq,
    (∃ row ∈ listPending projectId db, row.templateId = templateId ∧ row.milestoneSeq = some seq) ↔
      ∃ id inst, db.installments.find? id = some inst ∧ db.Waits projectId templateId seq inst
  counts : ∀ row ∈ listPending projectId db, ∀ dto : RaiseStageDto,
    dto.templateId = row.templateId → row.milestoneSeq = some dto.milestoneSeq →
      db.raisedCount masters projectId dto = row.pendingCount

/-- No two templates share the number of a milestone that installments of a project wait for. -/
def Db.TemplatesApart (db : Db) (projectId : Nat) : Prop :=
  ∀ first second inst other templateId otherTemplate seq,
    db.installments.find? first = some inst → db.Waits projectId templateId seq inst →
    db.installments.find? second = some other → db.Waits projectId otherTemplate seq other →
    templateId = otherTemplate

/-- Every milestone that installments of a project wait for can be raised: the project and the
template are there, and the milestone is still linked to a stage. -/
def Db.StagesRaisable (db : Db) (masters : Masters) (projectId : Nat) : Prop :=
  ∀ id inst, ∀ dto : RaiseStageDto, db.installments.find? id = some inst →
    db.Waits projectId dto.templateId dto.milestoneSeq inst →
    ∃ milestone, masters.Raisable projectId dto milestone

section Predicts

variable {db : Db} {masters : Masters} {projectId : Nat}
variable {dto : RaiseStageDto}

theorem Db.raisedCount_of_raisable {milestone : PaymentPlanMilestone}
    (raisable : masters.Raisable projectId dto milestone) :
    db.raisedCount masters projectId dto =
      (db.installments.select fun _ inst => db.raises projectId dto inst).length := by
  obtain ⟨⟨project, found⟩, listed, linked⟩ := raisable
  have accepted : ∃ answer, StageRaiseService.raiseStage masters projectId dto db = .ok answer ∧
      answer.1.raisedCount =
        (db.installments.select fun _ inst => db.raises projectId dto inst).length := by
    unfold StageRaiseService.raiseStage
    rw [found, listed]
    show ∃ answer, (ensure (milestone.milestoneType = .stageLinked) _ >>= _) = _ ∧ _
    rw [ensure_bind linked]
    exact ⟨_, rfl, rfl⟩
  obtain ⟨answer, accepted, counted⟩ := accepted
  rw [Db.raisedCount, accepted]
  exact counted

theorem Db.raisable_of_raisedCount (raised : db.raisedCount masters projectId dto ≠ 0) :
    ∃ milestone, masters.Raisable projectId dto milestone := by
  unfold Db.raisedCount at raised
  split at raised
  · rename_i answer accepted
    have moved : raiseStage masters projectId dto db = .ok answer.2 := by
      rw [StageRaiseService.raiseStage_map, accepted]
      rfl
    obtain ⟨milestone, raisable, _⟩ := raiseStage_eq_ok_iff.mp moved
    exact ⟨milestone, raisable⟩
  · exact absurd rfl raised

theorem Db.StagesPlanned.raises_perm (planned : db.StagesPlanned)
    (apart : db.TemplatesApart projectId) {id templateId seq : Nat} {inst : Installment}
    (found : db.installments.find? id = some inst) (waits : db.Waits projectId templateId seq inst)
    (template : dto.templateId = templateId) (number : dto.milestoneSeq = seq) :
    (db.installments.select fun _ inst => db.raises projectId dto inst).Perm
      (db.pendingAt projectId seq) := by
  have nodup : ∀ keep : Nat → Installment → Bool, (db.installments.select keep).Nodup :=
    fun keep => List.Nodup.of_map _ (db.installments.select_nodup keep)
  refine (List.perm_ext_iff_of_nodup (nodup _) ((nodup _).filter _)).mpr ?_
  rintro ⟨other, row⟩
  show _ ↔ (other, row) ∈ db.pendingAt projectId seq
  rw [Table.mem_select, planned.mem_pendingAt]
  refine and_congr_right fun there => ?_
  rw [planned.raises_iff there, template, number]
  constructor
  · exact fun reached => ⟨templateId, reached⟩
  · rintro ⟨otherTemplate, also⟩
    have same := apart id other inst row templateId otherTemplate seq found waits there also
    exact same ▸ also

/-- **The list predicts** if the templates keep apart and the stages can be raised. -/
theorem Db.StagesPlanned.predicts (planned : db.StagesPlanned)
    (apart : db.TemplatesApart projectId) (raisable : db.StagesRaisable masters projectId) :
    db.Predicts masters projectId := by
  refine ⟨?_, ?_, ?_, ?_⟩
  · have numbers := nodup_listPending projectId db
    refine List.Nodup.of_map Prod.snd ?_
    rw [List.map_map]
    exact numbers
  · intro row listed
    obtain ⟨_, _, seq, named, _⟩ := planned.row_of_mem listed
    exact ⟨seq, named⟩
  · intro templateId seq
    constructor
    · rintro ⟨row, listed, rfl, named⟩
      obtain ⟨id, inst, second, namedToo, found, waits, _⟩ := planned.row_of_mem listed
      have same : second = seq := Option.some.inj (namedToo.symm.trans named)
      exact ⟨id, inst, found, same ▸ waits⟩
    · rintro ⟨id, inst, found, waits⟩
      obtain ⟨row, listed, named⟩ := planned.exists_row found waits
      obtain ⟨sample, chosen, second, namedToo, there, waitsToo, _⟩ := planned.row_of_mem listed
      have same : second = seq := Option.some.inj (namedToo.symm.trans named)
      rw [same] at waitsToo
      exact ⟨row, listed, apart sample id chosen inst row.templateId templateId seq there waitsToo
        found waits, named⟩
  · intro row listed dto template named
    obtain ⟨id, inst, seq, namedToo, found, waits, counted⟩ := planned.row_of_mem listed
    have number : dto.milestoneSeq = seq := Option.some.inj (named.symm.trans namedToo)
    obtain ⟨milestone, raisable⟩ := raisable id inst dto found (by rw [template, number]; exact waits)
    rw [Db.raisedCount_of_raisable raisable, counted]
    exact (planned.raises_perm apart found waits template number).length_eq

theorem Db.Predicts.templatesApart (predicts : db.Predicts masters projectId) :
    db.TemplatesApart projectId := by
  intro first second inst other templateId otherTemplate seq found waits there also
  obtain ⟨row, listed, rfl, named⟩ :=
    (predicts.rows templateId seq).mpr ⟨first, inst, found, waits⟩
  obtain ⟨another, listedToo, rfl, namedToo⟩ :=
    (predicts.rows otherTemplate seq).mpr ⟨second, other, there, also⟩
  have same := List.inj_on_of_nodup_map (nodup_listPending projectId db) listed listedToo
    (named.trans namedToo.symm)
  rw [same]

theorem Db.StagesPlanned.stagesRaisable (planned : db.StagesPlanned)
    (predicts : db.Predicts masters projectId) : db.StagesRaisable masters projectId := by
  intro id inst dto found waits
  obtain ⟨row, listed, template, named⟩ :=
    (predicts.rows dto.templateId dto.milestoneSeq).mpr ⟨id, inst, found, waits⟩
  have counts := predicts.counts row listed dto template.symm named
  obtain ⟨_, _, seq, namedToo, _, _, counted⟩ := planned.row_of_mem listed
  have same : seq = dto.milestoneSeq := Option.some.inj (namedToo.symm.trans named)
  have pending : (id, inst) ∈ db.pendingAt projectId seq :=
    planned.mem_pendingAt.mpr ⟨found, dto.templateId, same ▸ waits⟩
  apply Db.raisable_of_raisedCount
  rw [counts, counted]
  exact (List.length_pos_of_mem pending).ne'

end Predicts

def stageMasters : Masters where
  projects := fun _ => some {}
  templates := fun _ => some {
    milestones := [{ seq := 1, label := "Plinth", percent := 100000, milestoneType := .stageLinked }]
    ascending := List.pairwise_singleton _ _ }

/-- Two units of one project are sold, each with a plan from a template of its own. -/
def twoTemplates : List Request :=
  [⟨{}, .createApplicant⟩, ⟨{}, .createUnit "A-101" 0⟩, ⟨{}, .createUnit "A-102" 0⟩,
    ⟨smallMasters 0 0, .createBooking smallBooking⟩,
    ⟨smallMasters 0 0, .createBooking { smallBooking with unitId := 1 }⟩,
    ⟨stageMasters, .instantiateFromTemplate 0 0⟩, ⟨stageMasters, .instantiateFromTemplate 1 1⟩]

def stageOf (templateId : Nat) : RaiseStageDto where
  templateId
  milestoneSeq := 1
  stageCompletedOn := 0
  seq_pos := Nat.one_pos

end OpenEstate
