/-
**The stages of the pipeline.**

A company has stages, one of them at most the default one, in which new inquiries start. A stage is
retired by switching it off, after those that are active in it have been moved to another one. The
names of the stages of a company are unique, and so is its default stage.

* `createLeadStage`, `updateLeadStage` with `reassignOccupants`;
* `createStage_of_run`, `updateStage_of_run`: what each of them does when run alone.
-/

import OpenEstate.Presales.Schema

namespace OpenEstate.Presales

open Relational

/-! ### Uniqueness -/

/-- Whether a row of a stage would violate an index: another one of the company has its name, or is
the default one too. -/
def PresalesDb.stageClashes (db : PresalesDb) (self : Option Nat) (row : LeadStage) : Bool :=
  db.leadStages.any fun id other =>
    decide (self ≠ some id) && other.companyId == row.companyId &&
      (other.name == row.name || (row.isDefault && other.isDefault))

def LeadStage.keys (row : LeadStage) : List PresalesLock :=
  .stageName row.companyId row.name :: if row.isDefault then [.defaultStage row.companyId] else []

def writeStage {α : Type} (self : Option Nat) (row : LeadStage) (write : PresalesTx α) :
    PresalesTx α :=
  .stmt row.keys id fun db =>
    if db.stageClashes self row then
      .fail (.badRequest "Lead stage with this name already exists")
    else write

def PresalesDb.clearDefaults (db : PresalesDb) (companyId : Nat) (except : Option Nat) :
    PresalesDb :=
  { db with
    leadStages := db.leadStages.modifyAll
      (fun id stage => stage.companyId == companyId && stage.isDefault && decide (except ≠ some id))
      fun stage => { stage with isDefault := false } }

def clearDefaults (companyId : Nat) (except : Option Nat) : PresalesTx Unit :=
  let others := fun (id : Nat) (stage : LeadStage) =>
    stage.companyId == companyId && stage.isDefault && decide (except ≠ some id)
  .updateMany (fun db => (db.leadStages.select others).map Prod.fst) .leadStage fun ids db =>
    { db with
      leadStages := db.leadStages.modifyAll (fun id stage => decide (id ∈ ids) && others id stage)
        fun stage => { stage with isDefault := false } }

theorem run_clearDefaults (companyId : Nat) (except : Option Nat) (db : PresalesDb) :
    (clearDefaults companyId except).run db = .ok ((), db.clearDefaults companyId except) := by
  unfold PresalesDb.clearDefaults
  rw [← Table.modifyAll_select]
  rfl

variable {db after : PresalesDb} {companyId : Nat}

theorem cleared_of_run {default : Prop} [Decidable default] {except : Option Nat} {answer : Unit}
    (ran : (if default then clearDefaults companyId except else return ()).run db =
      .ok (answer, after)) :
    after = if default then db.clearDefaults companyId except else db := by
  split at ran
  · rw [run_clearDefaults] at ran
    cases ran
    exact (if_pos ‹_›).symm
  · cases ran
    exact (if_neg ‹_›).symm

theorem writeStage_of_run {α : Type} {self : Option Nat} {row : LeadStage} {write : PresalesTx α}
    {answer : α × PresalesDb} (ran : (writeStage self row write).run db = .ok answer) :
    write.run db = .ok answer := by
  have ran : (if db.stageClashes self row then _ else write).run db = .ok answer := ran
  split at ran
  · cases ran
  · exact ran

/-! ### Creating a stage -/

structure CreateLeadStageDto where
  name : String
  sortOrder : Nat := 0
  isActive : Bool := true
  isDefault : Bool := false

def CreateLeadStageDto.row (dto : CreateLeadStageDto) (companyId : Nat) : LeadStage where
  companyId
  name := dto.name
  sortOrder := dto.sortOrder
  isActive := dto.isActive
  isDefault := dto.isDefault

def PresalesDb.insertStage (db : PresalesDb) (stage : LeadStage) : PresalesDb :=
  { db with leadStages := db.leadStages.create stage }

def createLeadStage (companyId : Nat) (dto : CreateLeadStageDto) : PresalesTx Nat := do
  (if dto.isDefault then clearDefaults companyId none else return ())
  writeStage none (dto.row companyId) (.insertReturning (·.insertStage (dto.row companyId))
    fun db => db.leadStages.nextId)

theorem createStage_of_run {id : Nat} {dto : CreateLeadStageDto}
    (ran : (createLeadStage companyId dto).run db = .ok (id, after)) :
    after = (if dto.isDefault then db.clearDefaults companyId none else db).insertStage
      (dto.row companyId) := by
  unfold createLeadStage at ran
  obtain ⟨_, cleared, clearing, writing⟩ := Tx.run_bind_eq_ok.mp ran
  rw [← cleared_of_run clearing]
  cases writeStage_of_run writing
  rfl

/-! ### Changing a stage -/

structure UpdateLeadStageDto where
  name : Option String := none
  sortOrder : Option Nat := none
  isActive : Option Bool := none
  isDefault : Option Bool := none
  reassignToStageId : Option Nat := none

namespace UpdateLeadStageDto

variable (dto : UpdateLeadStageDto)

def write (stage : LeadStage) : LeadStage :=
  { stage with
    name := dto.name.getD stage.name
    sortOrder := dto.sortOrder.getD stage.sortOrder
    isActive := dto.isActive.getD stage.isActive
    isDefault := dto.isDefault.getD stage.isDefault }

def isDeactivating (existing : LeadStage) : Bool :=
  dto.isActive == some false && existing.isActive

end UpdateLeadStageDto

def PresalesDb.occupants (db : PresalesDb) (companyId stageId : Nat) : List Nat :=
  (db.inquiries.select fun _ inquiry =>
    inquiry.companyId == companyId && inquiry.stageId == some stageId &&
      inquiry.status.isActive).map Prod.fst

theorem mem_occupants {stageId id : Nat} :
    id ∈ db.occupants companyId stageId ↔
      ∃ inquiry, db.inquiries.find? id = some inquiry ∧ inquiry.companyId = companyId ∧
        inquiry.stageId = some stageId ∧ inquiry.status.isActive = true := by
  unfold PresalesDb.occupants
  rw [List.mem_map]
  constructor
  · rintro ⟨⟨_, inquiry⟩, selected, rfl⟩
    obtain ⟨found, meets⟩ := Table.mem_select.mp selected
    simp only [Bool.and_eq_true, beq_iff_eq] at meets
    exact ⟨inquiry, found, meets.1.1, meets.1.2, meets.2⟩
  · rintro ⟨inquiry, found, own, is, active⟩
    refine ⟨(id, inquiry), Table.mem_select.mpr ⟨found, ?_⟩, rfl⟩
    simp only [Bool.and_eq_true, beq_iff_eq]
    exact ⟨⟨own, is⟩, active⟩

/-- Move some inquiries of a stage to another one, with a row of the history for each. -/
def PresalesDb.reassign (db : PresalesDb) (companyId stageId target actorId : Nat)
    (ids : List Nat) : PresalesDb :=
  { db with
    inquiries := db.inquiries.modifyAll (fun id _ => decide (id ∈ ids)) fun inquiry =>
      { inquiry with stageId := some target }
    stageHistory := db.stageHistory.createMany (ids.map fun inquiryId =>
      { companyId, inquiryId, fromStageId := some stageId, toStageId := target
        changedById := some actorId, isAdministrative := true }) }

def reassignOccupants (companyId stageId : Nat) (reassignToStageId : Option Nat) (actorId : Nat) :
    PresalesTx Unit := do
  let affected ← .read fun db => db.occupants companyId stageId
  if affected = [] then return ()
  else do
    let target ← .check (orThrow reassignToStageId (.badRequest
      (s!"This stage has {affected.length} active lead(s). Provide reassignToStageId to move them " ++
        "before deactivating.")))
    .check (ensure (target ≠ stageId)
      (.badRequest "reassignToStageId must be a different stage"))
    let _ ← .query fun db =>
      orThrow (db.leadStage? companyId target) (.notFound "Target stage not found")
    .stmt (affected.map .inquiry)
      (fun db => { db with
        inquiries := db.inquiries.modifyAll (fun id _ => decide (id ∈ affected)) fun inquiry =>
          { inquiry with stageId := some target } })
      fun _ => return ()
    .insert fun db => { db with
      stageHistory := db.stageHistory.createMany (affected.map fun inquiryId =>
        { companyId, inquiryId, fromStageId := some stageId, toStageId := target
          changedById := some actorId, isAdministrative := true }) }

def updateLeadStage (companyId id : Nat) (dto : UpdateLeadStageDto) (actorId : Nat) :
    PresalesTx Unit := do
  let existing ← .query fun db =>
    orThrow (db.leadStage? companyId id) (.notFound "Lead stage not found")
  .check (ensure (¬(dto.isDeactivating existing && existing.isDefault) = true) (.badRequest
    ("Cannot deactivate the default lead stage — it would leave new inquiries with no default " ++
      "to fall back on. Set a different stage as the default first, then deactivate this one.")))
  (if dto.isDeactivating existing then
    reassignOccupants companyId id dto.reassignToStageId actorId else return ())
  (if dto.isDefault = some true then clearDefaults companyId (some id) else return ())
  writeStage (some id) (dto.write existing) (.update (.leadStage id) fun db =>
    db.updateStage id dto.write)

/-- What becomes of those that are active in a stage: there are none, or they are moved to another
stage of the company. -/
inductive Reassigned (db : PresalesDb) (companyId stageId : Nat) (asked : Option Nat)
    (actorId : Nat) : PresalesDb → Prop
  | nobody (none : db.occupants companyId stageId = []) :
      Reassigned db companyId stageId asked actorId db
  | moved {target : Nat} {stage : LeadStage} (some_ : db.occupants companyId stageId ≠ [])
      (given : asked = some target) (other : target ≠ stageId)
      (found : db.leadStage? companyId target = some stage) :
      Reassigned db companyId stageId asked actorId
        (db.reassign companyId stageId target actorId (db.occupants companyId stageId))

theorem reassigned_of_run {stageId actorId : Nat} {asked : Option Nat} {answer : Unit}
    (ran : (reassignOccupants companyId stageId asked actorId).run db = .ok (answer, after)) :
    Reassigned db companyId stageId asked actorId after := by
  unfold reassignOccupants at ran
  rw [Tx.run_read_bind] at ran
  split at ran
  · cases ran
    exact .nobody ‹_›
  · obtain ⟨target, given, ran⟩ := Tx.run_check_bind_eq_ok.mp ran
    obtain ⟨_, other, ran⟩ := Tx.run_check_bind_eq_ok.mp ran
    obtain ⟨stage, found, ran⟩ := Tx.run_query_bind_eq_ok.mp ran
    cases ran
    exact .moved ‹_› (orThrow_eq_ok.mp given) (ensure_eq_ok.mp other) (orThrow_eq_ok.mp found)

theorem updateStage_of_run {id actorId : Nat} {dto : UpdateLeadStageDto} {answer : Unit}
    (ran : (updateLeadStage companyId id dto actorId).run db = .ok (answer, after)) :
    ∃ existing moved, db.leadStage? companyId id = some existing ∧
      (dto.isDeactivating existing = true → existing.isDefault = false) ∧
      (if dto.isDeactivating existing then
        Reassigned db companyId id dto.reassignToStageId actorId moved else moved = db) ∧
      after = (if dto.isDefault = some true then moved.clearDefaults companyId (some id)
        else moved).updateStage id dto.write := by
  unfold updateLeadStage at ran
  obtain ⟨existing, found, ran⟩ := Tx.run_query_bind_eq_ok.mp ran
  obtain ⟨_, allowed, ran⟩ := Tx.run_check_bind_eq_ok.mp ran
  obtain ⟨_, moved, moving, rest⟩ := Tx.run_bind_eq_ok.mp ran
  obtain ⟨_, cleared, clearing, writing⟩ := Tx.run_bind_eq_ok.mp rest
  refine ⟨existing, moved, orThrow_eq_ok.mp found, fun deactivating => ?_, ?_, ?_⟩
  · have allowed := ensure_eq_ok.mp allowed
    rwa [deactivating, Bool.true_and, Bool.not_eq_true] at allowed
  · split at moving
    · rw [if_pos ‹_›]
      exact reassigned_of_run moving
    · rw [if_neg ‹_›]
      cases moving
      rfl
  · rw [← cleared_of_run clearing]
    cases writeStage_of_run writing
    rfl

end OpenEstate.Presales
