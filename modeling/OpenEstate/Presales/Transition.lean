/-
**Transitions of an inquiry.**

An inquiry starts in the stage that is asked for, or in the default one. Each time its stage or its
status changes, a row of its history says from what to what.

* `resolveInitialStage` finds the stage, `StartsIn` says what it can be;
* `writeStageTransition` and `writeDispositionTransition` write the histories;
* `stages_stageTransition`, `dispositions_dispositionTransition`: what the histories are then.
-/

import OpenEstate.Presales.Schema

namespace OpenEstate.Presales

open Relational

/-! ### Stages -/

def assertStageBelongsToCompany (companyId stageId : Nat) : PresalesTx Unit :=
  .query fun db => ensure ((db.leadStage? companyId stageId).isSome = true)
    (.notFound "Lead stage not found")

/-- The stage that is asked for, or else the default one of the company, if it has one. -/
def resolveInitialStage (companyId : Nat) : Option Nat → PresalesTx (Option Nat)
  | some stageId => do
    assertStageBelongsToCompany companyId stageId
    return some stageId
  | none => .read fun db => db.defaultStage companyId

/-- The history of the stages, after a change. There is no row for an inquiry without a stage. -/
def PresalesDb.stageTransition (db : PresalesDb) (companyId inquiryId : Nat)
    (fromStageId toStageId : Option Nat) (changedById : Option Nat) : PresalesDb :=
  { db with
    stageHistory := match toStageId with
      | none => db.stageHistory
      | some toStageId => db.stageHistory.create
        { companyId, inquiryId, fromStageId, toStageId, changedById, isAdministrative := false } }

def writeStageTransition (companyId inquiryId : Nat) (fromStageId toStageId : Option Nat)
    (changedById : Option Nat) : PresalesTx Unit :=
  .insert fun db => db.stageTransition companyId inquiryId fromStageId toStageId changedById

/-! ### Dispositions -/

def assertReasonBelongsToCompany (companyId reasonId : Nat) : PresalesTx Unit :=
  .query fun db => ensure
    (((db.dumpReasons.find? reasonId).filter fun reason => reason.companyId == companyId).isSome =
      true) (.notFound "Dump reason not found")

def PresalesDb.dispositionTransition (db : PresalesDb) (row : InquiryDispositionHistory) :
    PresalesDb :=
  { db with dispositionHistory := db.dispositionHistory.create row }

def writeDispositionTransition (companyId inquiryId : Nat) (fromStatus : Option InquiryStatus)
    (toStatus : InquiryStatus) (changedById : Option Nat) (reasonId : Option Nat)
    (remarks : Option String) : PresalesTx Unit :=
  .insert fun db => db.dispositionTransition
    { companyId, inquiryId, fromStatus, toStatus, reasonId, remarks, changedById }

/-! ### What is found -/

variable {db : PresalesDb} {companyId : Nat}

theorem run_assertStage {stageId : Nat} {answer : Unit × PresalesDb} :
    (assertStageBelongsToCompany companyId stageId).run db = .ok answer ↔
      (∃ stage, db.leadStage? companyId stageId = some stage) ∧ answer = ((), db) := by
  show (Tx.check (ensure _ _) : PresalesTx Unit).run db = .ok answer ↔ _
  rw [Tx.run_check_eq_ok, ensure_eq_ok, Option.isSome_iff_exists]
  refine and_congr_right fun _ => ?_
  rw [eq_comm, Prod.ext_iff]
  exact (and_iff_right rfl).symm

theorem run_assertReason {reasonId : Nat} {answer : Unit × PresalesDb}
    (ran : (assertReasonBelongsToCompany companyId reasonId).run db = .ok answer) :
    answer = ((), db) := by
  have ran : (Tx.check (ensure _ _) : PresalesTx Unit).run db = .ok answer := ran
  exact Prod.ext rfl (Tx.run_check_eq_ok.mp ran).2.symm

theorem elim_assertStage_of_run {after : PresalesDb} {asked : Option Nat} {answer : Unit}
    (ran : (asked.elim (return ()) (assertStageBelongsToCompany companyId)).run db =
      .ok (answer, after)) :
    after = db ∧ ∀ stageId, asked = some stageId →
      ∃ stage, db.leadStage? companyId stageId = some stage := by
  cases asked with
  | none =>
    cases ran
    exact ⟨rfl, nofun⟩
  | some stageId =>
    obtain ⟨found, same⟩ := run_assertStage.mp ran
    refine ⟨congrArg Prod.snd same, fun other isStage => ?_⟩
    cases isStage
    exact found

theorem elim_assertReason_of_run {after : PresalesDb} {asked : Option Nat} {answer : Unit}
    (ran : (asked.elim (return ()) (assertReasonBelongsToCompany companyId)).run db =
      .ok (answer, after)) : after = db := by
  cases asked with
  | none =>
    cases ran
    rfl
  | some reasonId => exact congrArg Prod.snd (run_assertReason ran)

theorem defaultStage_eq_some {id : Nat} (isDefault : db.defaultStage companyId = some id) :
    ∃ stage, db.leadStage? companyId id = some stage ∧ stage.isDefault = true := by
  obtain ⟨⟨key, stage⟩, found, rfl⟩ := Option.map_eq_some_iff.mp isDefault
  obtain ⟨exists_, meets⟩ := Table.findFirst?_eq_some found
  rw [Bool.and_eq_true, beq_iff_eq] at meets
  exact ⟨stage, leadStage?_eq_some.mpr ⟨exists_, meets.1⟩, meets.2⟩

/-- **What the first stage can be.** -/
structure StartsIn (db : PresalesDb) (companyId : Nat) (requested stageId : Option Nat) : Prop where
  asked : stageId = requested.or (db.defaultStage companyId)
  found : ∀ id, stageId = some id → ∃ stage, db.leadStage? companyId id = some stage

theorem StartsIn.congr {other : PresalesDb} {requested stageId : Option Nat}
    (startsIn : StartsIn db companyId requested stageId) (same : other.leadStages = db.leadStages) :
    StartsIn other companyId requested stageId where
  asked := by
    rw [startsIn.asked, PresalesDb.defaultStage, PresalesDb.defaultStage, same]
  found := by
    unfold PresalesDb.leadStage?
    rw [same]
    exact startsIn.found

theorem initialStage_of_run {after : PresalesDb} {requested stageId : Option Nat}
    (ran : (resolveInitialStage companyId requested).run db = .ok (stageId, after)) :
    after = db ∧ StartsIn db companyId requested stageId := by
  cases requested with
  | none =>
    cases ran
    refine ⟨rfl, rfl, fun id isDefault => ?_⟩
    obtain ⟨stage, found, _⟩ := defaultStage_eq_some isDefault
    exact ⟨stage, found⟩
  | some asked =>
    obtain ⟨_, middle, asserted, rest⟩ := Tx.run_bind_eq_ok.mp ran
    obtain ⟨found, same⟩ := run_assertStage.mp asserted
    cases same
    cases rest
    refine ⟨rfl, rfl, fun id same => ?_⟩
    cases same
    exact found

/-! ### What is written -/

theorem stages_stageTransition (db : PresalesDb) (companyId inquiryId : Nat)
    (fromStageId toStageId changedById : Option Nat) (id : Nat) :
    (db.stageTransition companyId inquiryId fromStageId toStageId changedById).stages id =
      db.stages id ++
        if inquiryId = id then toStageId.toList.map fun stageId => (fromStageId, stageId) else [] := by
  cases toStageId with
  | none => simp [PresalesDb.stageTransition, PresalesDb.stages]
  | some stageId =>
    simp only [PresalesDb.stageTransition, PresalesDb.stages, Table.select_create, List.map_append]
    by_cases same : inquiryId = id
    · simp [same]
    · simp [same]

theorem dispositions_dispositionTransition (db : PresalesDb) (row : InquiryDispositionHistory)
    (id : Nat) :
    (db.dispositionTransition row).dispositions id =
      db.dispositions id ++ if row.inquiryId = id then [(row.fromStatus, row.toStatus)] else [] := by
  simp only [PresalesDb.dispositionTransition, PresalesDb.dispositions, Table.select_create,
    List.map_append]
  by_cases same : row.inquiryId = id
  · simp [same]
  · simp [same]

end OpenEstate.Presales
