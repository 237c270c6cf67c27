/-
**The stages of an inquiry have no gaps.**

Stages are written by an intake, by an update, and by the retirement of a stage, which moves all who
are active in it. Each of them writes a row from the stage that the inquiry was in.

* `StageTrail` says that the rows which are new lead from the old stage to the new one; it is kept
  by steps one after the other (`StageTrail.trans`);
* `stageTrail_of_effect`: every operation leaves such a trail;
* `stages_gapFree`: what the rows of an inquiry are after any run.
-/

import OpenEstate.Presales.System
import OpenEstate.Relational.Trail

namespace OpenEstate.Presales

open Relational

/-! ### Trails -/

def PresalesDb.stage? (db : PresalesDb) (id : Nat) : Option Nat :=
  (db.inquiries.find? id).bind (·.stageId)

def StageTrail (db after : PresalesDb) (id : Nat) : Prop :=
  ∃ more, after.stages id = db.stages id ++ more ∧ Leads (db.stage? id) more (after.stage? id)

section Trails

variable {db middle after : PresalesDb} {companyId id : Nat}

theorem StageTrail.trans (first : StageTrail db middle id) (second : StageTrail middle after id) :
    StageTrail db after id := by
  obtain ⟨more, rows, leads⟩ := first
  obtain ⟨further, later, leadsOn⟩ := second
  exact ⟨more ++ further, by rw [later, rows, List.append_assoc], leads_append leads leadsOn⟩

theorem StageTrail.of_same (history : after.stageHistory = db.stageHistory)
    (stage : after.stage? id = db.stage? id) : StageTrail db after id := by
  refine ⟨[], ?_, stage.symm⟩
  rw [PresalesDb.stages, history, List.append_nil]
  rfl

theorem stage?_modifyAll {which : Nat → Inquiry → Bool} {change : Inquiry → Inquiry}
    (same : ∀ inquiry, (change inquiry).stageId = inquiry.stageId) :
    ((db.inquiries.modifyAll which change).find? id).bind (·.stageId) = db.stage? id := by
  rw [Table.find?_modifyAll, PresalesDb.stage?]
  cases db.inquiries.find? id with
  | none => rfl
  | some inquiry =>
    show (if which id inquiry then change inquiry else inquiry).stageId = inquiry.stageId
    split
    · exact same inquiry
    · rfl

theorem StageTrail.of_transition (companyId key : Nat) (toStageId changedById : Option Nat)
    (history : after.stageHistory =
      (db.stageTransition companyId key (db.stage? key) toStageId changedById).stageHistory)
    (stage : after.stage? id = if key = id then toStageId.or (db.stage? id) else db.stage? id) :
    StageTrail db after id := by
  refine ⟨if key = id then toStageId.toList.map fun stageId => (db.stage? key, stageId) else [],
    ?_, ?_⟩
  · rw [← stages_stageTransition db companyId key (db.stage? key) toStageId changedById,
      PresalesDb.stages, history]
    rfl
  · rw [stage]
    split
    · subst key
      cases toStageId with
      | none => rfl
      | some stageId => exact ⟨rfl, rfl⟩
    · rfl

/-! ### Operations -/

theorem stageTrail_of_intake {requested : Option Nat} (intake : Intake companyId requested db after) :
    StageTrail db after id := by
  induction intake with
  | start => exact .of_same rfl rfl
  | pools _ pools ih => exact ih.trans (.of_same rfl rfl)
  | applicant _ own live ih => exact ih.trans (.of_same rfl rfl)
  | @opened now _ inquiry opens changedById ih =>
    have fresh : now.stage? now.inquiries.nextId = none :=
      congrArg (Option.bind · _) (Table.find?_nextId _)
    refine ih.trans (.of_transition inquiry.companyId now.inquiries.nextId inquiry.stageId
      changedById ?_ ?_)
    · rw [fresh]
      rfl
    · show ((now.inquiries.create inquiry).find? id).bind (·.stageId) = _
      rw [Table.find?_create]
      by_cases same : id = now.inquiries.nextId
      · subst same
        rw [if_pos rfl, if_pos rfl, fresh, Option.or_none]
        rfl
      · rw [if_neg same, if_neg (Ne.symm same)]
        rfl
  | assigned _ row ih => exact ih.trans (.of_same rfl (stage?_modifyAll fun _ => rfl))

theorem stageTrail_update {key now actorId : Nat} {dto : UpdateInquiryDto} {existing : Inquiry}
    (found : db.inquiries.find? key = some existing) :
    StageTrail db (db.update now companyId key dto existing actorId) id := by
  have was : db.stage? key = existing.stageId := congrArg (Option.bind · _) found
  refine .of_transition companyId key (dto.newStage existing) (some actorId) ?_ ?_
  · rw [was]
    rfl
  · show ((db.inquiries.modify key _).find? id).bind (·.stageId) = _
    rw [Table.find?_modify]
    by_cases same : id = key
    · subst same
      rw [if_pos rfl, if_pos rfl, found, was]
      exact newStage_or
    · rw [if_neg same, if_neg (Ne.symm same)]
      rfl

theorem stage?_of_occupant {stageId : Nat} (occupies : id ∈ db.occupants companyId stageId) :
    db.stage? id = some stageId := by
  obtain ⟨inquiry, found, _, is, _⟩ := mem_occupants.mp occupies
  rw [PresalesDb.stage?, found]
  exact is

theorem stages_reassign {stageId target actorId : Nat} {ids : List Nat} (nodup : ids.Nodup) :
    (db.reassign companyId stageId target actorId ids).stages id =
      db.stages id ++ if id ∈ ids then [(some stageId, target)] else [] := by
  have pairs : ∀ db : PresalesDb, db.stages id =
      ((db.stageHistory.select fun _ row => row.inquiryId == id).map Prod.snd).map fun row =>
        (row.fromStageId, row.toStageId) := by
    intro db
    rw [List.map_map]
    rfl
  have own : (ids.filter fun inquiryId => inquiryId == id) = if id ∈ ids then [id] else [] := by
    rw [List.filter_beq, nodup.count]
    split
    · rfl
    · rfl
  rw [pairs, pairs, PresalesDb.reassign, Table.map_snd_select_createMany, List.map_append,
    List.filter_map]
  congr 1
  refine (congrArg (fun ids => List.map _ (List.map _ ids)) own).trans ?_
  split
  · rfl
  · rfl

theorem stageTrail_reassign {stageId target actorId : Nat} :
    StageTrail db (db.reassign companyId stageId target actorId (db.occupants companyId stageId))
      id := by
  refine ⟨_, stages_reassign (Table.select_nodup _ _), ?_⟩
  have moved : (db.reassign companyId stageId target actorId
      (db.occupants companyId stageId)).inquiries.find? id = _ := Table.find?_modifyAll ..
  rw [PresalesDb.stage?, PresalesDb.stage?, moved]
  by_cases occupies : id ∈ db.occupants companyId stageId
  · have was := stage?_of_occupant occupies
    rw [PresalesDb.stage?] at was
    cases found : db.inquiries.find? id with
    | none =>
      rw [found] at was
      cases was
    | some inquiry =>
      rw [found] at was
      simp only [occupies, if_pos, Option.map_some, decide_true]
      exact ⟨was.symm, rfl⟩
  · simp only [occupies, if_false, decide_false, Bool.false_eq_true]
    rw [Option.map_id']
    rfl

theorem stageTrail_reassigned {stageId actorId : Nat} {asked : Option Nat}
    (reassigned : Reassigned db companyId stageId asked actorId after) : StageTrail db after id := by
  cases reassigned with
  | nobody none => exact .of_same rfl rfl
  | moved some_ given other found => exact stageTrail_reassign

theorem stageTrail_of_effect {op : PresalesOp} (effect : Effect db companyId op after) :
    StageTrail db after id := by
  cases effect with
  | takenIn takesIn intake => exact stageTrail_of_intake intake
  | created found opens rest => exact stageTrail_of_intake ((found.opened opens _).trans rest)
  | updated found own staged now => exact stageTrail_update found
  | attached found of_ from_ to_ bookings now =>
    unfold PresalesDb.convert
    split
    · exact .of_same rfl rfl
    · exact .of_same rfl (stage?_modifyAll fun _ => rfl)
  | @followed inquiryId dto _ _ inquiry found followUp =>
    cases dto.nextActionAt with
    | none => exact .of_same rfl rfl
    | some at_ => exact .of_same rfl (stage?_modifyAll fun _ => rfl)
  | stageCreated dto =>
    split
    · exact .of_same rfl rfl
    · exact .of_same rfl rfl
  | @stageUpdated _ _ dto existing moved found allowed moves =>
    have first : StageTrail db moved id := by
      split at moves
      · exact stageTrail_reassigned moves
      · rw [moves]
        exact .of_same rfl rfl
    split
    · exact first.trans (.of_same rfl rfl)
    · exact first.trans (.of_same rfl rfl)
  | merged different survivor merged => exact .of_same rfl (stage?_modifyAll fun _ => rfl)
  | sent live own to_ => exact .of_same rfl rfl

end Trails

/-! ### Runs -/

section Runs

variable {toLowerCase : String → String} {start : PresalesDb}

theorem stageTrail_of_reachable {db : PresalesDb}
    (reachable : Reachable (execPresales toLowerCase) start db) (id : Nat) : StageTrail start db id :=
  reachable.invariant (StageTrail.of_same rfl rfl) fun _ _ _ (trail : StageTrail _ _ _) accepted =>
    trail.trans (stageTrail_of_effect (effect_of_exec accepted))

theorem PresalesDb.IsNew.stages (isNew : start.IsNew) (id : Nat) :
    start.stages id = [] ∧ start.stage? id = none := by
  rw [PresalesDb.stages, PresalesDb.stage?, isNew.inquiries, isNew.stageHistory]
  exact ⟨rfl, rfl⟩

theorem leads_of_reachable (isNew : start.IsNew) {db : PresalesDb}
    (reachable : Reachable (execPresales toLowerCase) start db) (id : Nat) :
    Leads none (db.stages id) (db.stage? id) := by
  obtain ⟨more, rows, leads⟩ := stageTrail_of_reachable reachable id
  obtain ⟨noRows, noStage⟩ := isNew.stages id
  rwa [noStage, ← List.nil_append more, ← noRows, ← rows] at leads

theorem stages_ne_nil_of_had (isNew : start.IsNew) {earlier db : PresalesDb} {id stageId : Nat}
    (reached : Reachable (execPresales toLowerCase) start earlier)
    (since : Reachable (execPresales toLowerCase) earlier db)
    (had : earlier.stage? id = some stageId) : db.stages id ≠ [] := by
  obtain ⟨more, rows, _⟩ := stageTrail_of_reachable since id
  intro nothing
  rw [nothing] at rows
  have none_ := (leads_of_reachable isNew reached id).eq_nil_iff.mp
    (List.append_eq_nil_iff.mp rows.symm).1
  rw [had] at none_
  cases none_

/-- **Stage history is gap-free**: after any run, the first row of an inquiry comes from no stage, each
of the others from the stage of the row before it, and the last one leads to the stage of the
inquiry; there is no row exactly if the inquiry has had no stage at any point of the run. -/
theorem stages_gapFree (toLowerCase : String → String) {start : PresalesDb} (isNew : start.IsNew)
    (requests : List PresalesRequest) {id : Nat} {inquiry : Inquiry}
    (found : (run (execPresales toLowerCase) start requests).inquiries.find? id = some inquiry) :
    let db := run (execPresales toLowerCase) start requests
    (∀ first, (db.stages id).head? = some first → first.1 = none) ∧
      (db.stages id).IsChain (fun earlier later => later.1 = some earlier.2) ∧
      (∀ last, (db.stages id).getLast? = some last → inquiry.stageId = some last.2) ∧
      ((db.stages id = []) ↔ ∀ earlier ∈ states (execPresales toLowerCase) start requests,
        ∀ was, earlier.inquiries.find? id = some was → was.stageId = none) := by
  intro db
  have ends : Reachable (execPresales toLowerCase) start db := reachable_run start requests
  have isStage : db.stage? id = inquiry.stageId := congrArg (Option.bind · _) found
  have leads := leads_of_reachable isNew ends id
  rw [isStage] at leads
  obtain ⟨first, chain, last⟩ := leads.isChain
  refine ⟨first, chain, last, ?_⟩
  constructor
  · intro nothing
    refine (forall_states_iff_beginnings start requests).mpr fun earlier isPrefix was wasFound => ?_
    cases had : was.stageId with
    | none => rfl
    | some stageId =>
      have stood : (run (execPresales toLowerCase) start earlier).stage? id = some stageId := by
        rw [PresalesDb.stage?, wasFound]
        exact had
      exact absurd nothing (stages_ne_nil_of_had isNew (reachable_run start earlier)
        (reachable_of_isPrefix start isPrefix) stood)
  · intro never
    refine leads.eq_nil_iff.mpr ?_
    exact never _ (run_mem_states start requests) inquiry found

end Runs

def stagedLead : List PresalesRequest :=
  [{ companyId := 1, op := .createLeadStage { name := "New", isDefault := true } },
    { companyId := 1, op := .createFromLead { name := "Asha", phone := "9800000001" } }]

theorem stages_of_lead :
    ∃ inquiry, (run (execPresales id) {} stagedLead).inquiries.find? 0 = some inquiry ∧
      ∀ last, ((run (execPresales id) {} stagedLead).stages 0).getLast? = some last →
        inquiry.stageId = some last.2 :=
  ⟨_, rfl, (stages_gapFree id PresalesDb.isNew_empty stagedLead rfl).2.2.1⟩

end OpenEstate.Presales
