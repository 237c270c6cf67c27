/-
**The presales system**: every operation on applicants, inquiries and stages, each run alone.

* `execPresales` carries out a request;
* `Effect` says what an operation leaves, by cases; `effect_of_exec`: each operation leaves that;
* `PresalesDb.IsNew` is a database that no inquiry has come into yet.
-/

import OpenEstate.Presales.Inquiry
import OpenEstate.Presales.IntakeEffect
import OpenEstate.Presales.LeadStage
import OpenEstate.Relational.Run

namespace OpenEstate.Presales

open Relational

/-! ### Requests -/

inductive PresalesOp
  | createApplicant (dto : CreateApplicantDto)
  | createInquiry (dto : CreateInquiryDto) (createdById : Nat)
  | createFromLead (lead : LeadInput)
  | importInquiries (file : ImportFile)
  | updateInquiry (id : Nat) (dto : UpdateInquiryDto) (scope : InquiryScope) (actorId : Nat)
  | attachBooking (inquiryId bookingId actorId : Nat)
  | createFollowUp (inquiryId : Nat) (dto : CreateFollowUpDto) (createdById : Option Nat)
      (scope : InquiryScope)
  | createLeadStage (dto : CreateLeadStageDto)
  | updateLeadStage (id : Nat) (dto : UpdateLeadStageDto) (actorId : Nat)
  | merge (survivorId mergedId : Nat) (actorId : Option Nat)
  | send (applicantId : Nat) (inquiryId : Option Nat) (dto : SendCommunicationDto)
      (actorId : Option Nat)

/-- An operation of a company, and what it finds when it looks: an import looks once for each row. -/
structure PresalesRequest where
  companyId : Nat
  draws : Nat → PresalesDraw := fun _ => { now := 0 }
  op : PresalesOp

def alone {α : Type} (tx : PresalesTx α) (db : PresalesDb) : Except ServiceError PresalesDb :=
  Prod.snd <$> tx.run db

theorem alone_eq_ok {α : Type} {tx : PresalesTx α} {db after : PresalesDb} :
    alone tx db = .ok after ↔ ∃ result, tx.run db = .ok (result, after) := by
  unfold alone
  cases tx.run db with
  | error error => simp [Functor.map, Except.map]
  | ok answer =>
    simp only [Functor.map, Except.map, Except.ok.injEq, Prod.ext_iff]
    exact ⟨fun same => ⟨answer.1, rfl, same⟩, fun ⟨_, _, same⟩ => same⟩

def execPresales (toLowerCase : String → String) (request : PresalesRequest) (db : PresalesDb) :
    Except ServiceError PresalesDb :=
  let companyId := request.companyId
  let draw := request.draws 0
  match request.op with
  | .createApplicant dto => alone (createApplicant toLowerCase companyId dto) db
  | .createInquiry dto createdById =>
    alone (createInquiry toLowerCase draw companyId dto createdById) db
  | .createFromLead lead => alone (createFromLead toLowerCase draw companyId lead) db
  | .importInquiries file => alone (importInquiries toLowerCase request.draws companyId file) db
  | .updateInquiry id dto scope actorId =>
    alone (updateInquiry draw companyId id dto scope actorId) db
  | .attachBooking inquiryId bookingId actorId =>
    alone (attachBooking draw companyId inquiryId bookingId actorId) db
  | .createFollowUp inquiryId dto createdById scope =>
    alone (createFollowUp draw companyId inquiryId dto createdById scope) db
  | .createLeadStage dto => alone (createLeadStage companyId dto) db
  | .updateLeadStage id dto actorId => alone (updateLeadStage companyId id dto actorId) db
  | .merge survivorId mergedId actorId =>
    alone (mergeApplicants companyId survivorId mergedId actorId) db
  | .send applicantId inquiryId dto actorId =>
    alone (sendCommunication companyId applicantId inquiryId dto actorId) db

/-! ### Effects -/

/-- Whether an operation takes something in for which no stage can be requested. -/
def PresalesOp.TakesIn : PresalesOp → Prop
  | .createApplicant _ | .createFromLead _ | .importInquiries _ => True
  | _ => False

inductive Effect (db : PresalesDb) (companyId : Nat) : PresalesOp → PresalesDb → Prop
  | takenIn {op : PresalesOp} {after : PresalesDb} (takesIn : op.TakesIn)
      (intake : Intake companyId none db after) : Effect db companyId op after
  | created {dto : CreateInquiryDto} {createdById : Nat} {middle after : PresalesDb}
      {inquiry : Inquiry} (found : Intake companyId dto.stageId db middle)
      (opens : Opens middle companyId dto.stageId inquiry)
      (rest : Intake companyId dto.stageId (middle.openInquiry inquiry (some createdById)) after) :
      Effect db companyId (.createInquiry dto createdById) after
  | updated {id actorId : Nat} {dto : UpdateInquiryDto} {scope : InquiryScope} {existing : Inquiry}
      (found : db.inquiries.find? id = some existing) (own : existing.companyId = companyId)
      (staged : ∀ stageId, dto.newStage existing = some stageId →
        ∃ stage, db.leadStage? companyId stageId = some stage) (now : Nat) :
      Effect db companyId (.updateInquiry id dto scope actorId)
        (db.update now companyId id dto existing actorId)
  | attached {inquiryId bookingId actorId : Nat} {inquiry : Inquiry}
      {row : InquiryDispositionHistory} (found : db.inquiries.find? inquiryId = some inquiry)
      (of_ : row.inquiryId = inquiryId) (from_ : row.fromStatus = some inquiry.status)
      (to_ : row.toStatus = .successful) (bookings : Table Booking) (now : Nat) :
      Effect db companyId (.attachBooking inquiryId bookingId actorId)
        ({ db with bookings }.convert now inquiryId inquiry row)
  | followed {inquiryId : Nat} {dto : CreateFollowUpDto} {createdById : Option Nat}
      {scope : InquiryScope} {inquiry : Inquiry}
      (found : db.scopedInquiry? companyId inquiryId scope = some inquiry) (followUp : FollowUp) :
      Effect db companyId (.createFollowUp inquiryId dto createdById scope)
        ((db.insertFollowUp followUp).follow inquiryId dto.nextActionAt inquiry)
  | stageCreated (dto : CreateLeadStageDto) : Effect db companyId (.createLeadStage dto)
      ((if dto.isDefault then db.clearDefaults companyId none else db).insertStage
        (dto.row companyId))
  | stageUpdated {id actorId : Nat} {dto : UpdateLeadStageDto} {existing : LeadStage}
      {moved : PresalesDb} (found : db.leadStage? companyId id = some existing)
      (allowed : dto.isDeactivating existing = true → existing.isDefault = false)
      (moves : if dto.isDeactivating existing then
        Reassigned db companyId id dto.reassignToStageId actorId moved else moved = db) :
      Effect db companyId (.updateLeadStage id dto actorId)
        ((if dto.isDefault = some true then moved.clearDefaults companyId (some id)
          else moved).updateStage id dto.write)
  | merged {survivorId mergedId : Nat} {actorId : Option Nat} (different : survivorId ≠ mergedId)
      (survivor : db.IsLive companyId survivorId) (merged : db.IsLive companyId mergedId) :
      Effect db companyId (.merge survivorId mergedId actorId)
        (db.merge companyId survivorId mergedId actorId)
  | sent {applicantId : Nat} {inquiryId actorId : Option Nat} {dto : SendCommunicationDto}
      (live : db.IsLive companyId applicantId) {log : CommunicationLog}
      (own : log.companyId = companyId) (to_ : log.applicantId = applicantId) :
      Effect db companyId (.send applicantId inquiryId dto actorId) (db.insertCommunication log)

section Effects

variable {toLowerCase : String → String}

theorem effect_of_exec {request : PresalesRequest} {db after : PresalesDb}
    (accepted : execPresales toLowerCase request db = .ok after) :
    Effect db request.companyId request.op after := by
  obtain ⟨companyId, draws, op⟩ := request
  cases op with
  | createApplicant dto =>
    obtain ⟨result, ran⟩ := alone_eq_ok.mp accepted
    cases ran
    exact .takenIn trivial (.applicant .start rfl rfl)
  | createInquiry dto createdById =>
    obtain ⟨result, ran⟩ := alone_eq_ok.mp accepted
    obtain ⟨middle, inquiry, found, opens, rest⟩ := createInquiry_of_run ran
    exact .created found opens rest
  | createFromLead lead =>
    obtain ⟨result, ran⟩ := alone_eq_ok.mp accepted
    exact .takenIn trivial (createFromLead_intake ran)
  | importInquiries file =>
    obtain ⟨result, ran⟩ := alone_eq_ok.mp accepted
    exact .takenIn trivial (importInquiries_intake ran)
  | updateInquiry id dto scope actorId =>
    obtain ⟨result, ran⟩ := alone_eq_ok.mp accepted
    obtain ⟨existing, found, own, staged, rfl⟩ := update_of_run ran
    exact .updated found own staged _
  | attachBooking inquiryId bookingId actorId =>
    obtain ⟨result, ran⟩ := alone_eq_ok.mp accepted
    obtain ⟨inquiry, bookings, row, found, of_, from_, to_, rfl⟩ := attach_of_run ran
    exact .attached found of_ from_ to_ bookings _
  | createFollowUp inquiryId dto createdById scope =>
    obtain ⟨result, ran⟩ := alone_eq_ok.mp accepted
    obtain ⟨inquiry, followUp, found, rfl⟩ := followUp_of_run ran
    exact .followed found followUp
  | createLeadStage dto =>
    obtain ⟨result, ran⟩ := alone_eq_ok.mp accepted
    obtain rfl := createStage_of_run ran
    exact .stageCreated dto
  | updateLeadStage id dto actorId =>
    obtain ⟨result, ran⟩ := alone_eq_ok.mp accepted
    obtain ⟨existing, moved, found, allowed, moves, rfl⟩ := updateStage_of_run ran
    exact .stageUpdated found allowed moves
  | merge survivorId mergedId actorId =>
    obtain ⟨result, ran⟩ := alone_eq_ok.mp accepted
    obtain ⟨different, survivor, merged, rfl⟩ := merge_of_run ran
    exact .merged different survivor merged
  | send applicantId inquiryId dto actorId =>
    obtain ⟨result, ran⟩ := alone_eq_ok.mp accepted
    obtain ⟨live, log, own, to_, rfl⟩ := send_of_run ran
    exact .sent live own to_

end Effects

/-! ### Beginnings -/

/-- A database without applicants and inquiries, and without stages; of the other tables nothing is
asked. -/
structure PresalesDb.IsNew (db : PresalesDb) : Prop where
  applicants : db.applicants = .empty
  inquiries : db.inquiries = .empty
  leadStages : db.leadStages = .empty
  stageHistory : db.stageHistory = .empty
  dispositionHistory : db.dispositionHistory = .empty
  communications : db.communications = .empty

theorem PresalesDb.isNew_empty : ({} : PresalesDb).IsNew :=
  ⟨rfl, rfl, rfl, rfl, rfl, rfl⟩

end OpenEstate.Presales
