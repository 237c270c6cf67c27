/-
**The tables of presales.**

An applicant inquires; the inquiry has a status, and a stage of the company's pipeline. Each of the
two has a history of its own. An applicant that was merged into another stays as a tombstone that
names it. A project has a pool of users, to whom its inquiries are assigned in turn.

* `InquiryStatus`, with those that are active;
* `PresalesDb` and what is read of it; `PresalesTx` is what a service sends to it.
-/

import OpenEstate.Relational.Table
import OpenEstate.Relational.Transaction
import OpenEstate.Shared.ServiceError

namespace OpenEstate.Presales

open Relational

/-! ### Rows -/

inductive InquiryStatus
  | open_ | continued | dumped | successful
  deriving DecidableEq

def InquiryStatus.isActive : InquiryStatus → Bool
  | .open_ | .continued => true
  | .dumped | .successful => false

structure Inquiry where
  companyId : Nat
  applicantId : Nat
  projectId : Option Nat := none
  stageId : Option Nat := none
  assignedToId : Option Nat := none
  createdById : Option Nat := none
  status : InquiryStatus := .open_
  convertedAt : Option Nat := none
  nextFollowupAt : Option Nat := none
  deriving DecidableEq

structure LeadStage where
  companyId : Nat
  name : String
  sortOrder : Nat := 0
  isActive : Bool := true
  isDefault : Bool := false
  deriving DecidableEq

structure InquiryStageHistory where
  companyId : Nat
  inquiryId : Nat
  fromStageId : Option Nat
  toStageId : Nat
  changedById : Option Nat
  isAdministrative : Bool := false
  deriving DecidableEq

structure InquiryDispositionHistory where
  companyId : Nat
  inquiryId : Nat
  fromStatus : Option InquiryStatus
  toStatus : InquiryStatus
  reasonId : Option Nat := none
  remarks : Option String := none
  changedById : Option Nat
  deriving DecidableEq

structure Applicant where
  companyId : Nat
  name : String
  primaryPhone : String
  primaryPhoneNormalized : String
  email : Option String := none
  emailNormalized : Option String := none
  mergedIntoId : Option Nat := none
  deriving DecidableEq

structure ApplicantMerge where
  companyId : Nat
  survivorId : Nat
  mergedId : Nat
  mergedById : Option Nat
  deriving DecidableEq

inductive CommunicationChannel
  | email | sms
  deriving DecidableEq

structure CommunicationLog where
  companyId : Nat
  applicantId : Nat
  inquiryId : Option Nat
  channel : CommunicationChannel
  toAddress : String
  subject : Option String
  body : String
  createdById : Option Nat
  deriving DecidableEq

structure FollowUp where
  companyId : Nat
  inquiryId : Nat
  interactionAt : Nat
  nextActionAt : Option Nat
  createdById : Option Nat
  deriving DecidableEq

structure InquiryAssignment where
  companyId : Nat
  inquiryId : Nat
  toUserId : Nat
  assignmentType : String
  actorId : Option Nat
  deriving DecidableEq

structure ProjectAssignmentPool where
  companyId : Nat
  projectId : Nat
  userId : Nat
  isActive : Bool := true
  lastAssignedAt : Option Nat := none
  sortOrder : Nat := 0
  deriving DecidableEq

structure DumpReason where
  companyId : Nat

structure Booking where
  companyId : Nat
  bookingNumber : String
  sourceInquiryId : Option Nat := none
  deriving DecidableEq

structure Project where
  companyId : Nat
  code : String

structure CompanyConfig where
  companyId : Nat
  presalesCreatorRetainsLead : Bool := true
  presalesPhoneDedupAutoLink : Bool := true

/-! ### The tables -/

structure PresalesDb where
  applicants : Table Applicant := .empty
  inquiries : Table Inquiry := .empty
  leadStages : Table LeadStage := .empty
  stageHistory : Table InquiryStageHistory := .empty
  dispositionHistory : Table InquiryDispositionHistory := .empty
  merges : Table ApplicantMerge := .empty
  communications : Table CommunicationLog := .empty
  followUps : Table FollowUp := .empty
  assignments : Table InquiryAssignment := .empty
  pools : Table ProjectAssignmentPool := .empty
  dumpReasons : Table DumpReason := .empty
  bookings : Table Booking := .empty
  projects : Table Project := .empty
  configs : Table CompanyConfig := .empty

/-- What a statement locks: a row, a key of a unique index, or the pool of a project, by an advisory
lock. -/
inductive PresalesLock
  | applicant (id : Nat)
  | inquiry (id : Nat)
  | leadStage (id : Nat)
  | stageName (companyId : Nat) (name : String)
  | defaultStage (companyId : Nat)
  | poolMember (id : Nat)
  | booking (id : Nat)
  | sourceInquiry (id : Nat)
  | pool (projectId : Nat)
  deriving DecidableEq

abbrev PresalesTx := Tx PresalesDb PresalesLock ServiceError

/-- What a call finds when it looks: the instant, and which of several rows comes first where no
order is asked for. -/
structure PresalesDraw where
  now : Nat
  pick : Nat := 0

def PresalesDraw.first {α : Type} (draw : PresalesDraw) (rows : List α) : Option α :=
  rows[draw.pick % rows.length]?

theorem PresalesDraw.mem_of_first {α : Type} {draw : PresalesDraw} {rows : List α} {row : α}
    (found : draw.first rows = some row) : row ∈ rows :=
  List.mem_of_getElem? found

namespace PresalesDb

variable (db : PresalesDb)

def applicant? (companyId id : Nat) : Option Applicant :=
  (db.applicants.find? id).filter fun applicant => applicant.companyId == companyId

def inquiry? (companyId id : Nat) : Option Inquiry :=
  (db.inquiries.find? id).filter fun inquiry => inquiry.companyId == companyId

def leadStage? (companyId id : Nat) : Option LeadStage :=
  (db.leadStages.find? id).filter fun stage => stage.companyId == companyId

def defaultStage (companyId : Nat) : Option Nat :=
  (db.leadStages.findFirst? fun _ stage => stage.companyId == companyId && stage.isDefault).map
    Prod.fst

def config (companyId : Nat) : Option CompanyConfig :=
  (db.configs.findFirst? fun _ config => config.companyId == companyId).map Prod.snd

/-- The dispositions of an inquiry, in the order in which they were written. -/
def dispositions (inquiryId : Nat) : List (Option InquiryStatus × InquiryStatus) :=
  (db.dispositionHistory.select fun _ row => row.inquiryId == inquiryId).map fun row =>
    (row.2.fromStatus, row.2.toStatus)

def stages (inquiryId : Nat) : List (Option Nat × Nat) :=
  (db.stageHistory.select fun _ row => row.inquiryId == inquiryId).map fun row =>
    (row.2.fromStageId, row.2.toStageId)

def updateInquiry (id : Nat) (change : Inquiry → Inquiry) : PresalesDb :=
  { db with inquiries := db.inquiries.modify id change }

def updateStage (id : Nat) (change : LeadStage → LeadStage) : PresalesDb :=
  { db with leadStages := db.leadStages.modify id change }

end PresalesDb

theorem inquiry?_eq_some {db : PresalesDb} {companyId id : Nat} {inquiry : Inquiry} :
    db.inquiry? companyId id = some inquiry ↔
      db.inquiries.find? id = some inquiry ∧ inquiry.companyId = companyId := by
  rw [PresalesDb.inquiry?, Option.filter_eq_some_iff, beq_iff_eq]

theorem applicant?_eq_some {db : PresalesDb} {companyId id : Nat} {applicant : Applicant} :
    db.applicant? companyId id = some applicant ↔
      db.applicants.find? id = some applicant ∧ applicant.companyId = companyId := by
  rw [PresalesDb.applicant?, Option.filter_eq_some_iff, beq_iff_eq]

theorem leadStage?_eq_some {db : PresalesDb} {companyId id : Nat} {stage : LeadStage} :
    db.leadStage? companyId id = some stage ↔
      db.leadStages.find? id = some stage ∧ stage.companyId = companyId := by
  rw [PresalesDb.leadStage?, Option.filter_eq_some_iff, beq_iff_eq]

end OpenEstate.Presales
