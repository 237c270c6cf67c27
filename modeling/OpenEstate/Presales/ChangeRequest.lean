/-
**Change requests of applicants.**

A customer asks on the portal for a change of the e-mail address or of the other phone numbers. The
request keeps what the fields were and what they are to be. One of the staff approves it, which
writes the new values if the applicant has still the old ones, or rejects it. The staff may also edit
the applicant at any time. Every write of an applicant or of a request has its row in the audit log.

* `ApplicantChangeRequestService.approve` and `reject`, `ApplicantService.update`: their statements;
* `ChangeDb.writeApplicant` and `ChangeDb.review`: what they write, with the row of the audit log;
* `ChangeDb.decisions`: the decisions on a request, as the audit log has them.
-/

import OpenEstate.CustomFields.Locality
import OpenEstate.Presales.Applicant

namespace OpenEstate.Presales

open Relational
open CustomFields (CustomFieldsService.resolveValuesForWrite FieldsDb Platform)
open Runtime (Properties)

/-! ### Rows -/

structure ApplicantRecord extends Applicant where
  alternatePhones : List String := []
  addressLine1 : Option String := none
  city : Option String := none
  state : Option String := none
  pincode : Option String := none
  customFields : Option Properties := none
  panCiphertext : Option String := none
  panMasked : Option String := none

structure ApplicantData where
  name : Option String := none
  primaryPhone : Option String := none
  primaryPhoneNormalized : Option String := none
  alternatePhones : Option (List String) := none
  email : Option (Option String) := none
  emailNormalized : Option (Option String) := none
  addressLine1 : Option String := none
  city : Option String := none
  state : Option String := none
  pincode : Option String := none
  customFields : Option Properties := none
  panCiphertext : Option String := none
  panMasked : Option String := none

def ApplicantData.write (data : ApplicantData) (applicant : ApplicantRecord) : ApplicantRecord :=
  { applicant with
    name := data.name.getD applicant.name
    primaryPhone := data.primaryPhone.getD applicant.primaryPhone
    primaryPhoneNormalized := data.primaryPhoneNormalized.getD applicant.primaryPhoneNormalized
    alternatePhones := data.alternatePhones.getD applicant.alternatePhones
    email := data.email.getD applicant.email
    emailNormalized := data.emailNormalized.getD applicant.emailNormalized
    addressLine1 := data.addressLine1.or applicant.addressLine1
    city := data.city.or applicant.city
    state := data.state.or applicant.state
    pincode := data.pincode.or applicant.pincode
    customFields := data.customFields.or applicant.customFields
    panCiphertext := data.panCiphertext.or applicant.panCiphertext
    panMasked := data.panMasked.or applicant.panMasked }

def ApplicantData.sanitized (data : ApplicantData) : ApplicantData :=
  { data with panCiphertext := data.panCiphertext.map fun _ => "[REDACTED]" }

/-- What a field was when a change of it was asked for, and what it is to be. -/
structure FieldChange (α : Type) where
  from_ : α
  to_ : α

/-- The changes that a request asks for, in the order in which they are kept. -/
structure FieldChanges where
  email : Option (FieldChange (Option String)) := none
  alternatePhones : Option (FieldChange (List String)) := none

def FieldChanges.data (changes : FieldChanges) : ApplicantData where
  email := changes.email.map FieldChange.to_
  alternatePhones := changes.alternatePhones.map FieldChange.to_

inductive ChangeRequestStatus
  | pending | approved | rejected
  deriving DecidableEq

structure ChangeSubmission where
  companyId : Nat
  applicantId : Nat
  requestedById : Nat
  fieldChanges : FieldChanges
  createdAt : Nat

structure ApplicantChangeRequest extends ChangeSubmission where
  status : ChangeRequestStatus := .pending
  reviewedById : Option Nat := none
  reviewedAt : Option Nat := none
  reviewNote : Option String := none

structure Review where
  status : ChangeRequestStatus
  reviewedById : Nat
  reviewedAt : Nat
  reviewNote : Option String := none

def Review.write (review : Review) (request : ApplicantChangeRequest) : ApplicantChangeRequest :=
  { request with
    status := review.status
    reviewedById := some review.reviewedById
    reviewedAt := some review.reviewedAt
    reviewNote := review.reviewNote.or request.reviewNote }

inductive AuditRow
  | applicant (id : Nat) (after : ApplicantData)
  | applicantChangeRequest (id : Nat) (after : Review)

structure ChangeDb where
  applicants : Table ApplicantRecord := .empty
  requests : Table ApplicantChangeRequest := .empty
  fields : FieldsDb := {}
  auditLog : Table AuditRow := .empty

inductive ChangeLock
  | applicant (id : Nat)
  | request (id : Nat)
  deriving DecidableEq

/-- What a call is refused with. A conflict says when the request had been submitted. -/
structure ChangeRefusal where
  error : ServiceError
  submittedAt : Option Nat := none

abbrev ChangeTx (α : Type) : Type := Tx ChangeDb ChangeLock ChangeRefusal α

/-! ### Writes -/

namespace ChangeDb

def updateApplicant (db : ChangeDb) (id : Nat) (data : ApplicantData) : ChangeDb :=
  { db with applicants := db.applicants.modify id data.write }

def updateRequest (db : ChangeDb) (id : Nat) (review : Review) : ChangeDb :=
  { db with requests := db.requests.modify id review.write }

def audit (db : ChangeDb) (row : AuditRow) : ChangeDb :=
  { db with auditLog := db.auditLog.create row }

def writeApplicant (db : ChangeDb) (id : Nat) (data : ApplicantData) : ChangeDb :=
  (db.updateApplicant id data).audit (.applicant id data.sanitized)

def review (db : ChangeDb) (id : Nat) (review : Review) : ChangeDb :=
  (db.updateRequest id review).audit (.applicantChangeRequest id review)

end ChangeDb

/-! ### The services -/

/-- What a decision answers of what it has read: the request, and how many rows the audit log had
when the applicant was read. -/
structure ChangeReading where
  request : ApplicantChangeRequest
  audited : Nat

def writeApplicant (id : Nat) (data : ApplicantData) : ChangeTx Unit := do
  .update (.applicant id) fun db => db.updateApplicant id data
  .insert fun db => db.audit (.applicant id data.sanitized)

def FieldChange.check {α : Type} [DecidableEq α] (field : String) (current : α) (submittedAt : Nat)
    (change : FieldChange α) : Except ChangeRefusal Unit :=
  ensure (current = change.from_)
    { error := .conflict (s!"Field \"{field}\" has changed since this request was submitted — " ++
        "ask the customer to resubmit")
      submittedAt := some submittedAt }

def FieldChanges.check (changes : FieldChanges) (applicant : ApplicantRecord) (submittedAt : Nat) :
    Except ChangeRefusal Unit := do
  changes.email.elim (.ok ()) fun change => change.check "email" applicant.email submittedAt
  changes.alternatePhones.elim (.ok ()) fun change =>
    change.check "alternatePhones" applicant.alternatePhones submittedAt

namespace ApplicantChangeRequestService

variable (companyId now id reviewerId : Nat)

def pendingRequest (db : ChangeDb) : Except ChangeRefusal ApplicantChangeRequest := do
  let request ← orThrow ((db.requests.find? id).filter fun request =>
    request.companyId == companyId) { error := .notFound "Change request not found" }
  ensure (request.status = .pending)
    { error := .badRequest "Change request has already been reviewed" }
  return request

def findPending : ChangeTx ApplicantChangeRequest :=
  .query (pendingRequest companyId id)

def review (review : Review) : ChangeTx Unit := do
  .update (.request id) fun db => db.updateRequest id review
  .insert fun db => db.audit (.applicantChangeRequest id review)

def applyChanges (request : ApplicantChangeRequest) : ChangeTx Unit := do
  let applicant ← .query fun db =>
    orThrow ((db.applicants.find? request.applicantId).filter fun applicant =>
      applicant.companyId == companyId) { error := .notFound "Applicant not found" }
  .check (request.fieldChanges.check applicant request.createdAt)
  writeApplicant request.applicantId request.fieldChanges.data
  review id { status := .approved, reviewedById := reviewerId, reviewedAt := now }

def approve : ChangeTx (Option ChangeReading) := do
  let request ← findPending companyId id
  (applyChanges companyId now id reviewerId request).answering
    fun db => some ⟨request, db.auditLog.nextId⟩

def reject (reviewNote : String) : ChangeTx (Option ChangeReading) := do
  let _ ← findPending companyId id
  review id { status := .rejected, reviewedById := reviewerId, reviewedAt := now
              reviewNote := some reviewNote }
  return none

end ApplicantChangeRequestService

structure UpdateApplicantDto where
  name : Option String := none
  primaryPhone : Option String := none
  alternatePhones : Option (List String) := none
  email : Option String := none
  addressLine1 : Option String := none
  city : Option String := none
  state : Option String := none
  pincode : Option String := none
  pan : Option String := none
  customFields : Option Properties := none

/-- What the runtime makes of texts, and the encryption of a PAN with a vector that is drawn. -/
structure ApplicantConfig where
  platform : Platform
  toLowerCase : String → String
  encrypt : String → String → String

def maskPan (pan : String) : String :=
  if Runtime.length pan = 10 then "XXXXX" ++ String.ofList (pan.toList.drop 5)
  else String.ofList (List.replicate (Runtime.length pan) 'X')

example : maskPan "ABCDE1234F" = "XXXXX1234F" := by decide

/-- The columns that a change writes, with the values of the custom fields as they are stored. -/
def UpdateApplicantDto.data (config : ApplicantConfig) (iv : String) (dto : UpdateApplicantDto)
    (customFields : Option Properties) : ApplicantData where
  name := dto.name
  primaryPhone := dto.primaryPhone.map trim
  primaryPhoneNormalized := dto.primaryPhone.map normalizePhone
  alternatePhones := dto.alternatePhones
  email := dto.email.map some
  emailNormalized := dto.email.map fun email =>
    if email = "" then none else some (normalizeEmail config.toLowerCase email)
  addressLine1 := dto.addressLine1
  city := dto.city
  state := dto.state
  pincode := dto.pincode
  customFields
  panCiphertext := dto.pan.map (config.encrypt iv)
  panMasked := dto.pan.map maskPan

def ApplicantService.update (config : ApplicantConfig) (companyId id : Nat) (iv : String)
    (dto : UpdateApplicantDto) : ChangeTx Unit := do
  let existing ← .query fun db =>
    orThrow ((db.applicants.find? id).filter fun applicant => applicant.companyId == companyId)
      { error := .notFound "Applicant not found" }
  .check ((ensureLive existing.toApplicant fun mergedIntoId =>
    .conflict s!"Applicant has been merged into {mergedIntoId}").mapError fun error => { error })
  let customFields ← dto.customFields.elim (return none) fun incoming => .query fun db =>
    (CustomFieldsService.resolveValuesForWrite config.platform companyId .applicant (some incoming)
      existing.customFields db.fields).mapError fun error => { error }
  writeApplicant id (dto.data config iv customFields)

/-! ### Calls -/

inductive ChangeOp
  | approve (id reviewerId : Nat)
  | reject (id reviewerId : Nat) (reviewNote : String)
  | update (id : Nat) (dto : UpdateApplicantDto)

/-- A call of one of the staff, with the moment of its review and the vector that it draws. -/
structure ChangeCall where
  companyId : Nat
  now : Nat := 0
  iv : String := ""
  op : ChangeOp

def ChangeCall.statements (config : ApplicantConfig) (call : ChangeCall) :
    ChangeTx (Option ChangeReading) :=
  match call.op with
  | .approve id reviewerId =>
    ApplicantChangeRequestService.approve call.companyId call.now id reviewerId
  | .reject id reviewerId reviewNote =>
    ApplicantChangeRequestService.reject call.companyId call.now id reviewerId reviewNote
  | .update id dto => do
    ApplicantService.update config call.companyId id call.iv dto
    return none

/-! ### The audit log -/

def AuditRow.decision (row : AuditRow) (requestId : Nat) : Option ChangeRequestStatus :=
  match row with
  | .applicant _ _ => none
  | .applicantChangeRequest id after => if id = requestId then some after.status else none

/-- Whether a row of the audit log has written a field that a request is to write. -/
def AuditRow.Writes (row : AuditRow) (submission : ChangeSubmission) : Prop :=
  match row with
  | .applicant id after => id = submission.applicantId ∧
    (after.email.isSome = true ∧ submission.fieldChanges.email.isSome = true ∨
      after.alternatePhones.isSome = true ∧ submission.fieldChanges.alternatePhones.isSome = true)
  | .applicantChangeRequest _ _ => False

namespace ChangeDb

def decisions (db : ChangeDb) (requestId : Nat) : List ChangeRequestStatus :=
  db.auditLog.rows.filterMap fun row => row.2.decision requestId

/-- The requests are those there were, with what their customers submitted. -/
def SameSubmissions (rows later : ChangeDb) : Prop :=
  ∀ id, (later.requests.find? id).map ApplicantChangeRequest.toChangeSubmission =
    (rows.requests.find? id).map ApplicantChangeRequest.toChangeSubmission

variable (db : ChangeDb) (id : Nat) (requestId : Nat)

theorem decisions_audit (row : AuditRow) :
    (db.audit row).decisions requestId = db.decisions requestId ++ (row.decision requestId).toList := by
  show (db.auditLog.rows ++ [(db.auditLog.nextId, row)]).filterMap _ = _
  rw [List.filterMap_append]
  cases decided : row.decision requestId <;> simp [decided, decisions]

@[simp] theorem decisions_writeApplicant (data : ApplicantData) :
    (db.writeApplicant id data).decisions requestId = db.decisions requestId := by
  rw [writeApplicant, decisions_audit]
  exact List.append_nil _

@[simp] theorem decisions_review (review : Review) :
    (db.review id review).decisions requestId = db.decisions requestId ++
      if id = requestId then [review.status] else [] := by
  rw [ChangeDb.review, decisions_audit, AuditRow.decision]
  split <;> rfl

@[simp] theorem requests_review (review : Review) :
    (db.review id review).requests = db.requests.modify id review.write := rfl

theorem sameSubmissions_writeApplicant (data : ApplicantData) :
    db.SameSubmissions (db.writeApplicant id data) :=
  fun _ => rfl

theorem sameSubmissions_review (review : Review) : db.SameSubmissions (db.review id review) := by
  intro key
  rw [requests_review, Table.find?_modify]
  split
  · rename_i same
    rw [same, Option.map_map]
    rfl
  · rfl

variable {db id} {later last : ChangeDb}

theorem SameSubmissions.trans (first : db.SameSubmissions later)
    (second : later.SameSubmissions last) : db.SameSubmissions last :=
  fun key => (second key).trans (first key)

theorem SameSubmissions.find? (same : db.SameSubmissions later) {request : ApplicantChangeRequest}
    (found : db.requests.find? id = some request) :
    ∃ other, later.requests.find? id = some other ∧
      other.toChangeSubmission = request.toChangeSubmission := by
  have known := same id
  rw [found] at known
  exact Option.map_eq_some_iff.mp known

end ChangeDb

end OpenEstate.Presales
