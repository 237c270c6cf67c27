/-
**Applicants.**

A phone number is compared by its ten digits, if it is an Indian mobile number, and an e-mail
address without regard to case. Two applicants that are one person are merged: the inquiries of the
one go to the other, and what was sent to it stays with it. What has been sent to a person is looked
up under the applicant and those merged into it.

* `PresalesDb.findDuplicates` are the live applicants with the phone or the address of a new one;
* `mergeApplicants` and `getCommunicationTimeline`, with what they come to when run alone.
-/

import OpenEstate.Presales.Schema

namespace OpenEstate.Presales

open Relational

/-! ### Phones and addresses -/

def isWhiteSpace (char : Char) : Bool :=
  let code := char.toNat
  (9 ≤ code && code ≤ 13) || (0x2000 ≤ code && code ≤ 0x200A) ||
    [0x20, 0xA0, 0x1680, 0x2028, 0x2029, 0x202F, 0x205F, 0x3000, 0xFEFF].contains code

def trim (raw : String) : String :=
  String.ofList
    ((raw.toList.dropWhile isWhiteSpace).reverse.dropWhile isWhiteSpace).reverse

/-- The ten digits of an Indian mobile number, without prefix; any other number as it is. -/
def normalizePhone (raw : String) : String :=
  let trimmed := trim raw
  let all := trimmed.toList.filter Char.isDigit
  let digits :=
    if all.length = 12 ∧ all.take 2 = ['9', '1'] then all.drop 2
    else if all.length = 11 ∧ all.take 1 = ['0'] then all.drop 1
    else all
  if digits.length = 10 ∧ digits.head?.any ['6', '7', '8', '9'].contains then
    String.ofList digits
  else trimmed

def normalizeEmail (toLowerCase : String → String) (raw : String) : String :=
  toLowerCase (trim raw)

structure CreateApplicantDto where
  name : String
  primaryPhone : String
  email : Option String := none

namespace CreateApplicantDto

variable (toLowerCase : String → String) (dto : CreateApplicantDto)

def primaryPhoneNormalized : String :=
  normalizePhone dto.primaryPhone

def emailNormalized : Option String :=
  (dto.email.filter (· ≠ "")).map (normalizeEmail toLowerCase)

def row (companyId : Nat) : Applicant where
  companyId
  name := dto.name
  primaryPhone := trim dto.primaryPhone
  primaryPhoneNormalized := dto.primaryPhoneNormalized
  email := dto.email
  emailNormalized := dto.emailNormalized toLowerCase

end CreateApplicantDto

/-! ### Duplicates -/

def PresalesDb.IsLive (db : PresalesDb) (companyId id : Nat) : Prop :=
  ∃ applicant, db.applicant? companyId id = some applicant ∧ applicant.mergedIntoId = none

def PresalesDb.findDuplicates (db : PresalesDb) (companyId : Nat) (primaryPhoneNormalized : String)
    (emailNormalized : Option String) : List (Nat × Applicant) :=
  db.applicants.select fun _ applicant =>
    applicant.companyId == companyId && applicant.mergedIntoId.isNone &&
      (applicant.primaryPhoneNormalized == primaryPhoneNormalized ||
        (emailNormalized.isSome && applicant.emailNormalized == emailNormalized))

theorem live_of_mem_findDuplicates {db : PresalesDb} {companyId : Nat} {phone : String}
    {email : Option String} {found : Nat × Applicant}
    (member : found ∈ db.findDuplicates companyId phone email) : db.IsLive companyId found.1 := by
  obtain ⟨exists_, meets⟩ := Table.mem_select.mp member
  simp only [Bool.and_eq_true, beq_iff_eq, Option.isNone_iff_eq_none] at meets
  exact ⟨found.2, applicant?_eq_some.mpr ⟨exists_, meets.1.1⟩, meets.1.2⟩

def PresalesDb.insertApplicant (db : PresalesDb) (applicant : Applicant) : PresalesDb :=
  { db with applicants := db.applicants.create applicant }

def insertApplicant (applicant : Applicant) : PresalesTx Nat :=
  .insertReturning (·.insertApplicant applicant) fun db => db.applicants.nextId

structure CreatedApplicant where
  id : Nat
  possibleDuplicateApplicantIds : List Nat

def createApplicant (toLowerCase : String → String) (companyId : Nat) (dto : CreateApplicantDto) :
    PresalesTx CreatedApplicant := do
  let duplicates ← .read fun db =>
    db.findDuplicates companyId dto.primaryPhoneNormalized (dto.emailNormalized toLowerCase)
  let id ← insertApplicant (dto.row toLowerCase companyId)
  return { id, possibleDuplicateApplicantIds := duplicates.map Prod.fst }

/-! ### Merging -/

def ensureLive (applicant : Applicant) (error : Nat → ServiceError) : Except ServiceError Unit :=
  match applicant.mergedIntoId with
  | none => .ok ()
  | some survivorId => .error (error survivorId)

theorem ensureLive_eq_ok {applicant : Applicant} {error : Nat → ServiceError} {answer : Unit} :
    ensureLive applicant error = .ok answer ↔ applicant.mergedIntoId = none := by
  unfold ensureLive
  cases applicant.mergedIntoId <;> simp

/-- The inquiries of an applicant, and the applicant itself, after a merge. -/
def PresalesDb.merge (db : PresalesDb) (companyId survivorId mergedId : Nat)
    (actorId : Option Nat) : PresalesDb :=
  { db with
    inquiries := db.inquiries.modifyAll
      (fun _ inquiry => inquiry.applicantId == mergedId && inquiry.companyId == companyId)
      fun inquiry => { inquiry with applicantId := survivorId }
    applicants := db.applicants.modify mergedId fun applicant =>
      { applicant with mergedIntoId := some survivorId }
    merges := db.merges.create { companyId, survivorId, mergedId, mergedById := actorId } }

def mergeApplicants (companyId survivorId mergedId : Nat) (actorId : Option Nat) :
    PresalesTx Nat := do
  .check (ensure (survivorId ≠ mergedId) (.badRequest "Cannot merge an applicant into itself"))
  let foundSurvivor ← .read fun db => db.applicant? companyId survivorId
  let foundMerged ← .read fun db => db.applicant? companyId mergedId
  let survivor ← .check (orThrow foundSurvivor (.notFound "Survivor applicant not found"))
  let merged ← .check (orThrow foundMerged (.notFound "Applicant to merge not found"))
  .check (ensureLive survivor fun id => .conflict
    s!"Survivor has itself been merged into {id}; merge against that applicant instead")
  .check (ensureLive merged fun id => .conflict s!"Applicant has already been merged into {id}")
  let ofMerged := fun inquiry : Inquiry =>
    inquiry.applicantId == mergedId && inquiry.companyId == companyId
  .updateMany (fun db => (db.inquiries.select fun _ => ofMerged).map Prod.fst) .inquiry
    fun ids db => { db with
      inquiries := db.inquiries.modifyAll (fun id inquiry => decide (id ∈ ids) && ofMerged inquiry)
        fun inquiry => { inquiry with applicantId := survivorId } }
  .update (.applicant mergedId) fun db => { db with
    applicants := db.applicants.modify mergedId fun applicant =>
      { applicant with mergedIntoId := some survivorId } }
  .insertReturning
    (fun db => { db with
      merges := db.merges.create { companyId, survivorId, mergedId, mergedById := actorId } })
    fun db => db.merges.nextId

theorem merge_of_run {db after : PresalesDb} {companyId survivorId mergedId result : Nat}
    {actorId : Option Nat}
    (ran : (mergeApplicants companyId survivorId mergedId actorId).run db = .ok (result, after)) :
    survivorId ≠ mergedId ∧ db.IsLive companyId survivorId ∧ db.IsLive companyId mergedId ∧
      after = db.merge companyId survivorId mergedId actorId := by
  unfold mergeApplicants at ran
  obtain ⟨_, different, ran⟩ := Tx.run_check_bind_eq_ok.mp ran
  rw [Tx.run_read_bind, Tx.run_read_bind] at ran
  obtain ⟨survivor, foundSurvivor, ran⟩ := Tx.run_check_bind_eq_ok.mp ran
  obtain ⟨merged, foundMerged, ran⟩ := Tx.run_check_bind_eq_ok.mp ran
  obtain ⟨_, liveSurvivor, ran⟩ := Tx.run_check_bind_eq_ok.mp ran
  obtain ⟨_, liveMerged, ran⟩ := Tx.run_check_bind_eq_ok.mp ran
  refine ⟨ensure_eq_ok.mp different, ?_, ?_, ?_⟩
  · exact ⟨survivor, orThrow_eq_ok.mp foundSurvivor, ensureLive_eq_ok.mp liveSurvivor⟩
  · exact ⟨merged, orThrow_eq_ok.mp foundMerged, ensureLive_eq_ok.mp liveMerged⟩
  have all := Table.modifyAll_select db.inquiries
    (fun _ inquiry => inquiry.applicantId == mergedId && inquiry.companyId == companyId)
    fun inquiry => { inquiry with applicantId := survivorId }
  cases ran
  rw [PresalesDb.merge, ← all]
  rfl

/-! ### Communications -/

/-- What has been sent to an applicant, or to one that was merged into it; the latest first. -/
def getCommunicationTimeline (companyId applicantId : Nat) :
    PresalesTx (List (Nat × CommunicationLog)) := do
  let _ ← .query fun db =>
    orThrow (db.applicant? companyId applicantId) (.notFound "Applicant not found")
  let mergedFrom ← .read fun db => db.applicants.select fun _ applicant =>
    applicant.companyId == companyId && applicant.mergedIntoId == some applicantId
  let applicantIds := applicantId :: mergedFrom.map Prod.fst
  .read fun db => (db.communications.select fun _ log =>
    log.companyId == companyId && applicantIds.contains log.applicantId).reverse

structure SendCommunicationDto where
  channel : CommunicationChannel
  subject : Option String := none
  body : String

/-- The address of a channel that an applicant has on file, and the word for it. -/
def CommunicationChannel.address (channel : CommunicationChannel) (applicant : Applicant) :
    Option String :=
  match channel with
  | .email => applicant.email
  | .sms => some applicant.primaryPhone

def CommunicationChannel.onFile : CommunicationChannel → String
  | .email => "email"
  | .sms => "phone"

def PresalesDb.insertCommunication (db : PresalesDb) (log : CommunicationLog) : PresalesDb :=
  { db with communications := db.communications.create log }

def sendCommunication (companyId applicantId : Nat) (inquiryId : Option Nat)
    (dto : SendCommunicationDto) (actorId : Option Nat) : PresalesTx Nat := do
  let applicant ← .query fun db =>
    orThrow (db.applicant? companyId applicantId) (.notFound "Applicant not found")
  .check (ensureLive applicant fun id => .badRequest
    s!"Applicant has been merged into {id}; send to that applicant instead")
  let toAddress ← .check (orThrow ((dto.channel.address applicant).filter (· ≠ ""))
    (.badRequest s!"Applicant has no {dto.channel.onFile} on file"))
  .insertReturning
    (·.insertCommunication
      { companyId, applicantId, inquiryId, channel := dto.channel, toAddress
        subject := dto.subject, body := dto.body, createdById := actorId })
    fun db => db.communications.nextId

theorem send_of_run {db after : PresalesDb} {companyId applicantId result : Nat}
    {inquiryId actorId : Option Nat} {dto : SendCommunicationDto}
    (ran : (sendCommunication companyId applicantId inquiryId dto actorId).run db =
      .ok (result, after)) :
    db.IsLive companyId applicantId ∧ ∃ log, log.companyId = companyId ∧
      log.applicantId = applicantId ∧ after = db.insertCommunication log := by
  unfold sendCommunication at ran
  obtain ⟨applicant, found, ran⟩ := Tx.run_query_bind_eq_ok.mp ran
  obtain ⟨_, live, ran⟩ := Tx.run_check_bind_eq_ok.mp ran
  obtain ⟨toAddress, _, ran⟩ := Tx.run_check_bind_eq_ok.mp ran
  cases ran
  exact ⟨⟨applicant, orThrow_eq_ok.mp found, ensureLive_eq_ok.mp live⟩, _, rfl, rfl, rfl⟩

end OpenEstate.Presales
