/-
**How inquiries come in**: one by one from a user, by a machine as a lead, or as rows of a sheet.

Each way finds or creates the applicant in its own manner. The inquiry is opened with the first rows
of its histories, and then assigned to its creator, or to whose turn it is in its project.

* `openInquiry` and `assignInTurn` are what the ways have in common;
* `createInquiry`, `createFromLead`, `importInquiries`.
-/

import OpenEstate.Presales.Applicant
import OpenEstate.Presales.Assignment
import OpenEstate.Presales.Transition

namespace OpenEstate.Presales

open Relational

/-! ### Opening and assigning -/

def PresalesDb.insertInquiry (db : PresalesDb) (inquiry : Inquiry) : PresalesDb :=
  { db with inquiries := db.inquiries.create inquiry }

def PresalesDb.openInquiry (db : PresalesDb) (inquiry : Inquiry) (changedById : Option Nat) :
    PresalesDb :=
  ((db.insertInquiry inquiry).stageTransition inquiry.companyId db.inquiries.nextId none
    inquiry.stageId changedById).dispositionTransition
      { companyId := inquiry.companyId, inquiryId := db.inquiries.nextId, fromStatus := none
        toStatus := inquiry.status, changedById }

def openInquiry (inquiry : Inquiry) (changedById : Option Nat) : PresalesTx Nat := do
  let inquiryId ← .insertReturning (·.insertInquiry inquiry) fun db => db.inquiries.nextId
  writeStageTransition inquiry.companyId inquiryId none inquiry.stageId changedById
  writeDispositionTransition inquiry.companyId inquiryId none inquiry.status changedById none none
  return inquiryId

theorem run_openInquiry (inquiry : Inquiry) (changedById : Option Nat) (db : PresalesDb) :
    (openInquiry inquiry changedById).run db =
      .ok (db.inquiries.nextId, db.openInquiry inquiry changedById) := rfl

def PresalesDb.assign (db : PresalesDb) (row : InquiryAssignment) : PresalesDb :=
  { db with
    inquiries := db.inquiries.modify row.inquiryId fun inquiry =>
      { inquiry with assignedToId := some row.toUserId }
    assignments := db.assignments.create row }

def assignTo (row : InquiryAssignment) : PresalesTx Unit := do
  .update (.inquiry row.inquiryId) fun db => db.updateInquiry row.inquiryId fun inquiry =>
    { inquiry with assignedToId := some row.toUserId }
  .insert fun db => { db with assignments := db.assignments.create row }

def assignInTurn (draw : PresalesDraw) (companyId inquiryId : Nat) :
    Option Nat → PresalesTx (Option Nat)
  | none => return none
  | some projectId => do
    let assignedToId ← autoAssign draw companyId projectId
    match assignedToId with
    | none => return none
    | some userId => do
      assignTo { companyId, inquiryId, toUserId := userId, assignmentType := "auto", actorId := none }
      return some userId

/-! ### One by one -/

/-- The applicant of a new inquiry: one that exists, wherever its id is given, or a new one. -/
inductive InquiryApplicant
  | existing (applicantId : Nat)
  | new (dto : CreateApplicantDto)

structure CreateInquiryDto where
  applicant : InquiryApplicant
  projectId : Option Nat := none
  stageId : Option Nat := none
  nextFollowupAt : Option Nat := none

structure CreatedInquiry where
  inquiryId : Nat
  assignedToId : Option Nat
  possibleDuplicateApplicantIds : List Nat

section Create

variable (toLowerCase : String → String)

def InquiryApplicant.resolve (companyId : Nat) : InquiryApplicant → PresalesTx CreatedApplicant
  | .new dto => createApplicant toLowerCase companyId dto
  | .existing id => do
    let applicant ← .query fun db =>
      orThrow (db.applicant? companyId id) (.notFound "Applicant not found")
    .check (ensureLive applicant fun survivorId =>
      .conflict s!"Applicant has been merged into {survivorId}")
    return { id, possibleDuplicateApplicantIds := [] }

def createInquiry (draw : PresalesDraw) (companyId : Nat) (dto : CreateInquiryDto)
    (createdById : Nat) : PresalesTx CreatedInquiry := do
  let applicant ← dto.applicant.resolve toLowerCase companyId
  let stageId ← resolveInitialStage companyId dto.stageId
  let inquiryId ← openInquiry
    { companyId, applicantId := applicant.id, projectId := dto.projectId, stageId
      createdById := some createdById, nextFollowupAt := dto.nextFollowupAt } (some createdById)
  let config ← .read fun db => db.config companyId
  let possibleDuplicateApplicantIds := applicant.possibleDuplicateApplicantIds
  if (config.map CompanyConfig.presalesCreatorRetainsLead).getD true then do
    assignTo
      { companyId, inquiryId, toUserId := createdById, assignmentType := "creator"
        actorId := some createdById }
    return { inquiryId, assignedToId := some createdById, possibleDuplicateApplicantIds }
  else do
    let assignedToId ← assignInTurn draw companyId inquiryId dto.projectId
    return { inquiryId, assignedToId, possibleDuplicateApplicantIds }

/-! ### Leads -/

structure LeadInput where
  name : String
  phone : String
  email : Option String := none
  projectId : Option Nat := none

def LeadInput.applicant (lead : LeadInput) : CreateApplicantDto where
  name := lead.name
  primaryPhone := lead.phone
  email := lead.email

structure LeadCreateResult where
  inquiryId : Nat
  applicantId : Nat
  duplicateApplicantIds : List Nat

def linkOrCreate (companyId : Nat) (dto : CreateApplicantDto) :
    Option (Nat × Applicant) → PresalesTx Nat
  | some applicant => return applicant.1
  | none => insertApplicant (dto.row toLowerCase companyId)

def createFromLead (draw : PresalesDraw) (companyId : Nat) (lead : LeadInput) :
    PresalesTx LeadCreateResult := do
  let duplicates ← .read fun db => db.findDuplicates companyId
    lead.applicant.primaryPhoneNormalized (lead.applicant.emailNormalized toLowerCase)
  let config ← .read fun db => db.config companyId
  let autoLink := (config.map CompanyConfig.presalesPhoneDedupAutoLink).getD true
  let applicantId ← linkOrCreate toLowerCase companyId lead.applicant
    (if autoLink then draw.first duplicates else none)
  let stageId ← resolveInitialStage companyId none
  let inquiryId ← openInquiry { companyId, applicantId, projectId := lead.projectId, stageId } none
  let _ ← assignInTurn draw companyId inquiryId lead.projectId
  return { inquiryId, applicantId, duplicateApplicantIds := duplicates.map Prod.fst }

/-! ### Sheets -/

structure ImportInquiryRow where
  applicantName : String
  primaryPhone : String
  email : Option String := none
  projectCode : Option String := none

def ImportInquiryRow.applicant (row : ImportInquiryRow) : CreateApplicantDto where
  name := row.applicantName
  primaryPhone := row.primaryPhone
  email := row.email

structure ImportRowError where
  row : Nat
  field : String
  message : String

/-- What the file comes to: not a workbook, a workbook without a sheet, or its rows by number, each
of them as it was understood. -/
inductive ImportFile
  | invalid
  | noWorksheet
  | sheet (rows : List (Nat × Except (List ImportRowError) ImportInquiryRow))

structure LinkedRow where
  row : Nat
  applicantName : String
  applicantId : Nat

structure FlaggedRow where
  row : Nat
  applicantName : String
  applicantId : Nat
  possibleDuplicateOfApplicantId : Nat

structure ImportProgress where
  projectCache : List (String × Option Nat) := []
  createdCount : Nat := 0
  linked : List LinkedRow := []
  flagged : List FlaggedRow := []

structure InquiryImportResult where
  success : Bool
  createdCount : Nat := 0
  errors : List ImportRowError := []
  linked : List LinkedRow := []
  flagged : List FlaggedRow := []

def ImportProgress.project (progress : ImportProgress) (companyId : Nat) :
    Option String → PresalesTx (Option Nat × ImportProgress)
  | none => return (none, progress)
  | some code =>
    match progress.projectCache.lookup code with
    | some projectId => return (projectId, progress)
    | none => do
      let found ← .read fun db => db.projects.findFirst? fun _ project =>
        project.companyId == companyId && project.code == code
      let projectId := found.map Prod.fst
      return (projectId, { progress with projectCache := (code, projectId) :: progress.projectCache })

/-- What a row adds to the report: it was linked to an applicant, or a new one may be an old one. -/
def ImportProgress.report (progress : ImportProgress) (autoLink : Bool) (row : Nat)
    (applicantName : String) (applicantId : Nat) (existing : Option (Nat × Applicant)) :
    ImportProgress :=
  match existing with
  | none => { progress with createdCount := progress.createdCount + 1 }
  | some (existingId, _) =>
    if autoLink then
      { progress with
        createdCount := progress.createdCount + 1
        linked := progress.linked ++ [{ row, applicantName, applicantId }] }
    else
      { progress with
        createdCount := progress.createdCount + 1
        flagged := progress.flagged ++
          [{ row, applicantName, applicantId, possibleDuplicateOfApplicantId := existingId }] }

def importRow (draw : PresalesDraw) (companyId : Nat) (autoLink : Bool) (stageId : Option Nat)
    (rowNum : Nat) (row : ImportInquiryRow) (progress : ImportProgress) :
    PresalesTx ImportProgress := do
  let existing ← .read fun db => draw.first (db.findDuplicates companyId
    row.applicant.primaryPhoneNormalized (row.applicant.emailNormalized toLowerCase))
  let applicantId ← linkOrCreate toLowerCase companyId row.applicant
    (if autoLink then existing else none)
  let project ← progress.project companyId row.projectCode
  let inquiryId ← openInquiry { companyId, applicantId, projectId := project.1, stageId } none
  let _ ← assignInTurn draw companyId inquiryId project.1
  return project.2.report autoLink rowNum row.applicantName applicantId existing

def importRows (draws : Nat → PresalesDraw) (companyId : Nat) (autoLink : Bool)
    (stageId : Option Nat) :
    List (Nat × ImportInquiryRow) → ImportProgress → PresalesTx ImportProgress
  | [], progress => return progress
  | (rowNum, row) :: rest, progress => do
    let progress ← importRow toLowerCase (draws rowNum) companyId autoLink stageId rowNum row progress
    importRows draws companyId autoLink stageId rest progress

/-- The rows of a sheet that were understood, and what is wrong with the others. -/
def understood (rows : List (Nat × Except (List ImportRowError) ImportInquiryRow)) :
    List (Nat × ImportInquiryRow) :=
  rows.filterMap fun row => row.2.toOption.map fun data => (row.1, data)

def importErrors (rows : List (Nat × Except (List ImportRowError) ImportInquiryRow)) :
    List ImportRowError :=
  rows.flatMap fun row => match row.2 with
    | .ok _ => []
    | .error errors => errors

def importInquiries (draws : Nat → PresalesDraw) (companyId : Nat) :
    ImportFile → PresalesTx InquiryImportResult
  | .invalid => .fail (.badRequest "Invalid file: expected XLSX format")
  | .noWorksheet => .fail (.badRequest "Workbook has no worksheets")
  | .sheet rows => do
    .check (ensure (rows ≠ []) (.badRequest "No data rows found in the worksheet"))
    if importErrors rows ≠ [] then return { success := false, errors := importErrors rows }
    else do
      let config ← .read fun db => db.config companyId
      let autoLink := (config.map CompanyConfig.presalesPhoneDedupAutoLink).getD true
      let stageId ← resolveInitialStage companyId none
      let done ← importRows toLowerCase draws companyId autoLink stageId (understood rows) {}
      return {
        success := true, createdCount := done.createdCount, linked := done.linked
        flagged := done.flagged }

end Create

end OpenEstate.Presales
