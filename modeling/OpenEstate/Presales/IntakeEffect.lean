/-
**What an intake does to the tables.**

Whichever way inquiries come in, the tables change in steps of four kinds: a new applicant, an
inquiry opened for a live applicant, an inquiry assigned, and a pool moved on.

* `Intake` are such steps one after the other;
* `createInquiry_of_run`, `createFromLead_intake`, `importInquiries_intake`: what each way does.
-/

import OpenEstate.Presales.Intake

namespace OpenEstate.Presales

open Relational

/-- An inquiry as it is when it is opened: of a live applicant of the company, in a first stage. -/
structure Opens (db : PresalesDb) (companyId : Nat) (requested : Option Nat) (inquiry : Inquiry) :
    Prop where
  company : inquiry.companyId = companyId
  live : db.IsLive companyId inquiry.applicantId
  startsIn : StartsIn db companyId requested inquiry.stageId
  status : inquiry.status = .open_
  unconverted : inquiry.convertedAt = none

theorem Opens.new {db : PresalesDb} {companyId applicantId : Nat} {requested stageId : Option Nat}
    (live : db.IsLive companyId applicantId) (startsIn : StartsIn db companyId requested stageId)
    (projectId createdById nextFollowupAt : Option Nat) :
    Opens db companyId requested
      { companyId, applicantId, projectId, stageId, createdById, nextFollowupAt } :=
  ⟨rfl, live, startsIn, rfl, rfl⟩

/-- What an intake of a company does, where a stage may be requested for the inquiries. -/
inductive Intake (companyId : Nat) (requested : Option Nat) (first : PresalesDb) : PresalesDb → Prop
  | start : Intake companyId requested first first
  | pools {db : PresalesDb} (earlier : Intake companyId requested first db)
      (pools : Table ProjectAssignmentPool) : Intake companyId requested first { db with pools }
  | applicant {db : PresalesDb} (earlier : Intake companyId requested first db) {row : Applicant}
      (own : row.companyId = companyId) (live : row.mergedIntoId = none) :
      Intake companyId requested first (db.insertApplicant row)
  | opened {db : PresalesDb} (earlier : Intake companyId requested first db) {inquiry : Inquiry}
      (opens : Opens db companyId requested inquiry) (changedById : Option Nat) :
      Intake companyId requested first (db.openInquiry inquiry changedById)
  | assigned {db : PresalesDb} (earlier : Intake companyId requested first db)
      (row : InquiryAssignment) : Intake companyId requested first (db.assign row)

section Effect

variable {toLowerCase : String → String} {companyId : Nat} {requested : Option Nat}
  {db after : PresalesDb}

theorem Intake.trans {middle : PresalesDb} (first : Intake companyId requested db middle)
    (second : Intake companyId requested middle after) : Intake companyId requested db after := by
  induction second with
  | start => exact first
  | pools _ pools ih => exact .pools ih pools
  | applicant _ own live ih => exact .applicant ih own live
  | opened _ opens changedById ih => exact .opened ih opens changedById
  | assigned _ row ih => exact .assigned ih row

theorem Intake.leadStages (intake : Intake companyId requested db after) :
    after.leadStages = db.leadStages := by
  induction intake with
  | start => rfl
  | pools _ pools ih => exact ih
  | applicant _ own live ih => exact ih
  | opened _ opens changedById ih => exact ih
  | assigned _ row ih => exact ih

/-! ### Applicants -/

theorem isLive_insertApplicant {row : Applicant} (own : row.companyId = companyId)
    (live : row.mergedIntoId = none) :
    (db.insertApplicant row).IsLive companyId db.applicants.nextId :=
  ⟨row, applicant?_eq_some.mpr ⟨Table.find?_create_self _ _, own⟩, live⟩

theorem resolve_of_run {applicant : InquiryApplicant} {found : CreatedApplicant}
    (ran : (applicant.resolve toLowerCase companyId).run db = .ok (found, after)) :
    Intake companyId requested db after ∧ after.IsLive companyId found.id := by
  cases applicant with
  | new dto =>
    cases ran
    exact ⟨.applicant .start rfl rfl, isLive_insertApplicant rfl rfl⟩
  | existing id =>
    obtain ⟨applicant, exists_, ran⟩ := Tx.run_query_bind_eq_ok.mp ran
    obtain ⟨_, live, ran⟩ := Tx.run_check_bind_eq_ok.mp ran
    cases ran
    exact ⟨.start, applicant, orThrow_eq_ok.mp exists_, ensureLive_eq_ok.mp live⟩

theorem linkOrCreate_of_run {dto : CreateApplicantDto} {chosen : Option (Nat × Applicant)} {id : Nat}
    (live : ∀ applicant, chosen = some applicant → db.IsLive companyId applicant.1)
    (ran : (linkOrCreate toLowerCase companyId dto chosen).run db = .ok (id, after)) :
    Intake companyId requested db after ∧ after.IsLive companyId id := by
  cases chosen with
  | none =>
    cases ran
    exact ⟨.applicant .start rfl rfl, isLive_insertApplicant rfl rfl⟩
  | some applicant =>
    cases ran
    exact ⟨.start, live applicant rfl⟩

variable {draw : PresalesDraw}

theorem live_of_chosen {phone : String} {email : Option String} {link : Bool}
    {applicant : Nat × Applicant}
    (chosen : (if link then draw.first (db.findDuplicates companyId phone email) else none) =
      some applicant) : db.IsLive companyId applicant.1 := by
  cases link with
  | false => cases chosen
  | true => exact live_of_mem_findDuplicates (PresalesDraw.mem_of_first chosen)

/-! ### Assignments -/

theorem assignInTurn_of_run {inquiryId : Nat} {projectId user : Option Nat}
    (ran : (assignInTurn draw companyId inquiryId projectId).run db = .ok (user, after)) :
    Intake companyId requested db after := by
  cases projectId with
  | none =>
    cases ran
    exact .start
  | some projectId =>
    obtain ⟨assigned, middle, drawn, ran⟩ := Tx.run_bind_eq_ok.mp ran
    obtain ⟨pools, rfl⟩ := autoAssign_of_run drawn
    cases assigned with
    | none =>
      cases ran
      exact .pools .start pools
    | some userId =>
      cases ran
      exact .assigned (.pools .start pools) _

/-! ### The three ways -/

theorem createInquiry_of_run {dto : CreateInquiryDto} {createdById : Nat} {result : CreatedInquiry}
    (ran : (createInquiry toLowerCase draw companyId dto createdById).run db = .ok (result, after)) :
    ∃ middle inquiry, Intake companyId dto.stageId db middle ∧
      Opens middle companyId dto.stageId inquiry ∧
      Intake companyId dto.stageId (middle.openInquiry inquiry (some createdById)) after := by
  unfold createInquiry at ran
  obtain ⟨applicant, withApplicant, resolved, ran⟩ := Tx.run_bind_eq_ok.mp ran
  obtain ⟨found, live⟩ := resolve_of_run resolved
  obtain ⟨stageId, staged, started, opens⟩ := Tx.run_bind_eq_ok.mp ran
  obtain ⟨rfl, startsIn⟩ := initialStage_of_run started
  rw [Tx.run_bind_of_eq_ok (run_openInquiry _ _ _), Tx.run_read_bind] at opens
  refine ⟨staged, _, found, .new live startsIn dto.projectId (some createdById) dto.nextFollowupAt,
    ?_⟩
  dsimp only at opens
  split at opens
  · cases opens
    exact .assigned .start _
  · obtain ⟨user, assigned, turned, ended⟩ := Tx.run_bind_eq_ok.mp opens
    cases ended
    exact assignInTurn_of_run turned

theorem createFromLead_intake {lead : LeadInput} {result : LeadCreateResult}
    (ran : (createFromLead toLowerCase draw companyId lead).run db = .ok (result, after)) :
    Intake companyId none db after := by
  unfold createFromLead at ran
  rw [Tx.run_read_bind, Tx.run_read_bind] at ran
  obtain ⟨applicantId, withApplicant, linked, ran⟩ := Tx.run_bind_eq_ok.mp ran
  obtain ⟨found, live⟩ := linkOrCreate_of_run (fun _ => live_of_chosen) linked
  obtain ⟨stageId, staged, started, opens⟩ := Tx.run_bind_eq_ok.mp ran
  obtain ⟨rfl, startsIn⟩ := initialStage_of_run started
  rw [Tx.run_bind_of_eq_ok (run_openInquiry _ _ _)] at opens
  have opened := Intake.opened found (.new live startsIn lead.projectId none none) none
  obtain ⟨user, assigned, turned, ended⟩ := Tx.run_bind_eq_ok.mp opens
  cases ended
  exact opened.trans (assignInTurn_of_run turned)

variable {progress : ImportProgress}

theorem project_of_run {code : Option String} {answer : (Option Nat × ImportProgress) × PresalesDb}
    (ran : (progress.project companyId code).run db = .ok answer) : answer.2 = db := by
  cases code with
  | none =>
    cases ran
    rfl
  | some code =>
    unfold ImportProgress.project at ran
    dsimp only at ran
    split at ran <;> cases ran <;> rfl

theorem importRow_intake {autoLink : Bool} {stageId : Option Nat} {rowNum : Nat}
    {row : ImportInquiryRow} {later : ImportProgress}
    (startsIn : StartsIn db companyId none stageId)
    (ran : (importRow toLowerCase draw companyId autoLink stageId rowNum row progress).run db =
      .ok (later, after)) : Intake companyId none db after := by
  unfold importRow at ran
  rw [Tx.run_read_bind] at ran
  obtain ⟨applicantId, withApplicant, linked, ran⟩ := Tx.run_bind_eq_ok.mp ran
  obtain ⟨found, live⟩ := linkOrCreate_of_run (fun _ => live_of_chosen) linked
  obtain ⟨project, searched, looked, opens⟩ := Tx.run_bind_eq_ok.mp ran
  obtain rfl : searched = withApplicant := project_of_run looked
  rw [Tx.run_bind_of_eq_ok (run_openInquiry _ _ _)] at opens
  have opened := Intake.opened found
    (.new live (startsIn.congr found.leadStages) project.1 none none) none
  obtain ⟨user, assigned, turned, ended⟩ := Tx.run_bind_eq_ok.mp opens
  cases ended
  exact opened.trans (assignInTurn_of_run turned)

theorem importRows_intake {draws : Nat → PresalesDraw} {autoLink : Bool} {stageId : Option Nat}
    {rows : List (Nat × ImportInquiryRow)} {later : ImportProgress}
    (startsIn : StartsIn db companyId none stageId)
    (ran : (importRows toLowerCase draws companyId autoLink stageId rows progress).run db =
      .ok (later, after)) : Intake companyId none db after := by
  induction rows generalizing db progress with
  | nil =>
    cases ran
    exact .start
  | cons row rest ih =>
    obtain ⟨progressed, middle, one, ran⟩ := Tx.run_bind_eq_ok.mp ran
    have first := importRow_intake startsIn one
    exact first.trans (ih (startsIn.congr first.leadStages) ran)

theorem importInquiries_intake {draws : Nat → PresalesDraw} {file : ImportFile}
    {result : InquiryImportResult}
    (ran : (importInquiries toLowerCase draws companyId file).run db = .ok (result, after)) :
    Intake companyId none db after := by
  cases file with
  | invalid => cases ran
  | noWorksheet => cases ran
  | sheet rows =>
    unfold importInquiries at ran
    obtain ⟨_, _, ran⟩ := Tx.run_check_bind_eq_ok.mp ran
    split at ran
    · cases ran
      exact .start
    · rw [Tx.run_read_bind] at ran
      obtain ⟨stageId, staged, started, rest⟩ := Tx.run_bind_eq_ok.mp ran
      obtain ⟨rfl, startsIn⟩ := initialStage_of_run started
      obtain ⟨progress, imported, rowsRan, ended⟩ := Tx.run_bind_eq_ok.mp rest
      cases ended
      exact importRows_intake startsIn rowsRan

end Effect

end OpenEstate.Presales
