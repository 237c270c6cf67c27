/-
**Change requests, decided by several at once.**

An approval and a rejection read whether the request is pending, and an approval reads whether the
applicant has still the values that are to be replaced. They write after that, whatever has been
committed in between: two of the staff may both decide, and an edit may be overwritten.

* `ChangeCall.Ends`: what a call has written when it commits; `ChangeCall.guarded`;
* `DecidedOnce`: every request is decided at most once, and bears its decision;
* `ReviewsRightly`: an approval writes the values of its request, over what it has read, and a
  rejection none;
* `NobodyWritesOver`: no call that writes what an approval has read commits before the approval does;
  `onCurrentData_iff`: then, and only then, the audit log shows no write since the read;
* `change_requests_hold_iff`: in which interleavings all of this holds throughout;
* `rejected_after_approval`: one in which a request is not decided once.
-/

import OpenEstate.Presales.ChangeRequest
import OpenEstate.Relational.Guarded
import OpenEstate.Relational.History

namespace OpenEstate.Presales

open Relational

/-! ### Calls on their way -/

def ChangeCall.Ends (config : ApplicantConfig) (call : ChangeCall) (answer : Option ChangeReading)
    (before after : ChangeDb) : Prop :=
  match call.op with
  | .approve id reviewerId => ∃ reading request, answer = some reading ∧
    before.requests.find? id = some request ∧
    reading.request.toChangeSubmission = request.toChangeSubmission ∧
    after = (before.writeApplicant request.applicantId request.fieldChanges.data).review id
      { status := .approved, reviewedById := reviewerId, reviewedAt := call.now }
  | .reject id reviewerId reviewNote => answer = none ∧
    (∃ request, before.requests.find? id = some request) ∧
    after = before.review id
      { status := .rejected, reviewedById := reviewerId, reviewedAt := call.now
        reviewNote := some reviewNote }
  | .update id dto => answer = none ∧
    ∃ customFields, after = before.writeApplicant id (dto.data config call.iv customFields)

/-- Nothing is asked of the locks; what the customers have submitted stays as it is. -/
def reviewing (ι : Type) : Discipline ι ChangeDb ChangeLock where
  kept _ := True
  grows := ChangeDb.SameSubmissions
  same _ _ _ := True
  steady _ _ _ := True
  grows_refl _ := fun _ => rfl
  grows_trans := ChangeDb.SameSubmissions.trans
  same_refl _ _ := trivial
  same_trans _ _ := trivial
  steady_refl _ _ := trivial
  steady_trans _ _ := trivial

section Way

variable {ι : Type} {session : ι} {held : List ChangeLock} {rows later : ChangeDb}
  {config : ApplicantConfig}

theorem promises_of_sameSubmissions (same : rows.SameSubmissions later) :
    (reviewing ι).Promises session held rows later :=
  ⟨trivial, same, fun _ _ => trivial, fun _ _ => trivial⟩

theorem pendingRequest_eq_ok {companyId id : Nat} {db : ChangeDb} {request : ApplicantChangeRequest}
    (found : ApplicantChangeRequestService.pendingRequest companyId id db = .ok request) :
    db.requests.find? id = some request := by
  obtain ⟨value, isFound, found⟩ := bind_eq_ok.mp found
  obtain ⟨_, _, found⟩ := bind_eq_ok.mp found
  cases found
  exact (Option.filter_eq_some_iff.mp (orThrow_eq_ok.mp isFound)).1

theorem guarded_approve (companyId now reviewerId requestId : Nat) (iv : String) :
    (reviewing ι).Guarded session (fun _ => True)
      (ChangeCall.Ends config { companyId, now, iv, op := .approve requestId reviewerId }) held
      (ApplicantChangeRequestService.approve companyId now requestId reviewerId) id rows := by
  refine Discipline.wp_query_bind fun first _ _ request found => ?_
  have found := pendingRequest_eq_ok found
  refine Discipline.wp_query_answering fun second relies₂ _ applicant _ => ?_
  refine Discipline.wp_check_bind fun _ _ => ?_
  intro third relies₃ _ fourth relies₄ _ fifth relies₅ _ sixth relies₆ _ last relies
  have same : first.SameSubmissions last := relies₂.grows.trans (relies₃.grows.trans
    (relies₄.grows.trans (relies₅.grows.trans (relies₆.grows.trans relies.grows))))
  obtain ⟨current, isCurrent, submitted⟩ := same.find? found
  have applicantId : current.applicantId = request.applicantId :=
    congrArg ChangeSubmission.applicantId submitted
  have fieldChanges : current.fieldChanges = request.fieldChanges :=
    congrArg ChangeSubmission.fieldChanges submitted
  refine ⟨promises_of_sameSubmissions ?_, _, current, rfl, isCurrent, submitted.symm, ?_⟩
  · exact (last.sameSubmissions_writeApplicant request.applicantId request.fieldChanges.data).trans
      (ChangeDb.sameSubmissions_review _ requestId _)
  · rw [applicantId, fieldChanges]
    rfl

theorem guarded_reject (companyId now reviewerId requestId : Nat) (iv reviewNote : String) :
    (reviewing ι).Guarded session (fun _ => True)
      (ChangeCall.Ends config { companyId, now, iv, op := .reject requestId reviewerId reviewNote })
      held (ApplicantChangeRequestService.reject companyId now requestId reviewerId reviewNote) id
      rows := by
  refine Discipline.wp_query_bind fun first _ _ request found => ?_
  have found := pendingRequest_eq_ok found
  intro second relies₂ _ third relies₃ _ last relies
  have same : first.SameSubmissions last :=
    relies₂.grows.trans (relies₃.grows.trans relies.grows)
  obtain ⟨current, isCurrent, _⟩ := same.find? found
  exact ⟨promises_of_sameSubmissions (last.sameSubmissions_review requestId _), rfl,
    ⟨current, isCurrent⟩, rfl⟩

theorem wp_writeApplicant (companyId now applicantId : Nat) (iv : String) (dto : UpdateApplicantDto)
    (customFields : Option Runtime.Properties) :
    (reviewing ι).wp session (fun _ => True)
      (fun held _ => (reviewing ι).Commits session
        (ChangeCall.Ends config { companyId, now, iv, op := .update applicantId dto }) held none)
      held (writeApplicant applicantId (dto.data config iv customFields)) id rows := by
  intro second _ _ third _ _ last _
  exact ⟨promises_of_sameSubmissions (last.sameSubmissions_writeApplicant applicantId _), rfl,
    customFields, rfl⟩

theorem guarded_edit (companyId now applicantId : Nat) (iv : String) (dto : UpdateApplicantDto) :
    (reviewing ι).Guarded session (fun _ => True)
      (ChangeCall.Ends config { companyId, now, iv, op := .update applicantId dto }) held
      (do ApplicantService.update config companyId applicantId iv dto; return none) id rows := by
  refine Discipline.wp_bind (Discipline.wp_query_bind fun first _ _ existing _ => ?_)
  refine Discipline.wp_check_bind fun _ _ => ?_
  generalize dto.customFields = incoming
  cases incoming with
  | none => exact wp_writeApplicant companyId now applicantId iv dto none
  | some incoming =>
    refine Discipline.wp_query_bind fun _ _ _ customFields _ => ?_
    exact wp_writeApplicant companyId now applicantId iv dto customFields

theorem ChangeCall.guarded (call : ChangeCall) :
    (reviewing ι).Guarded session (fun _ => True) (call.Ends config) held
      (call.statements config) id rows := by
  obtain ⟨companyId, now, iv, op⟩ := call
  cases op with
  | approve requestId reviewerId => exact guarded_approve companyId now reviewerId requestId iv
  | reject requestId reviewerId reviewNote =>
    exact guarded_reject companyId now reviewerId requestId iv reviewNote
  | update applicantId dto => exact guarded_edit companyId now applicantId iv dto

end Way

/-! ### Decided once -/

/-- **Every request is decided at most once**, since some moment: its status and its decisions are
what they were, or it was pending then, and has been approved or rejected in one decision. -/
structure DecidedOnce (start db : ChangeDb) : Prop where
  submissions : start.SameSubmissions db
  decided : ∀ id first current, start.requests.find? id = some first →
    db.requests.find? id = some current →
    (current.status = first.status ∧ db.decisions id = start.decisions id) ∨
    (first.status = .pending ∧ current.status ≠ .pending ∧
      db.decisions id = start.decisions id ++ [current.status])

def ChangeCall.FindsPending (call : ChangeCall) (before : ChangeDb) : Prop :=
  match call.op with
  | .approve id _ | .reject id _ _ =>
    ∀ request, before.requests.find? id = some request → request.status = .pending
  | .update _ _ => True

/-- Whether a field that a customer has asked to change has been written since the audit log had
some number of rows. -/
def ChangeDb.WrittenSince (db : ChangeDb) (audited : Nat) (submission : ChangeSubmission) : Prop :=
  ∃ id row, db.auditLog.find? id = some row ∧ audited ≤ id ∧ row.Writes submission

/-- Whether nobody has written a field that an approval replaces since the approval has read the
applicant. -/
def OnCurrentData (answer : Option ChangeReading) (before : ChangeDb) : Prop :=
  ∀ reading, answer = some reading →
    ¬before.WrittenSince reading.audited reading.request.toChangeSubmission

/-- **What a review does when it commits**: an approval writes the values of its request, replacing
nothing that was written after it has read the applicant; a rejection writes no values; and an edit
leaves the requests alone. -/
def ChangeCall.ReviewsRightly (call : ChangeCall) (answer : Option ChangeReading)
    (before after : ChangeDb) : Prop :=
  match call.op with
  | .approve id _ => OnCurrentData answer before ∧
    ∃ request, before.requests.find? id = some request ∧ after.applicants =
      before.applicants.modify request.applicantId request.fieldChanges.data.write ∧
      after.decisions id = before.decisions id ++ [.approved]
  | .reject id _ _ => after.applicants = before.applicants ∧
    after.decisions id = before.decisions id ++ [.rejected]
  | .update _ _ => after.requests = before.requests

section Commits

variable {config : ApplicantConfig} {call : ChangeCall} {answer : Option ChangeReading}
  {start before after : ChangeDb}

theorem DecidedOnce.refl (db : ChangeDb) : DecidedOnce db db where
  submissions := fun _ => rfl
  decided := by
    intro id first current found isCurrent
    cases found.symm.trans isCurrent
    exact Or.inl ⟨rfl, rfl⟩

theorem DecidedOnce.writeApplicant_iff (applicantId : Nat) (data : ApplicantData) :
    DecidedOnce start (before.writeApplicant applicantId data) ↔ DecidedOnce start before := by
  constructor
  · rintro ⟨submissions, decided⟩
    refine ⟨submissions, fun id first current found isCurrent => ?_⟩
    have known := decided id first current found isCurrent
    rwa [ChangeDb.decisions_writeApplicant] at known
  · rintro ⟨submissions, decided⟩
    refine ⟨submissions, fun id first current found isCurrent => ?_⟩
    rw [ChangeDb.decisions_writeApplicant]
    exact decided id first current found isCurrent

/-- **A review keeps requests decided once** exactly when its request is pending. -/
theorem DecidedOnce.review_iff {id : Nat} {review : Review} {request : ApplicantChangeRequest}
    (once : DecidedOnce start before) (isDecision : review.status ≠ .pending)
    (found : before.requests.find? id = some request) :
    DecidedOnce start (before.review id review) ↔ request.status = .pending := by
  have reviewed : (before.review id review).requests.find? id = some (review.write request) := by
    rw [ChangeDb.requests_review, Table.find?_modify_self, found]
    rfl
  have logged : (before.review id review).decisions id = before.decisions id ++ [review.status] := by
    rw [ChangeDb.decisions_review, if_pos rfl]
  obtain ⟨first, wasFound, _⟩ : ∃ first, start.requests.find? id = some first ∧
      first.toChangeSubmission = request.toChangeSubmission := by
    have known := once.submissions id
    rw [found] at known
    exact Option.map_eq_some_iff.mp known.symm
  constructor
  · intro after
    have length : (before.decisions id).length ≤ (start.decisions id).length := by
      obtain ⟨_, same⟩ | ⟨_, _, one⟩ := after.decided id first _ wasFound reviewed
      · rw [← same, logged, List.length_append]
        exact Nat.le_add_right _ _
      · rw [logged] at one
        have sizes := congrArg List.length one
        simp only [List.length_append, List.length_singleton] at sizes
        omega
    obtain ⟨sameStatus, sameDecisions⟩ | ⟨_, _, one⟩ := once.decided id first request wasFound found
    · obtain ⟨_, same⟩ | ⟨pending, _, _⟩ := after.decided id first _ wasFound reviewed
      · rw [logged, sameDecisions] at same
        exact absurd (congrArg List.length same) (by simp)
      · rw [sameStatus, pending]
    · rw [one, List.length_append, List.length_singleton] at length
      omega
  · intro pending
    refine ⟨once.submissions.trans (before.sameSubmissions_review id review), ?_⟩
    intro key other current otherFound isCurrent
    by_cases same : key = id
    · subst same
      cases wasFound.symm.trans otherFound
      cases reviewed.symm.trans isCurrent
      rw [logged]
      obtain ⟨sameStatus, sameDecisions⟩ | ⟨_, decided, _⟩ :=
        once.decided key first request wasFound found
      · refine Or.inr ⟨sameStatus.symm.trans pending, isDecision, ?_⟩
        rw [sameDecisions]
        rfl
      · exact absurd pending decided
    · rw [ChangeDb.requests_review, Table.find?_modify_of_ne _ _ same] at isCurrent
      rw [ChangeDb.decisions_review, if_neg (Ne.symm same), List.append_nil]
      exact once.decided key other current otherFound isCurrent

theorem decidedOnce_of_ends (ends : call.Ends config answer before after)
    (once : DecidedOnce start before) : DecidedOnce start after ↔ call.FindsPending before := by
  obtain ⟨companyId, now, iv, op⟩ := call
  have asked : ∀ id request, before.requests.find? id = some request →
      ((∀ other, before.requests.find? id = some other → other.status = .pending) ↔
        request.status = .pending) := by
    intro id request found
    simp only [found, Option.some.injEq, forall_eq']
  cases op with
  | approve id reviewerId =>
    obtain ⟨reading, request, _, found, _, rfl⟩ := ends
    have written := (DecidedOnce.writeApplicant_iff request.applicantId
      request.fieldChanges.data).mpr once
    have approves : ChangeRequestStatus.approved ≠ .pending := by decide
    exact (written.review_iff approves found).trans (asked id request found).symm
  | reject id reviewerId reviewNote =>
    obtain ⟨_, ⟨request, found⟩, rfl⟩ := ends
    have rejects : ChangeRequestStatus.rejected ≠ .pending := by decide
    exact (once.review_iff rejects found).trans (asked id request found).symm
  | update id dto =>
    obtain ⟨_, customFields, rfl⟩ := ends
    exact iff_of_true ((DecidedOnce.writeApplicant_iff id _).mpr once) trivial

theorem onCurrentData_none (before : ChangeDb) : OnCurrentData none before := by
  intro reading answered
  cases answered

theorem reviewsRightly_of_ends (ends : call.Ends config answer before after) :
    call.ReviewsRightly answer before after ↔ OnCurrentData answer before := by
  obtain ⟨companyId, now, iv, op⟩ := call
  cases op with
  | approve id reviewerId =>
    obtain ⟨reading, request, _, found, _, rfl⟩ := ends
    refine and_iff_left ⟨request, found, rfl, ?_⟩
    rw [ChangeDb.decisions_review, if_pos rfl, ChangeDb.decisions_writeApplicant]
  | reject id reviewerId reviewNote =>
    obtain ⟨rfl, _, rfl⟩ := ends
    refine iff_of_true ⟨rfl, ?_⟩ (onCurrentData_none before)
    rw [ChangeDb.decisions_review, if_pos rfl]
  | update id dto =>
    obtain ⟨rfl, customFields, rfl⟩ := ends
    exact iff_of_true rfl (onCurrentData_none before)

end Commits

/-! ### Between reading and writing -/

abbrev ChangeWorld (ι : Type) : Type :=
  World ι ChangeDb ChangeLock ChangeRefusal (Option ChangeReading)

abbrev changeStart {ι : Type} (config : ApplicantConfig) (calls : ι → ChangeCall) (rows : ChangeDb) :
    ChangeWorld ι :=
  World.start (fun session => (calls session).statements config) rows

def ChangeCall.goesOn (call : ChangeCall) (id reviewerId : Nat) (request : ApplicantChangeRequest) :
    ChangeTx (Option ChangeReading) :=
  (ApplicantChangeRequestService.applyChanges call.companyId call.now id reviewerId
    request).answering fun db => some ⟨request, db.auditLog.nextId⟩

def ChangeCall.ReadsApplicant {ι : Type} (call : ChangeCall) (session : ι)
    (request : ApplicantChangeRequest) (step : Step (ChangeWorld ι) (Choice ι)) : Prop :=
  match call.op with
  | .approve requestId reviewerId => step.input = .advance session ∧
    step.before.sessions session = .active (call.goesOn requestId reviewerId request) id
  | _ => False

/-- Whether a call writes a field that a customer has asked to change, when it commits. -/
def ChangeCall.WritesOver (call : ChangeCall) (submission : ChangeSubmission) (before : ChangeDb) :
    Prop :=
  match call.op with
  | .approve id _ => ∃ other, before.requests.find? id = some other ∧
    other.applicantId = submission.applicantId ∧
    (other.fieldChanges.email.isSome = true ∧ submission.fieldChanges.email.isSome = true ∨
      other.fieldChanges.alternatePhones.isSome = true ∧
        submission.fieldChanges.alternatePhones.isSome = true)
  | .reject _ _ _ => False
  | .update id dto => id = submission.applicantId ∧
    (dto.email.isSome = true ∧ submission.fieldChanges.email.isSome = true ∨
      dto.alternatePhones.isSome = true ∧ submission.fieldChanges.alternatePhones.isSome = true)

/-- **Nobody writes over what an approval has read**: between the step in which it reads the
applicant and the step in which it commits, no call commits that writes a field of its request. -/
def NobodyWritesOver {ι : Type} (calls : ι → ChangeCall)
    (history : List (Step (ChangeWorld ι) (Choice ι))) : Prop :=
  ∀ earlier read meanwhile commit later session request answer,
    history = earlier ++ read :: (meanwhile ++ commit :: later) →
    (calls session).ReadsApplicant session request read → World.CommitsIn session answer commit →
    ∀ step ∈ meanwhile, ∀ writer answered, World.CommitsIn writer answered step →
      ¬(calls writer).WritesOver request.toChangeSubmission step.before.rows

section Since

variable {config : ApplicantConfig} {call : ChangeCall} {answer : Option ChangeReading}
  {db before after : ChangeDb} {audited : Nat} {submission : ChangeSubmission}

theorem not_writtenSince_nextId (db : ChangeDb) (submission : ChangeSubmission) :
    ¬db.WrittenSince db.auditLog.nextId submission := by
  rintro ⟨id, row, found, late, _⟩
  exact absurd (Table.lt_nextId found) (not_lt.mpr late)

theorem writtenSince_audit (db : ChangeDb) (row : AuditRow) (early : audited ≤ db.auditLog.nextId) :
    (db.audit row).WrittenSince audited submission ↔
      db.WrittenSince audited submission ∨ row.Writes submission := by
  constructor
  · rintro ⟨id, other, found, late, writes⟩
    obtain ⟨_, rfl⟩ | old := Table.find?_create_eq_some.mp found
    · exact Or.inr writes
    · exact Or.inl ⟨id, other, old, late, writes⟩
  · rintro (⟨id, other, found, late, writes⟩ | writes)
    · exact ⟨id, other, Table.find?_create_old _ found, late, writes⟩
    · exact ⟨_, row, Table.find?_create_self _ _, early, writes⟩

theorem writtenSince_writeApplicant (db : ChangeDb) (applicantId : Nat) (data : ApplicantData)
    (early : audited ≤ db.auditLog.nextId) :
    (db.writeApplicant applicantId data).WrittenSince audited submission ↔
      db.WrittenSince audited submission ∨ applicantId = submission.applicantId ∧
        (data.email.isSome = true ∧ submission.fieldChanges.email.isSome = true ∨
          data.alternatePhones.isSome = true ∧
            submission.fieldChanges.alternatePhones.isSome = true) :=
  writtenSince_audit (db.updateApplicant applicantId data) _ early

theorem writtenSince_review (db : ChangeDb) (id : Nat) (review : Review)
    (early : audited ≤ db.auditLog.nextId) :
    (db.review id review).WrittenSince audited submission ↔ db.WrittenSince audited submission :=
  (writtenSince_audit (db.updateRequest id review) _ early).trans (or_iff_left not_false)

theorem writtenSince_of_ends (ends : call.Ends config answer before after)
    (early : audited ≤ before.auditLog.nextId) :
    audited ≤ after.auditLog.nextId ∧
      (after.WrittenSince audited submission ↔
        before.WrittenSince audited submission ∨ call.WritesOver submission before) := by
  obtain ⟨companyId, now, iv, op⟩ := call
  cases op with
  | approve id reviewerId =>
    obtain ⟨reading, request, _, found, _, rfl⟩ := ends
    have next : audited ≤ (before.writeApplicant request.applicantId
        request.fieldChanges.data).auditLog.nextId := Nat.le_succ_of_le early
    refine ⟨Nat.le_succ_of_le next, ?_⟩
    rw [writtenSince_review _ _ _ next, writtenSince_writeApplicant _ _ _ early]
    refine or_congr_right ?_
    simp only [ChangeCall.WritesOver, found, Option.some.injEq, exists_eq_left', FieldChanges.data,
      Option.isSome_map]
  | reject id reviewerId reviewNote =>
    obtain ⟨_, _, rfl⟩ := ends
    refine ⟨Nat.le_succ_of_le early, ?_⟩
    rw [writtenSince_review _ _ _ early]
    exact (or_iff_left not_false).symm
  | update id dto =>
    obtain ⟨_, customFields, rfl⟩ := ends
    refine ⟨Nat.le_succ_of_le early, ?_⟩
    rw [writtenSince_writeApplicant _ _ _ early]
    simp only [ChangeCall.WritesOver, UpdateApplicantDto.data, Option.isSome_map]

end Since

inductive ChangeCall.Unread (call : ChangeCall) (requestId reviewerId : Nat) :
    Session ChangeDb ChangeLock ChangeRefusal (Option ChangeReading) → Prop
  | begins : Unread call requestId reviewerId (.active
      (ApplicantChangeRequestService.approve call.companyId call.now requestId reviewerId) id)
  | goesOn (request : ApplicantChangeRequest) :
      Unread call requestId reviewerId (.active (call.goesOn requestId reviewerId request) id)
  | refused (error : ChangeRefusal) (written : ChangeDb → ChangeDb) :
      Unread call requestId reviewerId (.active (.fail error) written)
  | aborted : Unread call requestId reviewerId .aborted

section Between

variable {ι : Type} [DecidableEq ι] {config : ApplicantConfig} {calls : ι → ChangeCall}
  {call : ChangeCall} {session : ι} {request : ApplicantChangeRequest} {requestId reviewerId : Nat}
  {choice : Choice ι} {before after : ChangeWorld ι}

theorem approve_next (call : ChangeCall) (requestId reviewerId : Nat) :
    ∃ next, ApplicantChangeRequestService.approve call.companyId call.now requestId reviewerId =
      .stmt [] id next ∧ ∀ seen, (∃ request, next seen = call.goesOn requestId reviewerId request) ∨
        ∃ error, next seen = .fail error := by
  refine ⟨_, rfl, fun seen => ?_⟩
  show (∃ request, (Tx.check (ApplicantChangeRequestService.pendingRequest _ _ seen)).bind _ = _) ∨
    ∃ error, (Tx.check (ApplicantChangeRequestService.pendingRequest _ _ seen)).bind _ = _
  generalize ApplicantChangeRequestService.pendingRequest _ _ seen = found
  cases found with
  | ok request => exact Or.inl ⟨request, rfl⟩
  | error error => exact Or.inr ⟨error, rfl⟩

theorem ChangeCall.Unread.step (unread : call.Unread requestId reviewerId (before.sessions session))
    (accepted : World.exec choice before = .ok after) :
    call.Unread requestId reviewerId (after.sessions session) ∨
      choice = .advance session ∧ ∃ request,
        before.sessions session = .active (call.goesOn requestId reviewerId request) id := by
  obtain same | ⟨moves, locks, write, next, written, stands, goes⟩ | ⟨result, written, stands, goes⟩ |
    goes := World.sessions_cases accepted session
  · exact Or.inl (same ▸ unread)
  · rw [goes]
    rw [stands] at unread
    generalize place : Session.active (.stmt locks write next) written = there at unread
    cases unread with
    | begins =>
      obtain ⟨follows, isStmt, onward⟩ := approve_next call requestId reviewerId
      rw [isStmt] at place
      cases place
      obtain ⟨request, on_⟩ | ⟨error, fails⟩ := onward (id before.rows)
      · rw [on_]
        exact Or.inl (.goesOn request)
      · rw [fails]
        exact Or.inl (.refused error _)
    | goesOn request => exact Or.inr ⟨moves, request, stands.trans place⟩
    | refused error written => cases place
    | aborted => cases place
  · rw [stands] at unread
    generalize place : Session.active (.done result) written = there at unread
    cases unread with
    | begins => cases place
    | goesOn request => cases place
    | refused error written => cases place
    | aborted => cases place
  · rw [goes]
    exact Or.inl .aborted

theorem goesOn_next (call : ChangeCall) (requestId reviewerId : Nat)
    (request : ApplicantChangeRequest) :
    ∃ next, call.goesOn requestId reviewerId request = .stmt [] id next ∧ ∀ seen : ChangeDb,
      (next seen).Keeps (fun _ => True) fun answer => answer = some ⟨request, seen.auditLog.nextId⟩ :=
  ⟨_, rfl, fun _ => (Tx.keeps_true _).bind fun _ _ => .done rfl⟩

theorem ChangeCall.ReadsApplicant.answers
    (reads : call.ReadsApplicant session request ⟨before, choice, after⟩)
    (accepted : World.exec choice before = .ok after) :
    after.rows = before.rows ∧ after.MayAnswer
      (fun answer => answer = some ⟨request, before.rows.auditLog.nextId⟩) session := by
  unfold ChangeCall.ReadsApplicant at reads
  split at reads
  · rename_i requestId reviewerId _
    obtain ⟨rfl, stands⟩ : choice = .advance session ∧
      before.sessions session = .active (call.goesOn requestId reviewerId request) id := reads
    obtain ⟨next, isStmt, answers⟩ := goesOn_next call requestId reviewerId request
    rw [isStmt] at stands
    simp only [World.exec, stands] at accepted
    split at accepted
    · cases accepted
      refine ⟨rfl, ?_⟩
      unfold World.MayAnswer
      rw [World.sessions_issue]
      exact answers before.rows
    · cases accepted
  · exact reads.elim

theorem exists_read (approves : (calls session).op = .approve requestId reviewerId)
    {rows : ChangeDb} (schedule : List (Choice ι)) {answer : Option ChangeReading}
    {commit : Step (ChangeWorld ι) (Choice ι)} (commits : World.CommitsIn session answer commit)
    (reached : run World.exec (changeStart config calls rows) schedule = commit.before) :
    ∃ read ∈ steps World.exec (changeStart config calls rows) schedule, ∃ request,
      (calls session).ReadsApplicant session request read := by
  have begins : (changeStart config calls rows).sessions session = .active
      (ApplicantChangeRequestService.approve (calls session).companyId (calls session).now requestId
        reviewerId) id := by
    show Session.active ((calls session).statements config) id = _
    rw [ChangeCall.statements, approves]
  have initially : (calls session).Unread requestId reviewerId
      ((changeStart config calls rows).sessions session) := by
    rw [begins]
    exact .begins
  have known := history_invariant (fun history (world : ChangeWorld ι) =>
    (calls session).Unread requestId reviewerId (world.sessions session) ∨
      ∃ read ∈ history, ∃ request, (calls session).ReadsApplicant session request read)
    (fun history choice before after known accepted (_ : True) => by
      obtain unread | ⟨read, member, reads⟩ := known
      · obtain unread | ⟨moves, request, stands⟩ := unread.step accepted
        · exact Or.inl unread
        · refine Or.inr ⟨_, List.mem_append_right _ List.mem_cons_self, request, ?_⟩
          unfold ChangeCall.ReadsApplicant
          rw [approves]
          exact ⟨moves, stands⟩
      · exact Or.inr ⟨read, List.mem_append_left _ member, reads⟩)
    (Or.inl initially) schedule fun _ _ => trivial
  refine known.resolve_left fun unread => ?_
  obtain ⟨⟨written, stands⟩, _⟩ := commits
  rw [reached, stands] at unread
  generalize place : Session.active (.done answer) written = there at unread
  cases unread with
  | begins => cases place
  | goesOn request => cases place
  | refused error written => cases place
  | aborted => cases place

theorem writtenSince_iff {origin world : ChangeWorld ι}
    (governed : (reviewing ι).Governed (fun _ => True) (fun session => (calls session).Ends config)
      origin world) (submission : ChangeSubmission) (schedule : List (Choice ι)) :
    (run World.exec world schedule).rows.WrittenSince world.rows.auditLog.nextId submission ↔
      ∃ step ∈ steps World.exec world schedule, ∃ writer answer,
        World.CommitsIn writer answer step ∧
          (calls writer).WritesOver submission step.before.rows := by
  refine (history_invariant (fun history (visited : ChangeWorld ι) =>
    (reviewing ι).Governed (fun _ => True) (fun session => (calls session).Ends config)
      origin visited ∧
    world.rows.auditLog.nextId ≤ visited.rows.auditLog.nextId ∧
    (visited.rows.WrittenSince world.rows.auditLog.nextId submission ↔
      ∃ step ∈ history, ∃ writer answer, World.CommitsIn writer answer step ∧
        (calls writer).WritesOver submission step.before.rows)) ?_ ⟨governed, le_rfl, ?_⟩ schedule
    fun _ _ => trivial).2.2
  · rintro history choice before after ⟨governed, early, since⟩ accepted _
    refine ⟨governed.step trivial accepted, ?_⟩
    obtain ⟨same, nobody⟩ | ⟨writer, answer, commits, only⟩ := World.commitsIn_cases accepted
    · rw [same]
      refine ⟨early, since.trans ⟨?_, ?_⟩⟩
      · rintro ⟨step, member, commits⟩
        exact ⟨step, List.mem_append_left _ member, commits⟩
      · rintro ⟨step, member, writer, answer, commits, writes⟩
        obtain old | last := List.mem_append.mp member
        · exact ⟨step, old, writer, answer, commits, writes⟩
        · cases List.mem_singleton.mp last
          exact absurd commits (nobody writer answer)
    · obtain ⟨later, exactly⟩ := writtenSince_of_ends
        (governed.ends_of_commitsIn accepted commits) early
      refine ⟨later, exactly.trans ((or_congr_left since).trans ⟨?_, ?_⟩)⟩
      · rintro (⟨step, member, earlier⟩ | writes)
        · exact ⟨step, List.mem_append_left _ member, earlier⟩
        · exact ⟨_, List.mem_append_right _ List.mem_cons_self, writer, answer, commits, writes⟩
      · rintro ⟨step, member, other, answered, committed, writes⟩
        obtain old | last := List.mem_append.mp member
        · exact Or.inl ⟨step, old, other, answered, committed, writes⟩
        · cases List.mem_singleton.mp last
          obtain ⟨rfl, _⟩ := only other answered committed
          exact Or.inr writes
  · refine iff_of_false (not_writtenSince_nextId _ _) ?_
    rintro ⟨step, ⟨⟩, _⟩

theorem onCurrentData_iff {origin : ChangeWorld ι} {schedule : List (Choice ι)}
    {earlier meanwhile later : List (Step (ChangeWorld ι) (Choice ι))}
    {read commit : Step (ChangeWorld ι) (Choice ι)} {answer : Option ChangeReading}
    (governed : ∀ visited ∈ states World.exec origin schedule, (reviewing ι).Governed
      (fun _ => True) (fun session => (calls session).Ends config) origin visited)
    (split : steps World.exec origin schedule = earlier ++ read :: (meanwhile ++ commit :: later))
    (reads : (calls session).ReadsApplicant session request read)
    (commits : World.CommitsIn session answer commit) :
    OnCurrentData answer commit.before.rows ↔ ∀ step ∈ meanwhile, ∀ writer answered,
      World.CommitsIn writer answered step →
        ¬(calls writer).WritesOver request.toChangeSubmission step.before.rows := by
  have isStep : read ∈ steps World.exec origin schedule :=
    split ▸ List.mem_append_right _ List.mem_cons_self
  obtain ⟨_, onward, _, _, _, accepted, follows, _⟩ := steps_eq_append_cons split
  obtain ⟨between, _, _, same, reached, _⟩ := steps_eq_append_cons follows
  obtain ⟨unchanged, may⟩ := reads.answers accepted
  -- from the read on, what the approval may answer is how long the audit log was
  have onward : Reachable World.exec read.after commit.before :=
    reached ▸ reachable_run read.after between
  have may := onward.invariant (P := fun world => World.MayAnswer _ world session) may
    fun _ _ _ may accepted => may.step accepted
  have answered := may.of_commitsIn commits
  have governedAfter := (governed _ (before_mem_states isStep)).step trivial accepted
  have since := writtenSince_iff governedAfter request.toChangeSubmission between
  rw [reached, same, unchanged] at since
  have current : OnCurrentData answer commit.before.rows ↔ ¬commit.before.rows.WrittenSince
      read.before.rows.auditLog.nextId request.toChangeSubmission := by
    rw [answered]
    exact ⟨fun current => current _ rfl, fun current _ same => Option.some.inj same ▸ current⟩
  rw [current, since]
  simp only [not_exists, not_and]

/-- **All approvals are on current data** exactly when nobody writes over what they have read. -/
theorem nobodyWritesOver_iff {rows : ChangeDb} (schedule : List (Choice ι))
    (governed : ∀ visited ∈ states World.exec (changeStart config calls rows) schedule,
      (reviewing ι).Governed (fun _ => True) (fun session => (calls session).Ends config)
        (changeStart config calls rows) visited) :
    NobodyWritesOver calls (steps World.exec (changeStart config calls rows) schedule) ↔
      ∀ step ∈ steps World.exec (changeStart config calls rows) schedule, ∀ session answer,
        World.CommitsIn session answer step → OnCurrentData answer step.before.rows := by
  constructor
  · intro nobody commit member session answer commits
    obtain ⟨before, later, split⟩ := List.append_of_mem member
    obtain ⟨first, _, _, same, reached, accepted, _⟩ := steps_eq_append_cons split
    have ends := (governed _ (before_mem_states member)).ends_of_commitsIn accepted commits
    cases op : (calls session).op with
    | approve requestId reviewerId =>
      obtain ⟨read, listed, request, reads⟩ := exists_read op first commits reached
      rw [same] at listed
      obtain ⟨earlier, meanwhile, rfl⟩ := List.append_of_mem listed
      rw [List.append_assoc, List.cons_append] at split
      exact (onCurrentData_iff governed split reads commits).mpr
        (nobody _ _ _ _ _ _ _ _ split reads commits)
    | reject requestId reviewerId reviewNote =>
      rw [ChangeCall.Ends, op] at ends
      rw [ends.1]
      exact onCurrentData_none _
    | update applicantId dto =>
      rw [ChangeCall.Ends, op] at ends
      rw [ends.1]
      exact onCurrentData_none _
  · intro current earlier read meanwhile commit later session request answer split reads commits
    have isStep : commit ∈ steps World.exec (changeStart config calls rows) schedule := by
      rw [split]
      simp
    exact (onCurrentData_iff governed split reads commits).mp (current _ isStep _ _ commits)

end Between

/-! ### Interleavings -/

/-- **When change requests are decided once and on current data.** In every interleaving of
approvals, rejections and edits, every request is decided at most once and its values are written
exactly by its approval, over nothing that was written after the approval has read the applicant, if
and only if every decision that commits finds its request still pending, and no call that writes one
of the fields of an approval commits between the step in which the approval reads the applicant and
the step in which it commits. -/
theorem change_requests_hold_iff {ι : Type} [DecidableEq ι] (config : ApplicantConfig)
    (calls : ι → ChangeCall) (rows : ChangeDb) (schedule : List (Choice ι)) :
    ((∀ visited ∈ states World.exec (changeStart config calls rows) schedule,
      DecidedOnce rows visited.rows) ∧
    ∀ step ∈ steps World.exec (changeStart config calls rows) schedule,
      ∀ session answer, World.CommitsIn session answer step →
        (calls session).ReviewsRightly answer step.before.rows step.after.rows) ↔
    (∀ step ∈ steps World.exec (changeStart config calls rows) schedule,
      ∀ session answer, World.CommitsIn session answer step →
        (calls session).FindsPending step.before.rows) ∧
    NobodyWritesOver calls (steps World.exec (changeStart config calls rows) schedule) := by
  have governed : (reviewing ι).Governed (fun _ => True)
      (fun session => (calls session).Ends config)
      (changeStart config calls rows) (changeStart config calls rows) :=
    Discipline.governed_start trivial fun session => (calls session).guarded
  have throughout := Discipline.governed_of_states governed schedule fun _ _ => trivial
  rw [Discipline.forall_rows_iff governed (fun _ _ _ _ ends once => decidedOnce_of_ends ends once)
    schedule (DecidedOnce.refl rows), nobodyWritesOver_iff schedule throughout]
  refine and_congr_right fun _ => forall₂_congr fun step member => ?_
  refine forall₃_congr fun session answer commits => ?_
  exact reviewsRightly_of_ends ((throughout _ (before_mem_states member)).ends_of_commitsIn
    (mem_steps member).2 commits)

/-! ### Two decisions -/

def askedForEmail : ChangeDb where
  applicants := Table.empty.create
    { companyId := 1, name := "Customer", primaryPhone := "1", primaryPhoneNormalized := "1" }
  requests := Table.empty.create
    { companyId := 1, applicantId := 0, requestedById := 0, createdAt := 0
      fieldChanges := { email := some { from_ := none, to_ := some "new@example.com" } } }

def approvedAndRejected (approves : Bool) : ChangeCall where
  companyId := 1
  op := if approves then .approve 0 1 else .reject 0 2 "No"

def simpleConfig : ApplicantConfig where
  platform := CustomFields.searching
  toLowerCase := id
  encrypt _ plaintext := plaintext

/-- Both read the request; the approval goes on and commits, and then the rejection. -/
def rejectedTooLate : List (Choice Bool) :=
  [.advance true, .advance false] ++ List.replicate 6 (.advance true) ++
    List.replicate 3 (.advance false)

/-- **The request ends rejected, and its values have been written.** -/
theorem rejected_after_approval :
    ¬(∀ visited ∈ states World.exec (World.start
        (fun session => (approvedAndRejected session).statements simpleConfig) askedForEmail)
        rejectedTooLate, DecidedOnce askedForEmail visited.rows) ∧
      ((run World.exec (World.start
        (fun session => (approvedAndRejected session).statements simpleConfig) askedForEmail)
        rejectedTooLate).rows.requests.find? 0).map ApplicantChangeRequest.status =
          some .rejected ∧
      ((run World.exec (World.start
        (fun session => (approvedAndRejected session).statements simpleConfig) askedForEmail)
        rejectedTooLate).rows.applicants.find? 0).map (fun applicant => applicant.email) =
          some (some "new@example.com") := by
  refine ⟨fun once => ?_, rfl, rfl⟩
  have last := once _ (run_mem_states _ _)
  obtain ⟨pending, _⟩ | ⟨_, _, one⟩ := last.decided 0 _ _ rfl rfl
  · cases pending
  · cases one

end OpenEstate.Presales
