/-
**Working on an inquiry.**

A user changes an inquiry that is in sight; a booking that came of it makes it successful; and a
follow-up with a next action keeps an open one going. Each of them reads the inquiry first, and
decides by the status that it read.

* `updateInquiry`, `attachBooking`, `createFollowUp`;
* `update_of_run`, `attach_of_run`, `followUp_of_run`: what each of them does when run alone.
-/

import OpenEstate.Presales.Applicant
import OpenEstate.Presales.Transition

namespace OpenEstate.Presales

open Relational

/-! ### Scope -/

structure InquiryScope where
  visibleUserIds : Option (List Nat) := none

def InquiryScope.sees (scope : InquiryScope) (inquiry : Inquiry) : Bool :=
  scope.visibleUserIds.all fun userIds => inquiry.assignedToId.any userIds.contains

def PresalesDb.scopedInquiry? (db : PresalesDb) (companyId id : Nat) (scope : InquiryScope) :
    Option Inquiry :=
  (db.inquiry? companyId id).filter scope.sees

variable {db : PresalesDb} {companyId : Nat}
variable {scope : InquiryScope}

theorem find?_of_scoped {id : Nat} {inquiry : Inquiry}
    (found : db.scopedInquiry? companyId id scope = some inquiry) :
    db.inquiries.find? id = some inquiry ∧ inquiry.companyId = companyId :=
  inquiry?_eq_some.mp (Option.filter_eq_some_iff.mp found).1

/-! ### Updates -/

/-- What is to be changed. The stage cannot be taken away, the next follow-up can. -/
structure UpdateInquiryDto where
  projectId : Option Nat := none
  stageId : Option Nat := none
  status : Option InquiryStatus := none
  dumpReasonId : Option Nat := none
  dumpRemarks : Option String := none
  nextFollowupAt : Option (Option Nat) := none

namespace UpdateInquiryDto

variable (dto : UpdateInquiryDto) (existing : Inquiry)

def newStatus : Option InquiryStatus :=
  dto.status.filter (· ≠ existing.status)

def newStage : Option Nat :=
  dto.stageId.filter fun stageId => some stageId ≠ existing.stageId

def convertedAt (now : Nat) (old : Option Nat) : Option Nat :=
  match dto.newStatus existing with
  | none => old
  | some .successful => some now
  | some _ => if existing.status = .successful then none else old

def write (now : Nat) (inquiry : Inquiry) : Inquiry :=
  { inquiry with
    projectId := dto.projectId.or inquiry.projectId
    stageId := dto.stageId.or inquiry.stageId
    status := dto.status.getD inquiry.status
    nextFollowupAt := dto.nextFollowupAt.getD inquiry.nextFollowupAt
    convertedAt := dto.convertedAt existing now inquiry.convertedAt }

def dumpReason : Option Nat :=
  if dto.newStatus existing = some .dumped then dto.dumpReasonId else none

def remarks : Option String :=
  if dto.newStatus existing = some .dumped then dto.dumpRemarks else none

end UpdateInquiryDto

def updateInquiry (draw : PresalesDraw) (companyId id : Nat) (dto : UpdateInquiryDto)
    (scope : InquiryScope) (actorId : Nat) : PresalesTx (Option Inquiry) := do
  let existing ← .query fun db =>
    orThrow (db.scopedInquiry? companyId id scope) (.notFound "Inquiry not found")
  .check (ensure
    (dto.newStatus existing = some .dumped →
      dto.dumpReasonId.isSome = true ∧ dto.dumpRemarks.any (trim · ≠ "") = true)
    (.badRequest ("Dumping a lead requires both a reason and remarks — select a reason and " ++
      "explain why for future reference.")))
  (dto.newStage existing).elim (return ()) (assertStageBelongsToCompany companyId)
  (dto.dumpReason existing).elim (return ()) (assertReasonBelongsToCompany companyId)
  let updated ← .updateReturning (.inquiry id)
    (fun db => db.updateInquiry id (dto.write existing draw.now))
    fun db => (db.inquiries.find? id).map (dto.write existing draw.now)
  writeStageTransition companyId id existing.stageId (dto.newStage existing) (some actorId)
  (dto.newStatus existing).elim (return ()) fun status =>
    writeDispositionTransition companyId id (some existing.status) status (some actorId)
      (dto.dumpReason existing) (dto.remarks existing)
  return updated

theorem newStage_or {dto : UpdateInquiryDto} {existing : Inquiry} :
    dto.stageId.or existing.stageId = (dto.newStage existing).or existing.stageId := by
  unfold UpdateInquiryDto.newStage
  cases dto.stageId with
  | none => rfl
  | some stageId =>
    rw [Option.filter_some]
    by_cases same : some stageId = existing.stageId
    · rw [if_neg (by simpa using same), ← same]
      rfl
    · rw [if_pos (by simpa using same)]

/-- What an update leaves, when nothing comes between its reading and its writing. -/
def PresalesDb.update (db : PresalesDb) (now companyId id : Nat) (dto : UpdateInquiryDto)
    (existing : Inquiry) (actorId : Nat) : PresalesDb :=
  let written := (db.updateInquiry id (dto.write existing now)).stageTransition companyId id
    existing.stageId (dto.newStage existing) (some actorId)
  { written with
    dispositionHistory := (dto.newStatus existing).elim db.dispositionHistory fun status =>
      db.dispositionHistory.create
        { companyId, inquiryId := id, fromStatus := some existing.status, toStatus := status
          reasonId := dto.dumpReason existing, remarks := dto.remarks existing
          changedById := some actorId } }

variable {after : PresalesDb}
variable {draw : PresalesDraw}

theorem update_of_run {id actorId : Nat} {dto : UpdateInquiryDto} {updated : Option Inquiry}
    (ran : (updateInquiry draw companyId id dto scope actorId).run db = .ok (updated, after)) :
    ∃ existing, db.inquiries.find? id = some existing ∧ existing.companyId = companyId ∧
      (∀ stageId, dto.newStage existing = some stageId →
        ∃ stage, db.leadStage? companyId stageId = some stage) ∧
      after = db.update draw.now companyId id dto existing actorId := by
  unfold updateInquiry at ran
  obtain ⟨existing, found, ran⟩ := Tx.run_query_bind_eq_ok.mp ran
  obtain ⟨exists_, own⟩ := find?_of_scoped (orThrow_eq_ok.mp found)
  obtain ⟨_, _, ran⟩ := Tx.run_check_bind_eq_ok.mp ran
  obtain ⟨_, staged, stageRan, asksReason⟩ := Tx.run_bind_eq_ok.mp ran
  obtain ⟨rfl, stageFound⟩ := elim_assertStage_of_run stageRan
  obtain ⟨_, reasoned, reasonRan, writes⟩ := Tx.run_bind_eq_ok.mp asksReason
  obtain rfl := elim_assertReason_of_run reasonRan
  refine ⟨existing, exists_, own, stageFound, ?_⟩
  unfold PresalesDb.update
  cases status : dto.newStatus existing with
  | none =>
    rw [status] at writes
    cases writes
    rfl
  | some status =>
    rw [status] at writes
    cases writes
    rfl

/-! ### Bookings -/

def Inquiry.convert (now : Nat) (inquiry : Inquiry) : Inquiry :=
  { inquiry with status := .successful, convertedAt := some now }

/-- Link a booking to an inquiry; no other booking can be linked to the inquiry then. -/
def linkBooking (inquiryId bookingId : Nat) : PresalesTx Unit :=
  .stmt [.booking bookingId, .sourceInquiry inquiryId] id fun db =>
    if db.bookings.any fun _ booking => booking.sourceInquiryId == some inquiryId then
      .fail (.badRequest "This inquiry is already linked to a booking.")
    else
      .update (.booking bookingId) fun db => { db with
        bookings := db.bookings.modify bookingId fun booking =>
          { booking with sourceInquiryId := some inquiryId } }

def attachBooking (draw : PresalesDraw) (companyId inquiryId bookingId actorId : Nat) :
    PresalesTx Unit := do
  let inquiry ← .query fun db =>
    orThrow (db.inquiry? companyId inquiryId) (.notFound "Inquiry not found")
  let booking ← .query fun db =>
    orThrow ((db.bookings.find? bookingId).filter fun booking => booking.companyId == companyId)
      (.notFound "Booking not found")
  .check (ensure (inquiry.status ≠ .dumped) (.badRequest
    ("Cannot link a booking to a dumped lead — a dumped lead does not get revived by a booking " ++
      "link.")))
  .check (ensure (booking.sourceInquiryId = none)
    (.badRequest "This booking is already linked to a source inquiry."))
  let alreadyLinked ← .read fun db => db.bookings.findFirst? fun _ booking =>
    booking.companyId == companyId && booking.sourceInquiryId == some inquiryId
  alreadyLinked.elim (return ()) fun linked => .fail (.badRequest
    s!"This inquiry is already linked to booking {linked.2.bookingNumber}.")
  linkBooking inquiryId bookingId
  if inquiry.status = .successful then return ()
  else do
    .update (.inquiry inquiryId) fun db => db.updateInquiry inquiryId (Inquiry.convert draw.now)
    writeDispositionTransition companyId inquiryId (some inquiry.status) .successful (some actorId)
      none (some s!"Linked to booking {booking.bookingNumber}")

/-- What a link leaves of the inquiry and its dispositions, when nothing comes between. -/
def PresalesDb.convert (db : PresalesDb) (now inquiryId : Nat) (inquiry : Inquiry)
    (row : InquiryDispositionHistory) : PresalesDb :=
  if inquiry.status = .successful then db
  else (db.updateInquiry inquiryId (Inquiry.convert now)).dispositionTransition row

variable {inquiryId : Nat}

theorem linkBooking_of_run {bookingId : Nat}
    (ran : (linkBooking inquiryId bookingId).run db = .ok ((), after)) :
    ∃ bookings, after = { db with bookings } := by
  have ran : (if db.bookings.any fun _ booking => booking.sourceInquiryId == some inquiryId then _
    else _ : PresalesTx Unit).run db = .ok ((), after) := ran
  split at ran
  · cases ran
  · cases ran
    exact ⟨_, rfl⟩

theorem attach_of_run {bookingId actorId : Nat}
    (ran : (attachBooking draw companyId inquiryId bookingId actorId).run db = .ok ((), after)) :
    ∃ inquiry bookings row, db.inquiries.find? inquiryId = some inquiry ∧
      row.inquiryId = inquiryId ∧ row.fromStatus = some inquiry.status ∧ row.toStatus = .successful ∧
      after = { db with bookings }.convert draw.now inquiryId inquiry row := by
  unfold attachBooking at ran
  obtain ⟨inquiry, found, ran⟩ := Tx.run_query_bind_eq_ok.mp ran
  obtain ⟨exists_, _⟩ := inquiry?_eq_some.mp (orThrow_eq_ok.mp found)
  obtain ⟨booking, _, ran⟩ := Tx.run_query_bind_eq_ok.mp ran
  obtain ⟨_, _, ran⟩ := Tx.run_check_bind_eq_ok.mp ran
  obtain ⟨_, _, ran⟩ := Tx.run_check_bind_eq_ok.mp ran
  rw [Tx.run_read_bind] at ran
  obtain ⟨_, checked, linked, links⟩ := Tx.run_bind_eq_ok.mp ran
  cases other : db.bookings.findFirst? fun _ booking =>
      booking.companyId == companyId && booking.sourceInquiryId == some inquiryId with
  | some row =>
    rw [other] at linked
    cases linked
  | none =>
    rw [other] at linked
    cases linked
    obtain ⟨_, middle, linkRan, converts⟩ := Tx.run_bind_eq_ok.mp links
    obtain ⟨bookings, rfl⟩ := linkBooking_of_run linkRan
    refine ⟨inquiry, bookings,
      { companyId, inquiryId, fromStatus := some inquiry.status, toStatus := .successful
        remarks := some s!"Linked to booking {booking.bookingNumber}", changedById := some actorId },
      exists_, rfl, rfl, rfl, ?_⟩
    unfold PresalesDb.convert
    split at converts
    · cases converts
      exact (if_pos ‹_›).symm
    · cases converts
      exact (if_neg ‹_›).symm

/-! ### Follow-ups -/

structure CreateFollowUpDto where
  interactionAt : Option Nat := none
  nextActionAt : Option Nat := none

def Inquiry.followUp (read : Inquiry) (nextActionAt : Nat) (inquiry : Inquiry) : Inquiry :=
  { inquiry with
    nextFollowupAt := some nextActionAt
    status := if read.status = .open_ then .continued else read.status }

def PresalesDb.insertFollowUp (db : PresalesDb) (followUp : FollowUp) : PresalesDb :=
  { db with followUps := db.followUps.create followUp }

def createFollowUp (draw : PresalesDraw) (companyId inquiryId : Nat) (dto : CreateFollowUpDto)
    (createdById : Option Nat) (scope : InquiryScope) : PresalesTx Nat := do
  let inquiry ← .query fun db =>
    orThrow (db.scopedInquiry? companyId inquiryId scope) (.notFound "Inquiry not found")
  .check (ensure (inquiry.status.isActive = true → dto.nextActionAt.isSome = true) (.badRequest
    ("A next follow-up time is required while this lead is active. Set one, or change the " ++
      "lead's disposition first.")))
  let followUpId ← .insertReturning
    (·.insertFollowUp
      { companyId, inquiryId, interactionAt := dto.interactionAt.getD draw.now
        nextActionAt := dto.nextActionAt, createdById })
    fun db => db.followUps.nextId
  dto.nextActionAt.elim (return ()) fun nextActionAt => .update (.inquiry inquiryId) fun db =>
    db.updateInquiry inquiryId (inquiry.followUp nextActionAt)
  return followUpId

def PresalesDb.follow (db : PresalesDb) (inquiryId : Nat) (nextActionAt : Option Nat)
    (inquiry : Inquiry) : PresalesDb :=
  nextActionAt.elim db fun at_ => db.updateInquiry inquiryId (inquiry.followUp at_)

theorem followUp_of_run {id : Nat} {dto : CreateFollowUpDto} {createdById : Option Nat}
    (ran : (createFollowUp draw companyId inquiryId dto createdById scope).run db =
      .ok (id, after)) :
    ∃ inquiry followUp, db.scopedInquiry? companyId inquiryId scope = some inquiry ∧
      after = (db.insertFollowUp followUp).follow inquiryId dto.nextActionAt inquiry := by
  unfold createFollowUp at ran
  obtain ⟨inquiry, found, ran⟩ := Tx.run_query_bind_eq_ok.mp ran
  obtain ⟨_, _, ran⟩ := Tx.run_check_bind_eq_ok.mp ran
  refine ⟨inquiry, { companyId, inquiryId, interactionAt := dto.interactionAt.getD draw.now
                     nextActionAt := dto.nextActionAt, createdById }, orThrow_eq_ok.mp found, ?_⟩
  unfold PresalesDb.follow
  cases next : dto.nextActionAt with
  | none =>
    rw [next] at ran
    cases ran
    rfl
  | some nextActionAt =>
    rw [next] at ran
    cases ran
    rfl

end OpenEstate.Presales
