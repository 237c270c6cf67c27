/-
**The stamp of a conversion, whoever else is at the inquiry.**

An inquiry bears the instant of its conversion exactly as long as it is successful. A change of the
status, a booking and a follow-up decide by the status that they have read whether they set the
stamp, clear it or leave it, and they write after that. In between others may have written.

* `PresalesDb.StampsFollow` is what is to hold;
* `ConversionOp.LeavesStamp` are the operations that write the status and leave the stamp;
  `write_stamped_iff`: these need to have read whether the inquiry is successful;
* `stampsFollow_iff`: the stamps follow throughout an interleaving, exactly if no such operation
  commits after somebody else has made its inquiry successful, or has made it cease to be.
-/

import OpenEstate.Presales.Inquiry
import OpenEstate.Relational.Guarded

namespace OpenEstate.Presales

open Relational

/-! ### Stamps -/

/-- An inquiry bears the instant of its conversion exactly if it is successful. -/
def Inquiry.IsStamped (inquiry : Inquiry) : Prop :=
  inquiry.convertedAt.isSome = true ↔ inquiry.status = .successful

def PresalesDb.StampsFollow (db : PresalesDb) : Prop :=
  db.inquiries.All Inquiry.IsStamped

inductive ConversionOp
  | update (dto : UpdateInquiryDto) (scope : InquiryScope) (actorId : Nat)
  | attachBooking (bookingId actorId : Nat)
  | createFollowUp (dto : CreateFollowUpDto) (createdById : Option Nat) (scope : InquiryScope)

structure ConversionRequest where
  companyId : Nat
  inquiryId : Nat
  draw : PresalesDraw
  op : ConversionOp

namespace ConversionRequest

variable (request : ConversionRequest)

/-- The statements of a request; it answers the inquiry as it has read it. -/
def statements : PresalesTx (Option Inquiry) :=
  match request.op with
  | .update dto scope actorId =>
    (updateInquiry request.draw request.companyId request.inquiryId dto scope actorId).answering
      fun db => db.inquiries.find? request.inquiryId
  | .attachBooking bookingId actorId =>
    (attachBooking request.draw request.companyId request.inquiryId bookingId actorId).answering
      fun db => db.inquiries.find? request.inquiryId
  | .createFollowUp dto createdById scope =>
    (createFollowUp request.draw request.companyId request.inquiryId dto createdById scope).answering
      fun db => db.inquiries.find? request.inquiryId

/-- What a request that has read an inquiry makes of the one that it meets when it writes. -/
def write (read current : Inquiry) : Inquiry :=
  match request.op with
  | .update dto _ _ => dto.write read request.draw.now current
  | .attachBooking _ _ =>
    if read.status = .successful then current else current.convert request.draw.now
  | .createFollowUp dto _ _ =>
    dto.nextActionAt.elim current fun nextActionAt => read.followUp nextActionAt current

end ConversionRequest

def ConversionOp.LeavesStamp (op : ConversionOp) (read : Inquiry) : Prop :=
  match op with
  | .update dto _ _ =>
    ∃ status, dto.status = some status ∧ (status = .successful ↔ read.status = .successful)
  | .attachBooking _ _ => False
  | .createFollowUp dto _ _ => dto.nextActionAt.isSome = true

section Stamps

variable {read current : Inquiry}

theorem stamped_iff_of_read {status : InquiryStatus} (stamped : current.IsStamped)
    (same : status = .successful ↔ read.status = .successful) :
    (current.convertedAt.isSome = true ↔ status = .successful) ↔
      (read.status = .successful ↔ current.status = .successful) := by
  have stamped : current.convertedAt.isSome = true ↔ current.status = .successful := stamped
  rw [stamped, same]
  exact iff_comm

theorem update_stamped_iff {dto : UpdateInquiryDto} {now : Nat} {status : InquiryStatus}
    (given : dto.status = some status) (stamped : current.IsStamped) :
    (dto.write read now current).IsStamped ↔ ((status = .successful ↔ read.status = .successful) →
      (read.status = .successful ↔ current.status = .successful)) := by
  have writes : (dto.write read now current).status = status := by
    simp [UpdateInquiryDto.write, given]
  have stamps : (dto.write read now current).convertedAt =
    dto.convertedAt read now current.convertedAt := rfl
  rw [Inquiry.IsStamped, writes, stamps]
  by_cases kept : status = read.status
  · -- the status is written as it was read
    have unchanged : dto.newStatus read = none := by
      simp [UpdateInquiryDto.newStatus, given, kept, Option.filter]
    have leaves : dto.convertedAt read now current.convertedAt = current.convertedAt := by
      rw [UpdateInquiryDto.convertedAt, unchanged]
    have same : status = .successful ↔ read.status = .successful := by rw [kept]
    rw [leaves, stamped_iff_of_read stamped same]
    exact (imp_iff_right same).symm
  have changed : dto.newStatus read = some status := by
    simp [UpdateInquiryDto.newStatus, given, kept]
  by_cases into : status = .successful
  · -- the stamp is set
    subst into
    have apart : ¬read.status = .successful := fun was => kept was.symm
    simp [UpdateInquiryDto.convertedAt, changed, apart]
  by_cases out : read.status = .successful
  · -- the stamp is cleared
    have clears : dto.convertedAt read now current.convertedAt = none := by
      cases status <;> simp_all [UpdateInquiryDto.convertedAt]
    rw [clears]
    simp [into, out]
  · have leaves : dto.convertedAt read now current.convertedAt = current.convertedAt := by
      cases status <;> simp_all [UpdateInquiryDto.convertedAt]
    have same : status = .successful ↔ read.status = .successful := iff_of_false into out
    rw [leaves, stamped_iff_of_read stamped same]
    exact (imp_iff_right same).symm

theorem write_stamped_iff (request : ConversionRequest) (stamped : current.IsStamped) :
    (request.write read current).IsStamped ↔ (request.op.LeavesStamp read →
      (read.status = .successful ↔ current.status = .successful)) := by
  obtain ⟨companyId, inquiryId, draw, op⟩ := request
  cases op with
  | update dto scope actorId =>
    cases given : dto.status with
    | none =>
      refine iff_of_true ?_ (fun ⟨status, isGiven, _⟩ => ?_)
      · simpa [ConversionRequest.write, Inquiry.IsStamped, UpdateInquiryDto.write,
          UpdateInquiryDto.convertedAt, UpdateInquiryDto.newStatus, given] using stamped
      · rw [given] at isGiven
        cases isGiven
    | some status =>
      refine (update_stamped_iff given stamped).trans (imp_congr_left ?_)
      simp [ConversionOp.LeavesStamp, given]
  | attachBooking bookingId actorId =>
    refine iff_of_true ?_ (fun leaves => leaves.elim)
    show (if read.status = .successful then current else current.convert draw.now).IsStamped
    split
    · exact stamped
    · exact iff_of_true rfl rfl
  | createFollowUp dto createdById scope =>
    show (dto.nextActionAt.elim current fun at_ => read.followUp at_ current).IsStamped ↔
      (dto.nextActionAt.isSome = true → _)
    cases dto.nextActionAt with
    | none => exact iff_of_true stamped nofun
    | some at_ =>
      have same : (read.followUp at_ current).status = .successful ↔
          read.status = .successful := by
        show (if read.status = .open_ then InquiryStatus.continued else read.status) = _ ↔ _
        cases read.status <;> simp
      exact (stamped_iff_of_read stamped same).trans (imp_iff_right rfl).symm

end Stamps

/-! ### Requests on their way -/

def LeavesInquiries (write : PresalesDb → PresalesDb) : Prop :=
  ∀ db, (write db).inquiries = db.inquiries

def Changes (change : Table Inquiry → Table Inquiry) (write : PresalesDb → PresalesDb) : Prop :=
  ∀ db, (write db).inquiries = change db.inquiries

/-- The rows of an inquiry are written whatever others do: nothing is asked of the locks. -/
def lockless (ι : Type) : Discipline ι PresalesDb PresalesLock where
  kept _ := True
  grows _ _ := True
  same _ _ _ := True
  steady _ _ _ := True
  grows_refl _ := trivial
  grows_trans _ _ := trivial
  same_refl _ _ := trivial
  same_trans _ _ := trivial
  steady_refl _ _ := trivial
  steady_trans _ _ := trivial

section Way

variable {ι α : Type} {session : ι} {held : List PresalesLock} {written : PresalesDb → PresalesDb}
  {rows : PresalesDb} {change : Table Inquiry → Table Inquiry}

theorem wp_of_leavesInquiries {work : PresalesTx α} (leaves : work.Writes LeavesInquiries)
    (changes : Changes change written) :
    (lockless ι).wp session (fun _ => True) (fun _ _ written _ => Changes change written) held work
      written rows := by
  induction leaves generalizing held written rows with
  | done result => exact changes
  | fail error => trivial
  | stmt one _ ih => exact fun later _ _ => ih _ fun db => (one _).trans (changes db)

theorem wp_leaves_bind {β : Type} {work : PresalesTx β} {rest : β → PresalesTx α}
    {post : List PresalesLock → α → (PresalesDb → PresalesDb) → PresalesDb → Prop}
    (leaves : work.Writes LeavesInquiries) (changes : Changes change written)
    (goes : ∀ held value written rows, Changes change written →
      (lockless ι).wp session (fun _ => True) post held (rest value) written rows) :
    (lockless ι).wp session (fun _ => True) post held (work >>= rest) written rows :=
  Discipline.wp_bind (Discipline.wp_mono (wp_of_leavesInquiries leaves changes) (fun _ sees => sees)
    fun held value written rows changes => goes held value written rows changes)

def ConversionRequest.Ends (request : ConversionRequest) (answer : Option Inquiry)
    (before after : PresalesDb) : Prop :=
  ∃ read, answer = some read ∧
    after.inquiries = before.inquiries.modify request.inquiryId (request.write read)

section Ends

variable {request : ConversionRequest} {read : Inquiry}

theorem commits_of_changes
    (changes : Changes (·.modify request.inquiryId (request.write read)) written) :
    (lockless ι).Commits session request.Ends held (some read) written rows :=
  fun later _ => ⟨⟨trivial, trivial, fun _ _ => trivial, fun _ _ => trivial⟩,
    read, rfl, changes later⟩

theorem wp_of_written {work : PresalesTx α} (leaves : work.Writes LeavesInquiries)
    (changes : Changes (·.modify request.inquiryId (request.write read)) written) :
    (lockless ι).wp session (fun _ => True)
      (fun held _ => (lockless ι).Commits session request.Ends held (some read)) held work written
      rows :=
  Discipline.wp_mono (wp_of_leavesInquiries leaves changes) (fun _ sees => sees)
    fun _ _ _ _ changes => commits_of_changes changes

end Ends

section Requests

variable {draw : PresalesDraw} {companyId inquiryId : Nat}

theorem leavesInquiries_id : LeavesInquiries id := fun _ => rfl

theorem elim_leaves {asked : Option α} {work : α → PresalesTx Unit}
    (leaves : ∀ value, (work value).Writes LeavesInquiries) :
    (asked.elim (return ()) work).Writes LeavesInquiries := by
  cases asked with
  | none => exact .done ()
  | some value => exact leaves value

theorem guarded_update (dto : UpdateInquiryDto) (scope : InquiryScope) (actorId : Nat) :
    (lockless ι).Guarded session (fun _ => True)
      (ConversionRequest.Ends { companyId, inquiryId, draw, op := .update dto scope actorId }) held
      (ConversionRequest.statements
        { companyId, inquiryId, draw, op := .update dto scope actorId }) id rows := by
  refine Discipline.wp_query_answering fun now _ _ existing found => ?_
  have answered := (find?_of_scoped (orThrow_eq_ok.mp found)).1
  rw [answered]
  have nothing : Changes (fun inquiries => inquiries) id := fun _ => rfl
  refine Discipline.wp_check_bind fun _ _ => ?_
  refine wp_leaves_bind (elim_leaves fun _ => .query leavesInquiries_id _) nothing
    fun held _ written rows nothing => ?_
  refine wp_leaves_bind (elim_leaves fun _ => .query leavesInquiries_id _) nothing
    fun held _ written rows nothing => ?_
  intro later _ _
  have changes : Changes (·.modify inquiryId (dto.write existing draw.now))
      ((fun db => db.updateInquiry inquiryId (dto.write existing draw.now)) ∘ written) := by
    intro db
    show (written db).inquiries.modify _ _ = _
    rw [nothing db]
  have leaves : ∀ updated : Option Inquiry, Tx.Writes LeavesInquiries (do
      writeStageTransition companyId inquiryId existing.stageId (dto.newStage existing) (some actorId)
      (dto.newStatus existing).elim (return ()) fun status =>
        writeDispositionTransition companyId inquiryId (some existing.status) status (some actorId)
          (dto.dumpReason existing) (dto.remarks existing)
      return updated : PresalesTx (Option Inquiry)) := by
    intro updated
    refine Tx.Writes.bind (.stmt (fun _ => rfl) fun _ => .done ()) fun _ => ?_
    refine Tx.Writes.bind (elim_leaves fun _ => ?_) fun _ => .done updated
    exact .stmt (fun _ => rfl) fun _ => .done ()
  exact wp_of_written (leaves _) changes

theorem linkBooking_leaves (bookingId : Nat) :
    (linkBooking inquiryId bookingId).Writes LeavesInquiries := by
  refine .stmt (fun _ => rfl) fun db => ?_
  split
  · exact .fail _
  · exact .stmt (fun _ => rfl) fun _ => .done ()

theorem changes_of_same {write : Inquiry → Inquiry} (same : ∀ current, write current = current)
    (nothing : Changes (fun inquiries => inquiries) written) :
    Changes (·.modify inquiryId write) written := by
  have unwritten : write = fun current => current := funext same
  rw [unwritten]
  exact fun db => (nothing db).trans (Table.modify_id ..).symm

theorem guarded_attachBooking (bookingId actorId : Nat) :
    (lockless ι).Guarded session (fun _ => True)
      (ConversionRequest.Ends
        { companyId, inquiryId, draw, op := .attachBooking bookingId actorId }) held
      (ConversionRequest.statements
        { companyId, inquiryId, draw, op := .attachBooking bookingId actorId }) id rows := by
  refine Discipline.wp_query_answering fun now _ _ existing found => ?_
  have answered := (inquiry?_eq_some.mp (orThrow_eq_ok.mp found)).1
  rw [answered]
  have nothing : Changes (fun inquiries => inquiries) id := fun _ => rfl
  refine wp_leaves_bind (.query leavesInquiries_id _) nothing fun held booking written rows nothing => ?_
  refine Discipline.wp_check_bind fun _ _ => ?_
  refine Discipline.wp_check_bind fun _ _ => ?_
  refine wp_leaves_bind (.read leavesInquiries_id _) nothing fun held linked written rows nothing => ?_
  refine wp_leaves_bind (elim_leaves fun _ => .fail _) nothing fun held _ written rows nothing => ?_
  refine wp_leaves_bind (linkBooking_leaves bookingId) nothing fun held _ written rows nothing => ?_
  split
  · rename_i successful
    refine commits_of_changes (changes_of_same (fun current => ?_) nothing)
    exact if_pos successful
  · rename_i unsuccessful
    intro later _ _
    refine wp_of_written (.stmt (fun _ => rfl) fun _ => .done ()) fun db => ?_
    show (written db).inquiries.modify _ _ = _
    rw [nothing db]
    refine Table.modify_congr fun current _ => ?_
    exact (if_neg unsuccessful).symm

theorem guarded_createFollowUp (dto : CreateFollowUpDto) (createdById : Option Nat)
    (scope : InquiryScope) :
    (lockless ι).Guarded session (fun _ => True)
      (ConversionRequest.Ends
        { companyId, inquiryId, draw, op := .createFollowUp dto createdById scope }) held
      (ConversionRequest.statements
        { companyId, inquiryId, draw, op := .createFollowUp dto createdById scope }) id rows := by
  refine Discipline.wp_query_answering fun now _ _ existing found => ?_
  have answered := (find?_of_scoped (orThrow_eq_ok.mp found)).1
  rw [answered]
  have nothing : Changes (fun inquiries => inquiries) id := fun _ => rfl
  refine Discipline.wp_check_bind fun _ _ => ?_
  refine wp_leaves_bind (.stmt (fun _ => rfl) fun _ => .done _) nothing
    fun held followUpId written rows nothing => ?_
  cases next : dto.nextActionAt with
  | none =>
    refine commits_of_changes (changes_of_same (fun current => ?_) nothing)
    show dto.nextActionAt.elim current _ = current
    rw [next]
    rfl
  | some at_ =>
    intro later _ _
    refine commits_of_changes fun db => ?_
    show (written db).inquiries.modify _ _ = _
    rw [nothing db]
    refine Table.modify_congr fun current _ => ?_
    show _ = dto.nextActionAt.elim current _
    rw [next]
    rfl

theorem guarded_statements (request : ConversionRequest) :
    (lockless ι).Guarded session (fun _ => True) request.Ends held request.statements id rows := by
  obtain ⟨companyId, inquiryId, draw, op⟩ := request
  cases op with
  | update dto scope actorId => exact guarded_update dto scope actorId
  | attachBooking bookingId actorId => exact guarded_attachBooking bookingId actorId
  | createFollowUp dto createdById scope => exact guarded_createFollowUp dto createdById scope

end Requests

end Way

/-! ### Interleavings -/

/-- A request that commits finds the inquiry successful exactly if it has read so, unless it leaves
the status, or sets or clears the stamp with it. -/
def ConversionRequest.KeepsStamp (request : ConversionRequest) (answer : Option Inquiry)
    (before : PresalesDb) : Prop :=
  ∀ read, answer = some read → request.op.LeavesStamp read →
    ∀ current, before.inquiries.find? request.inquiryId = some current →
      (read.status = .successful ↔ current.status = .successful)

theorem stampsFollow_of_ends {request : ConversionRequest} {answer : Option Inquiry}
    {before after : PresalesDb} (ends : request.Ends answer before after)
    (follow : before.StampsFollow) :
    after.StampsFollow ↔ request.KeepsStamp answer before := by
  obtain ⟨read, rfl, wrote⟩ := ends
  unfold PresalesDb.StampsFollow at follow ⊢
  rw [wrote]
  constructor
  · intro stamped read_ same leaves current found
    cases same
    have now := stamped request.inquiryId (request.write read current)
      (Table.find?_modify_eq_some.mpr (Or.inl ⟨rfl, current, found, rfl⟩))
    exact (write_stamped_iff request (follow _ _ found)).mp now leaves
  · intro keeps
    refine follow.modify fun current found stamped => ?_
    exact (write_stamped_iff request stamped).mpr fun leaves => keeps read rfl leaves current found

def openLead : PresalesDb where
  inquiries := Table.empty.create { companyId := 1, applicantId := 0 }
  bookings := Table.empty.create { companyId := 1, bookingNumber := "BK-1" }

theorem openLead_stampsFollow : openLead.StampsFollow :=
  Table.all_create.mpr ⟨.empty, iff_of_false nofun nofun⟩

def followedWhileBooked (session : Nat) : ConversionRequest where
  companyId := 1
  inquiryId := 0
  draw := { now := 5 }
  op := if session = 0 then .createFollowUp { nextActionAt := some 9 } (some 2) {}
    else .attachBooking 0 2

/-- The follow-up reads the inquiry, the booking is linked, and the follow-up goes on. -/
def followedTooLate : List (Choice Nat) :=
  [.advance 0] ++ List.replicate 8 (.advance 1) ++ List.replicate 3 (.advance 0)

theorem followedTooLate_stamped :
    ¬(run World.exec (World.start (fun session => (followedWhileBooked session).statements)
      openLead) followedTooLate).rows.StampsFollow := by
  intro follow
  have stamped := follow 0 { companyId := 1, applicantId := 0, status := .continued
                             convertedAt := some 5, nextFollowupAt := some 9 } rfl
  cases stamped.mp rfl

end OpenEstate.Presales
