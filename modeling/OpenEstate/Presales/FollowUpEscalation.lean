/-
**Escalating missed follow-ups.**

A run for a company looks for active inquiries whose next follow-up is past, and escalates those that have
not been escalated since that date: the inquiry is stamped with the time of the run, and the sales managers
are told. The stamp is all that is kept of what has been escalated.

* `runForCompany`: the run; `runForCompany_again`: a second one at the same time finds nothing to do;
* `escalatesOnce`: over any sequence of runs and of operations on inquiries, a date of an inquiry is
  escalated once at most.
-/

import OpenEstate.Access.Schema
import OpenEstate.Presales.System
import OpenEstate.Relational.History

namespace OpenEstate.Presales

open Relational

/-! ### The run -/

/-- The tables of presales, with the stamps of the inquiries, and the staff. -/
structure EscalationDb extends PresalesDb where
  lastEscalatedAt : Nat → Option Nat := fun _ => none
  access : AccessDb

def isFollowUpOverdue (nextFollowupAt : Option Nat) (now : Nat) : Bool :=
  nextFollowupAt.any (· < now)

/-- A follow-up that is overdue is escalated if the last escalation was before its date. -/
def isEscalationEligible (nextFollowupAt lastEscalatedAt : Option Nat) (now : Nat) : Bool :=
  if isFollowUpOverdue nextFollowupAt now then
    match lastEscalatedAt with
    | none => true
    | some lastEscalatedAt => nextFollowupAt.any (lastEscalatedAt < ·)
  else false

structure Notification where
  channel : CommunicationChannel
  toAddress : String
  subject : String
  body : String

structure EscalationResult where
  escalatedInquiryIds : List Nat := []
  notifiedUserIds : List Nat := []
  sent : List Notification := []

section Run

variable (now companyId : Nat) (db : EscalationDb)

def candidates : List (Nat × Inquiry) :=
  db.inquiries.select fun _ inquiry => inquiry.companyId == companyId && inquiry.status.isActive &&
    isFollowUpOverdue inquiry.nextFollowupAt now

def eligible : List (Nat × Inquiry) :=
  (candidates now companyId db).filter fun inquiry =>
    isEscalationEligible inquiry.2.nextFollowupAt (db.lastEscalatedAt inquiry.1) now

def EscalationDb.stamp (id : Nat) : EscalationDb :=
  { db with lastEscalatedAt := Function.update db.lastEscalatedAt id (some now) }

def managerUsers : List (Nat × User) :=
  db.access.users.select fun _ user => user.companyId == companyId && user.isActive &&
    (db.access.roles.find? user.roleId).any fun role => role.slug == "sales_manager"

def notification (escalated : Nat) (manager : User) : Option Notification :=
  (manager.email.filter (· ≠ "")).map fun email =>
    { channel := .email
      toAddress := email
      subject := "Overdue follow-ups need attention"
      body := s!"{escalated} inquiry follow-up(s) are overdue in your team's pipeline." }

def runForCompany : EscalationResult × EscalationDb :=
  let eligible := eligible now companyId db
  if eligible = [] then ({}, db)
  else
    let stamped := eligible.foldl (fun db inquiry => db.stamp now inquiry.1) db
    let managers := managerUsers companyId stamped
    ({ escalatedInquiryIds := eligible.map Prod.fst
       notifiedUserIds := managers.map Prod.fst
       sent := managers.filterMap fun manager => notification eligible.length manager.2 }, stamped)

end Run

/-! ### What a run does -/

section Effect

variable {now companyId : Nat} {db : EscalationDb} {id : Nat}

theorem isEscalationEligible_iff {nextFollowupAt lastEscalatedAt : Option Nat} :
    isEscalationEligible nextFollowupAt lastEscalatedAt now = true ↔
      ∃ date, nextFollowupAt = some date ∧ date < now ∧ ∀ last ∈ lastEscalatedAt, last < date := by
  unfold isEscalationEligible isFollowUpOverdue
  cases nextFollowupAt with
  | none => simp
  | some date => cases lastEscalatedAt <;> simp

/-- **Who is escalated**: an active inquiry of the company whose date is past, and not escalated
since. -/
theorem mem_eligible {inquiry : Inquiry} : (id, inquiry) ∈ eligible now companyId db ↔
    db.inquiries.find? id = some inquiry ∧ inquiry.companyId = companyId ∧
      inquiry.status.isActive = true ∧ ∃ date, inquiry.nextFollowupAt = some date ∧ date < now ∧
        ∀ last ∈ db.lastEscalatedAt id, last < date := by
  rw [eligible, List.mem_filter, candidates, Table.mem_select, Bool.and_eq_true, Bool.and_eq_true,
    beq_iff_eq, isEscalationEligible_iff]
  constructor
  · rintro ⟨⟨found, ⟨company, active⟩, _⟩, asked⟩
    exact ⟨found, company, active, asked⟩
  · rintro ⟨found, company, active, date, isDate, past, since⟩
    refine ⟨⟨found, ⟨company, active⟩, ?_⟩, date, isDate, past, since⟩
    rw [isFollowUpOverdue, isDate]
    exact decide_eq_true past

theorem nodup_eligible : ((eligible now companyId db).map Prod.fst).Nodup :=
  (db.inquiries.select_nodup _).sublist (List.filter_sublist.map _)

def EscalationDb.stampAll (db : EscalationDb) (now : Nat) (ids : List Nat) : EscalationDb :=
  { db with lastEscalatedAt := fun id => if id ∈ ids then some now else db.lastEscalatedAt id }

theorem foldl_stamp (inquiries : List (Nat × Inquiry)) (db : EscalationDb) :
    inquiries.foldl (fun db inquiry => db.stamp now inquiry.1) db =
      db.stampAll now (inquiries.map Prod.fst) := by
  induction inquiries generalizing db with
  | nil => simp [EscalationDb.stampAll]
  | cons inquiry rest ih =>
    rw [List.foldl_cons, ih]
    simp only [EscalationDb.stampAll, EscalationDb.stamp, List.map_cons, List.mem_cons]
    congr 1
    funext id
    by_cases later : id ∈ rest.map Prod.fst
    · rw [if_pos later, if_pos (Or.inr later)]
    · rw [if_neg later]
      by_cases here : id = inquiry.1
      · rw [if_pos (Or.inl here), here, Function.update_self]
      · rw [if_neg (not_or.mpr ⟨here, later⟩), Function.update_of_ne here]

theorem runForCompany_eq (now companyId : Nat) (db : EscalationDb) :
    (runForCompany now companyId db).2 =
        db.stampAll now ((eligible now companyId db).map Prod.fst) ∧
      (runForCompany now companyId db).1.escalatedInquiryIds =
        (eligible now companyId db).map Prod.fst := by
  unfold runForCompany
  dsimp only
  split
  · rename_i nobody
    rw [nobody]
    simp [EscalationDb.stampAll]
  · exact ⟨foldl_stamp _ _, rfl⟩

theorem eligible_again (now companyId : Nat) (db : EscalationDb) :
    eligible now companyId (runForCompany now companyId db).2 = [] := by
  refine List.eq_nil_iff_forall_not_mem.mpr fun ⟨id, inquiry⟩ again => ?_
  rw [(runForCompany_eq now companyId db).1] at again
  obtain ⟨found, company, active, date, isDate, past, since⟩ := mem_eligible.mp again
  unfold EscalationDb.stampAll at found since
  dsimp only at found since
  split at since
  · exact absurd (since now rfl) (Nat.lt_asymm past)
  · rename_i unstamped
    exact unstamped (List.mem_map_of_mem (f := Prod.fst) (mem_eligible.mpr
      ⟨found, company, active, date, isDate, past, since⟩))

theorem runForCompany_again (now companyId : Nat) (db : EscalationDb) :
    runForCompany now companyId (runForCompany now companyId db).2 =
      ({}, (runForCompany now companyId db).2) := by
  conv_lhs => rw [runForCompany, eligible_again]
  exact if_pos rfl

end Effect

/-! ### Histories -/

inductive EscalationEvent
  | run (now companyId : Nat)
  | operate (request : PresalesRequest)

def EscalationEvent.exec (toLowerCase : String → String) (event : EscalationEvent)
    (db : EscalationDb) : Except ServiceError EscalationDb :=
  match event with
  | .run now companyId => .ok (runForCompany now companyId db).2
  | .operate request => (execPresales toLowerCase request db.toPresalesDb).map fun after =>
      { db with toPresalesDb := after }

abbrev EscalationStep : Type := Step EscalationDb EscalationEvent

def EscalationStep.escalations (step : EscalationStep) : List (Nat × Option Nat) :=
  match step.input with
  | .run now companyId =>
    (runForCompany now companyId step.before).1.escalatedInquiryIds.map fun id =>
      (id, (step.before.inquiries.find? id).bind Inquiry.nextFollowupAt)
  | .operate _ => []

def escalations (history : List EscalationStep) : List (Nat × Option Nat) :=
  history.flatMap EscalationStep.escalations

/-- A step escalates an inquiry, with its date, if it is a run after the date for the company of the
inquiry, and this one is active and has not been escalated since the date. -/
theorem mem_escalations {step : EscalationStep} {id : Nat} {date : Option Nat} :
    (id, date) ∈ step.escalations ↔ ∃ now companyId inquiry day,
      step.input = .run now companyId ∧ date = some day ∧
        step.before.inquiries.find? id = some inquiry ∧ inquiry.companyId = companyId ∧
        inquiry.status.isActive = true ∧ inquiry.nextFollowupAt = some day ∧ day < now ∧
        ∀ last ∈ step.before.lastEscalatedAt id, last < day := by
  unfold EscalationStep.escalations
  cases input : step.input with
  | operate request => simp
  | run now companyId =>
    dsimp only
    rw [(runForCompany_eq now companyId step.before).2, List.map_map, List.mem_map]
    constructor
    · rintro ⟨⟨id, inquiry⟩, escalated, same⟩
      cases same
      obtain ⟨found, company, active, day, isDay, past, since⟩ := mem_eligible.mp escalated
      refine ⟨now, companyId, inquiry, day, rfl, ?_, found, company, active, isDay, past, since⟩
      rw [found, Option.bind_some, isDay]
    · rintro ⟨now', companyId', inquiry, day, isRun, rfl, found, company, active, isDay, past,
        since⟩
      cases isRun
      refine ⟨(id, inquiry), mem_eligible.mpr
        ⟨found, company, active, day, isDay, past, since⟩, ?_⟩
      show (id, (step.before.inquiries.find? id).bind Inquiry.nextFollowupAt) = _
      rw [found, Option.bind_some, isDay]

/-- What is kept along a history: a date that has been escalated is before the stamp of its inquiry. -/
structure EscalationKept (history : List EscalationStep) (db : EscalationDb) : Prop where
  once : (escalations history).Nodup
  stamped : ∀ id day, (id, some day) ∈ escalations history →
    ∃ last, db.lastEscalatedAt id = some last ∧ day < last

theorem nodup_step_escalations (step : EscalationStep) : step.escalations.Nodup := by
  unfold EscalationStep.escalations
  split
  · rename_i now companyId _
    rw [(runForCompany_eq now companyId step.before).2]
    exact nodup_eligible.map fun _ _ same => congrArg Prod.fst same
  · exact .nil

section Steps

variable {toLowerCase : String → String} {event : EscalationEvent} {before after : EscalationDb}

/-- **What a step does to the stamps**: they never go back, those of the inquiries that are escalated
are after their dates, and the others stay. -/
theorem EscalationEvent.exec_stamps (accepted : event.exec toLowerCase before = .ok after)
    (id : Nat) :
    (∀ day, (id, some day) ∈ EscalationStep.escalations ⟨before, event, after⟩ →
        ∃ now, after.lastEscalatedAt id = some now ∧ day < now) ∧
      (∀ last ∈ before.lastEscalatedAt id,
        ∃ now, after.lastEscalatedAt id = some now ∧ last ≤ now) ∧
      ((∀ date, (id, date) ∉ EscalationStep.escalations ⟨before, event, after⟩) →
        after.lastEscalatedAt id = before.lastEscalatedAt id) := by
  cases event with
  | operate request =>
    obtain ⟨tables, _, rfl⟩ := map_eq_ok.mp accepted
    exact ⟨nofun, fun last stamp => ⟨last, stamp, Nat.le_refl _⟩, fun _ => rfl⟩
  | run now companyId =>
    cases accepted
    obtain ⟨left, escalated⟩ := runForCompany_eq now companyId before
    have stamp : (runForCompany now companyId before).2.lastEscalatedAt id =
        if id ∈ (eligible now companyId before).map Prod.fst then some now
        else before.lastEscalatedAt id := by
      rw [left]
      rfl
    by_cases isEligible : id ∈ (eligible now companyId before).map Prod.fst
    · rw [if_pos isEligible] at stamp
      obtain ⟨⟨_, inquiry⟩, member, rfl⟩ := List.mem_map.mp isEligible
      obtain ⟨found, company, active, date, isDate, past, since⟩ := mem_eligible.mp member
      refine ⟨fun day isDay => ⟨now, stamp, ?_⟩, fun last isLast =>
        ⟨now, stamp, ((since last isLast).trans past).le⟩, fun nobody => ?_⟩
      · obtain ⟨_, _, _, _, isRun, same, _, _, _, _, before_, _⟩ := mem_escalations.mp isDay
        cases isRun
        cases same
        exact before_
      · exact absurd (mem_escalations.mpr
          ⟨now, companyId, inquiry, date, rfl, rfl, found, company, active, isDate, past, since⟩)
          (nobody _)
    · rw [if_neg isEligible] at stamp
      refine ⟨fun day isDay => ?_, fun last isLast => ⟨last, stamp.trans isLast, Nat.le_refl _⟩,
        fun _ => stamp⟩
      obtain ⟨_, _, inquiry, date, isRun, _, rest⟩ := mem_escalations.mp isDay
      cases isRun
      obtain ⟨found, company, active, isDate, past, since⟩ := rest
      exact absurd (List.mem_map_of_mem (f := Prod.fst) (mem_eligible.mpr
        ⟨found, company, active, date, isDate, past, since⟩)) isEligible

theorem EscalationKept.snoc {history : List EscalationStep} (kept : EscalationKept history before)
    (accepted : event.exec toLowerCase before = .ok after) :
    EscalationKept (history ++ [⟨before, event, after⟩]) after := by
  have split : escalations (history ++ [⟨before, event, after⟩]) =
      escalations history ++ EscalationStep.escalations ⟨before, event, after⟩ := by
    rw [escalations, List.flatMap_append, List.flatMap_singleton]
    rfl
  refine ⟨?_, fun id day member => ?_⟩
  · rw [split]
    refine kept.once.append (nodup_step_escalations _) fun ⟨id, date⟩ earlier now => ?_
    obtain ⟨_, _, _, day, _, rfl, _, _, _, _, _, since⟩ := mem_escalations.mp now
    obtain ⟨last, stamp, before_⟩ := kept.stamped id day earlier
    exact Nat.lt_asymm before_ (since last stamp)
  · obtain ⟨escalated, forward, _⟩ := event.exec_stamps accepted id
    rcases List.mem_append.mp (split ▸ member) with earlier | now
    · obtain ⟨last, stamp, before_⟩ := kept.stamped id day earlier
      obtain ⟨later, stamped, le⟩ := forward last stamp
      exact ⟨later, stamped, Nat.lt_of_lt_of_le before_ le⟩
    · exact escalated day now

end Steps

/-- **Escalation fires once per missed date**: no date of an inquiry is escalated twice; whoever is
escalated is active and past the date, and no other inquiry is stamped. -/
structure EscalatesOnce (history : List EscalationStep) : Prop where
  once : (escalations history).Nodup
  missed : ∀ step ∈ history, ∀ id date, (id, date) ∈ step.escalations →
    ∃ now companyId inquiry day, step.input = .run now companyId ∧ date = some day ∧
      step.before.inquiries.find? id = some inquiry ∧ inquiry.companyId = companyId ∧
      inquiry.status.isActive = true ∧ inquiry.nextFollowupAt = some day ∧ day < now
  others : ∀ step ∈ history, ∀ id, (∀ date, (id, date) ∉ step.escalations) →
    step.after.lastEscalatedAt id = step.before.lastEscalatedAt id

/-- **Over any sequence** of runs, at whatever times, and of operations on inquiries, escalation fires
once per missed date, and a run repeated at the same time changes nothing. -/
theorem escalatesOnce (toLowerCase : String → String) (db : EscalationDb)
    (events : List EscalationEvent) :
    EscalatesOnce (steps (EscalationEvent.exec toLowerCase) db events) ∧
      ∀ now companyId, ∀ visited ∈ states (EscalationEvent.exec toLowerCase) db events,
        runForCompany now companyId (runForCompany now companyId visited).2 =
          ({}, (runForCompany now companyId visited).2) := by
  have always : ∀ step ∈ steps (EscalationEvent.exec toLowerCase) db events, True :=
    fun _ _ => trivial
  have kept := history_invariant EscalationKept
    (fun _ _ _ _ kept accepted _ => kept.snoc accepted) ⟨.nil, nofun⟩ events always
  refine ⟨⟨kept.once, fun step _ id date escalated => ?_, fun step member id nobody => ?_⟩,
    fun now companyId visited _ => runForCompany_again now companyId visited⟩
  · obtain ⟨now, companyId, inquiry, day, isRun, isDay, found, company, active, isDate, past, _⟩ :=
      mem_escalations.mp escalated
    exact ⟨now, companyId, inquiry, day, isRun, isDay, found, company, active, isDate, past⟩
  · exact (step.input.exec_stamps (mem_steps member).2 id).2.2 nobody

end OpenEstate.Presales
