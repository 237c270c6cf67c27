/-
**The dispositions of an inquiry explain its status.**

Every operation writes a row for each change of the status that it makes, but for one: a follow-up
with a next action lets an open inquiry go on, and writes none. From then on the rows do not lead to
the status any more.

* `Explained` is the invariant, `Explained.intake` and `Explained.effect` keep it;
* `dispositions_explain_iff`: in a run the rows explain the status at every point, exactly if no
  follow-up takes an open inquiry on.
-/

import OpenEstate.Presales.System
import OpenEstate.Relational.Trail

namespace OpenEstate.Presales

open Relational

/-! ### What the rows are to say -/

/-- Of every inquiry, the first row comes from nothing, each of the others from what the row before
it has led to, and the last one leads to the status. -/
def PresalesDb.DispositionsExplain (db : PresalesDb) : Prop :=
  ∀ id inquiry, db.inquiries.find? id = some inquiry →
    (∃ first, (db.dispositions id).head? = some first ∧ first.1 = none) ∧
      (db.dispositions id).IsChain (fun earlier later => later.1 = some earlier.2) ∧
      ∃ last, (db.dispositions id).getLast? = some last ∧ last.2 = inquiry.status

def PresalesDb.status? (db : PresalesDb) (id : Nat) : Option InquiryStatus :=
  (db.inquiries.find? id).map (·.status)

/-- Of every inquiry, the dispositions lead to the status; where there is no inquiry, there are
none. -/
def Explained (db : PresalesDb) : Prop :=
  ∀ id, Leads none (db.dispositions id) (db.status? id)

theorem status?_eq_some {db : PresalesDb} {id : Nat} {inquiry : Inquiry}
    (found : db.inquiries.find? id = some inquiry) : db.status? id = some inquiry.status :=
  congrArg (Option.map _) found

theorem Explained.dispositionsExplain {db : PresalesDb} (explained : Explained db) :
    db.DispositionsExplain := by
  intro id inquiry found
  have leads := explained id
  rw [status?_eq_some found] at leads
  exact leads_iff.mp leads

section Explained

variable {db after : PresalesDb} {companyId : Nat}

theorem Explained.congr (explained : Explained db)
    (same : after.dispositionHistory = db.dispositionHistory)
    (status : ∀ id, after.status? id = db.status? id) : Explained after := by
  intro id
  rw [status id, PresalesDb.dispositions, same]
  exact explained id

theorem Explained.snoc (explained : Explained db) {id : Nat} {status : InquiryStatus}
    {row : InquiryDispositionHistory} (of_ : row.inquiryId = id)
    (from_ : row.fromStatus = db.status? id) (to_ : row.toStatus = status)
    (written : after.dispositionHistory = db.dispositionHistory.create row)
    (changed : ∀ key, after.status? key = if key = id then some status else db.status? key) :
    Explained after := by
  intro key
  have rows : after.dispositions key = (db.dispositionTransition row).dispositions key := by
    rw [PresalesDb.dispositions, written]
    rfl
  rw [rows, dispositions_dispositionTransition, changed key]
  by_cases same : key = id
  · subst same
    rw [if_pos of_, if_pos rfl, from_, to_]
    exact (explained key).snoc status
  · have other : row.inquiryId ≠ key := fun mine => same (mine.symm.trans of_)
    rw [if_neg other, if_neg same, List.append_nil]
    exact explained key

/-! ### What keeps it -/

theorem Explained.intake {requested : Option Nat} (explained : Explained db)
    (intake : Intake companyId requested db after) : Explained after := by
  induction intake with
  | start => exact explained
  | pools _ pools ih => exact ih
  | applicant _ own live ih => exact ih
  | @opened middle _ inquiry opens changedById ih =>
    have unknown : middle.status? middle.inquiries.nextId = none :=
      congrArg (Option.map _) (Table.find?_nextId _)
    refine ih.snoc rfl unknown.symm rfl rfl fun key => ?_
    have created := Table.find?_create middle.inquiries inquiry key
    exact (congrArg (Option.map (·.status)) created).trans (apply_ite _ _ _ _)
  | assigned _ row ih => exact ih.congr rfl (Table.map_find?_modify fun _ => rfl)

variable {inquiry : Inquiry}

theorem status?_of_modify {id : Nat} (change : Inquiry → Inquiry)
    (found : db.inquiries.find? id = some inquiry)
    (written : after.inquiries = db.inquiries.modify id change) (key : Nat) :
    after.status? key = if key = id then some (change inquiry).status else db.status? key := by
  unfold PresalesDb.status?
  rw [written, Table.find?_modify]
  split
  · rw [‹key = id›, found]
    rfl
  · rfl

variable {dto : UpdateInquiryDto} {existing : Inquiry}

theorem newStatus_eq_some {status : InquiryStatus} :
    dto.newStatus existing = some status ↔ dto.status = some status ∧ status ≠ existing.status := by
  rw [UpdateInquiryDto.newStatus, Option.filter_eq_some_iff, decide_eq_true_iff]

theorem status_of_newStatus_eq_none
    (same : dto.newStatus existing = none) : dto.status.getD existing.status = existing.status := by
  cases asked : dto.status with
  | none => rfl
  | some status =>
    by_contra different
    have changed := newStatus_eq_some.mpr ⟨asked, different⟩
    rw [same] at changed
    cases changed

theorem Explained.update {id actorId now : Nat} (explained : Explained db)
    (found : db.inquiries.find? id = some existing) :
    Explained (db.update now companyId id dto existing actorId) := by
  have changed : ∀ key, (db.update now companyId id dto existing actorId).status? key = _ :=
    status?_of_modify (dto.write existing now) found rfl
  cases status : dto.newStatus existing with
  | none =>
    refine explained.congr (congrArg (Option.elim · _ _) status) fun key => ?_
    rw [changed key]
    split
    · rw [‹key = id›, status?_eq_some found]
      exact congrArg some (status_of_newStatus_eq_none status)
    · rfl
  | some status' =>
    refine explained.snoc rfl (status?_eq_some found).symm rfl
      (congrArg (Option.elim · _ _) status) fun key => ?_
    rw [changed key]
    exact if_congr Iff.rfl
      (congrArg (some <| Option.getD · _) (newStatus_eq_some.mp status).1) rfl

theorem Explained.convert {id now : Nat} {row : InquiryDispositionHistory}
    {bookings : Table Booking} (explained : Explained db)
    (found : db.inquiries.find? id = some inquiry) (of_ : row.inquiryId = id)
    (from_ : row.fromStatus = some inquiry.status) (to_ : row.toStatus = .successful) :
    Explained ({ db with bookings }.convert now id inquiry row) := by
  unfold PresalesDb.convert
  split
  · exact explained.congr rfl fun _ => rfl
  · exact explained.snoc of_ (from_.trans (status?_eq_some found).symm) to_ rfl
      (status?_of_modify (Inquiry.convert now) found rfl)

def FlipsOpen (db : PresalesDb) : PresalesOp → Prop
  | .createFollowUp inquiryId dto _ _ =>
    db.status? inquiryId = some .open_ ∧ dto.nextActionAt.isSome = true
  | _ => False

theorem Explained.follow {inquiryId : Nat} {nextActionAt : Option Nat} {followUp : FollowUp}
    (explained : Explained db) (found : db.inquiries.find? inquiryId = some inquiry)
    (keeps : ¬(db.status? inquiryId = some .open_ ∧ nextActionAt.isSome = true)) :
    Explained ((db.insertFollowUp followUp).follow inquiryId nextActionAt inquiry) := by
  cases nextActionAt with
  | none => exact explained.congr rfl fun _ => rfl
  | some at_ =>
    refine explained.congr rfl fun key => ?_
    rw [status?_of_modify (inquiry.followUp at_) found rfl key]
    split
    · have closed : inquiry.status ≠ .open_ := fun isOpen =>
        keeps ⟨(status?_eq_some found).trans (congrArg some isOpen), rfl⟩
      rw [‹key = inquiryId›, status?_eq_some found]
      exact congrArg some (if_neg closed)
    · rfl

theorem status?_reassigned {stageId actorId : Nat} {asked : Option Nat}
    (reassigned : Reassigned db companyId stageId asked actorId after) :
    after.dispositionHistory = db.dispositionHistory ∧ ∀ id, after.status? id = db.status? id := by
  cases reassigned with
  | nobody none => exact ⟨rfl, fun _ => rfl⟩
  | moved some_ given other found => exact ⟨rfl, Table.map_find?_modifyAll fun _ => rfl⟩

theorem Explained.effect {op : PresalesOp} (explained : Explained db)
    (effect : Effect db companyId op after) (keeps : ¬FlipsOpen db op) : Explained after := by
  cases effect with
  | takenIn takesIn intake => exact explained.intake intake
  | created found opens rest => exact explained.intake ((found.opened opens _).trans rest)
  | updated found own staged now => exact explained.update found
  | attached found of_ from_ to_ bookings now => exact explained.convert found of_ from_ to_
  | followed found followUp => exact explained.follow (find?_of_scoped found).1 keeps
  | stageCreated dto =>
    split
    · exact explained.congr rfl fun _ => rfl
    · exact explained.congr rfl fun _ => rfl
  | @stageUpdated _ _ dto existing moved found allowed moves =>
    have same : moved.dispositionHistory = db.dispositionHistory ∧
        ∀ id, moved.status? id = db.status? id := by
      split at moves
      · exact status?_reassigned moves
      · rw [moves]
        exact ⟨rfl, fun _ => rfl⟩
    split
    · exact explained.congr same.1 same.2
    · exact explained.congr same.1 same.2
  | merged different survivor merged => exact explained.congr rfl (Table.map_find?_modifyAll fun _ => rfl)
  | sent live own to_ => exact explained.congr rfl fun _ => rfl

theorem not_explain_of_flips {op : PresalesOp} (explained : Explained db)
    (effect : Effect db companyId op after) (flips : FlipsOpen db op) :
    ¬after.DispositionsExplain := by
  cases effect with
  | @followed inquiryId dto _ scope inquiry visible followUp =>
    obtain ⟨isOpen, given⟩ := flips
    obtain ⟨at_, next⟩ := Option.isSome_iff_exists.mp given
    have found := (find?_of_scoped visible).1
    intro explains
    have continued : inquiry.status = .open_ := by
      rw [status?_eq_some found] at isOpen
      exact Option.some.inj isOpen
    rw [next] at explains
    have went : ((db.insertFollowUp followUp).follow inquiryId (some at_) inquiry).inquiries.find?
        inquiryId = some (inquiry.followUp at_ inquiry) := by
      show (db.inquiries.modify inquiryId _).find? inquiryId = _
      rw [Table.find?_modify_self, found]
      rfl
    have leads := leads_iff.mpr (explains inquiryId _ went)
    have same := (explained inquiryId).unique leads
    rw [isOpen, Inquiry.followUp, continued] at same
    cases same
  | takenIn takesIn intake =>
    cases op with
    | createFollowUp => exact takesIn.elim
    | _ => exact flips.elim
  | _ => exact flips.elim

end Explained

/-! ### Runs -/

theorem PresalesDb.IsNew.explained {db : PresalesDb} (isNew : db.IsNew) : Explained db := by
  intro id
  rw [PresalesDb.status?, PresalesDb.dispositions, isNew.inquiries, isNew.dispositionHistory]
  rfl

/-- **The dispositions explain the status** at every point of a run, exactly if no follow-up with a
next action takes an open inquiry on. -/
theorem dispositions_explain_iff (toLowerCase : String → String) {start : PresalesDb}
    (isNew : start.IsNew) (requests : List PresalesRequest) :
    (∀ db ∈ states (execPresales toLowerCase) start requests, db.DispositionsExplain) ↔
      ∀ step ∈ steps (execPresales toLowerCase) start requests,
        ¬FlipsOpen step.before step.input.op := by
  have kept : ∀ request before after, Explained before →
      execPresales toLowerCase request before = .ok after →
        ¬FlipsOpen before request.op → Explained after :=
    fun request before after explained accepted keeps =>
      explained.effect (effect_of_exec accepted) keeps
  refine forall_states_iff_of_kept kept (fun db explained => explained.dispositionsExplain) ?_
    requests isNew.explained
  exact fun request before after explained accepted explains flips =>
    not_explain_of_flips explained (effect_of_exec accepted) flips explains

def leadFollowedUp : List PresalesRequest :=
  [{ companyId := 1, op := .createFromLead { name := "Asha", phone := "9800000001" } },
    { companyId := 1, op := .createFollowUp 0 { nextActionAt := some 5 } (some 2) {} }]

theorem dispositions_of_lead :
    (∀ db ∈ states (execPresales id) {} leadFollowedUp, db.DispositionsExplain) ↔
      ∀ step ∈ steps (execPresales id) {} leadFollowedUp, ¬FlipsOpen step.before step.input.op :=
  dispositions_explain_iff id PresalesDb.isNew_empty leadFollowedUp

/-- The lead goes on, and its only row still says that it is open. -/
theorem followUp_unexplained :
    ¬∀ requests, ∀ db ∈ states (execPresales id) {} requests, db.DispositionsExplain := by
  intro explained
  have explains := explained leadFollowedUp _ (run_mem_states _ _)
  obtain ⟨_, _, last, isLast, same⟩ := explains 0 _ rfl
  cases isLast
  cases same

end OpenEstate.Presales
