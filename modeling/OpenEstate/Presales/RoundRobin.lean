/-
**Round robin, whoever else is assigning.**

Inquiries come in one by one, as leads or as rows of a sheet, and are assigned on the way, each in
the transaction that creates it. What else such a transaction does leaves the pools alone.
Transactions that assign inquiries run at the same time. Each assignment is made under the lock of
its pool, which is held until the commit, so that whoever commits has assigned by what is committed.

* `Logs` sets beside a transaction the same one that answers which assignments it has made;
  `createInquiry_logged`, `createFromLead_logged`, `importInquiries_logged`: each way in has one;
* `Progress` is what is known of a session on its way, `wp_of_logs` carries it through a transaction;
* `committed_inTurn`: in any interleaving, the committed assignments come in turn;
* `assignments_isFair`: so they are fair, if the clock goes on.
-/

import OpenEstate.Presales.Intake
import OpenEstate.Presales.Turn
import OpenEstate.Relational.Guarded

namespace OpenEstate.Presales

open Relational

/-! ### Transactions that assign -/

def turnOf (draw : PresalesDraw) (companyId projectId : Nat) : Option Nat → List Turn
  | none => []
  | some userId => [{ companyId, projectId, userId, now := draw.now }]

def LeavesPools (write : PresalesDb → PresalesDb) : Prop :=
  ∀ db, (write db).pools = db.pools

/-- A transaction, and the same one that answers which assignments it has made: those of `autoAssign`,
while its other statements leave the pools alone. -/
inductive Logs : {α : Type} → PresalesTx α → PresalesTx (List Turn) → Prop
  | done {α : Type} (result : α) : Logs (.done result) (.done [])
  | fail {α : Type} (error : ServiceError) : Logs (.fail error : PresalesTx α) (.fail error)
  | other {α β : Type} {work : PresalesTx β} {rest : β → PresalesTx α}
      {log : β → PresalesTx (List Turn)} (leaves : work.Writes LeavesPools)
      (goes : ∀ value, Logs (rest value) (log value)) : Logs (work >>= rest) (work >>= log)
  | assigned {α : Type} (draw : PresalesDraw) (companyId projectId : Nat)
      {rest : Option Nat → PresalesTx α} {log : Option Nat → PresalesTx (List Turn)}
      (goes : ∀ user, Logs (rest user) (log user)) :
      Logs (autoAssign draw companyId projectId >>= rest)
        (autoAssign draw companyId projectId >>= fun user => log user >>= fun turns =>
          pure (turnOf draw companyId projectId user ++ turns))

/-! ### How inquiries come in -/

def Logged {α : Type} (tx : PresalesTx α) : Prop :=
  ∃ log, Logs tx log

section Logged

variable {α β : Type} {toLowerCase : String → String} {draw : PresalesDraw} {companyId : Nat}

theorem Logged.other {work : PresalesTx β} {rest : β → PresalesTx α}
    (leaves : work.Writes LeavesPools) (goes : ∀ value, Logged (rest value)) :
    Logged (work >>= rest) := by
  choose log logs using goes
  exact ⟨_, .other leaves logs⟩

theorem Logged.assigned (draw : PresalesDraw) (companyId projectId : Nat)
    {rest : Option Nat → PresalesTx α} (goes : ∀ user, Logged (rest user)) :
    Logged (autoAssign draw companyId projectId >>= rest) := by
  choose log logs using goes
  exact ⟨_, .assigned draw companyId projectId logs⟩

theorem Logged.assoc {γ : Type} {first : PresalesTx β} {second : β → PresalesTx γ}
    {third : γ → PresalesTx α} (goes : Logged (first >>= fun value => second value >>= third)) :
    Logged ((first >>= second) >>= third) := by
  have same : (first >>= second) >>= third = first >>= fun value => second value >>= third :=
    Tx.bind_bind first second third
  rw [same]
  exact goes

theorem Logged.done (result : α) : Logged (.done result) :=
  ⟨_, .done result⟩

/-! What leaves the pools alone. -/

theorem leavesPools_id : LeavesPools id := fun _ => rfl

theorem assignTo_leaves (row : InquiryAssignment) : (assignTo row).Writes LeavesPools :=
  .stmt (fun _ => rfl) fun _ => .stmt (fun _ => rfl) fun _ => .done ()

theorem openInquiry_leaves (inquiry : Inquiry) (changedById : Option Nat) :
    (openInquiry inquiry changedById).Writes LeavesPools :=
  .stmt (fun _ => rfl) fun _ => .stmt (fun _ => rfl) fun _ => .stmt (fun _ => rfl) fun _ => .done _

theorem initialStage_leaves (requested : Option Nat) :
    (resolveInitialStage companyId requested).Writes LeavesPools := by
  cases requested with
  | none => exact .read leavesPools_id _
  | some stageId =>
    exact (Tx.Writes.query leavesPools_id _).bind fun _ => .done _

theorem insertApplicant_leaves (row : Applicant) : (insertApplicant row).Writes LeavesPools :=
  .stmt (fun _ => rfl) fun _ => .done _

theorem resolve_leaves (applicant : InquiryApplicant) :
    (applicant.resolve toLowerCase companyId).Writes LeavesPools := by
  cases applicant with
  | new dto =>
    refine (Tx.Writes.read leavesPools_id _).bind fun _ => ?_
    exact (insertApplicant_leaves _).bind fun _ => .done _
  | existing id =>
    refine (Tx.Writes.query leavesPools_id _).bind fun _ => ?_
    exact (Tx.Writes.check _).bind fun _ => .done _

theorem linkOrCreate_leaves (dto : CreateApplicantDto) (chosen : Option (Nat × Applicant)) :
    (linkOrCreate toLowerCase companyId dto chosen).Writes LeavesPools := by
  cases chosen with
  | none => exact insertApplicant_leaves _
  | some applicant => exact .done _

theorem project_leaves (progress : ImportProgress) (code : Option String) :
    (progress.project companyId code).Writes LeavesPools := by
  cases code with
  | none => exact .done _
  | some code =>
    simp only [ImportProgress.project]
    cases progress.projectCache.lookup code with
    | some projectId => exact .done _
    | none => exact (Tx.Writes.read leavesPools_id _).bind fun _ => .done _

theorem Logged.assignInTurn {inquiryId : Nat} {projectId : Option Nat}
    {rest : Option Nat → PresalesTx α} (goes : ∀ user, Logged (rest user)) :
    Logged (assignInTurn draw companyId inquiryId projectId >>= rest) := by
  cases projectId with
  | none => exact goes none
  | some projectId =>
    refine .assoc (.assigned draw companyId projectId fun user => ?_)
    cases user with
    | none => exact goes none
    | some userId => exact .assoc (.other (assignTo_leaves _) fun _ => goes (some userId))

theorem createInquiry_logged (dto : CreateInquiryDto) (createdById : Nat) :
    Logged (createInquiry toLowerCase draw companyId dto createdById) := by
  refine .other (resolve_leaves dto.applicant) fun applicant => ?_
  refine .other (initialStage_leaves dto.stageId) fun stageId => ?_
  refine .other (openInquiry_leaves _ _) fun inquiryId => ?_
  refine .other (.read leavesPools_id _) fun config => ?_
  split
  · exact .other (assignTo_leaves _) fun _ => .done _
  · exact .assignInTurn fun _ => .done _

theorem createFromLead_logged (lead : LeadInput) :
    Logged (createFromLead toLowerCase draw companyId lead) := by
  refine .other (.read leavesPools_id _) fun duplicates => ?_
  refine .other (.read leavesPools_id _) fun config => ?_
  refine .other (linkOrCreate_leaves _ _) fun applicantId => ?_
  refine .other (initialStage_leaves none) fun stageId => ?_
  refine .other (openInquiry_leaves _ _) fun inquiryId => ?_
  exact .assignInTurn fun _ => .done _

theorem Logged.importRow {autoLink : Bool} {stageId : Option Nat} {rowNum : Nat}
    {row : ImportInquiryRow} {progress : ImportProgress} {rest : ImportProgress → PresalesTx α}
    (goes : ∀ progress, Logged (rest progress)) :
    Logged (importRow toLowerCase draw companyId autoLink stageId rowNum row progress >>= rest) := by
  refine .assoc (.other (.read leavesPools_id _) fun existing => ?_)
  refine .assoc (.other (linkOrCreate_leaves _ _) fun applicantId => ?_)
  refine .assoc (.other (project_leaves _ _) fun project => ?_)
  refine .assoc (.other (openInquiry_leaves _ _) fun inquiryId => ?_)
  exact .assoc (.assignInTurn fun _ => goes _)

theorem importRows_logged (draws : Nat → PresalesDraw) (autoLink : Bool) (stageId : Option Nat)
    (rows : List (Nat × ImportInquiryRow)) (progress : ImportProgress)
    {rest : ImportProgress → PresalesTx α} (goes : ∀ progress, Logged (rest progress)) :
    Logged (importRows toLowerCase draws companyId autoLink stageId rows progress >>= rest) := by
  induction rows generalizing progress with
  | nil => exact goes progress
  | cons row others ih => exact .assoc (.importRow fun progress => ih progress)

theorem importInquiries_logged (draws : Nat → PresalesDraw) (file : ImportFile) :
    Logged (importInquiries toLowerCase draws companyId file) := by
  cases file with
  | invalid => exact ⟨_, .fail _⟩
  | noWorksheet => exact ⟨_, .fail _⟩
  | sheet rows =>
    refine .other (.check _) fun _ => ?_
    split
    · exact .done _
    · refine .other (.read leavesPools_id _) fun config => ?_
      refine .other (initialStage_leaves none) fun stageId => ?_
      exact importRows_logged draws _ stageId _ {} fun _ => .done _

end Logged

def AssignsInTurn (log : PresalesTx (List Turn)) : Prop :=
  ∃ (α : Type) (tx : PresalesTx α), Logs tx log

open Function (update)

/-! ### The lock of the pool -/

section Lock

variable {ι : Type} (companyId projectId : Nat)

def pooling (ι : Type) (members : Nat → Option Nat) : Discipline ι PresalesDb PresalesLock where
  kept db := (db.queue companyId projectId).userId? = members
  grows _ _ := True
  same lock before after :=
    lock = .pool projectId → after.queue companyId projectId = before.queue companyId projectId
  steady _ _ _ := True
  grows_refl _ := trivial
  grows_trans _ _ := trivial
  same_refl _ _ _ := rfl
  same_trans first second isPool := (second isPool).trans (first isPool)
  steady_refl _ _ := trivial
  steady_trans _ _ := trivial

/-- What a session has done to the queue so far: its assignments, under the lock, and nothing if it
does not hold the lock. What it leaves depends on nothing but the queue it meets. -/
structure Progress (members : Nat → Option Nat) (session : ι) (held : List PresalesLock)
    (written : PresalesDb → PresalesDb) (turns : List Turn) (rows : PresalesDb) : Prop where
  kept : (pooling companyId projectId ι members).kept rows
  inTurn : ∀ later, (pooling companyId projectId ι members).Relies session held rows later →
    InTurn (later.queue companyId projectId) (turns.filter (·.isOf companyId projectId))
      ((written later).queue companyId projectId)
  stable : ∀ first second,
    (pooling companyId projectId ι members).Relies session held rows first →
    (pooling companyId projectId ι members).Relies session held rows second →
    first.queue companyId projectId = second.queue companyId projectId →
      (written first).queue companyId projectId = (written second).queue companyId projectId
  unlocked : .pool projectId ∉ held → turns.filter (·.isOf companyId projectId) = []

variable {companyId projectId} {members : Nat → Option Nat} {session : ι}
  {held : List PresalesLock} {written : PresalesDb → PresalesDb} {turns : List Turn}
  {rows later : PresalesDb}

theorem Progress.start (kept : (rows.queue companyId projectId).userId? = members) :
    Progress companyId projectId members session [] id [] rows where
  kept := kept
  inTurn _ _ := .nil
  stable _ _ _ _ same := same
  unlocked _ := rfl

theorem Progress.relies (progress : Progress companyId projectId members session held written turns
    rows) (relies : (pooling companyId projectId ι members).Relies session held rows later) :
    Progress companyId projectId members session held written turns later where
  kept := relies.kept
  inTurn _ more := progress.inTurn _ (relies.trans more)
  stable _ _ first second := progress.stable _ _ (relies.trans first) (relies.trans second)
  unlocked := progress.unlocked

theorem relies_of_append {locks : List PresalesLock}
    (relies : (pooling companyId projectId ι members).Relies session (locks ++ held) rows later) :
    (pooling companyId projectId ι members).Relies session held rows later where
  kept := relies.kept
  grows := relies.grows
  steady := relies.steady
  same lock member := relies.same lock (List.mem_append_right _ member)

theorem Progress.other (progress : Progress companyId projectId members session held written turns
    rows) (locks : List PresalesLock) {write : PresalesDb → PresalesDb}
    (leaves : LeavesPools write) :
    Progress companyId projectId members session (locks ++ held) (write ∘ written) turns rows := by
  have same : ∀ db, (write db).queue companyId projectId = db.queue companyId projectId := by
    intro db
    funext id
    rw [PresalesDb.queue, leaves]
    rfl
  constructor
  · exact progress.kept
  · intro later relies
    rw [Function.comp_apply, same]
    exact progress.inTurn later (relies_of_append relies)
  · intro first second relies reliesToo queues
    rw [Function.comp_apply, Function.comp_apply, same, same]
    exact progress.stable first second (relies_of_append relies) (relies_of_append reliesToo) queues
  · exact fun absent => progress.unlocked fun member => absent (List.mem_append_right _ member)

theorem Progress.userId?_eq
    (progress : Progress companyId projectId members session held written turns rows)
    (relies : (pooling companyId projectId ι members).Relies session held rows later) :
    ((written later).queue companyId projectId).userId? = members :=
  (progress.inTurn later relies).userId?_eq.trans relies.kept

theorem Progress.claim_of_none {id : Nat} {turn : Turn}
    (progress : Progress companyId projectId members session held written turns rows)
    (lock : PresalesLock) (absent : (written rows).queue companyId projectId id = none)
    (apart : turn.isOf companyId projectId = false) :
    Progress companyId projectId members session ([lock] ++ held)
      (fun db => (written db).claim id turn.now) (turns ++ [turn]) rows := by
  have filtered : (turns ++ [turn]).filter (·.isOf companyId projectId) =
      turns.filter (·.isOf companyId projectId) := by
    rw [List.filter_append, List.filter_cons_of_neg (by simp [apart]), List.filter_nil,
      List.append_nil]
  have same : ∀ {later}, (pooling companyId projectId ι members).Relies session ([lock] ++ held)
      rows later → ((written later).claim id turn.now).queue companyId projectId =
        (written later).queue companyId projectId := by
    intro later relies
    have still : (written later).queue companyId projectId id = none := by
      have users := (progress.userId?_eq (relies_of_append relies)).trans
        (progress.userId?_eq (.refl progress.kept)).symm
      have user := congrFun users id
      rw [Queue.userId?, Queue.userId?, absent] at user
      exact Option.map_eq_none_iff.mp user
    rw [queue_claim, still, Option.map_none, ← still, Function.update_eq_self]
  constructor
  · exact progress.kept
  · intro later relies
    rw [filtered, same relies]
    exact progress.inTurn later (relies_of_append relies)
  · intro first second relies reliesToo queues
    rw [same relies, same reliesToo]
    exact progress.stable first second (relies_of_append relies) (relies_of_append reliesToo) queues
  · intro unlocked
    rw [filtered]
    exact progress.unlocked fun member => unlocked (List.mem_append_right _ member)

theorem Progress.claim_of_first {id : Nat} {member : ProjectAssignmentPool} {turn : Turn}
    (progress : Progress companyId projectId members session held written turns rows)
    (lock : PresalesLock) (locked : .pool projectId ∈ held)
    (waits : (written rows).queue companyId projectId id = some member)
    (first : ∀ key other, (written rows).queue companyId projectId key = some other →
      member.noLater other = true)
    (own : turn.isOf companyId projectId = true) (gets : turn.userId = member.userId) :
    Progress companyId projectId members session ([lock] ++ held)
      (fun db => (written db).claim id turn.now) (turns ++ [turn]) rows := by
  have filtered : (turns ++ [turn]).filter (·.isOf companyId projectId) =
      turns.filter (·.isOf companyId projectId) ++ [turn] := by
    rw [List.filter_append, List.filter_cons_of_pos own, List.filter_nil]
  -- nobody else has been at the queue
  have same : ∀ {later}, (pooling companyId projectId ι members).Relies session ([lock] ++ held)
      rows later →
        (written later).queue companyId projectId = (written rows).queue companyId projectId :=
    fun relies => progress.stable _ _ (relies_of_append relies) (.refl progress.kept)
      ((relies_of_append relies).same _ locked rfl)
  have claimed : ∀ {later}, (pooling companyId projectId ι members).Relies session ([lock] ++ held)
      rows later → ((written later).claim id turn.now).queue companyId projectId =
        update ((written later).queue companyId projectId) id
          (some { member with lastAssignedAt := some turn.now }) := by
    intro later relies
    rw [queue_claim, same relies, waits, Option.map_some]
  constructor
  · exact progress.kept
  · intro later relies
    rw [filtered, claimed relies]
    refine (progress.inTurn later (relies_of_append relies)).snoc ?_ ?_ gets
    · rw [same relies]
      exact waits
    · rw [same relies]
      exact first
  · intro one other relies reliesToo queues
    rw [claimed relies, claimed reliesToo, same relies, same reliesToo]
  · exact fun unlocked => absurd (List.mem_append_right _ locked) unlocked

theorem Progress.claim {draw : PresalesDraw} {company project : Nat}
    {next : Nat × ProjectAssignmentPool}
    (progress : Progress companyId projectId members session held written turns rows)
    (lock : PresalesLock) (locked : .pool project ∈ held)
    (found : (written rows).nextMember draw company project = some next) :
    Progress companyId projectId members session ([lock] ++ held)
      (fun db => (written db).claim next.1 draw.now)
      (turns ++ turnOf draw company project (some next.2.userId)) rows := by
  obtain ⟨listed, first⟩ := nextMember_eq_some found
  have waits := mem_poolMembers_iff_queue.mp listed
  let turn : Turn := { companyId := company, projectId := project, userId := next.2.userId
                       now := draw.now }
  by_cases own : company = companyId ∧ project = projectId
  · obtain ⟨rfl, rfl⟩ := own
    have isOf : turn.isOf company project = true := by simp [turn, Turn.isOf]
    have claimed : Progress company project members session ([lock] ++ held)
        (fun db => (written db).claim next.1 turn.now) (turns ++ [turn]) rows := by
      refine progress.claim_of_first lock locked waits (fun key other isOther => ?_) isOf rfl
      exact first (key, other) (mem_poolMembers_iff_queue.mpr isOther)
    exact claimed
  · have isOther : turn.isOf companyId projectId = false := by
      simpa [turn, Turn.isOf] using own
    have claimed : Progress companyId projectId members session ([lock] ++ held)
        (fun db => (written db).claim next.1 turn.now) (turns ++ [turn]) rows :=
      progress.claim_of_none lock (queue_eq_none_of_other waits own) isOther
    exact claimed

theorem relies_poolMember (id : Nat)
    (relies : (pooling companyId projectId ι members).Relies session held rows later) :
    (pooling companyId projectId ι members).Relies session ([.poolMember id] ++ held) rows later where
  kept := relies.kept
  grows := relies.grows
  steady := relies.steady
  same := by
    intro lock member
    rcases List.mem_append.mp member with mine | old
    · rw [List.mem_singleton.mp mine]
      exact nofun
    · exact relies.same lock old

/-! ### Transactions on their way -/

abbrev Progress.After (companyId projectId : Nat) (members : Nat → Option Nat) (session : ι)
    (turns : List Turn) {α : Type} (added : α → List Turn) :
    List PresalesLock → α → (PresalesDb → PresalesDb) → PresalesDb → Prop :=
  fun held value written rows =>
    Progress companyId projectId members session held written (turns ++ added value) rows

section Way

variable {draw : PresalesDraw} {company project : Nat}

theorem wp_claimOrElse {otherwise : PresalesTx (Option Nat)}
    (progress : Progress companyId projectId members session held written turns rows)
    (locked : .pool project ∈ held)
    (other : ∀ now, Progress companyId projectId members session held written turns now →
      (pooling companyId projectId ι members).wp session (fun _ => True)
        (Progress.After companyId projectId members session turns (turnOf draw company project))
        held otherwise written now) :
    (pooling companyId projectId ι members).wp session (fun _ => True)
      (Progress.After companyId projectId members session turns (turnOf draw company project))
      held (claimOrElse draw company project otherwise) written rows := by
  refine Discipline.wp_read_bind fun now relies _ => ?_
  have here := progress.relies relies
  cases found : (written now).nextMember draw company project with
  | none => exact other now here
  | some next =>
    intro later more _
    exact (here.claim (.poolMember next.1) locked found).relies (relies_poolMember _ more)

theorem wp_claimNext (retries : Nat)
    (progress : Progress companyId projectId members session held written turns rows)
    (locked : .pool project ∈ held) :
    (pooling companyId projectId ι members).wp session (fun _ => True)
      (Progress.After companyId projectId members session turns (turnOf draw company project))
      held (claimNext draw company project retries) written rows := by
  induction retries generalizing rows with
  | zero =>
    refine wp_claimOrElse progress locked fun now here => ?_
    show Progress companyId projectId members session held written (turns ++ []) now
    rwa [List.append_nil]
  | succ retries ih => exact wp_claimOrElse progress locked fun now here => ih here

theorem wp_autoAssign
    (progress : Progress companyId projectId members session held written turns rows) :
    (pooling companyId projectId ι members).wp session (fun _ => True)
      (Progress.After companyId projectId members session turns (turnOf draw company project))
      held (autoAssign draw company project) written rows := by
  refine Discipline.wp_read_bind fun now relies _ => ?_
  have here := progress.relies relies
  split
  · show Progress companyId projectId members session held written (turns ++ []) now
    rwa [List.append_nil]
  · intro later more _
    have locked := (here.relies more).other [.pool project] (fun _ => rfl)
    exact wp_claimNext autoAssignMaxRetries locked List.mem_cons_self

theorem wp_of_leaves {α : Type} {work : PresalesTx α} (leaves : work.Writes LeavesPools)
    (progress : Progress companyId projectId members session held written turns rows) :
    (pooling companyId projectId ι members).wp session (fun _ => True)
      (fun held _ written rows =>
        Progress companyId projectId members session held written turns rows)
      held work written rows := by
  induction leaves generalizing held written rows with
  | done result => exact progress
  | fail error => trivial
  | stmt one _ ih => exact fun later relies _ => ih _ ((progress.relies relies).other _ one)

theorem wp_of_logs {α : Type} {tx : PresalesTx α} {log : PresalesTx (List Turn)}
    (logs : Logs tx log)
    (progress : Progress companyId projectId members session held written turns rows) :
    (pooling companyId projectId ι members).wp session (fun _ => True)
      (Progress.After companyId projectId members session turns id) held log written rows := by
  induction logs generalizing held written turns rows with
  | done result =>
    show Progress companyId projectId members session held written (turns ++ []) rows
    rwa [List.append_nil]
  | fail error => trivial
  | other leaves _ ih =>
    refine Discipline.wp_bind (Discipline.wp_mono (wp_of_leaves leaves progress)
      (fun _ sees => sees) ?_)
    exact fun held value written rows here => ih value here
  | assigned draw company project _ ih =>
    refine Discipline.wp_bind (Discipline.wp_mono (wp_autoAssign progress) (fun _ sees => sees) ?_)
    intro held user written rows here
    refine Discipline.wp_bind (Discipline.wp_mono (ih user here) (fun _ sees => sees) ?_)
    intro held more written rows there
    have there : Progress companyId projectId members session held written
      (turns ++ turnOf draw company project user ++ more) rows := there
    rwa [List.append_assoc] at there

theorem Progress.commits
    (progress : Progress companyId projectId members session held written turns rows) :
    (pooling companyId projectId ι members).Commits session
      (fun turns before after => InTurn (before.queue companyId projectId)
        (turns.filter (·.isOf companyId projectId)) (after.queue companyId projectId))
      held turns written rows := by
  intro later relies
  have inTurn := progress.inTurn later relies
  refine ⟨⟨progress.userId?_eq relies, trivial, fun _ _ => trivial, ?_⟩, inTurn⟩
  rintro lock absent rfl
  rw [progress.unlocked absent] at inTurn
  generalize (written later).queue companyId projectId = last at inTurn
  cases inTurn
  rfl

end Way

end Lock

/-! ### Interleavings -/

section Worlds

variable {ι : Type} [DecidableEq ι] {companyId projectId : Nat}

def turnsIn (step : Step (World ι PresalesDb PresalesLock ServiceError (List Turn)) (Choice ι)) :
    List Turn :=
  (World.answerIn step).getD []

/-- The assignments of a pool that are committed in some steps, in their order. -/
def committedTurns (companyId projectId : Nat)
    (steps : List (Step (World ι PresalesDb PresalesLock ServiceError (List Turn)) (Choice ι))) :
    List Turn :=
  (steps.flatMap turnsIn).filter (·.isOf companyId projectId)

abbrev endsInTurn (companyId projectId : Nat) (_ : ι) (turns : List Turn)
    (before after : PresalesDb) : Prop :=
  InTurn (before.queue companyId projectId) (turns.filter (·.isOf companyId projectId))
    (after.queue companyId projectId)

def TakesTurns (companyId projectId : Nat)
    (before : World ι PresalesDb PresalesLock ServiceError (List Turn)) (turns : List Turn)
    (after : World ι PresalesDb PresalesLock ServiceError (List Turn)) : Prop :=
  InTurn (before.rows.queue companyId projectId) (turns.filter (·.isOf companyId projectId))
    (after.rows.queue companyId projectId)

omit [DecidableEq ι] in
theorem TakesTurns.trans {first second third : World ι PresalesDb PresalesLock ServiceError
      (List Turn)} {early late : List Turn}
    (one : TakesTurns companyId projectId first early second)
    (other : TakesTurns companyId projectId second late third) :
    TakesTurns companyId projectId first (early ++ late) third := by
  unfold TakesTurns
  rw [List.filter_append]
  exact InTurn.trans one other

theorem step_inTurn {members : Nat → Option Nat} {choice : Choice ι}
    {origin before after : World ι PresalesDb PresalesLock ServiceError (List Turn)}
    (governed : (pooling companyId projectId ι members).Governed (fun _ => True)
      (endsInTurn companyId projectId) origin before)
    (accepted : World.exec choice before = .ok after) :
    TakesTurns companyId projectId before (turnsIn ⟨before, choice, after⟩) after := by
  unfold TakesTurns turnsIn
  rcases World.answerIn_cases accepted with ⟨nothing, same⟩ |
    ⟨session, turns, written, answers, stands, wrote⟩
  · rw [nothing, same]
    exact .nil
  · obtain ⟨held, _, guarded⟩ := (governed.stands session).of_active stands
    rw [answers, wrote]
    exact (guarded _ (.refl governed.kept)).2

theorem committed_inTurn {programs : ι → PresalesTx (List Turn)}
    (assign : ∀ session, AssignsInTurn (programs session)) (rows : PresalesDb)
    (schedule : List (Choice ι)) :
    InTurn (rows.queue companyId projectId)
      (committedTurns companyId projectId
        (steps World.exec (World.start programs rows) schedule))
      ((World.interleave programs rows schedule).rows.queue companyId projectId) := by
  have governed : (pooling companyId projectId ι (rows.queue companyId projectId).userId?).Governed
      (fun _ => True) (endsInTurn companyId projectId) (World.start programs rows)
      (World.start programs rows) := by
    refine Discipline.governed_start rfl fun session => ?_
    obtain ⟨α, tx, logs⟩ := assign session
    exact Discipline.wp_mono (wp_of_logs logs (.start rfl)) (fun _ sees => sees)
      fun held turns written rows progress => progress.commits
  have composed : TakesTurns companyId projectId (World.start programs rows)
      ((steps World.exec (World.start programs rows) schedule).flatMap turnsIn)
      (World.interleave programs rows schedule) := by
    refine relates_steps (fun _ => .nil) (fun first second => first.trans second) ?_ ?_ schedule
      governed
    · exact fun _ _ _ governed accepted => governed.step trivial accepted
    · exact fun _ _ _ governed accepted => step_inTurn governed accepted
  exact composed

/-- **The round robin is fair**, in any interleaving of transactions that assign, commit or abort,
if the clock goes on and every user is in the pool once. -/
theorem assignments_isFair {programs : ι → PresalesTx (List Turn)}
    (assign : ∀ session, AssignsInTurn (programs session)) {rows : PresalesDb}
    (unique : (rows.poolUsers companyId projectId).Nodup) (schedule : List (Choice ι))
    (rising : Rising (rows.queue companyId projectId) (committedTurns companyId projectId
      (steps World.exec (World.start programs rows) schedule))) :
    IsFair (rows.poolUsers companyId projectId)
      ((committedTurns companyId projectId
        (steps World.exec (World.start programs rows) schedule)).map (·.userId)) :=
  (committed_inTurn assign rows schedule).isFair unique rising

end Worlds

/-! ### A wave of claims -/

def claimOne (now : Nat) : PresalesTx (List Turn) :=
  autoAssign { now } 1 1 >>= fun user => Tx.done [] >>= fun turns =>
    pure (turnOf { now } 1 1 user ++ turns)

theorem claimOne_assigns (now : Nat) : AssignsInTurn (claimOne now) :=
  ⟨Unit, autoAssign { now } 1 1 >>= fun _ => .done (), .assigned _ _ _ fun _ => .done ()⟩

def smallPool : PresalesDb where
  pools := (Table.empty.create
    { companyId := 1, projectId := 1, userId := 7, lastAssignedAt := some 5 }).create
    { companyId := 1, projectId := 1, userId := 8, sortOrder := 1 }

/-- Four claims, of which the second is aborted after it has claimed, while the third waits. -/
def wave : List (Choice Nat) :=
  List.replicate 3 (.advance 0) ++ List.replicate 2 (.advance 1) ++ List.replicate 2 (.advance 0) ++
    List.replicate 3 (.advance 1) ++ List.replicate 2 (.advance 2) ++ [.abort 1] ++
    List.replicate 4 (.advance 2) ++ List.replicate 5 (.advance 3)

theorem wave_isFair : IsFair [7, 8] [8, 7, 8] := by
  have turns : committedTurns 1 1 (steps World.exec
      (World.start (fun session => claimOne (10 + session)) smallPool) wave) =
    [⟨1, 1, 8, 10⟩, ⟨1, 1, 7, 12⟩, ⟨1, 1, 8, 13⟩] := rfl
  have rising : Rising (smallPool.queue 1 1) [⟨1, 1, 8, 10⟩, ⟨1, 1, 7, 12⟩, ⟨1, 1, 8, 13⟩] := by
    refine ⟨by decide, fun id member at_ waits stamped => ?_⟩
    rcases Table.find?_create_eq_some.mp (queue_eq_some.mp waits).1 with ⟨_, rfl⟩ | early
    · cases stamped
    · rcases Table.find?_create_eq_some.mp early with ⟨_, rfl⟩ | earlier
      · cases stamped
        decide
      · cases earlier
  have unique : (smallPool.poolUsers 1 1).Nodup := by decide
  have fair := assignments_isFair (fun session => claimOne_assigns (10 + session)) unique wave
    (turns ▸ rising)
  rw [turns] at fair
  exact fair

end OpenEstate.Presales
