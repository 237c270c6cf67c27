/-
**Webhooks: delivered once.**

What may still send a delivery is a job for it, or a call that is about to add one. As long as a
delivery is made pending again only while it is exhausted, it has at most one of these, and only
while it is pending: once it has been delivered nothing is left that would send it. A retry decides
from a status it has read before, though: of two retries that overlap, the second one takes a
delivery up that has been delivered in between.

* `OneHolder` is what is kept, `OneHolder.step` that it is;
* `delivered_once`: in runs that send only exhausted deliveries again, a delivered one stays so;
* `delivered_again`: two retries that overlap.
-/

import OpenEstate.Webhooks.Session

namespace OpenEstate

open Relational
open Function (update update_self update_of_ne)

/-- The queue of a company at rest: every job is the only one of a pending delivery. -/
structure WebhookDb.QueueInOrder (db : WebhookDb) : Prop where
  pending : ∀ jobId job, db.jobs.find? jobId = some job →
    db.status? job.webhookDeliveryId = some .pending
  alone : ∀ first second job row, db.jobs.find? first = some job →
    db.jobs.find? second = some row → job.webhookDeliveryId = row.webhookDeliveryId →
    first = second

def NoNewJobs (before after : Table DeliverJob) : Prop :=
  ∀ jobId job, after.find? jobId = some job →
    ∃ row, before.find? jobId = some row ∧ row.webhookDeliveryId = job.webhookDeliveryId

namespace NoNewJobs

variable {before after : Table DeliverJob}

theorem of_eq (same : after = before) : NoNewJobs before after :=
  fun _ job found => ⟨job, same ▸ found, rfl⟩

theorem of_modify {id : Nat} {change : DeliverJob → DeliverJob}
    (changed : after = before.modify id change)
    (keeps : ∀ job, (change job).webhookDeliveryId = job.webhookDeliveryId) :
    NoNewJobs before after := by
  subst changed
  intro jobId job found
  rcases Table.find?_modify_eq_some.mp found with ⟨rfl, row, present, rfl⟩ | ⟨_, present⟩
  · exact ⟨row, present, (keeps row).symm⟩
  · exact ⟨job, present, rfl⟩

theorem of_delete {drop : Nat → DeliverJob → Bool} (changed : after = before.delete drop) :
    NoNewJobs before after := by
  subst changed
  intro jobId job found
  rw [Table.find?_delete] at found
  exact ⟨job, (Option.filter_eq_some_iff.mp found).1, rfl⟩

end NoNewJobs

section Delivered

variable {ι : Type}

/-- What may still send a delivery: a job for it, or a call that is about to add one. -/
def Holds (world : WebhookWorld ι) (id : Nat) : Nat ⊕ ι → Prop
  | .inl jobId => ∃ job, world.rows.jobs.find? jobId = some job ∧ job.webhookDeliveryId = id
  | .inr session => (world.sessions session).adding = some id

structure OneHolder (world : WebhookWorld ι) : Prop extends JobsHeld world where
  pending : ∀ id holder, Holds world id holder → world.rows.status? id = some .pending
  single : ∀ id first second, Holds world id first → Holds world id second → first = second

/-- Whether a statement that makes a delivery pending again finds it exhausted. -/
def RequeuesExhausted (step : Step (WebhookWorld ι) (ι × WebhookDraw)) : Prop :=
  ∀ id ∈ (step.before.sessions step.input.1).requeuing,
    step.before.rows.status? id = some .exhausted

instance (step : Step (WebhookWorld ι) (ι × WebhookDraw)) : Decidable (RequeuesExhausted step) :=
  inferInstanceAs (Decidable (∀ id ∈ (step.before.sessions step.input.1).requeuing,
    step.before.rows.status? id = some .exhausted))

theorem OneHolder.start (calls : ι → WebhookCall) {rows : WebhookDb} (inOrder : rows.QueueInOrder) :
    OneHolder (webhookStart calls rows) := by
  refine ⟨.start calls rows, ?_, ?_⟩
  · rintro id (jobId | session) holds
    · obtain ⟨job, found, rfl⟩ := holds
      exact inOrder.pending jobId job found
    · cases holds
  · rintro id (first | first) (second | second) first_ second_
    · obtain ⟨job, found, its⟩ := first_
      obtain ⟨row, present, same⟩ := second_
      rw [inOrder.alone first second job row found present (its.trans same.symm)]
    · cases second_
    · cases first_
    · cases first_

variable [DecidableEq ι] {input : ι × WebhookDraw} {before after : WebhookWorld ι}
  {next : WebhookSession} {rows : WebhookDb} {id : Nat} {holder : Nat ⊕ ι}

/-- What holds a delivery after a statement has held it before, if the job was there, or is the call
that has moved. -/
theorem holds_of_next (jobs : ∀ jobId job, rows.jobs.find? jobId = some job → holder = .inl jobId →
      ∃ row, before.rows.jobs.find? jobId = some row ∧
        row.webhookDeliveryId = job.webhookDeliveryId)
    (holds : Holds { rows, sessions := update before.sessions input.1 next } id holder) :
    holder = .inr input.1 ∧ next.adding = some id ∨ holder ≠ .inr input.1 ∧ Holds before id holder := by
  rcases holder with jobId | session
  · obtain ⟨job, found, its⟩ := holds
    obtain ⟨row, present, same⟩ := jobs jobId job found rfl
    exact Or.inr ⟨nofun, row, present, same.trans its⟩
  · have adds : (update before.sessions input.1 next session).adding = some id := holds
    by_cases mine : session = input.1
    · subst mine
      rw [update_self] at adds
      exact Or.inl ⟨rfl, adds⟩
    · rw [update_of_ne mine] at adds
      exact Or.inr ⟨fun same => mine (Sum.inr.inj same), adds⟩

theorem holds_of_idle (adding : next.adding = none) (jobs : NoNewJobs before.rows.jobs rows.jobs)
    (holds : Holds { rows, sessions := update before.sessions input.1 next } id holder) :
    Holds before id holder := by
  rcases holds_of_next (fun jobId job found _ => jobs jobId job found) holds with ⟨_, adds⟩ | ⟨_, held⟩
  · rw [adding] at adds
    cases adds
  · exact held

omit [DecidableEq ι] in
theorem OneHolder.of_kept (kept : OneHolder before) (held : JobsHeld after)
    (holds : ∀ id holder, Holds after id holder →
      Holds before id holder ∧ after.rows.status? id = before.rows.status? id) : OneHolder after := by
  refine ⟨held, fun id holder now => ?_, fun id first second first_ second_ => ?_⟩
  · obtain ⟨then_, same⟩ := holds id holder now
    exact same.trans (kept.pending id holder then_)
  · exact kept.single id first second (holds id first first_).1 (holds id second second_).1

omit [DecidableEq ι] in
theorem OneHolder.of_held (kept : OneHolder before) (held : JobsHeld after) {key : Nat}
    {holds_ : Nat ⊕ ι} (pending : after.rows.status? key = some .pending)
    (statuses : ∀ other, other ≠ key → after.rows.status? other = before.rows.status? other)
    (holds : ∀ id holder, Holds after id holder →
      holder = holds_ ∧ id = key ∨ id ≠ key ∧ Holds before id holder) : OneHolder after := by
  refine ⟨held, fun id holder now => ?_, fun id first second first_ second_ => ?_⟩
  · rcases holds id holder now with ⟨_, rfl⟩ | ⟨differs, then_⟩
    · exact pending
    · exact (statuses id differs).trans (kept.pending id holder then_)
  · rcases holds id first first_ with ⟨rfl, rfl⟩ | ⟨differs, before_⟩
    · rcases holds _ second second_ with ⟨rfl, _⟩ | ⟨differs, _⟩
      · rfl
      · exact absurd rfl differs
    · rcases holds id second second_ with ⟨_, same⟩ | ⟨_, also⟩
      · exact absurd same differs
      · exact kept.single id first second before_ also

theorem OneHolder.of_opened (kept : OneHolder before) {key : Nat}
    (held : JobsHeld { rows, sessions := update before.sessions input.1 next })
    (adding : next.adding = some key) (closed : before.rows.status? key ≠ some .pending)
    (opened : rows.status? key = some .pending)
    (statuses : ∀ other, other ≠ key → rows.status? other = before.rows.status? other)
    (jobs : rows.jobs = before.rows.jobs) :
    OneHolder { rows, sessions := update before.sessions input.1 next } := by
  have holds : ∀ id holder, Holds { rows, sessions := update before.sessions input.1 next } id holder →
      holder = .inr input.1 ∧ id = key ∨ id ≠ key ∧ Holds before id holder := by
    intro id holder now
    rcases holds_of_next (fun jobId job found _ => NoNewJobs.of_eq jobs jobId job found) now with
      ⟨mine, adds⟩ | ⟨_, then_⟩
    · rw [adding] at adds
      exact Or.inl ⟨mine, (Option.some.inj adds).symm⟩
    · refine Or.inr ⟨?_, then_⟩
      rintro rfl
      exact closed (kept.pending _ _ then_)
  exact kept.of_held held opened statuses holds

theorem OneHolder.of_queued (kept : OneHolder before) {companyId key : Nat}
    (held : JobsHeld { rows, sessions := update before.sessions input.1 next })
    (adding : (before.sessions input.1).adding = some key) (idle : next.adding = none)
    (statuses : ∀ id, rows.status? id = before.rows.status? id)
    (jobs : rows.jobs = before.rows.jobs.create { companyId, webhookDeliveryId := key }) :
    OneHolder { rows, sessions := update before.sessions input.1 next } := by
  have mine : Holds before key (.inr input.1) := adding
  have holds : ∀ id holder, Holds { rows, sessions := update before.sessions input.1 next } id holder →
      holder = .inl before.rows.jobs.nextId ∧ id = key ∨ id ≠ key ∧ Holds before id holder := by
    intro id holder now
    by_cases new : holder = .inl before.rows.jobs.nextId
    · subst new
      obtain ⟨job, found, its⟩ := now
      have found : rows.jobs.find? before.rows.jobs.nextId = some job := found
      rw [jobs, Table.find?_create_self] at found
      cases found
      exact Or.inl ⟨rfl, its.symm⟩
    · have old : ∀ jobId job, rows.jobs.find? jobId = some job → holder = .inl jobId →
          ∃ row, before.rows.jobs.find? jobId = some row ∧
            row.webhookDeliveryId = job.webhookDeliveryId := by
        rintro jobId job found rfl
        rw [jobs, Table.find?_create, if_neg fun same => new (congrArg Sum.inl same)] at found
        exact ⟨job, found, rfl⟩
      rcases holds_of_next old now with ⟨_, adds⟩ | ⟨other, then_⟩
      · rw [idle] at adds
        cases adds
      · refine Or.inr ⟨?_, then_⟩
        rintro rfl
        exact other (kept.single _ _ _ then_ mine)
  exact kept.of_held held ((statuses key).trans (kept.pending _ _ mine)) (fun id _ => statuses id) holds

theorem OneHolder.step (kept : OneHolder before)
    (accepted : WebhookSession.exec input before = .ok after)
    (meets : RequeuesExhausted ⟨before, input, after⟩) : OneHolder after := by
  have held := kept.toJobsHeld.step accepted
  obtain ⟨next, rows, moved, rfl⟩ := Shared.exec_eq_ok.mp accepted
  cases WebhookSession.move_cases moved with
  | rests adding _ statuses jobs =>
    exact kept.of_kept held fun id _ now => ⟨holds_of_idle adding.2 (.of_eq jobs) now, statuses id⟩
  | sends _ _ _ adding _ _ statuses jobs =>
    exact kept.of_kept held fun id _ now => ⟨holds_of_idle adding.2 (.of_eq jobs) now, statuses id⟩
  | creates key _ adding _ fresh statuses jobs =>
    refine kept.of_opened held adding (by rw [fresh]; nofun) ?_ ?_ jobs
    · rw [statuses, if_pos rfl]
    · intro other differs
      rw [statuses, if_neg differs]
  | requeues key asked _ adding _ statuses jobs =>
    have exhausted : before.rows.status? key = some .exhausted := meets key asked
    refine kept.of_opened held adding (by rw [exhausted]; nofun) ?_ ?_ jobs
    · rw [statuses, if_pos rfl, exhausted]
      rfl
    · intro other differs
      rw [statuses, if_neg differs]
  | queues companyId key adding _ idle statuses jobs =>
    exact kept.of_queued held adding idle.adding statuses jobs
  | takes jobId _ _ adding _ _ _ statuses jobs =>
    exact kept.of_kept held fun id _ now =>
      ⟨holds_of_idle adding (.of_modify jobs fun _ => rfl) now, statuses id⟩
  | fails jobId _ _ _ idle statuses jobs =>
    exact kept.of_kept held fun id _ now =>
      ⟨holds_of_idle idle.adding (.of_modify jobs fun _ => rfl) now, statuses id⟩
  | settles jobId job status _ _ working idle statuses jobs =>
    refine kept.of_kept held fun id holder now => ?_
    have then_ := holds_of_idle idle.adding (.of_delete jobs) now
    refine ⟨then_, ?_⟩
    -- the job that is gone was the only thing that held its delivery
    have mine : Holds before job.webhookDeliveryId (.inl jobId) :=
      ⟨job, (kept.held _ _ _ working).1, rfl⟩
    have differs : id ≠ job.webhookDeliveryId := by
      rintro rfl
      obtain rfl := kept.single _ _ _ then_ mine
      obtain ⟨row, found, _⟩ := now
      have found : rows.jobs.find? jobId = some row := found
      rw [jobs, Table.find?_delete] at found
      simpa using (Option.filter_eq_some_iff.mp found).2
    exact (statuses id).trans (if_neg differs)
  | givesUp jobId _ _ _ _ idle statuses jobs =>
    exact kept.of_kept held fun id _ now =>
      ⟨holds_of_idle idle.adding (.of_delete jobs) now, statuses id⟩

/-- **What has been delivered is left alone** by a statement that makes only exhausted deliveries
pending again. -/
theorem delivered_step (kept : OneHolder before)
    (accepted : WebhookSession.exec input before = .ok after)
    (meets : RequeuesExhausted ⟨before, input, after⟩)
    (delivered : before.rows.status? id = some .success) :
    after.rows.status? id = some .success ∧
      after.rows.requestsFor id = before.rows.requestsFor id := by
  obtain ⟨next, rows, moved, rfl⟩ := Shared.exec_eq_ok.mp accepted
  have unsent : rows.requests = before.rows.requests →
      rows.requestsFor id = before.rows.requestsFor id :=
    fun requests => by rw [WebhookDb.requestsFor, requests, WebhookDb.requestsFor]
  -- the job that is worked off is for another delivery
  have differs : ∀ jobId job, (before.sessions input.1).working = some (jobId, job) →
      job.webhookDeliveryId ≠ id := by
    rintro jobId job working rfl
    have pending := kept.pending _ (.inl jobId) ⟨job, (kept.held _ _ _ working).1, rfl⟩
    rw [delivered] at pending
    cases pending
  cases WebhookSession.move_cases moved with
  | rests _ _ statuses _ requests => exact ⟨(statuses id).trans delivered, unsent requests⟩
  | sends jobId job request _ working _ statuses _ mine requests =>
    refine ⟨(statuses id).trans delivered, ?_⟩
    show rows.requestsFor id = before.rows.requestsFor id
    rw [WebhookDb.requestsFor, requests, List.filter_append, WebhookDb.requestsFor]
    simp [mine, differs jobId job working]
  | creates key _ _ _ fresh statuses _ requests =>
    have other : id ≠ key := by
      rintro rfl
      rw [fresh] at delivered
      cases delivered
    exact ⟨((statuses id).trans (if_neg other)).trans delivered, unsent requests⟩
  | requeues key asked _ _ _ statuses _ requests =>
    have other : id ≠ key := by
      rintro rfl
      have exhausted : before.rows.status? id = some .exhausted := meets id asked
      rw [delivered] at exhausted
      cases exhausted
    exact ⟨((statuses id).trans (if_neg other)).trans delivered, unsent requests⟩
  | queues _ _ _ _ _ statuses _ requests =>
    exact ⟨(statuses id).trans delivered, unsent requests⟩
  | takes _ _ _ _ _ _ _ statuses _ requests =>
    exact ⟨(statuses id).trans delivered, unsent requests⟩
  | fails _ _ _ _ _ statuses _ requests =>
    exact ⟨(statuses id).trans delivered, unsent requests⟩
  | settles jobId job _ _ _ working _ statuses _ requests =>
    have other : id ≠ job.webhookDeliveryId := (differs jobId job working).symm
    exact ⟨((statuses id).trans (if_neg other)).trans delivered, unsent requests⟩
  | givesUp _ _ _ _ _ _ statuses _ requests =>
    exact ⟨(statuses id).trans delivered, unsent requests⟩

/-- **Delivered once.** In a run that makes only exhausted deliveries pending again, a delivery that
has been delivered stays so, and no further request is sent for it. -/
theorem delivered_once (calls : ι → WebhookCall) {rows : WebhookDb} (inOrder : rows.QueueInOrder)
    {schedule earlier : List (ι × WebhookDraw)}
    (meets : ∀ step ∈ steps WebhookSession.exec (webhookStart calls rows) schedule,
      RequeuesExhausted step)
    (isPrefix : earlier <+: schedule) (id : Nat)
    (delivered : (run WebhookSession.exec (webhookStart calls rows) earlier).rows.status? id =
      some .success) :
    (run WebhookSession.exec (webhookStart calls rows) schedule).rows.status? id = some .success ∧
      (run WebhookSession.exec (webhookStart calls rows) schedule).rows.requestsFor id =
        (run WebhookSession.exec (webhookStart calls rows) earlier).rows.requestsFor id := by
  have always := states_invariant OneHolder
    (fun input before after kept accepted met => OneHolder.step kept accepted met) meets
    (.start calls inOrder)
  refine run_of_isPrefix (fun world : WebhookWorld ι => world.rows.status? id = some .success ∧
    world.rows.requestsFor id =
      (run WebhookSession.exec (webhookStart calls rows) earlier).rows.requestsFor id)
    ?_ isPrefix ⟨delivered, rfl⟩
  rintro step member ⟨success, same⟩
  have kept := always _ (before_mem_states member)
  obtain ⟨still, unsent⟩ := delivered_step kept (mem_steps member).2 (meets step member) success
  exact ⟨still, unsent.trans same⟩

end Delivered

/-! ### Overlapping retries -/

def answering (status : Nat) : WebhookDraw where
  now := 2000
  answer := .ok (status, "")
  latencyMs := 5

def exhaustedCompany : WebhookDb where
  endpoints := Table.empty.create
    { companyId := 1, url := "https://hooks.example", eventTypes := ["booking.created"] }
  deliveries := Table.empty.create
    { companyId := 1, webhookEndpointId := 0, eventType := "booking.created"
      payload := .event "\x7b\x7d", status := .exhausted, attemptCount := 6, createdAt := 1000
      completedAt := some 1900 }
  attempts := .empty
  jobs := .empty
  requests := []

/-- Two requests to send the delivery again, and the attempts at the jobs they add. -/
def retryCalls : Nat → WebhookCall
  | 0 | 1 => .retry 1 0
  | session => .process (session - 2)

/-- Both requests read the delivery; the first one adds its job, which is worked off. -/
def firstRetry : List (Nat × WebhookDraw) :=
  [0, 1, 0, 0, 2, 2, 2, 2, 2, 2, 2, 2].map fun session => (session, answering 200)

def secondRetry : List (Nat × WebhookDraw) :=
  [1, 1, 3, 3, 3, 3].map fun session => (session, answering 200)

def retriedWorld (schedule : List (Nat × WebhookDraw)) : WebhookWorld Nat :=
  run WebhookSession.exec (webhookStart retryCalls exhaustedCompany) schedule

theorem exhaustedCompany_queueInOrder : exhaustedCompany.QueueInOrder :=
  ⟨nofun, nofun⟩

/-- **A delivered webhook is sent again** when two retries of it overlap. -/
theorem delivered_again :
    (retriedWorld firstRetry).rows.status? 0 = some .success ∧
      ((retriedWorld firstRetry).rows.requestsFor 0).length = 1 ∧
      (retriedWorld (firstRetry ++ secondRetry)).rows.status? 0 = some .pending ∧
      ((retriedWorld (firstRetry ++ secondRetry)).rows.requestsFor 0).length = 2 := by
  decide

/-- The second request alone finds the delivery delivered, and is refused. -/
def retriedInTurn : List (Nat × WebhookDraw) :=
  [0, 0, 0, 2, 2, 2, 2, 2, 2, 2, 2, 1].map fun session => (session, answering 200)

theorem retriedInTurn_delivered_once :
    (retriedWorld retriedInTurn).rows.status? 0 = some .success ∧
      (retriedWorld retriedInTurn).rows.requestsFor 0 =
        (retriedWorld (retriedInTurn.take 11)).rows.requestsFor 0 :=
  delivered_once retryCalls exhaustedCompany_queueInOrder (by decide) (List.take_prefix 11 _) 0
    (by decide)

end OpenEstate
