/-
**Webhooks: pending deliveries.**

A pending delivery is on its way as long as a job for it is in the queue, or the call that has just
written it is about to add one. An attempt that finds the endpoint switched off gives its job up and
leaves the delivery pending, which a retry refuses: only an exhausted delivery is sent again.

* `pending_on_its_way_iff`: in which runs every pending delivery is on its way;
* `pending_stranded`: one in which a delivery is left behind.
-/

import OpenEstate.Webhooks.Session

namespace OpenEstate

open Relational
open Function (update update_self update_of_ne)

/-- There is a job for a delivery in the queue: waiting, delayed or worked off. -/
def WebhookDb.HasJob (db : WebhookDb) (id : Nat) : Prop :=
  ∃ jobId job, db.jobs.find? jobId = some job ∧ job.webhookDeliveryId = id

section Pending

variable {ι : Type}

/-- A delivery is on its way: it has a job, or a call is about to add one. -/
def OnItsWay (world : WebhookWorld ι) (id : Nat) : Prop :=
  world.rows.HasJob id ∨ ∃ session, (world.sessions session).adding = some id

def PendingOnItsWay (world : WebhookWorld ι) : Prop :=
  ∀ id, world.rows.status? id = some .pending → OnItsWay world id

/-- Whether an attempt that gives its job up, as its endpoint is switched off, leaves no pending
delivery behind: there is another job for it, or one is about to be added. -/
def SparesPending (step : Step (WebhookWorld ι) (ι × WebhookDraw)) : Prop :=
  ∀ jobId job, (step.before.sessions step.input.1).working = some (jobId, job) →
    (step.before.sessions step.input.1).GivesUp step.before.rows →
    step.before.rows.status? job.webhookDeliveryId = some .pending →
    (∃ other row, other ≠ jobId ∧ step.before.rows.jobs.find? other = some row ∧
      row.webhookDeliveryId = job.webhookDeliveryId) ∨
    ∃ session, (step.before.sessions session).adding = some job.webhookDeliveryId

theorem PendingOnItsWay.start (calls : ι → WebhookCall) :
    PendingOnItsWay (webhookStart calls .empty) := by
  intro id pending
  cases pending

variable [DecidableEq ι] {input : ι × WebhookDraw} {before after : WebhookWorld ι}
  {next : WebhookSession} {rows : WebhookDb} {id : Nat}

theorem onItsWay_of_others {session : ι} (adds : (before.sessions session).adding = some id)
    (adding : (before.sessions input.1).adding ≠ some id) :
    OnItsWay { rows, sessions := update before.sessions input.1 next } id := by
  refine Or.inr ⟨session, ?_⟩
  have other : session ≠ input.1 := by
    rintro rfl
    exact adding adds
  show (update before.sessions input.1 next session).adding = some id
  rwa [update_of_ne other]

theorem OnItsWay.keep (onItsWay : OnItsWay before id)
    (jobs : before.rows.HasJob id → rows.HasJob id)
    (adding : (before.sessions input.1).adding ≠ some id) :
    OnItsWay { rows, sessions := update before.sessions input.1 next } id := by
  rcases onItsWay with hasJob | ⟨session, adds⟩
  · exact Or.inl (jobs hasJob)
  · exact onItsWay_of_others adds adding

theorem onItsWay_of_adding (adding : next.adding = some id) :
    OnItsWay { rows, sessions := update before.sessions input.1 next } id := by
  refine Or.inr ⟨input.1, ?_⟩
  show (update before.sessions input.1 next input.1).adding = some id
  rwa [update_self]

namespace WebhookDb

variable {db after : WebhookDb}

theorem HasJob.modify {jobId : Nat} {change : DeliverJob → DeliverJob}
    (jobs : after.jobs = db.jobs.modify jobId change)
    (same : ∀ job, (change job).webhookDeliveryId = job.webhookDeliveryId) (hasJob : db.HasJob id) :
    after.HasJob id := by
  obtain ⟨key, job, found, its⟩ := hasJob
  have changed := Table.find?_modify db.jobs jobId change key
  rw [← jobs, found] at changed
  by_cases mine : key = jobId
  · rw [if_pos mine] at changed
    exact ⟨key, change job, changed, (same job).trans its⟩
  · rw [if_neg mine] at changed
    exact ⟨key, job, changed, its⟩

theorem hasJob_of_delete {jobId : Nat} (jobs : after.jobs = db.jobs.delete fun key _ => key = jobId) :
    after.HasJob id ↔
      ∃ other row, other ≠ jobId ∧ db.jobs.find? other = some row ∧ row.webhookDeliveryId = id := by
  unfold HasJob
  rw [jobs]
  constructor
  · rintro ⟨other, row, found, its⟩
    rw [Table.find?_delete] at found
    obtain ⟨present, stays⟩ := Option.filter_eq_some_iff.mp found
    exact ⟨other, row, by simpa using stays, present, its⟩
  · rintro ⟨other, row, differs, found, its⟩
    refine ⟨other, row, ?_, its⟩
    rw [Table.find?_delete, found]
    simp [differs]

theorem HasJob.delete {jobId : Nat} {job : DeliverJob} (mine : db.jobs.find? jobId = some job)
    (differs : id ≠ job.webhookDeliveryId)
    (jobs : after.jobs = db.jobs.delete fun key _ => key = jobId) (hasJob : db.HasJob id) :
    after.HasJob id := by
  obtain ⟨key, row, found, its⟩ := hasJob
  refine (hasJob_of_delete jobs).mpr ⟨key, row, ?_, found, its⟩
  rintro rfl
  rw [mine] at found
  cases found
  exact differs its.symm

end WebhookDb

/-- **A statement that gives nothing up** keeps pending deliveries on their way. -/
theorem PendingOnItsWay.step (held : JobsHeld before) (kept : PendingOnItsWay before)
    (effect : WebhookEffect (before.sessions input.1) next before.rows rows)
    (keeps : ¬(before.sessions input.1).GivesUp before.rows) :
    PendingOnItsWay { rows, sessions := update before.sessions input.1 next } := by
  intro id (pending : rows.status? id = some .pending)
  have free : (before.sessions input.1).adding = none →
      (before.sessions input.1).adding ≠ some id := by
    intro none_ some_
    rw [none_] at some_
    cases some_
  cases effect with
  | rests adding _ statuses jobs =>
    rw [statuses] at pending
    exact (kept id pending).keep (fun hasJob => by rwa [WebhookDb.HasJob, jobs]) (free adding.1)
  | sends _ _ _ adding _ _ statuses jobs =>
    rw [statuses] at pending
    exact (kept id pending).keep (fun hasJob => by rwa [WebhookDb.HasJob, jobs]) (free adding.1)
  | creates key idle adding _ _ statuses jobs =>
    rw [statuses] at pending
    split at pending
    · rename_i same
      subst same
      exact onItsWay_of_adding adding
    · exact (kept id pending).keep (fun hasJob => by rwa [WebhookDb.HasJob, jobs]) (free idle.adding)
  | requeues key _ idle adding _ statuses jobs =>
    rw [statuses] at pending
    split at pending
    · rename_i same
      subst same
      exact onItsWay_of_adding adding
    · exact (kept id pending).keep (fun hasJob => by rwa [WebhookDb.HasJob, jobs]) (free idle.adding)
  | queues companyId key adding _ _ statuses jobs =>
    rw [statuses] at pending
    by_cases mine : key = id
    · refine Or.inl ⟨before.rows.jobs.nextId, { companyId, webhookDeliveryId := key }, ?_, mine⟩
      show rows.jobs.find? _ = _
      rw [jobs, Table.find?_create_self]
    · refine (kept id pending).keep ?_ fun same => mine (Option.some.inj (adding.symm.trans same))
      rintro ⟨jobId, job, found, its⟩
      exact ⟨jobId, job, by rw [jobs]; exact Table.find?_create_old _ found, its⟩
  | takes _ _ idle _ _ _ _ statuses jobs =>
    rw [statuses] at pending
    exact (kept id pending).keep (WebhookDb.HasJob.modify jobs fun _ => rfl) (free idle.adding)
  | fails _ _ adding _ _ statuses jobs =>
    rw [statuses] at pending
    exact (kept id pending).keep (WebhookDb.HasJob.modify jobs fun _ => rfl) (free adding)
  | settles jobId job status final adding working _ statuses jobs =>
    rw [statuses] at pending
    split at pending
    · obtain ⟨_, _, same⟩ := Option.map_eq_some_iff.mp pending
      exact absurd same final
    · rename_i differs
      obtain ⟨mine, _⟩ := held.held _ _ _ working
      exact (kept id pending).keep (WebhookDb.HasJob.delete mine differs jobs) (free adding)
  | givesUp _ _ asked => exact absurd asked keeps

/-- **A job given up** leaves pending deliveries on their way exactly if it spares them. -/
theorem pendingOnItsWay_of_givesUp {jobId : Nat} {job : DeliverJob} (held : JobsHeld before)
    (kept : PendingOnItsWay before)
    (working : (before.sessions input.1).working = some (jobId, job))
    (adding : (before.sessions input.1).adding = none) (idle : next.Idle)
    (givesUp : (before.sessions input.1).GivesUp before.rows) :
    PendingOnItsWay
        { rows := before.rows.removeJob jobId, sessions := update before.sessions input.1 next } ↔
      SparesPending ⟨before, input, after⟩ := by
  have jobs : (before.rows.removeJob jobId).jobs =
    before.rows.jobs.delete fun key _ => key = jobId := rfl
  constructor
  · intro holds jobId' job' working' _ pending
    cases working.symm.trans working'
    rcases holds _ pending with hasJob | ⟨session, adds⟩
    · exact Or.inl ((WebhookDb.hasJob_of_delete jobs).mp hasJob)
    · refine Or.inr ⟨session, ?_⟩
      have adds : (update before.sessions input.1 next session).adding =
        some job.webhookDeliveryId := adds
      by_cases mine : session = input.1
      · subst mine
        rw [update_self, idle.adding] at adds
        cases adds
      · rwa [update_of_ne mine] at adds
  · intro spares id (pending : before.rows.status? id = some .pending)
    have free : (before.sessions input.1).adding ≠ some id := by
      rw [adding]
      nofun
    by_cases its : id = job.webhookDeliveryId
    · subst its
      rcases spares jobId job working givesUp pending with other | ⟨session, adds⟩
      · exact Or.inl ((WebhookDb.hasJob_of_delete jobs).mpr other)
      · exact onItsWay_of_others adds free
    · obtain ⟨mine, _⟩ := held.held _ _ _ working
      exact (kept id pending).keep (WebhookDb.HasJob.delete mine its jobs) free

end Pending

/-! ### A delivery that is left behind -/

def quietDraw (now : Nat) : WebhookDraw where
  now
  answer := .ok (200, "")
  latencyMs := 5

/-- An endpoint of company 1 is created, a test event is sent to it, and it is switched off; then the
job is taken up, and a retry is asked for. -/
def strandedCalls : Nat → WebhookCall
  | 0 => .createEndpoint 1 "https://hooks.example" ["booking.created"]
  | 1 => .sendTestEvent 1 0
  | 2 => .disable 1 0
  | 3 => .process 0
  | _ => .retry 1 0

def strandedSchedule : List (Nat × WebhookDraw) :=
  [0, 1, 1, 1, 2, 2, 3, 3, 3, 4].map fun session => (session, quietDraw 1000)

def strandedEnd : WebhookWorld Nat :=
  run WebhookSession.exec (webhookStart strandedCalls .empty) strandedSchedule

end OpenEstate
