/-
**Webhooks: the log of attempts.**

An attempt is recorded under the number its job gives it, one more than the attempts the job has
made, and then counted on the delivery. The log outlives the job: a retry adds a new one, which
numbers its attempts from 1 again.

* `AttemptEffect` is what a statement is to the log, to the counts and to the attempts of jobs;
* `attemptLog_proper_iff`: in which runs the log of every delivery is numbered 1, 2, ... up to its
  count of attempts;
* `attemptLog_restarted`: one in which it is not.
-/

import OpenEstate.Webhooks.Delivered
import OpenEstate.Webhooks.Pending

namespace OpenEstate

open Relational
open Function (update update_self update_of_ne)

namespace WebhookDb

/-- The numbers of the attempts that are recorded for a delivery, in the order of their creation. -/
def attemptNumbers (db : WebhookDb) (id : Nat) : List Nat :=
  (db.attempts.select fun _ attempt => attempt.webhookDeliveryId = id).map fun row =>
    row.2.attemptNumber

/-- The attempts counted on a delivery, none if there is no such delivery. -/
def attemptCount (db : WebhookDb) (id : Nat) : Nat :=
  ((db.deliveries.find? id).map WebhookDelivery.attemptCount).getD 0

end WebhookDb

namespace WebhookSession

def recording : WebhookSession → Option (Nat × DeliverJob)
  | .processing jobId job (.logging ..) => some (jobId, job)
  | _ => none

def counting : WebhookSession → Option Nat
  | .processing _ job (.counting ..) => some job.webhookDeliveryId
  | _ => none

def found : WebhookSession → Option Nat
  | .processing _ _ .loading => none
  | .processing _ job _ => some job.webhookDeliveryId
  | _ => none

def recorded : WebhookSession → Option Nat
  | .processing jobId _ (.counting ..) => some jobId
  | .processing jobId _ (.resetting ..) => some jobId
  | .processing jobId _ .succeeding => some jobId
  | .processing jobId _ (.incrementing ..) => some jobId
  | .processing jobId _ .exhausting => some jobId
  | _ => none

end WebhookSession

section Log

variable {ι : Type}

/-- **The log of attempts is in order**: the attempts of a delivery are numbered 1, 2, ..., and, once
every call has counted what it has recorded, up to the count of the delivery. -/
def AttemptLogProper (world : WebhookWorld ι) : Prop :=
  ∀ id delivery, world.rows.deliveries.find? id = some delivery →
    ∃ recorded, world.rows.attemptNumbers id = List.range' 1 recorded ∧
      ((∀ session, (world.sessions session).counting ≠ some id) →
        recorded = delivery.attemptCount)

/-- Whether a step that records the first attempt of a job finds the log of its delivery empty. -/
def StartsLog (step : Step (WebhookWorld ι) (ι × WebhookDraw)) : Prop :=
  ∀ jobId job, (step.before.sessions step.input.1).recording = some (jobId, job) →
    job.attemptsMade = 0 → step.before.rows.attemptNumbers job.webhookDeliveryId = []

end Log

/-! ### What a statement does -/

namespace WebhookSession

/-- The numbers that the next statement of a call adds to the log of a delivery. -/
def records (session : WebhookSession) (id : Nat) : List Nat :=
  match session.recording with
  | some (_, job) => if job.webhookDeliveryId = id then [job.attemptsMade + 1] else []
  | none => []

/-- The attempts that the next statement of a call adds to the count of a delivery. -/
def counts (session : WebhookSession) (id : Nat) : Nat :=
  if session.counting = some id then 1 else 0

def advances (session : WebhookSession) (jobId : Nat) : Nat :=
  if session.recording.map Prod.fst = some jobId then 1 else 0

/-- The attempts of a job that are recorded, and that the job has not made before the call ends. -/
def ahead (session : WebhookSession) (jobId : Nat) : Nat :=
  if session.recorded = some jobId then 1 else 0

end WebhookSession

/-- What a statement does to the log of a delivery, to its count, and to the attempts of a job. -/
structure AttemptEffect (session next : WebhookSession) (db after : WebhookDb) : Prop where
  log : ∀ id, after.attemptNumbers id = db.attemptNumbers id ++ session.records id
  count : ∀ id, (session.counting = some id → (db.deliveries.find? id).isSome) →
    after.attemptCount id = db.attemptCount id + session.counts id
  counting : next.counting = session.recording.map fun working => working.2.webhookDeliveryId
  deliveries : ∀ id, (db.deliveries.find? id).isSome → (after.deliveries.find? id).isSome
  found : ∀ id, next.found = some id → session.found = some id ∨ (db.deliveries.find? id).isSome
  jobs : ∀ jobId job, after.jobs.find? jobId = some job →
    (db.jobs.nextId = jobId ∧ job.attemptsMade + next.ahead jobId = 0) ∨
      ∃ old, db.jobs.find? jobId = some old ∧ job.webhookDeliveryId = old.webhookDeliveryId ∧
        job.attemptsMade + next.ahead jobId =
          old.attemptsMade + session.ahead jobId + session.advances jobId

namespace WebhookDb

variable {db after : WebhookDb} {id key : Nat}

theorem attemptCount_create {delivery : WebhookDelivery} (new : delivery.attemptCount = 0) :
    ({ db with deliveries := db.deliveries.create delivery } : WebhookDb).attemptCount id =
      db.attemptCount id := by
  show (((db.deliveries.create delivery).find? id).map WebhookDelivery.attemptCount).getD 0 = _
  rw [Table.find?_create]
  split
  · rename_i same
    subst same
    rw [attemptCount, Table.find?_nextId]
    exact new
  · rfl

theorem attemptCount_updateDelivery {change : WebhookDelivery → WebhookDelivery}
    (same : ∀ delivery, (change delivery).attemptCount = delivery.attemptCount) :
    (db.updateDelivery key change).attemptCount id = db.attemptCount id := by
  show (((db.deliveries.modify key change).find? id).map WebhookDelivery.attemptCount).getD 0 = _
  rw [Table.map_find?_modify same]
  rfl

theorem attemptCount_attempted (present : key = id → (db.deliveries.find? id).isSome) :
    (db.updateDelivery key WebhookDelivery.attempted).attemptCount id =
      db.attemptCount id + if key = id then 1 else 0 := by
  show (((db.deliveries.modify key _).find? id).map WebhookDelivery.attemptCount).getD 0 = _
  rw [attemptCount]
  by_cases mine : key = id
  · subst mine
    obtain ⟨delivery, found⟩ := Option.isSome_iff_exists.mp (present rfl)
    rw [Table.find?_modify_self, found, if_pos rfl]
    rfl
  · rw [Table.find?_modify_of_ne _ _ (Ne.symm mine), if_neg mine]
    rfl

theorem isSome_create (delivery : WebhookDelivery) (present : (db.deliveries.find? id).isSome) :
    ((db.deliveries.create delivery).find? id).isSome := by
  obtain ⟨row, found⟩ := Option.isSome_iff_exists.mp present
  rw [Table.find?_create_old delivery found]
  rfl

theorem isSome_updateDelivery {change : WebhookDelivery → WebhookDelivery}
    (present : (db.deliveries.find? id).isSome) :
    ((db.updateDelivery key change).deliveries.find? id).isSome := by
  show ((db.deliveries.modify key change).find? id).isSome
  obtain ⟨row, found⟩ := Option.isSome_iff_exists.mp present
  rw [Table.find?_modify, found]
  split
  · rfl
  · rfl

end WebhookDb

section Cases

variable {draw : WebhookDraw} {session next : WebhookSession} {db after : WebhookDb} {jobId : Nat}
  {job : DeliverJob}

theorem AttemptEffect.of_rests (recording : session.recording = none)
    (counting : session.counting = none ∧ next.counting = none)
    (attempts : after.attempts = db.attempts)
    (count : ∀ id, after.attemptCount id = db.attemptCount id)
    (deliveries : ∀ id, (db.deliveries.find? id).isSome → (after.deliveries.find? id).isSome)
    (found : ∀ id, next.found = some id → session.found = some id ∨ (db.deliveries.find? id).isSome)
    (jobs : ∀ jobId job, after.jobs.find? jobId = some job →
      (db.jobs.nextId = jobId ∧ job.attemptsMade + next.ahead jobId = 0) ∨
        ∃ old, db.jobs.find? jobId = some old ∧ job.webhookDeliveryId = old.webhookDeliveryId ∧
          job.attemptsMade + next.ahead jobId = old.attemptsMade + session.ahead jobId) :
    AttemptEffect session next db after where
  log id := by
    rw [WebhookSession.records, recording, WebhookDb.attemptNumbers, attempts]
    exact (List.append_nil _).symm
  count id _ := by
    rw [WebhookSession.counts, counting.1, count]
    rfl
  counting := by
    rw [counting.2, recording]
    rfl
  deliveries
  found
  jobs jobId job present := by
    rw [WebhookSession.advances, recording]
    exact jobs jobId job present

theorem ahead_of_working (free : session.working = none) : session.ahead jobId = 0 := by
  cases session with
  | processing _ _ _ => cases free
  | _ => rfl

theorem AttemptEffect.of_free (free : session.working = none ∧ next.working = none)
    (attempts : after.attempts = db.attempts)
    (count : ∀ id, after.attemptCount id = db.attemptCount id)
    (deliveries : ∀ id, (db.deliveries.find? id).isSome → (after.deliveries.find? id).isSome)
    (jobs : after.jobs = db.jobs ∨
      ∃ companyId webhookDeliveryId,
        after.jobs = db.jobs.create { companyId, webhookDeliveryId }) :
    AttemptEffect session next db after := by
  have outside : ∀ other : WebhookSession, other.working = none →
      other.recording = none ∧ other.counting = none ∧ other.found = none := by
    intro other working
    cases other with
    | processing _ _ _ => cases working
    | _ => exact ⟨rfl, rfl, rfl⟩
  obtain ⟨recording, counting, _⟩ := outside session free.1
  obtain ⟨_, nextCounting, nextFound⟩ := outside next free.2
  refine .of_rests recording ⟨counting, nextCounting⟩ attempts count deliveries ?_ ?_
  · intro id same
    rw [nextFound] at same
    cases same
  · intro jobId job present
    rw [ahead_of_working free.1, ahead_of_working free.2]
    rcases jobs with same | ⟨companyId, webhookDeliveryId, added⟩
    · rw [same] at present
      exact Or.inr ⟨job, present, rfl, rfl⟩
    · rw [added, Table.find?_create] at present
      split at present
      · rename_i fresh
        cases present
        exact Or.inl ⟨fresh.symm, rfl⟩
      · exact Or.inr ⟨job, present, rfl, rfl⟩

theorem AttemptEffect.of_deliver {now : Nat} {remaining : RemainingDeliveries}
    (moved : WebhookDeliveryService.deliver now db remaining = (next, after)) :
    AttemptEffect (.delivering remaining) next db after := by
  cases remaining with
  | events companyId eventType payload dispatchedTo endpointIds =>
    cases endpointIds with
    | nil =>
      cases moved
      exact .of_free ⟨rfl, rfl⟩ rfl (fun _ => rfl) (fun _ => id) (.inl rfl)
    | cons endpointId rest =>
      cases moved
      exact .of_free ⟨rfl, rfl⟩ rfl (fun _ => WebhookDb.attemptCount_create rfl)
        (fun _ => WebhookDb.isSome_create _) (.inl rfl)
  | retries companyId deliveryIds result =>
    cases deliveryIds with
    | nil =>
      cases moved
      exact .of_free ⟨rfl, rfl⟩ rfl (fun _ => rfl) (fun _ => id) (.inl rfl)
    | cons deliveryId rest =>
      cases moved
      exact .of_free ⟨rfl, rfl⟩ rfl
        (fun _ => WebhookDb.attemptCount_updateDelivery fun _ => rfl)
        (fun _ => WebhookDb.isSome_updateDelivery) (.inl rfl)
  | nothing result =>
    cases moved
    exact .of_free ⟨rfl, rfl⟩ rfl (fun _ => rfl) (fun _ => id) (.inl rfl)

theorem AttemptEffect.of_start {call : WebhookCall} (moved : call.start db = some (next, after)) :
    AttemptEffect (.called call) next db after := by
  rcases WebhookCall.start_cases moved with ⟨jobId, rfl, taken⟩ | ⟨idle, endpoints, rfl⟩
  · obtain ⟨job, _, _, rfl, rfl⟩ := takeJob_eq_some taken
    refine .of_rests rfl ⟨rfl, rfl⟩ rfl (fun _ => rfl) (fun _ => id) (fun _ same => by cases same) ?_
    intro key row found
    rcases Table.find?_modify_eq_some.mp found with ⟨rfl, old, here, rfl⟩ | ⟨_, here⟩
    · exact Or.inr ⟨old, here, rfl, rfl⟩
    · exact Or.inr ⟨row, here, rfl, rfl⟩
  · exact .of_free ⟨rfl, idle.working⟩ rfl (fun _ => rfl) (fun _ => id) (.inl rfl)

variable {stage : AttemptStage}

theorem AttemptEffect.of_goes_on {later : AttemptStage}
    (recording : (WebhookSession.processing jobId job stage).recording = none)
    (counting : (WebhookSession.processing jobId job stage).counting = none ∧
      (WebhookSession.processing jobId job later).counting = none)
    (recorded : (WebhookSession.processing jobId job later).recorded =
      (WebhookSession.processing jobId job stage).recorded)
    (found : ∀ id, (WebhookSession.processing jobId job later).found = some id →
      (WebhookSession.processing jobId job stage).found = some id ∨
        (db.deliveries.find? id).isSome) (attempts : after.attempts = db.attempts)
    (deliveries : after.deliveries = db.deliveries) (jobs : after.jobs = db.jobs) :
    AttemptEffect (.processing jobId job stage) (.processing jobId job later) db after := by
  refine .of_rests recording counting attempts ?_ ?_ found ?_
  · intro id
    rw [WebhookDb.attemptCount, deliveries]
    rfl
  · intro id present
    rwa [deliveries]
  · intro key row present
    rw [jobs] at present
    refine Or.inr ⟨row, present, rfl, ?_⟩
    rw [WebhookSession.ahead, recorded]
    rfl

theorem ahead_of_ne {key : Nat} (differs : key ≠ jobId) :
    (WebhookSession.processing jobId job stage).ahead key = 0 := by
  have other : some jobId ≠ some key := fun same => differs (Option.some.inj same).symm
  unfold WebhookSession.ahead
  cases stage with
  | loading | resolving _ | sending _ _ | logging _ _ => rfl
  | _ => exact if_neg other

theorem AttemptEffect.of_ends
    (recording : (WebhookSession.processing jobId job stage).recording = none)
    (counting : (WebhookSession.processing jobId job stage).counting = none)
    (attempts : after.attempts = db.attempts)
    (count : ∀ id, after.attemptCount id = db.attemptCount id)
    (deliveries : ∀ id, (db.deliveries.find? id).isSome → (after.deliveries.find? id).isSome)
    (jobs : after.jobs = db.jobs.delete fun key _ => key = jobId) :
    AttemptEffect (.processing jobId job stage) WebhookDeliveryProcessor.done db after := by
  refine .of_rests recording ⟨counting, rfl⟩ attempts count deliveries nofun ?_
  intro key row present
  rw [jobs, Table.find?_delete] at present
  obtain ⟨here, stays⟩ := Option.filter_eq_some_iff.mp present
  have differs : key ≠ jobId := by simpa using stays
  refine Or.inr ⟨row, here, rfl, ?_⟩
  rw [ahead_of_ne differs]
  rfl

theorem AttemptEffect.of_logging {endpointId : Nat} {outcome : AttemptOutcome}
    (moved : WebhookDeliveryProcessor.process draw jobId job db (.logging endpointId outcome) =
      (next, after)) :
    AttemptEffect (.processing jobId job (.logging endpointId outcome)) next db after := by
  cases moved
  refine ⟨fun id => ?_, fun _ _ => rfl, rfl, fun _ => id, fun _ same => .inl same, ?_⟩
  · rw [WebhookDb.attemptNumbers, Table.select_create, List.map_append]
    by_cases mine : job.webhookDeliveryId = id
    · simp [WebhookDb.attemptNumbers, WebhookSession.records, WebhookSession.recording, mine]
    · simp [WebhookDb.attemptNumbers, WebhookSession.records, WebhookSession.recording, mine]
  · exact fun key row present => Or.inr ⟨row, present, rfl, rfl⟩

theorem AttemptEffect.of_counting {endpointId : Nat} {outcome : AttemptOutcome}
    (moved : WebhookDeliveryProcessor.process draw jobId job db (.counting endpointId outcome) =
      (next, after)) :
    AttemptEffect (.processing jobId job (.counting endpointId outcome)) next db after := by
  have log : ∀ id, db.attemptNumbers id = db.attemptNumbers id ++ [] :=
    fun id => (List.append_nil _).symm
  have count : ∀ id, (some job.webhookDeliveryId = some id → (db.deliveries.find? id).isSome) →
      (db.updateDelivery job.webhookDeliveryId WebhookDelivery.attempted).attemptCount id =
        db.attemptCount id + if some job.webhookDeliveryId = some id then 1 else 0 := by
    intro id present
    rw [WebhookDb.attemptCount_attempted fun same => present (congrArg some same)]
    simp only [Option.some.injEq]
  simp only [WebhookDeliveryProcessor.process] at moved
  split at moved
  · cases moved
    exact ⟨log, count, rfl, fun _ => WebhookDb.isSome_updateDelivery, fun _ same => .inl same,
      fun key row present => Or.inr ⟨row, present, rfl, rfl⟩⟩
  · split at moved
    · cases moved
      exact ⟨log, count, rfl, fun _ => WebhookDb.isSome_updateDelivery, fun _ same => .inl same,
        fun key row present => Or.inr ⟨row, present, rfl, rfl⟩⟩
    · cases moved
      refine ⟨log, count, rfl, fun _ => WebhookDb.isSome_updateDelivery,
        fun _ same => (Option.some_ne_none _ same.symm).elim, ?_⟩
      intro key row present
      rcases Table.find?_modify_eq_some.mp present with ⟨rfl, old, here, rfl⟩ | ⟨differs, here⟩
      · refine Or.inr ⟨old, here, rfl, ?_⟩
        simp [WebhookSession.ahead, WebhookSession.recorded, WebhookSession.advances,
          WebhookSession.recording, WebhookDeliveryProcessor.done, DeliverJob.failed]
      · refine Or.inr ⟨row, here, rfl, ?_⟩
        rw [ahead_of_ne differs]
        rfl

theorem AttemptEffect.of_process
    (moved : WebhookDeliveryProcessor.process draw jobId job db stage = (next, after)) :
    AttemptEffect (.processing jobId job stage) next db after := by
  cases stage with
  | loading =>
    simp only [WebhookDeliveryProcessor.process] at moved
    split at moved
    · rename_i delivery present
      cases moved
      refine .of_goes_on rfl ⟨rfl, rfl⟩ rfl (fun id same => ?_) rfl rfl rfl
      cases same
      exact Or.inr (Option.isSome_of_eq_some (Option.filter_eq_some_iff.mp present).1)
    · cases moved
      exact .of_ends rfl rfl rfl (fun _ => rfl) (fun _ => id) rfl
  | resolving delivery =>
    simp only [WebhookDeliveryProcessor.process] at moved
    split at moved
    · cases moved
      exact .of_goes_on rfl ⟨rfl, rfl⟩ rfl (fun _ same => .inl same) rfl rfl rfl
    · cases moved
      exact .of_ends rfl rfl rfl (fun _ => rfl) (fun _ => id) rfl
  | sending delivery endpoint =>
    cases moved
    exact .of_goes_on rfl ⟨rfl, rfl⟩ rfl (fun _ same => .inl same) rfl rfl rfl
  | logging endpointId outcome => exact .of_logging moved
  | counting endpointId outcome => exact .of_counting moved
  | resetting endpointId =>
    cases moved
    exact .of_goes_on rfl ⟨rfl, rfl⟩ rfl (fun _ same => .inl same) rfl rfl rfl
  | succeeding =>
    cases moved
    exact .of_ends rfl rfl rfl (fun _ => WebhookDb.attemptCount_updateDelivery fun _ => rfl)
      (fun _ => WebhookDb.isSome_updateDelivery) rfl
  | incrementing endpointId =>
    cases moved
    exact .of_goes_on rfl ⟨rfl, rfl⟩ rfl (fun _ same => .inl same) rfl rfl rfl
  | exhausting =>
    cases moved
    exact .of_ends rfl rfl rfl (fun _ => WebhookDb.attemptCount_updateDelivery fun _ => rfl)
      (fun _ => WebhookDb.isSome_updateDelivery) rfl

/-- **What a statement does** to the log and the counts of deliveries, and to the attempts of jobs. -/
theorem WebhookSession.attempt_cases (moved : session.move draw db = some (next, after)) :
    AttemptEffect session next db after := by
  cases session with
  | called call => exact .of_start moved
  | enabling id =>
    cases moved
    exact .of_free ⟨rfl, rfl⟩ rfl (fun _ => rfl) (fun _ present => present) (.inl rfl)
  | disabling id =>
    cases moved
    exact .of_free ⟨rfl, rfl⟩ rfl (fun _ => rfl) (fun _ present => present) (.inl rfl)
  | testing companyId webhookEndpointId =>
    cases moved
    exact .of_free ⟨rfl, rfl⟩ rfl (fun _ => WebhookDb.attemptCount_create rfl)
      (fun _ => WebhookDb.isSome_create _) (.inl rfl)
  | delivering remaining => exact .of_deliver (Option.some.inj moved)
  | queueing companyId deliveryId remaining =>
    cases moved
    exact .of_free ⟨rfl, rfl⟩ rfl (fun _ => rfl) (fun _ present => present)
      (.inr ⟨companyId, deliveryId, rfl⟩)
  | processing jobId job stage => exact .of_process (Option.some.inj moved)
  | answered result => cases moved

end Cases

/-! ### Counting -/

/-- Attempts are counted on deliveries that are there, and the log of a delivery is as long as its
count, with the attempts that are about to be counted. -/
structure AttemptsCounted {ι : Type} (world : WebhookWorld ι) : Prop where
  present : ∀ session id, (world.sessions session).found = some id →
    (world.rows.deliveries.find? id).isSome
  length : ∀ id, ∃ uncounted,
    Standing (fun session : WebhookSession => session.counting = some id) world.sessions uncounted ∧
      (world.rows.attemptNumbers id).length = world.rows.attemptCount id + uncounted

theorem WebhookSession.found_of_counting {session : WebhookSession} {id : Nat}
    (counting : session.counting = some id) : session.found = some id := by
  cases session with
  | processing jobId job stage =>
    cases stage with
    | counting _ _ => exact counting
    | _ => cases counting
  | _ => cases counting

theorem AttemptEffect.length_records {session next : WebhookSession} {db after : WebhookDb}
    (effect : AttemptEffect session next db after) (id : Nat) :
    (session.records id).length = if next.counting = some id then 1 else 0 := by
  rw [effect.counting, WebhookSession.records]
  cases session.recording with
  | none => rfl
  | some working =>
    simp only [Option.map_some, Option.some.injEq]
    split
    · rfl
    · rfl

/-- The attempts that each job has recorded, as it is worked off or waits to be tried again. The log
of a delivery is in order, and at most one job in the queue has recorded attempts for it: all that
are there. -/
structure AttemptsTracked {ι : Type} (world : WebhookWorld ι) (made : Nat → Nat) : Prop where
  numbered : ∀ id, world.rows.attemptNumbers id =
    List.range' 1 (world.rows.attemptNumbers id).length
  tracks : ∀ jobId job, world.rows.jobs.find? jobId = some job →
    ∃ ahead, Standing (fun session : WebhookSession => session.recorded = some jobId)
        world.sessions ahead ∧
      made jobId = job.attemptsMade + ahead
  whole : ∀ jobId job, world.rows.jobs.find? jobId = some job → made jobId ≠ 0 →
    made jobId = (world.rows.attemptNumbers job.webhookDeliveryId).length
  alone : ∀ first second job other, world.rows.jobs.find? first = some job →
    world.rows.jobs.find? second = some other → job.webhookDeliveryId = other.webhookDeliveryId →
    made first ≠ 0 → made second ≠ 0 → first = second

namespace WebhookSession

variable {session : WebhookSession} {jobId : Nat} {job : DeliverJob}

theorem working_of_recorded (recorded : session.recorded = some jobId) :
    ∃ job, session.working = some (jobId, job) := by
  cases session with
  | processing key job stage =>
    cases stage with
    | loading | resolving _ | sending _ _ | logging _ _ => cases recorded
    | _ =>
      cases recorded
      exact ⟨job, rfl⟩
  | _ => cases recorded

theorem of_recording (recording : session.recording = some (jobId, job)) :
    session.working = some (jobId, job) ∧ session.recorded = none ∧
      session.found = some job.webhookDeliveryId := by
  cases session with
  | processing key row stage =>
    cases stage with
    | logging _ _ =>
      cases recording
      exact ⟨rfl, rfl, rfl⟩
    | _ => cases recording
  | _ => cases recording

theorem records_of_recording (recording : session.recording = some (jobId, job)) (id : Nat) :
    session.records id = if job.webhookDeliveryId = id then [job.attemptsMade + 1] else [] := by
  rw [records, recording]

theorem advances_of_recording (recording : session.recording = some (jobId, job)) (key : Nat) :
    session.advances key = if jobId = key then 1 else 0 := by
  rw [advances, recording]
  simp

end WebhookSession

section Tracked

variable {ι : Type}

theorem AttemptsCounted.start (calls : ι → WebhookCall) :
    AttemptsCounted (webhookStart calls .empty) where
  present := nofun
  length _ := ⟨0, .zero nofun, rfl⟩

theorem AttemptsTracked.start (calls : ι → WebhookCall) :
    AttemptsTracked (webhookStart calls .empty) fun _ => 0 where
  numbered _ := rfl
  tracks := nofun
  whole := nofun
  alone := nofun

theorem AttemptsTracked.made_of_recording {before : WebhookWorld ι} {made : Nat → Nat}
    (tracked : AttemptsTracked before made) (held : JobsHeld before) {mine : ι} {jobId : Nat}
    {job : DeliverJob} (recording : (before.sessions mine).recording = some (jobId, job)) :
    made jobId = job.attemptsMade := by
  obtain ⟨working, unrecorded, _⟩ := WebhookSession.of_recording recording
  obtain ⟨ahead, standing, counts⟩ := tracked.tracks _ _ (held.held _ _ _ working).1
  have nobody : ∀ session, (before.sessions session).recorded ≠ some jobId := by
    intro session recorded
    obtain ⟨other, works⟩ := WebhookSession.working_of_recorded recorded
    have same := held.alone _ _ _ _ _ works working
    subst same
    rw [unrecorded] at recorded
    cases recorded
  rw [counts, standing.eq_zero nobody]
  rfl

structure AttemptsInOrder (world : WebhookWorld ι) : Prop where
  held : JobsHeld world
  counted : AttemptsCounted world
  tracked : ∃ made, AttemptsTracked world made

theorem AttemptsInOrder.start (calls : ι → WebhookCall) :
    AttemptsInOrder (webhookStart calls .empty) :=
  ⟨.start calls .empty, .start calls, _, .start calls⟩

theorem AttemptsInOrder.proper {world : WebhookWorld ι} (inOrder : AttemptsInOrder world) :
    AttemptLogProper world := by
  intro id delivery found
  obtain ⟨made, tracked⟩ := inOrder.tracked
  obtain ⟨uncounted, standing, length⟩ := inOrder.counted.length id
  refine ⟨_, tracked.numbered id, fun settled => ?_⟩
  rw [length, standing.eq_zero settled, WebhookDb.attemptCount, found]
  rfl

variable [DecidableEq ι] {input : ι × WebhookDraw} {before : WebhookWorld ι}
  {next : WebhookSession} {rows : WebhookDb}

theorem AttemptsCounted.step (kept : AttemptsCounted before)
    (effect : AttemptEffect (before.sessions input.1) next before.rows rows) :
    AttemptsCounted { rows, sessions := update before.sessions input.1 next } where
  present session id found := by
    have found : (update before.sessions input.1 next session).found = some id := found
    refine effect.deliveries id ?_
    by_cases mine : session = input.1
    · subst mine
      rw [update_self] at found
      exact (effect.found id found).elim (kept.present _ id) fun present => present
    · rw [update_of_ne mine] at found
      exact kept.present session id found
  length id := by
    obtain ⟨uncounted, standing, length⟩ := kept.length id
    obtain ⟨later, stands, moved⟩ := standing.move input.1 next
    refine ⟨later, stands, ?_⟩
    have count := effect.count id fun counting =>
      kept.present _ id (WebhookSession.found_of_counting counting)
    have records := effect.length_records id
    show (rows.attemptNumbers id).length = rows.attemptCount id + later
    rw [effect.log, List.length_append, length, count, records, WebhookSession.counts]
    omega

def WebhookSession.madeAfter (session : WebhookSession) (db : WebhookDb) (made : Nat → Nat)
    (jobId : Nat) : Nat :=
  if (db.jobs.find? jobId).isSome then made jobId + session.advances jobId else 0

theorem AttemptEffect.old_job {session : WebhookSession} {db after : WebhookDb}
    (effect : AttemptEffect session next db after) {made : Nat → Nat} {jobId : Nat}
    {job : DeliverJob} (found : after.jobs.find? jobId = some job)
    (some_ : session.madeAfter db made jobId ≠ 0) :
    ∃ old, db.jobs.find? jobId = some old ∧ job.webhookDeliveryId = old.webhookDeliveryId ∧
      session.madeAfter db made jobId = made jobId + session.advances jobId := by
  rcases effect.jobs jobId job found with ⟨fresh, _⟩ | ⟨old, here, same, _⟩
  · refine absurd ?_ some_
    rw [WebhookSession.madeAfter, ← fresh, Table.find?_nextId]
    rfl
  · refine ⟨old, here, same, ?_⟩
    rw [WebhookSession.madeAfter, here]
    rfl

theorem AttemptsTracked.tracks_step {made : Nat → Nat} (tracked : AttemptsTracked before made)
    (held : JobsHeld before)
    (effect : AttemptEffect (before.sessions input.1) next before.rows rows) {jobId : Nat}
    {job : DeliverJob} (found : rows.jobs.find? jobId = some job) :
    ∃ ahead, Standing (fun session : WebhookSession => session.recorded = some jobId)
        (update before.sessions input.1 next) ahead ∧
      (before.sessions input.1).madeAfter before.rows made jobId = job.attemptsMade + ahead := by
  rcases effect.jobs jobId job found with ⟨fresh, none_⟩ | ⟨old, here, _, advanced⟩
  · -- nobody works off a job that has just been added
    have missing : before.rows.jobs.find? jobId = none := by
      rw [← fresh]
      exact Table.find?_nextId _
    refine ⟨0, .zero fun session recorded => ?_, ?_⟩
    · by_cases mine : session = input.1
      · subst mine
        rw [update_self] at recorded
        rw [WebhookSession.ahead, if_pos recorded] at none_
        cases none_
      · rw [update_of_ne mine] at recorded
        obtain ⟨other, works⟩ := WebhookSession.working_of_recorded recorded
        rw [(held.held _ _ _ works).1] at missing
        cases missing
    · rw [WebhookSession.madeAfter, missing]
      show 0 = job.attemptsMade + 0
      omega
  · obtain ⟨ahead, standing, counts⟩ := tracked.tracks jobId old here
    obtain ⟨later, stands, moved⟩ := standing.move input.1 next
    refine ⟨later, stands, ?_⟩
    rw [WebhookSession.madeAfter, here]
    show made jobId + _ = _
    simp only [WebhookSession.ahead] at advanced
    omega

theorem AttemptsTracked.step_of_quiet {made : Nat → Nat} (tracked : AttemptsTracked before made)
    (held : JobsHeld before)
    (effect : AttemptEffect (before.sessions input.1) next before.rows rows)
    (quiet : (before.sessions input.1).recording = none) :
    AttemptsTracked { rows, sessions := update before.sessions input.1 next }
      ((before.sessions input.1).madeAfter before.rows made) := by
  have log : ∀ id, rows.attemptNumbers id = before.rows.attemptNumbers id := by
    intro id
    rw [effect.log, WebhookSession.records, quiet]
    exact List.append_nil _
  have advances : ∀ key, (before.sessions input.1).advances key = 0 := by
    intro key
    rw [WebhookSession.advances, quiet]
    rfl
  constructor
  · intro id
    show rows.attemptNumbers id = List.range' 1 (rows.attemptNumbers id).length
    rw [log]
    exact tracked.numbered id
  · exact fun jobId job found => tracked.tracks_step held effect found
  · intro jobId job found some_
    obtain ⟨old, here, same, equal⟩ := effect.old_job found some_
    rw [equal, advances] at some_ ⊢
    rw [log, same]
    exact tracked.whole jobId old here some_
  · intro first second job other found found' same some_ some_'
    obtain ⟨old, here, its, equal⟩ := effect.old_job found some_
    obtain ⟨old', here', its', equal'⟩ := effect.old_job found' some_'
    rw [equal, advances] at some_
    rw [equal', advances] at some_'
    exact tracked.alone first second old old' here here' (by rw [← its, same, its']) some_ some_'

section Recording

variable {made : Nat → Nat} {jobId : Nat} {job : DeliverJob}

omit [DecidableEq ι] in
theorem AttemptsTracked.made_eq_length (tracked : AttemptsTracked before made)
    (held : JobsHeld before) (recording : (before.sessions input.1).recording = some (jobId, job))
    (starts : job.attemptsMade = 0 → before.rows.attemptNumbers job.webhookDeliveryId = []) :
    made jobId = (before.rows.attemptNumbers job.webhookDeliveryId).length := by
  have mine := (held.held _ _ _ (WebhookSession.of_recording recording).1).1
  by_cases first : made jobId = 0
  · have makes := tracked.made_of_recording held recording
    rw [first, starts (makes.symm.trans first)]
    rfl
  · exact tracked.whole jobId job mine first

omit [DecidableEq ι] in
theorem AttemptsTracked.made_eq_zero (tracked : AttemptsTracked before made)
    (mine : before.rows.jobs.find? jobId = some job)
    (all : made jobId = (before.rows.attemptNumbers job.webhookDeliveryId).length) {key : Nat}
    {old : DeliverJob} (here : before.rows.jobs.find? key = some old)
    (same : old.webhookDeliveryId = job.webhookDeliveryId) (differs : key ≠ jobId) :
    made key = 0 := by
  by_contra some_
  have length := tracked.whole key old here some_
  rw [same, ← all] at length
  refine differs (tracked.alone key jobId old job here mine same some_ ?_)
  rwa [← length]

omit [DecidableEq ι] in
/-- A job that has recorded attempts of the delivery after the statement is the one that it recorded
an attempt of. -/
theorem AttemptsTracked.eq_of_madeAfter (tracked : AttemptsTracked before made)
    (mine : before.rows.jobs.find? jobId = some job)
    (all : made jobId = (before.rows.attemptNumbers job.webhookDeliveryId).length)
    (recording : (before.sessions input.1).recording = some (jobId, job))
    (effect : AttemptEffect (before.sessions input.1) next before.rows rows) {key : Nat}
    {row : DeliverJob} (found : rows.jobs.find? key = some row)
    (same : row.webhookDeliveryId = job.webhookDeliveryId)
    (some_ : (before.sessions input.1).madeAfter before.rows made key ≠ 0) : key = jobId := by
  obtain ⟨old, here, its, equal⟩ := effect.old_job found some_
  by_contra differs
  rw [equal, WebhookSession.advances_of_recording recording, if_neg (Ne.symm differs)] at some_
  exact some_ (tracked.made_eq_zero mine all here (its.symm.trans same) differs)

omit [DecidableEq ι] in
theorem AttemptEffect.madeAfter_of_other (mine : before.rows.jobs.find? jobId = some job)
    (recording : (before.sessions input.1).recording = some (jobId, job))
    (effect : AttemptEffect (before.sessions input.1) next before.rows rows) {key : Nat}
    {row : DeliverJob} (found : rows.jobs.find? key = some row)
    (other : row.webhookDeliveryId ≠ job.webhookDeliveryId)
    (some_ : (before.sessions input.1).madeAfter before.rows made key ≠ 0) :
    ∃ old, before.rows.jobs.find? key = some old ∧
      row.webhookDeliveryId = old.webhookDeliveryId ∧
      (before.sessions input.1).madeAfter before.rows made key = made key := by
  obtain ⟨old, here, its, equal⟩ := effect.old_job found some_
  refine ⟨old, here, its, ?_⟩
  have differs : jobId ≠ key := by
    rintro rfl
    rw [mine] at here
    cases here
    exact other its
  rw [equal, WebhookSession.advances_of_recording recording, if_neg differs]
  rfl

/-- A statement that records an attempt leaves the log in order if the first attempt of a job is the
first of its delivery. -/
theorem AttemptsTracked.step_of_recording (tracked : AttemptsTracked before made)
    (held : JobsHeld before)
    (effect : AttemptEffect (before.sessions input.1) next before.rows rows)
    (recording : (before.sessions input.1).recording = some (jobId, job))
    (starts : job.attemptsMade = 0 → before.rows.attemptNumbers job.webhookDeliveryId = []) :
    AttemptsTracked { rows, sessions := update before.sessions input.1 next }
      ((before.sessions input.1).madeAfter before.rows made) := by
  have mine := (held.held _ _ _ (WebhookSession.of_recording recording).1).1
  have makes := tracked.made_of_recording held recording
  have all := tracked.made_eq_length held recording starts
  have log : ∀ id, rows.attemptNumbers id = before.rows.attemptNumbers id ++
      if job.webhookDeliveryId = id then [job.attemptsMade + 1] else [] := by
    intro id
    rw [effect.log, WebhookSession.records_of_recording recording]
  constructor
  · intro id
    show rows.attemptNumbers id = List.range' 1 (rows.attemptNumbers id).length
    rw [log]
    split
    · rename_i same
      subst same
      rw [List.length_append, List.length_singleton, List.range'_1_concat, ← tracked.numbered,
        ← makes, all, Nat.add_comm]
    · rw [List.append_nil]
      exact tracked.numbered id
  · exact fun key row found => tracked.tracks_step held effect found
  · intro key row found some_
    rw [log]
    by_cases its : row.webhookDeliveryId = job.webhookDeliveryId
    · have same := tracked.eq_of_madeAfter mine all recording effect found its some_
      obtain ⟨_, _, _, equal⟩ := effect.old_job found some_
      rw [equal, WebhookSession.advances_of_recording recording, if_pos same.symm, its, if_pos rfl,
        same, all, List.length_append, List.length_singleton]
    · obtain ⟨old, here, same, equal⟩ :=
        effect.madeAfter_of_other mine recording found its some_
      rw [equal] at some_ ⊢
      rw [if_neg (Ne.symm its), List.append_nil, same]
      exact tracked.whole key old here some_
  · intro first second row other found found' same some_ some_'
    by_cases its : row.webhookDeliveryId = job.webhookDeliveryId
    · have one := tracked.eq_of_madeAfter mine all recording effect found its some_
      have two := tracked.eq_of_madeAfter mine all recording effect found' (same ▸ its) some_'
      rw [one, two]
    · obtain ⟨old, here, mine', equal⟩ :=
        effect.madeAfter_of_other mine recording found its some_
      obtain ⟨old', here', mine'', equal'⟩ :=
        effect.madeAfter_of_other mine recording found' (same ▸ its) some_'
      rw [equal] at some_
      rw [equal'] at some_'
      exact tracked.alone first second old old' here here' (by rw [← mine', same, mine'']) some_ some_'

end Recording

theorem AttemptsInOrder.step {after : WebhookWorld ι} (kept : AttemptsInOrder before)
    (accepted : WebhookSession.exec input before = .ok after)
    (starts : StartsLog ⟨before, input, after⟩) : AttemptsInOrder after := by
  have held := kept.held.step accepted
  obtain ⟨next, rows, moved, rfl⟩ := Shared.exec_eq_ok.mp accepted
  have effect := WebhookSession.attempt_cases moved
  obtain ⟨made, tracked⟩ := kept.tracked
  refine ⟨held, kept.counted.step effect,
    (before.sessions input.1).madeAfter before.rows made, ?_⟩
  cases recording : (before.sessions input.1).recording with
  | none => exact tracked.step_of_quiet kept.held effect recording
  | some working =>
    exact tracked.step_of_recording kept.held effect recording (starts _ _ recording)

theorem startsLog_of_proper {after : WebhookWorld ι} (inOrder : AttemptsInOrder before)
    (accepted : WebhookSession.exec input before = .ok after) (proper : AttemptLogProper after) :
    StartsLog ⟨before, input, after⟩ := by
  intro jobId job recording first
  have recording : (before.sessions input.1).recording = some (jobId, job) := recording
  obtain ⟨next, rows, moved, rfl⟩ := Shared.exec_eq_ok.mp accepted
  have effect := WebhookSession.attempt_cases moved
  obtain ⟨made, tracked⟩ := inOrder.tracked
  obtain ⟨_, _, found⟩ := WebhookSession.of_recording recording
  obtain ⟨delivery, there⟩ := Option.isSome_iff_exists.mp
    (effect.deliveries _ (inOrder.counted.present _ _ found))
  obtain ⟨recorded, numbers, _⟩ := proper _ delivery there
  have numbers : rows.attemptNumbers job.webhookDeliveryId = List.range' 1 recorded := numbers
  rw [effect.log, WebhookSession.records_of_recording recording, if_pos rfl, first] at numbers
  have length := congrArg List.length numbers
  rw [List.length_append, List.length_singleton, List.length_range'] at length
  rw [← length, List.range'_1_concat] at numbers
  -- the number 1 is the last of the log, so it is the only one
  have last : [0 + 1] =
      [1 + (before.rows.attemptNumbers job.webhookDeliveryId).length] :=
    (List.append_inj' numbers rfl).2
  have none_ : (before.rows.attemptNumbers job.webhookDeliveryId).length = 0 := by
    simpa using last
  exact List.length_eq_zero_iff.mp none_

end Tracked

/-! ### A log that starts again -/

/-- A test event is sent to an endpoint of company 1, its job is worked off six times, and the
delivery is sent again. -/
def retriedLogCalls : Nat → WebhookCall
  | 0 => .createEndpoint 1 "https://hooks.example" ["booking.created"]
  | 1 => .sendTestEvent 1 0
  | 8 => .retry 1 0
  | 9 => .process 1
  | _ => .process 0

def retriedLogSchedule : List (Nat × WebhookDraw) :=
  ([0, 1, 1, 1, 1] ++ [2, 3, 4, 5, 6].flatMap (List.replicate 6) ++ List.replicate 8 7 ++
    [8, 8, 8, 8] ++ List.replicate 6 9).map fun session => (session, answering 500)

def retriedLogEnd : WebhookWorld Nat :=
  run WebhookSession.exec (webhookStart retriedLogCalls .empty) retriedLogSchedule

theorem retriedLogEnd_numbers :
    (retriedLogEnd.rows.deliveries.find? 0).map WebhookDelivery.attemptCount = some 7 ∧
      retriedLogEnd.rows.attemptNumbers 0 = [1, 2, 3, 4, 5, 6, 1] := by
  decide +kernel

end OpenEstate
