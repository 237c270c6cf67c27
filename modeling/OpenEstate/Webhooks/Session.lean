/-
**Webhooks: what moves deliveries.**

An event is fanned out to the endpoints that subscribe to it, a delivery and a job for each; the
processor works off jobs; an administrator sends exhausted deliveries again, and switches endpoints
off and on. Each call issues its statements one by one, and so are the requests to endpoints and the
insertions into the queue: others may come in between.

* `WebhookSession` is where a call stands, `WebhookSession.move` what it does next;
* `WebhookEffect` is what that is to deliveries, jobs and requests: `WebhookSession.move_cases`;
* `JobsHeld`: a job that is worked off is in the queue, and nobody else works it off.

A job leaves the queue, or goes back to it, together with the last statement of its attempt.
-/

import OpenEstate.Relational.Interference
import OpenEstate.Webhooks.Schema

namespace OpenEstate

open Relational
open Function (update update_self update_of_ne)

/-! ### Calls -/

/-- What a bulk retry asks for: deliveries of an endpoint, from a time until another. -/
structure BulkRetryDeliveriesDto where
  webhookEndpointId : Option Nat := none
  since : Option Nat := none
  till : Option Nat := none

inductive WebhookCall
  | createEndpoint (companyId : Nat) (url : String) (eventTypes : List String)
  | enable (companyId id : Nat)
  | disable (companyId id : Nat)
  | dispatchEvent (companyId : Nat) (eventType payload : String)
  | sendTestEvent (companyId webhookEndpointId : Nat)
  | retry (companyId deliveryId : Nat)
  | bulkRetry (companyId : Nat) (filter : BulkRetryDeliveriesDto)
  | process (jobId : Nat)

inductive WebhookResult
  | endpoint (id : Nat)
  | dispatchedTo (count : Nat)
  | deliveryId (id : Nat)
  | requeued (id : Nat)
  | requeuedCount (count : Nat)
  | processed
  | refused (error : ServiceError)

/-- What the environment decides on a statement: the clock, and what an endpoint answers to a
request, a status with a text, or the message of the error that `fetch` throws. -/
structure WebhookDraw where
  now : Nat
  answer : Except String (Nat × String)
  latencyMs : Nat

structure AttemptOutcome where
  responseStatus : Option Nat := none
  responseSnippet : Option String := none
  errorMessage : Option String := none
  success : Bool := false
  latencyMs : Nat

inductive AttemptStage
  | loading
  | resolving (delivery : WebhookDelivery)
  | sending (delivery : WebhookDelivery) (endpoint : WebhookEndpoint)
  | logging (endpointId : Nat) (outcome : AttemptOutcome)
  | counting (endpointId : Nat) (outcome : AttemptOutcome)
  | resetting (endpointId : Nat)
  | succeeding
  | incrementing (endpointId : Nat)
  | exhausting

/-- What is left of a loop over endpoints, or over deliveries to be sent again. -/
inductive RemainingDeliveries
  | events (companyId : Nat) (eventType payload : String) (dispatchedTo : Nat)
      (endpointIds : List Nat)
  | retries (companyId : Nat) (deliveryIds : List Nat) (result : WebhookResult)
  | nothing (result : WebhookResult)

/-- Where a call stands between its statements. One that has written a pending delivery is about to
add the job for it, and then goes on with what remains. -/
inductive WebhookSession
  | called (call : WebhookCall)
  | enabling (id : Nat)
  | disabling (id : Nat)
  | testing (companyId webhookEndpointId : Nat)
  | delivering (remaining : RemainingDeliveries)
  | queueing (companyId deliveryId : Nat) (remaining : RemainingDeliveries)
  | processing (jobId : Nat) (job : DeliverJob) (stage : AttemptStage)
  | answered (result : WebhookResult)

/-! ### The services -/

def webhookDisableThreshold : Nat := 10

def maxPayloadBytes : Nat := 256 * 1024

def disabledByAdmin : String := "Manually disabled by admin"

def autoDisabled : String :=
  s!"Auto-disabled after {webhookDisableThreshold} consecutive exhausted deliveries"

namespace WebhookEndpoint

def enabled (endpoint : WebhookEndpoint) : WebhookEndpoint :=
  { endpoint with
    isActive := true, consecutiveFailures := 0, disabledAt := none, disabledReason := none }

def disabled (now : Nat) (endpoint : WebhookEndpoint) : WebhookEndpoint :=
  { endpoint with isActive := false, disabledAt := some now, disabledReason := some disabledByAdmin }

def withSuccess (endpoint : WebhookEndpoint) : WebhookEndpoint :=
  if endpoint.isActive then { endpoint with consecutiveFailures := 0 } else endpoint

/-- One more exhausted delivery, with the conditional columns of the statement. -/
def withExhaustion (now : Nat) (endpoint : WebhookEndpoint) : WebhookEndpoint :=
  { endpoint with
    consecutiveFailures := endpoint.consecutiveFailures + 1
    isActive :=
      if webhookDisableThreshold ≤ endpoint.consecutiveFailures + 1 then false
      else endpoint.isActive
    disabledAt :=
      if webhookDisableThreshold ≤ endpoint.consecutiveFailures + 1 ∧ endpoint.isActive = true then
        some now
      else endpoint.disabledAt
    disabledReason :=
      if webhookDisableThreshold ≤ endpoint.consecutiveFailures + 1 ∧ endpoint.isActive = true then
        some autoDisabled
      else endpoint.disabledReason }

end WebhookEndpoint

namespace WebhookDelivery

def requeued (delivery : WebhookDelivery) : WebhookDelivery :=
  { delivery with status := .pending, completedAt := none }

def attempted (delivery : WebhookDelivery) : WebhookDelivery :=
  { delivery with attemptCount := delivery.attemptCount + 1 }

def completed (status : DeliveryStatus) (now : Nat) (delivery : WebhookDelivery) :
    WebhookDelivery :=
  { delivery with status, completedAt := some now }

end WebhookDelivery

namespace DeliverJob

def taken (job : DeliverJob) : DeliverJob :=
  { job with state := .active }

def failed (job : DeliverJob) : DeliverJob :=
  { job with attemptsMade := job.attemptsMade + 1, state := .delayed }

def isLastAttempt (job : DeliverJob) : Bool :=
  job.attempts ≤ job.attemptsMade + 1

end DeliverJob

def AttemptOutcome.read (answer : Except String (Nat × String)) (latencyMs : Nat) :
    AttemptOutcome :=
  match answer with
  | .ok (status, text) =>
    { responseStatus := some status
      responseSnippet := some (String.ofList (text.toList.take 1000))
      errorMessage := if 200 ≤ status ∧ status < 300 then none else some s!"HTTP {status}"
      success := 200 ≤ status ∧ status < 300
      latencyMs }
  | .error message => { errorMessage := some message, latencyMs }

namespace WebhookEndpointService

def notFound : WebhookSession :=
  .answered (.refused (.notFound "Webhook endpoint not found"))

def requireOwned (companyId id : Nat) (db : WebhookDb) (further : WebhookSession) :
    WebhookSession :=
  if (db.ownEndpoint? companyId id).isSome then further else notFound

def create (companyId : Nat) (url : String) (eventTypes : List String) (db : WebhookDb) :
    WebhookSession × WebhookDb :=
  (.answered (.endpoint db.endpoints.nextId),
    { db with endpoints := db.endpoints.create { companyId, url, eventTypes } })

end WebhookEndpointService

namespace WebhookDeliveryService

def subscribed (companyId : Nat) (eventType : String) (db : WebhookDb) : List Nat :=
  (db.endpoints.select fun _ endpoint =>
    endpoint.companyId = companyId ∧ endpoint.isActive = true ∧
      eventType ∈ endpoint.eventTypes).map Prod.fst

def dispatchEvent (companyId : Nat) (eventType payload : String) (db : WebhookDb) :
    WebhookSession :=
  if maxPayloadBytes < payload.utf8ByteSize then
    .answered (.refused (.badRequest
      s!"Webhook event payload exceeds the {maxPayloadBytes} byte cap"))
  else
    .delivering (.events companyId eventType payload (subscribed companyId eventType db).length
      (subscribed companyId eventType db))

def createDelivery (delivery : WebhookDelivery) (remaining : RemainingDeliveries)
    (db : WebhookDb) : WebhookSession × WebhookDb :=
  (.queueing delivery.companyId db.deliveries.nextId remaining,
    { db with deliveries := db.deliveries.create delivery })

def retry (companyId deliveryId : Nat) (db : WebhookDb) : WebhookSession :=
  match db.ownDelivery? companyId deliveryId with
  | none => .answered (.refused (.notFound "Webhook delivery not found"))
  | some delivery =>
    if delivery.status = .exhausted then
      .delivering (.retries companyId [deliveryId] (.requeued deliveryId))
    else
      .answered (.refused (.badRequest (s!"Only an EXHAUSTED delivery can be retried " ++
        s!"(current status: {delivery.status.text})")))

def exhaustedMatching (companyId : Nat) (filter : BulkRetryDeliveriesDto) (db : WebhookDb) :
    List Nat :=
  (db.deliveries.select fun _ delivery =>
    delivery.companyId = companyId ∧ delivery.status = .exhausted ∧
      filter.webhookEndpointId.all (delivery.webhookEndpointId = ·) ∧
      filter.since.all (· ≤ delivery.createdAt) ∧
      filter.till.all (delivery.createdAt ≤ ·)).map Prod.fst

def bulkRetry (companyId : Nat) (filter : BulkRetryDeliveriesDto) (db : WebhookDb) :
    WebhookSession :=
  .delivering (.retries companyId (exhaustedMatching companyId filter db)
    (.requeuedCount (exhaustedMatching companyId filter db).length))

def deliver (now : Nat) (db : WebhookDb) : RemainingDeliveries → WebhookSession × WebhookDb
  | .events companyId eventType payload dispatchedTo (webhookEndpointId :: rest) =>
    createDelivery
      { companyId, webhookEndpointId, eventType, payload := .event payload, createdAt := now }
      (.events companyId eventType payload dispatchedTo rest) db
  | .events _ _ _ dispatchedTo [] => (.answered (.dispatchedTo dispatchedTo), db)
  | .retries companyId (id :: rest) result =>
    (.queueing companyId id (.retries companyId rest result),
      db.updateDelivery id WebhookDelivery.requeued)
  | .retries _ [] result => (.answered result, db)
  | .nothing result => (.answered result, db)

end WebhookDeliveryService

namespace WebhookDeliveryProcessor

def done : WebhookSession := .answered .processed

def process (draw : WebhookDraw) (jobId : Nat) (job : DeliverJob) (db : WebhookDb) :
    AttemptStage → WebhookSession × WebhookDb
  | .loading =>
    match db.ownDelivery? job.companyId job.webhookDeliveryId with
    | some delivery => (.processing jobId job (.resolving delivery), db)
    | none => (done, db.removeJob jobId)
  | .resolving delivery =>
    match (db.ownEndpoint? job.companyId delivery.webhookEndpointId).filter
        WebhookEndpoint.isActive with
    | some endpoint => (.processing jobId job (.sending delivery endpoint), db)
    | none => (done, db.removeJob jobId)
  | .sending delivery endpoint =>
    (.processing jobId job
      (.logging delivery.webhookEndpointId (.read draw.answer draw.latencyMs)),
      { db with
        requests := db.requests ++ [⟨endpoint.url, job.webhookDeliveryId, delivery.payload⟩] })
  | .logging endpointId outcome =>
    (.processing jobId job (.counting endpointId outcome),
      { db with
        attempts := db.attempts.create
          { companyId := job.companyId
            webhookDeliveryId := job.webhookDeliveryId
            attemptNumber := job.attemptsMade + 1
            responseStatus := outcome.responseStatus
            responseSnippet := outcome.responseSnippet
            errorMessage := outcome.errorMessage
            latencyMs := outcome.latencyMs } })
  | .counting endpointId outcome =>
    let counted := db.updateDelivery job.webhookDeliveryId WebhookDelivery.attempted
    if outcome.success then (.processing jobId job (.resetting endpointId), counted)
    else if job.isLastAttempt then (.processing jobId job (.incrementing endpointId), counted)
    else (done, counted.updateJob jobId DeliverJob.failed)
  | .resetting endpointId =>
    (.processing jobId job .succeeding, db.updateEndpoint endpointId WebhookEndpoint.withSuccess)
  | .succeeding =>
    (done, (db.updateDelivery job.webhookDeliveryId
      (WebhookDelivery.completed .success draw.now)).removeJob jobId)
  | .incrementing endpointId =>
    (.processing jobId job .exhausting,
      db.updateEndpoint endpointId (WebhookEndpoint.withExhaustion draw.now))
  | .exhausting =>
    (done, (db.updateDelivery job.webhookDeliveryId
      (WebhookDelivery.completed .exhausted draw.now)).removeJob jobId)

end WebhookDeliveryProcessor

def takeJob (jobId : Nat) (db : WebhookDb) : Option (WebhookSession × WebhookDb) :=
  match db.jobs.find? jobId with
  | some job =>
    if job.state = .active then none
    else some (.processing jobId job.taken .loading, db.updateJob jobId DeliverJob.taken)
  | none => none

def WebhookCall.start (db : WebhookDb) : WebhookCall → Option (WebhookSession × WebhookDb)
  | .createEndpoint companyId url eventTypes =>
    some (WebhookEndpointService.create companyId url eventTypes db)
  | .enable companyId id =>
    some (WebhookEndpointService.requireOwned companyId id db (.enabling id), db)
  | .disable companyId id =>
    some (WebhookEndpointService.requireOwned companyId id db (.disabling id), db)
  | .dispatchEvent companyId eventType payload =>
    some (WebhookDeliveryService.dispatchEvent companyId eventType payload db, db)
  | .sendTestEvent companyId id =>
    some (WebhookEndpointService.requireOwned companyId id db (.testing companyId id), db)
  | .retry companyId deliveryId => some (WebhookDeliveryService.retry companyId deliveryId db, db)
  | .bulkRetry companyId filter => some (WebhookDeliveryService.bulkRetry companyId filter db, db)
  | .process jobId => takeJob jobId db

def WebhookSession.move (draw : WebhookDraw) :
    WebhookSession → WebhookDb → Option (WebhookSession × WebhookDb)
  | .called call, db => call.start db
  | .enabling id, db => some (.answered (.endpoint id), db.updateEndpoint id WebhookEndpoint.enabled)
  | .disabling id, db =>
    some (.answered (.endpoint id), db.updateEndpoint id (WebhookEndpoint.disabled draw.now))
  | .testing companyId webhookEndpointId, db =>
    some (WebhookDeliveryService.createDelivery
      { companyId, webhookEndpointId, eventType := "test.ping", payload := .testPing draw.now
        createdAt := draw.now }
      (.nothing (.deliveryId db.deliveries.nextId)) db)
  | .delivering remaining, db => some (WebhookDeliveryService.deliver draw.now db remaining)
  | .queueing companyId deliveryId remaining, db =>
    some (.delivering remaining, db.addJob companyId deliveryId)
  | .processing jobId job stage, db =>
    some (WebhookDeliveryProcessor.process draw jobId job db stage)
  | .answered _, _ => none

abbrev WebhookWorld (ι : Type) : Type := Shared ι WebhookDb WebhookSession

def WebhookSession.exec {ι : Type} [DecidableEq ι] (input : ι × WebhookDraw)
    (world : WebhookWorld ι) : Except Unit (WebhookWorld ι) :=
  Shared.exec (WebhookSession.move input.2) input.1 world

def webhookStart {ι : Type} (calls : ι → WebhookCall) (rows : WebhookDb) : WebhookWorld ι where
  rows
  sessions := fun session => .called (calls session)

/-! ### Effects -/

namespace WebhookSession

def adding : WebhookSession → Option Nat
  | .queueing _ deliveryId _ => some deliveryId
  | _ => none

def working : WebhookSession → Option (Nat × DeliverJob)
  | .processing jobId job _ => some (jobId, job)
  | _ => none

/-- A call that has its hands free: it neither adds a job next nor works one off. -/
structure Idle (session : WebhookSession) : Prop where
  adding : session.adding = none
  working : session.working = none

def requeuing : WebhookSession → Option Nat
  | .delivering (.retries _ (deliveryId :: _) _) => some deliveryId
  | _ => none

/-- An attempt that finds its delivery gone, or the endpoint gone or switched off. -/
def GivesUp (db : WebhookDb) : WebhookSession → Prop
  | .processing _ job .loading => db.ownDelivery? job.companyId job.webhookDeliveryId = none
  | .processing _ job (.resolving delivery) =>
    (db.ownEndpoint? job.companyId delivery.webhookEndpointId).filter WebhookEndpoint.isActive = none
  | _ => False

end WebhookSession

/-- What a statement does to the statuses of deliveries, to the jobs and to the requests. -/
inductive WebhookEffect (session next : WebhookSession) (db after : WebhookDb) : Prop
  | rests (adding : session.adding = none ∧ next.adding = none)
      (working : next.working = session.working)
      (statuses : ∀ key, after.status? key = db.status? key) (jobs : after.jobs = db.jobs)
      (requests : after.requests = db.requests)
  | sends (jobId : Nat) (job : DeliverJob) (request : WebhookRequest)
      (adding : session.adding = none ∧ next.adding = none)
      (working : session.working = some (jobId, job)) (still : next.working = some (jobId, job))
      (statuses : ∀ key, after.status? key = db.status? key) (jobs : after.jobs = db.jobs)
      (mine : request.webhookDeliveryId = job.webhookDeliveryId)
      (requests : after.requests = db.requests ++ [request])
  | creates (id : Nat) (idle : session.Idle) (adding : next.adding = some id)
      (working : next.working = none) (fresh : db.status? id = none)
      (statuses : ∀ key, after.status? key = if key = id then some .pending else db.status? key)
      (jobs : after.jobs = db.jobs) (requests : after.requests = db.requests)
  | requeues (id : Nat) (asked : session.requeuing = some id) (idle : session.Idle)
      (adding : next.adding = some id) (working : next.working = none)
      (statuses : ∀ key, after.status? key =
        if key = id then (db.status? key).map (fun _ => .pending) else db.status? key)
      (jobs : after.jobs = db.jobs) (requests : after.requests = db.requests)
  | queues (companyId id : Nat) (adding : session.adding = some id)
      (working : session.working = none) (idle : next.Idle)
      (statuses : ∀ key, after.status? key = db.status? key)
      (jobs : after.jobs = db.jobs.create { companyId, webhookDeliveryId := id })
      (requests : after.requests = db.requests)
  | takes (jobId : Nat) (job : DeliverJob) (idle : session.Idle) (adding : next.adding = none)
      (working : next.working = some (jobId, job.taken)) (found : db.jobs.find? jobId = some job)
      (free : job.state ≠ .active) (statuses : ∀ key, after.status? key = db.status? key)
      (jobs : after.jobs = db.jobs.modify jobId DeliverJob.taken)
      (requests : after.requests = db.requests)
  | fails (jobId : Nat) (job : DeliverJob) (adding : session.adding = none)
      (working : session.working = some (jobId, job)) (idle : next.Idle)
      (statuses : ∀ key, after.status? key = db.status? key)
      (jobs : after.jobs = db.jobs.modify jobId DeliverJob.failed)
      (requests : after.requests = db.requests)
  | settles (jobId : Nat) (job : DeliverJob) (status : DeliveryStatus) (final : status ≠ .pending)
      (adding : session.adding = none) (working : session.working = some (jobId, job))
      (idle : next.Idle)
      (statuses : ∀ key, after.status? key =
        if key = job.webhookDeliveryId then (db.status? key).map (fun _ => status)
        else db.status? key)
      (jobs : after.jobs = db.jobs.delete fun key _ => key = jobId)
      (requests : after.requests = db.requests)
  | givesUp (jobId : Nat) (job : DeliverJob) (asked : session.GivesUp db)
      (adding : session.adding = none) (working : session.working = some (jobId, job))
      (idle : next.Idle) (statuses : ∀ key, after.status? key = db.status? key)
      (jobs : after.jobs = db.jobs.delete fun key _ => key = jobId)
      (requests : after.requests = db.requests)

namespace WebhookDb

variable {db : WebhookDb} {id key : Nat}

theorem status?_updateDelivery {change : WebhookDelivery → WebhookDelivery}
    (status : DeliveryStatus → DeliveryStatus)
    (marks : ∀ delivery, (change delivery).status = status delivery.status) :
    (db.updateDelivery id change).status? key =
      if key = id then (db.status? key).map status else db.status? key := by
  show ((db.deliveries.modify id change).find? key).map WebhookDelivery.status = _
  rw [Table.find?_modify]
  split
  · show _ = ((db.deliveries.find? key).map WebhookDelivery.status).map status
    rw [Option.map_map, Option.map_map]
    congr 1
    funext delivery
    exact marks delivery
  · rfl

theorem status?_updateDelivery_of_same {change : WebhookDelivery → WebhookDelivery}
    (same : ∀ delivery, (change delivery).status = delivery.status) :
    (db.updateDelivery id change).status? key = db.status? key := by
  rw [status?_updateDelivery (fun status => status) same]
  simp

theorem status?_createDelivery (delivery : WebhookDelivery) :
    ({ db with deliveries := db.deliveries.create delivery } : WebhookDb).status? key =
      if key = db.deliveries.nextId then some delivery.status else db.status? key := by
  show ((db.deliveries.create delivery).find? key).map WebhookDelivery.status = _
  rw [Table.find?_create]
  split
  · rfl
  · rfl

theorem status?_nextId : db.status? db.deliveries.nextId = none := by
  rw [status?, Table.find?_nextId]
  rfl

end WebhookDb
section Cases

variable {draw : WebhookDraw} {session next : WebhookSession} {db after : WebhookDb}

theorem WebhookEffect.of_deliver {now : Nat} {remaining : RemainingDeliveries}
    (moved : WebhookDeliveryService.deliver now db remaining = (next, after)) :
    WebhookEffect (.delivering remaining) next db after := by
  cases remaining with
  | events companyId eventType payload dispatchedTo endpointIds =>
    cases endpointIds with
    | nil =>
      cases moved
      exact .rests ⟨rfl, rfl⟩ rfl (fun _ => rfl) rfl rfl
    | cons id rest =>
      cases moved
      exact .creates db.deliveries.nextId ⟨rfl, rfl⟩ rfl rfl WebhookDb.status?_nextId
        (fun _ => WebhookDb.status?_createDelivery _) rfl rfl
  | retries companyId deliveryIds result =>
    cases deliveryIds with
    | nil =>
      cases moved
      exact .rests ⟨rfl, rfl⟩ rfl (fun _ => rfl) rfl rfl
    | cons id rest =>
      cases moved
      exact .requeues id rfl ⟨rfl, rfl⟩ rfl rfl
        (fun _ => WebhookDb.status?_updateDelivery _ fun _ => rfl) rfl rfl
  | nothing result =>
    cases moved
    exact .rests ⟨rfl, rfl⟩ rfl (fun _ => rfl) rfl rfl

theorem WebhookEffect.of_process {jobId : Nat} {job : DeliverJob} {stage : AttemptStage}
    (moved : WebhookDeliveryProcessor.process draw jobId job db stage = (next, after)) :
    WebhookEffect (.processing jobId job stage) next db after := by
  have settles : ∀ status : DeliveryStatus, status ≠ .pending →
      WebhookEffect (.processing jobId job stage) WebhookDeliveryProcessor.done db
        ((db.updateDelivery job.webhookDeliveryId
          (WebhookDelivery.completed status draw.now)).removeJob jobId) :=
    fun status final => .settles jobId job status final rfl rfl ⟨rfl, rfl⟩
      (fun _ => WebhookDb.status?_updateDelivery _ fun _ => rfl) rfl rfl
  cases stage with
  | loading =>
    simp only [WebhookDeliveryProcessor.process] at moved
    split at moved
    · cases moved
      exact .rests ⟨rfl, rfl⟩ rfl (fun _ => rfl) rfl rfl
    · rename_i missing
      cases moved
      exact .givesUp jobId job missing rfl rfl ⟨rfl, rfl⟩ (fun _ => rfl) rfl rfl
  | resolving delivery =>
    simp only [WebhookDeliveryProcessor.process] at moved
    split at moved
    · cases moved
      exact .rests ⟨rfl, rfl⟩ rfl (fun _ => rfl) rfl rfl
    · rename_i missing
      cases moved
      exact .givesUp jobId job missing rfl rfl ⟨rfl, rfl⟩ (fun _ => rfl) rfl rfl
  | sending delivery endpoint =>
    cases moved
    exact .sends jobId job _ ⟨rfl, rfl⟩ rfl rfl (fun _ => rfl) rfl rfl rfl
  | logging endpointId outcome =>
    cases moved
    exact .rests ⟨rfl, rfl⟩ rfl (fun _ => rfl) rfl rfl
  | counting endpointId outcome =>
    have counted : ∀ key, (db.updateDelivery job.webhookDeliveryId
        WebhookDelivery.attempted).status? key = db.status? key :=
      fun key => WebhookDb.status?_updateDelivery_of_same fun _ => rfl
    simp only [WebhookDeliveryProcessor.process] at moved
    split at moved
    · cases moved
      exact .rests ⟨rfl, rfl⟩ rfl counted rfl rfl
    · split at moved
      · cases moved
        exact .rests ⟨rfl, rfl⟩ rfl counted rfl rfl
      · cases moved
        exact .fails jobId job rfl rfl ⟨rfl, rfl⟩ counted rfl rfl
  | resetting endpointId =>
    cases moved
    exact .rests ⟨rfl, rfl⟩ rfl (fun _ => rfl) rfl rfl
  | succeeding =>
    cases moved
    exact settles .success nofun
  | incrementing endpointId =>
    cases moved
    exact .rests ⟨rfl, rfl⟩ rfl (fun _ => rfl) rfl rfl
  | exhausting =>
    cases moved
    exact settles .exhausted nofun

theorem requireOwned_idle {companyId id : Nat} {further : WebhookSession} (idle : further.Idle) :
    (WebhookEndpointService.requireOwned companyId id db further).Idle := by
  unfold WebhookEndpointService.requireOwned
  split
  · exact idle
  · exact ⟨rfl, rfl⟩

theorem WebhookEffect.of_idle (before : session.Idle) (idle : next.Idle)
    (statuses : ∀ key, after.status? key = db.status? key) (jobs : after.jobs = db.jobs)
    (requests : after.requests = db.requests) : WebhookEffect session next db after :=
  .rests ⟨before.adding, idle.adding⟩ (idle.working.trans before.working.symm) statuses jobs requests

/-- **The first statement of a call** takes up a job, or writes an endpoint at most. -/
theorem WebhookCall.start_cases {call : WebhookCall} (moved : call.start db = some (next, after)) :
    (∃ jobId, call = .process jobId ∧ takeJob jobId db = some (next, after)) ∨
      next.Idle ∧ ∃ endpoints, after = { db with endpoints } := by
  have rests : ∀ further : WebhookSession, further.Idle →
      further.Idle ∧ ∃ endpoints, db = { db with endpoints } :=
    fun further idle => ⟨idle, db.endpoints, rfl⟩
  cases call with
  | createEndpoint companyId url eventTypes =>
    cases moved
    exact Or.inr ⟨⟨rfl, rfl⟩, _, rfl⟩
  | enable companyId id =>
    cases moved
    exact Or.inr (rests _ (requireOwned_idle ⟨rfl, rfl⟩))
  | disable companyId id =>
    cases moved
    exact Or.inr (rests _ (requireOwned_idle ⟨rfl, rfl⟩))
  | dispatchEvent companyId eventType payload =>
    cases moved
    refine Or.inr (rests _ ?_)
    unfold WebhookDeliveryService.dispatchEvent
    split
    · exact ⟨rfl, rfl⟩
    · exact ⟨rfl, rfl⟩
  | sendTestEvent companyId id =>
    cases moved
    exact Or.inr (rests _ (requireOwned_idle ⟨rfl, rfl⟩))
  | retry companyId deliveryId =>
    cases moved
    refine Or.inr (rests _ ?_)
    unfold WebhookDeliveryService.retry
    split
    · exact ⟨rfl, rfl⟩
    · split
      · exact ⟨rfl, rfl⟩
      · exact ⟨rfl, rfl⟩
  | bulkRetry companyId filter =>
    cases moved
    exact Or.inr (rests _ ⟨rfl, rfl⟩)
  | process jobId => exact Or.inl ⟨jobId, rfl, moved⟩

theorem takeJob_eq_some {jobId : Nat} (taken : takeJob jobId db = some (next, after)) :
    ∃ job, db.jobs.find? jobId = some job ∧ job.state ≠ .active ∧
      next = .processing jobId job.taken .loading ∧ after = db.updateJob jobId DeliverJob.taken := by
  unfold takeJob at taken
  split at taken
  · rename_i job found
    split at taken
    · cases taken
    · rename_i free
      cases taken
      exact ⟨job, found, free, rfl, rfl⟩
  · cases taken

theorem WebhookEffect.of_start {call : WebhookCall} (moved : call.start db = some (next, after)) :
    WebhookEffect (.called call) next db after := by
  rcases WebhookCall.start_cases moved with ⟨jobId, rfl, taken⟩ | ⟨idle, endpoints, rfl⟩
  · obtain ⟨job, found, free, rfl, rfl⟩ := takeJob_eq_some taken
    exact .takes jobId job ⟨rfl, rfl⟩ rfl rfl found free (fun _ => rfl) rfl rfl
  · exact .of_idle ⟨rfl, rfl⟩ idle (fun _ => rfl) rfl rfl

theorem WebhookSession.move_cases (moved : session.move draw db = some (next, after)) :
    WebhookEffect session next db after := by
  cases session with
  | called call => exact .of_start moved
  | enabling id =>
    cases moved
    exact .of_idle ⟨rfl, rfl⟩ ⟨rfl, rfl⟩ (fun _ => rfl) rfl rfl
  | disabling id =>
    cases moved
    exact .of_idle ⟨rfl, rfl⟩ ⟨rfl, rfl⟩ (fun _ => rfl) rfl rfl
  | testing companyId webhookEndpointId =>
    cases moved
    exact .creates db.deliveries.nextId ⟨rfl, rfl⟩ rfl rfl WebhookDb.status?_nextId
      (fun _ => WebhookDb.status?_createDelivery _) rfl rfl
  | delivering remaining => exact .of_deliver (Option.some.inj moved)
  | queueing companyId deliveryId remaining =>
    cases moved
    exact .queues companyId deliveryId rfl rfl ⟨rfl, rfl⟩ (fun _ => rfl) rfl rfl
  | processing jobId job stage => exact .of_process (Option.some.inj moved)
  | answered result => cases moved

theorem WebhookSession.move_of_givesUp (moved : session.move draw db = some (next, after))
    (givesUp : session.GivesUp db) :
    ∃ jobId job, session.working = some (jobId, job) ∧ session.adding = none ∧ next.Idle ∧
      after = db.removeJob jobId := by
  cases session with
  | processing jobId job stage =>
    cases stage with
    | loading =>
      have givesUp : db.ownDelivery? job.companyId job.webhookDeliveryId = none := givesUp
      simp only [WebhookSession.move, WebhookDeliveryProcessor.process, givesUp] at moved
      cases moved
      exact ⟨jobId, job, rfl, rfl, ⟨rfl, rfl⟩, rfl⟩
    | resolving delivery =>
      have givesUp : (db.ownEndpoint? job.companyId delivery.webhookEndpointId).filter
        WebhookEndpoint.isActive = none := givesUp
      simp only [WebhookSession.move, WebhookDeliveryProcessor.process, givesUp] at moved
      cases moved
      exact ⟨jobId, job, rfl, rfl, ⟨rfl, rfl⟩, rfl⟩
    | _ => cases givesUp
  | _ => cases givesUp

end Cases

/-! ### Who works off what -/

/-- A job that is worked off is in the queue as it was taken up, and one call works it off. -/
structure JobsHeld {ι : Type} (world : WebhookWorld ι) : Prop where
  held : ∀ session jobId job, (world.sessions session).working = some (jobId, job) →
    world.rows.jobs.find? jobId = some job ∧ job.state = .active
  alone : ∀ first second jobId job other, (world.sessions first).working = some (jobId, job) →
    (world.sessions second).working = some (jobId, other) → first = second

section Held

variable {session next : WebhookSession} {db after : WebhookDb}

theorem WebhookEffect.jobs_kept (effect : WebhookEffect session next db after) {key : Nat}
    {job : DeliverJob} (found : db.jobs.find? key = some job) (active : job.state = .active)
    (others : ∀ mine, session.working ≠ some (key, mine)) : after.jobs.find? key = some job := by
  have differs : ∀ {jobId mine}, session.working = some (jobId, mine) → key ≠ jobId :=
    fun working same => others _ (same ▸ working)
  cases effect with
  | rests _ _ _ jobs => rwa [jobs]
  | sends _ _ _ _ _ _ _ jobs => rwa [jobs]
  | creates _ _ _ _ _ _ jobs => rwa [jobs]
  | requeues _ _ _ _ _ _ jobs => rwa [jobs]
  | queues _ _ _ _ _ _ jobs =>
    rw [jobs]
    exact Table.find?_create_old _ found
  | takes jobId waiting _ _ _ present free _ jobs =>
    have other : key ≠ jobId := by
      rintro rfl
      rw [present] at found
      cases found
      exact free active
    rwa [jobs, Table.find?_modify_of_ne _ _ other]
  | fails jobId mine _ working _ _ jobs =>
    rwa [jobs, Table.find?_modify_of_ne _ _ (differs working)]
  | settles jobId mine _ _ _ working _ _ jobs =>
    rw [jobs, Table.find?_delete, found]
    simp [differs working]
  | givesUp jobId mine _ _ working _ _ jobs =>
    rw [jobs, Table.find?_delete, found]
    simp [differs working]

theorem WebhookEffect.working_next (effect : WebhookEffect session next db after) {jobId : Nat}
    {job : DeliverJob} (works : next.working = some (jobId, job)) :
    (session.working = some (jobId, job) ∧ after.jobs = db.jobs) ∨
      ∃ waiting, db.jobs.find? jobId = some waiting ∧ waiting.state ≠ .active ∧
        job = waiting.taken ∧ after.jobs.find? jobId = some job := by
  have free : next.working = none → (session.working = some (jobId, job) ∧ after.jobs = db.jobs) ∨
      ∃ waiting, db.jobs.find? jobId = some waiting ∧ waiting.state ≠ .active ∧
        job = waiting.taken ∧ after.jobs.find? jobId = some job := by
    intro idle
    rw [idle] at works
    cases works
  cases effect with
  | rests _ same _ jobs => exact Or.inl ⟨same ▸ works, jobs⟩
  | sends _ _ _ _ working still _ jobs => exact Or.inl ⟨working.trans (still.symm.trans works), jobs⟩
  | creates _ _ _ idle => exact free idle
  | requeues _ _ _ _ idle => exact free idle
  | queues _ _ _ _ idle => exact free idle.working
  | takes id waiting _ _ working found busy _ jobs =>
    rw [working] at works
    cases works
    refine Or.inr ⟨waiting, found, busy, rfl, ?_⟩
    rw [jobs, Table.find?_modify_self, found]
    rfl
  | fails _ _ _ _ idle => exact free idle.working
  | settles _ _ _ _ _ _ idle => exact free idle.working
  | givesUp _ _ _ _ _ idle => exact free idle.working

variable {ι : Type}

theorem JobsHeld.start (calls : ι → WebhookCall) (rows : WebhookDb) :
    JobsHeld (webhookStart calls rows) :=
  ⟨nofun, nofun⟩

variable [DecidableEq ι] {input : ι × WebhookDraw} {before now : WebhookWorld ι}

theorem JobsHeld.step (kept : JobsHeld before)
    (accepted : WebhookSession.exec input before = .ok now) : JobsHeld now := by
  obtain ⟨next, rows, moved, rfl⟩ := Shared.exec_eq_ok.mp accepted
  have effect := WebhookSession.move_cases moved
  -- a job of another call is there, and is not the one of this call
  have others : ∀ session jobId job, session ≠ input.1 →
      (before.sessions session).working = some (jobId, job) →
      rows.jobs.find? jobId = some job ∧ job.state = .active ∧
        ∀ mine, next.working ≠ some (jobId, mine) := by
    intro session jobId job differs working
    obtain ⟨found, active⟩ := kept.held session jobId job working
    have notMine : ∀ mine, (before.sessions input.1).working ≠ some (jobId, mine) :=
      fun mine mine_ => differs (kept.alone _ _ _ _ _ working mine_)
    refine ⟨effect.jobs_kept found active notMine, active, fun mine works => ?_⟩
    rcases effect.working_next works with ⟨same, _⟩ | ⟨waiting, present, free, _⟩
    · exact notMine mine same
    · rw [present] at found
      cases found
      exact free active
  constructor
  · intro session jobId job working
    by_cases mine : session = input.1
    · subst mine
      have working : (update before.sessions input.1 next input.1).working = some (jobId, job) :=
        working
      rw [update_self] at working
      rcases effect.working_next working with ⟨same, jobs⟩ | ⟨waiting, _, _, taken, found⟩
      · rw [show rows.jobs.find? jobId = before.rows.jobs.find? jobId from by rw [jobs]]
        exact kept.held _ _ _ same
      · exact ⟨found, by rw [taken]; rfl⟩
    · have working : (update before.sessions input.1 next session).working = some (jobId, job) :=
        working
      rw [update_of_ne mine] at working
      obtain ⟨found, active, _⟩ := others session jobId job mine working
      exact ⟨found, active⟩
  · intro first second jobId job other first_ second_
    have first_ : (update before.sessions input.1 next first).working = some (jobId, job) := first_
    have second_ : (update before.sessions input.1 next second).working = some (jobId, other) :=
      second_
    by_cases mine : first = input.1
    · subst mine
      by_cases also : second = input.1
      · exact also.symm
      · rw [update_self] at first_
        rw [update_of_ne also] at second_
        exact absurd first_ ((others second jobId other also second_).2.2 job)
    · rw [update_of_ne mine] at first_
      by_cases also : second = input.1
      · subst also
        rw [update_self] at second_
        exact absurd second_ ((others first jobId job mine first_).2.2 other)
      · rw [update_of_ne also] at second_
        exact kept.alone _ _ _ _ _ first_ second_

end Held

end OpenEstate
