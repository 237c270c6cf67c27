/-
**Webhooks: rows and jobs.**

A delivery is a row of the database, the job that sends it a row of the queue. Both stores are
tables here, next to the requests that endpoints have received: a job that has been worked off is
gone from the queue.
-/

import OpenEstate.Relational.Table
import OpenEstate.Shared.ServiceError

namespace OpenEstate

open Relational

/-! ### Rows -/

structure WebhookEndpoint where
  companyId : Nat
  url : String
  eventTypes : List String
  isActive : Bool := true
  consecutiveFailures : Nat := 0
  disabledAt : Option Nat := none
  disabledReason : Option String := none

inductive DeliveryStatus
  | pending | success | exhausted
  deriving DecidableEq

namespace DeliveryStatus

def text : DeliveryStatus → String
  | pending => "PENDING"
  | success => "SUCCESS"
  | exhausted => "EXHAUSTED"

end DeliveryStatus

/-- What a delivery carries: the JSON text of an event, or the message of the test button, with the
time it was pressed. -/
inductive WebhookPayload
  | event (json : String)
  | testPing (sentAt : Nat)
  deriving DecidableEq

structure WebhookDelivery where
  companyId : Nat
  webhookEndpointId : Nat
  eventType : String
  payload : WebhookPayload
  status : DeliveryStatus := .pending
  attemptCount : Nat := 0
  createdAt : Nat
  completedAt : Option Nat := none

structure WebhookDeliveryAttempt where
  companyId : Nat
  webhookDeliveryId : Nat
  attemptNumber : Nat
  responseStatus : Option Nat
  responseSnippet : Option String
  errorMessage : Option String
  latencyMs : Nat

/-! ### Jobs -/

inductive JobState
  | waiting | delayed | active
  deriving DecidableEq

/-- The budget of a job, for a new delivery and for one that is sent again alike. -/
def retryAttempts : Nat := 6

structure DeliverJob where
  companyId : Nat
  webhookDeliveryId : Nat
  attempts : Nat := retryAttempts
  attemptsMade : Nat := 0
  state : JobState := .waiting

/-- A request that has gone out to an endpoint, with the delivery it was sent for. -/
structure WebhookRequest where
  url : String
  webhookDeliveryId : Nat
  body : WebhookPayload
  deriving DecidableEq

structure WebhookDb where
  endpoints : Table WebhookEndpoint
  deliveries : Table WebhookDelivery
  attempts : Table WebhookDeliveryAttempt
  jobs : Table DeliverJob
  requests : List WebhookRequest

namespace WebhookDb

def empty : WebhookDb := ⟨.empty, .empty, .empty, .empty, []⟩

def updateEndpoint (db : WebhookDb) (id : Nat) (change : WebhookEndpoint → WebhookEndpoint) :
    WebhookDb :=
  { db with endpoints := db.endpoints.modify id change }

def updateDelivery (db : WebhookDb) (id : Nat) (change : WebhookDelivery → WebhookDelivery) :
    WebhookDb :=
  { db with deliveries := db.deliveries.modify id change }

def updateJob (db : WebhookDb) (id : Nat) (change : DeliverJob → DeliverJob) : WebhookDb :=
  { db with jobs := db.jobs.modify id change }

def removeJob (db : WebhookDb) (id : Nat) : WebhookDb :=
  { db with jobs := db.jobs.delete fun key _ => key = id }

def addJob (db : WebhookDb) (companyId webhookDeliveryId : Nat) : WebhookDb :=
  { db with jobs := db.jobs.create { companyId, webhookDeliveryId } }

def ownEndpoint? (db : WebhookDb) (companyId id : Nat) : Option WebhookEndpoint :=
  (db.endpoints.find? id).filter (·.companyId = companyId)

def ownDelivery? (db : WebhookDb) (companyId id : Nat) : Option WebhookDelivery :=
  (db.deliveries.find? id).filter (·.companyId = companyId)

def status? (db : WebhookDb) (id : Nat) : Option DeliveryStatus :=
  (db.deliveries.find? id).map WebhookDelivery.status

def requestsFor (db : WebhookDb) (id : Nat) : List WebhookRequest :=
  db.requests.filter (·.webhookDeliveryId = id)

end WebhookDb

end OpenEstate
