/-
**Webhooks: the circuit breaker.**

An endpoint counts the deliveries that were exhausted in a row, and is switched off at the tenth. The
processors of many deliveries write the counter next to each other and to an administrator, each
with a statement that decides from the row as it is.

* `exhaustionsSince` counts the exhaustions in the history of an endpoint, since the latest statement
  that starts the count again;
* `BreakerEffect` is what a statement does to endpoints: `WebhookSession.move_breaker`;
* `breaker_exact`: the counter, the switch and the reason are right in every run.
-/

import OpenEstate.Relational.History
import OpenEstate.Webhooks.Session

namespace OpenEstate

open Relational

/-! ### The history of an endpoint -/

namespace WebhookSession

/-- A statement that starts the count of an endpoint again: it creates the endpoint, enables it, or
records a success while it is active. -/
def restarts (db : WebhookDb) (id : Nat) : WebhookSession → Bool
  | .called (.createEndpoint _ _ _) => id = db.endpoints.nextId
  | .enabling key => id = key
  | .processing _ _ (.resetting key) =>
    id = key ∧ (db.endpoints.find? id).any WebhookEndpoint.isActive = true
  | _ => false

def exhausts (id : Nat) : WebhookSession → Bool
  | .processing _ _ (.incrementing key) => id = key
  | _ => false

def isProcessor : WebhookSession → Bool
  | .called (.process _) => true
  | .processing _ _ _ => true
  | _ => false

end WebhookSession

section History

variable {ι : Type}

def exhaustionsSince (id : Nat) (history : List (Step (WebhookWorld ι) (ι × WebhookDraw))) : Nat :=
  (sinceLast (fun step => (step.before.sessions step.input.1).restarts step.before.rows id)
    history).countP fun step => (step.before.sessions step.input.1).exhausts id

theorem exhaustionsSince_snoc (id : Nat) (history : List (Step (WebhookWorld ι) (ι × WebhookDraw)))
    (step : Step (WebhookWorld ι) (ι × WebhookDraw)) :
    exhaustionsSince id (history ++ [step]) =
      if (step.before.sessions step.input.1).restarts step.before.rows id then 0
      else exhaustionsSince id history +
        if (step.before.sessions step.input.1).exhausts id then 1 else 0 := by
  unfold exhaustionsSince
  rw [sinceLast_snoc]
  split
  · rfl
  · rw [List.countP_cons]

end History

/-! ### What statements do to endpoints -/

inductive BreakerEffect (session : WebhookSession) (db after : WebhookDb) : Prop
  | creates (companyId : Nat) (url : String) (eventTypes : List String)
      (is : session = .called (.createEndpoint companyId url eventTypes))
      (endpoints : after.endpoints = db.endpoints.create { companyId, url, eventTypes })
  | enables (key : Nat) (is : session = .enabling key)
      (endpoints : after.endpoints = db.endpoints.modify key WebhookEndpoint.enabled)
  | disables (key now : Nat) (is : session = .disabling key)
      (endpoints : after.endpoints = db.endpoints.modify key (WebhookEndpoint.disabled now))
  | succeeds (jobId : Nat) (job : DeliverJob) (key : Nat)
      (is : session = .processing jobId job (.resetting key))
      (endpoints : after.endpoints = db.endpoints.modify key WebhookEndpoint.withSuccess)
  | exhausts (jobId : Nat) (job : DeliverJob) (key now : Nat)
      (is : session = .processing jobId job (.incrementing key))
      (endpoints : after.endpoints = db.endpoints.modify key (WebhookEndpoint.withExhaustion now))
  | leaves (restarts : ∀ id, session.restarts db id = false)
      (exhausts : ∀ id, session.exhausts id = false) (endpoints : after.endpoints = db.endpoints)

theorem WebhookSession.move_breaker {draw : WebhookDraw} {session next : WebhookSession}
    {db after : WebhookDb} (moved : session.move draw db = some (next, after)) :
    BreakerEffect session db after := by
  cases session with
  | called call =>
    cases call with
    | createEndpoint companyId url eventTypes =>
      cases moved
      exact .creates companyId url eventTypes rfl rfl
    | process jobId =>
      obtain ⟨_, _, _, _, rfl⟩ := takeJob_eq_some moved
      exact .leaves (fun _ => rfl) (fun _ => rfl) rfl
    | _ =>
      cases moved
      exact .leaves (fun _ => rfl) (fun _ => rfl) rfl
  | enabling id =>
    cases moved
    exact .enables id rfl rfl
  | disabling id =>
    cases moved
    exact .disables id draw.now rfl rfl
  | testing companyId webhookEndpointId =>
    cases moved
    exact .leaves (fun _ => rfl) (fun _ => rfl) rfl
  | delivering remaining =>
    have same : after.endpoints = db.endpoints := by
      rcases remaining with ⟨_, _, _, _, endpointIds⟩ | ⟨_, deliveryIds, _⟩ | result
      · cases endpointIds <;> cases moved <;> rfl
      · cases deliveryIds <;> cases moved <;> rfl
      · cases moved
        rfl
    exact .leaves (fun _ => rfl) (fun _ => rfl) same
  | queueing companyId deliveryId remaining =>
    cases moved
    exact .leaves (fun _ => rfl) (fun _ => rfl) rfl
  | processing jobId job stage =>
    simp only [WebhookSession.move, Option.some.injEq] at moved
    cases stage with
    | resetting endpointId =>
      cases moved
      exact .succeeds jobId job endpointId rfl rfl
    | incrementing endpointId =>
      cases moved
      exact .exhausts jobId job endpointId draw.now rfl rfl
    | loading =>
      simp only [WebhookDeliveryProcessor.process] at moved
      split at moved <;> cases moved <;> exact .leaves (fun _ => rfl) (fun _ => rfl) rfl
    | resolving delivery =>
      simp only [WebhookDeliveryProcessor.process] at moved
      split at moved <;> cases moved <;> exact .leaves (fun _ => rfl) (fun _ => rfl) rfl
    | counting endpointId outcome =>
      simp only [WebhookDeliveryProcessor.process] at moved
      split at moved
      · cases moved
        exact .leaves (fun _ => rfl) (fun _ => rfl) rfl
      · split at moved <;> cases moved <;> exact .leaves (fun _ => rfl) (fun _ => rfl) rfl
    | sending delivery endpoint =>
      cases moved
      exact .leaves (fun _ => rfl) (fun _ => rfl) rfl
    | logging endpointId outcome =>
      cases moved
      exact .leaves (fun _ => rfl) (fun _ => rfl) rfl
    | succeeding =>
      cases moved
      exact .leaves (fun _ => rfl) (fun _ => rfl) rfl
    | exhausting =>
      cases moved
      exact .leaves (fun _ => rfl) (fun _ => rfl) rfl
  | answered result => cases moved

/-! ### The breaker -/

namespace WebhookEndpoint

/-- An active endpoint has failed fewer times in a row than it takes to switch it off, and there is
no reason why it should be off. -/
structure Sound (endpoint : WebhookEndpoint) : Prop where
  few : endpoint.isActive = true → endpoint.consecutiveFailures < webhookDisableThreshold
  noReason : endpoint.isActive = true → endpoint.disabledReason = none

variable {endpoint : WebhookEndpoint}

theorem webhookDisableThreshold_pos : 0 < webhookDisableThreshold := by
  decide

theorem sound_enabled (endpoint : WebhookEndpoint) : endpoint.enabled.Sound :=
  ⟨fun _ => webhookDisableThreshold_pos, fun _ => rfl⟩

theorem sound_disabled (now : Nat) (endpoint : WebhookEndpoint) : (endpoint.disabled now).Sound :=
  ⟨nofun, nofun⟩

theorem Sound.withSuccess (sound : endpoint.Sound) : endpoint.withSuccess.Sound := by
  unfold WebhookEndpoint.withSuccess
  split
  · rename_i active
    exact ⟨fun _ => webhookDisableThreshold_pos, fun _ => sound.noReason active⟩
  · exact sound

theorem Sound.withExhaustion (now : Nat) (sound : endpoint.Sound) :
    (endpoint.withExhaustion now).Sound := by
  unfold WebhookEndpoint.withExhaustion
  by_cases reached : webhookDisableThreshold ≤ endpoint.consecutiveFailures + 1
  · simp only [reached, if_true]
    exact ⟨nofun, nofun⟩
  · simp only [reached, if_false, false_and]
    exact ⟨fun _ => Nat.lt_of_not_le reached, sound.noReason⟩

/-- **What a processor may do to an endpoint**: it switches it off only with the failure that is one
too many, and leaves one that is off as it is, but for the counter. -/
structure TrippedOnly (endpoint after : WebhookEndpoint) : Prop where
  atThreshold : endpoint.isActive = true → after.isActive = false →
    after.consecutiveFailures = webhookDisableThreshold ∧ after.disabledReason = some autoDisabled
  staysOff : endpoint.isActive = false → after.isActive = false ∧
    after.disabledAt = endpoint.disabledAt ∧ after.disabledReason = endpoint.disabledReason
  reasonStays : ∀ reason, endpoint.disabledReason = some reason →
    after.disabledReason = some reason

theorem TrippedOnly.refl (endpoint : WebhookEndpoint) : endpoint.TrippedOnly endpoint := by
  refine ⟨fun active off => ?_, fun off => ⟨off, rfl, rfl⟩, fun _ is => is⟩
  rw [active] at off
  cases off

theorem trippedOnly_withSuccess (endpoint : WebhookEndpoint) :
    endpoint.TrippedOnly endpoint.withSuccess := by
  unfold WebhookEndpoint.withSuccess
  split
  · rename_i active
    refine ⟨fun _ off => ?_, fun off => ⟨off, rfl, rfl⟩, fun _ is => is⟩
    have off : endpoint.isActive = false := off
    rw [active] at off
    cases off
  · exact .refl endpoint

theorem Sound.trippedOnly (sound : endpoint.Sound) (now : Nat) :
    endpoint.TrippedOnly (endpoint.withExhaustion now) := by
  unfold WebhookEndpoint.withExhaustion
  constructor
  · intro active off
    have few := sound.few active
    by_cases reached : webhookDisableThreshold ≤ endpoint.consecutiveFailures + 1
    · simp only [reached, active, and_self, if_true]
      exact ⟨Nat.le_antisymm few reached, trivial⟩
    · simp only [reached, if_false, active] at off
      cases off
  · intro off
    simp [off]
  · intro reason is
    have off : endpoint.isActive = false := by
      by_contra on
      rw [sound.noReason (eq_true_of_ne_false on)] at is
      cases is
    simpa [off] using is

end WebhookEndpoint

section Runs

variable {ι : Type} [DecidableEq ι]

def EndpointsSound (world : WebhookWorld ι) : Prop :=
  world.rows.endpoints.All WebhookEndpoint.Sound

variable {input : ι × WebhookDraw} {before after : WebhookWorld ι}

theorem EndpointsSound.step (sound : EndpointsSound before)
    (accepted : WebhookSession.exec input before = .ok after) : EndpointsSound after := by
  obtain ⟨next, rows, moved, rfl⟩ := Shared.exec_eq_ok.mp accepted
  show rows.endpoints.All WebhookEndpoint.Sound
  cases WebhookSession.move_breaker moved with
  | creates companyId url eventTypes _ endpoints =>
    rw [endpoints, Table.all_create]
    exact ⟨sound, fun _ => WebhookEndpoint.webhookDisableThreshold_pos, fun _ => rfl⟩
  | enables key _ endpoints =>
    rw [endpoints]
    exact sound.modify fun endpoint _ _ => endpoint.sound_enabled
  | disables key now _ endpoints =>
    rw [endpoints]
    exact sound.modify fun endpoint _ _ => endpoint.sound_disabled now
  | succeeds _ _ key _ endpoints =>
    rw [endpoints]
    exact sound.modify fun _ _ its => its.withSuccess
  | exhausts _ _ key now _ endpoints =>
    rw [endpoints]
    exact sound.modify fun _ _ its => its.withExhaustion now
  | leaves _ _ endpoints =>
    rw [endpoints]
    exact sound

/-- **A statement keeps the count**: it starts it again, or records an exhaustion, or leaves it. -/
theorem counted_step (accepted : WebhookSession.exec input before = .ok after) {id count : Nat}
    (counted : ∀ endpoint, before.rows.endpoints.find? id = some endpoint →
      endpoint.consecutiveFailures = count) :
    ∀ endpoint, after.rows.endpoints.find? id = some endpoint → endpoint.consecutiveFailures =
      if (before.sessions input.1).restarts before.rows id then 0
      else count + if (before.sessions input.1).exhausts id then 1 else 0 := by
  obtain ⟨next, rows, moved, rfl⟩ := Shared.exec_eq_ok.mp accepted
  intro endpoint (found : rows.endpoints.find? id = some endpoint)
  cases WebhookSession.move_breaker moved with
  | creates companyId url eventTypes is endpoints =>
    rw [endpoints, Table.find?_create] at found
    simp only [is, WebhookSession.restarts, WebhookSession.exhausts, decide_eq_true_eq]
    split at found
    · rename_i new
      cases found
      rw [if_pos new]
    · rename_i old
      rw [if_neg old]
      exact counted endpoint found
  | enables key is endpoints =>
    rw [endpoints] at found
    simp only [is, WebhookSession.restarts, WebhookSession.exhausts, decide_eq_true_eq]
    rcases Table.find?_modify_eq_some.mp found with ⟨mine, was, _, rfl⟩ | ⟨other, found⟩
    · rw [if_pos mine]
      rfl
    · rw [if_neg other]
      exact counted endpoint found
  | disables key now is endpoints =>
    rw [endpoints] at found
    simp only [is, WebhookSession.restarts, WebhookSession.exhausts]
    rcases Table.find?_modify_eq_some.mp found with ⟨rfl, was, present, rfl⟩ | ⟨_, found⟩
    · exact counted was present
    · exact counted endpoint found
  | succeeds jobId job key is endpoints =>
    rw [endpoints] at found
    simp only [is, WebhookSession.restarts, WebhookSession.exhausts, decide_eq_true_eq]
    rcases Table.find?_modify_eq_some.mp found with ⟨rfl, was, present, rfl⟩ | ⟨other, found⟩
    · rw [present]
      unfold WebhookEndpoint.withSuccess
      by_cases active : was.isActive = true
      · simp [active]
      · simp [active, counted was present]
    · rw [if_neg fun both => other both.1]
      exact counted endpoint found
  | exhausts jobId job key now is endpoints =>
    rw [endpoints] at found
    simp only [is, WebhookSession.restarts, WebhookSession.exhausts, decide_eq_true_eq]
    rcases Table.find?_modify_eq_some.mp found with ⟨rfl, was, present, rfl⟩ | ⟨other, found⟩
    · rw [if_pos rfl]
      show was.consecutiveFailures + 1 = count + 1
      rw [counted was present]
    · rw [if_neg other]
      exact counted endpoint found
  | leaves restarts exhausts endpoints =>
    rw [restarts, exhausts]
    rw [endpoints] at found
    exact counted endpoint found

/-- **A processor trips the breaker and does nothing else** to the switch and the reason. -/
theorem trippedOnly_step (sound : EndpointsSound before)
    (accepted : WebhookSession.exec input before = .ok after)
    (processor : (before.sessions input.1).isProcessor = true) {id : Nat}
    {endpoint : WebhookEndpoint} (found : before.rows.endpoints.find? id = some endpoint) :
    ∃ now, after.rows.endpoints.find? id = some now ∧ endpoint.TrippedOnly now ∧
      (endpoint.isActive = true → now.isActive = false →
        (before.sessions input.1).exhausts id = true) := by
  obtain ⟨next, rows, moved, rfl⟩ := Shared.exec_eq_ok.mp accepted
  show ∃ now, rows.endpoints.find? id = some now ∧ _
  have stays : ∀ now, endpoint = now → endpoint.isActive = true → now.isActive = false →
      (before.sessions input.1).exhausts id = true := by
    rintro _ rfl active off
    rw [active] at off
    cases off
  have unmoved : rows.endpoints.find? id = some endpoint →
      ∃ now, rows.endpoints.find? id = some now ∧ endpoint.TrippedOnly now ∧
        (endpoint.isActive = true → now.isActive = false →
          (before.sessions input.1).exhausts id = true) :=
    fun same => ⟨endpoint, same, .refl endpoint, stays endpoint rfl⟩
  cases WebhookSession.move_breaker moved with
  | creates companyId url eventTypes is =>
    rw [is] at processor
    cases processor
  | enables key is =>
    rw [is] at processor
    cases processor
  | disables key now is =>
    rw [is] at processor
    cases processor
  | succeeds jobId job key is endpoints =>
    by_cases mine : id = key
    · subst mine
      have tripped := endpoint.trippedOnly_withSuccess
      refine ⟨endpoint.withSuccess, by rw [endpoints, Table.find?_modify_self, found]; rfl,
        tripped, fun active off => ?_⟩
      -- a success does not switch an endpoint off
      unfold WebhookEndpoint.withSuccess at off
      rw [if_pos active] at off
      exact stays endpoint rfl active off
    · exact unmoved (by rw [endpoints, Table.find?_modify_of_ne _ _ mine, found])
  | exhausts jobId job key now is endpoints =>
    by_cases mine : id = key
    · subst mine
      refine ⟨endpoint.withExhaustion now, by rw [endpoints, Table.find?_modify_self, found]; rfl,
        (sound id endpoint found).trippedOnly now, fun _ _ => ?_⟩
      rw [is]
      simp [WebhookSession.exhausts]
    · exact unmoved (by rw [endpoints, Table.find?_modify_of_ne _ _ mine, found])
  | leaves _ _ endpoints => exact unmoved (by rw [endpoints, found])

/-- **The breaker is exact**, at the end of a history and in each of its steps: the counter is the
number of exhaustions since the count started last, and an active endpoint has fewer than it takes;
processors trip the breaker, and leave the switch and the reason alone otherwise. -/
structure BreakerExact (id : Nat) (history : List (Step (WebhookWorld ι) (ι × WebhookDraw)))
    (world : WebhookWorld ι) : Prop where
  counter : ∀ endpoint, world.rows.endpoints.find? id = some endpoint →
    endpoint.consecutiveFailures = exhaustionsSince id history
  fewer : ∀ endpoint, world.rows.endpoints.find? id = some endpoint → endpoint.isActive = true →
    endpoint.consecutiveFailures < webhookDisableThreshold
  processors : ∀ step ∈ history, (step.before.sessions step.input.1).isProcessor = true →
    ∀ endpoint, step.before.rows.endpoints.find? id = some endpoint →
      ∃ now, step.after.rows.endpoints.find? id = some now ∧ endpoint.TrippedOnly now ∧
        (endpoint.isActive = true → now.isActive = false →
          (step.before.sessions step.input.1).exhausts id = true)

/-- **The counter** of an endpoint is the number of exhaustions since the count started last. -/
theorem counter_run (calls : ι → WebhookCall) (schedule : List (ι × WebhookDraw)) (id : Nat) :
    ∀ endpoint, (run WebhookSession.exec (webhookStart calls .empty) schedule).rows.endpoints.find? id =
        some endpoint → endpoint.consecutiveFailures =
      exhaustionsSince id (steps WebhookSession.exec (webhookStart calls .empty) schedule) := by
  have kept : ∀ history (input : ι × WebhookDraw) (before after : WebhookWorld ι),
      (∀ endpoint, before.rows.endpoints.find? id = some endpoint →
        endpoint.consecutiveFailures = exhaustionsSince id history) →
      WebhookSession.exec input before = .ok after → True →
      ∀ endpoint, after.rows.endpoints.find? id = some endpoint →
        endpoint.consecutiveFailures = exhaustionsSince id (history ++ [⟨before, input, after⟩]) := by
    intro history input before after counted accepted _ endpoint found
    rw [exhaustionsSince_snoc]
    exact counted_step accepted counted endpoint found
  refine history_invariant (fun history (world : WebhookWorld ι) =>
    ∀ endpoint, world.rows.endpoints.find? id = some endpoint →
      endpoint.consecutiveFailures = exhaustionsSince id history) kept ?_ schedule fun _ _ => trivial
  intro endpoint found
  cases found

/-- **The circuit breaker is exact** in every run. -/
theorem breaker_exact (calls : ι → WebhookCall) (schedule : List (ι × WebhookDraw)) (id : Nat) :
    BreakerExact id (steps WebhookSession.exec (webhookStart calls .empty) schedule)
      (run WebhookSession.exec (webhookStart calls .empty) schedule) := by
  have sound : ∀ visited ∈ states WebhookSession.exec (webhookStart calls .empty) schedule,
      EndpointsSound visited :=
    states_invariant EndpointsSound
      (fun input before after kept accepted (_ : True) => EndpointsSound.step kept accepted)
      (fun _ _ => trivial) Table.All.empty
  refine ⟨counter_run calls schedule id, fun endpoint found active => ?_,
    fun step member processor endpoint found => ?_⟩
  · exact (sound _ (run_mem_states _ schedule) id endpoint found).few active
  · exact trippedOnly_step (sound _ (before_mem_states member)) (mem_steps member).2 processor found

end Runs

end OpenEstate
