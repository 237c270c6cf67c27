/-
**The broker's no-objection certificate.**

A booking with a sourcing broker is only cancelled once a certificate (NOC) for it is approved. A
certificate is requested of the broker the booking has by then, and counts for the booking whoever
gave it: it outlives the assignment of another broker.

* `BookingController.cancel` is the gate and the cancellation; without the certificates it is the
  cancellation of the commission system (`BookingController.cancel_refines`);
* `NocDb.keepsConsent` is the condition on a step: no booking goes to a broker whose certificate it lacks
  when it has another one's, and only the current broker's certificate is approved;
* `consented_iff`: exactly in the runs of such steps is every approved booking approved by its own
  broker;
* **`cancelled_with_consent`**: in such a run, a booking with an active broker is only cancelled
  with the certificate of that broker.
-/

import OpenEstate.Commission.System

namespace OpenEstate

open Relational

/-! ### Tables -/

inductive NocStatus
  | requested | approved | rejected
  deriving DecidableEq

def NocStatus.text : NocStatus → String
  | .requested => "REQUESTED"
  | .approved => "APPROVED"
  | .rejected => "REJECTED"

structure Broker where
  isActive : Bool := true

structure BrokerNoc where
  bookingId : Nat
  brokerId : Nat
  status : NocStatus
  reason : Option String := none

/-- The tables of the commission system, with the brokers and their certificates. -/
structure NocDb extends CommissionDb where
  brokers : Table Broker := .empty
  nocs : Table BrokerNoc := .empty

def NocDb.onCommission (db : NocDb) (change : CommissionDb → CommissionDb) : NocDb :=
  { db with toCommissionDb := change db.toCommissionDb }

/-! ### Brokers -/

def setBrokerActive (isActive : Bool) (brokerId : Nat) (db : NocDb) : Except ServiceError NocDb := do
  let _ ← orThrow (db.brokers.find? brokerId) (.notFound "Broker not found")
  return { db with brokers := db.brokers.modify brokerId fun broker => { broker with isActive } }

def BrokerService.deactivate : Nat → NocDb → Except ServiceError NocDb := setBrokerActive false

def BrokerService.reactivate : Nat → NocDb → Except ServiceError NocDb := setBrokerActive true

def NocDb.isInactive (db : NocDb) (brokerId : Nat) : Bool :=
  (db.brokers.find? brokerId).any fun broker => !broker.isActive

/-! ### Certificates -/

def BrokerNoc.isApprovedFor (noc : BrokerNoc) (bookingId : Nat) : Bool :=
  noc.bookingId = bookingId ∧ noc.status = .approved

def NocDb.hasApproved (db : NocDb) (bookingId : Nat) : Bool :=
  db.nocs.any fun _ noc => noc.isApprovedFor bookingId

def NocDb.hasApprovedBy (db : NocDb) (bookingId brokerId : Nat) : Bool :=
  db.nocs.any fun _ noc => noc.isApprovedFor bookingId ∧ noc.brokerId = brokerId

structure RequestNocDto where
  reason : Option String := none

structure RejectNocDto where
  reason : String

def NocService.request (bookingId : Nat) (dto : RequestNocDto) (db : NocDb) :
    Except ServiceError NocDb := do
  let _ ← orThrow (db.bookings.find? bookingId) (.notFound "Booking not found")
  let brokerId ← orThrow (db.brokerOf bookingId) (.badRequest "Booking has no sourcing broker")
  return { db with
    nocs := db.nocs.create { bookingId, brokerId, status := .requested, reason := dto.reason } }

/-- A certificate within the scope of a request: in the broker portal only the broker's own. -/
def NocDb.findNoc (db : NocDb) (portalBrokerId : Option Nat) (nocId : Nat) : Option BrokerNoc :=
  (db.nocs.find? nocId).filter fun noc => ∀ brokerId ∈ portalBrokerId, noc.brokerId = brokerId

def decideNoc (verb : String) (decision : BrokerNoc → BrokerNoc) (portalBrokerId : Option Nat)
    (nocId : Nat) (db : NocDb) : Except ServiceError NocDb := do
  let noc ← orThrow (db.findNoc portalBrokerId nocId) (.notFound "NOC not found")
  ensure (noc.status = .requested)
    (.conflict s!"NOC is {noc.status.text}; only REQUESTED can be {verb}")
  return { db with nocs := db.nocs.modify nocId decision }

def BrokerNoc.asApproved (noc : BrokerNoc) : BrokerNoc := { noc with status := .approved }

def BrokerNoc.asRejected (reason : String) (noc : BrokerNoc) : BrokerNoc :=
  { noc with status := .rejected, reason := some reason }

def NocService.approve : Option Nat → Nat → NocDb → Except ServiceError NocDb :=
  decideNoc "approved" BrokerNoc.asApproved

def NocService.reject (dto : RejectNocDto) : Option Nat → Nat → NocDb → Except ServiceError NocDb :=
  decideNoc "rejected" (BrokerNoc.asRejected dto.reason)

/-! ### Cancelling -/

/-- The gate of a cancellation: a certificate for the booking is approved. An inactive broker is not
asked: his is approved for him if there is none. -/
def NocService.assertApprovedOrAutoApprove (bookingId brokerId : Nat) (db : NocDb) :
    Except ServiceError NocDb :=
  if db.isInactive brokerId then
    if db.hasApproved bookingId then .ok db
    else .ok { db with
      nocs := db.nocs.create
        { bookingId, brokerId, status := .approved
          reason := some "broker_inactive_auto_approved" } }
  else do
    ensure (db.hasApproved bookingId = true) (.badRequest
      ("Cancellation is blocked: this booking has a sourcing broker and no APPROVED NOC exists. " ++
        "Request and approve an NOC first."))
    return db

def BookingController.cancel (masters : BrokerMasters) (bookingId : Nat) (dto : CancellationDto)
    (db : NocDb) : Except ServiceError NocDb :=
  match (db.bookings.find? bookingId).bind fun _ => db.brokerOf bookingId with
  | none => (fun cancelled => db.onCommission (·.onDb fun _ => cancelled)) <$>
      OpenEstate.cancel masters.toMasters bookingId dto db.toDb
  | some brokerId => do
    let gated ← NocService.assertApprovedOrAutoApprove bookingId brokerId db
    let cancelled ← OpenEstate.cancel masters.toMasters bookingId dto gated.toDb
    return gated.onCommission fun commission =>
      (commission.onDb fun _ => cancelled).handleBookingCancelled masters.clawbackPolicy bookingId
        brokerId

/-! ### Requests -/

inductive NocOp
  | createBroker
  | deactivateBroker (brokerId : Nat)
  | reactivateBroker (brokerId : Nat)
  | requestNoc (bookingId : Nat) (dto : RequestNocDto)
  | approveNoc (portalBrokerId : Option Nat) (nocId : Nat)
  | rejectNoc (portalBrokerId : Option Nat) (nocId : Nat) (dto : RejectNocDto)
  | commission (op : CommissionOp)

structure NocRequest where
  masters : BrokerMasters := {}
  op : NocOp

/-- The masters of a request: which brokers there are is what the table says. -/
def NocRequest.mastersIn (request : NocRequest) (db : NocDb) : BrokerMasters :=
  { request.masters with brokers := fun brokerId => (db.brokers.find? brokerId).isSome }

/-- Carry out one operation. A booking is only cancelled through the gate. -/
def execNoc (request : NocRequest) (db : NocDb) : Except ServiceError NocDb :=
  match request.op with
  | .createBroker => .ok { db with brokers := db.brokers.create {} }
  | .deactivateBroker brokerId => BrokerService.deactivate brokerId db
  | .reactivateBroker brokerId => BrokerService.reactivate brokerId db
  | .requestNoc bookingId dto => NocService.request bookingId dto db
  | .approveNoc portalBrokerId nocId => NocService.approve portalBrokerId nocId db
  | .rejectNoc portalBrokerId nocId dto => NocService.reject dto portalBrokerId nocId db
  | .commission (.core (.cancel bookingId dto)) =>
    BookingController.cancel request.masters bookingId dto db
  | .commission op => (fun commission => db.onCommission fun _ => commission) <$>
      execCommission ⟨request.mastersIn db, op⟩ db.toCommissionDb

/-! ### Without the certificates -/

def NocDb.gate (db : NocDb) (bookingId : Nat) : Bool :=
  db.hasApproved bookingId ∨ (db.brokerOf bookingId).any db.isInactive

variable {bookingId brokerId : Nat} {db : NocDb}

theorem assertApprovedOrAutoApprove_eq_ok {gated : NocDb}
    (passed : NocService.assertApprovedOrAutoApprove bookingId brokerId db = .ok gated) :
    (db.hasApproved bookingId = true ∧ gated = db) ∨
      (db.isInactive brokerId = true ∧ ∃ reason, gated =
        { db with nocs := db.nocs.create { bookingId, brokerId, status := .approved, reason } }) := by
  unfold NocService.assertApprovedOrAutoApprove at passed
  split at passed
  · rename_i inactive
    split at passed
    · rename_i approved
      cases passed
      exact Or.inl ⟨approved, rfl⟩
    · cases passed
      exact Or.inr ⟨inactive, _, rfl⟩
  · simp only [bind_eq_ok, ensure_eq_ok, pure_eq_ok] at passed
    obtain ⟨_, approved, rfl⟩ := passed
    exact Or.inl ⟨approved, rfl⟩

variable {after : NocDb}

theorem BookingController.cancel_refines {masters : BrokerMasters} {dto : CancellationDto}
    (accepted : BookingController.cancel masters bookingId dto db = .ok after) :
    cancelBooking { masters with nocApproved := db.gate } bookingId dto db.toCommissionDb =
      .ok after.toCommissionDb := by
  unfold BookingController.cancel at accepted
  unfold cancelBooking
  cases sourced : (db.bookings.find? bookingId).bind fun _ => db.brokerOf bookingId with
  | none =>
    simp only [sourced] at accepted ⊢
    obtain ⟨cancelled, answered, rfl⟩ := map_eq_ok.mp accepted
    exact map_eq_ok.mpr ⟨cancelled, answered, rfl⟩
  | some brokerId =>
    obtain ⟨_, _, broker⟩ := Option.bind_eq_some_iff.mp sourced
    simp only [sourced, bind_eq_ok, pure_eq_ok] at accepted
    obtain ⟨gated, passed, cancelled, answered, rfl⟩ := accepted
    simp only [bind_eq_ok, ensure_eq_ok, pure_eq_ok]
    rcases assertApprovedOrAutoApprove_eq_ok passed with ⟨approved, rfl⟩ | ⟨inactive, _, rfl⟩
    · exact ⟨(), by simp [NocDb.gate, approved], cancelled, answered, rfl⟩
    · exact ⟨(), by simp [NocDb.gate, broker, inactive], cancelled, answered, rfl⟩

/-! ### Who has consented -/

theorem hasApprovedBy_iff :
    db.hasApprovedBy bookingId brokerId = true ↔ ∃ id noc, db.nocs.find? id = some noc ∧
      noc.isApprovedFor bookingId = true ∧ noc.brokerId = brokerId := by
  rw [NocDb.hasApprovedBy, Table.any_eq_true]
  simp only [decide_eq_true_eq]

theorem hasApproved_iff :
    db.hasApproved bookingId = true ↔ ∃ brokerId, db.hasApprovedBy bookingId brokerId = true := by
  simp only [hasApprovedBy_iff, NocDb.hasApproved, Table.any_eq_true]
  constructor
  · rintro ⟨id, noc, found, approved⟩
    exact ⟨noc.brokerId, id, noc, found, approved, rfl⟩
  · rintro ⟨_, id, noc, found, approved, _⟩
    exact ⟨id, noc, found, approved⟩

variable {noc : BrokerNoc}

theorem hasApprovedBy_create (created : after.nocs = db.nocs.create noc) :
    after.hasApprovedBy bookingId brokerId = true ↔ db.hasApprovedBy bookingId brokerId = true ∨
      (noc.isApprovedFor bookingId = true ∧ noc.brokerId = brokerId) := by
  simp only [hasApprovedBy_iff, created, Table.find?_create_eq_some]
  constructor
  · rintro ⟨id, row, ⟨rfl, rfl⟩ | old, approved⟩
    · exact Or.inr approved
    · exact Or.inl ⟨id, row, old, approved⟩
  · rintro (⟨id, row, found, approved⟩ | approved)
    · exact ⟨id, row, Or.inr found, approved⟩
    · exact ⟨_, noc, Or.inl ⟨rfl, rfl⟩, approved⟩

variable {nocId : Nat}

theorem hasApprovedBy_decide {decision : BrokerNoc → BrokerNoc}
    (decided : after.nocs = db.nocs.modify nocId decision) (found : db.nocs.find? nocId = some noc)
    (requested : noc.status = .requested) :
    after.hasApprovedBy bookingId brokerId = true ↔ db.hasApprovedBy bookingId brokerId = true ∨
      ((decision noc).isApprovedFor bookingId = true ∧ (decision noc).brokerId = brokerId) := by
  have undecided : noc.isApprovedFor bookingId = false := by
    simp [BrokerNoc.isApprovedFor, requested]
  simp only [hasApprovedBy_iff, decided, Table.find?_modify]
  constructor
  · rintro ⟨id, row, there, approved⟩
    split at there
    · rename_i same
      rw [same, found, Option.map_some, Option.some.injEq] at there
      subst there
      exact Or.inr approved
    · exact Or.inl ⟨id, row, there, approved⟩
  · rintro (⟨id, row, there, approved, named⟩ | approved)
    · have other : id ≠ nocId := by
        rintro rfl
        rw [found, Option.some.injEq] at there
        subst there
        rw [undecided] at approved
        cases approved
      exact ⟨id, row, by rw [if_neg other, there], approved, named⟩
    · exact ⟨nocId, decision noc, by rw [if_pos rfl, found, Option.map_some], approved⟩

/-- Every booking with an approved certificate has one of its current broker. -/
def NocDb.Consented (db : NocDb) : Prop :=
  ∀ bookingId other, db.hasApprovedBy bookingId other = true →
    ∃ brokerId, db.brokerOf bookingId = some brokerId ∧
      db.hasApprovedBy bookingId brokerId = true

/-- **A step that keeps consent**: a booking with an approved certificate is only assigned to a
broker who has given one, and a certificate is only approved if it is the current broker's or he has
given one. -/
def NocDb.keepsConsent (db : NocDb) : NocOp → Bool
  | .commission (.assignToBooking bookingId brokerId) =>
    db.hasApproved bookingId → db.hasApprovedBy bookingId brokerId
  | .approveNoc _ nocId => (db.nocs.find? nocId).all fun noc =>
    (db.brokerOf noc.bookingId).any fun brokerId =>
      noc.brokerId = brokerId ∨ db.hasApprovedBy noc.bookingId brokerId
  | _ => true

theorem NocDb.Consented.congr (consented : db.Consented) (brokerOf : after.brokerOf = db.brokerOf)
    (same : ∀ bookingId brokerId, after.hasApprovedBy bookingId brokerId = true ↔
      db.hasApprovedBy bookingId brokerId = true) : after.Consented := by
  intro bookingId other approved
  obtain ⟨brokerId, broker, own⟩ := consented bookingId other ((same _ _).mp approved)
  exact ⟨brokerId, brokerOf ▸ broker, (same _ _).mpr own⟩

theorem decideNoc_eq_ok {verb : String} {decision : BrokerNoc → BrokerNoc}
    {portalBrokerId : Option Nat}
    (accepted : decideNoc verb decision portalBrokerId nocId db = .ok after) :
    ∃ noc, db.nocs.find? nocId = some noc ∧ noc.status = .requested ∧
      after = { db with nocs := db.nocs.modify nocId decision } := by
  simp only [decideNoc, bind_eq_ok, orThrow_eq_ok, ensure_eq_ok, pure_eq_ok] at accepted
  obtain ⟨noc, found, _, requested, rfl⟩ := accepted
  exact ⟨noc, (Option.filter_eq_some_iff.mp found).1, requested, rfl⟩

theorem consented_approve_iff (consented : db.Consented) (found : db.nocs.find? nocId = some noc)
    (requested : noc.status = .requested) (brokerOf : after.brokerOf = db.brokerOf)
    (decided : after.nocs = db.nocs.modify nocId BrokerNoc.asApproved) :
    after.Consented ↔ ∃ brokerId, db.brokerOf noc.bookingId = some brokerId ∧
      (noc.brokerId = brokerId ∨ db.hasApprovedBy noc.bookingId brokerId = true) := by
  have approvals : ∀ bookingId brokerId, after.hasApprovedBy bookingId brokerId = true ↔
      db.hasApprovedBy bookingId brokerId = true ∨
        (noc.bookingId = bookingId ∧ noc.brokerId = brokerId) := by
    intro bookingId brokerId
    rw [hasApprovedBy_decide decided found requested]
    simp [BrokerNoc.isApprovedFor, BrokerNoc.asApproved]
  constructor
  · intro holds
    obtain ⟨brokerId, broker, own⟩ :=
      holds noc.bookingId noc.brokerId ((approvals _ _).mpr (Or.inr ⟨rfl, rfl⟩))
    rw [brokerOf] at broker
    rcases (approvals _ _).mp own with old | ⟨_, named⟩
    · exact ⟨brokerId, broker, Or.inr old⟩
    · exact ⟨brokerId, broker, Or.inl named⟩
  · rintro ⟨brokerId, broker, own⟩ bookingId other approved
    rw [brokerOf]
    rcases (approvals _ _).mp approved with old | ⟨rfl, _⟩
    · obtain ⟨current, is, given⟩ := consented bookingId other old
      exact ⟨current, is, (approvals _ _).mpr (Or.inl given)⟩
    · refine ⟨brokerId, broker, (approvals _ _).mpr ?_⟩
      rcases own with named | given
      · exact Or.inr ⟨rfl, named⟩
      · exact Or.inl given

theorem consented_assign_iff (consented : db.Consented)
    (brokerOf : after.brokerOf = Function.update db.brokerOf bookingId (some brokerId))
    (nocs : after.nocs = db.nocs) :
    after.Consented ↔
      (db.hasApproved bookingId = true → db.hasApprovedBy bookingId brokerId = true) := by
  have approvals : ∀ id other, after.hasApprovedBy id other = db.hasApprovedBy id other := by
    intro id other
    rw [NocDb.hasApprovedBy, nocs]
    rfl
  constructor
  · intro holds given
    obtain ⟨other, approved⟩ := hasApproved_iff.mp given
    rw [← approvals] at approved
    obtain ⟨current, is, given⟩ := holds bookingId other approved
    rw [brokerOf, Function.update_self, Option.some.injEq] at is
    rw [approvals] at given
    exact is ▸ given
  · intro given id other approved
    rw [approvals] at approved
    rw [brokerOf]
    by_cases mine : id = bookingId
    · subst mine
      refine ⟨brokerId, Function.update_self _ _ _, (approvals _ _).trans (given ?_)⟩
      exact hasApproved_iff.mpr ⟨other, approved⟩
    · obtain ⟨current, is, own⟩ := consented id other approved
      exact ⟨current, (Function.update_of_ne mine _ _).trans is, (approvals _ _).trans own⟩

/-- What a cancellation asks of the certificates, and does to them: one is approved, or the broker is
inactive and his is approved now. -/
theorem BookingController.cancel_gated {masters : BrokerMasters} {dto : CancellationDto}
    (accepted : BookingController.cancel masters bookingId dto db = .ok after) :
    after.brokerOf = db.brokerOf ∧
      ((after.nocs = db.nocs ∧
          ((db.brokerOf bookingId).isSome = true → db.hasApproved bookingId = true)) ∨
        ∃ brokerId reason, db.brokerOf bookingId = some brokerId ∧
          db.isInactive brokerId = true ∧ after.nocs =
            db.nocs.create { bookingId, brokerId, status := .approved, reason }) := by
  unfold BookingController.cancel at accepted
  split at accepted
  · rename_i nobody
    obtain ⟨cancelled, answered, rfl⟩ := map_eq_ok.mp accepted
    obtain ⟨booking, _, found, _⟩ := OpenEstate.cancel_eq_ok answered
    rw [found, Option.bind_some] at nobody
    refine ⟨rfl, Or.inl ⟨rfl, fun sourced => ?_⟩⟩
    rw [nobody] at sourced
    cases sourced
  · rename_i brokerId sourced
    obtain ⟨_, _, broker⟩ := Option.bind_eq_some_iff.mp sourced
    simp only [bind_eq_ok, pure_eq_ok] at accepted
    obtain ⟨gated, passed, cancelled, _, rfl⟩ := accepted
    rcases assertApprovedOrAutoApprove_eq_ok passed with ⟨approved, rfl⟩ | ⟨inactive, reason, rfl⟩
    · exact ⟨rfl, Or.inl ⟨rfl, fun _ => approved⟩⟩
    · exact ⟨rfl, Or.inr ⟨brokerId, reason, broker, inactive, rfl⟩⟩

theorem consented_iff_of_exec {request : NocRequest} (consented : db.Consented)
    (accepted : execNoc request db = .ok after) :
    after.Consented ↔ db.keepsConsent request.op = true := by
  obtain ⟨masters, op⟩ := request
  have kept : after.brokerOf = db.brokerOf → after.nocs = db.nocs →
      (after.Consented ↔ true = true) := by
    intro brokerOf nocs
    refine iff_of_true (consented.congr brokerOf fun bookingId brokerId => ?_) rfl
    rw [NocDb.hasApprovedBy, nocs]
    rfl
  cases op with
  | createBroker =>
    cases accepted
    exact kept rfl rfl
  | deactivateBroker brokerId =>
    have accepted : setBrokerActive false brokerId db = .ok after := accepted
    simp only [setBrokerActive, bind_eq_ok, pure_eq_ok] at accepted
    obtain ⟨_, _, rfl⟩ := accepted
    exact kept rfl rfl
  | reactivateBroker brokerId =>
    have accepted : setBrokerActive true brokerId db = .ok after := accepted
    simp only [setBrokerActive, bind_eq_ok, pure_eq_ok] at accepted
    obtain ⟨_, _, rfl⟩ := accepted
    exact kept rfl rfl
  | requestNoc bookingId dto =>
    have accepted : NocService.request bookingId dto db = .ok after := accepted
    simp only [NocService.request, bind_eq_ok, pure_eq_ok] at accepted
    obtain ⟨_, _, brokerId, _, rfl⟩ := accepted
    refine iff_of_true (consented.congr rfl fun id other => ?_) rfl
    rw [hasApprovedBy_create rfl]
    simp [BrokerNoc.isApprovedFor]
  | approveNoc portalBrokerId nocId =>
    obtain ⟨noc, found, requested, rfl⟩ := decideNoc_eq_ok accepted
    refine Iff.trans (consented_approve_iff consented found requested rfl rfl) ?_
    simp [NocDb.keepsConsent, found, Option.any_eq_true]
  | rejectNoc portalBrokerId nocId dto =>
    obtain ⟨noc, found, requested, rfl⟩ := decideNoc_eq_ok accepted
    refine iff_of_true (consented.congr rfl fun id other => ?_) rfl
    rw [hasApprovedBy_decide rfl found requested]
    simp [BrokerNoc.isApprovedFor, BrokerNoc.asRejected]
  | commission op =>
    by_cases cancels : ∃ bookingId dto, op = .core (.cancel bookingId dto)
    · obtain ⟨bookingId, dto, rfl⟩ := cancels
      have accepted : BookingController.cancel masters bookingId dto db = .ok after := accepted
      obtain ⟨brokerOf, ⟨nocs, _⟩ | ⟨brokerId, reason, broker, _, nocs⟩⟩ :=
        BookingController.cancel_gated accepted
      · exact kept brokerOf nocs
      · -- the certificate that was approved is the current broker's
        refine iff_of_true (fun id other approved => ?_) rfl
        rw [brokerOf]
        rcases (hasApprovedBy_create nocs).mp approved with old | ⟨mine, _⟩
        · obtain ⟨current, is, given⟩ := consented id other old
          exact ⟨current, is, (hasApprovedBy_create nocs).mpr (Or.inl given)⟩
        · simp only [BrokerNoc.isApprovedFor, decide_eq_true_eq, and_true] at mine
          subst mine
          exact ⟨brokerId, broker, (hasApprovedBy_create nocs).mpr
            (Or.inr ⟨by simp [BrokerNoc.isApprovedFor], rfl⟩)⟩
    · have accepted : (fun commission => db.onCommission fun _ => commission) <$>
          execCommission ⟨(⟨masters, .commission op⟩ : NocRequest).mastersIn db, op⟩
            db.toCommissionDb = .ok after := by
        cases op with
        | core op => cases op <;> first | exact accepted | exact absurd ⟨_, _, rfl⟩ cancels
        | _ => exact accepted
      obtain ⟨next, answered, rfl⟩ := map_eq_ok.mp accepted
      have changes := (execCommission_changes answered).brokerOf
      cases op with
      | assignToBooking bookingId brokerId =>
        refine Iff.trans (consented_assign_iff consented changes rfl) ?_
        exact decide_eq_true_iff.symm
      | _ => exact kept changes rfl

/-! ### Runs -/

theorem consented_empty : ({} : NocDb).Consented := by
  intro bookingId other approved
  cases approved

theorem consented_iff (requests : List NocRequest) :
    (∀ visited ∈ states execNoc {} requests, visited.Consented) ↔
      ∀ step ∈ steps execNoc {} requests, step.before.keepsConsent step.input.op = true := by
  have exact_step : ∀ (request : NocRequest) (before after : NocDb), True → before.Consented →
      execNoc request before = .ok after →
      (after.Consented ↔ before.keepsConsent request.op = true) :=
    fun _ _ _ _ consented accepted => consented_iff_of_exec consented accepted
  exact forall_states_iff (fun _ _ _ _ _ => trivial) exact_step requests trivial consented_empty

structure CancelsActive (step : Step NocDb NocRequest) (bookingId brokerId : Nat) : Prop where
  asked : ∃ dto, step.input.op = .commission (.core (.cancel bookingId dto))
  broker : step.before.brokerOf bookingId = some brokerId
  active : step.before.isInactive brokerId = false

/-- **A booking with an active broker is only cancelled with his certificate**, in any run of
assignments, requests, decisions and cancellations whose steps keep consent. -/
theorem cancelled_with_consent (requests : List NocRequest)
    (keeps : ∀ step ∈ steps execNoc {} requests, step.before.keepsConsent step.input.op = true) :
    ∀ step ∈ steps execNoc {} requests, ∀ bookingId brokerId,
      CancelsActive step bookingId brokerId →
        step.before.hasApprovedBy bookingId brokerId = true := by
  intro step member bookingId brokerId cancels
  obtain ⟨dto, asked⟩ := cancels.asked
  have accepted : execNoc step.input step.before = .ok step.after := (mem_steps member).2
  have cancelled : BookingController.cancel step.input.masters bookingId dto step.before =
      .ok step.after := by
    rw [execNoc, asked] at accepted
    exact accepted
  obtain ⟨_, ⟨_, gate⟩ | ⟨current, _, broker, inactive, _⟩⟩ :=
    BookingController.cancel_gated cancelled
  · have approved := gate (by rw [cancels.broker]; rfl)
    obtain ⟨other, given⟩ := hasApproved_iff.mp approved
    obtain ⟨current, broker, own⟩ :=
      (consented_iff requests).mpr keeps _ (before_mem_states member) bookingId other given
    rw [cancels.broker, Option.some.injEq] at broker
    exact broker ▸ own
  · rw [cancels.broker, Option.some.injEq] at broker
    subst broker
    rw [cancels.active] at inactive
    cases inactive

/-! ### The small estate -/

/-- The small sale with two brokers, whose certificate is requested of the first and approved. -/
def smallConsented : List NocRequest :=
  smallSale.map (fun asked => ⟨{ asked.masters with }, .commission (.core asked.op)⟩) ++
    [⟨{}, .createBroker⟩, ⟨{}, .createBroker⟩, ⟨{}, .commission (.assignToBooking 0 0)⟩,
      ⟨{}, .requestNoc 0 {}⟩, ⟨{}, .approveNoc (some 0) 0⟩]

def cancelSmallNoc : NocRequest :=
  ⟨{}, .commission (.core (.cancel 0 { cancellationType := .cancel }))⟩

theorem cancel_refines_smallConsented :
    ∃ after : NocDb, cancelBooking { nocApproved := (run execNoc {} smallConsented).gate } 0
      { cancellationType := .cancel } (run execNoc {} smallConsented).toCommissionDb =
        .ok after.toCommissionDb := by
  have accepted : (fun _ => ()) <$> BookingController.cancel {} 0 { cancellationType := .cancel }
      (run execNoc {} smallConsented) = .ok () := by decide +kernel
  obtain ⟨after, cancelled, _⟩ := map_eq_ok.mp accepted
  exact ⟨after, BookingController.cancel_refines cancelled⟩

theorem exists_cancelSmallNoc {requests : List NocRequest}
    (accepted : (fun _ => ()) <$> execNoc cancelSmallNoc (run execNoc {} requests) = .ok ())
    (broker : (run execNoc {} requests).brokerOf 0 = some brokerId)
    (active : (run execNoc {} requests).isInactive brokerId = false) :
    ∃ step ∈ steps execNoc {} (requests ++ [cancelSmallNoc]), CancelsActive step 0 brokerId ∧
      step.before = run execNoc {} requests := by
  obtain ⟨after, answered, _⟩ := map_eq_ok.mp accepted
  exact ⟨_, last_mem_steps answered, ⟨⟨_, rfl⟩, broker, active⟩, rfl⟩

theorem cancelled_with_consent_smallConsented :
    ∃ step ∈ steps execNoc {} (smallConsented ++ [cancelSmallNoc]), CancelsActive step 0 0 ∧
      step.before.hasApprovedBy 0 0 = true := by
  have keeps : ∀ step ∈ steps execNoc {} (smallConsented ++ [cancelSmallNoc]),
      step.before.keepsConsent step.input.op = true := by decide +kernel
  have accepted : (fun _ => ()) <$> execNoc cancelSmallNoc (run execNoc {} smallConsented) =
      .ok () := by decide +kernel
  obtain ⟨step, member, cancels, _⟩ :=
    exists_cancelSmallNoc accepted (by decide +kernel : _ = some 0) (by decide +kernel)
  exact ⟨step, member, cancels, cancelled_with_consent _ keeps step member 0 0 cancels⟩

def smallReassignedNoc : List NocRequest :=
  smallConsented ++ [⟨{}, .commission (.assignToBooking 0 1)⟩]

/-- **It is cancelled without the consent of its broker.** -/
theorem cancelled_without_consent :
    ∃ step ∈ steps execNoc {} (smallReassignedNoc ++ [cancelSmallNoc]), CancelsActive step 0 1 ∧
      step.before.hasApprovedBy 0 1 = false := by
  have accepted : (fun _ => ()) <$> execNoc cancelSmallNoc (run execNoc {} smallReassignedNoc) =
      .ok () := by decide +kernel
  have refused : (run execNoc {} smallReassignedNoc).hasApprovedBy 0 1 = false := by decide +kernel
  obtain ⟨step, member, cancels, before⟩ :=
    exists_cancelSmallNoc accepted (by decide +kernel : _ = some 1) (by decide +kernel)
  exact ⟨step, member, cancels, before ▸ refused⟩

end OpenEstate
