/-
**The evaluation of what is to accrue.**

An evaluation finds the trigger, the snapshot of the booking's commission (or takes it), and under
the milestone trigger the milestones of the snapshot's rule and what has been collected. From these
it knows the shares of the commission and which of them are due, and posts those that are not there
yet, one by one. Every statement up to the first posting commits by itself, and every posting does.

* `CommissionService.accrueForBooking` is the evaluation up to its first posting, statement by
  statement, `AccrualSession.move` what follows, next to the other operations;
* `IsSchemeOf` says of shares that they split the commission; those of the milestones do
  (`isSchemeOf_milestoneLines`), and so does the whole of it on booking (`isSchemeOf_onBooking`).
-/

import OpenEstate.Commission.System
import OpenEstate.Relational.Interference

namespace OpenEstate

open Relational

/-- A part of an evaluation, whose statements commit one by one and wait for nobody. -/
abbrev Evaluation (α : Type) := Tx CommissionDb Empty ServiceError α

/-! ### The snapshot -/

def BrokerCommissionRuleService.findApplicableRule (brokerId : Nat) (projectId : Option Nat) :
    Evaluation (Option (Nat × BrokerCommissionRule)) := do
  -- no rule is for the project named by the empty string
  let projectRule ← Tx.read fun db => db.rules.findFirst? fun _ rule =>
    rule.brokerId = brokerId ∧ projectId.isSome ∧ rule.projectId = projectId ∧ rule.isActive
  match projectRule with
  | some rule => return some rule
  | none => Tx.read fun db => db.rules.findFirst? fun _ rule =>
      rule.brokerId = brokerId ∧ rule.projectId = none ∧ rule.isActive

def CommissionDb.insertSnapshot (db : CommissionDb) (snapshot : BrokerBookingCommission) :
    CommissionDb :=
  if (db.snapshotOf snapshot.bookingId).isSome then db
  else { db with snapshots := db.snapshots.create snapshot }

def CommissionService.createSnapshot (snapshot : BrokerBookingCommission) :
    Evaluation BrokerBookingCommission := do
  let taken ← Tx.stmt [] (·.insertSnapshot snapshot) fun db =>
    .done (db.snapshotOf snapshot.bookingId).isSome
  Tx.check (ensure (taken = false)
    (.error "Unique constraint failed on the fields: (booking_id)"))
  return snapshot

def CommissionService.ensureSnapshot (masters : BrokerMasters) (bookingId : Nat)
    (booking : Booking) (brokerId : Nat) : Evaluation BrokerBookingCommission := do
  let existing ← Tx.read (·.snapshotOf bookingId)
  match existing with
  | some snapshot => return snapshot
  | none => do
    let found ← BrokerCommissionRuleService.findApplicableRule brokerId
      (masters.towerProject booking.unitId)
    let rule ← Tx.check (orThrow found
      (.badRequest s!"No active commission rule configured for broker {brokerId}"))
    let totalCommissionPaise ← Tx.check (computeCommissionPaise booking.agreedPricePaise rule.2)
    CommissionService.createSnapshot { bookingId, brokerId, ruleId := rule.1, totalCommissionPaise }

/-! ### Shares -/

/-- The part of the price that has been collected, in hundredths of a percent. -/
def CommissionDb.collectedBasisPoints (db : CommissionDb) (bookingId : Nat)
    (agreedPricePaise : Int) : Int :=
  if agreedPricePaise ≤ 0 then 0
  else (db.netReceived bookingId * 10000).tdiv agreedPricePaise

def milestoneWeights (milestones : List Nat) : List Nat :=
  milestones.zipWith (· - ·) (0 :: milestones)

def milestoneLines (milestones : List Nat) (shares : List Int) : List AccrualLine :=
  milestones.zipWith (fun percent share => ⟨some percent, share⟩) shares

structure IsSchemeOf (totalCommissionPaise : Int) (lines : List AccrualLine) : Prop where
  distinct : (lines.map (·.milestonePercent)).Nodup
  nonneg : ∀ line ∈ lines, 0 ≤ line.sharePaise
  sum : (lines.map (·.sharePaise)).sum = totalCommissionPaise

variable {totalCommissionPaise : Int}

theorem isSchemeOf_onBooking (nonneg : 0 ≤ totalCommissionPaise) :
    IsSchemeOf totalCommissionPaise [⟨none, totalCommissionPaise⟩] where
  distinct := List.nodup_singleton _
  nonneg := by
    intro line member
    rw [List.mem_singleton] at member
    subst member
    exact nonneg
  sum := by simp

theorem map_milestoneLines {milestones : List Nat} {shares : List Int}
    (same : milestones.length = shares.length) :
    (milestoneLines milestones shares).map (·.milestonePercent) = milestones.map some ∧
      (milestoneLines milestones shares).map (·.sharePaise) = shares := by
  induction milestones generalizing shares with
  | nil =>
    rw [List.length_nil, eq_comm, List.length_eq_zero_iff] at same
    subst same
    exact ⟨rfl, rfl⟩
  | cons percent rest ih =>
    cases shares with
    | nil => cases same
    | cons share others =>
      obtain ⟨percents, amounts⟩ := ih (Nat.succ.inj same)
      unfold milestoneLines at percents amounts ⊢
      exact ⟨congrArg (some percent :: ·) percents, congrArg (share :: ·) amounts⟩

theorem length_milestoneWeights (milestones : List Nat) :
    (milestoneWeights milestones).length = milestones.length := by
  rw [milestoneWeights, List.length_zipWith, List.length_cons]
  omega

theorem length_of_split {milestones : List Nat} {shares : List Int}
    (nonneg : 0 ≤ totalCommissionPaise)
    (split : allocate totalCommissionPaise (milestoneWeights milestones) = .ok shares) :
    milestones.length = shares.length := by
  obtain ⟨_, rfl⟩ := allocate_eq_ok nonneg split
  rw [length_largestRemainder, length_milestoneWeights]

theorem isSchemeOf_milestoneLines {milestones : CommissionMilestones} {shares : List Int}
    (nonneg : 0 ≤ totalCommissionPaise)
    (split : allocate totalCommissionPaise (milestoneWeights milestones.percents) = .ok shares) :
    IsSchemeOf totalCommissionPaise (milestoneLines milestones.percents shares) := by
  obtain ⟨percents, amounts⟩ := map_milestoneLines (length_of_split nonneg split)
  obtain ⟨positive, rfl⟩ := allocate_eq_ok nonneg split
  refine ⟨?_, fun line member => ?_, ?_⟩
  · have different : milestones.percents.Nodup := milestones.ascending.imp Nat.ne_of_lt
    rw [percents]
    exact different.map (Option.some_injective _)
  · refine largestRemainder_nonneg nonneg (milestoneWeights milestones.percents) _ ?_
    rw [← amounts]
    exact List.mem_map_of_mem member
  · rw [amounts]
    exact largestRemainder_sum nonneg positive

theorem sum_sharePaise_le {lines others : List AccrualLine} (distinct : lines.Nodup)
    (inside : lines ⊆ others) (nonneg : ∀ line ∈ others, 0 ≤ line.sharePaise) :
    (lines.map (·.sharePaise)).sum ≤ (others.map (·.sharePaise)).sum := by
  obtain ⟨part, same, sublist⟩ := List.subperm_of_subset distinct inside
  rw [← (same.map _).sum_eq]
  refine (sublist.map _).sum_le_sum fun amount member => ?_
  obtain ⟨line, listed, rfl⟩ := List.mem_map.mp member
  exact nonneg line listed

/-- The share on booking is always due, that of a milestone once it has been collected. -/
def AccrualLine.isDue (collectedBasisPoints : Int) (line : AccrualLine) : Bool :=
  ∀ percent ∈ line.milestonePercent, 100 * (percent : Int) ≤ collectedBasisPoints

/-- What an evaluation goes by: the commission, its shares, and how much has been collected. -/
structure AccrualPlan where
  bookingId : Nat
  brokerId : Nat
  totalCommissionPaise : Int
  lines : List AccrualLine
  collectedBasisPoints : Int := 0

def AccrualPlan.due (plan : AccrualPlan) : List AccrualLine :=
  plan.lines.filter (·.isDue plan.collectedBasisPoints)

def AccrualPlan.AllMet (plan : AccrualPlan) : Prop :=
  ∀ line ∈ plan.lines, line.isDue plan.collectedBasisPoints = true

def AccrualPlan.entry (plan : AccrualPlan) (line : AccrualLine) : CommissionLedgerEntry where
  brokerId := plan.brokerId
  bookingId := plan.bookingId
  entryType := .accrual
  signedAmountPaise := line.sharePaise
  milestonePercent := line.milestonePercent

/-! ### Evaluating -/

/-- What there is to post under the booking trigger: the whole commission. -/
def CommissionService.accrueOnBooking (bookingId brokerId : Nat)
    (snapshot : BrokerBookingCommission) : AccrualPlan where
  bookingId
  brokerId
  totalCommissionPaise := snapshot.totalCommissionPaise
  lines := [⟨none, snapshot.totalCommissionPaise⟩]

/-- What there is to post under the milestone trigger: the share of each milestone. -/
def CommissionService.accrueOnMilestones (bookingId : Nat) (booking : Booking) (brokerId : Nat)
    (snapshot : BrokerBookingCommission) : Evaluation (Option AccrualPlan) := do
  let rule ← Tx.read fun db => db.rules.find? snapshot.ruleId
  match rule.bind (·.milestones) with
  | none => return none
  | some milestones => do
    let shares ← Tx.check (allocate snapshot.totalCommissionPaise
      (milestoneWeights milestones.percents))
    let collectedBasisPoints ← Tx.read fun db =>
      db.collectedBasisPoints bookingId booking.agreedPricePaise
    return some
      { bookingId
        brokerId
        totalCommissionPaise := snapshot.totalCommissionPaise
        lines := milestoneLines milestones.percents shares
        collectedBasisPoints }

def CommissionService.accrueForBooking (masters : BrokerMasters) (bookingId : Nat) :
    Evaluation (Option AccrualPlan) := do
  let (found, broker) ← Tx.read fun db => (db.bookings.find? bookingId, db.brokerOf bookingId)
  let booking ← Tx.check (orThrow found (.notFound "Booking not found"))
  match broker with
  | none => return none
  | some brokerId => do
    let trigger ← Tx.read (·.accrualTrigger)
    let snapshot ← CommissionService.ensureSnapshot masters bookingId booking brokerId
    match trigger.getD .onBooking with
    | .onBooking => return some (CommissionService.accrueOnBooking bookingId brokerId snapshot)
    | .onCollectionMilestone =>
      CommissionService.accrueOnMilestones bookingId booking brokerId snapshot

/-! ### Sessions -/

/-- Where a session stands: it has an operation to carry out, is on its way to its first posting,
looks for the accruals that are due, has found that one is not there yet, has posted all that was
due, or has ended otherwise. -/
inductive AccrualSession
  | request (request : CommissionRequest)
  | evaluating (todo : Evaluation (Option AccrualPlan))
  | posting (plan : AccrualPlan) (due : List AccrualLine)
  | creating (plan : AccrualPlan) (line : AccrualLine) (due : List AccrualLine)
  | completed (plan : AccrualPlan)
  | ended

def CommissionDb.isAccrued (db : CommissionDb) (bookingId : Nat) (line : AccrualLine) : Bool :=
  db.commissionLedger.any fun _ entry =>
    entry.isAccrualOf bookingId ∧ entry.milestonePercent = line.milestonePercent

def AccrualSession.move : AccrualSession → CommissionDb → Option (AccrualSession × CommissionDb)
  | .request asked, db =>
    match execCommission asked db with
    | .ok after => some (.ended, after)
    | .error _ => some (.ended, db)
  | .evaluating (.stmt _ write next), db => some (.evaluating (next db), write db)
  | .evaluating (.done (some plan)), db => some (.posting plan plan.due, db)
  | .evaluating (.done none), db => some (.ended, db)
  | .evaluating (.fail _), db => some (.ended, db)
  | .posting plan (line :: due), db =>
    if db.isAccrued plan.bookingId line then some (.posting plan due, db)
    else some (.creating plan line due, db)
  | .posting plan [], db => some (.completed plan, db)
  | .creating plan line due, db => some (.posting plan due, db.postCommission [plan.entry line])
  | .completed _, _ => none
  | .ended, _ => none

inductive CommissionCall
  | request (request : CommissionRequest)
  | accrue (masters : BrokerMasters) (bookingId : Nat)

def CommissionCall.session : CommissionCall → AccrualSession
  | .request asked => .request asked
  | .accrue masters bookingId =>
    .evaluating (CommissionService.accrueForBooking masters bookingId)

def accrualStart {ι : Type} (calls : ι → CommissionCall) :
    Shared ι CommissionDb AccrualSession where
  rows := {}
  sessions := fun session => (calls session).session

/-! ### What moves write -/

def AddsSnapshot (write : CommissionDb → CommissionDb) : Prop :=
  write = id ∨ ∃ snapshot, write = (·.insertSnapshot snapshot)

theorem findApplicableRule_writes (brokerId : Nat) (projectId : Option Nat) :
    (BrokerCommissionRuleService.findApplicableRule brokerId projectId).Writes AddsSnapshot := by
  refine (Tx.Writes.read (Or.inl rfl) _).bind fun projectRule => ?_
  cases projectRule with
  | some rule => exact .done _
  | none => exact .read (Or.inl rfl) _

theorem createSnapshot_writes (snapshot : BrokerBookingCommission) :
    (CommissionService.createSnapshot snapshot).Writes AddsSnapshot := by
  refine .stmt (Or.inr ⟨snapshot, rfl⟩) fun db => ?_
  exact (Tx.Writes.check _).bind fun _ => .done snapshot

theorem ensureSnapshot_writes (masters : BrokerMasters) (bookingId : Nat) (booking : Booking)
    (brokerId : Nat) :
    (CommissionService.ensureSnapshot masters bookingId booking brokerId).Writes AddsSnapshot := by
  refine (Tx.Writes.read (Or.inl rfl) _).bind fun existing => ?_
  cases existing with
  | some snapshot => exact .done snapshot
  | none =>
    refine (findApplicableRule_writes _ _).bind fun found => ?_
    refine (Tx.Writes.check _).bind fun rule => (Tx.Writes.check _).bind fun total => ?_
    exact createSnapshot_writes _

theorem accrueOnMilestones_writes (bookingId : Nat) (booking : Booking) (brokerId : Nat)
    (snapshot : BrokerBookingCommission) :
    (CommissionService.accrueOnMilestones bookingId booking brokerId snapshot).Writes
      AddsSnapshot := by
  refine (Tx.Writes.read (Or.inl rfl) _).bind fun rule => ?_
  split
  · exact .done none
  · refine (Tx.Writes.check _).bind fun shares => ?_
    exact (Tx.Writes.read (Or.inl rfl) _).bind fun collected => .done _

theorem accrueForBooking_writes (masters : BrokerMasters) (bookingId : Nat) :
    (CommissionService.accrueForBooking masters bookingId).Writes AddsSnapshot := by
  refine (Tx.Writes.read (Or.inl rfl) _).bind fun (found, broker) => ?_
  refine (Tx.Writes.check _).bind fun booking => ?_
  cases broker with
  | none => exact .done none
  | some brokerId =>
    refine (Tx.Writes.read (Or.inl rfl) _).bind fun trigger => ?_
    refine (ensureSnapshot_writes _ _ _ _).bind fun snapshot => ?_
    split
    · exact .done _
    · exact accrueOnMilestones_writes _ _ _ _

def AccrualSession.AddsSnapshot : AccrualSession → Prop
  | .evaluating todo => todo.Writes OpenEstate.AddsSnapshot
  | _ => True

/-- What a move leaves: an operation carried out, a share posted, a snapshot added, or the tables as
they were. -/
inductive AccrualSession.Leaves (session : AccrualSession) (db : CommissionDb) :
    CommissionDb → Prop
  | operation {request : CommissionRequest} {after : CommissionDb}
      (asked : session = .request request) (accepted : execCommission request db = .ok after) :
      Leaves session db after
  | posting {plan : AccrualPlan} {line : AccrualLine} {due : List AccrualLine}
      (creating : session = .creating plan line due) :
      Leaves session db (db.postCommission [plan.entry line])
  | snapshot (snapshot : BrokerBookingCommission) : Leaves session db (db.insertSnapshot snapshot)
  | nothing : Leaves session db db

theorem AccrualSession.move_leaves {session next : AccrualSession} {db after : CommissionDb}
    (adds : session.AddsSnapshot) (moved : session.move db = some (next, after)) :
    next.AddsSnapshot ∧ session.Leaves db after := by
  cases session with
  | request asked =>
    rw [move] at moved
    split at moved
    · rename_i accepted
      cases moved
      exact ⟨trivial, .operation rfl accepted⟩
    · cases moved
      exact ⟨trivial, .nothing⟩
  | evaluating todo =>
    have adds : todo.Writes OpenEstate.AddsSnapshot := adds
    cases adds with
    | done plan =>
      cases plan with
      | none =>
        cases moved
        exact ⟨trivial, .nothing⟩
      | some plan =>
        cases moved
        exact ⟨trivial, .nothing⟩
    | fail error =>
      cases moved
      exact ⟨trivial, .nothing⟩
    | stmt one follows =>
      cases moved
      refine ⟨follows db, ?_⟩
      rcases one with rfl | ⟨snapshot, rfl⟩
      · exact .nothing
      · exact .snapshot snapshot
  | posting plan due =>
    cases due with
    | nil =>
      cases moved
      exact ⟨trivial, .nothing⟩
    | cons line due =>
      rw [move] at moved
      split at moved
      · cases moved
        exact ⟨trivial, .nothing⟩
      · cases moved
        exact ⟨trivial, .nothing⟩
  | creating plan line due =>
    cases moved
    exact ⟨trivial, .posting rfl⟩
  | completed plan => cases moved
  | ended => cases moved

/-- **Every step of a run** carries out an operation, posts a share, adds a snapshot, or changes no
table. -/
theorem accrualRun_leaves {ι : Type} [DecidableEq ι] (calls : ι → CommissionCall)
    (schedule : List ι) :
    ∀ step ∈ steps (Shared.exec AccrualSession.move) (accrualStart calls) schedule,
      (step.before.sessions step.input).Leaves step.before.rows step.after.rows := by
  have initially : ∀ session, ((accrualStart calls).sessions session).AddsSnapshot := by
    intro session
    show (calls session).session.AddsSnapshot
    cases calls session with
    | request asked => trivial
    | accrue masters bookingId => exact accrueForBooking_writes masters bookingId
  have kept : ∀ session db next after, AccrualSession.AddsSnapshot session →
      session.move db = some (next, after) → next.AddsSnapshot :=
    fun _ _ _ _ adds moved => (AccrualSession.move_leaves adds moved).1
  have adds := Shared.each_of_states kept initially schedule
  intro step member
  obtain ⟨next, rows, moved, same⟩ := Shared.exec_eq_ok.mp (mem_steps member).2
  rw [same]
  exact (AccrualSession.move_leaves (adds _ (before_mem_states member) step.input) moved).2

theorem accrualRun_kept {kept : CommissionDb → Prop} (initially : kept {})
    (stays : ∀ session db after, AccrualSession.Leaves session db after → kept db → kept after)
    {ι : Type} [DecidableEq ι] (calls : ι → CommissionCall) (schedule : List ι) :
    ∀ world ∈ states (Shared.exec AccrualSession.move) (accrualStart calls) schedule,
      kept world.rows := by
  have step : ∀ session (before after : Shared ι CommissionDb AccrualSession), kept before.rows →
      Shared.exec AccrualSession.move session before = .ok after →
      (before.sessions session).Leaves before.rows after.rows → kept after.rows :=
    fun _ _ _ holds _ leaves => stays _ _ _ leaves holds
  exact states_invariant (fun world => kept world.rows) step (accrualRun_leaves calls schedule)
    initially

end OpenEstate
