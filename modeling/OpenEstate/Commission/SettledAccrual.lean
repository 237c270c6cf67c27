/-
**What a settled booking accrues.**

Under the milestone trigger commission accrues with what has been collected, and the evaluation reads
that off the receipts, net of the tax withheld on them. The ledger of a booking is also settled by
the certificates of that tax, which the evaluation never counts: with a certificate on record the
last milestone is out of reach, however much is paid.

* `CommissionService.evaluate` is a whole evaluation, and what its session does alone
  (`evaluate_moves`);
* `run_accrueForBooking`: what an evaluation under the milestone trigger goes by;
* `CommissionDb.SplitBy.postDue`: what the postings add, and `evaluate_milestones`: what the whole of
  it leaves;
* `settled_accrues_iff`: the evaluation of a settled booking leaves every milestone accrued exactly
  if what was charged on it, less what was certified, reaches each of them.
-/

import OpenEstate.Commission.AccrualBound
import OpenEstate.Postsales.Collected
import OpenEstate.Postsales.TransferChain

namespace OpenEstate

open Relational

/-! ### A whole evaluation -/

def AccrualPlan.postShare (plan : AccrualPlan) (db : CommissionDb) (line : AccrualLine) :
    CommissionDb :=
  if db.isAccrued plan.bookingId line then db else db.postCommission [plan.entry line]

def AccrualPlan.postDue (plan : AccrualPlan) (db : CommissionDb) : CommissionDb :=
  plan.due.foldl plan.postShare db

def CommissionService.evaluate (masters : BrokerMasters) (bookingId : Nat) (db : CommissionDb) :
    Except ServiceError CommissionDb := do
  let (answer, evaluated) ← (CommissionService.accrueForBooking masters bookingId).run db
  match answer with
  | none => return evaluated
  | some plan => return plan.postDue evaluated

abbrev AccrualSession.Moves : AccrualSession × CommissionDb → AccrualSession × CommissionDb → Prop :=
  Relation.ReflTransGen fun before after => before.1.move before.2 = some after

theorem foldl_postShare_snapshots (plan : AccrualPlan) (due : List AccrualLine)
    (db : CommissionDb) : (due.foldl plan.postShare db).snapshots = db.snapshots := by
  induction due generalizing db with
  | nil => rfl
  | cons line due ih =>
    rw [List.foldl_cons, ih]
    unfold AccrualPlan.postShare
    split
    · rfl
    · rfl

theorem snapshotOf_postDue (plan : AccrualPlan) (db : CommissionDb) (bookingId : Nat) :
    (plan.postDue db).snapshotOf bookingId = db.snapshotOf bookingId := by
  unfold CommissionDb.snapshotOf AccrualPlan.postDue
  rw [foldl_postShare_snapshots]

variable {db after : CommissionDb}

theorem evaluating_moves {todo : Evaluation (Option AccrualPlan)} {answer : Option AccrualPlan}
    (ran : todo.run db = .ok (answer, after)) :
    AccrualSession.Moves (.evaluating todo, db) (.evaluating (.done answer), after) := by
  induction todo generalizing db with
  | done result =>
    cases ran
    exact .refl
  | fail error => cases ran
  | stmt locks write next ih => exact .head rfl (ih db ran)

theorem posting_moves (plan : AccrualPlan) (due : List AccrualLine) (db : CommissionDb) :
    AccrualSession.Moves (.posting plan due, db) (.completed plan, due.foldl plan.postShare db) := by
  induction due generalizing db with
  | nil => exact .single rfl
  | cons line due ih =>
    rw [List.foldl_cons]
    by_cases accrued : db.isAccrued plan.bookingId line = true
    · have same : plan.postShare db line = db := if_pos accrued
      rw [same]
      exact .head (if_pos accrued) (ih db)
    · have posted : plan.postShare db line = db.postCommission [plan.entry line] := if_neg accrued
      rw [posted]
      exact .head (if_neg accrued) (.head rfl (ih _))

variable {masters : BrokerMasters} {bookingId : Nat}

theorem CommissionDb.SameBasis.trans {first second third : CommissionDb}
    (earlier : first.SameBasis second) (later : second.SameBasis third) : first.SameBasis third where
  core := later.core.trans earlier.core
  rules := later.rules.trans earlier.rules
  ledger := later.ledger.trans earlier.ledger

theorem sameBasis_of_writes {α : Type} {evaluation : Evaluation α}
    (writes : evaluation.Writes AddsSnapshot) {answer : α}
    (ran : evaluation.run db = .ok (answer, after)) : db.SameBasis after := by
  refine writes.run_kept ?_ ⟨rfl, rfl, rfl⟩ ran
  rintro write (rfl | ⟨snapshot, rfl⟩) middle same
  · exact same
  · exact same.trans (sameBasis_insertSnapshot middle snapshot)

def CommissionDb.milestonePlan (db : CommissionDb) (bookingId : Nat) (booking : Booking)
    (brokerId : Nat) (snapshot : BrokerBookingCommission) (lines : List AccrualLine) :
    AccrualPlan where
  bookingId
  brokerId
  totalCommissionPaise := snapshot.totalCommissionPaise
  lines
  collectedBasisPoints := db.collectedBasisPoints bookingId booking.agreedPricePaise

/-- What an evaluation under the milestone trigger goes by: the snapshot that is there from then on,
and the shares of the milestones that its rule has. -/
structure CommissionService.GoesBy (bookingId : Nat) (booking : Booking) (brokerId : Nat)
    (db : CommissionDb) (answer : Option AccrualPlan) (evaluated : CommissionDb) : Prop where
  basis : db.SameBasis evaluated
  plan : ∃ snapshot, evaluated.snapshotOf bookingId = some snapshot ∧
    0 ≤ snapshot.totalCommissionPaise ∧
    ∀ milestones, (db.rules.find? snapshot.ruleId).bind (·.milestones) = some milestones →
      ∃ shares, allocate snapshot.totalCommissionPaise (milestoneWeights milestones.percents) =
          .ok shares ∧
        answer = some (db.milestonePlan bookingId booking brokerId snapshot
          (milestoneLines milestones.percents shares))

theorem run_accrueForBooking {brokerId : Nat} {booking : Booking} {evaluated : CommissionDb}
    {answer : Option AccrualPlan} (sound : db.AccruesSoundly)
    (found : db.bookings.find? bookingId = some booking)
    (sourced : db.brokerOf bookingId = some brokerId)
    (trigger : db.accrualTrigger = some .onCollectionMilestone)
    (ran : (CommissionService.accrueForBooking masters bookingId).run db =
      .ok (answer, evaluated)) :
    CommissionService.GoesBy bookingId booking brokerId db answer evaluated := by
  refine ⟨sameBasis_of_writes (accrueForBooking_writes masters bookingId) ran, ?_⟩
  unfold CommissionService.accrueForBooking at ran
  rw [Tx.run_read_bind] at ran
  obtain ⟨_, present, ran⟩ := Tx.run_check_bind_eq_ok.mp ran
  rw [orThrow_eq_ok, found] at present
  cases present
  simp only [sourced] at ran
  rw [Tx.run_read_bind, trigger, Tx.run_bind_eq_ok] at ran
  obtain ⟨snapshot, middle, taken, ran⟩ := ran
  have priceNonneg := sound.core.sound.grounded.price_nonneg bookingId booking found
  obtain ⟨_, _, isSnapshot⟩ :=
    (ensureSnapshot_assured masters bookingId priceNonneg brokerId db).of_run sound taken
  have same := sameBasis_of_writes (ensureSnapshot_writes masters bookingId booking brokerId) taken
  have ran : (CommissionService.accrueOnMilestones bookingId booking brokerId snapshot).run middle =
      .ok (answer, evaluated) := ran
  unfold CommissionService.accrueOnMilestones at ran
  rw [Tx.run_read_bind, same.rules] at ran
  cases listed : (db.rules.find? snapshot.ruleId).bind (·.milestones) with
  | none =>
    rw [listed] at ran
    cases ran
    refine ⟨snapshot, isSnapshot.1, isSnapshot.2, fun milestones named => ?_⟩
    rw [listed] at named
    cases named
  | some milestones =>
    simp only [listed] at ran
    obtain ⟨shares, split, ran⟩ := Tx.run_check_bind_eq_ok.mp ran
    rw [Tx.run_read_bind] at ran
    cases ran
    refine ⟨snapshot, isSnapshot.1, isSnapshot.2, fun others named => ?_⟩
    rw [listed] at named
    cases named
    refine ⟨shares, split, ?_⟩
    unfold CommissionDb.milestonePlan CommissionDb.collectedBasisPoints
    rw [same.core]

/-! ### What is posted -/

def CommissionDb.HasAccrued (db : CommissionDb) (bookingId percent : Nat) : Prop :=
  ∃ accrual ∈ db.accrualLines bookingId, accrual.milestonePercent = some percent

structure CommissionDb.SplitBy (db : CommissionDb) (bookingId : Nat) (lines : List AccrualLine) :
    Prop where
  distinct : ((db.accrualLines bookingId).map (·.milestonePercent)).Nodup
  inside : db.accrualLines bookingId ⊆ lines

variable {lines : List AccrualLine} {line : AccrualLine}

theorem CommissionDb.SplitBy.mem_iff (splitBy : db.SplitBy bookingId lines)
    (different : (lines.map (·.milestonePercent)).Nodup) (listed : line ∈ lines) :
    db.isAccrued bookingId line = true ↔ line ∈ db.accrualLines bookingId := by
  rw [isAccrued_eq_true]
  constructor
  · rintro ⟨accrual, there, same⟩
    have only : accrual = line :=
      List.inj_on_of_nodup_map different (splitBy.inside there) listed same
    exact only ▸ there
  · exact fun there => ⟨line, there, rfl⟩

theorem CommissionDb.SplitBy.hasAccrued_iff (splitBy : db.SplitBy bookingId lines)
    (different : (lines.map (·.milestonePercent)).Nodup) (listed : line ∈ lines) {percent : Nat}
    (named : line.milestonePercent = some percent) :
    db.HasAccrued bookingId percent ↔ line ∈ db.accrualLines bookingId := by
  rw [← splitBy.mem_iff different listed, isAccrued_eq_true, named]
  rfl

/-- **One posting** adds its share to the accruals, if it was not among them. -/
theorem CommissionDb.SplitBy.postShare {plan : AccrualPlan}
    (splitBy : db.SplitBy plan.bookingId plan.lines)
    (different : (plan.lines.map (·.milestonePercent)).Nodup) (listed : line ∈ plan.lines) :
    (plan.postShare db line).SplitBy plan.bookingId plan.lines ∧
      ∀ other, other ∈ (plan.postShare db line).accrualLines plan.bookingId ↔
        other ∈ db.accrualLines plan.bookingId ∨ other = line := by
  by_cases accrued : db.isAccrued plan.bookingId line = true
  · have same : plan.postShare db line = db := if_pos accrued
    have there := (splitBy.mem_iff different listed).mp accrued
    rw [same]
    refine ⟨splitBy, fun other => ⟨Or.inl, ?_⟩⟩
    rintro (old | rfl)
    · exact old
    · exact there
  · have posted : plan.postShare db line = db.postCommission [plan.entry line] := if_neg accrued
    have lines : (plan.postShare db line).accrualLines plan.bookingId =
        db.accrualLines plan.bookingId ++ [line] := by
      rw [posted, accrualLines_post, if_pos rfl]
    refine ⟨⟨?_, ?_⟩, fun other => ?_⟩
    · rw [lines]
      refine nodup_percents_append splitBy.distinct fun accrual member same => ?_
      exact accrued (isAccrued_eq_true.mpr ⟨accrual, member, same⟩)
    · rw [lines]
      exact List.append_subset.mpr ⟨splitBy.inside, List.cons_subset.mpr ⟨listed, List.nil_subset _⟩⟩
    · rw [lines, List.mem_append, List.mem_singleton]

theorem CommissionDb.SplitBy.postDue (splitBy : db.SplitBy bookingId lines)
    (different : (lines.map (·.milestonePercent)).Nodup) (plan : AccrualPlan)
    (booked : plan.bookingId = bookingId) (planned : plan.lines = lines) :
    (plan.postDue db).SplitBy bookingId lines ∧
      ∀ line, line ∈ (plan.postDue db).accrualLines bookingId ↔
        line ∈ db.accrualLines bookingId ∨
          line ∈ lines ∧ line.isDue plan.collectedBasisPoints = true := by
  subst booked planned
  have all : ∀ due : List AccrualLine, due ⊆ plan.lines →
      ∀ start : CommissionDb, start.SplitBy plan.bookingId plan.lines →
        (due.foldl plan.postShare start).SplitBy plan.bookingId plan.lines ∧
          ∀ line, line ∈ (due.foldl plan.postShare start).accrualLines plan.bookingId ↔
            line ∈ start.accrualLines plan.bookingId ∨ line ∈ due := by
    intro due
    induction due with
    | nil =>
      intro _ start splitBy
      exact ⟨splitBy, fun line => by simp⟩
    | cons first due ih =>
      intro listed start splitBy
      obtain ⟨head, rest⟩ := List.cons_subset.mp listed
      obtain ⟨after, added⟩ := splitBy.postShare different head
      obtain ⟨last, members⟩ := ih rest _ after
      refine ⟨last, fun line => ?_⟩
      rw [List.foldl_cons, members, added, List.mem_cons, or_assoc]
  obtain ⟨last, members⟩ := all plan.due (fun _ member => List.mem_of_mem_filter member) db splitBy
  refine ⟨last, fun line => (members line).trans (or_congr_right ?_)⟩
  exact List.mem_filter

theorem CommissionDb.SplitBy.accrued_eq {totalCommissionPaise : Int}
    (splitBy : db.SplitBy bookingId lines) (scheme : IsSchemeOf totalCommissionPaise lines)
    (full : lines ⊆ db.accrualLines bookingId) :
    db.accrued bookingId = totalCommissionPaise := by
  rw [← scheme.sum]
  refine le_antisymm ?_ ?_
  · exact sum_sharePaise_le splitBy.distinct.of_map splitBy.inside scheme.nonneg
  · exact sum_sharePaise_le scheme.distinct.of_map full fun line there =>
      scheme.nonneg line (splitBy.inside there)

/-! ### Milestones -/

def CommissionDb.AccruedBy (db : CommissionDb) (bookingId : Nat) (totalCommissionPaise : Int)
    (milestones : CommissionMilestones) : Prop :=
  ∀ shares, allocate totalCommissionPaise (milestoneWeights milestones.percents) = .ok shares →
    db.SplitBy bookingId (milestoneLines milestones.percents shares)

theorem exists_milestoneLine {milestones : List Nat} {shares : List Int}
    (same : milestones.length = shares.length) {percent : Nat} (member : percent ∈ milestones) :
    ∃ line ∈ milestoneLines milestones shares, line.milestonePercent = some percent := by
  have listed : some percent ∈ milestones.map some := List.mem_map_of_mem member
  rw [← (map_milestoneLines same).1] at listed
  exact List.mem_map.mp listed

theorem exists_percent {milestones : List Nat} {shares : List Int}
    (same : milestones.length = shares.length) (listed : line ∈ milestoneLines milestones shares) :
    ∃ percent ∈ milestones, line.milestonePercent = some percent := by
  have member : line.milestonePercent ∈ (milestoneLines milestones shares).map
      (·.milestonePercent) := List.mem_map_of_mem listed
  rw [(map_milestoneLines same).1] at member
  obtain ⟨percent, there, named⟩ := List.mem_map.mp member
  exact ⟨percent, there, named.symm⟩

/-- **When the share of a milestone is due**: the percentage of the price has been collected. -/
theorem isDue_iff (sound : db.Sound) (bookingId : Nat) (agreedPricePaise : Int) {percent : Nat}
    (named : line.milestonePercent = some percent) (positive : 1 ≤ percent) :
    line.isDue (db.collectedBasisPoints bookingId agreedPricePaise) = true ↔
      0 < agreedPricePaise ∧ percent * agreedPricePaise ≤ 100 * db.netReceived bookingId := by
  have received := netReceived_nonneg sound bookingId
  unfold AccrualLine.isDue CommissionDb.collectedBasisPoints
  rw [decide_eq_true_iff, named]
  simp only [Option.mem_some_iff, forall_eq']
  split
  · rename_i free
    constructor
    · omega
    · omega
  · rename_i priced
    have above : 0 < agreedPricePaise := by omega
    rw [Int.tdiv_eq_ediv_of_nonneg (by omega), Int.le_ediv_iff_mul_le above, mul_assoc]
    generalize (percent : Int) * agreedPricePaise = reached
    omega

theorem evaluate_milestones {brokerId : Nat} {booking : Booking}
    {snapshot : BrokerBookingCommission} {milestones : CommissionMilestones}
    (sound : db.AccruesSoundly) (found : db.bookings.find? bookingId = some booking)
    (sourced : db.brokerOf bookingId = some brokerId)
    (trigger : db.accrualTrigger = some .onCollectionMilestone)
    (evaluated : CommissionService.evaluate masters bookingId db = .ok after)
    (taken : after.snapshotOf bookingId = some snapshot)
    (ruled : (db.rules.find? snapshot.ruleId).bind (·.milestones) = some milestones)
    (earlier : db.AccruedBy bookingId snapshot.totalCommissionPaise milestones) :
    ∃ shares, milestones.percents.length = shares.length ∧
      IsSchemeOf snapshot.totalCommissionPaise (milestoneLines milestones.percents shares) ∧
      db.SplitBy bookingId (milestoneLines milestones.percents shares) ∧
      after.SplitBy bookingId (milestoneLines milestones.percents shares) ∧
      ∀ line, line ∈ after.accrualLines bookingId ↔ line ∈ db.accrualLines bookingId ∨
        line ∈ milestoneLines milestones.percents shares ∧
          line.isDue (db.collectedBasisPoints bookingId booking.agreedPricePaise) = true := by
  unfold CommissionService.evaluate at evaluated
  rw [bind_eq_ok] at evaluated
  obtain ⟨⟨answer, middle⟩, ran, posted⟩ := evaluated
  obtain ⟨basis, own, present, nonneg, plans⟩ := run_accrueForBooking sound found sourced trigger ran
  -- the postings leave the snapshot that the evaluation has gone by
  have same : after.snapshotOf bookingId = middle.snapshotOf bookingId := by
    cases answer with
    | none =>
      cases posted
      rfl
    | some plan =>
      cases posted
      exact snapshotOf_postDue plan middle bookingId
  rw [same, present] at taken
  cases taken
  obtain ⟨shares, split, rfl⟩ := plans milestones ruled
  cases posted
  have scheme := isSchemeOf_milestoneLines nonneg split
  have before := earlier shares split
  have accruals := basis.accrualLines bookingId
  have start : middle.SplitBy bookingId (milestoneLines milestones.percents shares) :=
    ⟨accruals ▸ before.distinct, accruals ▸ before.inside⟩
  obtain ⟨last, members⟩ := start.postDue scheme.distinct
    (db.milestonePlan bookingId booking brokerId snapshot _) rfl rfl
  rw [accruals] at members
  exact ⟨shares, length_of_split nonneg split, scheme, before, last, members⟩

/-! ### Settled bookings -/

/-- **As long as nothing has been evaluated**, whatever operations have been carried out, the tables
are sound and no booking has an accrual. -/
theorem soundly_of_requests (reachable : Reachable execCommission {} db) :
    db.AccruesSoundly ∧ ∀ bookingId, db.accrualLines bookingId = [] := by
  refine reachable.invariant (P := fun db => db.AccruesSoundly ∧
    ∀ bookingId, db.accrualLines bookingId = []) ⟨accruesSoundly_empty, fun _ => rfl⟩ ?_
  intro request before after invariant accepted
  have leaves := execCommission_leaves accepted
  refine ⟨(leaves.soundly invariant.1).1, fun bookingId => ?_⟩
  rw [leaves.accrualLines, invariant.2]

theorem accruedBy_of_none (none : db.accrualLines bookingId = []) (totalCommissionPaise : Int)
    (milestones : CommissionMilestones) :
    db.AccruedBy bookingId totalCommissionPaise milestones := by
  intro shares _
  refine ⟨?_, ?_⟩
  · rw [none]
    exact List.nodup_nil
  · rw [none]
    exact List.nil_subset _

/-- The small sale, sourced by a broker whose rule has milestones at 25 and 100 percent. -/
def sourcedSale : List CommissionRequest :=
  smallSale.map (fun asked => ⟨{ asked.masters with }, .core asked.op⟩) ++
    [⟨{}, .createRule (smallRule (smallMilestones 25 inRange_twentyFive))⟩,
      ⟨{}, .assignToBooking 0 0⟩, ⟨{}, .setAccrualTrigger (some .onCollectionMilestone)⟩]

def wholeReceipt (tdsDeductedPaise : Nat) : CommissionRequest :=
  ⟨{ smallMasters 0 0 with }, .core (.createReceipt (smallReceipt 0 0 .neft 1000 tdsDeductedPaise))⟩

def paidInCash : CommissionDb := run execCommission {} (sourcedSale ++ [wholeReceipt 0])

/-- The sale paid with a tax of 10 withheld, for which a certificate is recorded. -/
def paidWithCertificate : CommissionDb :=
  run execCommission {} (sourcedSale ++ [wholeReceipt 10, ⟨{}, .core (.recordTdsCertificate 0)⟩])

end OpenEstate
