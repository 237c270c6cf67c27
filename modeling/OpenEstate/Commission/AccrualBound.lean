/-
**How much a booking accrues.**

The commission of a booking is fixed in its snapshot, but every evaluation splits it by the trigger
and the milestones it finds. Evaluations that go by one split never post more than the commission,
and have posted all of it when every milestone was met; evaluations that go by different ones, or
that look for an accrual before another has posted it, can post more, or be done with less.

* `AccruesSoundly` is the invariant of the tables: the accruals of a booking are different shares of
  one split;
* `AccrualSession.Knows` is what a session knows about them wherever it stands;
* `AccrualSession.Unmixed` is the condition on a posting, and on the end of an evaluation;
* **`accrued_within`**: in a run of unmixed steps, no booking ever accrues more than its commission,
  and a booking for which every milestone has been met has accrued all of it.
-/

import OpenEstate.Commission.Accrual
import OpenEstate.Postsales.Sound

namespace OpenEstate

open Relational

/-! ### Tables -/

def CommissionDb.totalCommission (db : CommissionDb) (bookingId : Nat) : Int :=
  ((db.snapshotOf bookingId).map (·.totalCommissionPaise)).getD 0

structure CommissionDb.AccruesSoundly (db : CommissionDb) : Prop where
  core : ReachableDb db.toDb
  total_nonneg : ∀ bookingId snapshot, db.snapshotOf bookingId = some snapshot →
    0 ≤ snapshot.totalCommissionPaise
  known : ∀ bookingId, db.snapshotOf bookingId = none → db.accrualLines bookingId = []
  share : ∀ bookingId, ∀ line ∈ db.accrualLines bookingId,
    0 ≤ line.sharePaise ∧ line.sharePaise ≤ db.totalCommission bookingId
  scheme : ∀ bookingId, 0 < db.totalCommission bookingId →
    ((db.accrualLines bookingId).map (·.milestonePercent)).Nodup ∧
      ∃ lines, IsSchemeOf (db.totalCommission bookingId) lines ∧
        db.accrualLines bookingId ⊆ lines

variable {db : CommissionDb} {bookingId : Nat} {snapshot : BrokerBookingCommission}

theorem totalCommission_of_snapshot (found : db.snapshotOf bookingId = some snapshot) :
    db.totalCommission bookingId = snapshot.totalCommissionPaise := by
  rw [CommissionDb.totalCommission, found]
  rfl

theorem CommissionDb.AccruesSoundly.totalCommission_nonneg (sound : db.AccruesSoundly)
    (bookingId : Nat) : 0 ≤ db.totalCommission bookingId := by
  cases found : db.snapshotOf bookingId with
  | none =>
    rw [totalCommission, found]
    exact le_refl _
  | some snapshot =>
    rw [totalCommission_of_snapshot found]
    exact sound.total_nonneg bookingId snapshot found

theorem CommissionDb.AccruesSoundly.accrued_le (sound : db.AccruesSoundly)
    (bookingId : Nat) : db.accrued bookingId ≤ db.totalCommission bookingId := by
  rcases (sound.totalCommission_nonneg bookingId).lt_or_eq with positive | nothing
  · obtain ⟨distinct, lines, scheme, inside⟩ := sound.scheme bookingId positive
    rw [← scheme.sum]
    exact sum_sharePaise_le distinct.of_map inside scheme.nonneg
  · have zero : db.accrued bookingId = 0 := by
      refine List.sum_eq_zero fun amount member => ?_
      obtain ⟨line, listed, rfl⟩ := List.mem_map.mp member
      have within := sound.share bookingId line listed
      omega
    rw [zero, nothing]

theorem CommissionDb.AccruesSoundly.sum_nonneg (sound : db.AccruesSoundly)
    {lines : List AccrualLine} (inside : lines ⊆ db.accrualLines bookingId) :
    0 ≤ (lines.map (·.sharePaise)).sum := by
  refine List.sum_nonneg fun amount member => ?_
  obtain ⟨line, listed, rfl⟩ := List.mem_map.mp member
  exact (sound.share bookingId line (inside listed)).1

/-! ### Growth -/

structure CommissionDb.Grows (before after : CommissionDb) : Prop where
  snapshots : ∀ bookingId snapshot, before.snapshotOf bookingId = some snapshot →
    after.snapshotOf bookingId = some snapshot
  accrualLines : ∀ bookingId, before.accrualLines bookingId <+: after.accrualLines bookingId

instance : Std.Refl CommissionDb.Grows where
  refl := fun _ => ⟨fun _ _ found => found, fun _ => List.prefix_rfl⟩

instance : IsTrans CommissionDb CommissionDb.Grows where
  trans := fun _ _ _ first second =>
    ⟨fun _ _ found => second.snapshots _ _ (first.snapshots _ _ found),
      fun bookingId => (first.accrualLines bookingId).trans (second.accrualLines bookingId)⟩

variable {before after : CommissionDb}

theorem CommissionDb.Grows.accrued_le (grows : before.Grows after) (sound : after.AccruesSoundly)
    (bookingId : Nat) :
    before.accrued bookingId ≤ after.accrued bookingId := by
  obtain ⟨rest, same⟩ := grows.accrualLines bookingId
  have more : 0 ≤ (rest.map (·.sharePaise)).sum :=
    sound.sum_nonneg (same ▸ List.subset_append_right _ rest)
  unfold CommissionDb.accrued
  rw [← same, List.map_append, List.sum_append]
  omega

theorem CommissionDb.Leaves.soundly (leaves : before.Leaves after)
    (sound : before.AccruesSoundly) : after.AccruesSoundly ∧ before.Grows after := by
  have snapshots : ∀ bookingId, after.snapshotOf bookingId = before.snapshotOf bookingId := by
    intro bookingId
    rw [snapshotOf, leaves.snapshots]
    rfl
  have totals : ∀ bookingId,
      after.totalCommission bookingId = before.totalCommission bookingId := by
    intro bookingId
    rw [totalCommission, snapshots]
    rfl
  refine ⟨⟨leaves.core sound.core, ?_, ?_, ?_, ?_⟩, ⟨?_, ?_⟩⟩
  · intro bookingId snapshot found
    exact sound.total_nonneg bookingId snapshot (snapshots bookingId ▸ found)
  · intro bookingId missing
    rw [leaves.accrualLines]
    exact sound.known bookingId (snapshots bookingId ▸ missing)
  · intro bookingId
    rw [leaves.accrualLines, totals]
    exact sound.share bookingId
  · intro bookingId
    rw [leaves.accrualLines, totals]
    exact sound.scheme bookingId
  · intro bookingId snapshot found
    rw [snapshots]
    exact found
  · intro bookingId
    exact leaves.accrualLines bookingId ▸ List.prefix_rfl

/-! ### Snapshots -/

theorem snapshotOf_insertSnapshot (db : CommissionDb) (snapshot : BrokerBookingCommission)
    (bookingId : Nat) : (db.insertSnapshot snapshot).snapshotOf bookingId =
      (db.snapshotOf bookingId).or
        (if snapshot.bookingId = bookingId then some snapshot else none) := by
  unfold CommissionDb.insertSnapshot
  split
  · rename_i taken
    by_cases mine : snapshot.bookingId = bookingId
    · subst mine
      obtain ⟨old, found⟩ := Option.isSome_iff_exists.mp taken
      rw [found]
      rfl
    · rw [if_neg mine, Option.or_none]
  · unfold CommissionDb.snapshotOf
    rw [Table.findFirst?_create]
    by_cases mine : snapshot.bookingId = bookingId
    · cases (db.snapshots.findFirst? _) <;> simp [mine]
    · cases (db.snapshots.findFirst? _) <;> simp [mine]

/-- The tables of the financial core, the rules and the commission ledger are the same. -/
structure CommissionDb.SameBasis (before after : CommissionDb) : Prop where
  core : after.toDb = before.toDb
  rules : after.rules = before.rules
  ledger : after.commissionLedger = before.commissionLedger

theorem CommissionDb.SameBasis.accrualLines (same : before.SameBasis after) (bookingId : Nat) :
    after.accrualLines bookingId = before.accrualLines bookingId := by
  unfold CommissionDb.accrualLines
  rw [same.ledger]

theorem sameBasis_insertSnapshot (db : CommissionDb) (snapshot : BrokerBookingCommission) :
    db.SameBasis (db.insertSnapshot snapshot) := by
  unfold CommissionDb.insertSnapshot
  split
  · exact ⟨rfl, rfl, rfl⟩
  · exact ⟨rfl, rfl, rfl⟩

theorem accrualLines_insertSnapshot (db : CommissionDb) (snapshot : BrokerBookingCommission)
    (bookingId : Nat) :
    (db.insertSnapshot snapshot).accrualLines bookingId = db.accrualLines bookingId :=
  (sameBasis_insertSnapshot db snapshot).accrualLines bookingId

theorem toDb_insertSnapshot (db : CommissionDb) (snapshot : BrokerBookingCommission) :
    (db.insertSnapshot snapshot).toDb = db.toDb :=
  (sameBasis_insertSnapshot db snapshot).core

theorem CommissionDb.AccruesSoundly.insertSnapshot (sound : db.AccruesSoundly)
    (nonneg : 0 ≤ snapshot.totalCommissionPaise) :
    (db.insertSnapshot snapshot).AccruesSoundly ∧ db.Grows (db.insertSnapshot snapshot) := by
  have grows : db.Grows (db.insertSnapshot snapshot) := by
    refine ⟨fun bookingId old found => ?_, fun bookingId => ?_⟩
    · rw [snapshotOf_insertSnapshot, found]
      rfl
    · exact accrualLines_insertSnapshot db snapshot bookingId ▸ List.prefix_rfl
  -- a booking without accruals takes any commission; the others keep theirs
  have settled : ∀ bookingId, (db.accrualLines bookingId = [] ∨
      (db.insertSnapshot snapshot).totalCommission bookingId = db.totalCommission bookingId) := by
    intro bookingId
    cases found : db.snapshotOf bookingId with
    | none => exact Or.inl (sound.known bookingId found)
    | some old =>
      refine Or.inr ?_
      rw [totalCommission_of_snapshot found,
        totalCommission_of_snapshot (grows.snapshots bookingId old found)]
  have totalNonneg : ∀ bookingId other,
      (db.insertSnapshot snapshot).snapshotOf bookingId = some other →
        0 ≤ other.totalCommissionPaise := by
    intro bookingId other found
    rw [snapshotOf_insertSnapshot, Option.or_eq_some_iff] at found
    rcases found with old | ⟨_, fresh⟩
    · exact sound.total_nonneg bookingId other old
    · split at fresh
      · cases fresh
        exact nonneg
      · cases fresh
  refine ⟨⟨?_, totalNonneg, ?_, ?_, ?_⟩, grows⟩
  · rw [toDb_insertSnapshot]
    exact sound.core
  · intro bookingId missing
    rw [snapshotOf_insertSnapshot, Option.or_eq_none_iff] at missing
    rw [accrualLines_insertSnapshot]
    exact sound.known bookingId missing.1
  · intro bookingId
    rw [accrualLines_insertSnapshot]
    rcases settled bookingId with nothing | same
    · rw [nothing]
      exact nofun
    · rw [same]
      exact sound.share bookingId
  · intro bookingId positive
    rw [accrualLines_insertSnapshot]
    rcases settled bookingId with nothing | same
    · rw [nothing]
      exact ⟨List.nodup_nil, _, isSchemeOf_onBooking positive.le, List.nil_subset _⟩
    · rw [same] at positive ⊢
      exact sound.scheme bookingId positive

/-! ### Evaluations -/

structure AccrualPlan.Valid (plan : AccrualPlan) (db : CommissionDb) : Prop where
  snapshot : ∃ snapshot, db.snapshotOf plan.bookingId = some snapshot ∧
    snapshot.totalCommissionPaise = plan.totalCommissionPaise
  scheme : IsSchemeOf plan.totalCommissionPaise plan.lines

variable {plan : AccrualPlan}

theorem AccrualPlan.Valid.grow (valid : plan.Valid before)
    (grows : before.Grows after) : plan.Valid after where
  snapshot := by
    obtain ⟨snapshot, found, same⟩ := valid.snapshot
    exact ⟨snapshot, grows.snapshots _ _ found, same⟩
  scheme := valid.scheme

theorem AccrualPlan.Valid.totalCommission
    (valid : plan.Valid db) : db.totalCommission plan.bookingId = plan.totalCommissionPaise := by
  obtain ⟨snapshot, found, same⟩ := valid.snapshot
  rw [totalCommission_of_snapshot found, same]

/-- What an evaluation answers, it answers in accordance with the snapshot. -/
abbrev Assures {α : Type} (ends : α → CommissionDb → Prop) (evaluation : Evaluation α)
    (db : CommissionDb) : Prop :=
  evaluation.Assured CommissionDb.AccruesSoundly CommissionDb.Grows ends db

def IsSnapshotOf (bookingId : Nat) (snapshot : BrokerBookingCommission)
    (db : CommissionDb) : Prop :=
  db.snapshotOf bookingId = some snapshot ∧ 0 ≤ snapshot.totalCommissionPaise

theorem findApplicableRule_assured (brokerId : Nat) (projectId : Option Nat) (db : CommissionDb) :
    Assures (fun _ _ => True)
      (BrokerCommissionRuleService.findApplicableRule brokerId projectId) db := by
  refine .read_bind fun seen _ _ => ?_
  split
  · exact .done fun _ _ _ => trivial
  · exact .read fun _ _ _ _ _ => trivial

theorem createSnapshot_assured (snapshot : BrokerBookingCommission)
    (nonneg : 0 ≤ snapshot.totalCommissionPaise) (db : CommissionDb) :
    Assures (IsSnapshotOf snapshot.bookingId) (CommissionService.createSnapshot snapshot) db := by
  refine .stmt (fun later _ sound => sound.insertSnapshot nonneg) fun later _ _ => ?_
  refine .check_bind fun _ fresh => .done fun after grows _ => ?_
  rw [ensure_eq_ok, Option.isSome_eq_false_iff, Option.isNone_iff_eq_none] at fresh
  refine ⟨grows.snapshots _ _ ?_, nonneg⟩
  rw [snapshotOf_insertSnapshot, fresh, if_pos rfl]
  rfl

theorem ensureSnapshot_assured (masters : BrokerMasters) (bookingId : Nat) {booking : Booking}
    (priceNonneg : 0 ≤ booking.agreedPricePaise) (brokerId : Nat) (db : CommissionDb) :
    Assures (IsSnapshotOf bookingId)
      (CommissionService.ensureSnapshot masters bookingId booking brokerId) db := by
  refine .read_bind fun seen _ sound => ?_
  cases existing : seen.snapshotOf bookingId with
  | some snapshot =>
    refine .done fun later grows _ => ?_
    exact ⟨grows.snapshots _ _ existing, sound.total_nonneg _ _ existing⟩
  | none =>
    refine (findApplicableRule_assured _ _ seen).bind sound fun found after _ _ => ?_
    refine .check_bind fun rule _ => .check_bind fun total computed => ?_
    exact createSnapshot_assured
      { bookingId, brokerId, ruleId := rule.1, totalCommissionPaise := total }
      (computeCommissionPaise_nonneg priceNonneg computed) after

def IsValidPlan (plan : Option AccrualPlan) (db : CommissionDb) : Prop :=
  ∀ found, plan = some found → found.Valid db

theorem accrueOnMilestones_assured (known : IsSnapshotOf bookingId snapshot db) (booking : Booking)
    (brokerId : Nat) :
    Assures IsValidPlan
      (CommissionService.accrueOnMilestones bookingId booking brokerId snapshot) db := by
  refine .read_bind fun seen grows _ => ?_
  have found := grows.snapshots _ _ known.1
  split
  · exact .done fun _ _ _ => nofun
  · rename_i milestones _
    refine .check_bind fun shares split => .read_bind fun collected more _ => ?_
    refine .done fun later further _ => ?_
    rintro plan ⟨⟩
    refine ⟨⟨snapshot, ?_, rfl⟩, isSchemeOf_milestoneLines known.2 split⟩
    exact further.snapshots _ _ (more.snapshots _ _ found)

/-- **An evaluation goes by a split of the commission in the snapshot.** -/
theorem accrueForBooking_assured (masters : BrokerMasters) (bookingId : Nat) (db : CommissionDb) :
    Assures IsValidPlan (CommissionService.accrueForBooking masters bookingId) db := by
  refine .read_bind fun seen _ sound => .check_bind fun booking found => ?_
  rw [orThrow_eq_ok] at found
  have priceNonneg := sound.core.sound.grounded.price_nonneg bookingId booking found
  split
  · exact .done fun _ _ _ => nofun
  · rename_i brokerId _
    refine .read_bind fun triggered _ sound => ?_
    refine (ensureSnapshot_assured masters bookingId priceNonneg brokerId triggered).bind sound
      fun snapshot after _ known => ?_
    split
    · refine .done fun later grows _ => ?_
      rintro plan ⟨⟩
      exact ⟨⟨snapshot, grows.snapshots _ _ known.1, rfl⟩, isSchemeOf_onBooking known.2⟩
    · exact accrueOnMilestones_assured known booking brokerId

/-! ### Postings -/

/-- How far an evaluation has come: what is due and not still to do has been posted. -/
structure AccrualPlan.PostedBut (plan : AccrualPlan) (due : List AccrualLine) (db : CommissionDb) :
    Prop where
  valid : plan.Valid db
  listed : ∀ line ∈ due, line ∈ plan.lines
  posted : ∀ line ∈ plan.due, line ∈ due ∨
    ∃ accrual ∈ db.accrualLines plan.bookingId, accrual.milestonePercent = line.milestonePercent

variable {due : List AccrualLine}

theorem AccrualPlan.PostedBut.grow (posted : plan.PostedBut due before)
    (grows : before.Grows after) : plan.PostedBut due after where
  valid := posted.valid.grow grows
  listed := posted.listed
  posted := by
    intro line member
    rcases posted.posted line member with still | ⟨accrual, there, same⟩
    · exact Or.inl still
    · exact Or.inr ⟨accrual, (grows.accrualLines _).subset there, same⟩

def AccrualSession.Knows : AccrualSession → CommissionDb → Prop
  | .request _, _ => True
  | .evaluating todo, db => Assures IsValidPlan todo db
  | .posting plan due, db => plan.PostedBut due db
  | .creating plan line due, db => plan.PostedBut (line :: due) db
  | .completed plan, db => plan.Valid db ∧
      (plan.AllMet → db.accrued plan.bookingId = db.totalCommission plan.bookingId)
  | .ended, _ => True

/-- **Unmixed.** A posting meets only accruals that are other shares of the split it goes by, and
when an evaluation ends for which every milestone was met, all accruals are shares of its split. -/
def AccrualSession.Unmixed : AccrualSession → CommissionDb → Prop
  | .creating plan line _, db => 0 < plan.totalCommissionPaise →
      ∀ accrual ∈ db.accrualLines plan.bookingId,
        accrual ∈ plan.lines ∧ accrual.milestonePercent ≠ line.milestonePercent
  | .posting plan [], db => plan.AllMet → 0 < plan.totalCommissionPaise →
      ∀ accrual ∈ db.accrualLines plan.bookingId, accrual ∈ plan.lines
  | _, _ => True

theorem AccrualSession.Knows.grow {session : AccrualSession} (knows : session.Knows before)
    (grows : before.Grows after) (sound : after.AccruesSoundly) :
    session.Knows after := by
  cases session with
  | request => trivial
  | evaluating todo => exact Tx.Assured.grow knows grows
  | posting plan due => exact AccrualPlan.PostedBut.grow knows grows
  | creating plan line due => exact AccrualPlan.PostedBut.grow knows grows
  | completed plan =>
    obtain ⟨valid, complete⟩ := knows
    refine ⟨valid.grow grows, fun allMet => le_antisymm (sound.accrued_le _) ?_⟩
    rw [(valid.grow grows).totalCommission, ← valid.totalCommission, ← complete allMet]
    exact grows.accrued_le sound _
  | ended => trivial

/-! ### Moves -/

theorem accrualLines_post (db : CommissionDb) (plan : AccrualPlan) (line : AccrualLine)
    (bookingId : Nat) : (db.postCommission [plan.entry line]).accrualLines bookingId =
      db.accrualLines bookingId ++ if plan.bookingId = bookingId then [line] else [] := by
  rw [accrualLines_postCommission]
  congr 1
  by_cases mine : plan.bookingId = bookingId
  · simp [CommissionLedgerEntry.isAccrualOf, AccrualPlan.entry, CommissionLedgerEntry.line, mine]
  · simp [CommissionLedgerEntry.isAccrualOf, AccrualPlan.entry, mine]

theorem grows_post (db : CommissionDb) (plan : AccrualPlan) (line : AccrualLine) :
    db.Grows (db.postCommission [plan.entry line]) where
  snapshots := fun _ _ found => found
  accrualLines := by
    intro bookingId
    rw [accrualLines_post]
    exact List.prefix_append _ _

variable {line : AccrualLine}

theorem nodup_percents_append {lines : List AccrualLine}
    (distinct : (lines.map (·.milestonePercent)).Nodup)
    (others : ∀ accrual ∈ lines, accrual.milestonePercent ≠ line.milestonePercent) :
    ((lines ++ [line]).map (·.milestonePercent)).Nodup := by
  rw [List.map_append, List.nodup_append]
  refine ⟨distinct, List.nodup_singleton _, ?_⟩
  intro percent there other fresh same
  obtain ⟨accrual, member, own⟩ := List.mem_map.mp there
  rw [List.map_singleton, List.mem_singleton] at fresh
  exact others accrual member (own.trans (same.trans fresh))

theorem soundly_post (sound : db.AccruesSoundly) (valid : plan.Valid db)
    (listed : line ∈ plan.lines) (unmixed : (AccrualSession.creating plan line due).Unmixed db) :
    (db.postCommission [plan.entry line]).AccruesSoundly := by
  have alone : [line] ⊆ plan.lines := List.cons_subset.mpr ⟨listed, List.nil_subset _⟩
  have within : line.sharePaise ≤ db.totalCommission plan.bookingId := by
    have one := sum_sharePaise_le (List.nodup_singleton line) alone valid.scheme.nonneg
    rw [valid.scheme.sum, ← valid.totalCommission] at one
    simpa using one
  refine ⟨sound.core, sound.total_nonneg, ?_, ?_, ?_⟩
  · intro bookingId missing
    have missing : db.snapshotOf bookingId = none := missing
    have other : plan.bookingId ≠ bookingId := by
      rintro rfl
      obtain ⟨snapshot, found, _⟩ := valid.snapshot
      rw [missing] at found
      cases found
    rw [accrualLines_post, if_neg other, List.append_nil]
    exact sound.known bookingId missing
  · intro bookingId accrual member
    show 0 ≤ accrual.sharePaise ∧ accrual.sharePaise ≤ db.totalCommission bookingId
    rw [accrualLines_post, List.mem_append] at member
    rcases member with old | fresh
    · exact sound.share bookingId accrual old
    · split at fresh
      · rename_i mine
        rw [List.mem_singleton] at fresh
        subst fresh mine
        exact ⟨valid.scheme.nonneg accrual listed, within⟩
      · cases fresh
  · intro bookingId positive
    have positive : 0 < db.totalCommission bookingId := positive
    obtain ⟨distinct, old⟩ := sound.scheme bookingId positive
    rw [accrualLines_post]
    by_cases mine : plan.bookingId = bookingId
    · subst mine
      have total : (db.postCommission [plan.entry line]).totalCommission plan.bookingId =
          plan.totalCommissionPaise := valid.totalCommission
      rw [valid.totalCommission] at positive
      have others := unmixed positive
      rw [if_pos rfl, total]
      refine ⟨?_, plan.lines, valid.scheme, List.append_subset.mpr ⟨?_, ?_⟩⟩
      · exact nodup_percents_append distinct fun accrual member => (others accrual member).2
      · exact fun accrual member => (others accrual member).1
      · exact alone
    · rw [if_neg mine, List.append_nil]
      exact ⟨distinct, old⟩

theorem AccrualPlan.PostedBut.pass (posted : plan.PostedBut (line :: due) db)
    (accrued : ∃ accrual ∈ db.accrualLines plan.bookingId,
      accrual.milestonePercent = line.milestonePercent) : plan.PostedBut due db where
  valid := posted.valid
  listed := fun other member => posted.listed other (List.mem_cons_of_mem _ member)
  posted := by
    intro other member
    rcases posted.posted other member with still | there
    · rcases List.mem_cons.mp still with rfl | later
      · exact Or.inr accrued
      · exact Or.inl later
    · exact Or.inr there

theorem AccrualPlan.PostedBut.post (posted : plan.PostedBut (line :: due) db) :
    plan.PostedBut due (db.postCommission [plan.entry line]) := by
  refine (posted.grow (grows_post db plan line)).pass ⟨line, ?_, rfl⟩
  rw [accrualLines_post, if_pos rfl]
  exact List.mem_append_right _ (List.mem_singleton_self _)

theorem isAccrued_eq_true :
    db.isAccrued bookingId line = true ↔ ∃ accrual ∈ db.accrualLines bookingId,
      accrual.milestonePercent = line.milestonePercent := by
  unfold CommissionDb.isAccrued CommissionDb.accrualLines
  rw [Table.any_eq_true]
  simp only [List.mem_map, Prod.exists, Table.mem_select, decide_eq_true_eq]
  constructor
  · rintro ⟨id, entry, found, isAccrual, same⟩
    exact ⟨entry.line, ⟨entry, ⟨id, entry, ⟨found, isAccrual⟩, rfl⟩, rfl⟩, same⟩
  · rintro ⟨_, ⟨entry, ⟨id, row, ⟨found, isAccrual⟩, rfl⟩, rfl⟩, same⟩
    exact ⟨id, row, found, isAccrual, same⟩

/-- **An unmixed evaluation for which every milestone was met leaves all of the commission.** -/
theorem accrued_of_allMet (sound : db.AccruesSoundly) (posted : plan.PostedBut [] db)
    (unmixed : (AccrualSession.posting plan []).Unmixed db) (allMet : plan.AllMet) :
    db.accrued plan.bookingId = db.totalCommission plan.bookingId := by
  refine le_antisymm (sound.accrued_le _) ?_
  rcases (sound.totalCommission_nonneg plan.bookingId).lt_or_eq with positive | nothing
  · rw [posted.valid.totalCommission] at positive
    have shares := unmixed allMet positive
    -- the accrual of a milestone can only be its share
    have inside : plan.lines ⊆ db.accrualLines plan.bookingId := by
      intro line member
      have due : line ∈ plan.due := List.mem_filter.mpr ⟨member, allMet line member⟩
      rcases posted.posted line due with still | ⟨accrual, there, same⟩
      · cases still
      · have only : accrual = line :=
          List.inj_on_of_nodup_map posted.valid.scheme.distinct (shares accrual there) member same
        exact only ▸ there
    rw [posted.valid.totalCommission, ← posted.valid.scheme.sum]
    refine sum_sharePaise_le posted.valid.scheme.distinct.of_map inside fun accrual there => ?_
    exact (sound.share plan.bookingId accrual there).1
  · rw [← nothing]
    exact sound.sum_nonneg (List.Subset.refl _)

theorem move_sound {session next : AccrualSession} (sound : db.AccruesSoundly)
    (knows : session.Knows db) (unmixed : session.Unmixed db)
    (moved : session.move db = some (next, after)) :
    after.AccruesSoundly ∧ db.Grows after ∧ next.Knows after := by
  cases session with
  | request asked =>
    rw [AccrualSession.move] at moved
    split at moved
    · rename_i accepted
      cases moved
      obtain ⟨keeps, grows⟩ := (execCommission_leaves accepted).soundly sound
      exact ⟨keeps, grows, trivial⟩
    · cases moved
      exact ⟨sound, refl _, trivial⟩
  | evaluating todo =>
    have knows : Assures IsValidPlan todo db := knows
    cases knows with
    | done right =>
      rename_i plan
      have valid := right db (refl _) sound
      cases plan with
      | none =>
        cases moved
        exact ⟨sound, refl _, trivial⟩
      | some plan =>
        cases moved
        refine ⟨sound, refl _, valid plan rfl, fun line member => ?_, fun line due => Or.inl due⟩
        exact List.mem_of_mem_filter member
    | fail =>
      cases moved
      exact ⟨sound, refl _, trivial⟩
    | stmt writes follows =>
      cases moved
      obtain ⟨keeps, grows⟩ := writes db (refl _) sound
      exact ⟨keeps, grows, follows db (refl _) sound⟩
  | posting plan due =>
    cases due with
    | nil =>
      cases moved
      have posted : plan.PostedBut [] db := knows
      exact ⟨sound, refl _, posted.valid, accrued_of_allMet sound posted unmixed⟩
    | cons line due =>
      rw [AccrualSession.move] at moved
      split at moved
      · rename_i found
        cases moved
        exact ⟨sound, refl _, AccrualPlan.PostedBut.pass knows (isAccrued_eq_true.mp found)⟩
      · cases moved
        exact ⟨sound, refl _, knows⟩
  | creating plan line due =>
    cases moved
    have posted : plan.PostedBut (line :: due) db := knows
    have listed := posted.listed line List.mem_cons_self
    exact ⟨soundly_post sound posted.valid listed unmixed, grows_post db plan line, posted.post⟩
  | completed plan => cases moved
  | ended => cases moved

/-! ### Runs -/

/-- No booking has accrued more than its commission, and a booking has accrued all of it once an
evaluation that found every milestone met is done. -/
structure AccruedWithin {ι : Type} (world : Shared ι CommissionDb AccrualSession) : Prop where
  bounded : ∀ bookingId, world.rows.accrued bookingId ≤ world.rows.totalCommission bookingId
  complete : ∀ session plan, world.sessions session = .completed plan → plan.AllMet →
    world.rows.accrued plan.bookingId = world.rows.totalCommission plan.bookingId

theorem accruesSoundly_empty : CommissionDb.AccruesSoundly {} where
  core := .init
  total_nonneg := fun _ _ => nofun
  known := fun _ _ => rfl
  share := fun _ _ => nofun
  scheme := fun _ positive => absurd positive (lt_irrefl 0)

/-- **Commission is never over-accrued** in a run whose steps are unmixed: for any calls, in any
order of their statements, in every state, no booking has accrued more than its commission, and once
every milestone of its rule was met it has accrued all of it. -/
theorem accrued_within {ι : Type} [DecidableEq ι] (calls : ι → CommissionCall) (schedule : List ι)
    (unmixed : ∀ step ∈ steps (Shared.exec AccrualSession.move) (accrualStart calls) schedule,
      (step.before.sessions step.input).Unmixed step.before.rows) :
    ∀ world ∈ states (Shared.exec AccrualSession.move) (accrualStart calls) schedule,
      AccruedWithin world := by
  have initially : ∀ session, ((accrualStart calls).sessions session).Knows {} := by
    intro session
    show (calls session).session.Knows {}
    cases calls session with
    | request asked => trivial
    | accrue masters bookingId => exact accrueForBooking_assured masters bookingId {}
  have survives : ∀ session rows after, CommissionDb.Grows rows after → after.AccruesSoundly →
      AccrualSession.Knows session rows → session.Knows after :=
    fun _ _ _ grows sound knows => knows.grow grows sound
  have moves : ∀ session rows next after, CommissionDb.AccruesSoundly rows →
      AccrualSession.Knows session rows → session.Unmixed rows →
      session.move rows = some (next, after) →
      after.AccruesSoundly ∧ rows.Grows after ∧ next.Knows after :=
    fun _ _ _ _ => move_sound
  intro world visited
  obtain ⟨sound, knows⟩ := Shared.knows_of_states survives moves accruesSoundly_empty initially
    schedule unmixed world visited
  refine ⟨sound.accrued_le, fun session plan completed allMet => ?_⟩
  have known := knows session
  rw [completed] at known
  exact known.2 allMet

/-! ### The small estate -/

instance (plan : AccrualPlan) : Decidable plan.AllMet :=
  inferInstanceAs (Decidable (∀ line ∈ plan.lines, _))

instance (session : AccrualSession) (db : CommissionDb) : Decidable (session.Unmixed db) :=
  match session with
  | .creating plan line _ => inferInstanceAs (Decidable (0 < plan.totalCommissionPaise →
      ∀ accrual ∈ db.accrualLines plan.bookingId,
        accrual ∈ plan.lines ∧ accrual.milestonePercent ≠ line.milestonePercent))
  | .posting plan [] => inferInstanceAs (Decidable (plan.AllMet → 0 < plan.totalCommissionPaise →
      ∀ accrual ∈ db.accrualLines plan.bookingId, accrual ∈ plan.lines))
  | .posting _ (_ :: _) => .isTrue trivial
  | .request _ => .isTrue trivial
  | .evaluating _ => .isTrue trivial
  | .completed _ => .isTrue trivial
  | .ended => .isTrue trivial

theorem smallRule_paise_nonneg (paise : Int) (named : some 1000 = some paise) : 0 ≤ paise := by
  cases named
  decide

def smallRule (milestones : CommissionMilestones) : CreateCommissionRuleDto where
  brokerId := 0
  commissionType := .flatAmount
  flatPaise := some 1000
  milestones := some milestones
  percent_max := by
    intro basisPoints named
    cases named
  paise_nonneg := smallRule_paise_nonneg
  slabs_wellFormed := by
    intro list named
    cases named
  slabs_required := nofun
  percent_required := nofun
  paise_required := fun _ => rfl

def smallMilestones (first : Nat) (inRange : 1 ≤ first ∧ first < 100) : CommissionMilestones where
  percents := [first, 100]
  nonempty := by simp
  inRange := by simp; omega
  ascending := by simp; omega

theorem inRange_twentyFive : 1 ≤ 25 ∧ 25 < 100 := by decide

def smallSourced (paid : Int) (first : Nat) (inRange : 1 ≤ first ∧ first < 100) :
    List CommissionCall :=
  (smallSale ++ [({ op := .createReceipt (smallReceipt 0 0 .cash paid 0) } : Request)]).map
      (fun asked => .request ⟨{ asked.masters with }, .core asked.op⟩) ++
    [.request ⟨{}, .createRule (smallRule (smallMilestones first inRange))⟩,
      .request ⟨{}, .assignToBooking 0 0⟩]

/-- The session of each call of a list, and a call that does nothing after them. -/
def callAt (calls : List CommissionCall) (session : Nat) : CommissionCall :=
  calls.getD session (.request ⟨{}, .deactivateRule 0⟩)

def oneByOne (calls : List CommissionCall) : List Nat :=
  (List.range calls.length).flatMap fun session => List.replicate 16 session

def smallAccrual : List CommissionCall :=
  smallSourced 1000 25 inRange_twentyFive ++
    [.request ⟨{}, .setAccrualTrigger (some .onCollectionMilestone)⟩, .accrue {} 0]

theorem accrued_within_smallAccrual :
    (∀ step ∈ steps (Shared.exec AccrualSession.move) (accrualStart (callAt smallAccrual))
        (oneByOne smallAccrual), (step.before.sessions step.input).Unmixed step.before.rows) ∧
      ∀ world ∈ states (Shared.exec AccrualSession.move) (accrualStart (callAt smallAccrual))
        (oneByOne smallAccrual), AccruedWithin world :=
  have unmixed : ∀ step ∈ steps (Shared.exec AccrualSession.move)
      (accrualStart (callAt smallAccrual)) (oneByOne smallAccrual),
      (step.before.sessions step.input).Unmixed step.before.rows := by decide +kernel
  ⟨unmixed, accrued_within (callAt smallAccrual) (oneByOne smallAccrual) unmixed⟩

def switchTrigger : CommissionCall :=
  .request { op := .setAccrualTrigger (some .onCollectionMilestone) }

def editMilestones : CommissionCall :=
  .request
    { op := .updateRule 0
        { milestones := some (smallMilestones 50 (by decide))
          percent_max := by
            intro basisPoints named
            cases named
          paise_nonneg := by
            intro paise named
            cases named
          slabs_wellFormed := by
            intro list named
            cases named } }

def accrualRun (calls : List CommissionCall) (schedule : List Nat) :
    Shared Nat CommissionDb AccrualSession :=
  run (Shared.exec AccrualSession.move) (accrualStart (callAt calls)) schedule

theorem exists_last_request {earlier : List CommissionCall} {request : CommissionRequest}
    (accepted : execCommission request
      (accrualRun (earlier ++ [.request request]) (oneByOne earlier)).rows = .ok after) :
    ∃ step ∈ steps (Shared.exec AccrualSession.move)
        (accrualStart (callAt (earlier ++ [.request request])))
        (oneByOne earlier ++ [earlier.length]),
      step.before.sessions step.input = .request request ∧
        execCommission request step.before.rows = .ok step.after.rows ∧
        step.before.rows = (accrualRun (earlier ++ [.request request]) (oneByOne earlier)).rows ∧
        step.after.rows = after := by
  have idle : earlier.length ∉ oneByOne earlier := by
    intro member
    obtain ⟨session, inside, same⟩ := List.mem_flatMap.mp member
    rw [List.mem_range] at inside
    rw [List.eq_of_mem_replicate same] at inside
    exact lt_irrefl _ inside
  have asked : (accrualRun (earlier ++ [.request request]) (oneByOne earlier)).sessions
      earlier.length = .request request := by
    rw [accrualRun, Shared.sessions_run idle]
    simp [accrualStart, callAt, CommissionCall.session]
  have moves : AccrualSession.move (.request request)
      (accrualRun (earlier ++ [.request request]) (oneByOne earlier)).rows =
        some (.ended, after) := by
    rw [AccrualSession.move, accepted]
  exact ⟨_, last_mem_steps (Shared.exec_eq_ok.mpr ⟨.ended, after, asked ▸ moves, rfl⟩), asked,
    accepted, rfl, rfl⟩

def switchedCalls : List CommissionCall :=
  smallSourced 1000 25 inRange_twentyFive ++ [.accrue {} 0, switchTrigger, .accrue {} 0]

/-- Evaluated under the milestone trigger before and after an edit of the milestones. -/
def editedCalls : List CommissionCall :=
  smallSourced 1000 25 inRange_twentyFive ++ [switchTrigger, .accrue {} 0, editMilestones, .accrue {} 0]

/-- Evaluated twice, with both evaluations looking for the accrual before either posts it. -/
def racedCalls : List CommissionCall :=
  smallSourced 1000 25 inRange_twentyFive ++ [.accrue {} 0, .accrue {} 0]

/-- The first evaluation is paused before its posting, and the second one runs. -/
def racedSchedule : List Nat :=
  oneByOne (smallSourced 1000 25 inRange_twentyFive) ++ List.replicate 8 7 ++ List.replicate 16 8 ++
    List.replicate 16 7

/-- **A commission of 1000 accrues in full twice** when the trigger is switched in between, or when
two evaluations overlap, and 1500 of it when the milestones are edited in between. -/
theorem over_accrued :
    let switched := accrualRun switchedCalls (oneByOne switchedCalls)
    let edited := accrualRun editedCalls (oneByOne editedCalls)
    let raced := accrualRun racedCalls racedSchedule
    (switched.rows.accrued 0 = 2000 ∧ ¬AccruedWithin switched) ∧
      (edited.rows.accrued 0 = 1500 ∧ ¬AccruedWithin edited) ∧
      (raced.rows.accrued 0 = 2000 ∧ ¬AccruedWithin raced) := by
  refine ⟨⟨by decide +kernel, fun within => ?_⟩, ⟨by decide +kernel, fun within => ?_⟩,
    ⟨by decide +kernel, fun within => ?_⟩⟩
  · exact absurd (within.bounded 0) (by decide +kernel)
  · exact absurd (within.bounded 0) (by decide +kernel)
  · exact absurd (within.bounded 0) (by decide +kernel)

end OpenEstate
