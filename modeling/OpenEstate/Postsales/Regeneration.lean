/-
**Regenerating a schedule.**

A plan edit and a new plan delete the installments nothing is allocated to, which they read off the
cached amount. The deletion fails when a row of another table names such an installment. Two kinds
of rows can: allocations of receipts undone since, and the debits of interest with their accruals
(`Db.Charged`).
-/

import OpenEstate.Postsales.Schedule

namespace OpenEstate

open Relational

def Books.AllocatedByReversed (books : Books) (installmentId : Nat) : Prop :=
  ∃ id row receipt, books.allocations.find? id = some row ∧ row.installmentId = installmentId ∧
    books.receipts.find? row.receiptId = some receipt ∧ receipt.isReversed = true

def Db.InterestCharged (db : Db) (installmentId : Nat) : Prop :=
  ∃ id row, db.accruals.find? id = some row ∧ row.installmentId = installmentId

/-! ### Which entries name an installment -/

/-- **Outside the receipts, the entries that name an installment are interest charged on it.** -/
def Db.Charged (db : Db) : Prop :=
  ∀ id entry installmentId, db.ledger.find? id = some entry →
    entry.entryType.ofReceipt = false → entry.installmentId = some installmentId →
    entry.entryType = .interest ∧ db.InterestCharged installmentId

def LedgerEntry.Unplaced (entry : LedgerEntry) : Prop :=
  entry.entryType.ofReceipt = false → entry.installmentId = none

theorem charged_empty : ({} : Db).Charged := by
  rintro id entry installmentId ⟨⟩

/-- **What an operation does to interest**: nothing, or the accruals of one run with their
debits. -/
inductive Db.InterestStep (db : Db) : Request → Db → Prop
  | unplaced {request after} (entries : List LedgerEntry)
    (ledger : after.ledger = db.ledger.createMany entries) (accruals : after.accruals = db.accruals)
    (unplaced : ∀ entry ∈ entries, entry.Unplaced) : InterestStep db request after
  | accrued {masters bookingId asOf entries accruals}
    (recorded : ∀ entry ∈ entries, ∃ accrual ∈ accruals,
      entry = interestEntry bookingId accrual.installmentId accrual.accruedPaise) :
    InterestStep db ⟨masters, .accrueForBooking bookingId asOf⟩ (db.recordAccruals entries accruals)

variable {db : Db}

theorem Effect.interestStep {request : Request} {after : Db} (effect : Effect request db after) :
    db.InterestStep request after := by
  have nothing : ∀ entry ∈ ([] : List LedgerEntry), entry.Unplaced := by simp
  have single : ∀ entry : LedgerEntry, entry.installmentId = none →
      ∀ posted ∈ [entry], posted.Unplaced := by
    intro entry unplaced posted member _
    rw [List.mem_singleton.mp member]
    exact unplaced
  cases effect with
  | createBooking =>
    refine .unplaced _ rfl rfl fun entry member => ?_
    obtain ⟨lineTotal, _, rfl⟩ := List.mem_map.mp member
    exact fun _ => rfl
  | addExtraCharge => exact .unplaced _ rfl rfl (single _ rfl)
  | instantiateFromTemplate found deactivated =>
    rw [deactivateExistingPlans_frame deactivated]
    exact .unplaced [] rfl rfl nothing
  | createCustomPlan found deactivated =>
    rw [deactivateExistingPlans_frame deactivated]
    exact .unplaced [] rfl rfl nothing
  | raiseStage stage =>
    rcases stage with rfl | ⟨stageRaise, rfl⟩ <;> exact .unplaced [] rfl rfl nothing
  | @createReceipt _ _ dto =>
    refine .unplaced _ (recordReceipt_ledger _ _) rfl fun entry member => ?_
    rcases mem_receiptEntries member with ⟨a, _, rfl⟩ | ⟨_, rfl⟩
    · exact fun kind => nomatch kind
    · exact fun kind => nomatch kind
  | recordBounce =>
    refine .unplaced _ rfl rfl fun entry member => ?_
    rcases mem_reversalEntries member with ⟨row, _, rfl⟩ | ⟨_, rfl⟩
    · exact fun kind => nomatch kind
    · exact fun _ => rfl
  | reverseReceipt =>
    refine .unplaced _ rfl rfl fun entry member => ?_
    rcases mem_reversalEntries member with ⟨row, _, rfl⟩ | ⟨_, rfl⟩
    · exact fun kind => nomatch kind
    · exact fun _ => rfl
  | recordTdsCertificate => exact .unplaced _ rfl rfl (single _ rfl)
  | accrueForBooking found posted recorded => exact .accrued recorded
  | waiveInterest => exact .unplaced _ rfl rfl (single _ rfl)
  | approveRefund => exact .unplaced _ rfl rfl (single _ rfl)
  | @voucherBounced masters _ _ voucher =>
    have unplaced : ∀ entry ∈ voucherBouncedEntries voucher.bookingId voucher.amountPaise
        masters.chequeBounceChargePaise, entry.Unplaced := by
      intro entry member
      rcases List.mem_cons.mp member with rfl | charge
      · exact fun _ => rfl
      · split at charge
        · rw [List.mem_singleton.mp charge]
          exact fun _ => rfl
        · cases charge
    cases voucher.refundId <;> exact .unplaced _ rfl rfl unplaced
  | @transfer masters _ fromBookingId _ booking fee unitId applicantId =>
    have ledger : (db.carryOver fromBookingId (transferredBooking masters booking unitId applicantId)
        (db.balance fromBookingId) fee).ledger = db.ledger.createMany
          (carryOutEntry fromBookingId (db.balance fromBookingId) ::
            carryInEntries db.bookings.nextId (db.balance fromBookingId) fee) := rfl
    refine .unplaced _ ledger rfl fun entry member => ?_
    rcases List.mem_cons.mp member with rfl | carriedIn
    · exact fun _ => rfl
    · rcases List.mem_cons.mp carriedIn with rfl | charge
      · exact fun _ => rfl
      · split at charge
        · rw [List.mem_singleton.mp charge]
          exact fun _ => rfl
        · cases charge
  | cancel =>
    refine .unplaced _ rfl rfl fun entry member => ?_
    simp only [settlementEntries, List.mem_cons, List.not_mem_nil, or_false] at member
    rcases member with rfl | rfl
    · exact fun _ => rfl
    · exact fun _ => rfl
  | _ => exact .unplaced [] rfl rfl nothing

theorem Effect.charged {request : Request} {after : Db} (effect : Effect request db after)
    (charged : db.Charged) : after.Charged := by
  intro id entry installmentId found kind named
  cases effect.interestStep with
  | unplaced entries ledger accruals unplaced =>
    rw [ledger] at found
    rcases Table.find?_createMany found with old | ⟨_, new⟩
    · obtain ⟨interest, accrued⟩ := charged id entry installmentId old kind named
      refine ⟨interest, ?_⟩
      unfold Db.InterestCharged at accrued ⊢
      rw [accruals]
      exact accrued
    · rw [unplaced entry new kind] at named
      cases named
  | @accrued _ bookingId _ entries accruals recorded =>
    have found : (db.ledger.createMany entries).find? id = some entry := found
    rcases Table.find?_createMany found with old | ⟨_, new⟩
    · obtain ⟨interest, rowId, row, rowFound, own⟩ := charged id entry installmentId old kind named
      exact ⟨interest, rowId, row, Table.find?_createMany_old accruals rowFound, own⟩
    · obtain ⟨accrual, listed, rfl⟩ := recorded entry new
      obtain ⟨rowId, _, rowFound⟩ := Table.exists_of_mem_createMany db.accruals listed
      exact ⟨rfl, rowId, accrual, rowFound, Option.some.inj named⟩

theorem ReachableDb.charged (reachable : ReachableDb db) : db.Charged := by
  refine reachable.invariant charged_empty ?_
  intro request before after invariant accepted
  exact (exec_effect accepted).charged invariant

/-! ### Installments nothing is allocated to -/

variable {known : Nat → Prop} {books : Books} {id installmentId : Nat}

theorem Books.Sound.exists_allocation (sound : books.Sound known) {entry : LedgerEntry}
    (found : books.ledger.find? id = some entry) (credit : entry.entryType = .receiptAlloc)
    (named : entry.installmentId = some installmentId) :
    ∃ rowId row, books.allocations.find? rowId = some row ∧ row.installmentId = installmentId := by
  by_contra noRow
  obtain ⟨hasReceipt, _, _⟩ := (sound.linked.entry id entry found).credit credit
  obtain ⟨receiptId, ofReceipt⟩ := Option.ne_none_iff_exists'.mp hasReceipt
  have unallocated : books.allocatedBy installmentId receiptId = 0 := by
    refine Table.sum_eq_zero fun rowId row rowFound => if_neg fun own => ?_
    exact noRow ⟨rowId, row, rowFound, own.1⟩
  have uncredited := sound.mirrored installmentId receiptId
  rw [unallocated, neg_zero, ← neg_eq_zero] at uncredited
  unfold Books.sumWhere at uncredited
  rw [← Table.sum_neg] at uncredited
  have figures : ∀ key other, books.ledger.find? key = some other →
      0 ≤ -other.amountIf (other.isCreditOf installmentId receiptId) := by
    intro key other otherFound
    by_cases counted : other.isCreditOf installmentId receiptId = true
    · have kind : other.entryType = .receiptAlloc := by
        simp only [LedgerEntry.isCreditOf, LedgerEntry.isCreditOn, Bool.decide_and, Bool.and_eq_true,
          decide_eq_true_eq] at counted
        exact counted.1.1
      obtain ⟨_, _, negative⟩ := (sound.linked.entry key other otherFound).credit kind
      simp only [LedgerEntry.amountIf, counted, if_true]
      omega
    · simp [LedgerEntry.amountIf, counted]
  have nothing := Table.eq_zero_of_sum_eq_zero figures uncredited found
  have counted : entry.isCreditOf installmentId receiptId = true := by
    simp [LedgerEntry.isCreditOf, LedgerEntry.isCreditOn, credit, named, ofReceipt]
  obtain ⟨_, _, negative⟩ := (sound.linked.entry id entry found).credit credit
  simp only [LedgerEntry.amountIf, counted, if_true] at nothing
  omega

/-- An entry of the receipts that names an installment comes with an allocation on it: it is a
credit, or reverses one. -/
theorem Books.Sound.exists_allocation_of_ofReceipt (sound : books.Sound known) {entry : LedgerEntry}
    (found : books.ledger.find? id = some entry) (kind : entry.entryType.ofReceipt = true)
    (named : entry.installmentId = some installmentId) :
    ∃ rowId row, books.allocations.find? rowId = some row ∧ row.installmentId = installmentId := by
  have link := sound.linked.entry id entry found
  have reverses : entry.reversalOfEntryId ≠ none →
      ∃ rowId row, books.allocations.find? rowId = some row ∧ row.installmentId = installmentId := by
    intro reversal
    obtain ⟨targetId, target⟩ := Option.ne_none_iff_exists'.mp reversal
    obtain ⟨other, receiptId, present, own, _, _, sameInst, _⟩ := link.reversal targetId target
    rcases (isOwnOf_iff.mp own).2 with credit | receivable
    · exact sound.exists_allocation present credit (sameInst.symm.trans named)
    · obtain ⟨_, noInst, _⟩ := (sound.linked.entry targetId other present).receivable receivable
      rw [sameInst, noInst] at named
      cases named
  cases type : entry.entryType with
  | receiptAlloc => exact sound.exists_allocation found type named
  | tdsReceivable =>
    rw [(link.receivable type).2.1] at named
    cases named
  | tdsCertAdjustment =>
    rw [(link.certificate type).2.1] at named
    cases named
  | bounceReversal => exact reverses (link.reverses.mp (Or.inr type))
  | adjustment => exact reverses (link.reverses.mp (Or.inl type))
  | _ =>
    rw [type] at kind
    cases kind

theorem Books.Sound.allocatedByReversed (sound : books.Sound known) {rowId : Nat}
    {inst : Installment} {row : ReceiptAllocation} (found : books.installments.find? id = some inst)
    (unallocated : inst.allocatedPaise = 0) (rowFound : books.allocations.find? rowId = some row)
    (own : row.installmentId = id) :
    books.AllocatedByReversed id := by
  have nothing := (sound.cached id inst found).allocations
  rw [unallocated] at nothing
  obtain ⟨receipt, _, receiptFound, _, _, positive⟩ := sound.linked.allocation rowId row rowFound
  refine ⟨rowId, row, receipt, rowFound, own, receiptFound, ?_⟩
  by_contra stands
  have figures : ∀ key other, books.allocations.find? key = some other →
      0 ≤ if other.installmentId = id ∧ books.stands other.receiptId then other.amountPaise else 0 := by
    intro key other otherFound
    obtain ⟨_, _, _, _, _, otherPositive⟩ := sound.linked.allocation key other otherFound
    split
    · exact otherPositive.le
    · exact le_refl 0
  have zero := Table.eq_zero_of_sum_eq_zero figures nothing.symm rowFound
  have counted : books.stands row.receiptId = true := by
    unfold Books.stands
    rw [receiptFound]
    simpa using stands
  rw [if_pos ⟨own, counted⟩] at zero
  omega

/-! ### What a deletion meets -/

def Books.Replaces (books : Books) (planId installmentId : Nat) : Prop :=
  ∃ inst, books.installments.find? installmentId = some inst ∧ inst.planId = planId ∧
    inst.allocatedPaise = 0

/-- The answer when interest was charged on an installment that is to be deleted. -/
def interestChargedRefusal : ServiceError :=
  .conflict "This installment has interest charged and can't be removed."

variable {dropped : Nat → Installment → Bool}

theorem isDropped_iff
    {installments : Table Installment} : ((installments.find? id).map (dropped id)).getD false = true ↔
      ∃ inst, installments.find? id = some inst ∧ dropped id inst = true := by
  cases installments.find? id <;> simp

/-- **A deletion of installments nothing was ever allocated to** fails exactly when interest was
charged on one of them. -/
theorem deleteInstallments_of_unallocated (sound : db.Sound) (charged : db.Charged)
    (unallocated : ∀ id inst, db.installments.find? id = some inst → dropped id inst = true →
      inst.allocatedPaise = 0 ∧ ¬db.AllocatedByReversed id) :
    ((∃ id inst, db.installments.find? id = some inst ∧ dropped id inst = true ∧
        db.InterestCharged id) → db.deleteInstallments dropped = .error interestChargedRefusal) ∧
      ((∀ id inst, db.installments.find? id = some inst → dropped id inst = true →
        ¬db.InterestCharged id) →
          db.deleteInstallments dropped = .ok (db.dropInstallments dropped)) := by
  have noAllocation : ∀ rowId row, db.allocations.find? rowId = some row →
      ¬((db.installments.find? row.installmentId).map (dropped row.installmentId)).getD false := by
    intro rowId row rowFound isDropped
    obtain ⟨inst, found, drop⟩ := isDropped_iff.mp isDropped
    obtain ⟨zero, never⟩ := unallocated row.installmentId inst found drop
    exact never (sound.books.allocatedByReversed found zero rowFound rfl)
  have allocations : db.allocations.any (fun _ row =>
      ((db.installments.find? row.installmentId).map (dropped row.installmentId)).getD false) =
        false :=
    Table.any_eq_false.mpr fun rowId row rowFound => by simpa using noAllocation rowId row rowFound
  unfold Db.deleteInstallments
  rw [ensure_bind allocations]
  constructor
  · rintro ⟨id, inst, found, drop, rowId, row, rowFound, rfl⟩
    have accruals : ¬db.accruals.any (fun _ row =>
        ((db.installments.find? row.installmentId).map (dropped row.installmentId)).getD false) =
          false := by
      rw [Bool.not_eq_false, Table.any_eq_true]
      exact ⟨rowId, row, rowFound, isDropped_iff.mpr ⟨inst, found, drop⟩⟩
    by_cases ledger : db.ledger.any (fun _ entry => (entry.installmentId.map fun id =>
        ((db.installments.find? id).map (dropped id)).getD false).getD false) = false
    · rw [ensure_bind ledger, ensure_bind_of_not accruals]
      rfl
    · rw [ensure_bind_of_not ledger]
      rfl
  · intro uncharged
    have ledger : db.ledger.any (fun _ entry => (entry.installmentId.map fun id =>
        ((db.installments.find? id).map (dropped id)).getD false).getD false) = false := by
      refine Table.any_eq_false.mpr fun entryId entry entryFound => ?_
      cases named : entry.installmentId with
      | none => rfl
      | some id =>
        rw [Option.map_some, Option.getD_some, Bool.eq_false_iff]
        intro isDropped
        obtain ⟨inst, found, drop⟩ := isDropped_iff.mp isDropped
        cases kind : entry.entryType.ofReceipt with
        | true =>
          obtain ⟨rowId, row, rowFound, rfl⟩ :=
            sound.books.exists_allocation_of_ofReceipt entryFound kind named
          exact noAllocation rowId row rowFound isDropped
        | false => exact uncharged id inst found drop (charged entryId entry id entryFound kind named).2
    have accruals : db.accruals.any (fun _ row =>
        ((db.installments.find? row.installmentId).map (dropped row.installmentId)).getD false) =
          false := by
      refine Table.any_eq_false.mpr fun rowId row rowFound => ?_
      rw [Bool.eq_false_iff]
      intro isDropped
      obtain ⟨inst, found, drop⟩ := isDropped_iff.mp isDropped
      exact uncharged row.installmentId inst found drop ⟨rowId, row, rowFound, rfl⟩
    rw [ensure_bind ledger, ensure_bind accruals]
    rfl

/-! ### Plan edits -/

/-- What an edit checks and works out before it writes: the plan it edits, and the amounts of the
new installments. -/
def checkEdit (bookingId : Nat) (dto : CreatePaymentPlanDto) (db : Db) :
    Except ServiceError ((Nat × PaymentPlan) × List Int) := do
  let booking ← loadBookingForPlan bookingId db
  let plan ← orThrow (db.activePlan bookingId) (.notFound "No active payment plan to edit")
  let frozen := db.installments.select fun _ inst =>
    inst.planId = plan.1 ∧ 0 < inst.allocatedPaise
  let residual := booking.agreedPricePaise - (frozen.map (·.2.amountPaise)).sum
  ensure (0 ≤ residual) (.badRequest "Frozen installments already exceed the agreed price")
  let amounts ← resolveAmounts dto.installments residual
  return (plan, amounts)

def Books.editedRows (books : Books) (bookingId planId : Nat) (dto : CreatePaymentPlanDto)
    (amounts : List Int) : List Installment :=
  let frozen := books.installments.select fun _ inst =>
    inst.planId = planId ∧ 0 < inst.allocatedPaise
  customInstallments bookingId planId ((frozen.map (·.2.seq)).foldl max 0 + 1) dto.installments
    amounts

/-- **An edit is its own checks, then a deletion**, then the new installments. -/
theorem editPlan_eq (bookingId : Nat) (dto : CreatePaymentPlanDto) (db : Db) :
    editPlan bookingId dto db = checkEdit bookingId dto db >>= fun checked =>
      (db.deleteInstallments fun _ inst =>
        inst.planId = checked.1.1 ∧ inst.allocatedPaise = 0) >>= fun cleared =>
          .ok (cleared.addInstallments
            (db.editedRows bookingId checked.1.1 dto checked.2)) := by
  unfold editPlan checkEdit
  simp only [bind_assoc, pure_bind]
  rfl

/-! ### When a plan can be regenerated -/

/-- **Regenerating a plan fails only for interest**: it is accepted exactly when no interest was
charged on an installment it deletes, and refused with a plain message otherwise. -/
structure Db.RefusedForInterest (db : Db) (planId : Nat) (answer : Except ServiceError Db) : Prop where
  accepted : (∃ after, answer = .ok after) ↔
    ∀ id, db.Replaces planId id → ¬db.InterestCharged id
  refused : ∀ error, answer = .error error → error = interestChargedRefusal

theorem refusedForInterest_of_delete (sound : db.Sound) (charged : db.Charged) {planId : Nat}
    (drops : ∀ id inst, db.installments.find? id = some inst →
      (dropped id inst = true ↔ inst.planId = planId ∧ inst.allocatedPaise = 0))
    (never : ∀ id, db.Replaces planId id → ¬db.AllocatedByReversed id) (write : Db → Db) :
    db.RefusedForInterest planId
      (db.deleteInstallments dropped >>= fun cleared => .ok (write cleared)) := by
  obtain ⟨refused, accepted⟩ := deleteInstallments_of_unallocated sound charged
    fun id inst found drop => by
      obtain ⟨own, zero⟩ := (drops id inst found).mp drop
      exact ⟨zero, never id ⟨inst, found, own, zero⟩⟩
  by_cases any : ∃ id inst, db.installments.find? id = some inst ∧ dropped id inst = true ∧
      db.InterestCharged id
  · rw [refused any]
    obtain ⟨id, inst, found, drop, interest⟩ := any
    constructor
    case accepted =>
      refine iff_of_false (fun ⟨after, impossible⟩ => nomatch impossible) fun uncharged => ?_
      exact uncharged id ⟨inst, found, (drops id inst found).mp drop⟩ interest
    case refused =>
      intro error answered
      exact (Except.error.inj answered).symm
  · have uncharged : ∀ id inst, db.installments.find? id = some inst → dropped id inst = true →
        ¬db.InterestCharged id :=
      fun id inst found drop interest => any ⟨id, inst, found, drop, interest⟩
    rw [accepted uncharged]
    constructor
    case accepted =>
      refine iff_of_true ⟨_, rfl⟩ ?_
      rintro id ⟨inst, found, replaced⟩
      exact uncharged id inst found ((drops id inst found).mpr replaced)
    case refused => exact fun error impossible => nomatch impossible

/-- **Which rows can name an installment nothing is allocated to**, and what they do to an edit and
to a new plan, when no receipt allocated to the installments was undone since. -/
theorem plan_regeneration_refused_for_interest {db : Db} (reachable : ReachableDb db) :
    (∀ id inst, db.installments.find? id = some inst → inst.allocatedPaise = 0 →
      ¬db.AllocatedByReversed id →
      (∀ rowId row, db.allocations.find? rowId = some row → row.installmentId ≠ id) ∧
      ∀ entryId entry, db.ledger.find? entryId = some entry → entry.installmentId = some id →
        entry.entryType = .interest ∧ db.InterestCharged id) ∧
    (∀ bookingId dto plan amounts, checkEdit bookingId dto db = .ok (plan, amounts) →
      (∀ id, db.Replaces plan.1 id → ¬db.AllocatedByReversed id) →
      db.RefusedForInterest plan.1 (editPlan bookingId dto db)) ∧
    (∀ planId, (∀ id inst, db.installments.find? id = some inst → inst.planId = planId →
        inst.allocatedPaise ≤ 0) →
      (∀ id, db.Replaces planId id → ¬db.AllocatedByReversed id) →
      db.RefusedForInterest planId (deactivatePlan db planId)) := by
  have sound := ReachableDb.sound reachable
  have charged := ReachableDb.charged reachable
  refine ⟨fun id inst found zero never => ?_, ?_, ?_⟩
  · have unallocated : ∀ rowId row, db.allocations.find? rowId = some row →
        row.installmentId ≠ id := by
      intro rowId row rowFound own
      exact never (sound.books.allocatedByReversed found zero rowFound own)
    refine ⟨unallocated, fun entryId entry entryFound named => ?_⟩
    cases kind : entry.entryType.ofReceipt with
    | true =>
      obtain ⟨rowId, row, rowFound, own⟩ :=
        sound.books.exists_allocation_of_ofReceipt entryFound kind named
      exact absurd own (unallocated rowId row rowFound)
    | false => exact charged entryId entry id entryFound kind named
  · intro bookingId dto plan amounts checked never
    rw [editPlan_eq, checked]
    exact refusedForInterest_of_delete sound charged (fun id inst _ => by simp) never _
  · intro planId unpaid never
    have noPaid : db.installments.any
        (fun _ inst => inst.planId = planId ∧ 0 < inst.allocatedPaise) = false := by
      refine Table.any_eq_false.mpr fun id inst found => ?_
      have none := unpaid id inst found
      simp only [decide_eq_false_iff_not, not_and, not_lt]
      exact none
    unfold deactivatePlan
    rw [ensure_bind noPaid]
    refine refusedForInterest_of_delete sound charged (fun id inst found => ?_) never _
    have nonneg := (sound.books.cached id inst found).nonneg
    have none := unpaid id inst found
    simp only [decide_eq_true_eq, iff_self_and]
    exact fun own => le_antisymm (none own) nonneg

/-- The sale's plan has nothing paid and no interest, and can be edited. -/
theorem plan_regeneration_refused_for_interest_smallSale :
    (run exec {} smallSale).RefusedForInterest 0 (editPlan 0 smallPlan (run exec {} smallSale)) := by
  refine (plan_regeneration_refused_for_interest (reachable_run _ _)).2.1 0 smallPlan (0, _) _ rfl ?_
  rintro id _ ⟨rowId, row, receipt, found, _⟩
  cases found

def smallInterest : Masters where
  interestRules := fun _ => some { rateType := .simple, rateBasisPoints := 1000 }

def smallOverdue : Db :=
  run exec {} (smallSale ++
    [⟨{}, .setInterestRule 0 (some 0)⟩, ⟨smallInterest, .accrueForBooking 0 (some (addDays 0 365))⟩])

def smallUndone : Db := run exec {} (smallPaid ++ [⟨{}, .reverseReceipt 0⟩])

/-- An installment nothing is allocated to, with interest charged on it or with the allocation of a
receipt undone since: an edit that passes its own checks is refused. -/
theorem plan_edit_refused :
    (ReachableDb smallOverdue ∧ smallOverdue.Replaces 0 0 ∧ smallOverdue.InterestCharged 0 ∧
      (∃ plan amounts, checkEdit 0 smallPlan smallOverdue = .ok ((0, plan), amounts)) ∧
      editPlan 0 smallPlan smallOverdue = .error interestChargedRefusal) ∧
    (ReachableDb smallUndone ∧ smallUndone.Replaces 0 0 ∧ smallUndone.AllocatedByReversed 0 ∧
      (∃ plan amounts, checkEdit 0 smallPlan smallUndone = .ok ((0, plan), amounts)) ∧
      ¬∃ after, editPlan 0 smallPlan smallUndone = .ok after) := by
  refine ⟨⟨reachable_run _ _, ⟨_, rfl, rfl, rfl⟩, ⟨0, _, rfl, rfl⟩, ⟨_, _, rfl⟩, rfl⟩,
    reachable_run _ _, ⟨_, rfl, rfl, rfl⟩, ⟨0, _, _, rfl, rfl, rfl, rfl⟩, ⟨_, _, rfl⟩, ?_⟩
  rintro ⟨after, accepted⟩
  cases accepted

end OpenEstate
