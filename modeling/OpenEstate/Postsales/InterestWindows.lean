/-
**The windows of interest.**

Every accrual of an installment charges for the days from where the one before it stopped. The
cursor is read off the accruals themselves, so what keeps them in line over a run is an invariant
of the tables (`Db.Windowed`): an installment's windows tile the days from its due date on, each
accrual is the charge for its own window, and the debits of interest on the installment add up to
its accruals.

A second run up to the same date finds nothing to charge for (`Db.Settled`), also after payments and
other runs.
-/

import Mathlib.Data.Int.ConditionallyCompleteOrder
import OpenEstate.Postsales.Regeneration
import OpenEstate.Relational.Tiling

namespace OpenEstate

open Relational

/-! ### Days -/

def dayOf (date : Date) : Int := date / dayMs

theorem dayOf_mono : Monotone dayOf := fun _ _ le => Int.ediv_le_ediv (by decide) le

@[simp] theorem dayOf_toUtcMidnight (date : Date) : dayOf (toUtcMidnight date) = dayOf date :=
  Int.mul_ediv_cancel _ (by decide)

theorem daysBetween_eq (start finish : Date) :
    daysBetween start finish = dayOf finish - dayOf start := by
  unfold daysBetween toUtcMidnight
  rw [← Int.sub_mul]
  exact Int.mul_ediv_cancel _ (by decide)

/-! ### Windows -/

/-- The days an accrual charges for: from the first one on, and before the second one. -/
def InterestAccrual.days (accrual : InterestAccrual) : Int × Int :=
  (dayOf accrual.periodStart, dayOf accrual.periodEnd)

/-- The days charged for on an installment, accrual by accrual, oldest first. -/
def Db.windows (db : Db) (installmentId : Nat) : List (Int × Int) :=
  (db.priorAccruals installmentId).map (·.2.days)

def Db.accruedOn (db : Db) (installmentId : Nat) : Int :=
  ((db.priorAccruals installmentId).map (·.2.accruedPaise)).sum

def Books.interestPosted (books : Books) (installmentId : Nat) : Int :=
  books.ledger.sum fun _ entry =>
    if entry.entryType = .interest ∧ entry.installmentId = some installmentId then
      entry.signedAmountPaise
    else 0

/-- An accrual is the interest on its principal for the days of its window, at some rate. -/
def InterestAccrual.IsCharge (accrual : InterestAccrual) : Prop :=
  0 < accrual.accruedPaise ∧ ∃ rule : InterestRule, accrual.accruedPaise =
    roundedDiv (accrual.principalPaise * rule.rateBasisPoints *
      (accrual.days.2 - accrual.days.1)) (365 * 10000)

/-- **The invariant**: windows tile the days from the due date on, and only what they charge is
posted. -/
structure Db.Windowed (db : Db) : Prop where
  tiled : ∀ id, db.windows id = [] ∨ ∃ inst dueDate, db.installments.find? id = some inst ∧
    inst.dueDate = some dueDate ∧ Tiles (dayOf dueDate) (db.windows id)
  charged : ∀ id accrual, db.accruals.find? id = some accrual → accrual.IsCharge
  posted : ∀ id, db.interestPosted id = db.accruedOn id

theorem windowed_empty : ({} : Db).Windowed where
  tiled := fun _ => Or.inl rfl
  charged := by rintro id accrual ⟨⟩
  posted := fun _ => rfl

theorem Db.interestCharged_iff (db : Db) (id : Nat) : db.InterestCharged id ↔ db.windows id ≠ [] := by
  unfold Db.InterestCharged Db.windows
  rw [ne_eq, List.map_eq_nil_iff]
  constructor
  · rintro ⟨key, accrual, found, own⟩
    have listed : (key, accrual) ∈ db.priorAccruals id :=
      Table.mem_select.mpr ⟨found, decide_eq_true own⟩
    exact List.ne_nil_of_mem listed
  · intro nonempty
    obtain ⟨⟨key, accrual⟩, listed⟩ := List.exists_mem_of_ne_nil _ nonempty
    obtain ⟨found, own⟩ := Table.mem_select.mp listed
    exact ⟨key, accrual, found, of_decide_eq_true own⟩

/-! ### The cursor -/

theorem dayOf_foldl_max (first : Date) (rest : List Date) :
    dayOf (rest.foldl max first) = (rest.map dayOf).foldl max (dayOf first) := by
  induction rest generalizing first with
  | nil => rfl
  | cons next rest ih =>
    rw [List.foldl_cons, ih, List.map_cons, List.foldl_cons, dayOf_mono.map_max]

variable {db : Db} {dueDate : Date}

theorem dayOf_accrualCursor {id : Nat} (tiles : Tiles (dayOf dueDate) (db.windows id)) :
    dayOf (db.accrualCursor id dueDate) = endOf (dayOf dueDate) (db.windows id) := by
  unfold Db.windows at tiles ⊢
  unfold Db.accrualCursor
  cases prior : db.priorAccruals id with
  | nil => rfl
  | cons first rest =>
    rw [prior] at tiles
    have later : dayOf dueDate ≤ dayOf first.2.periodEnd := tiles.2.1.le
    rw [← tiles.foldl_max, List.map_cons, List.map_cons, List.map_cons, List.foldl_cons]
    show dayOf ((rest.map (·.2.periodEnd)).foldl max first.2.periodEnd) =
      ((rest.map (·.2.days)).map Prod.snd).foldl max (max (dayOf dueDate) (dayOf first.2.periodEnd))
    rw [dayOf_foldl_max, max_eq_right later, List.map_map, List.map_map]
    rfl

/-! ### One accrual -/

theorem priorAccruals_addAccrual (db : Db) (accrual : InterestAccrual) (id : Nat) :
    (db.addAccrual accrual).priorAccruals id = db.priorAccruals id ++
      if accrual.installmentId = id then [(db.accruals.nextId, accrual)] else [] := by
  unfold Db.priorAccruals Db.addAccrual Table.select Table.create
  rw [List.filter_append, List.filter_singleton]
  by_cases own : accrual.installmentId = id <;> simp [own]

theorem windows_addAccrual (db : Db) (accrual : InterestAccrual) (id : Nat) :
    (db.addAccrual accrual).windows id =
      db.windows id ++ if accrual.installmentId = id then [accrual.days] else [] := by
  unfold Db.windows
  rw [priorAccruals_addAccrual, List.map_append]
  split <;> rfl

theorem accruedOn_addAccrual (db : Db) (accrual : InterestAccrual) (id : Nat) :
    (db.addAccrual accrual).accruedOn id =
      db.accruedOn id + if accrual.installmentId = id then accrual.accruedPaise else 0 := by
  unfold Db.accruedOn
  rw [priorAccruals_addAccrual, List.map_append, List.sum_append]
  split <;> simp

theorem windows_prefix_accrueInstallment (rule : InterestRule) (bookingId : Nat) (asOf : Date)
    (db : Db) (row : Nat × Installment) (id : Nat) :
    db.windows id <+: (accrueInstallment rule bookingId asOf db row).windows id := by
  unfold accrueInstallment
  split
  · rw [windows_addAccrual]
    exact List.prefix_append _ _
  · exact List.prefix_refl _

@[simp] theorem accrueInstallment_installments (rule : InterestRule) (bookingId : Nat) (asOf : Date)
    (db : Db) (row : Nat × Installment) :
    (accrueInstallment rule bookingId asOf db row).installments = db.installments := by
  unfold accrueInstallment
  split <;> rfl

@[simp] theorem accrueInstallment_bookings (rule : InterestRule) (bookingId : Nat) (asOf : Date)
    (db : Db) (row : Nat × Installment) :
    (accrueInstallment rule bookingId asOf db row).bookings = db.bookings := by
  unfold accrueInstallment
  split <;> rfl

theorem Db.Windowed.tiles (windowed : db.Windowed) {id : Nat} {inst : Installment}
    (found : db.installments.find? id = some inst)
    (due : inst.dueDate = some dueDate) : Tiles (dayOf dueDate) (db.windows id) := by
  rcases windowed.tiled id with none | ⟨same, date, present, dated, tiles⟩
  · rw [none]
    exact trivial
  · rw [found] at present
    cases present
    rw [due] at dated
    cases dated
    exact tiles

variable {row : Nat × Installment}

theorem Db.Windowed.uncharged (windowed : db.Windowed)
    (found : db.installments.find? row.1 = some row.2) (due : row.2.dueDate = some dueDate)
    (asOf : Date) :
    db.uncharged asOf row = dayOf asOf - endOf (dayOf dueDate) (db.windows row.1) := by
  unfold Db.uncharged
  rw [due, ← dayOf_accrualCursor (windowed.tiles found due)]
  exact daysBetween_eq _ _

/-- **An accrual on an installment that is due keeps the invariant**: its window starts where the
earlier ones end, and is not empty. -/
theorem Db.Windowed.accrue (windowed : db.Windowed) (rule : InterestRule) (bookingId : Nat)
    (asOf : Date) (found : db.installments.find? row.1 = some row.2)
    (due : row.2.dueDate = some dueDate) :
    (accrueInstallment rule bookingId asOf db row).Windowed := by
  unfold accrueInstallment
  split
  case isFalse => exact windowed
  case isTrue owed =>
    obtain ⟨_, uncharged, interest⟩ := owed
    have tiles := windowed.tiles found due
    have days := windowed.uncharged found due asOf
    rw [days] at uncharged
    constructor
    case tiled =>
      intro id
      rw [windows_addAccrual]
      by_cases own : row.1 = id
      · subst own
        rw [if_pos rfl]
        refine Or.inr ⟨row.2, dueDate, found, due, tiles_append_singleton.mpr ⟨tiles, ?_, ?_⟩⟩
        · rw [due]
          exact dayOf_accrualCursor tiles
        · show dayOf (db.accrualCursor row.1 (row.2.dueDate.getD asOf)) <
            dayOf (toUtcMidnight asOf)
          rw [due, dayOf_toUtcMidnight, Option.getD_some, dayOf_accrualCursor tiles]
          exact Int.sub_pos.mp uncharged
      · rw [if_neg own, List.append_nil]
        exact windowed.tiled id
    case charged =>
      intro id accrual present
      have present : (db.accruals.create _).find? id = some accrual := present
      rw [Table.find?_create] at present
      split at present
      · cases present
        refine ⟨interest, rule, ?_⟩
        show db.newInterest rule asOf row = roundedDiv (db.interestBase rule row *
          rule.rateBasisPoints * (dayOf (toUtcMidnight asOf) -
            dayOf (db.accrualCursor row.1 (row.2.dueDate.getD asOf)))) (365 * 10000)
        rw [due, dayOf_toUtcMidnight, Option.getD_some, dayOf_accrualCursor tiles, ← days]
        rfl
      · exact windowed.charged id accrual present
    case posted =>
      intro id
      rw [accruedOn_addAccrual]
      show (db.ledger.create _).sum _ = _
      rw [Table.sum_create]
      show db.interestPosted id + _ = db.accruedOn id + _
      rw [windowed.posted id]
      simp [interestEntry]

/-! ### Every operation -/

/-- **Installments that interest was charged on stay**, with their due dates. -/
def Db.KeepsDue (db after : Db) : Prop :=
  ∀ id inst dueDate, db.InterestCharged id → db.installments.find? id = some inst →
    inst.dueDate = some dueDate →
    ∃ later, after.installments.find? id = some later ∧ later.dueDate = some dueDate

variable {after : Db}

theorem Db.keepsDue_of_installments
    (same : after.installments = db.installments) : db.KeepsDue after := by
  intro id inst dueDate _ found due
  exact ⟨inst, same ▸ found, due⟩

theorem Db.Unreferenced.keepsDue {dropped : Nat → Installment → Bool}
    (unreferenced : db.Unreferenced dropped) (rows : List Installment)
    (installments : after.installments = (db.installments.delete dropped).createMany rows) :
    db.KeepsDue after := by
  rintro id inst dueDate ⟨rowId, row, rowFound, rfl⟩ found due
  refine ⟨inst, ?_, due⟩
  rw [installments]
  apply Table.find?_createMany_old
  rw [Table.find?_delete, found, Option.filter_some,
    unreferenced.accruals rowId row inst rowFound found]
  rfl

variable {bookingId : Nat}

theorem deactivateExistingPlans_keepsDue {cleared : Db}
    (deactivated : deactivateExistingPlans bookingId db = .ok cleared) : db.KeepsDue cleared := by
  refine (foldlM_invariant (fun state => state.accruals = db.accruals ∧ db.KeepsDue state)
    deactivated ⟨rfl, Db.keepsDue_of_installments rfl⟩ ?_).2
  rintro state row after ⟨accruals, keeps⟩ accepted
  obtain ⟨unreferenced, rfl⟩ := deactivatePlan_eq_ok accepted
  refine ⟨accruals, ?_⟩
  intro id inst dueDate charged found due
  obtain ⟨middle, present, same⟩ := keeps id inst dueDate charged found due
  have still : state.InterestCharged id := by
    unfold Db.InterestCharged at charged ⊢
    rw [accruals]
    exact charged
  exact unreferenced.keepsDue [] rfl id middle dueDate still present same

theorem Db.KeepsDue.addInstallments {cleared : Db} (keeps : db.KeepsDue cleared)
    (rows : List Installment)
    (installments : after.installments = cleared.installments.createMany rows) :
    db.KeepsDue after := by
  intro id inst dueDate charged found due
  obtain ⟨later, present, same⟩ := keeps id inst dueDate charged found due
  refine ⟨later, ?_, same⟩
  rw [installments]
  exact Table.find?_createMany_old rows present

theorem Db.keepsDue_of_bumpAll (deltas : List (Nat × Int))
    (installments : after.installments = bumpAll db.installments deltas) : db.KeepsDue after := by
  intro id inst dueDate _ found due
  obtain ⟨later, present, moved⟩ := find?_bumpAll_of_some deltas found
  refine ⟨later, ?_, ?_⟩
  · rw [installments]
    exact present
  · rw [moved.kept]
    exact due

theorem Db.keepsDue_setRaised {raised : Db} (same : raised.installments = db.installments)
    (projectId : Nat) (dto : RaiseStageDto) (raisedDueDate : Date) (stageRaiseId : Nat) :
    db.KeepsDue (raised.setRaised (db.raises projectId dto) raisedDueDate stageRaiseId) := by
  intro id inst dueDate _ found due
  refine ⟨inst, ?_, due⟩
  show (raised.installments.modifyAll _ _).find? id = some inst
  rw [Table.find?_modifyAll, same, found, Option.map_some, if_neg]
  simp [Db.raises, due]

/-- **No operation takes away the due date of an installment that interest was charged on.** -/
theorem Effect.keepsDue {request : Request} (effect : Effect request db after) :
    db.KeepsDue after := by
  cases effect with
  | instantiateFromTemplate found deactivated =>
    exact (deactivateExistingPlans_keepsDue deactivated).addInstallments _ rfl
  | createCustomPlan found deactivated =>
    exact (deactivateExistingPlans_keepsDue deactivated).addInstallments _ rfl
  | editPlan found active unreferenced => exact unreferenced.keepsDue _ rfl
  | raiseStage stage =>
    rcases stage with rfl | ⟨stageRaise, rfl⟩
    · exact Db.keepsDue_setRaised rfl _ _ _ _
    · exact Db.keepsDue_setRaised rfl _ _ _ _
  | @createReceipt _ _ dto =>
    exact Db.keepsDue_of_bumpAll _ (recordReceipt_installments _ _)
  | recordBounce => exact Db.keepsDue_of_bumpAll _ rfl
  | reverseReceipt => exact Db.keepsDue_of_bumpAll _ rfl
  | @voucherBounced _ _ _ voucher =>
    cases voucher.refundId <;> exact Db.keepsDue_of_installments rfl
  | _ => exact Db.keepsDue_of_installments rfl

theorem Db.Windowed.foldl_accrueInstallment (windowed : db.Windowed) (rule : InterestRule)
    (bookingId : Nat) (asOf : Date) (rows : List (Nat × Installment))
    (due : ∀ row ∈ rows, db.installments.find? row.1 = some row.2 ∧
      ∃ dueDate, row.2.dueDate = some dueDate) :
    (rows.foldl (accrueInstallment rule bookingId asOf) db).Windowed ∧
      ∀ id, db.windows id <+: (rows.foldl (accrueInstallment rule bookingId asOf) db).windows id := by
  induction rows generalizing db with
  | nil => exact ⟨windowed, fun id => List.prefix_refl _⟩
  | cons row rest ih =>
    obtain ⟨⟨found, dueDate, dated⟩, later⟩ := List.forall_mem_cons.mp due
    have stays := accrueInstallment_installments rule bookingId asOf db row
    obtain ⟨kept, grows⟩ := ih (windowed.accrue rule bookingId asOf found dated)
      fun other listed => by rw [stays]; exact later other listed
    refine ⟨kept, fun id => ?_⟩
    exact (windows_prefix_accrueInstallment rule bookingId asOf db row id).trans (grows id)

variable {asOf : Date}

theorem mem_overdue :
    row ∈ db.overdue bookingId asOf ↔ db.installments.find? row.1 = some row.2 ∧
      row.2.bookingId = bookingId ∧ row.2.isActive = true ∧
      ∃ dueDate, row.2.dueDate = some dueDate ∧ dueDate < toUtcMidnight asOf := by
  unfold Db.overdue
  rw [Table.mem_select]
  cases row.2.dueDate <;> simp

theorem windows_congr (accruals : after.accruals = db.accruals) (id : Nat) :
    after.windows id = db.windows id ∧ after.accruedOn id = db.accruedOn id := by
  unfold Db.windows Db.accruedOn Db.priorAccruals
  rw [accruals]
  exact ⟨rfl, rfl⟩

theorem interestPosted_of_unplaced {entries : List LedgerEntry}
    (ledger : after.ledger = db.ledger.createMany entries)
    (unplaced : ∀ entry ∈ entries, entry.Unplaced) (id : Nat) :
    after.interestPosted id = db.interestPosted id := by
  unfold Books.interestPosted
  rw [ledger, Table.sum_createMany db.ledger entries fun entry =>
    if entry.entryType = .interest ∧ entry.installmentId = some id then
      entry.signedAmountPaise
    else 0]
  apply add_eq_left.mpr
  refine List.sum_eq_zero fun amount listed => ?_
  obtain ⟨entry, member, rfl⟩ := List.mem_map.mp listed
  apply if_neg
  rintro ⟨interest, named⟩
  rw [unplaced entry member (by rw [interest]; rfl)] at named
  cases named

theorem Db.Windowed.step {request : Request} (windowed : db.Windowed)
    (accepted : exec request db = .ok after) :
    after.Windowed ∧ ∀ id, db.windows id <+: after.windows id := by
  have effect := exec_effect accepted
  cases effect.interestStep with
  | unplaced entries ledger accruals unplaced =>
    have same := windows_congr accruals
    refine ⟨?_, fun id => by rw [(same id).1]⟩
    constructor
    case tiled =>
      intro id
      rw [(same id).1]
      rcases windowed.tiled id with none | ⟨inst, dueDate, found, due, tiles⟩
      · exact Or.inl none
      · by_cases none : db.windows id = []
        · exact Or.inl none
        · obtain ⟨later, present, dated⟩ := effect.keepsDue id inst dueDate
            ((db.interestCharged_iff id).mpr none) found due
          exact Or.inr ⟨later, dueDate, present, dated, tiles⟩
    case charged =>
      intro id accrual found
      exact windowed.charged id accrual (accruals ▸ found)
    case posted =>
      intro id
      rw [interestPosted_of_unplaced ledger unplaced, (same id).2]
      exact windowed.posted id
  | @accrued masters bookingId asOf =>
    obtain ⟨booking, _, ⟨_, same⟩ | ⟨rule, _, same⟩⟩ := accrueForBooking_eq_ok accepted
    · rw [same]
      exact ⟨windowed, fun id => List.prefix_refl _⟩
    · rw [same]
      apply windowed.foldl_accrueInstallment
      intro row listed
      obtain ⟨found, _, _, dueDate, due, _⟩ := mem_overdue.mp listed
      exact ⟨found, dueDate, due⟩

theorem ReachableDb.windowed (reachable : ReachableDb db) : db.Windowed := by
  refine reachable.invariant windowed_empty ?_
  intro request before after windowed accepted
  exact (windowed.step accepted).1

/-- **Windows stay, over any run.** -/
theorem Db.Windowed.windows_prefix (windowed : db.Windowed) (requests : List Request) (id : Nat) :
    db.windows id <+: (run exec db requests).windows id := by
  have reaches : Reachable exec db (run exec db requests) := reachable_run _ _
  have kept := reaches.invariant
    (P := fun later => later.Windowed ∧ db.windows id <+: later.windows id)
    ⟨windowed, List.prefix_refl _⟩ fun request before after ⟨invariant, grows⟩ accepted => by
      obtain ⟨next, further⟩ := invariant.step accepted
      exact ⟨next, grows.trans (further id)⟩
  exact kept.2

/-! ### A second run -/

/-- **Nothing to charge for**: a run on the booking up to the date would post nothing. -/
def Db.Settled (db : Db) (masters : Masters) (bookingId : Nat) (asOf : Date) : Prop :=
  ∃ booking, db.bookings.find? bookingId = some booking ∧
    ∀ rule, booking.interestRuleId.bind masters.interestRules = some rule →
      ∀ row ∈ db.overdue bookingId asOf, ¬db.accrues rule asOf row

variable {rule : InterestRule}

theorem foldl_accrueInstallment_of_settled {rows : List (Nat × Installment)}
    (settled : ∀ row ∈ rows, ¬db.accrues rule asOf row) :
    rows.foldl (accrueInstallment rule bookingId asOf) db = db := by
  induction rows with
  | nil => rfl
  | cons row rest ih =>
    obtain ⟨none, later⟩ := List.forall_mem_cons.mp settled
    rw [List.foldl_cons, accrueInstallment, if_neg none]
    exact ih later

variable {masters : Masters}

theorem accrueForBooking_of_settled {asOf : Option Date}
    (settled : db.Settled masters bookingId (asOf.getD masters.now)) :
    accrueForBooking masters bookingId asOf db = .ok db := by
  obtain ⟨booking, found, none⟩ := settled
  simp only [accrueForBooking, bind_eq_ok, orThrow_eq_ok]
  refine ⟨booking, found, ?_⟩
  cases named : booking.interestRuleId.bind masters.interestRules with
  | none => rfl
  | some rule => exact congrArg Except.ok (foldl_accrueInstallment_of_settled (none rule named))

variable {later : Date}

/-- **Less is owed, and fewer days are left**: what accrues now would have accrued before. -/
theorem accrues_of_accrues {other : Nat × Installment} (nonneg : 0 ≤ db.accruedOn row.1)
    (same : after.accruedOn other.1 = db.accruedOn row.1)
    (owed : other.2.amountPaise - other.2.allocatedPaise ≤ row.2.amountPaise - row.2.allocatedPaise)
    (days : after.uncharged later other ≤ db.uncharged asOf row)
    (accrues : after.accrues rule later other) : db.accrues rule asOf row := by
  obtain ⟨outstanding, uncharged, interest⟩ := accrues
  have bases : 0 ≤ after.interestBase rule other ∧
      after.interestBase rule other ≤ db.interestBase rule row := by
    have first : after.interestBase rule other =
      rule.base (other.2.amountPaise - other.2.allocatedPaise) (after.accruedOn other.1) := rfl
    have second : db.interestBase rule row =
      rule.base (row.2.amountPaise - row.2.allocatedPaise) (db.accruedOn row.1) := rfl
    rw [first, second, same]
    unfold InterestRule.base
    split <;> constructor <;> omega
  have rate : (0 : Int) ≤ rule.rateBasisPoints := Int.natCast_nonneg _
  refine ⟨outstanding.trans_le owed, uncharged.trans_le days, interest.trans_le ?_⟩
  apply roundedDiv_le_roundedDiv
  · exact mul_nonneg (mul_nonneg bases.1 rate) uncharged.le
  · exact mul_le_mul (mul_le_mul_of_nonneg_right bases.2 rate) days uncharged.le
      (mul_nonneg (bases.1.trans bases.2) rate)
  · decide

theorem Db.Windowed.accruedOn_nonneg (windowed : db.Windowed) (id : Nat) :
    0 ≤ db.accruedOn id := by
  apply List.sum_nonneg
  intro amount listed
  obtain ⟨⟨key, accrual⟩, member, rfl⟩ := List.mem_map.mp listed
  exact (windowed.charged key accrual (Table.mem_select.mp member).1).1.le

theorem accrues_congr (same : after.priorAccruals row.1 = db.priorAccruals row.1) :
    after.accrues rule asOf row ↔ db.accrues rule asOf row := by
  unfold Db.accrues Db.newInterest Db.interestBase Db.uncharged Db.accrualCursor
  rw [same]

variable {other : InterestRule}

theorem not_accrues_of_accrues (windowed : db.Windowed)
    (found : db.installments.find? row.1 = some row.2) (due : row.2.dueDate = some dueDate)
    (accrues : db.accrues rule later row) (reaches : dayOf asOf ≤ dayOf later) :
    ¬(accrueInstallment rule bookingId later db row).accrues other asOf row := by
  have kept := windowed.accrue rule bookingId later found due
  have stays := accrueInstallment_installments rule bookingId later db row
  rintro ⟨_, uncharged, _⟩
  rw [kept.uncharged (by rw [stays]; exact found) due] at uncharged
  have ends : endOf (dayOf dueDate)
      ((accrueInstallment rule bookingId later db row).windows row.1) = dayOf later := by
    unfold accrueInstallment
    rw [if_pos accrues, windows_addAccrual, if_pos rfl, endOf_append_singleton]
    exact dayOf_toUtcMidnight later
  rw [ends] at uncharged
  exact absurd reaches (not_le.mpr (Int.sub_pos.mp uncharged))

/-- **What is settled stays settled** when an installment is accrued on, up to any date. -/
theorem not_accrues_accrueInstallment (windowed : db.Windowed) {accrued : Nat × Installment}
    (found : db.installments.find? row.1 = some row.2) (due : row.2.dueDate = some dueDate)
    (own : accrued.1 = row.1 → accrued = row ∧ other = rule) (settled : ¬db.accrues rule asOf row) :
    ¬(accrueInstallment other bookingId later db accrued).accrues rule asOf row := by
  by_cases accrues : db.accrues other later accrued
  · by_cases same : accrued.1 = row.1
    · obtain ⟨rfl, rfl⟩ := own same
      refine not_accrues_of_accrues windowed found due accrues (le_of_not_gt fun earlier => ?_)
      refine settled (accrues_of_accrues (windowed.accruedOn_nonneg _) rfl (le_refl _) ?_ accrues)
      rw [windowed.uncharged found due, windowed.uncharged found due]
      exact Int.sub_le_sub_right earlier.le _
    · refine fun still => settled ((accrues_congr ?_).mp still)
      unfold accrueInstallment
      rw [if_pos accrues, priorAccruals_addAccrual]
      show db.priorAccruals row.1 ++ (if accrued.1 = row.1 then _ else []) = _
      rw [if_neg same, List.append_nil]
  · unfold accrueInstallment
    rw [if_neg accrues]
    exact settled

theorem not_accrues_foldl (windowed : db.Windowed) (rows : List (Nat × Installment))
    (found : db.installments.find? row.1 = some row.2) (due : row.2.dueDate = some dueDate)
    (listed : ∀ accrued ∈ rows, db.installments.find? accrued.1 = some accrued.2 ∧
      (∃ date, accrued.2.dueDate = some date) ∧ (accrued.1 = row.1 → other = rule))
    (settled : ¬db.accrues rule asOf row) :
    ¬(rows.foldl (accrueInstallment other bookingId later) db).accrues rule asOf row := by
  induction rows generalizing db with
  | nil => exact settled
  | cons accrued rest ih =>
    obtain ⟨⟨accruedFound, ⟨date, dated⟩, sameRule⟩, further⟩ := List.forall_mem_cons.mp listed
    have stays := accrueInstallment_installments other bookingId later db accrued
    apply ih (windowed.accrue other bookingId later accruedFound dated)
    · rw [stays]
      exact found
    · intro next member
      rw [stays]
      exact further next member
    · refine not_accrues_accrueInstallment windowed found due (fun same => ⟨?_, sameRule same⟩) settled
      rw [same, found] at accruedFound
      exact Prod.ext same (Option.some.inj accruedFound).symm

theorem foldl_accrueInstallment_settles (windowed : db.Windowed) (rows : List (Nat × Installment))
    (listed : ∀ row ∈ rows, db.installments.find? row.1 = some row.2 ∧
      ∃ dueDate, row.2.dueDate = some dueDate) :
    ∀ row ∈ rows, ¬(rows.foldl (accrueInstallment rule bookingId asOf) db).accrues rule asOf row := by
  induction rows generalizing db with
  | nil => exact fun _ impossible => nomatch impossible
  | cons first rest ih =>
    obtain ⟨⟨found, dueDate, due⟩, later⟩ := List.forall_mem_cons.mp listed
    have stays := accrueInstallment_installments rule bookingId asOf db first
    have kept := windowed.accrue rule bookingId asOf found due
    have others : ∀ row ∈ rest,
        (accrueInstallment rule bookingId asOf db first).installments.find? row.1 = some row.2 ∧
          ∃ dueDate, row.2.dueDate = some dueDate := by
      intro row member
      rw [stays]
      exact later row member
    refine List.forall_mem_cons.mpr ⟨?_, ih kept others⟩
    apply not_accrues_foldl kept rest
    · rw [stays]
      exact found
    · exact due
    · exact fun row member => ⟨(others row member).1, (others row member).2, fun _ => rfl⟩
    · by_cases accrues : db.accrues rule asOf first
      · exact not_accrues_of_accrues windowed found due accrues (le_refl _)
      · unfold accrueInstallment
        rw [if_neg accrues]
        exact accrues

theorem foldl_accrueInstallment_frame (rule : InterestRule) (bookingId : Nat) (asOf : Date)
    (rows : List (Nat × Installment)) (db : Db) :
    (rows.foldl (accrueInstallment rule bookingId asOf) db).installments = db.installments ∧
      (rows.foldl (accrueInstallment rule bookingId asOf) db).bookings = db.bookings := by
  obtain ⟨entries, accruals, result, _, _⟩ :=
    foldl_accrueInstallment rule bookingId asOf rows db
  rw [result]
  exact ⟨rfl, rfl⟩

theorem overdue_congr (same : after.installments = db.installments) (bookingId : Nat)
    (asOf : Date) : after.overdue bookingId asOf = db.overdue bookingId asOf := by
  unfold Db.overdue
  rw [same]

/-- **After a run, there is nothing to charge for** up to its date. -/
theorem settled_of_accrueForBooking (windowed : db.Windowed) {asOf : Option Date}
    (accepted : accrueForBooking masters bookingId asOf db = .ok after) :
    after.Settled masters bookingId (asOf.getD masters.now) := by
  obtain ⟨booking, found, ⟨unnamed, rfl⟩ | ⟨rule, named, rfl⟩⟩ := accrueForBooking_eq_ok accepted
  · refine ⟨booking, found, fun rule named => ?_⟩
    rw [unnamed] at named
    cases named
  · obtain ⟨installments, bookings⟩ := foldl_accrueInstallment_frame rule bookingId
      (asOf.getD masters.now) (db.overdue bookingId (asOf.getD masters.now)) db
    refine ⟨booking, by rw [bookings]; exact found, fun other otherNamed => ?_⟩
    rw [named] at otherNamed
    cases otherNamed
    rw [overdue_congr installments]
    apply foldl_accrueInstallment_settles windowed
    intro row member
    obtain ⟨present, _, _, dueDate, due, _⟩ := mem_overdue.mp member
    exact ⟨present, dueDate, due⟩

theorem Db.Settled.accrueForBooking {db after : Db} {masters other : Masters} {bookingId : Nat}
    {asOf : Date} (settled : db.Settled masters bookingId asOf) (windowed : db.Windowed)
    (sameRules : other.interestRules = masters.interestRules) {otherId : Nat}
    {later : Option Date} (accepted : accrueForBooking other otherId later db = .ok after) :
    after.Settled masters bookingId asOf := by
  obtain ⟨booking, found, none⟩ := settled
  obtain ⟨otherBooking, otherFound, ⟨_, rfl⟩ | ⟨otherRule, otherNamed, rfl⟩⟩ :=
    accrueForBooking_eq_ok accepted
  · exact ⟨booking, found, none⟩
  · obtain ⟨installments, bookings⟩ := foldl_accrueInstallment_frame otherRule otherId
      (later.getD other.now) (db.overdue otherId (later.getD other.now)) db
    refine ⟨booking, by rw [bookings]; exact found, fun rule named row member => ?_⟩
    rw [overdue_congr installments] at member
    obtain ⟨present, ofBooking, _, dueDate, due, _⟩ := mem_overdue.mp member
    refine not_accrues_foldl windowed _ present due (fun accrued listed => ?_)
      (none rule named row member)
    obtain ⟨accruedPresent, ofOther, _, date, dated, _⟩ := mem_overdue.mp listed
    refine ⟨accruedPresent, ⟨date, dated⟩, fun same => ?_⟩
    rw [same, present] at accruedPresent
    rw [← ofOther, ← Option.some.inj accruedPresent, ofBooking, found] at otherFound
    cases otherFound
    rw [sameRules, named] at otherNamed
    exact (Option.some.inj otherNamed).symm

theorem deltaTo_addByInst_nonneg (allocations : List ReceiptAllocationInput) (id : Nat) :
    0 ≤ deltaTo id (addByInst allocations) := by
  rw [deltaTo_addByInst]
  apply List.sum_nonneg
  intro amount listed
  obtain ⟨delta, member, rfl⟩ := List.mem_map.mp listed
  obtain ⟨line, _, rfl⟩ := List.mem_map.mp member
  split
  · exact le_of_lt line.amount_pos
  · exact le_refl 0

theorem Db.Settled.createReceipt {db : Db} {masters : Masters} {bookingId : Nat} {asOf : Date}
    (settled : db.Settled masters bookingId asOf) (windowed : db.Windowed) (dto : CreateReceiptDto) :
    (db.withBooks (db.recordReceipt dto)).Settled masters bookingId asOf := by
  obtain ⟨booking, found, none⟩ := settled
  refine ⟨booking, found, fun rule named row member => ?_⟩
  obtain ⟨present, ofBooking, active, dueDate, due, overdue⟩ := mem_overdue.mp member
  have present : (db.recordReceipt dto).installments.find? row.1 = some row.2 := present
  rw [recordReceipt_installments] at present
  obtain ⟨inst, before, moved⟩ := exists_of_find?_bumpAll present
  have paid := deltaTo_addByInst_nonneg dto.allocations row.1
  rw [moved.kept] at ofBooking active due
  have listed : (row.1, inst) ∈ db.overdue bookingId asOf :=
    mem_overdue.mpr ⟨before, ofBooking, active, dueDate, due, overdue⟩
  have unchanged : (db.withBooks (db.recordReceipt dto)).accruedOn row.1 =
    db.accruedOn (row.1, inst).1 := rfl
  refine fun accrues => none rule named (row.1, inst) listed ?_
  refine accrues_of_accrues (windowed.accruedOn_nonneg _) unchanged ?_ ?_ accrues
  · rw [moved.kept]
    show inst.amountPaise - (inst.allocatedPaise + deltaTo row.1 (addByInst dto.allocations)) ≤
      inst.amountPaise - inst.allocatedPaise
    omega
  · unfold Db.uncharged
    rw [moved.kept]
    exact le_refl _

def Request.PaysOrAccrues (masters : Masters) (request : Request) : Prop :=
  (∃ dto, request.op = .createReceipt dto) ∨
    request.masters.interestRules = masters.interestRules ∧
      ∃ bookingId asOf, request.op = .accrueForBooking bookingId asOf

/-- **What a run has settled stays settled** over payments and other runs. -/
theorem Db.Settled.stays (settled : db.Settled masters bookingId asOf) (windowed : db.Windowed)
    {between : List Request} (all : ∀ request ∈ between, request.PaysOrAccrues masters) :
    (run exec db between).Settled masters bookingId asOf := by
  have kept : ∀ request before after, request.PaysOrAccrues masters →
      (before.Windowed ∧ before.Settled masters bookingId asOf) →
      exec request before = .ok after →
      after.Windowed ∧ after.Settled masters bookingId asOf := by
    rintro ⟨met, op⟩ before after allowed ⟨invariant, quiet⟩ accepted
    refine ⟨(invariant.step accepted).1, ?_⟩
    rcases allowed with ⟨dto, rfl⟩ | ⟨sameRules, otherId, later, rfl⟩
    · cases exec_effect accepted
      exact quiet.createReceipt invariant dto
    · exact quiet.accrueForBooking invariant sameRules accepted
  exact (run_invariant all kept ⟨windowed, settled⟩).2

/-! ### The windows of a run -/

/-- **Interest windows tile.** In every state a run can reach, the windows of an installment are
disjoint, adjoin one another, and cover exactly the days from its due date to the end of the last
one; an installment without a due date has none. Each is charged for once. Windows are never taken
back, and the last end never moves backwards. A second run up to the same date posts nothing, also
after payments and other runs. -/
theorem interest_windows_tile {db : Db} (reachable : ReachableDb db) :
    (∀ id inst dueDate, db.installments.find? id = some inst → inst.dueDate = some dueDate →
      ((db.windows id).Pairwise fun first second =>
        Disjoint (Set.Ico first.1 first.2) (Set.Ico second.1 second.2)) ∧
      ((db.windows id).IsChain fun first second => first.2 = second.1) ∧
      ∀ day, (∃ window ∈ db.windows id, day ∈ Set.Ico window.1 window.2) ↔
        day ∈ Set.Ico (dayOf dueDate) (endOf (dayOf dueDate) (db.windows id))) ∧
    (∀ id, (∀ inst dueDate, db.installments.find? id = some inst → inst.dueDate ≠ some dueDate) →
      db.windows id = [] ∧ db.interestPosted id = 0) ∧
    (∀ id accrual, db.accruals.find? id = some accrual → accrual.IsCharge) ∧
    (∀ id, db.interestPosted id = db.accruedOn id) ∧
    (∀ requests id, db.windows id <+: (run exec db requests).windows id ∧
      ∀ window ∈ db.windows id, ∃ last ∈ ((run exec db requests).windows id).getLast?,
        window.2 ≤ last.2) ∧
    ∀ masters bookingId asOf first between other second,
      exec ⟨masters, .accrueForBooking bookingId asOf⟩ db = .ok first →
      (∀ request ∈ between, request.PaysOrAccrues masters) →
      other.interestRules = masters.interestRules →
      second.getD other.now = asOf.getD masters.now →
      exec ⟨other, .accrueForBooking bookingId second⟩ (run exec first between) =
        .ok (run exec first between) := by
  have windowed := ReachableDb.windowed reachable
  refine ⟨?_, ?_, windowed.charged, windowed.posted, ?_, ?_⟩
  · intro id inst dueDate found due
    have tiles := windowed.tiles found due
    exact ⟨tiles.pairwise_disjoint, tiles.isChain, fun day => tiles.covers_iff⟩
  · intro id undue
    have none : db.windows id = [] := by
      rcases windowed.tiled id with none | ⟨inst, dueDate, found, due, _⟩
      · exact none
      · exact absurd due (undue inst dueDate found)
    refine ⟨none, ?_⟩
    rw [windowed.posted]
    unfold Db.accruedOn
    rw [List.map_eq_nil_iff.mp none]
    rfl
  · intro requests id
    have grows := windowed.windows_prefix requests id
    refine ⟨grows, fun window member => ?_⟩
    have later := reachable.trans (reachable_run db requests)
    rcases (ReachableDb.windowed later).tiled id with none | ⟨_, _, _, _, tiles⟩
    · rw [none, List.prefix_nil] at grows
      rw [grows] at member
      cases member
    · exact tiles.exists_last (grows.subset member)
  · intro masters bookingId asOf first between other second accepted all sameRules sameDate
    have settled := (settled_of_accrueForBooking windowed accepted).stays
      (windowed.step accepted).1 all
    apply accrueForBooking_of_settled
    rw [sameDate]
    obtain ⟨booking, found, none⟩ := settled
    exact ⟨booking, found, by rw [sameRules]; exact none⟩

/-- The sale, overdue, with interest charged for its first 400 days in two runs. -/
def smallOverdueAgain : Db :=
  run exec smallOverdue [⟨smallInterest, .accrueForBooking 0 (some (addDays 0 400))⟩]

/-- Two runs charge for 365 days and for the 35 after them, and after a payment there is nothing
more to charge for up to the same day. -/
theorem interest_windows_tile_smallOverdue :
    smallOverdueAgain.windows 0 = [(0, 365), (365, 400)] ∧
      smallOverdue.windows 0 <+: smallOverdueAgain.windows 0 ∧
      (∀ day, (∃ window ∈ smallOverdueAgain.windows 0, day ∈ Set.Ico window.1 window.2) ↔
        day ∈ Set.Ico 0 400) ∧
      exec ⟨smallInterest, .accrueForBooking 0 (some (addDays 0 400))⟩
          (run exec smallOverdueAgain [⟨{}, .createReceipt (smallReceipt 0 0 .cash 500 0)⟩]) =
        .ok (run exec smallOverdueAgain [⟨{}, .createReceipt (smallReceipt 0 0 .cash 500 0)⟩]) := by
  have overdue : ReachableDb smallOverdue := reachable_run _ _
  have again : ReachableDb smallOverdueAgain := overdue.trans (reachable_run _ _)
  have earlier := interest_windows_tile overdue
  have later := interest_windows_tile again
  refine ⟨by decide, (earlier.2.2.2.2.1 _ 0).1, (later.1 0 _ 0 rfl rfl).2.2, ?_⟩
  apply earlier.2.2.2.2.2 smallInterest 0 (some (addDays 0 400)) smallOverdueAgain _ smallInterest
  · rfl
  · intro request member
    rw [List.mem_singleton.mp member]
    exact Or.inl ⟨_, rfl⟩
  · rfl
  · rfl

end OpenEstate
