/-
**The life of a refund.**

A refund is requested against the balance, approved (which debits its amount), paid by a voucher,
and re-opened when the voucher bounces (which credits the amount back). The amount is compared with
what the company owes at the request only, and paying a re-opened refund posts nothing, so

* `approvals_leave_no_debt_iff`: approvals leave no customer in debt exactly when each is of an
  amount still owed when it is approved;
* `paid_refunds_discharged_iff`: paid refunds are discharged in full exactly when no refund is paid
  again after a bounce.
-/

import OpenEstate.Postsales.Balance
import OpenEstate.Postsales.RefundStep

namespace OpenEstate

open Relational

/-! ### Approvals -/

def leavesNoDebt (step : Step Db Request) : Prop :=
  ∀ refundId refund, step.input.op = .approveRefund refundId →
    step.before.refunds.find? refundId = some refund →
      step.after.balance refund.bookingId ≤ 0

/-- At the approval of a refund its amount is still owed: the check of the request, made again. -/
def approvesWhatIsOwed (step : Step Db Request) : Prop :=
  ∀ refundId refund, step.input.op = .approveRefund refundId →
    step.before.refunds.find? refundId = some refund →
      refund.amountPaise ≤ step.before.owedToCustomer refund.bookingId

theorem le_owedToCustomer {books : Books} {bookingId : Nat} {amount : Int} (positive : 0 < amount) :
    amount ≤ books.owedToCustomer bookingId ↔ books.balance bookingId + amount ≤ 0 := by
  unfold Books.owedToCustomer
  split <;> omega

variable {request : Request} {db after : Db}

theorem leavesNoDebt_iff (sound : db.Sound) (accepted : exec request db = .ok after) :
    leavesNoDebt ⟨db, request, after⟩ ↔ approvesWhatIsOwed ⟨db, request, after⟩ := by
  refine forall₄_congr fun refundId refund op found => ?_
  have op : request.op = .approveRefund refundId := op
  have found : db.refunds.find? refundId = some refund := found
  have positive := sound.grounded.refund_pos refundId refund found
  cases (exec_effect accepted).refundStep with
  | approved otherId other otherOp otherFound requested same =>
    rw [op] at otherOp
    cases otherOp
    rw [found] at otherFound
    cases otherFound
    subst same
    have posted : (db.toBooks.post [refundApprovedEntry refund.bookingId refund.amountPaise]).balance
        refund.bookingId = db.balance refund.bookingId + refund.amountPaise := by
      rw [balance_post_singleton]
      simp [refundApprovedEntry]
    show (db.toBooks.post _).balance refund.bookingId ≤ 0 ↔ _
    rw [posted]
    exact (le_owedToCustomer positive).symm
  | foreign refunds vouchers notApprove => exact absurd op (notApprove refundId)
  | requested _ _ otherOp => exact absurd (op.symm.trans otherOp) (by simp)
  | paid _ _ otherOp => exact absurd (op.symm.trans otherOp) (by simp)
  | bounced _ _ otherOp => exact absurd (op.symm.trans otherOp) (by simp)

/-- **Every approval of a run leaves the customer without debt exactly when each is of an amount
that is still owed.** -/
theorem approvals_leave_no_debt_iff (inputs : List Request) :
    (∀ step ∈ steps exec {} inputs, leavesNoDebt step) ↔
      ∀ step ∈ steps exec {} inputs, approvesWhatIsOwed step := by
  refine forall₂_congr fun step listed => ?_
  obtain ⟨earlier, accepted⟩ := mem_steps listed
  exact leavesNoDebt_iff (ReachableDb.sound earlier) accepted

/-- Two refunds of everything, requested one after the other and then approved. -/
def approvedTwice : List Request :=
  smallCancelled ++
    [smallRefund 0 1000, smallRefund 0 1000, ⟨{}, .approveRefund 0⟩,
      ⟨{}, .approveRefund 1⟩]

/-- Both approvals are accepted, and the second leaves a debit of 1000. -/
theorem approved_twice_leaves_debt :
    ¬∀ step ∈ steps exec {} approvedTwice, leavesNoDebt step := by
  intro noDebt
  have second := noDebt _ (List.mem_of_getElem? (i := 9) rfl) 1 _ rfl rfl
  revert second
  decide

/-! ### The cycle of paying and bouncing -/

def Db.bouncedPaise (db : Db) (refundId : Nat) : Int :=
  db.vouchers.sum fun _ voucher =>
    if voucher.refundId = some refundId ∧ voucher.status = .bounced then voucher.amountPaise else 0

/-- What a refund has debited by its status: its amount once it is approved. -/
def Refund.approvedPaise (refund : Refund) : Int :=
  if refund.status = .approved ∨ refund.status = .paid then refund.amountPaise else 0

def Db.approvedPaise (db : Db) (refundId : Nat) : Int :=
  (db.refunds.find? refundId).elim 0 Refund.approvedPaise

def LedgerEntry.ofRefund (entry : LedgerEntry) : Bool :=
  entry.entryType = .refundApproved ∨ entry.entryType = .refundBounceReversal

/-- Whether a step approves a refund, pays it, or bounces a voucher of it. -/
def actsOn (refundId : Nat) (step : Step Db Request) : Bool :=
  match step.input.op with
  | .approveRefund id => id = refundId
  | .payRefund id => id = refundId
  | .voucherBounced voucherId =>
    (step.before.vouchers.find? voucherId).any fun voucher => voucher.refundId = some refundId
  | _ => false

/-- **What a step posted for a refund**: the approval and bounce entries it added. -/
def postedFor (refundId : Nat) (step : Step Db Request) : Int :=
  if actsOn refundId step then
    step.after.sumWhere (·.ofRefund) - step.before.sumWhere (·.ofRefund)
  else 0

def postedOver (refundId : Nat) (inputs : List Request) : Int :=
  ((steps exec {} inputs).map (postedFor refundId)).sum

theorem approvedPaise_of_modify {id : Nat} {refund : Refund} {status : RefundStatus}
    (refunds : after.refunds = db.refunds.modify id fun row => { row with status })
    (found : db.refunds.find? id = some refund) (refundId : Nat) :
    after.approvedPaise refundId = db.approvedPaise refundId +
      if id = refundId then ({ refund with status } : Refund).approvedPaise - refund.approvedPaise
      else 0 := by
  unfold Db.approvedPaise
  rw [refunds]
  by_cases same : id = refundId
  · subst same
    rw [Table.find?_modify_self, if_pos rfl, found]
    simp only [Option.map_some, Option.elim_some]
    omega
  · rw [Table.find?_modify_of_ne _ _ fun equal => same equal.symm, if_neg same, add_zero]

theorem approvedPaise_of_create {refund : Refund}
    (refunds : after.refunds = db.refunds.create refund) (requested : refund.status = .requested)
    (refundId : Nat) : after.approvedPaise refundId = db.approvedPaise refundId := by
  unfold Db.approvedPaise
  rw [refunds, Table.find?_create]
  split
  · rename_i new
    rw [new, Table.find?_nextId]
    simp [Refund.approvedPaise, requested]
  · rfl

theorem bouncedPaise_congr (vouchers : after.vouchers = db.vouchers)
    (refundId : Nat) : after.bouncedPaise refundId = db.bouncedPaise refundId := by
  unfold Db.bouncedPaise
  rw [vouchers]

theorem bouncedPaise_of_create {voucher : PaymentVoucher}
    (vouchers : after.vouchers = db.vouchers.create voucher) (issued : voucher.status = .issued)
    (refundId : Nat) : after.bouncedPaise refundId = db.bouncedPaise refundId := by
  unfold Db.bouncedPaise
  rw [vouchers, Table.sum_create]
  simp [issued]

theorem bouncedPaise_of_modify {voucherId id : Nat} {voucher : PaymentVoucher}
    (vouchers : after.vouchers =
      db.vouchers.modify voucherId fun row => { row with status := .bounced })
    (found : db.vouchers.find? voucherId = some voucher) (issued : voucher.status = .issued)
    (named : voucher.refundId = some id) (refundId : Nat) :
    after.bouncedPaise refundId =
      db.bouncedPaise refundId + if id = refundId then voucher.amountPaise else 0 := by
  unfold Db.bouncedPaise
  rw [vouchers, Table.sum_modify found]
  simp [named, issued]

/-- A step that does not act on a refund posts nothing for it; one that does posts what its
approval and bounce entries come to. -/
theorem postedFor_of_ledger {entries : List LedgerEntry}
    (ledger : after.ledger = db.ledger.createMany entries) (refundId : Nat) :
    postedFor refundId ⟨db, request, after⟩ =
      if actsOn refundId ⟨db, request, after⟩ then sumEntries entries (·.ofRefund) else 0 := by
  have grown : after.sumWhere (·.ofRefund) - db.sumWhere (·.ofRefund) =
      sumEntries entries (·.ofRefund) := by
    rw [sumWhere_of_ledger ledger]
    omega
  unfold postedFor
  rw [grown]

/-- **One step**: what it posts for a refund is what the statuses say it should. -/
theorem postedFor_eq (grounded : db.Grounded) (lifecycle : db.RefundLifecycle)
    (step : RefundStep request db after) (refundId : Nat) :
    postedFor refundId ⟨db, request, after⟩ =
      (after.approvedPaise refundId - after.bouncedPaise refundId) -
        (db.approvedPaise refundId - db.bouncedPaise refundId) := by
  cases step with
  | foreign refunds vouchers notApprove notPay notBounce =>
    have idle : actsOn refundId ⟨db, request, after⟩ = false := by
      unfold actsOn
      split
      · rename_i id op
        exact absurd op (notApprove id)
      · rename_i id op
        exact absurd op (notPay id)
      · rename_i id op
        exact absurd op (notBounce id)
      · rfl
    have approved : after.approvedPaise refundId = db.approvedPaise refundId := by
      unfold Db.approvedPaise
      rw [refunds]
    rw [approved, bouncedPaise_congr vouchers, postedFor, idle]
    simp
  | requested bookingId dto op owed same =>
    have refunds : after.refunds = db.refunds.create
        { bookingId, amountPaise := dto.amountPaise, status := .requested } := by
      rw [same]
      rfl
    have approved := approvedPaise_of_create refunds rfl refundId
    have bounced := bouncedPaise_congr (same ▸ rfl : after.vouchers = db.vouchers) refundId
    rw [approved, bounced, postedFor]
    simp [actsOn, op]
  | approved id refund op found requested same =>
    have refunds : after.refunds =
        db.refunds.modify id fun row => { row with status := .approved } := by
      rw [same]
      rfl
    have ledger : after.ledger = db.ledger.createMany
        [refundApprovedEntry refund.bookingId refund.amountPaise] := by
      rw [same]
      rfl
    have approved := approvedPaise_of_modify refunds found refundId
    have bounced := bouncedPaise_congr (same ▸ rfl : after.vouchers = db.vouchers) refundId
    have debits : ({ refund with status := .approved } : Refund).approvedPaise -
        refund.approvedPaise = refund.amountPaise := by
      simp [Refund.approvedPaise, requested]
    have posted : sumEntries [refundApprovedEntry refund.bookingId refund.amountPaise]
        (·.ofRefund) = refund.amountPaise := by
      rw [sumEntries_cons, sumEntries_nil, add_zero]
      rfl
    rw [approved, bounced, debits, postedFor_of_ledger ledger, posted]
    simp only [actsOn, op, decide_eq_true_eq]
    omega
  | paid id refund op found approved same =>
    have refunds : after.refunds =
        db.refunds.modify id fun row => { row with status := .paid } := by
      rw [same]
      rfl
    have vouchers : after.vouchers = db.vouchers.create (refundVoucher id refund) := by
      rw [same]
      rfl
    have status := approvedPaise_of_modify refunds found refundId
    have bounced := bouncedPaise_of_create vouchers rfl refundId
    have debits : ({ refund with status := .paid } : Refund).approvedPaise -
        refund.approvedPaise = 0 := by
      simp [Refund.approvedPaise, approved]
    rw [status, bounced, debits,
      postedFor_of_ledger (same ▸ rfl : after.ledger = db.ledger.createMany [])]
    simp
  | bounced voucherId voucher op found issued same =>
    obtain ⟨id, refund, named, refundFound, _⟩ := grounded.voucher_refund voucherId voucher found
    have paid := lifecycle.issued voucherId voucher id refund found issued named refundFound
    rw [named] at same
    have refunds : after.refunds =
        db.refunds.modify id fun row => { row with status := .approved } := by
      rw [same]
      rfl
    have vouchers : after.vouchers =
        db.vouchers.modify voucherId fun row => { row with status := .bounced } := by
      rw [same]
      rfl
    have ledger : after.ledger = db.ledger.createMany (voucherBouncedEntries voucher.bookingId
        voucher.amountPaise request.masters.chequeBounceChargePaise) := by
      rw [same]
      rfl
    have approved := approvedPaise_of_modify refunds refundFound refundId
    have bounced := bouncedPaise_of_modify vouchers found issued named refundId
    have debits : ({ refund with status := .approved } : Refund).approvedPaise -
        refund.approvedPaise = 0 := by
      simp [Refund.approvedPaise, paid]
    have posted : sumEntries (voucherBouncedEntries voucher.bookingId voucher.amountPaise
        request.masters.chequeBounceChargePaise) (·.ofRefund) = -voucher.amountPaise := by
      unfold voucherBouncedEntries
      split <;> simp [LedgerEntry.amountIf, LedgerEntry.ofRefund]
    have acts : actsOn refundId ⟨db, request, after⟩ = decide (id = refundId) := by
      simp [actsOn, op, found, named]
    rw [approved, bounced, debits, postedFor_of_ledger ledger, posted, acts]
    simp only [decide_eq_true_eq]
    split <;> omega

/-- **A run** posts for a refund what it debited by its status less the vouchers that bounced. -/
theorem postedOver_eq (refundId : Nat) (inputs : List Request) :
    postedOver refundId inputs = (run exec {} inputs).approvedPaise refundId -
      (run exec {} inputs).bouncedPaise refundId := by
  have change : ∀ request (db after : Db), db.RefundSound → exec request db = .ok after →
      postedFor refundId ⟨db, request, after⟩ =
        (after.approvedPaise refundId - after.bouncedPaise refundId) -
          (db.approvedPaise refundId - db.bouncedPaise refundId) :=
    fun request db after sound accepted =>
      postedFor_eq sound.1.grounded sound.2 (exec_effect accepted).refundStep refundId
  have telescoped : postedOver refundId inputs =
      ((run exec {} inputs).approvedPaise refundId - (run exec {} inputs).bouncedPaise refundId) -
        (({} : Db).approvedPaise refundId - ({} : Db).bouncedPaise refundId) :=
    sum_steps exec_refundSound change inputs ⟨sound_empty, refundLifecycle_empty⟩
  have nothing : ({} : Db).approvedPaise refundId - ({} : Db).bouncedPaise refundId = 0 := rfl
  rw [telescoped, nothing, sub_zero]

/-! ### Refunds whose money is out -/

/-- **At the end of a run, a refund whose money is out has debited exactly its amount.** -/
def paidRefundsDischarged (inputs : List Request) : Prop :=
  ∀ refundId refund voucherId voucher, (run exec {} inputs).refunds.find? refundId = some refund →
    refund.status = .paid → (run exec {} inputs).vouchers.find? voucherId = some voucher →
      voucher.refundId = some refundId → voucher.status ≠ .bounced →
        postedOver refundId inputs = refund.amountPaise

def paysOnce (step : Step Db Request) : Prop :=
  ∀ refundId, step.input.op = .payRefund refundId → ∀ voucherId voucher,
    step.before.vouchers.find? voucherId = some voucher → voucher.refundId = some refundId →
      voucher.status ≠ .bounced

def Db.PaidUnbounced (db : Db) : Prop :=
  ∀ refundId refund, db.refunds.find? refundId = some refund → refund.status = .paid →
    db.bouncedPaise refundId = 0

theorem bouncedPaise_eq_zero (grounded : db.Grounded) {refundId : Nat} :
    db.bouncedPaise refundId = 0 ↔ ∀ voucherId voucher,
      db.vouchers.find? voucherId = some voucher → voucher.refundId = some refundId →
        voucher.status ≠ .bounced := by
  have positive : ∀ voucherId voucher, db.vouchers.find? voucherId = some voucher →
      0 < voucher.amountPaise := by
    intro voucherId voucher found
    obtain ⟨id, refund, _, present, _, amount⟩ := grounded.voucher_refund voucherId voucher found
    exact amount ▸ grounded.refund_pos id refund present
  constructor
  · intro nothing voucherId voucher found named bounced
    have vanishes := Table.eq_zero_of_sum_eq_zero (fun id row present => ?_) nothing found
    · simp only [named, bounced, and_self, if_true] at vanishes
      have amount := positive voucherId voucher found
      omega
    · have amount := positive id row present
      show (0 : Int) ≤ if _ then _ else _
      split <;> omega
  · intro unbounced
    refine Table.sum_eq_zero fun voucherId voucher found => if_neg ?_
    rintro ⟨named, bounced⟩
    exact unbounced voucherId voucher found named bounced

theorem paidRefundsDischarged_iff (inputs : List Request) :
    paidRefundsDischarged inputs ↔ (run exec {} inputs).PaidUnbounced := by
  have lifecycle := (refundSound_run inputs).2
  have posted : ∀ refundId refund, (run exec {} inputs).refunds.find? refundId = some refund →
      refund.status = .paid → postedOver refundId inputs =
        refund.amountPaise - (run exec {} inputs).bouncedPaise refundId := by
    intro refundId refund found paid
    rw [postedOver_eq, Db.approvedPaise, found]
    simp [Refund.approvedPaise, paid]
  constructor
  · intro discharged refundId refund found paid
    obtain ⟨voucherId, voucher, present, named, issued⟩ :=
      lifecycle.paid refundId refund found paid
    have exactly := discharged refundId refund voucherId voucher found paid present named
      (by rw [issued]; decide)
    rw [posted refundId refund found paid] at exactly
    omega
  · intro unbounced refundId refund voucherId voucher found paid _ _ _
    rw [posted refundId refund found paid, unbounced refundId refund found paid, sub_zero]

/-- **One step** keeps paid refunds free of bounced vouchers exactly when it does not pay a refund
again. -/
theorem paidUnbounced_step (sound : db.RefundSound) (unbounced : db.PaidUnbounced)
    (accepted : exec request db = .ok after) :
    after.PaidUnbounced ↔ paysOnce ⟨db, request, after⟩ := by
  have trivially : (∀ refundId, request.op ≠ .payRefund refundId) →
      paysOnce ⟨db, request, after⟩ := fun notPay refundId op => absurd op (notPay refundId)
  cases (exec_effect accepted).refundStep with
  | foreign refunds vouchers notApprove notPay notBounce =>
    refine iff_of_true (fun refundId refund found paid => ?_) (trivially notPay)
    rw [bouncedPaise_congr vouchers]
    exact unbounced refundId refund (refunds ▸ found) paid
  | requested bookingId dto op owed same =>
    refine iff_of_true (fun refundId refund found paid => ?_) (trivially (by simp [op]))
    subst same
    rcases Table.find?_create_eq_some.mp found with ⟨_, rfl⟩ | old
    · cases paid
    · exact unbounced refundId refund old paid
  | approved id approvedRefund op _ requested same =>
    refine iff_of_true (fun refundId refund found paid => ?_) (trivially (by simp [op]))
    subst same
    rcases Table.find?_modify_eq_some.mp found with ⟨_, _, _, rfl⟩ | ⟨_, old⟩
    · cases paid
    · exact unbounced refundId refund old paid
  | paid id paidRefund op paidFound approved same =>
    have bounced := bouncedPaise_of_create
      (same ▸ rfl : after.vouchers = db.vouchers.create (refundVoucher id paidRefund)) rfl
    have once : paysOnce ⟨db, request, after⟩ ↔ db.bouncedPaise id = 0 := by
      rw [bouncedPaise_eq_zero sound.1.grounded]
      constructor
      · exact fun once => once id op
      · intro none refundId otherOp
        have otherOp : request.op = .payRefund refundId := otherOp
        rw [op] at otherOp
        cases otherOp
        exact none
    rw [once]
    constructor
    · intro paidUnbounced
      have paidNow : after.refunds.find? id = some { paidRefund with status := .paid } := by
        subst same
        exact Table.find?_modify_eq_some.mpr (Or.inl ⟨rfl, paidRefund, paidFound, rfl⟩)
      rw [← bounced]
      exact paidUnbounced id _ paidNow rfl
    · intro none refundId refund found paid
      rw [bounced]
      subst same
      rcases Table.find?_modify_eq_some.mp found with ⟨rfl, _, _, _⟩ | ⟨_, old⟩
      · exact none
      · exact unbounced refundId refund old paid
  | bounced voucherId voucher op found issued same =>
    obtain ⟨id, reopened, named, _⟩ := sound.1.grounded.voucher_refund voucherId voucher found
    refine iff_of_true (fun refundId refund refundFound paid => ?_) (trivially (by simp [op]))
    rw [named] at same
    have vouchers : after.vouchers =
        db.vouchers.modify voucherId fun row => { row with status := .bounced } := by
      rw [same]
      rfl
    rw [bouncedPaise_of_modify vouchers found issued named]
    subst same
    rcases Table.find?_modify_eq_some.mp refundFound with ⟨_, _, _, rfl⟩ | ⟨different, old⟩
    · cases paid
    · rw [if_neg fun equal => different equal.symm, add_zero]
      exact unbounced refundId refund old paid

/-- **In every state of a run the refunds whose money is out have debited exactly their amounts,
exactly when no step of the run pays a refund of which a voucher has bounced.** -/
theorem paid_refunds_discharged_iff (inputs : List Request) :
    (∀ earlier, earlier <+: inputs → paidRefundsDischarged earlier) ↔
      ∀ step ∈ steps exec {} inputs, paysOnce step := by
  have byState : (∀ earlier, earlier <+: inputs → paidRefundsDischarged earlier) ↔
      ∀ db ∈ states exec {} inputs, db.PaidUnbounced := by
    rw [forall_states_iff_beginnings]
    exact forall₂_congr fun earlier _ => paidRefundsDischarged_iff earlier
  rw [byState]
  refine forall_states_iff exec_refundSound ?_ inputs ⟨sound_empty, refundLifecycle_empty⟩ ?_
  · exact fun request db after sound unbounced accepted =>
      paidUnbounced_step sound unbounced accepted
  · rintro refundId refund ⟨⟩

def paidAgain : List Request :=
  smallCancelled ++
    [smallRefund 0 1000, ⟨{}, .approveRefund 0⟩, ⟨{}, .payRefund 0⟩,
      ⟨{}, .voucherBounced 0⟩, ⟨{}, .payRefund 0⟩]

/-- The second voucher is out, but the approval was undone by the bounce of the first. -/
theorem paid_again_not_discharged :
    ¬∀ earlier, earlier <+: paidAgain → paidRefundsDischarged earlier := by
  intro discharged
  have posted : postedOver 0 paidAgain = 0 := by decide
  have amount := discharged paidAgain (List.prefix_refl _) 0 _ 1 _ rfl rfl rfl rfl (by decide)
  rw [posted] at amount
  cases amount

end OpenEstate
