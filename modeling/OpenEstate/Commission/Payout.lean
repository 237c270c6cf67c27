/-
**Paying within the balance.**

A payment is requested within what the broker is owed on balance, and paid out of the bookings that
owe him, whatever the others have come to by then: a clawback can leave a booking with a debt of his
that no payment looks at.

* `brokerBalance_payout`: paying takes its amount off the balance;
* `brokerBalance_eq_owed_sub_debt`: the balance, from what bookings owe the broker and he owes them;
* **`payout_within_iff`**: in any run, a payment leaves the broker with a balance that is not
  negative exactly when it is within the balance it meets.
-/

import OpenEstate.Commission.Clawback

namespace OpenEstate

open Relational

/-! ### What paying does to the balance -/

theorem brokerBalance_post {db after : CommissionDb} {entries : List CommissionLedgerEntry}
    {brokerId : Nat} (ledger : after.commissionLedger = db.commissionLedger.createMany entries)
    (named : ∀ entry ∈ entries, entry.brokerId = brokerId) :
    after.brokerBalance brokerId =
      db.brokerBalance brokerId + (entries.map (·.signedAmountPaise)).sum := by
  unfold CommissionDb.brokerBalance
  rw [ledger, Table.sum_createMany]
  congr 2
  exact List.map_congr_left fun entry member => if_pos (named entry member)

theorem brokerBalance_payout {masters : CommissionMasters} {paymentId : Nat} {paymentDate : Date}
    {db after : CommissionDb} {payment : CommissionPayment}
    (accepted : payCommission masters paymentId paymentDate db = .ok after)
    (found : db.commissionPayments.find? paymentId = some payment) :
    after.brokerBalance payment.brokerId =
      db.brokerBalance payment.brokerId - payment.amountPaise := by
  obtain ⟨_, entries, same, _, distributed, rfl⟩ := payCommission_eq_ok.mp accepted
  cases found.symm.trans same
  have paid := paymentEntries_paid (outstandingBookings_pos db payment.brokerId) distributed
  rw [brokerBalance_post rfl fun entry member => (paid.each entry member).1, paid.sum]
  rfl

/-! ### The balance and the bookings -/

def CommissionDb.bookingTotals (db : CommissionDb) (brokerId : Nat) : List (Nat × Int) :=
  (db.commissionLedger.select fun _ entry => entry.brokerId = brokerId).foldl
    (fun totals row => addToTotal totals row.2.bookingId row.2.signedAmountPaise) []

def CommissionDb.debt (db : CommissionDb) (brokerId : Nat) : Int :=
  (((db.bookingTotals brokerId).filter fun total => total.2 ≤ 0).map fun total => -total.2).sum

theorem sum_addToTotal (totals : List (Nat × Int)) (key : Nat) (amount : Int) :
    ((addToTotal totals key amount).map Prod.snd).sum = (totals.map Prod.snd).sum + amount := by
  induction totals with
  | nil => simp [addToTotal]
  | cons head rest ih =>
    obtain ⟨existing, total⟩ := head
    rw [addToTotal]
    split
    · simp only [List.map_cons, List.sum_cons]
      ring
    · simp only [List.map_cons, List.sum_cons, ih]
      ring

theorem sum_bookingTotals (db : CommissionDb) (brokerId : Nat) :
    ((db.bookingTotals brokerId).map Prod.snd).sum = db.brokerBalance brokerId := by
  have folded : ∀ (rows : List (Nat × CommissionLedgerEntry)) (totals : List (Nat × Int)),
      ((rows.foldl (fun totals row => addToTotal totals row.2.bookingId row.2.signedAmountPaise)
          totals).map Prod.snd).sum =
        (totals.map Prod.snd).sum + (rows.map fun row => row.2.signedAmountPaise).sum := by
    intro rows
    induction rows with
    | nil => simp
    | cons row rest ih =>
      intro totals
      rw [List.foldl_cons, ih, sum_addToTotal, List.map_cons, List.sum_cons]
      ring
  rw [CommissionDb.bookingTotals, folded, CommissionDb.brokerBalance]
  have selected := Table.sum_select db.commissionLedger (fun _ entry => entry.brokerId = brokerId)
    fun _ entry => entry.signedAmountPaise
  simp only [decide_eq_true_eq] at selected
  rw [← selected]
  exact zero_add _

theorem brokerBalance_eq_owed_sub_debt (db : CommissionDb) (brokerId : Nat) :
    db.brokerBalance brokerId =
      ((db.outstandingBookings brokerId).map Prod.snd).sum - db.debt brokerId := by
  have split : ∀ totals : List (Nat × Int), (totals.map Prod.snd).sum =
      ((totals.filter fun total => 0 < total.2).map Prod.snd).sum -
        ((totals.filter fun total => total.2 ≤ 0).map fun total => -total.2).sum := by
    intro totals
    induction totals with
    | nil => rfl
    | cons total rest ih =>
      by_cases owed : 0 < total.2
      · simp only [List.map_cons, List.sum_cons, ih, List.filter_cons, decide_eq_true owed,
          decide_eq_false (not_le.mpr owed)]
        simp
        ring
      · simp only [List.map_cons, List.sum_cons, ih, List.filter_cons, decide_eq_false owed,
          decide_eq_true (not_lt.mp owed)]
        simp
        ring
  rw [← sum_bookingTotals]
  exact split _

/-! ### Runs -/

def IsPayout {ι : Type} (step : Step (Shared ι CommissionDb AccrualSession) ι)
    (payment : CommissionPayment) : Prop :=
  ∃ masters paymentId paymentDate,
    step.before.sessions step.input = .request ⟨masters, .payPayment paymentId paymentDate⟩ ∧
      execCommission ⟨masters, .payPayment paymentId paymentDate⟩ step.before.rows =
        .ok step.after.rows ∧
      step.before.rows.commissionPayments.find? paymentId = some payment

/-- **A payment leaves a balance that is not negative exactly when it is within the balance it
meets**, in any run of accruals, clawbacks, requests, decisions and payments. -/
theorem payout_within_iff {ι : Type} [DecidableEq ι] (calls : ι → CommissionCall)
    (schedule : List ι) :
    ∀ step ∈ steps (Shared.exec AccrualSession.move) (accrualStart calls) schedule,
      ∀ payment, IsPayout step payment →
        (0 ≤ step.after.rows.brokerBalance payment.brokerId ↔
          payment.amountPaise + step.before.rows.debt payment.brokerId ≤
            ((step.before.rows.outstandingBookings payment.brokerId).map Prod.snd).sum) := by
  intro step _ payment payout
  obtain ⟨masters, paymentId, paymentDate, _, accepted, found⟩ := payout
  rw [brokerBalance_payout accepted found, brokerBalance_eq_owed_sub_debt]
  omega

/-! ### The small estate -/

def payOut (paymentId : Nat) : CommissionRequest where
  masters := {}
  op := .payPayment paymentId 0

theorem exists_payOut {earlier : List CommissionCall} {paymentId : Nat} {after : CommissionDb}
    {payment : CommissionPayment}
    (accepted : execCommission (payOut paymentId)
      (accrualRun (earlier ++ [.request (payOut paymentId)]) (oneByOne earlier)).rows = .ok after)
    (found : (accrualRun (earlier ++ [.request (payOut paymentId)])
      (oneByOne earlier)).rows.commissionPayments.find? paymentId = some payment) :
    ∃ step ∈ steps (Shared.exec AccrualSession.move)
        (accrualStart (callAt (earlier ++ [.request (payOut paymentId)])))
        (oneByOne earlier ++ [earlier.length]),
      IsPayout step payment ∧
        step.before.rows =
          (accrualRun (earlier ++ [.request (payOut paymentId)]) (oneByOne earlier)).rows ∧
        step.after.rows = after := by
  obtain ⟨step, member, asked, answered, before, same⟩ := exists_last_request accepted
  exact ⟨step, member, ⟨_, _, _, asked, answered, before ▸ found⟩, before, same⟩

def smallCommissionPayment : CommissionOp :=
  .requestPayment { brokerId := 0, amountPaise := 1000, amount_pos := by decide }

def smallApproved : List CommissionCall :=
  smallSourced 1000 25 inRange_twentyFive ++
    [.accrue {} 0, .request ⟨{}, smallCommissionPayment⟩, .request ⟨{}, .approvePayment 0⟩]

/-- It is paid, and nothing is left. -/
theorem payout_within_iff_smallApproved :
    ∃ step ∈ steps (Shared.exec AccrualSession.move)
        (accrualStart (callAt (smallApproved ++ [.request (payOut 0)])))
        (oneByOne smallApproved ++ [smallApproved.length]),
      ∃ payment, IsPayout step payment ∧ 0 ≤ step.after.rows.brokerBalance payment.brokerId := by
  have pays : (fun _ => ()) <$> execCommission (payOut 0) (accrualRun
      (smallApproved ++ [.request (payOut 0)]) (oneByOne smallApproved)).rows = .ok () := by
    decide +kernel
  have listed : ((accrualRun (smallApproved ++ [.request (payOut 0)])
      (oneByOne smallApproved)).rows.commissionPayments.find? 0).map
        (fun payment => (payment.brokerId, payment.amountPaise)) = some (0, 1000) := by
    decide +kernel
  have owed : 1000 + (accrualRun (smallApproved ++ [.request (payOut 0)])
      (oneByOne smallApproved)).rows.debt 0 ≤ (((accrualRun
        (smallApproved ++ [.request (payOut 0)])
          (oneByOne smallApproved)).rows.outstandingBookings 0).map Prod.snd).sum := by
    decide +kernel
  obtain ⟨after, accepted, _⟩ := map_eq_ok.mp pays
  obtain ⟨payment, found, named⟩ := Option.map_eq_some_iff.mp listed
  obtain ⟨broker, amount⟩ := Prod.mk.inj named
  obtain ⟨step, member, payout, before, _⟩ := exists_payOut accepted found
  refine ⟨step, member, payment, payout, (payout_within_iff _ _ step member payment payout).mpr ?_⟩
  rw [before, broker, amount]
  exact owed

/-- Two payments of 1000 are requested while 1000 is owed, and one is paid. The booking is
cancelled, and its unit sold anew through the same broker. -/
def smallResold : List CommissionCall :=
  smallSourced 1000 25 inRange_twentyFive ++
    [.accrue {} 0, .request ⟨{}, smallCommissionPayment⟩, .request ⟨{}, smallCommissionPayment⟩,
      .request ⟨{}, .approvePayment 0⟩, .request ⟨{}, .approvePayment 1⟩, .request (payOut 0),
      .request cancelSmall, .request ⟨{ smallMasters 0 0 with }, .core (.createBooking smallBooking)⟩,
      .request ⟨{}, .assignToBooking 1 0⟩, .accrue {} 1]

/-- **A broker who is owed nothing is paid 1000**: the second booking owes him what he owes on the
first. -/
theorem overpaid :
    ∃ step ∈ steps (Shared.exec AccrualSession.move)
        (accrualStart (callAt (smallResold ++ [.request (payOut 1)])))
        (oneByOne smallResold ++ [smallResold.length]),
      ∃ payment, IsPayout step payment ∧ step.before.rows.brokerBalance payment.brokerId = 0 ∧
        step.after.rows.brokerBalance payment.brokerId = -1000 := by
  have pays : (fun after => after.brokerBalance 0) <$> execCommission (payOut 1) (accrualRun
      (smallResold ++ [.request (payOut 1)]) (oneByOne smallResold)).rows = .ok (-1000) := by
    decide +kernel
  have listed : ((accrualRun (smallResold ++ [.request (payOut 1)])
      (oneByOne smallResold)).rows.commissionPayments.find? 1).map (·.brokerId) = some 0 := by
    decide +kernel
  have nothing : (accrualRun (smallResold ++ [.request (payOut 1)])
      (oneByOne smallResold)).rows.brokerBalance 0 = 0 := by decide +kernel
  obtain ⟨after, accepted, balance⟩ := map_eq_ok.mp pays
  obtain ⟨payment, found, broker⟩ := Option.map_eq_some_iff.mp listed
  obtain ⟨step, member, payout, before, rfl⟩ := exists_payOut accepted found
  refine ⟨step, member, payment, payout, ?_, broker ▸ balance⟩
  rw [before, broker]
  exact nothing

end OpenEstate
