/-
**Bookings that were transferred out.**

A transfer brings the old booking's balance to zero. No other operation asks for that status, so
later ones still post on the old booking: a cheque deposited before the transfer bounces, a late
receipt comes in, interest is accrued on the old schedule. `staysAtZero` says of each operation
when it leaves such a booking alone, and `transferred_out_stays_at_zero_iff` that a run keeps all
of them at zero exactly when its steps do.
-/

import OpenEstate.Postsales.Balance

namespace OpenEstate

open Relational

def Db.isTransferredOut (db : Db) (bookingId : Nat) : Bool :=
  (db.bookings.find? bookingId).any fun booking => booking.status = .transferredOut

def Db.TransferredAtZero (db : Db) : Prop :=
  ∀ bookingId, db.isTransferredOut bookingId = true → db.balance bookingId = 0

theorem isTransferredOut_iff {db : Db} {bookingId : Nat} :
    db.isTransferredOut bookingId = true ↔ ∃ booking,
      db.bookings.find? bookingId = some booking ∧ booking.status = .transferredOut := by
  simp [Db.isTransferredOut, Option.any_eq_true]

theorem isTransferredOut_congr {db after : Db} (bookings : after.bookings = db.bookings)
    (bookingId : Nat) : after.isTransferredOut bookingId = db.isTransferredOut bookingId := by
  unfold Db.isTransferredOut
  rw [bookings]

theorem isTransferredOut_modify {db after : Db} (id : Nat) (change : Booking → Booking)
    (bookings : after.bookings = db.bookings.modify id change)
    (kept : ∀ booking, db.bookings.find? id = some booking → booking.status = .transferredOut →
      (change booking).status = .transferredOut) {bookingId : Nat}
    (out : db.isTransferredOut bookingId = true) : after.isTransferredOut bookingId = true := by
  obtain ⟨booking, found, status⟩ := isTransferredOut_iff.mp out
  rw [isTransferredOut_iff, bookings]
  by_cases same : bookingId = id
  · subst same
    rw [Table.find?_modify_self, found]
    exact ⟨change booking, rfl, kept booking found status⟩
  · rw [Table.find?_modify_of_ne _ _ same]
    exact ⟨booking, found, status⟩

theorem isTransferredOut_create {db after : Db} {opened : Booking}
    (bookings : after.bookings = db.bookings.create opened) {bookingId : Nat}
    (out : db.isTransferredOut bookingId = true) : after.isTransferredOut bookingId = true := by
  obtain ⟨booking, found, status⟩ := isTransferredOut_iff.mp out
  rw [isTransferredOut_iff, bookings]
  exact ⟨booking, Table.find?_create_old opened found, status⟩

/-- **A booking that was transferred out stays so**: nothing leads out of that status. -/
theorem isTransferredOut_kept {request : Request} {db after : Db}
    (accepted : exec request db = .ok after) {bookingId : Nat}
    (out : db.isTransferredOut bookingId = true) : after.isTransferredOut bookingId = true := by
  cases exec_effect accepted with
  | createBooking => exact isTransferredOut_create rfl out
  | @advance _ _ id target booking unit found expected =>
    refine isTransferredOut_modify id (fun row => { row with status := target.status }) rfl ?_ out
    intro row rowFound status
    rw [found] at rowFound
    cases rowFound
    rw [expected] at status
    cases target <;> cases status
  | @setInterestRule _ _ id ruleId =>
    exact isTransferredOut_modify id (fun row => { row with interestRuleId := ruleId }) rfl
      (fun _ _ status => status) out
  | instantiateFromTemplate found deactivated =>
    rw [deactivateExistingPlans_frame deactivated]
    exact out
  | createCustomPlan found deactivated =>
    rw [deactivateExistingPlans_frame deactivated]
    exact out
  | raiseStage stage =>
    rcases stage with rfl | ⟨stageRaise, rfl⟩ <;> exact out
  | @voucherBounced _ _ _ voucher =>
    cases named : voucher.refundId <;> exact out
  | @transfer _ _ id _ _ _ _ _ _ found transferable =>
    have closed : (db.setBookingStatus id .transferredOut).isTransferredOut bookingId = true :=
      isTransferredOut_modify id (fun row => { row with status := .transferredOut }) rfl
        (fun _ _ _ => rfl) out
    exact isTransferredOut_create rfl closed
  | @cancel _ _ id dto booking _ _ found cancellable =>
    refine isTransferredOut_modify id
      (fun row => { row with status := dto.cancellationType.status }) rfl ?_ out
    intro row rowFound status
    rw [found] at rowFound
    cases rowFound
    rw [status] at cancellable
    simp at cancellable
  | _ => exact out

/-! ### What the operations may do to them -/

/-- Whether an accrual run charges anything on a booking: it has a rule, and some overdue
installment has days not charged for. -/
def Db.InterestDue (db : Db) (masters : Masters) (bookingId : Nat) (asOf : Option Date) : Prop :=
  ∃ booking rule row, db.bookings.find? bookingId = some booking ∧
    booking.interestRuleId.bind masters.interestRules = some rule ∧
    row ∈ db.overdue bookingId (asOf.getD masters.now) ∧
    db.accrues rule (asOf.getD masters.now) row

/-- **A step that leaves bookings that were transferred out alone**: whatever it charges, receives,
takes back or pays on one of them comes to nothing. -/
def staysAtZero (step : Step Db Request) : Prop :=
  let db := step.before
  let bounceChargePaise := step.input.masters.chequeBounceChargePaise
  match step.input.op with
  | .addExtraCharge bookingId dto =>
    db.isTransferredOut bookingId = true → dto.baseAmountPaise = 0
  | .createReceipt dto =>
    db.isTransferredOut dto.bookingId = true → dto.tdsDeductedPaise = dto.grossAmountPaise
  | .recordChequeEvent receiptId .bounced => ∀ receipt,
    db.receipts.find? receiptId = some receipt → db.isTransferredOut receipt.bookingId = true →
      db.standingCash receiptId receipt = 0 ∧ bounceChargePaise ≤ 0
  | .reverseReceipt receiptId => ∀ receipt,
    db.receipts.find? receiptId = some receipt → db.isTransferredOut receipt.bookingId = true →
      db.netCash receiptId receipt = 0
  | .recordTdsCertificate tdsDeductionId => ∀ ded,
    db.tdsDeductions.find? tdsDeductionId = some ded → db.isTransferredOut ded.bookingId = false
  | .accrueForBooking bookingId asOf =>
    db.isTransferredOut bookingId = true →
      ¬db.InterestDue step.input.masters bookingId asOf
  | .waiveInterest bookingId _ => db.isTransferredOut bookingId = false
  | .approveRefund refundId => ∀ refund,
    db.refunds.find? refundId = some refund → db.isTransferredOut refund.bookingId = false
  | .voucherBounced voucherId => ∀ voucher,
    db.vouchers.find? voucherId = some voucher → db.isTransferredOut voucher.bookingId = true →
      bounceChargePaise = voucher.amountPaise
  | _ => True

/-! ### One step -/

theorem bookings_withBooks (db : Db) (books : Books) :
    (db.withBooks books).bookings = db.bookings := rfl

theorem atZero_iff_of_posting {db : Db} (after : Db) (atZero : db.TransferredAtZero)
    (bookings : after.bookings = db.bookings) {owner : Nat} {amount : Int}
    (balance : ∀ bookingId, after.balance bookingId =
      db.balance bookingId + if owner = bookingId then amount else 0) :
    after.TransferredAtZero ↔ (db.isTransferredOut owner = true → amount = 0) := by
  constructor
  · intro atZeroAfter out
    have now := atZeroAfter owner (by rw [isTransferredOut_congr bookings]; exact out)
    rw [balance, if_pos rfl, atZero owner out] at now
    omega
  · intro nothing bookingId out
    rw [isTransferredOut_congr bookings] at out
    rw [balance, atZero bookingId out]
    by_cases same : owner = bookingId
    · subst same
      rw [if_pos rfl, nothing out, add_zero]
    · rw [if_neg same, add_zero]

theorem imp_eq_zero_iff {out : Bool} {amount : Int} (moves : amount ≠ 0) :
    (out = true → amount = 0) ↔ out = false := by
  cases out <;> simp [moves]

theorem atZero_of_untouched {db after : Db} (atZero : db.TransferredAtZero)
    (untouched : ∀ bookingId, after.isTransferredOut bookingId = true →
      db.isTransferredOut bookingId = true ∧ after.balance bookingId = db.balance bookingId) :
    after.TransferredAtZero := by
  intro bookingId out
  obtain ⟨before, same⟩ := untouched bookingId out
  rw [same, atZero bookingId before]

theorem atZero_of_silent {db after : Db} (atZero : db.TransferredAtZero)
    (bookings : after.bookings = db.bookings) (ledger : after.ledger = db.ledger) :
    after.TransferredAtZero := by
  refine atZero_of_untouched atZero fun bookingId out => ?_
  exact ⟨isTransferredOut_congr bookings bookingId ▸ out, balance_congr ledger bookingId⟩

theorem isTransferredOut_of_modify {db after : Db} {id : Nat} {change : Booking → Booking}
    (bookings : after.bookings = db.bookings.modify id change)
    (other : ∀ booking, (change booking).status ≠ .transferredOut ∨
      (change booking).status = booking.status) {bookingId : Nat}
    (out : after.isTransferredOut bookingId = true) : db.isTransferredOut bookingId = true := by
  obtain ⟨booking, found, status⟩ := isTransferredOut_iff.mp out
  rw [bookings] at found
  rcases Table.find?_modify_eq_some.mp found with ⟨rfl, before, old, rfl⟩ | ⟨_, old⟩
  · rcases other before with different | same
    · exact absurd status different
    · exact isTransferredOut_iff.mpr ⟨before, old, same ▸ status⟩
  · exact isTransferredOut_iff.mpr ⟨booking, old, status⟩

theorem addExtraCharge_total {masters : Masters} {bookingId : Nat} {dto : ExtraChargeDto}
    {db after : Db} (accepted : addExtraCharge masters bookingId dto db = .ok after) :
    ∃ lineTotal, after = db.post [extraChargeEntry bookingId lineTotal] ∧
      (lineTotal = 0 ↔ dto.baseAmountPaise = 0) := by
  simp only [addExtraCharge, computeCostLineGst, bind_eq_ok, orThrow_eq_ok, pure_eq_ok] at accepted
  obtain ⟨booking, found, _, _, rate, _, lineTotal, ⟨components, computed, rfl⟩, rfl⟩ := accepted
  refine ⟨_, rfl, ?_⟩
  obtain ⟨cgst, sgst, igst⟩ := gstComponents_nonneg dto.base_nonneg computed
  have base := dto.base_nonneg
  constructor
  · intro nothing
    omega
  · intro nothing
    obtain ⟨noCgst, noSgst, noIgst⟩ := gstComponents_zero (nothing ▸ computed)
    omega

/-- **An accrual run** charges nothing exactly when no installment has interest due, and never
credits. -/
theorem balance_foldl_accrueInstallment (rule : InterestRule) (bookingId : Nat) (asOf : Date)
    (rows : List (Nat × Installment)) (db : Db) :
    db.balance bookingId ≤
        (rows.foldl (accrueInstallment rule bookingId asOf) db).balance bookingId ∧
      ((rows.foldl (accrueInstallment rule bookingId asOf) db).balance bookingId =
        db.balance bookingId ↔ ∀ row ∈ rows, ¬db.accrues rule asOf row) := by
  induction rows generalizing db with
  | nil => simp
  | cons row rest ih =>
    rw [List.foldl_cons]
    by_cases accrues : db.accrues rule asOf row
    · -- the first installment with interest due is charged, and nothing takes it back
      have charged : (accrueInstallment rule bookingId asOf db row).balance bookingId =
          db.balance bookingId + db.newInterest rule asOf row := by
        unfold accrueInstallment
        rw [if_pos accrues]
        have posted := balance_post_singleton db.toBooks
          (interestEntry bookingId row.1 (db.newInterest rule asOf row)) bookingId
        rw [show (interestEntry bookingId row.1 (db.newInterest rule asOf row)).bookingId =
          bookingId from rfl, if_pos rfl] at posted
        exact posted
      have positive := accrues.2.2
      obtain ⟨grows, _⟩ := ih (accrueInstallment rule bookingId asOf db row)
      refine ⟨by omega, iff_of_false (by omega) fun none => ?_⟩
      exact none row List.mem_cons_self accrues
    · have skipped : accrueInstallment rule bookingId asOf db row = db := if_neg accrues
      rw [skipped]
      obtain ⟨grows, same⟩ := ih db
      refine ⟨grows, same.trans ?_⟩
      rw [List.forall_mem_cons]
      exact (and_iff_right accrues).symm

/-- **What an accrual run adds to the balance of its booking**: nothing exactly when no interest is
due. -/
theorem accrueForBooking_posts {masters : Masters} {bookingId : Nat} {asOf : Option Date}
    {db after : Db} (accepted : accrueForBooking masters bookingId asOf db = .ok after) :
    ∃ amount, (∀ id, after.balance id = db.balance id + if bookingId = id then amount else 0) ∧
      (amount = 0 ↔ ¬db.InterestDue masters bookingId asOf) := by
  obtain ⟨booking, found, ⟨noRule, rfl⟩ | ⟨rule, inForce, same⟩⟩ :=
    accrueForBooking_eq_ok accepted
  · refine ⟨0, by simp, iff_of_true rfl ?_⟩
    rintro ⟨other, rule, row, otherFound, inForce, _⟩
    rw [found] at otherFound
    cases otherFound
    rw [noRule] at inForce
    cases inForce
  · obtain ⟨entries, accruals, result, posted, _⟩ := foldl_accrueInstallment rule bookingId
      (asOf.getD masters.now) (db.overdue bookingId (asOf.getD masters.now)) db
    have owned : ∀ entry ∈ entries, entry.bookingId = bookingId := by
      intro entry member
      obtain ⟨installmentId, amount, _, rfl⟩ := posted entry member
      rfl
    have ledger : after.ledger = db.ledger.createMany entries := by
      rw [same, result]
      rfl
    have balance := balance_of_ledger ledger owned
    refine ⟨totalOf entries, balance, ?_⟩
    have own := balance bookingId
    rw [if_pos rfl] at own
    have nothing : totalOf entries = 0 ↔ after.balance bookingId = db.balance bookingId := by
      omega
    rw [nothing, same, (balance_foldl_accrueInstallment rule bookingId _ _ db).2]
    constructor
    · rintro none ⟨other, otherRule, row, otherFound, otherInForce, overdue, accrues⟩
      rw [found] at otherFound
      cases otherFound
      rw [inForce] at otherInForce
      cases otherInForce
      exact none row overdue accrues
    · intro notDue row overdue accrues
      exact notDue ⟨booking, rule, row, found, inForce, overdue, accrues⟩

theorem atZero_of_opened {db after : Db} (atZero : db.TransferredAtZero) {opened : Booking}
    (bookings : after.bookings = db.bookings.create opened) (booked : opened.status = .booked)
    {entries : List LedgerEntry} (ledger : after.ledger = db.ledger.createMany entries)
    (owned : ∀ entry ∈ entries, entry.bookingId = db.bookings.nextId) :
    after.TransferredAtZero := by
  refine atZero_of_untouched atZero fun bookingId out => ?_
  obtain ⟨booking, found, status⟩ := isTransferredOut_iff.mp out
  rw [bookings] at found
  rcases Table.find?_create_eq_some.mp found with ⟨_, rfl⟩ | old
  · rw [booked] at status
    cases status
  · refine ⟨isTransferredOut_iff.mpr ⟨booking, old, status⟩, ?_⟩
    rw [balance_of_ledger ledger owned, if_neg (Table.lt_nextId old).ne', add_zero]

theorem atZero_of_transferred {db after : Db} (sound : db.Sound) (atZero : db.TransferredAtZero)
    {fromBookingId : Nat} {booking opened : Booking} {transferFeePaise : Int}
    (found : db.bookings.find? fromBookingId = some booking) (booked : opened.status = .booked)
    (bookings : after.bookings = (db.carryOver fromBookingId opened (db.balance fromBookingId)
      transferFeePaise).bookings)
    (ledger : after.ledger = (db.carryOver fromBookingId opened (db.balance fromBookingId)
      transferFeePaise).ledger) : after.TransferredAtZero := by
  intro bookingId out
  rw [balance_congr ledger,
    balance_carryOver sound opened transferFeePaise (Db.hasBooking_of_find? found)]
  by_cases old : bookingId = fromBookingId
  · rw [if_pos old]
  · obtain ⟨row, rowFound, status⟩ := isTransferredOut_iff.mp out
    have rowFound : ((db.bookings.modify fromBookingId fun row =>
        { row with status := .transferredOut }).create opened).find? bookingId = some row := by
      rw [bookings] at rowFound
      exact rowFound
    rcases Table.find?_create_eq_some.mp rowFound with ⟨_, rfl⟩ | earlier
    · rw [booked] at status
      cases status
    · rw [Table.find?_modify_of_ne _ _ old] at earlier
      rw [if_neg old, if_neg (Table.lt_nextId earlier).ne]
      exact atZero bookingId (isTransferredOut_iff.mpr ⟨row, earlier, status⟩)

theorem atZero_of_settled {db after : Db} (atZero : db.TransferredAtZero) {bookingId : Nat}
    {dto : CancellationDto} {deduction : Int}
    (bookings : after.bookings = (db.settle bookingId dto deduction).bookings)
    (ledger : after.ledger = (db.settle bookingId dto deduction).ledger) :
    after.TransferredAtZero := by
  refine atZero_of_untouched atZero fun id out => ?_
  obtain ⟨row, rowFound, status⟩ := isTransferredOut_iff.mp out
  have rowFound : (db.bookings.modify bookingId fun row =>
      { row with status := dto.cancellationType.status }).find? id = some row := by
    rw [bookings] at rowFound
    exact rowFound
  rcases Table.find?_modify_eq_some.mp rowFound with ⟨_, before, _, rfl⟩ | ⟨other, earlier⟩
  · have ended : dto.cancellationType.status = .transferredOut := status
    cases kind : dto.cancellationType <;> (rw [kind] at ended; cases ended)
  · refine ⟨isTransferredOut_iff.mpr ⟨row, earlier, status⟩, ?_⟩
    have posted := balance_of_ledger (ledger : after.ledger = db.ledger.createMany
      (settlementEntries bookingId (db.balance bookingId) deduction
        (refundableOf (db.netReceived bookingId) deduction)))
      (fun entry member => (isPlain_settlementEntries _ _ _ _ entry member).2) id
    rw [posted, if_neg fun same : bookingId = id => other same.symm, add_zero]

theorem totalOf_voucherBouncedEntries (bookingId : Nat) (amountPaise bounceChargePaise : Int) :
    totalOf (voucherBouncedEntries bookingId amountPaise bounceChargePaise) =
      max 0 bounceChargePaise - amountPaise := by
  unfold voucherBouncedEntries
  split
  · simp only [totalOf_cons, totalOf_nil]
    omega
  · simp only [totalOf_cons, totalOf_nil]
    omega

theorem atZero_iff_of_voucherBounced {db after : Db} {bookingId : Nat}
    {amountPaise bounceChargePaise : Int} (atZero : db.TransferredAtZero)
    (positive : 0 < amountPaise) (bookings : after.bookings = db.bookings)
    (ledger : after.ledger =
      (db.toBooks.post (voucherBouncedEntries bookingId amountPaise bounceChargePaise)).ledger) :
    after.TransferredAtZero ↔
      (db.isTransferredOut bookingId = true → bounceChargePaise = amountPaise) := by
  have posted := balance_of_ledger
    (rfl : (db.toBooks.post (voucherBouncedEntries bookingId amountPaise
      bounceChargePaise)).ledger = _)
    (fun entry member => (isPlain_voucherBouncedEntries _ _ _ entry member).2)
  have total := totalOf_voucherBouncedEntries bookingId amountPaise bounceChargePaise
  refine Iff.trans (atZero_iff_of_posting after atZero bookings fun id =>
    (balance_congr ledger id).trans (posted id)) ?_
  exact imp_congr_right fun _ => by omega

/-- **One step** keeps the bookings that were transferred out at zero exactly when it leaves them
alone. -/
theorem transferredAtZero_step {request : Request} {db after : Db} (sound : db.Sound)
    (atZero : db.TransferredAtZero) (accepted : exec request db = .ok after) :
    after.TransferredAtZero ↔ staysAtZero ⟨db, request, after⟩ := by
  cases exec_effect accepted with
  | @advance _ _ bookingId target booking =>
    have bookings : ((db.setBookingStatus bookingId target.status).setUnitStatus booking.unitId
        target.unitStatus).bookings =
          db.bookings.modify bookingId fun row => { row with status := target.status } := rfl
    refine iff_of_true (atZero_of_untouched atZero fun id out => ?_) trivial
    refine ⟨isTransferredOut_of_modify bookings (fun row => Or.inl ?_) out, rfl⟩
    cases target <;> exact nofun
  | @setInterestRule _ _ bookingId ruleId =>
    have bookings : (setInterestRule bookingId ruleId db).bookings =
        db.bookings.modify bookingId fun row => { row with interestRuleId := ruleId } := rfl
    refine iff_of_true (atZero_of_untouched atZero fun id out => ?_) trivial
    exact ⟨isTransferredOut_of_modify bookings (fun row => Or.inr rfl) out, rfl⟩
  | instantiateFromTemplate found deactivated =>
    rw [deactivateExistingPlans_frame deactivated]
    exact iff_of_true (atZero_of_silent atZero rfl rfl) trivial
  | createCustomPlan found deactivated =>
    rw [deactivateExistingPlans_frame deactivated]
    exact iff_of_true (atZero_of_silent atZero rfl rfl) trivial
  | raiseStage stage =>
    rcases stage with rfl | ⟨stageRaise, rfl⟩ <;>
      exact iff_of_true (atZero_of_silent atZero rfl rfl) trivial
  | createBooking =>
    refine iff_of_true (atZero_of_opened atZero rfl rfl rfl ?_) trivial
    intro entry member
    obtain ⟨total, _, rfl⟩ := List.mem_map.mp member
    rfl
  | @addExtraCharge _ _ bookingId dto =>
    obtain ⟨lineTotal, same, free⟩ := addExtraCharge_total accepted
    have balance := balance_post_singleton db.toBooks (extraChargeEntry bookingId lineTotal)
    rw [same]
    refine Iff.trans (atZero_iff_of_posting (db.post _) atZero rfl balance) ?_
    exact imp_congr_right fun _ => free
  | createReceipt found withheld accepts =>
    refine Iff.trans (atZero_iff_of_posting _ atZero (bookings_withBooks db _)
      (balance_recordReceipt accepts)) ?_
    exact imp_congr_right fun _ => sub_eq_zero
  | @recordClearance _ _ _ status _ _ _ _ _ stands =>
    refine iff_of_true (atZero_of_silent atZero rfl rfl) ?_
    cases status with
    | bounced => exact absurd rfl stands
    | deposited => trivial
    | cleared => trivial
  | @recordBounce masters _ receiptId receipt found =>
    refine Iff.trans (atZero_iff_of_posting _ atZero (bookings_withBooks db _)
      (balance_undo sound.books found _ _ _)) ?_
    have standing := standingCash_nonneg sound.books found
    refine Iff.trans ?_ (Table.forall_find?_iff found).symm
    refine imp_congr_right fun _ => ?_
    show _ ↔ db.standingCash receiptId receipt = 0 ∧ masters.chequeBounceChargePaise ≤ 0
    omega
  | @reverseReceipt _ _ receiptId receipt found unreversed =>
    refine Iff.trans (atZero_iff_of_posting _ atZero (bookings_withBooks db _)
      (balance_undo sound.books found _ _ _)) ?_
    have standing := standingCash_of_stands db.toBooks receiptId unreversed
    refine Iff.trans ?_ (Table.forall_find?_iff found).symm
    refine imp_congr_right fun _ => ?_
    show _ ↔ db.netCash receiptId receipt = 0
    omega
  | @recordTdsCertificate _ _ tdsDeductionId ded found =>
    refine Iff.trans (atZero_iff_of_posting _ atZero (bookings_withBooks db _)
      (balance_recordCertificate db.toBooks tdsDeductionId ded)) ?_
    obtain ⟨_, _, _, positive⟩ := sound.books.linked.deduction tdsDeductionId ded found
    refine Iff.trans ?_ (Table.forall_find?_iff found).symm
    exact imp_eq_zero_iff (by omega)
  | accrueForBooking found posted recorded accepted =>
    obtain ⟨amount, balance, nothing⟩ := accrueForBooking_posts accepted
    refine Iff.trans (atZero_iff_of_posting (db.recordAccruals _ _) atZero rfl balance) ?_
    exact imp_congr_right fun _ => nothing
  | @waiveInterest _ _ bookingId dto =>
    refine Iff.trans (atZero_iff_of_posting (db.post _) atZero rfl
      (balance_post_singleton db.toBooks _)) ?_
    have positive := dto.amount_pos
    have moves : -dto.amountPaise ≠ 0 := by omega
    exact imp_eq_zero_iff moves
  | @approveRefund _ _ refundId refund found =>
    refine Iff.trans (atZero_iff_of_posting ((db.post _).setRefundStatus _ _) atZero rfl
      (balance_post_singleton db.toBooks _)) ?_
    have positive := sound.grounded.refund_pos refundId refund found
    refine Iff.trans ?_ (Table.forall_find?_iff found).symm
    exact imp_eq_zero_iff positive.ne'
  | @voucherBounced masters _ voucherId voucher found =>
    obtain ⟨_, refund, _, refundFound, _, sameAmount⟩ :=
      sound.grounded.voucher_refund voucherId voucher found
    have positive := sound.grounded.refund_pos _ refund refundFound
    refine Iff.trans ?_ (Table.forall_find?_iff found).symm
    refine atZero_iff_of_voucherBounced atZero (sameAmount ▸ positive) ?_ ?_
    · cases voucher.refundId <;> rfl
    · cases voucher.refundId <;> rfl
  | transfer found =>
    exact iff_of_true (atZero_of_transferred sound atZero found rfl rfl rfl) trivial
  | cancel => exact iff_of_true (atZero_of_settled atZero rfl rfl) trivial
  | _ => exact iff_of_true (atZero_of_silent atZero rfl rfl) trivial

/-! ### Every run -/

/-- **Once a booking is transferred out in a run, its balance is zero in every later state.** -/
def zeroOnceTransferred (inputs : List Request) : Prop :=
  ∀ earlier later bookingId, earlier <+: later → later <+: inputs →
    (run exec {} earlier).isTransferredOut bookingId = true →
      (run exec {} later).balance bookingId = 0

theorem zeroOnceTransferred_iff (inputs : List Request) :
    zeroOnceTransferred inputs ↔ ∀ db ∈ states exec {} inputs, db.TransferredAtZero := by
  rw [forall_states_iff_beginnings]
  constructor
  · intro zero earlier visited bookingId out
    exact zero earlier earlier bookingId (List.prefix_refl _) visited out
  · intro zero earlier later bookingId continued visited out
    have still : (run exec {} later).isTransferredOut bookingId = true := by
      have reached : Reachable exec (run exec {} earlier) (run exec {} later) :=
        reachable_of_isPrefix _ continued
      refine reached.invariant (P := (Db.isTransferredOut · bookingId = true)) out ?_
      exact fun _ _ _ before accepted => isTransferredOut_kept accepted before
    exact zero later visited bookingId still

/-- **A run leaves every booking at zero once it is transferred out exactly when its steps leave
such bookings alone.** -/
theorem transferred_out_stays_at_zero_iff (inputs : List Request) :
    zeroOnceTransferred inputs ↔ ∀ step ∈ steps exec {} inputs, staysAtZero step := by
  rw [zeroOnceTransferred_iff]
  refine forall_states_iff exec_sound ?_ inputs sound_empty ?_
  · exact fun request db after sound atZero accepted => transferredAtZero_step sound atZero accepted
  · intro bookingId out
    cases out

/-- A sale paid by a cheque that bounces after the booking went to another applicant. -/
def bouncedAfterTransfer : List Request :=
  smallSale ++
    [⟨{}, .createReceipt (smallReceipt 0 0 .cheque 1000 0)⟩, ⟨{}, .createApplicant⟩, smallTransfer 0 1,
      ⟨smallMasters 0 0, .recordChequeEvent 0 .bounced⟩]

/-- The bounce puts the debt of 1000 back on the booking that was transferred out. -/
theorem bounced_after_transfer_not_at_zero : ¬zeroOnceTransferred bouncedAfterTransfer := by
  intro zero
  have nothing := zero _ _ 0 (List.prefix_refl _) (List.prefix_refl _) (by decide)
  revert nothing
  decide

end OpenEstate
