/-
**Refunds and the cash behind them.**

What backs the refunds of a booking is the cash received on it and what was left on the bookings it
was transferred from (`Db.carriedIn`). A refund is only compared with the ledger, at its request,
while interest waivers, earlier refunds, reversals and the settlement of a cancellation move ledger
and cash apart. `refunds_covered_iff` says which steps keep refunds covered: approvals, repeated
payments and reversals of no more than is left, on the booking and on those its money went to.
-/

import OpenEstate.Postsales.CashHeld
import OpenEstate.Relational.Lineage

namespace OpenEstate

open Relational

def Db.cameFrom (db : Db) (bookingId : Nat) : Option Nat :=
  (db.transfers.findFirst? fun _ row => row.toBookingId = bookingId).map fun row =>
    row.2.fromBookingId

/-- The money carried into a booking: what is left on the bookings it came from. -/
def Db.carriedIn (db : Db) (bookingId : Nat) : Int :=
  ((forerunners db.cameFrom bookingId bookingId).map db.leftOn).sum

/-- **The refunds that stand on a booking are covered** by the cash received on it and the money
carried in. -/
def Db.RefundsCovered (db : Db) : Prop :=
  ∀ bookingId, db.standingRefunds bookingId ≤ db.cashReceived bookingId + db.carriedIn bookingId

def Db.leftOver (db : Db) (bookingId : Nat) : Int :=
  db.cashReceived bookingId + db.carriedIn bookingId - db.standingRefunds bookingId

/-- Whether an amount may leave a booking: so much is left on it, and on every booking its money was
transferred to. -/
def Db.CanSpare (db : Db) (bookingId : Nat) (amountPaise : Int) : Prop :=
  ∀ holder, bookingId ∈ lineage db.cameFrom holder → amountPaise ≤ db.leftOver holder

def sparesWhatIsLeft (step : Step Db Request) : Prop :=
  let db := step.before
  match step.input.op with
  | .approveRefund refundId => ∀ refund, db.refunds.find? refundId = some refund →
    db.CanSpare refund.bookingId refund.amountPaise
  | .payRefund refundId => ∀ refund, db.refunds.find? refundId = some refund →
    db.hasBounced refundId = true → db.CanSpare refund.bookingId refund.amountPaise
  | .reverseReceipt receiptId => ∀ receipt, db.receipts.find? receiptId = some receipt →
    db.CanSpare receipt.bookingId (db.netCash receiptId receipt)
  | .recordChequeEvent receiptId .bounced => ∀ receipt, db.receipts.find? receiptId = some receipt →
    db.CanSpare receipt.bookingId (db.standingCash receiptId receipt)
  | _ => True

/-! ### The money behind a booking -/

section Lineage

variable {db after : Db}

theorem leftOver_eq (db : Db) (bookingId : Nat) :
    db.leftOver bookingId = ((lineage db.cameFrom bookingId).map db.leftOn).sum := by
  unfold lineage
  have own : db.leftOn bookingId = db.cashReceived bookingId - db.standingRefunds bookingId := rfl
  rw [List.map_cons, List.sum_cons, own]
  unfold Db.leftOver Db.carriedIn
  omega

theorem refundsCovered_iff : db.RefundsCovered ↔ ∀ bookingId, 0 ≤ db.leftOver bookingId := by
  refine forall_congr' fun bookingId => ?_
  unfold Db.leftOver
  omega

variable {bookingId : Nat}

theorem exists_transfer_of_cameFrom {earlier : Nat}
    (found : db.cameFrom bookingId = some earlier) : ∃ id row,
      db.transfers.find? id = some row ∧ row.toBookingId = bookingId ∧
        row.fromBookingId = earlier := by
  obtain ⟨⟨id, row⟩, first, same⟩ := Option.map_eq_some_iff.mp found
  obtain ⟨present, toBooking⟩ := Table.findFirst?_eq_some first
  exact ⟨id, row, present, by simpa using toBooking, same⟩

theorem Db.Grounded.backward (grounded : db.Grounded) : Backward db.cameFrom := by
  intro bookingId earlier found
  obtain ⟨id, row, present, rfl, rfl⟩ := exists_transfer_of_cameFrom found
  exact (grounded.transfer_bookings id row present).1

theorem Db.Grounded.cameFrom_eq_none (grounded : db.Grounded)
    (unknown : ¬db.hasBooking bookingId) : db.cameFrom bookingId = none := by
  by_contra some
  obtain ⟨earlier, found⟩ := Option.ne_none_iff_exists'.mp some
  obtain ⟨id, row, present, rfl, _⟩ := exists_transfer_of_cameFrom found
  exact unknown (grounded.transfer_bookings id row present).2

theorem leftOn_of_unknown (sound : db.Sound)
    (unknown : ¬db.hasBooking bookingId) : db.leftOn bookingId = 0 := by
  have cash : db.cashReceived bookingId = 0 := by
    refine Table.sum_eq_zero fun id receipt found => if_neg ?_
    rintro rfl
    exact unknown (sound.books.linked.receipt id receipt found)
  have refunds : db.standingRefunds bookingId = 0 := by
    refine Table.sum_eq_zero fun id refund found => if_neg ?_
    rintro rfl
    exact unknown (sound.grounded.refund_booking id refund found)
  rw [Db.leftOn, cash, refunds, sub_zero]

variable {owner : Nat} {change : Int}

theorem leftOver_of_change (grounded : db.Grounded) (transfers : after.transfers = db.transfers)
    (moved : ∀ bookingId, after.leftOn bookingId = db.leftOn bookingId +
      if owner = bookingId then change else 0) (bookingId : Nat) :
    after.leftOver bookingId = db.leftOver bookingId +
      if owner ∈ lineage db.cameFrom bookingId then change else 0 := by
  have origins : after.cameFrom = db.cameFrom := by
    funext id
    unfold Db.cameFrom
    rw [transfers]
  rw [leftOver_eq, leftOver_eq, origins]
  exact sum_lineage_update grounded.backward moved bookingId

theorem refundsCovered_of_change (grounded : db.Grounded) (covered : db.RefundsCovered)
    (moved : ∀ bookingId, after.leftOn bookingId = db.leftOn bookingId +
      if owner = bookingId then change else 0) (transfers : after.transfers = db.transfers) :
    after.RefundsCovered ↔ db.CanSpare owner (-change) := by
  rw [refundsCovered_iff] at covered ⊢
  refine forall_congr' fun bookingId => ?_
  have left := covered bookingId
  rw [leftOver_of_change grounded transfers moved]
  by_cases holds : owner ∈ lineage db.cameFrom bookingId
  · rw [if_pos holds]
    constructor
    · intro nonneg _
      omega
    · intro spared
      have enough := spared holds
      omega
  · rw [if_neg holds, add_zero]
    exact iff_of_true left fun member => absurd member holds

theorem canSpare_of_nonpos (covered : db.RefundsCovered) (owner : Nat) {amountPaise : Int}
    (nonpos : amountPaise ≤ 0) : db.CanSpare owner amountPaise :=
  fun holder _ => nonpos.trans (refundsCovered_iff.mp covered holder)

theorem refundsCovered_of_gain (grounded : db.Grounded) (covered : db.RefundsCovered)
    (gain : 0 ≤ change) (moved : ∀ bookingId, after.leftOn bookingId = db.leftOn bookingId +
      if owner = bookingId then change else 0) (transfers : after.transfers = db.transfers) :
    after.RefundsCovered :=
  (refundsCovered_of_change grounded covered moved transfers).mpr
    (canSpare_of_nonpos covered owner (by omega))

theorem leftOn_congr (receipts : after.receipts = db.receipts)
    (deductions : after.tdsDeductions = db.tdsDeductions) (refunds : after.refunds = db.refunds)
    (vouchers : after.vouchers = db.vouchers) (bookingId : Nat) :
    after.leftOn bookingId = db.leftOn bookingId := by
  rw [Db.leftOn, Db.leftOn, cashReceived_congr receipts deductions,
    standingRefunds_congr refunds vouchers]

theorem refundsCovered_of_silent (grounded : db.Grounded) (covered : db.RefundsCovered)
    (receipts : after.receipts = db.receipts) (deductions : after.tdsDeductions = db.tdsDeductions)
    (refunds : after.refunds = db.refunds) (vouchers : after.vouchers = db.vouchers)
    (transfers : after.transfers = db.transfers) : after.RefundsCovered := by
  have moved : ∀ bookingId, after.leftOn bookingId = db.leftOn bookingId +
      if 0 = bookingId then 0 else 0 := by
    intro bookingId
    rw [ite_self, add_zero]
    exact leftOn_congr receipts deductions refunds vouchers bookingId
  exact refundsCovered_of_gain grounded covered le_rfl moved transfers

/-- **A transfer** carries what is left to the new booking, so it keeps the refunds covered. -/
theorem refundsCovered_of_transfer (sound : db.Sound) (soundAfter : after.Sound)
    (covered : db.RefundsCovered) {row : Transfer}
    (transfers : after.transfers = db.transfers.create row)
    (known : db.hasBooking row.fromBookingId) (toNew : row.toBookingId = db.bookings.nextId)
    (nextId : after.bookings.nextId = db.bookings.nextId + 1)
    (left : ∀ bookingId, after.leftOn bookingId = db.leftOn bookingId) : after.RefundsCovered := by
  have fresh : db.cameFrom db.bookings.nextId = none :=
    sound.grounded.cameFrom_eq_none (Nat.lt_irrefl _)
  have origin : ∀ bookingId, after.cameFrom bookingId =
      if bookingId = db.bookings.nextId then some row.fromBookingId else db.cameFrom bookingId := by
    intro bookingId
    have created : after.cameFrom bookingId =
        ((db.transfers.findFirst? fun _ row => row.toBookingId = bookingId).or
          (if row.toBookingId = bookingId then some (db.transfers.nextId, row) else none)).map
            fun row => row.2.fromBookingId := by
      unfold Db.cameFrom
      rw [transfers, Table.findFirst?_create]
      simp
    rw [created, toNew]
    by_cases new : bookingId = db.bookings.nextId
    · subst new
      rw [if_pos rfl, if_pos rfl]
      have none : (db.transfers.findFirst? fun _ row => row.toBookingId = db.bookings.nextId) =
          none := Option.map_eq_none_iff.mp fresh
      rw [none]
      rfl
    · rw [if_neg fun same => new same.symm, if_neg new, Option.or_none]
      rfl
  have older : ∀ bookingId, db.hasBooking bookingId → after.leftOver bookingId =
      db.leftOver bookingId := by
    intro bookingId known
    have known : bookingId < db.bookings.nextId := known
    have same : lineage after.cameFrom bookingId = lineage db.cameFrom bookingId := by
      refine lineage_congr sound.grounded.backward soundAfter.grounded.backward fun id upTo => ?_
      rw [origin, if_neg (by omega)]
    rw [leftOver_eq, leftOver_eq, same]
    exact congrArg List.sum (List.map_congr_left fun id _ => left id)
  rw [refundsCovered_iff] at covered ⊢
  intro bookingId
  by_cases onRecord : db.hasBooking bookingId
  · rw [older bookingId onRecord]
    exact covered bookingId
  · rw [leftOver_eq, lineage_eq soundAfter.grounded.backward, List.map_cons, List.sum_cons, left,
      leftOn_of_unknown sound onRecord, zero_add, origin]
    by_cases new : bookingId = db.bookings.nextId
    · rw [if_pos new]
      show 0 ≤ ((lineage after.cameFrom row.fromBookingId).map after.leftOn).sum
      rw [← leftOver_eq, older _ known]
      exact covered row.fromBookingId
    · rw [if_neg new, sound.grounded.cameFrom_eq_none onRecord]
      exact le_rfl

end Lineage

/-! ### One step -/

theorem leftOn_of_cash (db after : Db) (refunds : after.refunds = db.refunds)
    (vouchers : after.vouchers = db.vouchers) {owner : Nat} {change : Int}
    (moved : ∀ bookingId, after.cashReceived bookingId = db.cashReceived bookingId +
      if owner = bookingId then change else 0) (bookingId : Nat) :
    after.leftOn bookingId = db.leftOn bookingId + if owner = bookingId then change else 0 := by
  unfold Db.leftOn
  rw [moved, standingRefunds_congr refunds vouchers]
  omega

theorem leftOn_of_refunds (db after : Db) (receipts : after.receipts = db.receipts)
    (deductions : after.tdsDeductions = db.tdsDeductions) {owner : Nat} {change : Int}
    (moved : ∀ bookingId, after.standingRefunds bookingId = db.standingRefunds bookingId +
      if owner = bookingId then change else 0) (bookingId : Nat) :
    after.leftOn bookingId = db.leftOn bookingId + if owner = bookingId then -change else 0 := by
  unfold Db.leftOn
  rw [moved, cashReceived_congr receipts deductions]
  split <;> omega

/-- **One step** keeps the refunds covered exactly when it gives or takes back no more than is
left. -/
theorem refundsCovered_step {request : Request} {db after : Db} (sound : db.RefundSound)
    (covered : db.RefundsCovered) (accepted : exec request db = .ok after) :
    after.RefundsCovered ↔ sparesWhatIsLeft ⟨db, request, after⟩ := by
  have grounded := sound.1.grounded
  have soundAfter : after.Sound := exec_sound request db after sound.1 accepted
  cases exec_effect accepted with
  | @createReceipt _ _ dto booking found withheld accepts =>
    have cash : 0 ≤ dto.grossAmountPaise - dto.tdsDeductedPaise := by
      have within := accepts.tds
      omega
    have moved := leftOn_of_cash db (db.withBooks (db.recordReceipt dto)) rfl rfl
      (cashReceived_recordReceipt sound.1.books.linked dto)
    exact iff_of_true (refundsCovered_of_gain grounded covered cash moved rfl) trivial
  | @recordClearance _ _ receiptId status receipt found _ _ _ stands =>
    have kept : ∀ bookingId,
        (db.markReceipt receiptId (.withClearance status.clearance)).cashReceived bookingId =
          db.cashReceived bookingId + if receipt.bookingId = bookingId then 0 else 0 := by
      intro bookingId
      rw [ite_self, add_zero]
      exact cashReceived_markReceipt found _ bookingId
    have moved := leftOn_of_cash db
      (db.withBooks (db.markReceipt receiptId (.withClearance status.clearance))) rfl rfl kept
    refine iff_of_true (refundsCovered_of_gain grounded covered le_rfl moved rfl) ?_
    cases status with
    | bounced => exact absurd rfl stands
    | deposited => trivial
    | cleared => trivial
  | @recordBounce masters _ receiptId receipt found =>
    have undoes : Receipt.Undoes Receipt.asBounced := ⟨fun _ => rfl, fun _ => rfl, fun _ => rfl⟩
    have moved := leftOn_of_cash db (db.withBooks (db.undo receiptId receipt .bounceReversal
      masters.chequeBounceChargePaise Receipt.asBounced)) rfl rfl (cashReceived_undo found undoes _ _)
    rw [refundsCovered_of_change grounded covered moved rfl, neg_neg]
    have spares : (∀ other, db.receipts.find? receiptId = some other →
        db.CanSpare other.bookingId (db.standingCash receiptId other)) ↔
          db.CanSpare receipt.bookingId (db.standingCash receiptId receipt) :=
      Table.forall_find?_iff found
    exact spares.symm
  | @reverseReceipt _ _ receiptId receipt found unreversed =>
    have undoes : Receipt.Undoes Receipt.asReversed := ⟨fun _ => rfl, fun _ => rfl, fun _ => rfl⟩
    have moved := leftOn_of_cash db (db.withBooks (db.undo receiptId receipt .adjustment 0
      Receipt.asReversed)) rfl rfl (cashReceived_undo found undoes _ _)
    have standing := standingCash_of_stands db.toBooks receiptId unreversed
    rw [refundsCovered_of_change grounded covered moved rfl, neg_neg, standing]
    have spares : (∀ other, db.receipts.find? receiptId = some other →
        db.CanSpare other.bookingId (db.netCash receiptId other)) ↔
          db.CanSpare receipt.bookingId (db.netCash receiptId receipt) :=
      Table.forall_find?_iff found
    exact spares.symm
  | @approveRefund _ _ refundId refund found requested =>
    have moved := leftOn_of_refunds db ((db.post [refundApprovedEntry refund.bookingId
      refund.amountPaise]).setRefundStatus refundId .approved) rfl rfl
      (standingRefunds_approved sound.2 found requested _)
    rw [refundsCovered_of_change grounded covered moved rfl, neg_neg]
    have spares : (∀ other, db.refunds.find? refundId = some other →
        db.CanSpare other.bookingId other.amountPaise) ↔
          db.CanSpare refund.bookingId refund.amountPaise := Table.forall_find?_iff found
    exact spares.symm
  | @payRefund _ _ refundId refund found approved =>
    have moved := leftOn_of_refunds db ((db.addVoucher (refundVoucher refundId
      refund)).setRefundStatus refundId .paid) rfl rfl (standingRefunds_paid found approved)
    rw [refundsCovered_of_change grounded covered moved rfl, neg_neg]
    have spares : (∀ other, db.refunds.find? refundId = some other →
        db.hasBounced refundId = true → db.CanSpare other.bookingId other.amountPaise) ↔
          (db.hasBounced refundId = true → db.CanSpare refund.bookingId refund.amountPaise) :=
      Table.forall_find?_iff found
    refine Iff.trans ?_ spares.symm
    by_cases bounced : db.hasBounced refundId = true
    · rw [if_pos bounced]
      exact (imp_iff_right bounced).symm
    · rw [if_neg bounced]
      refine iff_of_true ?_ fun again => absurd again bounced
      exact canSpare_of_nonpos covered refund.bookingId le_rfl
  | @voucherBounced masters _ voucherId voucher found issued =>
    obtain ⟨_, refund, _, refundFound, _, sameAmount⟩ := grounded.voucher_refund voucherId voucher found
    have positive := grounded.refund_pos _ refund refundFound
    have transfers : (((db.post (voucherBouncedEntries voucher.bookingId voucher.amountPaise
        masters.chequeBounceChargePaise)).markBounced voucherId).reopenRefund
          voucher.refundId).transfers = db.transfers := by
      cases voucher.refundId <;> rfl
    have moved := leftOn_of_refunds db (((db.post (voucherBouncedEntries voucher.bookingId
      voucher.amountPaise masters.chequeBounceChargePaise)).markBounced voucherId).reopenRefund
        voucher.refundId) (by cases voucher.refundId <;> rfl) (by cases voucher.refundId <;> rfl)
      (standingRefunds_bounced grounded sound.2 found issued _)
    exact iff_of_true (refundsCovered_of_gain grounded covered (by omega) moved transfers) trivial
  | @requestRefund _ _ bookingId dto =>
    have kept : ∀ id, (db.addRefund ⟨bookingId, dto.amountPaise, .requested⟩).standingRefunds id =
        db.standingRefunds id + if bookingId = id then 0 else 0 := by
      intro id
      rw [ite_self, add_zero]
      exact standingRefunds_addRefund _ rfl id
    have moved :=
      leftOn_of_refunds db (db.addRefund ⟨bookingId, dto.amountPaise, .requested⟩) rfl rfl kept
    exact iff_of_true (refundsCovered_of_gain grounded covered (by omega) moved rfl) trivial
  | transfer found =>
    refine iff_of_true ?_ trivial
    exact refundsCovered_of_transfer sound.1 soundAfter covered rfl (Db.hasBooking_of_find? found)
      rfl rfl (leftOn_congr rfl rfl rfl rfl)
  | instantiateFromTemplate found deactivated =>
    rw [deactivateExistingPlans_frame deactivated]
    exact iff_of_true (refundsCovered_of_silent grounded covered rfl rfl rfl rfl rfl) trivial
  | createCustomPlan found deactivated =>
    rw [deactivateExistingPlans_frame deactivated]
    exact iff_of_true (refundsCovered_of_silent grounded covered rfl rfl rfl rfl rfl) trivial
  | raiseStage stage =>
    rcases stage with rfl | ⟨stageRaise, rfl⟩ <;>
      exact iff_of_true (refundsCovered_of_silent grounded covered rfl rfl rfl rfl rfl) trivial
  | _ => exact iff_of_true (refundsCovered_of_silent grounded covered rfl rfl rfl rfl rfl) trivial

/-! ### Every run -/

/-- **A run keeps the refunds of every booking covered exactly when its steps give and take back no
more than is left.** -/
theorem refunds_covered_iff (inputs : List Request) :
    (∀ db ∈ states exec {} inputs, db.RefundsCovered) ↔
      ∀ step ∈ steps exec {} inputs, sparesWhatIsLeft step := by
  refine forall_states_iff exec_refundSound ?_ inputs ⟨sound_empty, refundLifecycle_empty⟩ ?_
  · exact fun request db after sound covered accepted => refundsCovered_step sound covered accepted
  · refine refundsCovered_iff.mpr fun bookingId => ?_
    rw [leftOver_eq, lineage_eq grounded_empty.backward]
    exact le_rfl

/-- A waiver is refunded, then the booking is cancelled and all that was received is refunded. -/
def refundedTwice : List Request :=
  smallPaid ++
    [smallWaiver 0 500, smallRefund 0 500, ⟨{}, .approveRefund 0⟩, smallCancellation,
      smallRefund 0 1000, ⟨{}, .approveRefund 1⟩]

/-- Refunds of 1500 are approved on a booking that received 1000. -/
theorem refunded_twice_not_covered :
    ¬∀ db ∈ states exec {} refundedTwice, db.RefundsCovered := by
  intro covered
  have enough := (forall_states_iff_beginnings _ _).mp covered _ (List.prefix_refl _) 0
  revert enough
  decide

end OpenEstate
