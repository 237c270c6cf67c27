/-
**Operations as the refunds see them.**

Four operations touch a refund: its request, its approval, its payment by a voucher, and the bounce
of a voucher. `RefundStep` names them with what they write; of every other operation it says that
refunds and vouchers stay. The statuses of refunds and vouchers keep in step
(`Db.RefundLifecycle`): a refund is paid exactly while one voucher of it is in circulation.
-/

import OpenEstate.Postsales.Sound

namespace OpenEstate

open Relational

inductive RefundStep (request : Request) (db after : Db) : Prop
  | foreign (refunds : after.refunds = db.refunds) (vouchers : after.vouchers = db.vouchers)
    (notApprove : ∀ refundId, request.op ≠ .approveRefund refundId)
    (notPay : ∀ refundId, request.op ≠ .payRefund refundId)
    (notBounce : ∀ voucherId, request.op ≠ .voucherBounced voucherId)
  | requested (bookingId : Nat) (dto : RequestRefundDto)
    (op : request.op = .requestRefund bookingId dto)
    (owed : dto.amountPaise ≤ db.owedToCustomer bookingId)
    (same : after = db.addRefund { bookingId, amountPaise := dto.amountPaise, status := .requested })
  | approved (refundId : Nat) (refund : Refund) (op : request.op = .approveRefund refundId)
    (found : db.refunds.find? refundId = some refund) (requested : refund.status = .requested)
    (same : after = (db.post [refundApprovedEntry refund.bookingId refund.amountPaise]
      ).setRefundStatus refundId .approved)
  | paid (refundId : Nat) (refund : Refund) (op : request.op = .payRefund refundId)
    (found : db.refunds.find? refundId = some refund) (approved : refund.status = .approved)
    (same : after = (db.addVoucher (refundVoucher refundId refund)).setRefundStatus refundId .paid)
  | bounced (voucherId : Nat) (voucher : PaymentVoucher)
    (op : request.op = .voucherBounced voucherId)
    (found : db.vouchers.find? voucherId = some voucher) (issued : voucher.status = .issued)
    (same : after = ((db.post (voucherBouncedEntries voucher.bookingId voucher.amountPaise
      request.masters.chequeBounceChargePaise)).markBounced voucherId).reopenRefund
        voucher.refundId)

theorem Effect.refundStep {request : Request} {db after : Db} (effect : Effect request db after) :
    RefundStep request db after := by
  cases effect with
  | requestRefund found owed => exact .requested _ _ rfl owed rfl
  | approveRefund found requested => exact .approved _ _ rfl found requested rfl
  | payRefund found approved => exact .paid _ _ rfl found approved rfl
  | voucherBounced found issued => exact .bounced _ _ rfl found issued rfl
  | instantiateFromTemplate found deactivated =>
    rw [deactivateExistingPlans_frame deactivated]
    exact .foreign rfl rfl (by simp) (by simp) (by simp)
  | createCustomPlan found deactivated =>
    rw [deactivateExistingPlans_frame deactivated]
    exact .foreign rfl rfl (by simp) (by simp) (by simp)
  | raiseStage stage =>
    rcases stage with rfl | ⟨stageRaise, rfl⟩ <;>
      exact .foreign rfl rfl (by simp) (by simp) (by simp)
  | _ => exact .foreign rfl rfl (by simp) (by simp) (by simp)

/-! ### The statuses -/

structure Db.RefundLifecycle (db : Db) : Prop where
  paid : ∀ refundId refund, db.refunds.find? refundId = some refund → refund.status = .paid →
    ∃ voucherId voucher, db.vouchers.find? voucherId = some voucher ∧
      voucher.refundId = some refundId ∧ voucher.status = .issued
  issued : ∀ voucherId voucher refundId refund, db.vouchers.find? voucherId = some voucher →
    voucher.status = .issued → voucher.refundId = some refundId →
      db.refunds.find? refundId = some refund → refund.status = .paid
  unique : ∀ voucherId voucher otherId other refundId, db.vouchers.find? voucherId = some voucher →
    db.vouchers.find? otherId = some other → voucher.status = .issued → other.status = .issued →
      voucher.refundId = some refundId → other.refundId = some refundId → voucherId = otherId
  requested : ∀ voucherId voucher refundId refund, db.vouchers.find? voucherId = some voucher →
    voucher.refundId = some refundId → db.refunds.find? refundId = some refund →
      refund.status ≠ .requested

theorem refundLifecycle_empty : ({} : Db).RefundLifecycle where
  paid := by rintro refundId refund ⟨⟩
  issued := by rintro voucherId voucher refundId refund ⟨⟩
  unique := by rintro voucherId voucher otherId other refundId ⟨⟩
  requested := by rintro voucherId voucher refundId refund ⟨⟩

section Lifecycle

variable {db after : Db}

theorem Db.RefundLifecycle.of_same (lifecycle : db.RefundLifecycle)
    (refunds : after.refunds = db.refunds) (vouchers : after.vouchers = db.vouchers) :
    after.RefundLifecycle where
  paid := by
    rw [refunds, vouchers]
    exact lifecycle.paid
  issued := by
    rw [refunds, vouchers]
    exact lifecycle.issued
  unique := by
    rw [vouchers]
    exact lifecycle.unique
  requested := by
    rw [refunds, vouchers]
    exact lifecycle.requested

theorem Db.RefundLifecycle.request (lifecycle : db.RefundLifecycle) (grounded : db.Grounded)
    {refund : Refund} (isRequested : refund.status = .requested) :
    (db.addRefund refund).RefundLifecycle := by
  have unnamed : ∀ voucherId voucher, db.vouchers.find? voucherId = some voucher →
      voucher.refundId ≠ some db.refunds.nextId := by
    intro voucherId voucher found named
    obtain ⟨ofRefund, refund, sameNamed, present, _⟩ :=
      grounded.voucher_refund voucherId voucher found
    rw [named] at sameNamed
    cases sameNamed
    rw [Table.find?_nextId] at present
    cases present
  exact {
    paid := by
      intro refundId refund found isPaid
      rcases Table.find?_create_eq_some.mp found with ⟨_, rfl⟩ | old
      · rw [isRequested] at isPaid
        cases isPaid
      · exact lifecycle.paid refundId refund old isPaid
    issued := by
      intro voucherId voucher refundId refund found isIssued named refundFound
      rcases Table.find?_create_eq_some.mp refundFound with ⟨rfl, _⟩ | old
      · exact absurd named (unnamed voucherId voucher found)
      · exact lifecycle.issued voucherId voucher refundId refund found isIssued named old
    unique := lifecycle.unique
    requested := by
      intro voucherId voucher refundId refund found named refundFound
      rcases Table.find?_create_eq_some.mp refundFound with ⟨rfl, _⟩ | old
      · exact absurd named (unnamed voucherId voucher found)
      · exact lifecycle.requested voucherId voucher refundId refund found named old }

theorem Db.RefundLifecycle.approve (lifecycle : db.RefundLifecycle) {approvedId : Nat}
    {approved : Refund} (approvedFound : db.refunds.find? approvedId = some approved)
    (isRequested : approved.status = .requested) :
    (db.setRefundStatus approvedId .approved).RefundLifecycle where
  paid := by
    intro refundId refund found isPaid
    rcases Table.find?_modify_eq_some.mp found with ⟨_, before, _, rfl⟩ | ⟨_, old⟩
    · cases isPaid
    · exact lifecycle.paid refundId refund old isPaid
  issued := by
    intro voucherId voucher refundId refund found isIssued named refundFound
    rcases Table.find?_modify_eq_some.mp refundFound with ⟨rfl, before, _, _⟩ | ⟨_, old⟩
    · have wasPaid := lifecycle.issued voucherId voucher refundId approved found isIssued named
        approvedFound
      rw [isRequested] at wasPaid
      cases wasPaid
    · exact lifecycle.issued voucherId voucher refundId refund found isIssued named old
  unique := lifecycle.unique
  requested := by
    intro voucherId voucher refundId refund found named refundFound
    rcases Table.find?_modify_eq_some.mp refundFound with ⟨_, _, _, rfl⟩ | ⟨_, old⟩
    · exact nofun
    · exact lifecycle.requested voucherId voucher refundId refund found named old

theorem Db.RefundLifecycle.pay (lifecycle : db.RefundLifecycle) {paidId : Nat} {refund : Refund}
    (paidFound : db.refunds.find? paidId = some refund) (approved : refund.status = .approved) :
    ((db.addVoucher (refundVoucher paidId refund)).setRefundStatus paidId .paid).RefundLifecycle := by
  have none : ∀ voucherId voucher, db.vouchers.find? voucherId = some voucher →
      voucher.status = .issued → voucher.refundId ≠ some paidId := by
    intro voucherId voucher found isIssued named
    have wasPaid := lifecycle.issued voucherId voucher paidId refund found isIssued named paidFound
    rw [approved] at wasPaid
    cases wasPaid
  exact {
    paid := by
      intro refundId refund found isPaid
      rcases Table.find?_modify_eq_some.mp found with ⟨rfl, _, _, _⟩ | ⟨_, old⟩
      · exact ⟨db.vouchers.nextId, _, Table.find?_create_self _ _, rfl, rfl⟩
      · obtain ⟨voucherId, voucher, present, named, isIssued⟩ :=
          lifecycle.paid refundId refund old isPaid
        exact ⟨voucherId, voucher, Table.find?_create_old _ present, named, isIssued⟩
    issued := by
      intro voucherId voucher refundId refund found isIssued named refundFound
      rcases Table.find?_modify_eq_some.mp refundFound with ⟨_, before, _, rfl⟩ | ⟨different, old⟩
      · rfl
      · rcases Table.find?_create_eq_some.mp found with ⟨_, rfl⟩ | present
        · cases named
          exact absurd rfl different
        · exact lifecycle.issued voucherId voucher refundId refund present isIssued named old
    unique := by
      intro voucherId voucher otherId other refundId found otherFound isIssued otherIssued named
        otherNamed
      rcases Table.find?_create_eq_some.mp found with ⟨fresh, rfl⟩ | present
      · rcases Table.find?_create_eq_some.mp otherFound with ⟨otherFresh, _⟩ | otherPresent
        · rw [fresh, otherFresh]
        · cases named
          exact absurd otherNamed (none otherId other otherPresent otherIssued)
      · rcases Table.find?_create_eq_some.mp otherFound with ⟨_, rfl⟩ | otherPresent
        · cases otherNamed
          exact absurd named (none voucherId voucher present isIssued)
        · exact lifecycle.unique voucherId voucher otherId other refundId present otherPresent
            isIssued otherIssued named otherNamed
    requested := by
      intro voucherId voucher refundId refund found named refundFound
      rcases Table.find?_modify_eq_some.mp refundFound with ⟨_, _, _, rfl⟩ | ⟨different, old⟩
      · exact nofun
      · rcases Table.find?_create_eq_some.mp found with ⟨_, rfl⟩ | present
        · cases named
          exact absurd rfl different
        · exact lifecycle.requested voucherId voucher refundId refund present named old }

theorem Db.RefundLifecycle.bounce (lifecycle : db.RefundLifecycle) {bouncedId reopenedId : Nat}
    {bounced : PaymentVoucher} (bouncedFound : db.vouchers.find? bouncedId = some bounced)
    (isIssued : bounced.status = .issued) (named : bounced.refundId = some reopenedId) :
    ((db.markBounced bouncedId).setRefundStatus reopenedId .approved).RefundLifecycle where
  paid := by
    intro refundId refund found isPaid
    rcases Table.find?_modify_eq_some.mp found with ⟨_, _, _, rfl⟩ | ⟨different, old⟩
    · cases isPaid
    · obtain ⟨voucherId, voucher, present, ofRefund, stillIssued⟩ :=
        lifecycle.paid refundId refund old isPaid
      have other : voucherId ≠ bouncedId := by
        rintro rfl
        rw [bouncedFound] at present
        cases present
        rw [named] at ofRefund
        cases ofRefund
        exact different rfl
      refine ⟨voucherId, voucher, ?_, ofRefund, stillIssued⟩
      exact Table.find?_modify_eq_some.mpr (Or.inr ⟨other, present⟩)
  issued := by
    intro voucherId voucher refundId refund found stillIssued ofRefund refundFound
    rcases Table.find?_modify_eq_some.mp found with ⟨_, _, _, rfl⟩ | ⟨other, present⟩
    · cases stillIssued
    · rcases Table.find?_modify_eq_some.mp refundFound with ⟨rfl, _, _, _⟩ | ⟨_, old⟩
      · exact absurd (lifecycle.unique voucherId voucher bouncedId bounced refundId present
          bouncedFound stillIssued isIssued ofRefund named) other
      · exact lifecycle.issued voucherId voucher refundId refund present stillIssued ofRefund old
  unique := by
    intro voucherId voucher otherId other refundId found otherFound stillIssued otherIssued
      ofRefund otherOfRefund
    rcases Table.find?_modify_eq_some.mp found with ⟨_, _, _, rfl⟩ | ⟨_, present⟩
    · cases stillIssued
    · rcases Table.find?_modify_eq_some.mp otherFound with ⟨_, _, _, rfl⟩ | ⟨_, otherPresent⟩
      · cases otherIssued
      · exact lifecycle.unique voucherId voucher otherId other refundId present otherPresent
          stillIssued otherIssued ofRefund otherOfRefund
  requested := by
    intro voucherId voucher refundId refund found ofRefund refundFound
    rcases Table.find?_modify_eq_some.mp refundFound with ⟨_, _, _, rfl⟩ | ⟨_, old⟩
    · exact nofun
    · rcases Table.find?_modify_eq_some.mp found with ⟨_, before, present, rfl⟩ | ⟨_, present⟩
      · exact lifecycle.requested bouncedId before refundId refund present ofRefund old
      · exact lifecycle.requested voucherId voucher refundId refund present ofRefund old

theorem RefundStep.refundLifecycle {request : Request} (step : RefundStep request db after)
    (grounded : db.Grounded) (lifecycle : db.RefundLifecycle) : after.RefundLifecycle := by
  cases step with
  | foreign refunds vouchers => exact lifecycle.of_same refunds vouchers
  | requested bookingId dto op owed same =>
    subst same
    exact lifecycle.request grounded rfl
  | approved refundId refund op found requested same =>
    subst same
    exact (lifecycle.approve found requested).of_same rfl rfl
  | paid refundId refund op found approved same =>
    subst same
    exact lifecycle.pay found approved
  | bounced voucherId voucher op found issued same =>
    obtain ⟨refundId, _, named, _⟩ := grounded.voucher_refund voucherId voucher found
    rw [named] at same
    subst same
    exact (lifecycle.bounce found issued named).of_same rfl rfl

end Lifecycle

def Db.RefundSound (db : Db) : Prop := db.Sound ∧ db.RefundLifecycle

theorem exec_refundSound (request : Request) (db after : Db) (sound : db.RefundSound)
    (accepted : exec request db = .ok after) : after.RefundSound :=
  ⟨exec_sound request db after sound.1 accepted,
    (exec_effect accepted).refundStep.refundLifecycle sound.1.grounded sound.2⟩

theorem refundSound_run (inputs : List Request) : (run exec {} inputs).RefundSound :=
  (reachable_run {} inputs).invariant ⟨sound_empty, refundLifecycle_empty⟩ exec_refundSound

end OpenEstate
