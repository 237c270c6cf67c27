/-
**The post-sales system**: every operation that writes the tables of the financial core, and its
runs.

Each operation is one transaction. Settings, master rows and the clock are part of the input, so
they may be different at every step of a run. `createApplicant`, `mergeApplicant` and `createUnit`
stand for what the presales and inventory modules write here, and `setInterestRule` for whoever
sets a booking's interest rule (no service does).
-/

import OpenEstate.Postsales.Cancellation
import OpenEstate.Postsales.Interest
import OpenEstate.Postsales.PaymentPlan
import OpenEstate.Postsales.Receipt
import OpenEstate.Postsales.Refund
import OpenEstate.Postsales.Transfer
import OpenEstate.Relational.Run

namespace OpenEstate

open Relational

inductive Op
  | createApplicant
  | mergeApplicant (applicantId intoId : Nat)
  | createUnit (number : String) (projectId : Nat)
  | moveUnit (unitId : Nat) (toStatus : UnitStatus) (reason : Option String)
  | createBooking (dto : CreateBookingDto)
  | advance (bookingId : Nat) (target : BookingAdvance)
  | setInterestRule (bookingId : Nat) (ruleId : Option Nat)
  | instantiateFromTemplate (bookingId templateId : Nat)
  | createCustomPlan (bookingId : Nat) (dto : CreatePaymentPlanDto)
  | editPlan (bookingId : Nat) (dto : CreatePaymentPlanDto)
  | raiseStage (projectId : Nat) (dto : RaiseStageDto)
  | addExtraCharge (bookingId : Nat) (dto : ExtraChargeDto)
  | createReceipt (dto : CreateReceiptDto)
  | recordChequeEvent (receiptId : Nat) (status : ChequeEventStatus)
  | reverseReceipt (receiptId : Nat)
  | recordTdsCertificate (tdsDeductionId : Nat)
  | accrueForBooking (bookingId : Nat) (asOf : Option Date)
  | waiveInterest (bookingId : Nat) (dto : InterestWaiverDto)
  | requestRefund (bookingId : Nat) (dto : RequestRefundDto)
  | approveRefund (refundId : Nat)
  | payRefund (refundId : Nat)
  | voucherBounced (voucherId : Nat)
  | transfer (fromBookingId : Nat) (dto : CreateTransferDto)
  | cancel (bookingId : Nat) (dto : CancellationDto)

structure Request where
  masters : Masters := {}
  op : Op

def createApplicant (db : Db) : Db :=
  { db with applicants := db.applicants.create {} }

def createUnit (number : String) (projectId : Nat) (db : Db) : Db :=
  { db with units := db.units.create { number, projectId, status := .available } }

def mergeApplicant (applicantId intoId : Nat) (db : Db) : Db :=
  { db with
    applicants := db.applicants.modify applicantId fun row => { row with mergedIntoId := some intoId } }

def setInterestRule (bookingId : Nat) (ruleId : Option Nat) (db : Db) : Db :=
  { db with bookings := db.bookings.modify bookingId fun row => { row with interestRuleId := ruleId } }

def exec (request : Request) (db : Db) : Except ServiceError Db :=
  match request.op with
  | .createApplicant => .ok (createApplicant db)
  | .mergeApplicant applicantId intoId => .ok (mergeApplicant applicantId intoId db)
  | .createUnit number projectId => .ok (createUnit number projectId db)
  | .moveUnit unitId toStatus reason => transitionUnit unitId toStatus .user reason db
  | .createBooking dto => Prod.fst <$> createBooking request.masters dto db
  | .advance bookingId target => advance bookingId target db
  | .setInterestRule bookingId ruleId => .ok (setInterestRule bookingId ruleId db)
  | .instantiateFromTemplate bookingId templateId =>
    instantiateFromTemplate request.masters bookingId templateId db
  | .createCustomPlan bookingId dto => createCustomPlan bookingId dto db
  | .editPlan bookingId dto => editPlan bookingId dto db
  | .raiseStage projectId dto => raiseStage request.masters projectId dto db
  | .addExtraCharge bookingId dto => addExtraCharge request.masters bookingId dto db
  | .createReceipt dto => Prod.fst <$> createReceipt request.masters dto db
  | .recordChequeEvent receiptId status => recordChequeEvent request.masters receiptId status db
  | .reverseReceipt receiptId => reverseReceipt receiptId db
  | .recordTdsCertificate tdsDeductionId => recordTdsCertificate tdsDeductionId db
  | .accrueForBooking bookingId asOf => accrueForBooking request.masters bookingId asOf db
  | .waiveInterest bookingId dto => waiveInterest bookingId dto db
  | .requestRefund bookingId dto => Prod.fst <$> requestRefund bookingId dto db
  | .approveRefund refundId => approveRefund refundId db
  | .payRefund refundId => payRefund refundId db
  | .voucherBounced voucherId => voucherBounced request.masters voucherId db
  | .transfer fromBookingId dto => Prod.fst <$> transfer request.masters fromBookingId dto db
  | .cancel bookingId dto => cancel request.masters bookingId dto db

abbrev ReachableDb (db : Db) : Prop := Reachable exec {} db

/-! ### A small estate

One unit sold for 1000 to one applicant, on a schedule of one installment, in a company that
charges no GST and may withhold tax on any booking. The concrete runs of the development start
here. -/

/-- The masters of the small estate: a charge for bounced cheques, and a flat deduction as the one
cancellation rule. -/
def smallMasters (chequeBounceChargePaise deductionPaise : Int) : Masters where
  config := some { gstStateCode := some "27", chequeBounceChargePaise }
  projects := fun _ => some { areaLocationStateCode := some "27" }
  gstRateBasisPoints := fun _ => some 0
  tdsRules194IA := [{ thresholdPaise := 0, effectiveFrom := 0 }]
  cancellationRules := fun _ =>
    some { deductionType := .flat, deductionAmountPaise := some deductionPaise }

def smallBooking : CreateBookingDto where
  unitId := 0
  primaryApplicantId := 0
  bookingDate := 0
  costLines := [{ kind := .base, label := "Base", baseAmountPaise := 1000, gstRateId := some 0,
                  base_nonneg := by decide }]
  coApplicants_max := by decide
  costLines_nonempty := by simp

def smallPlan : CreatePaymentPlanDto where
  installments := [{ label := "On booking", dueDate := 0, amountPaise := some 1000,
                     amount_nonneg := by simp, percent_max := by simp, specified := by simp }]
  installments_nonempty := by simp

def smallReceipt (bookingId installmentId : Nat) (mode : ReceiptMode) (amountPaise : Int)
    (tdsDeductedPaise : Nat) : CreateReceiptDto where
  bookingId
  receiptDate := 0
  mode
  grossAmountPaise := max 1 amountPaise
  allocations := [{ installmentId, amountPaise := max 1 amountPaise, amount_pos := by omega }]
  tdsDeductedPaise
  gross_pos := by omega
  allocations_nonempty := by simp
  tds_nonneg := by omega

def smallSale : List Request :=
  [⟨{}, .createApplicant⟩, ⟨{}, .createUnit "A-101" 0⟩,
    ⟨smallMasters 0 0, .createBooking smallBooking⟩, ⟨{}, .createCustomPlan 0 smallPlan⟩]

def smallPaid : List Request :=
  smallSale ++ [⟨{}, .createReceipt (smallReceipt 0 0 .cash 1000 0)⟩]

def smallTransfer (fromBookingId toApplicantId : Nat) : Request :=
  ⟨{}, .transfer fromBookingId { transferType := .applicant, toApplicantId := some toApplicantId }⟩

def smallCancellation : Request := ⟨{}, .cancel 0 { cancellationType := .cancel }⟩

def smallRefund (bookingId : Nat) (amountPaise : Int) : Request :=
  ⟨{}, .requestRefund bookingId { amountPaise := max 1 amountPaise, amount_pos := by omega }⟩

def smallWaiver (bookingId : Nat) (amountPaise : Int) : Request :=
  ⟨{}, .waiveInterest bookingId { amountPaise := max 1 amountPaise, amount_pos := by omega }⟩

/-- The sale, paid in full and cancelled without a deduction: the company owes 1000. -/
def smallCancelled : List Request := smallPaid ++ [smallCancellation]

end OpenEstate
