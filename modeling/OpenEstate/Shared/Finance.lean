/-
**Finance vocabulary**: the enumerations of the financial core, and the request bodies its
endpoints accept.

A request body carries, as fields, what its schema validates (`grossAmountPaise` at least one,
a non-empty list of allocations, and so on), so a service is only ever given a body the schema
lets through. Columns and fields that no service reads back (instrument numbers, remarks, who
created a row) are left out.
-/

import OpenEstate.Shared.Money

namespace OpenEstate

abbrev Date := Int

def dayMs : Int := 86400000

def toUtcMidnight (date : Date) : Date := date / dayMs * dayMs

def daysBetween (start finish : Date) : Int :=
  (toUtcMidnight finish - toUtcMidnight start) / dayMs

def addDays (date : Date) (days : Int) : Date := date + days * dayMs

/-! ### Enumerations -/

inductive BookingStatus
  | application | booked | allotted | registered | cancelled | surrendered | transferredOut
  deriving DecidableEq

def BookingStatus.text : BookingStatus → String
  | .application => "APPLICATION"
  | .booked => "BOOKED"
  | .allotted => "ALLOTTED"
  | .registered => "REGISTERED"
  | .cancelled => "CANCELLED"
  | .surrendered => "SURRENDERED"
  | .transferredOut => "TRANSFERRED_OUT"

inductive LedgerEntryType
  | charge | extraCharge | receiptAlloc | interest | interestWaiver | bounceReversal | bounceCharge
  | refundApproved | refundBounceReversal | transferCarryOut | transferCarryIn | transferFee
  | cancellationSettlement | cancellationDeduction | tdsReceivable | tdsCertAdjustment | adjustment
  deriving DecidableEq

inductive ReceiptMode
  | cash | cheque | dd | neft | rtgs | upi | card
  deriving DecidableEq

inductive ChequeClearanceStatus
  | notApplicable | received | deposited | cleared | bounced
  deriving DecidableEq

inductive InstallmentStatus
  | unpaid | partPaid | paid
  deriving DecidableEq

inductive MilestoneType
  | dateLinked | stageLinked
  deriving DecidableEq

inductive CostLineKind
  | base | plc | parking | club | maintenance | other
  deriving DecidableEq

inductive RefundStatus
  | requested | approved | paid | rejected
  deriving DecidableEq

def RefundStatus.text : RefundStatus → String
  | .requested => "REQUESTED"
  | .approved => "APPROVED"
  | .paid => "PAID"
  | .rejected => "REJECTED"

inductive VoucherStatus
  | issued | cleared | bounced
  deriving DecidableEq

def VoucherStatus.text : VoucherStatus → String
  | .issued => "ISSUED"
  | .cleared => "CLEARED"
  | .bounced => "BOUNCED"

inductive CancellationType
  | cancel | surrender
  deriving DecidableEq

inductive TransferType
  | unit | applicant
  deriving DecidableEq

inductive InterestRateType
  | simple | compound
  deriving DecidableEq

/-! ### Place of supply -/

/-- Whether a state code is set: the check refuses an empty text like a missing one. -/
def stateCodeSet (code : Option String) : Bool :=
  match code with
  | none => false
  | some text => text != ""

def isIntraStateSupply (companyStateCode placeOfSupplyStateCode : Option String) :
    Except ServiceError Bool := do
  Relational.ensure (stateCodeSet companyStateCode = true) (.badRequest
    "Cannot determine GST treatment: the company's GST state code is not set")
  Relational.ensure (stateCodeSet placeOfSupplyStateCode = true) (.badRequest
    "Cannot determine GST treatment: the place-of-supply state code is not set")
  return companyStateCode = placeOfSupplyStateCode

/-! ### Request bodies -/

structure BookingCostLineInput where
  kind : CostLineKind
  chargeTypeId : Option Nat := none
  label : String
  baseAmountPaise : Int
  gstRateId : Option Nat := none
  base_nonneg : 0 ≤ baseAmountPaise

structure CreateBookingDto where
  unitId : Nat
  primaryApplicantId : Nat
  coApplicantIds : List Nat := []
  bookingDate : Date
  placeOfSupplyStateCode : Option String := none
  paymentPlanTemplateId : Option Nat := none
  costLines : List BookingCostLineInput
  coApplicants_max : coApplicantIds.length ≤ 5
  costLines_nonempty : costLines ≠ []

/-- One installment of a custom schedule. `milestonePercent` is in thousandths of a percent, the
unit the service rounds the submitted percentage to. -/
structure InstallmentInput where
  label : String
  dueDate : Date
  amountPaise : Option Int := none
  milestonePercent : Option Nat := none
  amount_nonneg : ∀ amount, amountPaise = some amount → 0 ≤ amount
  percent_max : ∀ percent, milestonePercent = some percent → percent ≤ 100000
  specified : amountPaise.isSome ∨ milestonePercent.isSome

structure CreatePaymentPlanDto where
  installments : List InstallmentInput
  installments_nonempty : installments ≠ []

structure RaiseStageDto where
  templateId : Nat
  milestoneSeq : Nat
  stageCompletedOn : Date
  seq_pos : 1 ≤ milestoneSeq

structure ReceiptAllocationInput where
  installmentId : Nat
  amountPaise : Int
  amount_pos : 1 ≤ amountPaise

structure CreateReceiptDto where
  bookingId : Nat
  receiptDate : Date
  mode : ReceiptMode
  grossAmountPaise : Int
  allocations : List ReceiptAllocationInput
  tdsDeductedPaise : Int := 0
  gross_pos : 1 ≤ grossAmountPaise
  allocations_nonempty : allocations ≠ []
  tds_nonneg : 0 ≤ tdsDeductedPaise

inductive ChequeEventStatus
  | deposited | cleared | bounced
  deriving DecidableEq

def ChequeEventStatus.clearance : ChequeEventStatus → ChequeClearanceStatus
  | .deposited => .deposited
  | .cleared => .cleared
  | .bounced => .bounced

structure ExtraChargeDto where
  chargeTypeId : Option Nat := none
  baseAmountPaise : Int
  gstRateId : Option Nat := none
  base_nonneg : 0 ≤ baseAmountPaise

structure InterestWaiverDto where
  amountPaise : Int
  amount_pos : 1 ≤ amountPaise

structure CreateTransferDto where
  transferType : TransferType
  toUnitId : Option Nat := none
  toApplicantId : Option Nat := none
  transferFeeRuleId : Option Nat := none

structure CancellationDto where
  cancellationType : CancellationType
  cancellationRuleId : Option Nat := none

structure RequestRefundDto where
  amountPaise : Int
  amount_pos : 1 ≤ amountPaise

end OpenEstate
