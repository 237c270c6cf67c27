/-
**The tables of the financial core.**

One company's rows, as its transactions see them: every query is confined to the company by the
row-level security of the connection, so the company column is left out, and so are columns that
no modelled service reads (document numbers, reasons, remarks, who created a row).

* `Books` are the tables a receipt touches, plus the ledger itself: receipts, their allocations,
  the installments with their cached allocation, the append-only ledger, and the TDS rows;
* `Db` adds bookings, plans, units and everything that is booked on the side;
* `Masters` are the settings and master rows a transaction reads. They are edited elsewhere, so a
  run may meet different ones at every step.

A booking's balance is the sum of its signed ledger amounts (`Books.balance`); there is no stored
balance. Every financial event appends entries, and a correction appends negating entries that name
what they reverse in `reversalOfEntryId`.
-/

import OpenEstate.Relational.Table
import OpenEstate.Shared.Finance
import OpenEstate.Shared.Inventory

namespace OpenEstate

open Relational

/-! ### Rows -/

structure EstateUnit where
  number : String
  projectId : Nat
  status : UnitStatus

structure Applicant where
  mergedIntoId : Option Nat := none

structure Booking where
  unitId : Nat
  primaryApplicantId : Nat
  coApplicantIds : List Nat := []
  status : BookingStatus
  agreedPricePaise : Int
  placeOfSupplyStateCode : Option String
  paymentPlanTemplateId : Option Nat
  interestRuleId : Option Nat := none
  bookingDate : Date

structure PaymentPlan where
  bookingId : Nat
  templateId : Option Nat := none
  isActive : Bool := true

structure Installment where
  bookingId : Nat
  planId : Nat
  seq : Nat
  label : String
  milestoneType : MilestoneType
  milestoneSeq : Option Nat := none
  dueDate : Option Date
  amountPaise : Int
  allocatedPaise : Int := 0
  status : InstallmentStatus := .unpaid
  isActive : Bool := true
  stageRaiseId : Option Nat := none

/-- One line of the append-only ledger. A positive amount is a debit (the customer owes), a
negative one a credit. -/
structure LedgerEntry where
  bookingId : Nat
  entryType : LedgerEntryType
  signedAmountPaise : Int
  installmentId : Option Nat := none
  receiptId : Option Nat := none
  reversalOfEntryId : Option Nat := none

structure Receipt where
  bookingId : Nat
  receiptDate : Date
  mode : ReceiptMode
  grossAmountPaise : Int
  clearanceStatus : ChequeClearanceStatus
  isReversed : Bool := false

structure ReceiptAllocation where
  receiptId : Nat
  installmentId : Nat
  amountPaise : Int

structure TdsDeduction where
  bookingId : Nat
  receiptId : Nat
  deductedPaise : Int
  receivableLedgerEntryId : Nat

structure TdsCertificate where
  tdsDeductionId : Nat
  adjustmentLedgerEntryId : Nat

structure InterestAccrual where
  bookingId : Nat
  installmentId : Nat
  periodStart : Date
  periodEnd : Date
  principalPaise : Int
  accruedPaise : Int
  ledgerEntryId : Nat

structure StageRaise where
  projectId : Nat
  templateId : Nat
  milestoneSeq : Nat
  stageCompletedOn : Date

structure Refund where
  bookingId : Nat
  amountPaise : Int
  status : RefundStatus

structure PaymentVoucher where
  bookingId : Nat
  refundId : Option Nat
  amountPaise : Int
  status : VoucherStatus

structure Transfer where
  fromBookingId : Nat
  toBookingId : Nat
  transferType : TransferType
  transferFeePaise : Int
  carryForwardPaise : Int

structure Cancellation where
  bookingId : Nat
  cancellationType : CancellationType
  deductionPaise : Int
  refundablePaise : Int

/-! ### Tables -/

structure Books where
  receipts : Table Receipt := .empty
  allocations : Table ReceiptAllocation := .empty
  installments : Table Installment := .empty
  ledger : Table LedgerEntry := .empty
  tdsDeductions : Table TdsDeduction := .empty
  tdsCertificates : Table TdsCertificate := .empty

structure Db extends Books where
  units : Table EstateUnit := .empty
  applicants : Table Applicant := .empty
  bookings : Table Booking := .empty
  plans : Table PaymentPlan := .empty
  stageRaises : Table StageRaise := .empty
  accruals : Table InterestAccrual := .empty
  refunds : Table Refund := .empty
  vouchers : Table PaymentVoucher := .empty
  transfers : Table Transfer := .empty
  cancellations : Table Cancellation := .empty

/-! ### Settings and master rows -/

structure CompanyConfig where
  gstStateCode : Option String := none
  chequeBounceChargePaise : Int := 0
  fyStartMonth : Nat := 4

structure Project where
  areaLocationStateCode : Option String := none

structure ChargeType where
  gstRateId : Option Nat := none

structure TdsRule where
  thresholdPaise : Int
  effectiveFrom : Date
  effectiveTo : Option Date := none

inductive DeductionType
  | percent | flat
  deriving DecidableEq

/-- Percentages of master rows are in basis points, to which the services round them. -/
structure CancellationRule where
  deductionType : DeductionType
  deductionBasisPoints : Option Int := none
  deductionAmountPaise : Option Int := none
  forfeitBookingAmount : Bool := false

inductive FeeType
  | fixed | percentage
  deriving DecidableEq

structure TransferFeeRule where
  feeType : FeeType
  amountPaise : Option Int := none
  basisPoints : Option Int := none

structure InterestRule where
  rateType : InterestRateType
  rateBasisPoints : Nat

structure PaymentPlanMilestone where
  seq : Nat
  label : String
  percent : Nat
  milestoneType : MilestoneType
  dueOffsetDays : Int := 0
  graceDaysAfterRaise : Int := 0

structure PaymentPlanTemplate where
  milestones : List PaymentPlanMilestone
  ascending : milestones.Pairwise fun first second => first.seq < second.seq

/-- What a transaction reads besides the tables: the settings, the master rows, and the clock. -/
structure Masters where
  config : Option CompanyConfig := none
  projects : Nat → Option Project := fun _ => none
  chargeTypes : Nat → Option ChargeType := fun _ => none
  gstRateBasisPoints : Nat → Option Nat := fun _ => none
  tdsRules194IA : List TdsRule := []
  cancellationRules : Nat → Option CancellationRule := fun _ => none
  transferFeeRules : Nat → Option TransferFeeRule := fun _ => none
  interestRules : Nat → Option InterestRule := fun _ => none
  templates : Nat → Option PaymentPlanTemplate := fun _ => none
  now : Date := 0

/-- The charge for a bounced cheque, nothing when the company has no settings. -/
def Masters.chequeBounceChargePaise (masters : Masters) : Int :=
  (masters.config.map (·.chequeBounceChargePaise)).getD 0

/-- The month financial years start in, April when the company has no settings. -/
def Masters.fyStartMonth (masters : Masters) : Nat :=
  (masters.config.map (·.fyStartMonth)).getD 4

/-! ### The append-only ledger -/

def Books.post (books : Books) (entries : List LedgerEntry) : Books :=
  { books with ledger := books.ledger.createMany entries }

def Db.post (db : Db) (entries : List LedgerEntry) : Db :=
  { db with toBooks := db.toBooks.post entries }

def LedgerEntry.amountIf (entry : LedgerEntry) (counted : Bool) : Int :=
  if counted then entry.signedAmountPaise else 0

def Books.sumWhere (books : Books) (counted : LedgerEntry → Bool) : Int :=
  books.ledger.sum fun _ entry => entry.amountIf (counted entry)

/-- A booking's balance: positive when the customer owes, negative when the company does. -/
def Books.balance (books : Books) (bookingId : Nat) : Int :=
  books.sumWhere fun entry => entry.bookingId = bookingId

def Books.owedToCustomer (books : Books) (bookingId : Nat) : Int :=
  if books.balance bookingId < 0 then -books.balance bookingId else 0

def sumEntries (entries : List LedgerEntry) (counted : LedgerEntry → Bool) : Int :=
  (entries.map fun entry => entry.amountIf (counted entry)).sum

@[simp] theorem sumEntries_nil (counted : LedgerEntry → Bool) : sumEntries [] counted = 0 := rfl

@[simp] theorem sumEntries_cons (entry : LedgerEntry) (entries : List LedgerEntry)
    (counted : LedgerEntry → Bool) :
    sumEntries (entry :: entries) counted =
      entry.amountIf (counted entry) + sumEntries entries counted :=
  List.sum_cons

@[simp] theorem sumEntries_append (first second : List LedgerEntry) (counted : LedgerEntry → Bool) :
    sumEntries (first ++ second) counted = sumEntries first counted + sumEntries second counted := by
  simp [sumEntries]

theorem sumEntries_eq_zero {entries : List LedgerEntry} {counted : LedgerEntry → Bool}
    (uncounted : ∀ entry ∈ entries, counted entry = false) : sumEntries entries counted = 0 := by
  refine List.sum_eq_zero fun amount member => ?_
  obtain ⟨entry, inside, rfl⟩ := List.mem_map.mp member
  rw [uncounted entry inside]
  rfl

end OpenEstate
