/-
**The tables of the commission engine.**

A booking sourced by a broker has one snapshot of its total commission, taken at the first accrual,
and an append-only commission ledger of its own. Rules and the accrual trigger are edited in place
and read afresh at every evaluation. `CommissionDb` adds these tables to the financial core, with
the broker of each booking, the column of `bookings` that only this engine reads.
-/

import OpenEstate.Postsales.Schema

namespace OpenEstate

open Relational

/-! ### Enumerations -/

inductive CommissionEntryType
  | accrual | tdsWithheld | payment | clawbackReversal | clawbackRecovery | clawbackWriteoff
  deriving DecidableEq

inductive CommissionPaymentStatus
  | requested | approved | paid | rejected
  deriving DecidableEq

def CommissionPaymentStatus.text : CommissionPaymentStatus → String
  | .requested => "REQUESTED"
  | .approved => "APPROVED"
  | .paid => "PAID"
  | .rejected => "REJECTED"

inductive CommissionType
  | flatPercent | flatAmount | slab
  deriving DecidableEq

inductive CommissionAccrualTrigger
  | onBooking | onCollectionMilestone
  deriving DecidableEq

/-! ### Rows -/

/-- Collection percentages at which commission accrues, as the schema of a rule lets them in. -/
structure CommissionMilestones where
  percents : List Nat
  nonempty : percents ≠ []
  inRange : ∀ percent ∈ percents, 1 ≤ percent ∧ percent ≤ 100
  ascending : percents.Pairwise (· < ·)

structure BrokerCommissionSlab where
  seq : Nat
  fromPaise : Int
  toPaise : Option Int := none
  rateBasisPoints : Nat

structure BrokerCommissionRule where
  brokerId : Nat
  projectId : Option Nat := none
  commissionType : CommissionType
  flatBasisPoints : Option Nat := none
  flatPaise : Option Int := none
  milestones : Option CommissionMilestones := none
  slabs : List BrokerCommissionSlab := []
  isActive : Bool := true
  flat_nonneg : ∀ paise, flatPaise = some paise → 0 ≤ paise

structure BrokerBookingCommission where
  bookingId : Nat
  brokerId : Nat
  ruleId : Nat
  totalCommissionPaise : Int

/-- One line of the commission ledger. A positive amount is owed to the broker. -/
structure CommissionLedgerEntry where
  brokerId : Nat
  bookingId : Nat
  entryType : CommissionEntryType
  signedAmountPaise : Int
  milestonePercent : Option Nat := none

structure CommissionPayment where
  brokerId : Nat
  amountPaise : Int
  status : CommissionPaymentStatus

structure BrokerTdsRule extends TdsRule where
  rateBasisPoints : Int
  rate_nonneg : 0 ≤ rateBasisPoints
  rate_max : rateBasisPoints ≤ 10000

/-! ### Tables -/

structure CommissionDb extends Db where
  brokerOf : Nat → Option Nat := fun _ => none
  accrualTrigger : Option CommissionAccrualTrigger := none
  rules : Table BrokerCommissionRule := .empty
  snapshots : Table BrokerBookingCommission := .empty
  commissionLedger : Table CommissionLedgerEntry := .empty
  commissionPayments : Table CommissionPayment := .empty

structure CommissionMasters extends Masters where
  tdsRules194H : List BrokerTdsRule := []

def CommissionDb.onDb (db : CommissionDb) (change : Db → Db) : CommissionDb :=
  { db with toDb := change db.toDb }

def CommissionDb.postCommission (db : CommissionDb) (entries : List CommissionLedgerEntry) :
    CommissionDb :=
  { db with commissionLedger := db.commissionLedger.createMany entries }

end OpenEstate
