/-
**Interest**: delay interest on overdue installments, and its waiver.

An accrual moves a cursor per installment, from the due date or the end of the last accrual, up to
the accrual date, and charges the days in between on what is outstanding now.
-/

import OpenEstate.Postsales.Schema

namespace OpenEstate

open Relational

def Db.priorAccruals (db : Db) (installmentId : Nat) : List (Nat × InterestAccrual) :=
  db.accruals.select fun _ accrual => accrual.installmentId = installmentId

/-- The latest end of the earlier accruals of an installment, its due date when there is none. -/
def Db.accrualCursor (db : Db) (installmentId : Nat) (dueDate : Date) : Date :=
  match (db.priorAccruals installmentId).map (·.2.periodEnd) with
  | [] => dueDate
  | first :: rest => rest.foldl max first

/-- What interest is charged on: compound interest also counts what was charged before. -/
def InterestRule.base (rule : InterestRule) (outstanding accruedSoFar : Int) : Int :=
  if rule.rateType = .compound then outstanding + accruedSoFar else outstanding

def Db.addAccrual (db : Db) (accrual : InterestAccrual) : Db :=
  { db with accruals := db.accruals.create accrual }

def interestEntry (bookingId installmentId : Nat) (amountPaise : Int) : LedgerEntry :=
  { bookingId
    entryType := .interest
    signedAmountPaise := amountPaise
    installmentId := some installmentId }

def Db.interestBase (db : Db) (rule : InterestRule) (row : Nat × Installment) : Int :=
  rule.base (row.2.amountPaise - row.2.allocatedPaise)
    ((db.priorAccruals row.1).map (·.2.accruedPaise)).sum

def Db.uncharged (db : Db) (asOf : Date) (row : Nat × Installment) : Int :=
  daysBetween (db.accrualCursor row.1 (row.2.dueDate.getD asOf)) asOf

def Db.newInterest (db : Db) (rule : InterestRule) (asOf : Date) (row : Nat × Installment) : Int :=
  roundedDiv (db.interestBase rule row * rule.rateBasisPoints * db.uncharged asOf row) (365 * 10000)

def Db.accrues (db : Db) (rule : InterestRule) (asOf : Date) (row : Nat × Installment) : Prop :=
  0 < row.2.amountPaise - row.2.allocatedPaise ∧ 0 < db.uncharged asOf row ∧
    0 < db.newInterest rule asOf row

instance (db : Db) (rule : InterestRule) (asOf : Date) (row : Nat × Installment) :
    Decidable (db.accrues rule asOf row) :=
  inferInstanceAs (Decidable (_ ∧ _ ∧ _))

def accrueInstallment (rule : InterestRule) (bookingId : Nat) (asOf : Date) (db : Db)
    (row : Nat × Installment) : Db :=
  if db.accrues rule asOf row then
    (db.post [interestEntry bookingId row.1 (db.newInterest rule asOf row)]).addAccrual
      { bookingId
        installmentId := row.1
        periodStart := db.accrualCursor row.1 (row.2.dueDate.getD asOf)
        periodEnd := toUtcMidnight asOf
        principalPaise := db.interestBase rule row
        accruedPaise := db.newInterest rule asOf row
        ledgerEntryId := db.ledger.nextId }
  else db

/-- The installments an accrual looks at. The due date is a date column, compared by day; one that
is not due yet has none. -/
def Db.overdue (db : Db) (bookingId : Nat) (asOf : Date) : List (Nat × Installment) :=
  db.installments.select fun _ inst =>
    inst.bookingId = bookingId ∧ inst.isActive ∧ inst.dueDate.any (· < toUtcMidnight asOf)

def accrueForBooking (masters : Masters) (bookingId : Nat) (asOf : Option Date) (db : Db) :
    Except ServiceError Db := do
  let now := asOf.getD masters.now
  let booking ← orThrow (db.bookings.find? bookingId) (.notFound "Booking not found")
  match booking.interestRuleId.bind masters.interestRules with
  | none => return db
  | some rule => return (db.overdue bookingId now).foldl (accrueInstallment rule bookingId now) db

def interestWaiverEntry (bookingId : Nat) (amountPaise : Int) : LedgerEntry :=
  { bookingId
    entryType := .interestWaiver
    signedAmountPaise := -amountPaise }

/-- Waive interest: a credit of any amount, which leaves the accruals alone. -/
def waiveInterest (bookingId : Nat) (dto : InterestWaiverDto) (db : Db) :
    Except ServiceError Db := do
  let _ ← orThrow (db.bookings.find? bookingId) (.notFound "Booking not found")
  return db.post [interestWaiverEntry bookingId dto.amountPaise]

/-! ### What an accepted call checked and did -/

theorem accrueForBooking_eq_ok {masters : Masters} {bookingId : Nat} {asOf : Option Date}
    {db after : Db} (accepted : accrueForBooking masters bookingId asOf db = .ok after) :
    ∃ booking, db.bookings.find? bookingId = some booking ∧
      (booking.interestRuleId.bind masters.interestRules = none ∧ after = db ∨ ∃ rule, booking.interestRuleId.bind masters.interestRules = some rule ∧
        after = (db.overdue bookingId (asOf.getD masters.now)).foldl
          (accrueInstallment rule bookingId (asOf.getD masters.now)) db) := by
  simp only [accrueForBooking, bind_eq_ok, orThrow_eq_ok] at accepted
  obtain ⟨booking, found, done⟩ := accepted
  refine ⟨booking, found, ?_⟩
  split at done
  · rename_i none
    rw [pure_eq_ok] at done
    exact Or.inl ⟨none, done.symm⟩
  · rename_i rule named
    rw [pure_eq_ok] at done
    exact Or.inr ⟨rule, named, done.symm⟩

theorem accrueInstallment_eq (rule : InterestRule) (bookingId : Nat) (asOf : Date) (db : Db)
    (row : Nat × Installment) :
    accrueInstallment rule bookingId asOf db row = db ∨
      ∃ amount accrual, 0 < amount ∧ accrual.installmentId = row.1 ∧ accrual.accruedPaise = amount ∧
        accrueInstallment rule bookingId asOf db row =
          (db.post [interestEntry bookingId row.1 amount]).addAccrual accrual := by
  unfold accrueInstallment
  split
  · rename_i owed
    exact Or.inr ⟨_, _, owed.2.2, rfl, rfl, rfl⟩
  · exact Or.inl rfl

theorem waiveInterest_eq_ok {bookingId : Nat} {dto : InterestWaiverDto} {db after : Db}
    (accepted : waiveInterest bookingId dto db = .ok after) :
    ∃ booking, db.bookings.find? bookingId = some booking ∧
      after = db.post [interestWaiverEntry bookingId dto.amountPaise] := by
  simp only [waiveInterest, bind_eq_ok, orThrow_eq_ok, pure_eq_ok] at accepted
  obtain ⟨booking, found, rfl⟩ := accepted
  exact ⟨booking, found, rfl⟩

end OpenEstate
