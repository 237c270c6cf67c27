/-
**Receipts**: entering one, the life of a cheque, cancelling a receipt, and the TDS certificate.

A receipt posts one `receiptAlloc` credit per allocation line and raises the installments' cached
allocation; tax withheld on it is posted as a `tdsReceivable` debit, which a certificate credits
back. A bounced cheque and a cancelled receipt both go through `reverseReceiptLedger`, which posts
a negating entry for every credit and debit of the receipt that has none yet.
-/

import OpenEstate.Postsales.Schema

namespace OpenEstate

open Relational

def chequeLike : ReceiptMode → Bool
  | .cheque => true
  | .dd => true
  | _ => false

/-! ### The installment cache -/

def installmentStatus (amountPaise allocatedPaise : Int) : InstallmentStatus :=
  if allocatedPaise ≥ amountPaise then .paid
  else if 0 < allocatedPaise then .partPaid
  else .unpaid

/-- An installment with its allocation changed by `delta` and its status recomputed. -/
def Installment.bump (installment : Installment) (delta : Int) : Installment :=
  let allocated := installment.allocatedPaise + delta
  { installment with
    allocatedPaise := allocated
    status := installmentStatus installment.amountPaise allocated }

/-- Adjust an installment's allocation; an installment that is not there is left alone. -/
def Books.bumpInstallment (books : Books) (installmentId : Nat) (delta : Int) : Books :=
  { books with installments := books.installments.modify installmentId (·.bump delta) }

/-! ### Entering a receipt -/

/-- Add an amount to the running total kept under a key, in order of first use. -/
def addToTotal (totals : List (Nat × Int)) (key : Nat) (amount : Int) : List (Nat × Int) :=
  match totals with
  | [] => [(key, amount)]
  | (existing, total) :: rest =>
    if existing = key then (existing, total + amount) :: rest
    else (existing, total) :: addToTotal rest key amount

def addByInst (allocations : List ReceiptAllocationInput) : List (Nat × Int) :=
  allocations.foldl (fun totals a => addToTotal totals a.installmentId a.amountPaise) []

/-- The rule in force on a date: the latest one that has started and has not ended. The columns
are date columns, which the database compares by day. -/
def effectiveTdsRule (masters : Masters) (date : Date) : Option TdsRule :=
  (masters.tdsRules194IA.filter fun rule =>
      rule.effectiveFrom ≤ toUtcMidnight date ∧
        ∀ last ∈ rule.effectiveTo, toUtcMidnight date ≤ last).foldl
    (fun latest rule => match latest with
      | none => some rule
      | some best => if best.effectiveFrom < rule.effectiveFrom then some rule else latest) none

/-- The installment an allocation line names, if it belongs to the booking. -/
def Books.installmentOf (books : Books) (bookingId installmentId : Nat) : Option Installment :=
  (books.installments.find? installmentId).filter fun inst => inst.bookingId = bookingId

def checkAllocation (books : Books) (bookingId : Nat) (a : ReceiptAllocationInput) :
    Except ServiceError Unit := do
  let inst ← orThrow (books.installmentOf bookingId a.installmentId)
    (.notFound s!"Installment {a.installmentId} not found on this booking")
  ensure (inst.dueDate ≠ none) (.badRequest
    s!"Installment {a.installmentId} has not been raised yet — it cannot receive an allocation")

/-- The lines of a receipt together must not exceed an installment's amount. -/
def checkTotal (books : Books) (bookingId : Nat) (total : Nat × Int) :
    Except ServiceError Unit := do
  let inst ← orThrow (books.installmentOf bookingId total.1)
    (.notFound s!"Installment {total.1} not found on this booking")
  ensure (inst.allocatedPaise + total.2 ≤ inst.amountPaise) (.badRequest
    s!"Allocation to installment {total.1} ({inst.allocatedPaise + total.2}) exceeds its amount ({inst.amountPaise})")

/-- Tax may only be withheld when a rule is in force and the price reaches its threshold. -/
def checkTds (masters : Masters) (dto : CreateReceiptDto) (booking : Booking) :
    Except ServiceError Unit := do
  if 0 < dto.tdsDeductedPaise then
    let rule ← orThrow (effectiveTdsRule masters dto.receiptDate)
      (.badRequest "No effective 194-IA TDS rule configured")
    ensure (rule.thresholdPaise ≤ booking.agreedPricePaise)
      (.badRequest "Booking is below the TDS threshold; no TDS should be deducted")

def allocationEntry (bookingId receiptId : Nat) (a : ReceiptAllocationInput) : LedgerEntry :=
  { bookingId
    entryType := .receiptAlloc
    signedAmountPaise := -a.amountPaise
    installmentId := some a.installmentId
    receiptId := some receiptId }

def allocationRow (receiptId : Nat) (a : ReceiptAllocationInput) : ReceiptAllocation :=
  { receiptId
    installmentId := a.installmentId
    amountPaise := a.amountPaise }

def Books.recordAllocation (books : Books) (bookingId receiptId : Nat)
    (a : ReceiptAllocationInput) : Books :=
  Books.post { books with allocations := books.allocations.create (allocationRow receiptId a) }
    [allocationEntry bookingId receiptId a]

/-- The debit that keeps withheld tax visible until its certificate is recorded. -/
def tdsReceivableEntry (bookingId receiptId : Nat) (tdsDeductedPaise : Int) : LedgerEntry :=
  { bookingId
    entryType := .tdsReceivable
    signedAmountPaise := tdsDeductedPaise
    receiptId := some receiptId }

/-- Record the tax withheld on a receipt: the receivable and the deduction that names it. -/
def Books.recordTds (books : Books) (bookingId receiptId : Nat) (tdsDeductedPaise : Int) : Books :=
  if 0 < tdsDeductedPaise then
    let posted := books.post [tdsReceivableEntry bookingId receiptId tdsDeductedPaise]
    { posted with
      tdsDeductions := posted.tdsDeductions.create
        { bookingId
          receiptId
          deductedPaise := tdsDeductedPaise
          receivableLedgerEntryId := books.ledger.nextId } }
  else books

def receiptRow (dto : CreateReceiptDto) : Receipt :=
  { bookingId := dto.bookingId
    receiptDate := toUtcMidnight dto.receiptDate
    mode := dto.mode
    grossAmountPaise := dto.grossAmountPaise
    clearanceStatus := if chequeLike dto.mode then .received else .notApplicable }

def Books.recordReceipt (books : Books) (dto : CreateReceiptDto) : Books :=
  let receiptId := books.receipts.nextId
  let created : Books := { books with receipts := books.receipts.create (receiptRow dto) }
  let allocated := dto.allocations.foldl
    (fun books a => books.recordAllocation dto.bookingId receiptId a) created
  let bumped := (addByInst dto.allocations).foldl
    (fun books total => books.bumpInstallment total.1 total.2) allocated
  bumped.recordTds dto.bookingId receiptId dto.tdsDeductedPaise

def createReceipt (masters : Masters) (dto : CreateReceiptDto) (db : Db) :
    Except ServiceError (Db × Nat) := do
  let allocTotal := (dto.allocations.map (·.amountPaise)).sum
  ensure (allocTotal = dto.grossAmountPaise) (.badRequest
    s!"Allocations ({allocTotal}) must sum to the gross amount ({dto.grossAmountPaise})")
  ensure (dto.tdsDeductedPaise ≤ dto.grossAmountPaise)
    (.badRequest "TDS deducted cannot exceed the gross amount")
  let booking ← orThrow (db.bookings.find? dto.bookingId) (.notFound "Booking not found")
  forEach dto.allocations (checkAllocation db.toBooks dto.bookingId)
  forEach (addByInst dto.allocations) (checkTotal db.toBooks dto.bookingId)
  checkTds masters dto booking
  return ({ db with toBooks := db.toBooks.recordReceipt dto }, db.receipts.nextId)

/-! ### Undoing a receipt -/

def LedgerEntry.isOwnOf (entry : LedgerEntry) (receiptId : Nat) : Bool :=
  entry.receiptId = some receiptId ∧
    (entry.entryType = .receiptAlloc ∨ entry.entryType = .tdsReceivable)

def Books.alreadyReversed (books : Books) (entryId : Nat) : Bool :=
  books.ledger.any fun _ entry => entry.reversalOfEntryId = some entryId

def reversalEntry (receiptId : Nat) (receipt : Receipt) (reversalType : LedgerEntryType)
    (row : Nat × LedgerEntry) : LedgerEntry :=
  { bookingId := receipt.bookingId
    entryType := reversalType
    signedAmountPaise := -row.2.signedAmountPaise
    installmentId := row.2.installmentId
    receiptId := some receiptId
    reversalOfEntryId := some row.1 }

/-- Reverse one entry of a receipt: post its negation, and take a credit back from the
installment it was allocated to. -/
def Books.reverseEntry (books : Books) (receiptId : Nat) (receipt : Receipt)
    (reversalType : LedgerEntryType) (row : Nat × LedgerEntry) : Books :=
  let posted := books.post [reversalEntry receiptId receipt reversalType row]
  match row.2.entryType, row.2.installmentId with
  | .receiptAlloc, some installmentId => posted.bumpInstallment installmentId row.2.signedAmountPaise
  | _, _ => posted

def bounceChargeEntry (bookingId receiptId : Nat) (bounceChargePaise : Int) : LedgerEntry :=
  { bookingId
    entryType := .bounceCharge
    signedAmountPaise := bounceChargePaise
    receiptId := some receiptId }

def Books.pendingEntries (books : Books) (receiptId : Nat) : List (Nat × LedgerEntry) :=
  (books.ledger.select fun _ entry => entry.isOwnOf receiptId).filter
    fun row => !books.alreadyReversed row.1

/-- Reverse whatever of a receipt's own entries has no reversal yet, and charge for a bounce. -/
def Books.reverseReceiptLedger (books : Books) (receiptId : Nat) (receipt : Receipt)
    (reversalType : LedgerEntryType) (bounceChargePaise : Int) : Books :=
  let reversed := (books.pendingEntries receiptId).foldl
    (fun books row => books.reverseEntry receiptId receipt reversalType row) books
  if 0 < bounceChargePaise then
    reversed.post [bounceChargeEntry receipt.bookingId receiptId bounceChargePaise]
  else reversed

def Books.recordClearance (books : Books) (receiptId : Nat) (status : ChequeEventStatus) : Books :=
  { books with
    receipts := books.receipts.modify receiptId fun row =>
      { row with
        clearanceStatus := status.clearance
        isReversed := if status = .bounced then true else row.isReversed } }

def Books.markReversed (books : Books) (receiptId : Nat) : Books :=
  { books with
    receipts := books.receipts.modify receiptId fun row => { row with isReversed := true } }

/-- Advance a cheque through its life; a bounce reverses the receipt and charges for it. -/
def recordChequeEvent (masters : Masters) (receiptId : Nat) (status : ChequeEventStatus) (db : Db) :
    Except ServiceError Db := do
  let receipt ← orThrow (db.receipts.find? receiptId) (.notFound "Receipt not found")
  ensure (chequeLike receipt.mode = true)
    (.badRequest "Cheque events only apply to cheque/DD receipts")
  ensure (receipt.clearanceStatus ≠ .cleared ∧ receipt.clearanceStatus ≠ .bounced)
    (.conflict (if receipt.clearanceStatus = .cleared then "Cheque is already CLEARED"
      else "Cheque is already BOUNCED"))
  let updated := db.toBooks.recordClearance receiptId status
  if status = .bounced then
    let bounced := updated.reverseReceiptLedger receiptId receipt .bounceReversal
      masters.chequeBounceChargePaise
    return { db with toBooks := bounced }
  return { db with toBooks := updated }

def reverseReceipt (receiptId : Nat) (db : Db) : Except ServiceError Db := do
  let receipt ← orThrow (db.receipts.find? receiptId) (.notFound "Receipt not found")
  ensure (receipt.isReversed = false) (.conflict "Receipt already reversed")
  ensure (receipt.clearanceStatus ≠ .bounced)
    (.conflict "A bounced cheque receipt is already reversed")
  let reversed := db.toBooks.reverseReceiptLedger receiptId receipt .adjustment 0
  return { db with toBooks := reversed.markReversed receiptId }

def Books.recordCertificate (books : Books) (tdsDeductionId : Nat) (ded : TdsDeduction) : Books :=
  let posted := books.post
    [{ bookingId := ded.bookingId
       entryType := .tdsCertAdjustment
       signedAmountPaise := -ded.deductedPaise }]
  { posted with
    tdsCertificates := posted.tdsCertificates.create
      { tdsDeductionId, adjustmentLedgerEntryId := books.ledger.nextId } }

def recordTdsCertificate (tdsDeductionId : Nat) (db : Db) : Except ServiceError Db := do
  let ded ← orThrow (db.tdsDeductions.find? tdsDeductionId) (.notFound "TDS deduction not found")
  ensure (db.tdsCertificates.any (fun _ row => row.tdsDeductionId = tdsDeductionId) = false)
    (.conflict "Certificate already recorded for this deduction")
  return { db with toBooks := db.toBooks.recordCertificate tdsDeductionId ded }

/-! ### What an accepted call checked and did -/

theorem checkAllocation_eq_ok {books : Books} {bookingId : Nat} {a : ReceiptAllocationInput}
    {done : Unit} (accepted : checkAllocation books bookingId a = .ok done) :
    ∃ inst, books.installments.find? a.installmentId = some inst ∧ inst.bookingId = bookingId ∧
      inst.dueDate ≠ none := by
  simp only [checkAllocation, bind_eq_ok, orThrow_eq_ok, ensure_eq_ok, Books.installmentOf,
    Option.filter_eq_some_iff, decide_eq_true_eq] at accepted
  obtain ⟨inst, ⟨found, sameBooking⟩, raised⟩ := accepted
  exact ⟨inst, found, sameBooking, raised⟩

theorem checkTotal_eq_ok {books : Books} {bookingId : Nat} {total : Nat × Int} {done : Unit}
    (accepted : checkTotal books bookingId total = .ok done) :
    ∃ inst, books.installments.find? total.1 = some inst ∧ inst.bookingId = bookingId ∧
      inst.allocatedPaise + total.2 ≤ inst.amountPaise := by
  simp only [checkTotal, bind_eq_ok, orThrow_eq_ok, ensure_eq_ok, Books.installmentOf,
    Option.filter_eq_some_iff, decide_eq_true_eq] at accepted
  obtain ⟨inst, ⟨found, sameBooking⟩, fits⟩ := accepted
  exact ⟨inst, found, sameBooking, fits⟩

/-- What the checks of a receipt establish about the books it is entered in. -/
structure Books.AcceptsReceipt (books : Books) (dto : CreateReceiptDto) : Prop where
  sum : (dto.allocations.map (·.amountPaise)).sum = dto.grossAmountPaise
  tds : dto.tdsDeductedPaise ≤ dto.grossAmountPaise
  lines : ∀ a ∈ dto.allocations, ∃ inst,
    books.installments.find? a.installmentId = some inst ∧ inst.bookingId = dto.bookingId ∧
      inst.dueDate ≠ none
  totals : ∀ total ∈ addByInst dto.allocations, ∃ inst,
    books.installments.find? total.1 = some inst ∧ inst.bookingId = dto.bookingId ∧
      inst.allocatedPaise + total.2 ≤ inst.amountPaise

theorem createReceipt_eq_ok {masters : Masters} {dto : CreateReceiptDto} {db : Db}
    {answer : Db × Nat} (accepted : createReceipt masters dto db = .ok answer) :
    ∃ booking, db.bookings.find? dto.bookingId = some booking ∧
      checkTds masters dto booking = .ok () ∧ db.AcceptsReceipt dto ∧
      answer = ({ db with toBooks := db.toBooks.recordReceipt dto }, db.receipts.nextId) := by
  simp only [createReceipt, bind_eq_ok, ensure_eq_ok, orThrow_eq_ok, forEach_eq_ok, pure_eq_ok]
    at accepted
  obtain ⟨_, sum, _, tds, booking, found, _, lines, _, totals, _, withheld, rfl⟩ := accepted
  refine ⟨booking, found, withheld, ⟨sum, tds, ?_, ?_⟩, rfl⟩
  · exact fun a member => checkAllocation_eq_ok (lines a member)
  · exact fun total member => checkTotal_eq_ok (totals total member)

theorem recordChequeEvent_eq_ok {masters : Masters} {receiptId : Nat} {status : ChequeEventStatus}
    {db after : Db} (accepted : recordChequeEvent masters receiptId status db = .ok after) :
    ∃ receipt, db.receipts.find? receiptId = some receipt ∧ chequeLike receipt.mode = true ∧
      receipt.clearanceStatus ≠ .cleared ∧ receipt.clearanceStatus ≠ .bounced ∧
      after = { db with
        toBooks :=
          if status = .bounced then
            (db.toBooks.recordClearance receiptId status).reverseReceiptLedger receiptId receipt
              .bounceReversal masters.chequeBounceChargePaise
          else db.toBooks.recordClearance receiptId status } := by
  simp only [recordChequeEvent, bind_eq_ok, ensure_eq_ok, orThrow_eq_ok] at accepted
  obtain ⟨receipt, found, _, cheque, _, ⟨notCleared, notBounced⟩, done⟩ := accepted
  refine ⟨receipt, found, cheque, notCleared, notBounced, ?_⟩
  by_cases bounced : status = .bounced
  · rw [if_pos bounced, pure_eq_ok] at done
    rw [if_pos bounced]
    exact done.symm
  · rw [if_neg bounced, pure_eq_ok] at done
    rw [if_neg bounced]
    exact done.symm

theorem reverseReceipt_eq_ok {receiptId : Nat} {db after : Db}
    (accepted : reverseReceipt receiptId db = .ok after) :
    ∃ receipt, db.receipts.find? receiptId = some receipt ∧ receipt.isReversed = false ∧
      receipt.clearanceStatus ≠ .bounced ∧
      after = { db with
        toBooks := (db.toBooks.reverseReceiptLedger receiptId receipt .adjustment 0).markReversed
          receiptId } := by
  simp only [reverseReceipt, bind_eq_ok, ensure_eq_ok, orThrow_eq_ok, pure_eq_ok] at accepted
  obtain ⟨receipt, found, _, unreversed, _, notBounced, rfl⟩ := accepted
  exact ⟨receipt, found, unreversed, notBounced, rfl⟩

theorem recordTdsCertificate_eq_ok {tdsDeductionId : Nat} {db after : Db}
    (accepted : recordTdsCertificate tdsDeductionId db = .ok after) :
    ∃ ded, db.tdsDeductions.find? tdsDeductionId = some ded ∧
      (∀ id row, db.tdsCertificates.find? id = some row → row.tdsDeductionId ≠ tdsDeductionId) ∧
      after = { db with toBooks := db.toBooks.recordCertificate tdsDeductionId ded } := by
  simp only [recordTdsCertificate, bind_eq_ok, ensure_eq_ok, orThrow_eq_ok, pure_eq_ok,
    Table.any_eq_false, decide_eq_false_iff_not] at accepted
  obtain ⟨ded, found, _, fresh, rfl⟩ := accepted
  exact ⟨ded, found, fresh, rfl⟩

end OpenEstate
