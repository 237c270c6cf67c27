/-
**The statements of a receipt.**

`ReceiptService.createReceiptTx` statement by statement: the booking and the named installments are
read and checked, a number is allocated, and then the rows are inserted and every installment is
read once more and updated.

* `Db.CanReceive` is what a request needs to be accepted alone;
* `check_readOnly`: while installments only fill up, a request that passes its checks could have
  been accepted at first;
* `createReceipt_run_iff`: run alone, the statements do what the sequential model does, and take a
  number.
-/

import OpenEstate.Concurrent.NumberSequence
import OpenEstate.Postsales.ReceiptEffect

set_option linter.unusedSectionVars false

namespace OpenEstate

open Relational

/-! ### The statements -/

def ReceiptService.readInstallments (bookingId : Nat) :
    List ReceiptAllocationInput → (Nat → Option Installment) →
      Statements (Nat → Option Installment)
  | [], installments => .done installments
  | a :: rest, installments =>
    if (installments a.installmentId).isSome then readInstallments bookingId rest installments
    else do
      let found ← Tx.read fun store => store.installmentOf bookingId a.installmentId
      let inst ← Tx.check (orThrow found
        (.notFound s!"Installment {a.installmentId} not found on this booking"))
      Tx.check (ensure (inst.dueDate ≠ none) (.badRequest
        s!"Installment {a.installmentId} has not been raised yet — it cannot receive an allocation"))
      readInstallments bookingId rest (Function.update installments a.installmentId (some inst))

/-- The lines of a receipt together must not exceed an installment's amount, as it was read. -/
def ReceiptService.checkTotal (installments : Nat → Option Installment) (total : Nat × Int) :
    Except ServiceError Unit := do
  let inst ← orThrow (installments total.1)
    (.notFound s!"Installment {total.1} not found on this booking")
  ensure (inst.allocatedPaise + total.2 ≤ inst.amountPaise) (.badRequest
    s!"Allocation to installment {total.1} ({inst.allocatedPaise + total.2}) exceeds its amount ({inst.amountPaise})")

def ReceiptService.check (masters : Masters) (dto : CreateReceiptDto) : Statements Unit := do
  let allocTotal := (dto.allocations.map (·.amountPaise)).sum
  Tx.check (ensure (allocTotal = dto.grossAmountPaise) (.badRequest
    s!"Allocations ({allocTotal}) must sum to the gross amount ({dto.grossAmountPaise})"))
  Tx.check (ensure (dto.tdsDeductedPaise ≤ dto.grossAmountPaise)
    (.badRequest "TDS deducted cannot exceed the gross amount"))
  let found ← Tx.read fun store => store.bookings.find? dto.bookingId
  let booking ← Tx.check (orThrow found (.notFound "Booking not found"))
  let installments ← readInstallments dto.bookingId dto.allocations fun _ => none
  Tx.check (forEach (addByInst dto.allocations) (checkTotal installments))
  Tx.check (checkTds masters dto booking)

def Books.setAllocation (books : Books) (installmentId : Nat) (allocated : Int)
    (status : InstallmentStatus) : Books :=
  { books with
    installments := books.installments.modify installmentId fun row =>
      { row with allocatedPaise := allocated, status } }

/-- Adjust an installment's allocation: read it, and write what it comes to. -/
def ReceiptService.bumpInstallment (installmentId : Nat) (delta : Int) : Statements Unit := do
  let found ← Tx.read fun store => store.installments.find? installmentId
  match found with
  | none => return
  | some inst =>
    let allocated := inst.allocatedPaise + delta
    Tx.update (.installment installmentId) fun store => store.onBooks
      (·.setAllocation installmentId allocated (installmentStatus inst.amountPaise allocated))

def ReceiptService.recordAllocation (bookingId : Nat) (a : ReceiptAllocationInput) :
    Statements Unit := do
  Tx.insert fun store => store.onBooks fun books =>
    { books with
      allocations := books.allocations.create (allocationRow (books.receipts.nextId - 1) a) }
  Tx.insert fun store => store.onBooks fun books =>
    books.post [allocationEntry bookingId (books.receipts.nextId - 1) a]

/-- The tax withheld on the last receipt: the receivable and the deduction that names it. -/
def ReceiptService.recordTds (dto : CreateReceiptDto) : Statements Unit :=
  if 0 < dto.tdsDeductedPaise then do
    Tx.insert fun store => store.onBooks fun books => books.post
      [tdsReceivableEntry dto.bookingId (books.receipts.nextId - 1) dto.tdsDeductedPaise]
    Tx.insert fun store => store.onBooks fun books =>
      { books with
        tdsDeductions := books.tdsDeductions.create
          { bookingId := dto.bookingId
            receiptId := books.receipts.nextId - 1
            deductedPaise := dto.tdsDeductedPaise
            receivableLedgerEntryId := books.ledger.nextId - 1 } }
  else .done ()

def ReceiptService.recordLines (companyId : Nat) (masters : Masters) (dto : CreateReceiptDto) :
    Statements Unit := do
  let _ ← NumberSequence.allocateForFy companyId "RECEIPT" dto.receiptDate masters.fyStartMonth
  Tx.insert fun store => store.onBooks fun books =>
    { books with receipts := books.receipts.create (receiptRow dto) }
  Tx.forEach dto.allocations (recordAllocation dto.bookingId)

def ReceiptService.bumpInstallments (totals : List (Nat × Int)) : Statements Unit :=
  Tx.forEach totals fun total => bumpInstallment total.1 total.2

def ReceiptService.record (companyId : Nat) (masters : Masters) (dto : CreateReceiptDto) :
    Statements Unit := do
  ReceiptService.recordLines companyId masters dto
  ReceiptService.bumpInstallments (addByInst dto.allocations)
  ReceiptService.recordTds dto

def ReceiptService.createReceiptTx (companyId : Nat) (masters : Masters) (dto : CreateReceiptDto) :
    Statements Unit := do
  ReceiptService.check masters dto
  ReceiptService.record companyId masters dto

def receiptSequence (companyId : Nat) (masters : Masters) (dto : CreateReceiptDto) : SequenceKey :=
  { companyId
    kind := "RECEIPT"
    scopeLabel := financialYearLabel dto.receiptDate masters.fyStartMonth }

/-! ### What a request needs -/

structure Db.CanReceive (db : Db) (masters : Masters) (dto : CreateReceiptDto) : Prop where
  booking : ∃ booking, db.bookings.find? dto.bookingId = some booking ∧
    checkTds masters dto booking = .ok ()
  accepts : db.AcceptsReceipt dto

structure Installment.FilledUp (before after : Installment) : Prop where
  more : before.allocatedPaise ≤ after.allocatedPaise
  kept : after = { before with allocatedPaise := after.allocatedPaise, status := after.status }

/-- The bookings are those of the first state, and its installments have only been filled up. -/
structure Store.FilledUp (first store : Store) : Prop where
  bookings : store.bookings = first.bookings
  installments : ∀ id inst, store.installments.find? id = some inst →
    ∃ before, first.installments.find? id = some before ∧ before.FilledUp inst

theorem Store.FilledUp.refl (store : Store) : store.FilledUp store where
  bookings := rfl
  installments := fun _ inst found => ⟨inst, found, le_rfl, rfl⟩

variable {allocations : List ReceiptAllocationInput} {installmentId : Nat}

theorem mem_keys_addByInst :
    installmentId ∈ (addByInst allocations).map Prod.fst ↔
      ∃ a ∈ allocations, a.installmentId = installmentId := by
  induction allocations using List.reverseRecOn with
  | nil => simp [addByInst]
  | append_singleton earlier a ih =>
    have split : addByInst (earlier ++ [a]) =
        addToTotal (addByInst earlier) a.installmentId a.amountPaise := List.foldl_append ..
    rw [split, keys_addToTotal]
    by_cases already : a.installmentId ∈ (addByInst earlier).map Prod.fst
    · rw [if_pos already, ih]
      constructor
      · rintro ⟨line, member, named⟩
        exact ⟨line, List.mem_append_left _ member, named⟩
      · rintro ⟨line, member, named⟩
        rcases List.mem_append.mp member with early | last
        · exact ⟨line, early, named⟩
        · rw [List.mem_singleton.mp last] at named
          exact ih.mp (named ▸ already)
    · rw [if_neg already, List.mem_append, ih]
      simp only [List.mem_append, List.mem_singleton, or_and_right, exists_or, exists_eq_left]
      exact or_congr_right eq_comm

/-! ### The checks -/

theorem readInstallments_readOnly (kept : Store → Prop) (bookingId : Nat)
    (seen : Nat → Installment → Prop)
    (reads : ∀ state, kept state → ∀ id inst, state.installmentOf bookingId id = some inst →
      inst.dueDate ≠ none → seen id inst)
    (allocations : List ReceiptAllocationInput) (installments : Nat → Option Installment)
    (soFar : ∀ id inst, installments id = some inst → seen id inst) :
    (ReceiptService.readInstallments bookingId allocations installments).ReadOnly kept fun known =>
      (∀ id inst, known id = some inst → seen id inst) ∧
        (∀ id, (installments id).isSome → (known id).isSome) ∧
        ∀ a ∈ allocations, (known a.installmentId).isSome := by
  induction allocations generalizing installments with
  | nil => exact .done ⟨soFar, fun _ known => known, nofun⟩
  | cons a rest ih =>
    rw [ReceiptService.readInstallments]
    by_cases already : (installments a.installmentId).isSome
    · rw [if_pos already]
      refine (ih installments soFar).mono fun known ⟨read, grows, named⟩ => ?_
      exact ⟨read, grows, List.forall_mem_cons.mpr ⟨grows _ already, named⟩⟩
    · rw [if_neg already]
      refine .read_bind fun state holds => .check_bind fun inst found => ?_
      refine .check_bind fun _ raised => ?_
      rw [orThrow_eq_ok] at found
      rw [ensure_eq_ok] at raised
      refine (ih (Function.update installments a.installmentId (some inst)) ?_).mono
        fun known ⟨read, grows, named⟩ => ⟨read, fun id present => ?_, ?_⟩
      · intro id row present
        by_cases same : id = a.installmentId
        · subst same
          rw [Function.update_self] at present
          cases present
          exact reads state holds _ _ found raised
        · rw [Function.update_of_ne same] at present
          exact soFar id row present
      · refine grows id ?_
        by_cases same : id = a.installmentId
        · rw [same, Function.update_self, Option.isSome_some]
        · rwa [Function.update_of_ne same]
      · refine List.forall_mem_cons.mpr ⟨grows _ ?_, named⟩
        rw [Function.update_self, Option.isSome_some]

theorem receiptTotal_eq_ok {installments : Nat → Option Installment} {total : Nat × Int}
    {done : Unit} : ReceiptService.checkTotal installments total = .ok done ↔
      ∃ inst, installments total.1 = some inst ∧
        inst.allocatedPaise + total.2 ≤ inst.amountPaise := by
  simp only [ReceiptService.checkTotal, bind_eq_ok, orThrow_eq_ok, ensure_eq_ok]

theorem installmentOf_eq_some {books : Books} {bookingId : Nat} {inst : Installment} :
    books.installmentOf bookingId installmentId = some inst ↔
      books.installments.find? installmentId = some inst ∧ inst.bookingId = bookingId := by
  rw [Books.installmentOf, Option.filter_eq_some_iff, decide_eq_true_eq]

theorem check_readOnly (masters : Masters) (dto : CreateReceiptDto) (first : Store) :
    (ReceiptService.check masters dto).ReadOnly first.FilledUp
      fun _ => first.CanReceive masters dto := by
  refine .check_bind fun _ sum => .check_bind fun _ tds => .read_bind fun state since => ?_
  rw [ensure_eq_ok] at sum tds
  refine .check_bind fun booking found => ?_
  rw [orThrow_eq_ok, since.bookings] at found
  -- an installment that was read is one of the first state, filled up
  let seen (id : Nat) (inst : Installment) : Prop :=
    ∃ before, first.installments.find? id = some before ∧ before.bookingId = dto.bookingId ∧
      before.dueDate ≠ none ∧ before.FilledUp inst
  refine (readInstallments_readOnly first.FilledUp dto.bookingId seen ?_ dto.allocations
    (fun _ => none) nofun).bind fun known ⟨read, _, named⟩ => ?_
  · intro state since id inst found raised
    obtain ⟨found, sameBooking⟩ := installmentOf_eq_some.mp found
    obtain ⟨before, present, filled⟩ := since.installments id inst found
    rw [filled.kept] at sameBooking raised
    exact ⟨before, present, sameBooking, raised, filled⟩
  refine .check_bind fun _ totals => .check fun _ withheld => ⟨⟨booking, found, withheld⟩, sum, tds,
    fun a member => ?_, fun total member => ?_⟩
  · obtain ⟨inst, present⟩ := Option.isSome_iff_exists.mp (named a member)
    obtain ⟨before, found, sameBooking, raised, _⟩ := read _ _ present
    exact ⟨before, found, sameBooking, raised⟩
  · obtain ⟨inst, present, fits⟩ := receiptTotal_eq_ok.mp (forEach_eq_ok.mp totals total member)
    obtain ⟨before, found, sameBooking, _, filled⟩ := read _ _ present
    rw [filled.kept] at fits
    exact ⟨before, found, sameBooking, (Int.add_le_add_right filled.more _).trans fits⟩

variable {store : Store}

theorem exists_readInstallments {bookingId : Nat}
    (lines : ∀ a ∈ allocations, ∃ inst, store.installments.find? a.installmentId = some inst ∧
      inst.bookingId = bookingId ∧ inst.dueDate ≠ none) (installments : Nat → Option Installment) :
    ∃ known, (ReceiptService.readInstallments bookingId allocations installments).run store =
      .ok (known, store) := by
  induction allocations generalizing installments with
  | nil => exact ⟨installments, rfl⟩
  | cons a rest ih =>
    obtain ⟨⟨inst, found, sameBooking, raised⟩, later⟩ := List.forall_mem_cons.mp lines
    rw [ReceiptService.readInstallments]
    by_cases already : (installments a.installmentId).isSome
    · rw [if_pos already]
      exact ih later installments
    · obtain ⟨known, ran⟩ := ih later (Function.update installments a.installmentId (some inst))
      refine ⟨known, ?_⟩
      rw [if_neg already, Tx.run_read_bind, Tx.run_check_bind_eq_ok]
      refine ⟨inst, orThrow_eq_ok.mpr (installmentOf_eq_some.mpr ⟨found, sameBooking⟩), ?_⟩
      exact Tx.run_check_bind_eq_ok.mpr ⟨(), ensure_eq_ok.mpr raised, ran⟩

variable {masters : Masters} {dto : CreateReceiptDto}
variable {after : Store}

theorem receiptCheck_run_eq_ok :
    (ReceiptService.check masters dto).run store = .ok ((), after) ↔
      store.CanReceive masters dto ∧ after = store := by
  constructor
  · intro ran
    have reads := check_readOnly masters dto store
    exact ⟨(reads.keeps.run (.refl store) ran).2, (reads.path (.refl store) ran).2⟩
  · rintro ⟨⟨⟨booking, found, withheld⟩, sum, tds, lines, totals⟩, same⟩
    rw [same]
    obtain ⟨known, ran⟩ := exists_readInstallments lines fun _ => none
    -- alone, an installment that was read is the one there is
    have reads := readInstallments_readOnly (· = store) dto.bookingId
      (fun id inst => store.installments.find? id = some inst)
      (by
        rintro state rfl id inst present _
        exact (installmentOf_eq_some.mp present).1) dto.allocations (fun _ => none) nofun
    obtain ⟨read, _, named⟩ := (reads.keeps.run rfl ran).2
    have fits : forEach (addByInst dto.allocations) (ReceiptService.checkTotal known) =
        .ok () := by
      refine forEach_eq_ok.mpr fun total member => receiptTotal_eq_ok.mpr ?_
      obtain ⟨a, line, same⟩ := mem_keys_addByInst.mp (List.mem_map_of_mem member)
      obtain ⟨inst, present⟩ := Option.isSome_iff_exists.mp (named a line)
      obtain ⟨before, found, _, room⟩ := totals total member
      rw [same] at present
      rw [read _ _ present] at found
      cases found
      exact ⟨inst, present, room⟩
    rw [ReceiptService.check]
    refine Tx.run_check_bind_eq_ok.mpr ⟨(), ensure_eq_ok.mpr sum, ?_⟩
    refine Tx.run_check_bind_eq_ok.mpr ⟨(), ensure_eq_ok.mpr tds, ?_⟩
    refine Tx.run_check_bind_eq_ok.mpr ⟨booking, orThrow_eq_ok.mpr found, ?_⟩
    refine Tx.run_bind_eq_ok.mpr ⟨known, store, ran, ?_⟩
    exact Tx.run_check_bind_eq_ok.mpr ⟨(), fits, Tx.run_check_eq_ok.mpr ⟨withheld, rfl⟩⟩

/-! ### The writes -/

def Store.withInstallments (store : Store) (installments : Table Installment) : Store :=
  store.onBooks fun books => { books with installments }

theorem bumpInstallment_run (installmentId : Nat) (delta : Int) (store : Store) :
    (ReceiptService.bumpInstallment installmentId delta).run store =
      .ok ((), store.onBooks (·.bumpInstallment installmentId delta)) := by
  rw [ReceiptService.bumpInstallment, Tx.run_read_bind]
  cases found : store.installments.find? installmentId with
  | none =>
    have same : store.installments.modify installmentId (·.bump delta) = store.installments :=
      Table.modify_of_find?_eq_none _ found
    show Except.ok ((), store) = .ok ((), store.withInstallments
      (store.installments.modify installmentId (·.bump delta)))
    rw [same]
    rfl
  | some inst =>
    let allocated := inst.allocatedPaise + delta
    let status := installmentStatus inst.amountPaise allocated
    have same : store.installments.modify installmentId
          (fun row => { row with allocatedPaise := allocated, status }) =
        store.installments.modify installmentId (·.bump delta) := by
      refine Table.modify_congr fun row present => ?_
      rw [found] at present
      cases present
      rfl
    show Except.ok ((), store.withInstallments _) = .ok ((), store.withInstallments _)
    rw [same]

theorem bumpInstallments_run (totals : List (Nat × Int)) (store : Store) :
    (ReceiptService.bumpInstallments totals).run store =
      .ok ((), store.withInstallments (bumpAll store.installments totals)) := by
  induction totals generalizing store with
  | nil => rfl
  | cons total rest ih =>
    have first := bumpInstallment_run total.1 total.2 store
    exact Tx.run_bind_eq_ok.mpr ⟨(), _, first, ih _⟩

theorem recordAllocations_run (bookingId : Nat) (allocations : List ReceiptAllocationInput)
    (store : Store) :
    (Tx.forEach allocations (ReceiptService.recordAllocation bookingId) : Statements Unit).run
        store =
      .ok ((), store.onBooks fun books =>
        { books with
          allocations := books.allocations.createMany
            (allocations.map (allocationRow (books.receipts.nextId - 1)))
          ledger := books.ledger.createMany
            (allocations.map (allocationEntry bookingId (books.receipts.nextId - 1))) }) := by
  induction allocations generalizing store with
  | nil => rfl
  | cons a rest ih => exact ih _

def Store.withLines (store : Store) (companyId : Nat) (masters : Masters) (dto : CreateReceiptDto) :
    Store :=
  (store.incrementSequence (receiptSequence companyId masters dto)).onBooks fun books =>
    { books with
      receipts := books.receipts.create (receiptRow dto)
      allocations := books.allocations.createMany
        (dto.allocations.map (allocationRow books.receipts.nextId))
      ledger := books.ledger.createMany
        (dto.allocations.map (allocationEntry dto.bookingId books.receipts.nextId)) }

theorem recordLines_run (companyId : Nat) (masters : Masters) (dto : CreateReceiptDto)
    (store : Store) :
    (ReceiptService.recordLines companyId masters dto).run store =
      .ok ((), store.withLines companyId masters dto) :=
  recordAllocations_run dto.bookingId dto.allocations _

theorem recordTds_run (dto : CreateReceiptDto) (store : Store) :
    (ReceiptService.recordTds dto).run store = .ok ((), store.onBooks fun books =>
      books.recordTds dto.bookingId (books.receipts.nextId - 1) dto.tdsDeductedPaise) := by
  unfold ReceiptService.recordTds Books.recordTds
  split
  · rfl
  · rfl

theorem receiptRecord_run (companyId : Nat) (masters : Masters) (dto : CreateReceiptDto)
    (store : Store) :
    (ReceiptService.record companyId masters dto).run store =
      .ok ((), (store.incrementSequence (receiptSequence companyId masters dto)).onBooks
        (·.recordReceipt dto)) := by
  refine Tx.run_bind_eq_ok.mpr ⟨(), _, recordLines_run companyId masters dto store, ?_⟩
  refine Tx.run_bind_eq_ok.mpr ⟨(), _, bumpInstallments_run _ _, ?_⟩
  rw [recordTds_run]
  unfold Books.recordReceipt
  simp only [foldl_recordAllocation, foldl_bumpInstallment]
  rfl

theorem createReceipt_iff {db : Db} {answer : Db × Nat} :
    createReceipt masters dto db = .ok answer ↔
      db.CanReceive masters dto ∧
        answer = ({ db with toBooks := db.toBooks.recordReceipt dto }, db.receipts.nextId) := by
  constructor
  · intro accepted
    obtain ⟨booking, found, withheld, accepts, rfl⟩ := createReceipt_eq_ok accepted
    exact ⟨⟨⟨booking, found, withheld⟩, accepts⟩, rfl⟩
  · rintro ⟨⟨⟨booking, found, withheld⟩, sum, tds, lines, totals⟩, rfl⟩
    simp only [createReceipt, bind_eq_ok, ensure_eq_ok, orThrow_eq_ok, forEach_eq_ok, pure_eq_ok,
      checkAllocation, checkTotal, installmentOf_eq_some]
    refine ⟨(), sum, (), tds, booking, found, (), fun a member => ?_, (), fun total member => ?_,
      (), withheld, trivial⟩
    · obtain ⟨inst, present, sameBooking, raised⟩ := lines a member
      exact ⟨inst, ⟨present, sameBooking⟩, raised⟩
    · obtain ⟨inst, present, sameBooking, fits⟩ := totals total member
      exact ⟨inst, ⟨present, sameBooking⟩, fits⟩

theorem createReceipt_run_eq_ok {companyId : Nat} :
    (ReceiptService.createReceiptTx companyId masters dto).run store = .ok ((), after) ↔
      store.CanReceive masters dto ∧
        after = (store.incrementSequence (receiptSequence companyId masters dto)).onBooks
          (·.recordReceipt dto) := by
  rw [ReceiptService.createReceiptTx, Tx.run_bind_eq_ok]
  constructor
  · rintro ⟨_, middle, checked, recorded⟩
    obtain ⟨can, rfl⟩ := receiptCheck_run_eq_ok.mp checked
    rw [receiptRecord_run] at recorded
    cases recorded
    exact ⟨can, rfl⟩
  · rintro ⟨can, rfl⟩
    exact ⟨(), store, receiptCheck_run_eq_ok.mpr ⟨can, rfl⟩, receiptRecord_run companyId masters dto store⟩

theorem createReceipt_run_iff {companyId : Nat} :
    (ReceiptService.createReceiptTx companyId masters dto).run store = .ok ((), after) ↔
      ∃ db, createReceipt masters dto store.toDb = .ok (db, store.receipts.nextId) ∧
        after = (store.incrementSequence (receiptSequence companyId masters dto)).onDb
          fun _ => db := by
  rw [createReceipt_run_eq_ok]
  simp only [createReceipt_iff, Prod.mk.injEq, and_true]
  constructor
  · rintro ⟨can, rfl⟩
    exact ⟨_, ⟨can, rfl⟩, rfl⟩
  · rintro ⟨_, ⟨can, rfl⟩, rfl⟩
    exact ⟨can, rfl⟩

end OpenEstate
