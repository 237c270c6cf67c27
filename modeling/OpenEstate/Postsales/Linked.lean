/-
**The books refer to what exists.**

Every entry, allocation, deduction and certificate of the books names rows that are there and agree
with it: an entry of a receipt is on the receipt's booking, a reversal is the exact negation of an
entry of the same receipt, a certificate names the adjustment it posted.

* `Books.Grows`: what no change takes away;
* `Books.Linked`: the references, kept by every change (`Books.Linked.change`).
-/

import OpenEstate.Postsales.Change

namespace OpenEstate

open Relational

/-! ### What stays -/

def Books.Refers (books : Books) (installmentId : Nat) : Prop :=
  (∃ id row, books.allocations.find? id = some row ∧ row.installmentId = installmentId) ∨
    ∃ id entry, books.ledger.find? id = some entry ∧ entry.installmentId = some installmentId

/-- **What no change takes away.** Ledger entries, allocations, deductions and certificates stay as
they are; receipts keep their booking and their amount; installments that are referred to keep
their booking. -/
structure Books.Grows (books next : Books) : Prop where
  ledger : ∀ id entry, books.ledger.find? id = some entry → next.ledger.find? id = some entry
  allocations : ∀ id row, books.allocations.find? id = some row →
    next.allocations.find? id = some row
  deductions : ∀ id ded, books.tdsDeductions.find? id = some ded →
    next.tdsDeductions.find? id = some ded
  certificates : ∀ id row, books.tdsCertificates.find? id = some row →
    next.tdsCertificates.find? id = some row
  receipts : ∀ id receipt, books.receipts.find? id = some receipt →
    ∃ after, next.receipts.find? id = some after ∧ after.bookingId = receipt.bookingId ∧
      after.grossAmountPaise = receipt.grossAmountPaise
  installments : ∀ id inst, books.Refers id → books.installments.find? id = some inst →
    ∃ after, next.installments.find? id = some after ∧ after.bookingId = inst.bookingId

theorem Books.Grows.refl (books : Books) : books.Grows books where
  ledger := fun _ _ found => found
  allocations := fun _ _ found => found
  deductions := fun _ _ found => found
  certificates := fun _ _ found => found
  receipts := fun _ receipt found => ⟨receipt, found, rfl, rfl⟩
  installments := fun _ inst _ found => ⟨inst, found, rfl⟩

variable {receiptId : Nat} {receipt : Receipt}

theorem find?_modify_receipt {receipts : Table Receipt} {mark : Receipt → Receipt}
    (booking : ∀ receipt, (mark receipt).bookingId = receipt.bookingId)
    (gross : ∀ receipt, (mark receipt).grossAmountPaise = receipt.grossAmountPaise) {id : Nat}
    (found : receipts.find? id = some receipt) :
    ∃ after, (receipts.modify receiptId mark).find? id = some after ∧
      after.bookingId = receipt.bookingId ∧
      after.grossAmountPaise = receipt.grossAmountPaise := by
  rw [Table.find?_modify]
  split
  · exact ⟨mark receipt, by rw [found]; rfl, booking receipt, gross receipt⟩
  · exact ⟨receipt, found, rfl, rfl⟩

variable {known : Nat → Prop} {books next : Books}

/-- **Changes take nothing away.** -/
theorem Books.Change.grows (change : Books.Change known books next) : books.Grows next := by
  cases change with
  | posted entries =>
    exact { Books.Grows.refl books with
      ledger := fun _ _ found => Table.find?_createMany_old entries found }
  | received dto =>
    rw [recordReceipt_eq]
    exact {
      ledger := fun _ _ found => Table.find?_createMany_old _ found
      allocations := fun _ _ found => Table.find?_createMany_old _ found
      deductions := fun _ _ found => Table.find?_createMany_old _ found
      certificates := fun _ _ found => found
      receipts := fun _ receipt found => ⟨receipt, Table.find?_create_old _ found, rfl, rfl⟩
      installments := by
        intro id inst _ found
        obtain ⟨after, present, moved⟩ := find?_bumpAll_of_some (addByInst dto.allocations) found
        exact ⟨after, present, moved.booking⟩ }
  | marked receiptId mark keeps =>
    exact { Books.Grows.refl books with
      receipts := fun _ _ found => find?_modify_receipt keeps.booking keeps.gross found }
  | undone receiptId receipt reversalType bounceChargePaise mark found kind undoes =>
    exact { Books.Grows.refl books with
      ledger := fun _ _ found => Table.find?_createMany_old _ found
      receipts := fun _ _ found => find?_modify_receipt undoes.booking undoes.gross found
      installments := by
        intro id inst _ found
        obtain ⟨after, present, moved⟩ := find?_bumpAll_of_some
          (reversalDeltas (books.pendingEntries receiptId)) found
        exact ⟨after, present, moved.booking⟩ }
  | certified =>
    exact { Books.Grows.refl books with
      ledger := fun _ _ found => Table.find?_createMany_old _ found
      certificates := fun _ _ found => Table.find?_create_old _ found }
  | dropped which unallocated unposted =>
    exact { Books.Grows.refl books with
      installments := by
        intro id inst refers found
        have kept : which id inst = false := by
          rcases refers with ⟨rowId, row, present, rfl⟩ | ⟨entryId, entry, present, named⟩
          · exact unallocated rowId row inst present found
          · exact unposted entryId entry id inst present named found
        refine ⟨inst, ?_, rfl⟩
        show (books.installments.delete which).find? id = some inst
        rw [Table.find?_delete, found, Option.filter_some, kept]
        rfl }
  | scheduled rows =>
    exact { Books.Grows.refl books with
      installments := fun _ inst _ found => ⟨inst, Table.find?_createMany_old rows found, rfl⟩ }
  | rewritten which change keeps =>
    exact { Books.Grows.refl books with
      installments := by
        intro id inst _ found
        refine ⟨if which id inst then change inst else inst, ?_, ?_⟩
        · show (books.installments.modifyAll which change).find? id = _
          rw [Table.find?_modifyAll, found]
          rfl
        · split
          · exact keeps.booking inst
          · rfl }

/-! ### References -/

structure Books.EntryLinked (known : Nat → Prop) (books : Books) (entry : LedgerEntry) : Prop where
  booking : known entry.bookingId
  receipt : ∀ receiptId, entry.receiptId = some receiptId →
    ∃ receipt, books.receipts.find? receiptId = some receipt ∧
      receipt.bookingId = entry.bookingId
  installment : ∀ installmentId, entry.entryType.ofReceipt = true →
    entry.installmentId = some installmentId →
    ∃ inst, books.installments.find? installmentId = some inst ∧
      inst.bookingId = entry.bookingId
  credit : entry.entryType = .receiptAlloc → entry.receiptId ≠ none ∧ entry.installmentId ≠ none ∧
    entry.signedAmountPaise < 0
  receivable : entry.entryType = .tdsReceivable → entry.receiptId ≠ none ∧
    entry.installmentId = none ∧ 0 < entry.signedAmountPaise
  certificate : entry.entryType = .tdsCertAdjustment → entry.receiptId = none ∧
    entry.installmentId = none ∧ entry.signedAmountPaise < 0
  reversal : ∀ targetId, entry.reversalOfEntryId = some targetId →
    ∃ target receiptId, books.ledger.find? targetId = some target ∧
      target.isOwnOf receiptId = true ∧ entry.receiptId = some receiptId ∧
      entry.bookingId = target.bookingId ∧ entry.installmentId = target.installmentId ∧
      entry.signedAmountPaise = -target.signedAmountPaise
  reverses : entry.entryType = .adjustment ∨ entry.entryType = .bounceReversal ↔
    entry.reversalOfEntryId ≠ none

def Books.AllocationLinked (books : Books) (row : ReceiptAllocation) : Prop :=
  ∃ receipt inst, books.receipts.find? row.receiptId = some receipt ∧
    books.installments.find? row.installmentId = some inst ∧
    inst.bookingId = receipt.bookingId ∧ 0 < row.amountPaise

def Books.DeductionLinked (books : Books) (ded : TdsDeduction) : Prop :=
  ∃ receipt, books.receipts.find? ded.receiptId = some receipt ∧
    ded.bookingId = receipt.bookingId ∧ 0 < ded.deductedPaise

def Books.CertificateLinked (books : Books) (row : TdsCertificate) : Prop :=
  ∃ ded entry, books.tdsDeductions.find? row.tdsDeductionId = some ded ∧
    books.ledger.find? row.adjustmentLedgerEntryId = some entry ∧
    entry.entryType = .tdsCertAdjustment ∧ entry.bookingId = ded.bookingId ∧
    entry.signedAmountPaise = -ded.deductedPaise

structure Books.Linked (known : Nat → Prop) (books : Books) : Prop where
  entry : ∀ id entry, books.ledger.find? id = some entry → books.EntryLinked known entry
  receipt : ∀ id receipt, books.receipts.find? id = some receipt → known receipt.bookingId
  installment : ∀ id inst, books.installments.find? id = some inst → known inst.bookingId
  allocation : ∀ id row, books.allocations.find? id = some row → books.AllocationLinked row
  deduction : ∀ id ded, books.tdsDeductions.find? id = some ded → books.DeductionLinked ded
  certificate : ∀ id row, books.tdsCertificates.find? id = some row → books.CertificateLinked row

variable {entry : LedgerEntry}

theorem Books.EntryLinked.grow {id : Nat} (linked : books.EntryLinked known entry)
    (grows : books.Grows next)
    (found : books.ledger.find? id = some entry) : next.EntryLinked known entry :=
  { linked with
    receipt := by
      intro receiptId named
      obtain ⟨receipt, present, sameBooking⟩ := linked.receipt receiptId named
      obtain ⟨after, stays, keepsBooking, _⟩ := grows.receipts receiptId receipt present
      exact ⟨after, stays, keepsBooking.trans sameBooking⟩
    installment := by
      intro installmentId ofReceipt named
      obtain ⟨inst, present, sameBooking⟩ := linked.installment installmentId ofReceipt named
      obtain ⟨after, stays, keepsBooking⟩ :=
        grows.installments installmentId inst (Or.inr ⟨id, entry, found, named⟩) present
      exact ⟨after, stays, keepsBooking.trans sameBooking⟩
    reversal := by
      intro targetId named
      obtain ⟨target, receiptId, present, rest⟩ := linked.reversal targetId named
      exact ⟨target, receiptId, grows.ledger targetId target present, rest⟩ }

theorem LedgerEntry.IsPlain.entryLinked (plain : entry.IsPlain)
    (booked : known entry.bookingId) : books.EntryLinked known entry where
  booking := booked
  receipt := by
    intro receiptId named
    rw [plain.receipt] at named
    cases named
  installment := by
    intro installmentId ofReceipt
    rw [plain.kind] at ofReceipt
    cases ofReceipt
  credit := by
    intro credit
    have kind := plain.kind
    rw [credit] at kind
    cases kind
  receivable := by
    intro receivable
    have kind := plain.kind
    rw [receivable] at kind
    cases kind
  certificate := by
    intro certificate
    have kind := plain.kind
    rw [certificate] at kind
    cases kind
  reversal := by
    intro targetId named
    rw [plain.reversal] at named
    cases named
  reverses := by
    have kind := plain.kind
    rw [plain.reversal]
    constructor
    · rintro (adjustment | bounce)
      · rw [adjustment] at kind
        cases kind
      · rw [bounce] at kind
        cases kind
    · intro named
      exact absurd rfl named

/-- What the rows of grown books are: rows from before, or rows that are linked. A table that did
not change needs no argument. -/
structure Books.LinkedBeyond (known : Nat → Prop) (books next : Books) : Prop where
  entry : ∀ id entry, next.ledger.find? id = some entry →
    books.ledger.find? id = some entry ∨ next.EntryLinked known entry := by
    exact fun _ _ found => Or.inl found
  receipt : ∀ id receipt, next.receipts.find? id = some receipt →
    (∃ before, books.receipts.find? id = some before ∧ receipt.bookingId = before.bookingId) ∨
      known receipt.bookingId := by
    exact fun _ receipt found => Or.inl ⟨receipt, found, rfl⟩
  installment : ∀ id inst, next.installments.find? id = some inst →
    (∃ before, books.installments.find? id = some before ∧ inst.bookingId = before.bookingId) ∨
      known inst.bookingId := by
    exact fun _ inst found => Or.inl ⟨inst, found, rfl⟩
  allocation : ∀ id row, next.allocations.find? id = some row →
    books.allocations.find? id = some row ∨ next.AllocationLinked row := by
    exact fun _ _ found => Or.inl found
  deduction : ∀ id ded, next.tdsDeductions.find? id = some ded →
    books.tdsDeductions.find? id = some ded ∨ next.DeductionLinked ded := by
    exact fun _ _ found => Or.inl found
  certificate : ∀ id row, next.tdsCertificates.find? id = some row →
    books.tdsCertificates.find? id = some row ∨ next.CertificateLinked row := by
    exact fun _ _ found => Or.inl found

theorem Books.Linked.grow (linked : books.Linked known) (grows : books.Grows next)
    (beyond : Books.LinkedBeyond known books next) :
    next.Linked known where
  entry := by
    intro id entry found
    rcases beyond.entry id entry found with old | new
    · exact (linked.entry id entry old).grow grows old
    · exact new
  receipt := by
    intro id receipt found
    rcases beyond.receipt id receipt found with ⟨before, old, same⟩ | new
    · exact same ▸ linked.receipt id before old
    · exact new
  installment := by
    intro id inst found
    rcases beyond.installment id inst found with ⟨before, old, same⟩ | new
    · exact same ▸ linked.installment id before old
    · exact new
  allocation := by
    intro id row found
    rcases beyond.allocation id row found with old | new
    · obtain ⟨receipt, inst, present, named, same, positive⟩ := linked.allocation id row old
      obtain ⟨receiptAfter, receiptStays, receiptSame, _⟩ := grows.receipts _ receipt present
      obtain ⟨instAfter, instStays, instSame⟩ :=
        grows.installments _ inst (Or.inl ⟨id, row, old, rfl⟩) named
      refine ⟨receiptAfter, instAfter, receiptStays, instStays, ?_, positive⟩
      rw [instSame, receiptSame, same]
    · exact new
  deduction := by
    intro id ded found
    rcases beyond.deduction id ded found with old | new
    · obtain ⟨receipt, present, same, positive⟩ := linked.deduction id ded old
      obtain ⟨after, stays, keepsBooking, _⟩ := grows.receipts _ receipt present
      exact ⟨after, stays, same.trans keepsBooking.symm, positive⟩
    · exact new
  certificate := by
    intro id row found
    rcases beyond.certificate id row found with old | new
    · obtain ⟨ded, entry, present, posted, rest⟩ := linked.certificate id row old
      exact ⟨ded, entry, grows.deductions _ ded present, grows.ledger _ entry posted, rest⟩
    · exact new

/-! ### Each change links its rows -/

variable {bookingId : Nat}

theorem entryLinked_allocationEntry {inst : Installment} {a : ReceiptAllocationInput}
    (booked : known bookingId) (receiptFound : next.receipts.find? receiptId = some receipt)
    (sameReceipt : receipt.bookingId = bookingId)
    (instFound : next.installments.find? a.installmentId = some inst)
    (sameInst : inst.bookingId = bookingId) :
    next.EntryLinked known (allocationEntry bookingId receiptId a) where
  booking := booked
  receipt := by
    rintro _ ⟨⟩
    exact ⟨receipt, receiptFound, sameReceipt⟩
  installment := by
    rintro _ _ ⟨⟩
    exact ⟨inst, instFound, sameInst⟩
  credit := by
    intro _
    have positive := a.amount_pos
    refine ⟨Option.some_ne_none _, Option.some_ne_none _, ?_⟩
    show -a.amountPaise < 0
    omega
  receivable := by rintro ⟨⟩
  certificate := by rintro ⟨⟩
  reversal := by rintro _ ⟨⟩
  reverses := by simp [allocationEntry]

theorem entryLinked_tdsReceivableEntry {amount : Int} (booked : known bookingId)
    (receiptFound : next.receipts.find? receiptId = some receipt)
    (sameReceipt : receipt.bookingId = bookingId) (positive : 0 < amount) :
    next.EntryLinked known (tdsReceivableEntry bookingId receiptId amount) where
  booking := booked
  receipt := by
    rintro _ ⟨⟩
    exact ⟨receipt, receiptFound, sameReceipt⟩
  installment := by rintro _ _ ⟨⟩
  credit := by rintro ⟨⟩
  receivable := fun _ => ⟨Option.some_ne_none _, rfl, positive⟩
  certificate := by rintro ⟨⟩
  reversal := by rintro _ ⟨⟩
  reverses := by simp [tdsReceivableEntry]

theorem mem_pendingEntries {row : Nat × LedgerEntry} :
    row ∈ books.pendingEntries receiptId ↔
      books.ledger.find? row.1 = some row.2 ∧ row.2.isOwnOf receiptId = true ∧
        books.alreadyReversed row.1 = false := by
  rw [Books.pendingEntries, List.mem_filter, Table.mem_select, and_assoc, Bool.not_eq_true']

theorem isOwnOf_iff :
    entry.isOwnOf receiptId = true ↔ entry.receiptId = some receiptId ∧
      (entry.entryType = .receiptAlloc ∨ entry.entryType = .tdsReceivable) := by
  rw [LedgerEntry.isOwnOf, decide_eq_true_eq]

theorem ofReceipt_of_isOwnOf
    (own : entry.isOwnOf receiptId = true) : entry.entryType.ofReceipt = true := by
  rcases (isOwnOf_iff.mp own).2 with credit | receivable
  · rw [credit]
    rfl
  · rw [receivable]
    rfl

variable {reversalType : LedgerEntryType}

theorem entryLinked_reversalEntry (linked : books.Linked known) (grows : books.Grows next)
    (found : books.receipts.find? receiptId = some receipt)
    (kind : reversalType = .adjustment ∨ reversalType = .bounceReversal) {row : Nat × LedgerEntry}
    (pending : row ∈ books.pendingEntries receiptId) :
    next.EntryLinked known (reversalEntry receiptId receipt reversalType row) := by
  obtain ⟨posted, own, _⟩ := mem_pendingEntries.mp pending
  have target := linked.entry row.1 row.2 posted
  obtain ⟨after, stays, keepsBooking, _⟩ := grows.receipts receiptId receipt found
  have sameBooking : receipt.bookingId = row.2.bookingId := by
    obtain ⟨owner, present, same⟩ := target.receipt receiptId (isOwnOf_iff.mp own).1
    rw [found] at present
    cases present
    exact same
  refine {
    booking := (sameBooking.symm ▸ target.booking : known receipt.bookingId)
    receipt := ?_
    installment := ?_
    credit := ?_
    receivable := ?_
    certificate := ?_
    reversal := ?_
    reverses := ?_ }
  · rintro _ ⟨⟩
    exact ⟨after, stays, keepsBooking⟩
  · intro installmentId _ named
    have named : row.2.installmentId = some installmentId := named
    obtain ⟨inst, present, same⟩ :=
      target.installment installmentId (ofReceipt_of_isOwnOf own) named
    obtain ⟨instAfter, instStays, instSame⟩ :=
      grows.installments installmentId inst (Or.inr ⟨row.1, row.2, posted, named⟩) present
    exact ⟨instAfter, instStays, (instSame.trans same).trans sameBooking.symm⟩
  · intro credit
    rcases kind with rfl | rfl <;> cases credit
  · intro receivable
    rcases kind with rfl | rfl <;> cases receivable
  · intro certificate
    rcases kind with rfl | rfl <;> cases certificate
  · rintro _ ⟨⟩
    exact ⟨row.2, receiptId, grows.ledger row.1 row.2 posted, own, rfl, sameBooking, rfl, rfl⟩
  · exact ⟨fun _ => Option.some_ne_none _, fun _ => kind⟩

theorem entryLinked_bounceChargeEntry (amount : Int) (booked : known bookingId)
    (receiptFound : next.receipts.find? receiptId = some receipt)
    (sameReceipt : receipt.bookingId = bookingId) :
    next.EntryLinked known (bounceChargeEntry bookingId receiptId amount) where
  booking := booked
  receipt := by
    rintro _ ⟨⟩
    exact ⟨receipt, receiptFound, sameReceipt⟩
  installment := by rintro _ _ ⟨⟩
  credit := by rintro ⟨⟩
  receivable := by rintro ⟨⟩
  certificate := by rintro ⟨⟩
  reversal := by rintro _ ⟨⟩
  reverses := by simp [bounceChargeEntry]

theorem mem_reversalEntries {bounceChargePaise : Int} {rows : List (Nat × LedgerEntry)}
    (member : entry ∈ reversalEntries receiptId receipt reversalType bounceChargePaise rows) :
    (∃ row ∈ rows, entry = reversalEntry receiptId receipt reversalType row) ∨
      0 < bounceChargePaise ∧
        entry = bounceChargeEntry receipt.bookingId receiptId bounceChargePaise := by
  rcases List.mem_append.mp member with reversal | charge
  · obtain ⟨row, pending, rfl⟩ := List.mem_map.mp reversal
    exact Or.inl ⟨row, pending, rfl⟩
  · split at charge
    · rename_i positive
      exact Or.inr ⟨positive, List.mem_singleton.mp charge⟩
    · cases charge

theorem mem_receiptEntries {dto : CreateReceiptDto}
    (member : entry ∈ receiptEntries receiptId dto) :
    (∃ a ∈ dto.allocations, entry = allocationEntry dto.bookingId receiptId a) ∨
      0 < dto.tdsDeductedPaise ∧
        entry = tdsReceivableEntry dto.bookingId receiptId dto.tdsDeductedPaise := by
  rcases List.mem_append.mp member with credit | receivable
  · obtain ⟨a, line, rfl⟩ := List.mem_map.mp credit
    exact Or.inl ⟨a, line, rfl⟩
  · split at receivable
    · rename_i positive
      exact Or.inr ⟨positive, List.mem_singleton.mp receivable⟩
    · cases receivable

theorem linkedBeyond_received {dto : CreateReceiptDto} (booked : known dto.bookingId)
    (accepts : books.AcceptsReceipt dto) :
    Books.LinkedBeyond known books (books.recordReceipt dto) := by
  rw [recordReceipt_eq]
  have receiptFound : (books.receipts.create (receiptRow dto)).find? books.receipts.nextId =
      some (receiptRow dto) := Table.find?_create_self _ _
  have line : ∀ a ∈ dto.allocations, ∃ inst,
      (bumpAll books.installments (addByInst dto.allocations)).find? a.installmentId = some inst ∧
        inst.bookingId = dto.bookingId := by
    intro a member
    obtain ⟨inst, found, sameBooking, _⟩ := accepts.lines a member
    obtain ⟨after, stays, moved⟩ := find?_bumpAll_of_some (addByInst dto.allocations) found
    exact ⟨after, stays, moved.booking.trans sameBooking⟩
  refine {
    entry := ?_
    receipt := ?_
    installment := ?_
    allocation := ?_
    deduction := ?_
    certificate := fun _ _ found => Or.inl found }
  · intro id entry found
    rcases Table.find?_createMany found with old | ⟨_, member⟩
    · exact Or.inl old
    · rcases mem_receiptEntries member with ⟨a, inside, rfl⟩ | ⟨positive, rfl⟩
      · obtain ⟨inst, instFound, sameInst⟩ := line a inside
        exact Or.inr (entryLinked_allocationEntry booked receiptFound rfl instFound sameInst)
      · exact Or.inr (entryLinked_tdsReceivableEntry booked receiptFound rfl positive)
  · intro id receipt found
    rcases (Table.find?_create _ _ _).symm.trans found with found
    split at found
    · cases found
      exact Or.inr booked
    · exact Or.inl ⟨receipt, found, rfl⟩
  · intro id inst found
    obtain ⟨before, old, moved⟩ := exists_of_find?_bumpAll found
    exact Or.inl ⟨before, old, moved.booking⟩
  · intro id row found
    rcases Table.find?_createMany found with old | ⟨_, member⟩
    · exact Or.inl old
    · obtain ⟨a, inside, rfl⟩ := List.mem_map.mp member
      obtain ⟨inst, instFound, sameInst⟩ := line a inside
      exact Or.inr ⟨receiptRow dto, inst, receiptFound, instFound, sameInst,
        lt_of_lt_of_le Int.zero_lt_one a.amount_pos⟩
  · intro id ded found
    rcases Table.find?_createMany found with old | ⟨_, member⟩
    · exact Or.inl old
    · unfold receiptDeductions at member
      split at member
      · rename_i positive
        rw [List.mem_singleton.mp member]
        exact Or.inr ⟨receiptRow dto, receiptFound, rfl, positive⟩
      · cases member

theorem linkedBeyond_undone (linked : books.Linked known) {bounceChargePaise : Int}
    {mark : Receipt → Receipt} (found : books.receipts.find? receiptId = some receipt)
    (kind : reversalType = .adjustment ∨ reversalType = .bounceReversal)
    (undoes : Receipt.Undoes mark)
    (grows : books.Grows (books.undo receiptId receipt reversalType bounceChargePaise mark)) :
    Books.LinkedBeyond known books
      (books.undo receiptId receipt reversalType bounceChargePaise mark) := {
    entry := by
      intro id entry present
      rcases Table.find?_createMany present with old | ⟨_, member⟩
      · exact Or.inl old
      · rcases mem_reversalEntries member with ⟨row, pending, rfl⟩ | ⟨_, rfl⟩
        · exact Or.inr (entryLinked_reversalEntry linked grows found kind pending)
        · obtain ⟨after, stays, same, _⟩ := grows.receipts receiptId receipt found
          exact Or.inr (entryLinked_bounceChargeEntry _ (linked.receipt _ _ found) stays same)
    receipt := by
      intro id row present
      rw [Books.undo, Table.find?_modify] at present
      split at present
      · obtain ⟨before, old, rfl⟩ := Option.map_eq_some_iff.mp present
        exact Or.inl ⟨before, old, undoes.booking before⟩
      · exact Or.inl ⟨row, present, rfl⟩
    installment := by
      intro id inst present
      obtain ⟨before, old, moved⟩ := exists_of_find?_bumpAll present
      exact Or.inl ⟨before, old, moved.booking⟩ }

theorem linkedBeyond_certified (linked : books.Linked known) {tdsDeductionId : Nat}
    {ded : TdsDeduction} (found : books.tdsDeductions.find? tdsDeductionId = some ded) :
    Books.LinkedBeyond known books (books.recordCertificate tdsDeductionId ded) := by
  obtain ⟨receipt, receiptFound, sameBooking, positive⟩ := linked.deduction tdsDeductionId ded found
  exact {
    entry := by
      intro id entry present
      have present : (books.ledger.create
        { bookingId := ded.bookingId
          entryType := .tdsCertAdjustment
          signedAmountPaise := -ded.deductedPaise }).find? id = some entry := present
      rw [Table.find?_create] at present
      split at present
      · cases present
        refine Or.inr {
          booking := sameBooking ▸ linked.receipt _ _ receiptFound
          receipt := by rintro _ ⟨⟩
          installment := by rintro _ _ ⟨⟩
          credit := by rintro ⟨⟩
          receivable := by rintro ⟨⟩
          certificate := fun _ => ⟨rfl, rfl, neg_neg_of_pos positive⟩
          reversal := by rintro _ ⟨⟩
          reverses := by simp }
      · exact Or.inl present
    certificate := by
      intro id row present
      have present : (books.tdsCertificates.create
        { tdsDeductionId, adjustmentLedgerEntryId := books.ledger.nextId }).find? id =
          some row := present
      rw [Table.find?_create] at present
      split at present
      · cases present
        exact Or.inr ⟨ded, _, found, Table.find?_create_self _ _, rfl, rfl, rfl⟩
      · exact Or.inl present }

theorem Books.Linked.change (linked : books.Linked known)
    (change : Books.Change known books next) : next.Linked known := by
  have grows := change.grows
  refine linked.grow grows ?_
  cases change with
  | posted entries plain booked =>
    exact {
      entry := by
        intro id entry found
        rcases Table.find?_createMany found with old | ⟨_, member⟩
        · exact Or.inl old
        · exact Or.inr ((plain entry member).entryLinked (booked entry member)) }
  | received dto booked accepts => exact linkedBeyond_received booked accepts
  | marked receiptId mark keeps =>
    exact {
      receipt := by
        intro id row present
        rw [Books.markReceipt, Table.find?_modify] at present
        split at present
        · obtain ⟨before, old, rfl⟩ := Option.map_eq_some_iff.mp present
          exact Or.inl ⟨before, old, keeps.booking before⟩
        · exact Or.inl ⟨row, present, rfl⟩ }
  | undone receiptId receipt reversalType bounceChargePaise mark found kind undoes =>
    exact linkedBeyond_undone linked found kind undoes grows
  | certified tdsDeductionId ded found => exact linkedBeyond_certified linked found
  | dropped which =>
    exact {
      installment := by
        intro id inst found
        rw [Books.drop, Table.find?_delete, Option.filter_eq_some_iff] at found
        exact Or.inl ⟨inst, found.1, rfl⟩ }
  | scheduled rows booked =>
    exact {
      installment := by
        intro id inst found
        rcases Table.find?_createMany found with old | ⟨_, member⟩
        · exact Or.inl ⟨inst, old, rfl⟩
        · exact Or.inr (booked inst member) }
  | rewritten which rewrite keeps =>
    exact {
      installment := by
        intro id inst found
        rw [Books.rewrite, Table.find?_modifyAll] at found
        obtain ⟨before, old, rfl⟩ := Option.map_eq_some_iff.mp found
        refine Or.inl ⟨before, old, ?_⟩
        split
        · exact keeps.booking before
        · rfl }

end OpenEstate
