/-
**The installment cache.**

What is allocated to an installment is kept three times: as a running total on the installment, as
allocation rows, and as entries of the ledger. `Books.Cached` says that the three agree and that the
status of the installment follows them; `Books.Cached.change` that every change keeps it.
-/

import OpenEstate.Postsales.Reversed

namespace OpenEstate

open Relational

/-! ### The three accounts of an installment -/

def Books.stands (books : Books) (receiptId : Nat) : Bool :=
  (books.receipts.find? receiptId).any fun receipt => receipt.isReversed = false

def Books.allocatedOn (books : Books) (installmentId : Nat) : Int :=
  books.allocations.sum fun _ row =>
    if row.installmentId = installmentId ∧ books.stands row.receiptId then row.amountPaise else 0

def LedgerEntry.isCreditOn (entry : LedgerEntry) (installmentId : Nat) : Bool :=
  entry.entryType = .receiptAlloc ∧ entry.installmentId = some installmentId

def Books.reversesCreditOn (books : Books) (installmentId : Nat) (entry : LedgerEntry) : Bool :=
  (entry.reversalOfEntryId.bind books.ledger.find?).any (·.isCreditOn installmentId)

def Books.creditsOn (books : Books) (installmentId : Nat) : Int :=
  books.sumWhere fun entry =>
    entry.isCreditOn installmentId || books.reversesCreditOn installmentId entry

def LedgerEntry.touches (entry : LedgerEntry) (installmentId : Nat) : Bool :=
  entry.installmentId = some installmentId ∧
    (entry.entryType = .receiptAlloc ∨ entry.reversalOfEntryId ≠ none)

structure Books.InstallmentCached (books : Books) (installmentId : Nat) (inst : Installment) :
    Prop where
  nonneg : 0 ≤ inst.allocatedPaise
  within : inst.allocatedPaise ≤ inst.amountPaise
  allocations : inst.allocatedPaise = books.allocatedOn installmentId
  ledger : inst.allocatedPaise = -books.sumWhere (·.touches installmentId)
  status : 0 < inst.amountPaise →
    inst.status = installmentStatus inst.amountPaise inst.allocatedPaise

def Books.Cached (books : Books) : Prop :=
  ∀ id inst, books.installments.find? id = some inst → books.InstallmentCached id inst

variable {known : Nat → Prop} {books : Books}

theorem Books.Linked.creditsOn_eq (linked : books.Linked known) (installmentId : Nat) :
    books.creditsOn installmentId = books.sumWhere (·.touches installmentId) := by
  unfold Books.creditsOn Books.sumWhere
  refine Table.sum_congr fun id entry found => ?_
  congr 1
  have link := linked.entry id entry found
  cases named : entry.reversalOfEntryId with
  | none =>
    simp [Books.reversesCreditOn, LedgerEntry.isCreditOn, LedgerEntry.touches, named, and_comm]
  | some targetId =>
    obtain ⟨target, receiptId, present, own, _, _, sameInst, _⟩ := link.reversal targetId named
    have notCredit : entry.entryType ≠ .receiptAlloc := by
      intro credit
      rcases link.reverses.mpr (by simp [named]) with kind | kind <;>
        (rw [credit] at kind; cases kind)
    have credited : target.installmentId = some installmentId →
        target.entryType = .receiptAlloc := by
      intro on
      rcases (isOwnOf_iff.mp own).2 with credit | receivable
      · exact credit
      · have none := ((linked.entry targetId target present).receivable receivable).2.1
        rw [on] at none
        cases none
    simp only [Books.reversesCreditOn, LedgerEntry.isCreditOn, LedgerEntry.touches, named,
      notCredit, Option.bind_some, present, Option.any_some, sameInst, false_and, decide_false, Bool.false_or, ne_eq, reduceCtorEq, not_false_eq_true, or_true, and_true]
    by_cases on : target.installmentId = some installmentId
    · simp [on, credited on]
    · simp [on]

/-! ### Credits and allocations of one receipt -/

def LedgerEntry.isCreditOf (entry : LedgerEntry) (installmentId receiptId : Nat) : Bool :=
  entry.isCreditOn installmentId ∧ entry.receiptId = some receiptId

def Books.allocatedBy (books : Books) (installmentId receiptId : Nat) : Int :=
  books.allocations.sum fun _ row =>
    if row.installmentId = installmentId ∧ row.receiptId = receiptId then row.amountPaise else 0

/-- **The credits of a receipt on an installment mirror its allocations.** -/
def Books.Mirrored (books : Books) : Prop :=
  ∀ installmentId receiptId, books.sumWhere (·.isCreditOf installmentId receiptId) =
    -books.allocatedBy installmentId receiptId

theorem sumEntries_isCreditOf (newId : Nat) (dto : CreateReceiptDto)
    (installmentId receiptId : Nat) :
    sumEntries (receiptEntries newId dto) (·.isCreditOf installmentId receiptId) =
      if newId = receiptId then -deltaTo installmentId (allocationDeltas dto.allocations) else 0 := by
  have receivable : sumEntries (if 0 < dto.tdsDeductedPaise then
      [tdsReceivableEntry dto.bookingId newId dto.tdsDeductedPaise] else [])
      (·.isCreditOf installmentId receiptId) = 0 := by
    refine sumEntries_eq_zero fun entry member => ?_
    split at member
    · rw [List.mem_singleton.mp member]
      simp [LedgerEntry.isCreditOf, LedgerEntry.isCreditOn, tdsReceivableEntry]
    · cases member
  rw [receiptEntries, sumEntries_append, receivable, add_zero]
  induction dto.allocations with
  | nil => simp [allocationDeltas]
  | cons a rest ih =>
    rw [List.map_cons, sumEntries_cons, ih, deltaTo_allocationDeltas_cons]
    by_cases same : newId = receiptId
    · by_cases on : a.installmentId = installmentId
      · simp [same, on, LedgerEntry.amountIf, LedgerEntry.isCreditOf, LedgerEntry.isCreditOn,
          allocationEntry]
        ring
      · simp [same, on, LedgerEntry.amountIf, LedgerEntry.isCreditOf, LedgerEntry.isCreditOn,
          allocationEntry]
    · simp [same, LedgerEntry.amountIf, LedgerEntry.isCreditOf, LedgerEntry.isCreditOn,
        allocationEntry]

theorem sum_allocationRow (newId : Nat) (allocations : List ReceiptAllocationInput)
    (installmentId receiptId : Nat) :
    ((allocations.map (allocationRow newId)).map fun row =>
        if row.installmentId = installmentId ∧ row.receiptId = receiptId then row.amountPaise
        else 0).sum =
      if newId = receiptId then deltaTo installmentId (allocationDeltas allocations) else 0 := by
  induction allocations with
  | nil => simp [allocationDeltas]
  | cons a rest ih =>
    rw [List.map_cons, List.map_cons, List.sum_cons, ih, deltaTo_allocationDeltas_cons]
    by_cases same : newId = receiptId
    · by_cases on : a.installmentId = installmentId <;> simp [same, on, allocationRow]
    · simp [same, allocationRow]

theorem sumEntries_isCreditOf_eq_zero {entries : List LedgerEntry}
    (noCredit : ∀ entry ∈ entries, entry.entryType ≠ .receiptAlloc)
    (installmentId receiptId : Nat) :
    sumEntries entries (·.isCreditOf installmentId receiptId) = 0 := by
  refine sumEntries_eq_zero fun entry member => ?_
  simp [LedgerEntry.isCreditOf, LedgerEntry.isCreditOn, noCredit entry member]

variable {entry : LedgerEntry}

theorem LedgerEntry.IsPlain.notCredit (plain : entry.IsPlain) :
    entry.entryType ≠ .receiptAlloc := by
  intro credit
  have kind := plain.kind
  rw [credit] at kind
  cases kind

variable {receiptId : Nat} {receipt : Receipt}
variable {reversalType : LedgerEntryType}

theorem notCredit_reversalEntries {bounceChargePaise : Int} {rows : List (Nat × LedgerEntry)}
    (kind : reversalType = .adjustment ∨ reversalType = .bounceReversal)
    (member : entry ∈ reversalEntries receiptId receipt reversalType bounceChargePaise rows) :
    entry.entryType ≠ .receiptAlloc := by
  rcases mem_reversalEntries member with ⟨row, _, rfl⟩ | ⟨_, rfl⟩
  · show reversalType ≠ .receiptAlloc
    rcases kind with rfl | rfl <;> decide
  · exact fun credit => nomatch credit

variable {next : Books}

theorem Books.Mirrored.change (mirrored : books.Mirrored)
    (change : Books.Change known books next) : next.Mirrored := by
  have foreign : ∀ (next : Books) (entries : List LedgerEntry),
      next.ledger = books.ledger.createMany entries → next.allocations = books.allocations →
      (∀ entry ∈ entries, entry.entryType ≠ .receiptAlloc) → next.Mirrored := by
    intro next entries ledger allocations noCredit installmentId receiptId
    rw [sumWhere_of_ledger ledger, sumEntries_isCreditOf_eq_zero noCredit, add_zero, mirrored]
    unfold Books.allocatedBy
    rw [allocations]
  cases change with
  | posted entries plain =>
    exact foreign _ entries rfl rfl fun entry member => (plain entry member).notCredit
  | received dto =>
    intro installmentId receiptId
    rw [sumWhere_of_ledger (recordReceipt_ledger books dto), sumEntries_isCreditOf, mirrored,
      Books.allocatedBy, Books.allocatedBy, recordReceipt_allocations, Table.sum_createMany,
      sum_allocationRow]
    split <;> ring
  | marked => exact foreign _ [] rfl rfl (by simp)
  | undone receiptId receipt reversalType bounceChargePaise mark found kind undoes =>
    exact foreign _ _ rfl rfl fun entry member => notCredit_reversalEntries kind member
  | certified tdsDeductionId ded =>
    refine foreign _ [{ bookingId := ded.bookingId
                        entryType := .tdsCertAdjustment
                        signedAmountPaise := -ded.deductedPaise }] rfl rfl fun entry member => ?_
    rw [List.mem_singleton.mp member]
    exact fun credit => nomatch credit
  | dropped => exact foreign _ [] rfl rfl (by simp)
  | scheduled => exact foreign _ [] rfl rfl (by simp)
  | rewritten => exact foreign _ [] rfl rfl (by simp)

/-! ### Undoing a receipt moves the three accounts alike -/

theorem deltaTo_reversalDeltas (rows : List (Nat × LedgerEntry)) (installmentId : Nat) :
    deltaTo installmentId (reversalDeltas rows) =
      (rows.map fun row => row.2.amountIf (row.2.isCreditOn installmentId)).sum := by
  induction rows with
  | nil => rfl
  | cons row rest ih =>
    rw [List.map_cons, List.sum_cons, ← ih]
    unfold reversalDeltas
    rw [List.filterMap_cons]
    split
    · rename_i skipped
      have uncounted : row.2.isCreditOn installmentId = false := by
        rw [LedgerEntry.isCreditOn, decide_eq_false_iff_not]
        rintro ⟨credit, on⟩
        rw [credit, on] at skipped
        cases skipped
      rw [uncounted]
      exact (zero_add _).symm
    · rename_i delta counted
      rw [deltaTo_cons]
      congr 1
      split at counted
      · rename_i named credit on
        cases counted
        simp [LedgerEntry.amountIf, LedgerEntry.isCreditOn, credit, on]
      · cases counted

theorem sumEntries_touches_reversalEntries (receiptId : Nat) (receipt : Receipt)
    (reversalType : LedgerEntryType) (bounceChargePaise : Int) {rows : List (Nat × LedgerEntry)}
    (installmentId : Nat)
    (credited : ∀ row ∈ rows, row.2.installmentId = some installmentId →
      row.2.entryType = .receiptAlloc) :
    sumEntries (reversalEntries receiptId receipt reversalType bounceChargePaise rows)
        (·.touches installmentId) = -deltaTo installmentId (reversalDeltas rows) := by
  have charge : sumEntries (if 0 < bounceChargePaise then
      [bounceChargeEntry receipt.bookingId receiptId bounceChargePaise] else [])
      (·.touches installmentId) = 0 := by
    refine sumEntries_eq_zero fun entry member => ?_
    split at member
    · rw [List.mem_singleton.mp member]
      simp [LedgerEntry.touches, bounceChargeEntry]
    · cases member
  rw [reversalEntries, sumEntries_append, charge, add_zero, deltaTo_reversalDeltas]
  induction rows with
  | nil => rfl
  | cons row rest ih =>
    obtain ⟨head, tail⟩ := List.forall_mem_cons.mp credited
    rw [List.map_cons, sumEntries_cons, ih tail, List.map_cons, List.sum_cons, neg_add]
    congr 1
    by_cases on : row.2.installmentId = some installmentId
    · simp [LedgerEntry.amountIf, LedgerEntry.touches, LedgerEntry.isCreditOn, reversalEntry, on,
        head on]
    · simp [LedgerEntry.amountIf, LedgerEntry.touches, LedgerEntry.isCreditOn, reversalEntry, on]

/-- What a reversal gives back to an installment: the allocations of the receipt on it when the
receipt stands, nothing when it is reversed. -/
theorem deltaTo_pendingEntries (reversed : books.Reversed) (mirrored : books.Mirrored)
    (found : books.receipts.find? receiptId = some receipt) (installmentId : Nat) :
    deltaTo installmentId (reversalDeltas (books.pendingEntries receiptId)) =
      if receipt.isReversed then 0 else -books.allocatedBy installmentId receiptId := by
  cases stands : receipt.isReversed with
  | true =>
    rw [pendingEntries_of_reversed reversed found stands]
    rfl
  | false =>
    rw [pendingEntries_of_stands reversed found stands, deltaTo_reversalDeltas,
      Table.sum_select books.ledger (fun _ entry => entry.isOwnOf receiptId)
        fun _ entry => entry.amountIf (entry.isCreditOn installmentId)]
    refine Eq.trans ?_ (mirrored installmentId receiptId)
    refine Table.sum_congr fun id entry _ => ?_
    by_cases credit : entry.entryType = .receiptAlloc <;>
      by_cases named : entry.receiptId = some receiptId <;>
      simp [LedgerEntry.amountIf, LedgerEntry.isOwnOf, LedgerEntry.isCreditOf,
        LedgerEntry.isCreditOn, credit, named]

theorem allocatedOn_undo (found : books.receipts.find? receiptId = some receipt)
    {mark : Receipt → Receipt} (undoes : Receipt.Undoes mark) (reversalType : LedgerEntryType)
    (bounceChargePaise : Int) (installmentId : Nat) :
    (books.undo receiptId receipt reversalType bounceChargePaise mark).allocatedOn installmentId =
      books.allocatedOn installmentId +
        if receipt.isReversed then 0 else -books.allocatedBy installmentId receiptId := by
  have after : ∀ id, (books.undo receiptId receipt reversalType bounceChargePaise mark).stands id =
      (books.stands id && (id != receiptId)) := by
    intro id
    unfold Books.stands Books.undo
    rw [Table.find?_modify]
    by_cases same : id = receiptId
    · subst same
      simp [found, undoes.reversed]
    · simp [same]
  have split : (books.undo receiptId receipt reversalType bounceChargePaise mark).allocatedOn
      installmentId = books.allocatedOn installmentId -
        Table.sum books.allocations fun _ row =>
          if row.installmentId = installmentId ∧ row.receiptId = receiptId ∧
            books.stands receiptId then row.amountPaise else 0 := by
    rw [Books.allocatedOn, Books.allocatedOn, ← Table.sum_sub]
    refine Table.sum_congr fun id row _ => ?_
    rw [after]
    by_cases on : row.installmentId = installmentId <;>
      by_cases same : row.receiptId = receiptId <;>
      by_cases up : books.stands row.receiptId = true <;> simp_all
  have state : books.stands receiptId = !receipt.isReversed := by
    simp [Books.stands, found]
  rw [split, state]
  cases receipt.isReversed <;> simp [Books.allocatedBy, sub_eq_add_neg]

theorem allocatedOn_nonneg (linked : books.Linked known)
    (installmentId : Nat) : 0 ≤ books.allocatedOn installmentId := by
  refine Table.sum_nonneg fun id row found => ?_
  obtain ⟨_, _, _, _, _, positive⟩ := linked.allocation id row found
  split
  · exact positive.le
  · exact le_refl 0

/-! ### Changes keep the cache -/

theorem allocatedOn_recordReceipt (linked : books.Linked known) (dto : CreateReceiptDto)
    (installmentId : Nat) :
    (books.recordReceipt dto).allocatedOn installmentId =
      books.allocatedOn installmentId +
        deltaTo installmentId (allocationDeltas dto.allocations) := by
  have old : ∀ id row, books.allocations.find? id = some row →
      (books.recordReceipt dto).stands row.receiptId = books.stands row.receiptId := by
    intro id row found
    obtain ⟨receipt, _, present, _⟩ := linked.allocation id row found
    unfold Books.stands
    rw [recordReceipt_receipts, Table.find?_create_old _ present, present]
  have new : (books.recordReceipt dto).stands books.receipts.nextId = true := by
    unfold Books.stands
    rw [recordReceipt_receipts, Table.find?_create_self]
    rfl
  have lines : ∀ allocations : List ReceiptAllocationInput,
      ((allocations.map (allocationRow books.receipts.nextId)).map fun row =>
        if row.installmentId = installmentId ∧
          (books.recordReceipt dto).stands row.receiptId = true then row.amountPaise else 0).sum =
        deltaTo installmentId (allocationDeltas allocations) := by
    intro allocations
    induction allocations with
    | nil => rfl
    | cons a rest ih =>
      rw [List.map_cons, List.map_cons, List.sum_cons, ih, deltaTo_allocationDeltas_cons]
      simp [allocationRow, new]
  rw [Books.allocatedOn, recordReceipt_allocations, Table.sum_createMany, lines]
  congr 1
  refine Table.sum_congr fun id row found => ?_
  rw [old id row found]

theorem sumEntries_touches_receiptEntries (receiptId : Nat) (dto : CreateReceiptDto)
    (installmentId : Nat) :
    sumEntries (receiptEntries receiptId dto) (·.touches installmentId) =
      -deltaTo installmentId (allocationDeltas dto.allocations) := by
  have credits := sumEntries_isCreditOf receiptId dto installmentId receiptId
  rw [if_pos rfl] at credits
  rw [← credits]
  unfold sumEntries
  congr 1
  refine List.map_congr_left fun entry member => ?_
  obtain ⟨named, direct⟩ := reversalOf_receiptEntries member
  congr 1
  simp [LedgerEntry.touches, LedgerEntry.isCreditOf, LedgerEntry.isCreditOn, named, direct,
    and_comm]

variable {installmentId : Nat}

theorem Books.Linked.touches_eq_zero (linked : books.Linked known)
    (absent : books.installments.find? installmentId = none) :
    books.sumWhere (·.touches installmentId) = 0 := by
  refine sumWhere_eq_zero fun id entry found => ?_
  rw [LedgerEntry.touches, decide_eq_false_iff_not]
  rintro ⟨on, kind⟩
  have link := linked.entry id entry found
  have ofReceipt : entry.entryType.ofReceipt = true := by
    rcases kind with credit | reversal
    · rw [credit]
      rfl
    · rcases link.reverses.mpr reversal with kind | kind <;>
        (rw [kind]; rfl)
  obtain ⟨inst, present, _⟩ := link.installment installmentId ofReceipt on
  rw [absent] at present
  cases present

theorem Books.Linked.allocatedOn_eq_zero (linked : books.Linked known)
    (absent : books.installments.find? installmentId = none) :
    books.allocatedOn installmentId = 0 := by
  refine Table.sum_eq_zero fun id row found => if_neg ?_
  rintro ⟨rfl, _⟩
  obtain ⟨_, inst, _, present, _⟩ := linked.allocation id row found
  rw [absent] at present
  cases present

theorem Books.InstallmentCached.move {before inst : Installment} {delta : Int}
    (cached : books.InstallmentCached installmentId before) (moved : before.Bumped inst delta)
    (linked : next.Linked known) (fits : before.allocatedPaise + delta ≤ before.amountPaise)
    (allocations : next.allocatedOn installmentId = books.allocatedOn installmentId + delta)
    (ledger : next.sumWhere (·.touches installmentId) =
      books.sumWhere (·.touches installmentId) - delta) :
    next.InstallmentCached installmentId inst where
  nonneg := by
    rw [moved.allocated, cached.allocations, ← allocations]
    exact allocatedOn_nonneg linked installmentId
  within := by
    rw [moved.allocated, moved.amount]
    exact fits
  allocations := by rw [moved.allocated, cached.allocations, allocations]
  ledger := by
    rw [moved.allocated, cached.ledger, ledger]
    ring
  status := by
    intro positive
    rw [moved.amount] at positive ⊢
    rw [moved.allocated]
    rcases moved.status with ⟨same, none⟩ | recomputed
    · rw [same, none, add_zero]
      exact cached.status positive
    · exact recomputed

/-- Books whose ledger gains nothing that touches installments, and whose receipts and installments
keep their state. -/
theorem Books.Cached.of_foreign (cached : books.Cached) (entries : List LedgerEntry)
    (ledger : next.ledger = books.ledger.createMany entries)
    (foreign : ∀ entry ∈ entries, ∀ installmentId, entry.touches installmentId = false)
    (allocations : next.allocations = books.allocations)
    (receipts : ∀ id, next.stands id = books.stands id)
    (installments : ∀ id inst, next.installments.find? id = some inst →
      ∃ before, books.installments.find? id = some before ∧
        inst.allocatedPaise = before.allocatedPaise ∧ inst.amountPaise = before.amountPaise ∧
        inst.status = before.status) : next.Cached := by
  intro id inst found
  obtain ⟨before, present, sameAllocated, sameAmount, sameStatus⟩ := installments id inst found
  have old := cached id before present
  have touches : next.sumWhere (·.touches id) = books.sumWhere (·.touches id) := by
    rw [sumWhere_of_ledger ledger, sumEntries_eq_zero fun entry member => foreign entry member id,
      add_zero]
  have standing : next.allocatedOn id = books.allocatedOn id := by
    unfold Books.allocatedOn
    rw [allocations]
    simp only [receipts]
  exact {
    nonneg := sameAllocated ▸ old.nonneg
    within := by rw [sameAllocated, sameAmount]; exact old.within
    allocations := by rw [sameAllocated, standing]; exact old.allocations
    ledger := by rw [sameAllocated, touches]; exact old.ledger
    status := by rw [sameAllocated, sameAmount, sameStatus]; exact old.status }

theorem Books.Cached.received (linked : books.Linked known) (cached : books.Cached)
    {dto : CreateReceiptDto} (booked : known dto.bookingId)
    (accepts : books.AcceptsReceipt dto) : (books.recordReceipt dto).Cached := by
  intro id inst found
  rw [recordReceipt_installments] at found
  obtain ⟨before, present, moved⟩ := exists_of_find?_bumpAll found
  have old := cached id before present
  rw [deltaTo_addByInst] at moved
  refine old.move moved (linked.change (.received dto booked accepts)) ?_
    (allocatedOn_recordReceipt linked dto id) ?_
  · -- the total of the installment was checked, if the receipt names it at all
    by_cases named : id ∈ (addByInst dto.allocations).map Prod.fst
    · obtain ⟨⟨key, total⟩, member, rfl⟩ := List.mem_map.mp named
      obtain ⟨checked, checkedFound, _, fits⟩ := accepts.totals _ member
      rw [present] at checkedFound
      cases checkedFound
      rw [← deltaTo_addByInst, deltaTo_of_mem (nodup_keys_addByInst dto.allocations) member]
      exact fits
    · have none : deltaTo id (addByInst dto.allocations) = 0 := by
        refine List.sum_eq_zero fun amount member => ?_
        obtain ⟨total, inside, rfl⟩ := List.mem_map.mp member
        exact if_neg fun same => named (List.mem_map.mpr ⟨total, inside, same⟩)
      rw [← deltaTo_addByInst, none, add_zero]
      exact old.within
  · rw [sumWhere_of_ledger (recordReceipt_ledger books dto), sumEntries_touches_receiptEntries,
      sub_eq_add_neg]

theorem Books.Cached.undone (linked : books.Linked known) (reversed : books.Reversed)
    (mirrored : books.Mirrored) (cached : books.Cached) (bounceChargePaise : Int)
    {mark : Receipt → Receipt} (receiptFound : books.receipts.find? receiptId = some receipt)
    (kind : reversalType = .adjustment ∨ reversalType = .bounceReversal)
    (undoes : Receipt.Undoes mark) :
    (books.undo receiptId receipt reversalType bounceChargePaise mark).Cached := by
  intro id inst found
  obtain ⟨before, present, moved⟩ := exists_of_find?_bumpAll found
  have old := cached id before present
  have next := linked.change (.undone receiptId receipt reversalType bounceChargePaise mark
    receiptFound kind undoes)
  have given := deltaTo_pendingEntries reversed mirrored receiptFound id
  have credited : ∀ row ∈ books.pendingEntries receiptId, row.2.installmentId = some id →
      row.2.entryType = .receiptAlloc := by
    intro row member on
    obtain ⟨posted, own, _⟩ := mem_pendingEntries.mp member
    rcases (isOwnOf_iff.mp own).2 with credit | receivable
    · exact credit
    · rw [((linked.entry row.1 row.2 posted).receivable receivable).2.1] at on
      cases on
  have standing := allocatedOn_undo receiptFound undoes reversalType bounceChargePaise id
  rw [← given] at standing
  have gives : deltaTo id (reversalDeltas (books.pendingEntries receiptId)) ≤ 0 := by
    rw [given]
    split
    · exact le_refl 0
    · refine neg_nonpos.mpr (Table.sum_nonneg fun rowId row rowFound => ?_)
      obtain ⟨_, _, _, _, _, positive⟩ := linked.allocation rowId row rowFound
      split
      · exact positive.le
      · exact le_refl 0
  refine old.move moved next ?_ standing ?_
  · have within := old.within
    omega
  · have ledger : (books.undo receiptId receipt reversalType bounceChargePaise mark).ledger =
        books.ledger.createMany (reversalEntries receiptId receipt reversalType bounceChargePaise
          (books.pendingEntries receiptId)) := rfl
    rw [sumWhere_of_ledger ledger, sumEntries_touches_reversalEntries _ _ _ _ _ credited,
      sub_eq_add_neg]

theorem LedgerEntry.IsPlain.not_touches (plain : entry.IsPlain)
    (installmentId : Nat) : entry.touches installmentId = false := by
  simp [LedgerEntry.touches, plain.notCredit, plain.reversal]

theorem Books.Cached.change (linked : books.Linked known) (reversed : books.Reversed)
    (mirrored : books.Mirrored) (cached : books.Cached)
    (change : Books.Change known books next) : next.Cached := by
  cases change with
  | posted entries plain =>
    exact cached.of_foreign entries rfl (fun entry member => (plain entry member).not_touches) rfl
      (fun _ => rfl) fun id inst found => ⟨inst, found, rfl, rfl, rfl⟩
  | received dto booked accepts => exact cached.received linked booked accepts
  | marked receiptId mark keeps =>
    refine cached.of_foreign [] rfl (by simp) rfl (fun id => ?_)
      fun id inst found => ⟨inst, found, rfl, rfl, rfl⟩
    unfold Books.stands Books.markReceipt
    rw [Table.find?_modify]
    split
    · cases books.receipts.find? id <;> simp [keeps.reversed]
    · rfl
  | undone receiptId receipt reversalType bounceChargePaise mark found kind undoes =>
    exact cached.undone linked reversed mirrored bounceChargePaise found kind undoes
  | certified tdsDeductionId ded =>
    refine cached.of_foreign
      [{ bookingId := ded.bookingId
         entryType := .tdsCertAdjustment
         signedAmountPaise := -ded.deductedPaise }] rfl ?_ rfl (fun _ => rfl)
      fun id inst found => ⟨inst, found, rfl, rfl, rfl⟩
    intro entry member installmentId
    rw [List.mem_singleton.mp member]
    simp [LedgerEntry.touches]
  | dropped which =>
    refine cached.of_foreign [] rfl (by simp) rfl (fun _ => rfl) fun id inst found => ?_
    rw [Books.drop, Table.find?_delete, Option.filter_eq_some_iff] at found
    exact ⟨inst, found.1, rfl, rfl, rfl⟩
  | scheduled rows booked untouched nonneg =>
    intro id inst found
    rcases Table.find?_createMany found with old | ⟨fresh, member⟩
    · have same := cached id inst old
      exact ⟨same.nonneg, same.within, same.allocations, same.ledger, same.status⟩
    · have absent : books.installments.find? id = none := by
        cases present : books.installments.find? id with
        | none => rfl
        | some inst => exact absurd (Table.lt_nextId present) (Nat.not_lt.mpr fresh)
      obtain ⟨unallocated, unpaid⟩ := untouched inst member
      refine ⟨unallocated.ge, ?_, ?_, ?_, ?_⟩
      · rw [unallocated]
        exact nonneg inst member
      · rw [unallocated]
        exact (linked.allocatedOn_eq_zero absent).symm
      · rw [unallocated]
        exact (neg_eq_zero.mpr (linked.touches_eq_zero absent)).symm
      · intro positive
        rw [unallocated, unpaid, installmentStatus, if_neg (not_le.mpr positive), if_neg (lt_irrefl 0)]
  | rewritten which rewrite keeps =>
    refine cached.of_foreign [] rfl (by simp) rfl (fun _ => rfl) fun id inst found => ?_
    rw [Books.rewrite, Table.find?_modifyAll] at found
    obtain ⟨before, present, rfl⟩ := Option.map_eq_some_iff.mp found
    refine ⟨before, present, ?_⟩
    split
    · exact ⟨keeps.allocated before, keeps.amount before, keeps.status before⟩
    · exact ⟨rfl, rfl, rfl⟩

end OpenEstate
