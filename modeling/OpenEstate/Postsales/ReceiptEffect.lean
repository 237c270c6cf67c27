/-
**What the receipt operations write.**

`recordReceipt` and `reverseReceiptLedger` make their writes one by one, in loops. Here each is
brought to one normal form: a list of entries appended to the ledger, a list of rows, and a list of
changes to installments. Everything after this module argues about these lists only.

* `recordReceipt_eq`: the writes of a receipt;
* `reverseReceiptLedger_eq`: the writes of a reversal, which undoes the entries that have none yet;
* `find?_bumpAll`: an installment after a list of changes.
-/

import OpenEstate.Postsales.Receipt

namespace OpenEstate

open Relational

/-! ### Changes to installments -/

def deltaTo (installmentId : Nat) (deltas : List (Nat × Int)) : Int :=
  (deltas.map fun delta => if delta.1 = installmentId then delta.2 else 0).sum

def bumpAll (installments : Table Installment) (deltas : List (Nat × Int)) : Table Installment :=
  deltas.foldl (fun table delta => table.modify delta.1 (·.bump delta.2)) installments

/-- **An installment after changes**: its allocation moved by their sum, its status is as before or
recomputed, and everything else is as before. -/
structure Installment.Bumped (inst after : Installment) (delta : Int) : Prop where
  kept : after =
    { inst with allocatedPaise := inst.allocatedPaise + delta, status := after.status }
  status : after.status = inst.status ∧ delta = 0 ∨
    after.status = installmentStatus inst.amountPaise (inst.allocatedPaise + delta)

@[simp] theorem deltaTo_nil (installmentId : Nat) : deltaTo installmentId [] = 0 := rfl

@[simp] theorem deltaTo_cons (installmentId : Nat) (delta : Nat × Int) (deltas : List (Nat × Int)) :
    deltaTo installmentId (delta :: deltas) =
      (if delta.1 = installmentId then delta.2 else 0) + deltaTo installmentId deltas :=
  List.sum_cons

theorem Installment.Bumped.refl (inst : Installment) : inst.Bumped inst 0 where
  kept := by rw [add_zero]
  status := Or.inl ⟨rfl, rfl⟩

variable {inst : Installment}

theorem Installment.Bumped.bump {middle : Installment} {earlier : Int}
    (moved : inst.Bumped middle earlier) (delta : Int) :
    inst.Bumped (middle.bump delta) (earlier + delta) where
  kept := by
    rw [moved.kept]
    simp only [Installment.bump, add_assoc]
  status := by
    refine Or.inr ?_
    rw [moved.kept]
    simp only [Installment.bump, add_assoc]

variable {after : Installment} {delta : Int}

theorem Installment.Bumped.allocated (moved : inst.Bumped after delta) :
    after.allocatedPaise = inst.allocatedPaise + delta := by
  rw [moved.kept]

theorem Installment.Bumped.amount
    (moved : inst.Bumped after delta) : after.amountPaise = inst.amountPaise := by
  rw [moved.kept]

theorem Installment.Bumped.booking
    (moved : inst.Bumped after delta) : after.bookingId = inst.bookingId := by
  rw [moved.kept]

theorem Installment.Bumped.plan (moved : inst.Bumped after delta) : after.planId = inst.planId := by
  rw [moved.kept]

theorem Installment.Bumped.seq (moved : inst.Bumped after delta) : after.seq = inst.seq := by
  rw [moved.kept]

theorem find?_bumpAll (installments : Table Installment) (deltas : List (Nat × Int))
    (installmentId : Nat) :
    ∃ change : Installment → Installment,
      (bumpAll installments deltas).find? installmentId =
        (installments.find? installmentId).map change ∧
      ∀ inst : Installment, inst.Bumped (change inst) (deltaTo installmentId deltas) := by
  induction deltas using List.reverseRecOn with
  | nil => exact ⟨id, by simp [bumpAll], Installment.Bumped.refl⟩
  | append_singleton earlier delta ih =>
    obtain ⟨change, looked, moved⟩ := ih
    have split : deltaTo installmentId (earlier ++ [delta]) =
        deltaTo installmentId earlier + if delta.1 = installmentId then delta.2 else 0 := by
      simp [deltaTo]
    rw [split]
    unfold bumpAll at looked ⊢
    rw [List.foldl_append, List.foldl_cons, List.foldl_nil, Table.find?_modify, looked]
    by_cases named : installmentId = delta.1
    · refine ⟨fun inst => (change inst).bump delta.2, ?_, fun inst => ?_⟩
      · rw [if_pos named, Option.map_map]
        rfl
      · rw [if_pos named.symm]
        exact (moved inst).bump delta.2
    · refine ⟨change, if_neg named, fun inst => ?_⟩
      rw [if_neg fun same => named same.symm, add_zero]
      exact moved inst

variable {installments : Table Installment} {installmentId : Nat}

theorem find?_bumpAll_of_some (deltas : List (Nat × Int))
    (found : installments.find? installmentId = some inst) :
    ∃ after, (bumpAll installments deltas).find? installmentId = some after ∧
      inst.Bumped after (deltaTo installmentId deltas) := by
  obtain ⟨change, looked, moved⟩ := find?_bumpAll installments deltas installmentId
  refine ⟨change inst, ?_, moved inst⟩
  rw [looked, found]
  rfl

theorem exists_of_find?_bumpAll {deltas : List (Nat × Int)}
    (found : (bumpAll installments deltas).find? installmentId = some after) :
    ∃ inst, installments.find? installmentId = some inst ∧
      inst.Bumped after (deltaTo installmentId deltas) := by
  obtain ⟨change, looked, moved⟩ := find?_bumpAll installments deltas installmentId
  rw [looked] at found
  obtain ⟨inst, before, rfl⟩ := Option.map_eq_some_iff.mp found
  exact ⟨inst, before, moved inst⟩

theorem foldl_bumpInstallment (deltas : List (Nat × Int)) (books : Books) :
    deltas.foldl (fun books delta => books.bumpInstallment delta.1 delta.2) books =
      { books with installments := bumpAll books.installments deltas } := by
  induction deltas generalizing books with
  | nil => rfl
  | cons delta rest ih => exact ih _

/-! ### The running totals of a receipt's lines -/

theorem deltaTo_addToTotal (totals : List (Nat × Int)) (key : Nat) (amount : Int)
    (installmentId : Nat) :
    deltaTo installmentId (addToTotal totals key amount) =
      deltaTo installmentId totals + if key = installmentId then amount else 0 := by
  induction totals with
  | nil => simp [addToTotal]
  | cons head rest ih =>
    obtain ⟨existing, total⟩ := head
    rw [addToTotal]
    by_cases same : existing = key
    · subst same
      rw [if_pos rfl, deltaTo_cons, deltaTo_cons]
      by_cases named : existing = installmentId
      · simp only [if_pos named]
        ring
      · simp only [if_neg named]
        ring
    · rw [if_neg same, deltaTo_cons, ih, deltaTo_cons, add_assoc]

theorem keys_addToTotal (totals : List (Nat × Int)) (key : Nat) (amount : Int) :
    (addToTotal totals key amount).map Prod.fst =
      if key ∈ totals.map Prod.fst then totals.map Prod.fst else totals.map Prod.fst ++ [key] := by
  induction totals with
  | nil => rfl
  | cons head rest ih =>
    obtain ⟨existing, total⟩ := head
    rw [addToTotal]
    by_cases same : existing = key
    · simp [same]
    · have different : key ≠ existing := fun equal => same equal.symm
      rw [if_neg same, List.map_cons, ih]
      by_cases later : key ∈ rest.map Prod.fst
      · rw [if_pos later, List.map_cons, if_pos (List.mem_cons_of_mem _ later)]
      · rw [if_neg later, List.map_cons, if_neg (by simp_all)]
        rfl

theorem nodup_keys_addToTotal {totals : List (Nat × Int)} (distinct : (totals.map Prod.fst).Nodup)
    (key : Nat) (amount : Int) : ((addToTotal totals key amount).map Prod.fst).Nodup := by
  rw [keys_addToTotal]
  split
  · exact distinct
  · rename_i fresh
    refine List.Nodup.append distinct (List.nodup_singleton key) ?_
    intro existing member equal
    exact fresh (List.mem_singleton.mp equal ▸ member)

theorem deltaTo_of_mem {totals : List (Nat × Int)} (distinct : (totals.map Prod.fst).Nodup)
    {key : Nat} {amount : Int} (member : (key, amount) ∈ totals) :
    deltaTo key totals = amount := by
  induction totals with
  | nil => cases member
  | cons head rest ih =>
    obtain ⟨fresh, distinctRest⟩ := List.nodup_cons.mp distinct
    rcases List.mem_cons.mp member with rfl | later
    · have silent : deltaTo key rest = 0 := by
        refine List.sum_eq_zero fun figure inside => ?_
        obtain ⟨delta, listed, rfl⟩ := List.mem_map.mp inside
        exact if_neg fun same : delta.1 = key =>
          fresh (List.mem_map.mpr ⟨delta, listed, same⟩)
      rw [deltaTo_cons, if_pos rfl, silent, add_zero]
    · have different : head.1 ≠ key := fun same =>
        fresh (List.mem_map.mpr ⟨(key, amount), later, same.symm⟩)
      rw [deltaTo_cons, if_neg different, zero_add, ih distinctRest later]

def allocationDeltas (allocations : List ReceiptAllocationInput) : List (Nat × Int) :=
  allocations.map fun a => (a.installmentId, a.amountPaise)

theorem deltaTo_allocationDeltas_cons (installmentId : Nat) (a : ReceiptAllocationInput)
    (rest : List ReceiptAllocationInput) :
    deltaTo installmentId (allocationDeltas (a :: rest)) =
      (if a.installmentId = installmentId then a.amountPaise else 0) +
        deltaTo installmentId (allocationDeltas rest) :=
  List.sum_cons

theorem foldl_addToTotal (allocations : List ReceiptAllocationInput) (totals : List (Nat × Int))
    (distinct : (totals.map Prod.fst).Nodup) :
    let result := allocations.foldl (fun totals a => addToTotal totals a.installmentId a.amountPaise)
      totals
    (result.map Prod.fst).Nodup ∧ ∀ installmentId, deltaTo installmentId result =
      deltaTo installmentId totals + deltaTo installmentId (allocationDeltas allocations) := by
  induction allocations generalizing totals with
  | nil => exact ⟨distinct, fun _ => (add_zero _).symm⟩
  | cons a rest ih =>
    obtain ⟨distinctAfter, sums⟩ :=
      ih _ (nodup_keys_addToTotal distinct a.installmentId a.amountPaise)
    refine ⟨distinctAfter, fun installmentId => ?_⟩
    rw [List.foldl_cons, sums, deltaTo_addToTotal, add_assoc]
    rfl

theorem deltaTo_addByInst (allocations : List ReceiptAllocationInput) (installmentId : Nat) :
    deltaTo installmentId (addByInst allocations) =
      deltaTo installmentId (allocationDeltas allocations) := by
  have sums := (foldl_addToTotal allocations [] List.nodup_nil).2 installmentId
  rw [deltaTo_nil, zero_add] at sums
  exact sums

theorem nodup_keys_addByInst (allocations : List ReceiptAllocationInput) :
    ((addByInst allocations).map Prod.fst).Nodup :=
  (foldl_addToTotal allocations [] List.nodup_nil).1

/-! ### The writes of a receipt -/

def receiptEntries (receiptId : Nat) (dto : CreateReceiptDto) : List LedgerEntry :=
  dto.allocations.map (allocationEntry dto.bookingId receiptId) ++
    if 0 < dto.tdsDeductedPaise then
      [tdsReceivableEntry dto.bookingId receiptId dto.tdsDeductedPaise]
    else []

/-- The deductions of a receipt; `entryId` is the entry of the first line. -/
def receiptDeductions (receiptId entryId : Nat) (dto : CreateReceiptDto) : List TdsDeduction :=
  if 0 < dto.tdsDeductedPaise then
    [{ bookingId := dto.bookingId
       receiptId
       deductedPaise := dto.tdsDeductedPaise
       receivableLedgerEntryId := entryId + dto.allocations.length }]
  else []

theorem foldl_recordAllocation (bookingId receiptId : Nat)
    (allocations : List ReceiptAllocationInput) (books : Books) :
    allocations.foldl (fun books a => books.recordAllocation bookingId receiptId a) books =
      { books with
        allocations := books.allocations.createMany (allocations.map (allocationRow receiptId))
        ledger := books.ledger.createMany
          (allocations.map (allocationEntry bookingId receiptId)) } := by
  induction allocations generalizing books with
  | nil => rfl
  | cons a rest ih => exact ih _

theorem recordReceipt_eq (books : Books) (dto : CreateReceiptDto) :
    books.recordReceipt dto =
      { receipts := books.receipts.create (receiptRow dto)
        allocations := books.allocations.createMany
          (dto.allocations.map (allocationRow books.receipts.nextId))
        installments := bumpAll books.installments (addByInst dto.allocations)
        ledger := books.ledger.createMany (receiptEntries books.receipts.nextId dto)
        tdsDeductions := books.tdsDeductions.createMany
          (receiptDeductions books.receipts.nextId books.ledger.nextId dto)
        tdsCertificates := books.tdsCertificates } := by
  unfold Books.recordReceipt Books.recordTds receiptEntries receiptDeductions
  simp only [foldl_recordAllocation, foldl_bumpInstallment]
  split
  · simp only [Books.post, Table.createMany_append, Table.createMany_cons, Table.createMany_nil,
      Table.nextId_createMany, List.length_map]
  · simp only [List.append_nil, Table.createMany_nil]

@[simp] theorem recordReceipt_receipts (books : Books) (dto : CreateReceiptDto) :
    (books.recordReceipt dto).receipts = books.receipts.create (receiptRow dto) := by
  rw [recordReceipt_eq]

@[simp] theorem recordReceipt_allocations (books : Books) (dto : CreateReceiptDto) :
    (books.recordReceipt dto).allocations = books.allocations.createMany
      (dto.allocations.map (allocationRow books.receipts.nextId)) := by
  rw [recordReceipt_eq]

@[simp] theorem recordReceipt_installments (books : Books) (dto : CreateReceiptDto) :
    (books.recordReceipt dto).installments =
      bumpAll books.installments (addByInst dto.allocations) := by
  rw [recordReceipt_eq]

@[simp] theorem recordReceipt_ledger (books : Books) (dto : CreateReceiptDto) :
    (books.recordReceipt dto).ledger =
      books.ledger.createMany (receiptEntries books.receipts.nextId dto) := by
  rw [recordReceipt_eq]

@[simp] theorem recordReceipt_tdsDeductions (books : Books) (dto : CreateReceiptDto) :
    (books.recordReceipt dto).tdsDeductions = books.tdsDeductions.createMany
      (receiptDeductions books.receipts.nextId books.ledger.nextId dto) := by
  rw [recordReceipt_eq]

@[simp] theorem recordReceipt_tdsCertificates (books : Books) (dto : CreateReceiptDto) :
    (books.recordReceipt dto).tdsCertificates = books.tdsCertificates := by
  rw [recordReceipt_eq]

/-! ### The writes of a reversal -/

def reversalDeltas (rows : List (Nat × LedgerEntry)) : List (Nat × Int) :=
  rows.filterMap fun row =>
    match row.2.entryType, row.2.installmentId with
    | .receiptAlloc, some installmentId => some (installmentId, row.2.signedAmountPaise)
    | _, _ => none

def reversalEntries (receiptId : Nat) (receipt : Receipt) (reversalType : LedgerEntryType)
    (bounceChargePaise : Int) (rows : List (Nat × LedgerEntry)) : List LedgerEntry :=
  rows.map (reversalEntry receiptId receipt reversalType) ++
    if 0 < bounceChargePaise then
      [bounceChargeEntry receipt.bookingId receiptId bounceChargePaise]
    else []

theorem reverseEntry_eq (books : Books) (receiptId : Nat) (receipt : Receipt)
    (reversalType : LedgerEntryType) (row : Nat × LedgerEntry) :
    books.reverseEntry receiptId receipt reversalType row =
      { books with
        ledger := books.ledger.create (reversalEntry receiptId receipt reversalType row)
        installments := bumpAll books.installments (reversalDeltas [row]) } := by
  unfold Books.reverseEntry reversalDeltas
  split
  · rename_i credit named
    rw [List.filterMap_cons, credit, named]
    rfl
  · rename_i notCredit
    rw [List.filterMap_cons]
    split
    · rfl
    · rename_i matched
      split at matched
      · rename_i credit named
        exact absurd named (notCredit _ credit)
      · cases matched

theorem foldl_reverseEntry (receiptId : Nat) (receipt : Receipt) (reversalType : LedgerEntryType)
    (rows : List (Nat × LedgerEntry)) (books : Books) :
    rows.foldl (fun books row => books.reverseEntry receiptId receipt reversalType row) books =
      { books with
        ledger := books.ledger.createMany (rows.map (reversalEntry receiptId receipt reversalType))
        installments := bumpAll books.installments (reversalDeltas rows) } := by
  induction rows generalizing books with
  | nil => rfl
  | cons row rest ih =>
    have split : reversalDeltas (row :: rest) = reversalDeltas [row] ++ reversalDeltas rest := by
      unfold reversalDeltas
      rw [← List.filterMap_append]
      rfl
    rw [List.foldl_cons, ih, reverseEntry_eq, split]
    unfold bumpAll
    rw [List.foldl_append]
    rfl

theorem reverseReceiptLedger_eq (books : Books) (receiptId : Nat) (receipt : Receipt)
    (reversalType : LedgerEntryType) (bounceChargePaise : Int) :
    books.reverseReceiptLedger receiptId receipt reversalType bounceChargePaise =
      { books with
        installments :=
          bumpAll books.installments (reversalDeltas (books.pendingEntries receiptId))
        ledger := books.ledger.createMany (reversalEntries receiptId receipt reversalType
          bounceChargePaise (books.pendingEntries receiptId)) } := by
  unfold Books.reverseReceiptLedger reversalEntries
  simp only [foldl_reverseEntry]
  split
  · simp only [Books.post, Table.createMany_append]
  · simp only [List.append_nil]

end OpenEstate
