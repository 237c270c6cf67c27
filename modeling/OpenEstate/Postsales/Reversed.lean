/-
**A receipt is undone once, and completely.**

* `Books.Reversed`: an entry of a receipt that stands has no reversal, an entry of a reversed
  receipt has exactly one;
* `Books.Totals`: the entries of a receipt add up to minus its cash, and their reversals to its cash
  once the receipt is reversed and to nothing before.

Both are kept by every change. They rest on what a reversal takes back: everything when the receipt
stands (`pendingEntries_of_stands`), nothing when it is reversed (`pendingEntries_of_reversed`).
-/

import OpenEstate.Postsales.Linked

namespace OpenEstate

open Relational

def Books.reversalsOf (books : Books) (entryId : Nat) : Nat :=
  books.ledger.count fun _ entry => entry.reversalOfEntryId = some entryId

def Books.Reversed (books : Books) : Prop :=
  ∀ entryId entry receiptId receipt, books.ledger.find? entryId = some entry →
    entry.isOwnOf receiptId = true → books.receipts.find? receiptId = some receipt →
    books.reversalsOf entryId = if receipt.isReversed then 1 else 0

theorem alreadyReversed_eq_false {books : Books} {entryId : Nat} :
    books.alreadyReversed entryId = false ↔ books.reversalsOf entryId = 0 := by
  rw [Books.alreadyReversed, Books.reversalsOf, Table.any_eq_false, Table.count_eq_zero]

variable {known : Nat → Prop}

theorem Books.Linked.reversalsOf_eq_zero {books : Books} (linked : books.Linked known)
    {entryId : Nat} (foreign : ∀ entry receiptId, books.ledger.find? entryId = some entry →
      entry.isOwnOf receiptId = false) : books.reversalsOf entryId = 0 := by
  rw [Books.reversalsOf, Table.count_eq_zero]
  intro id reversal found
  rw [decide_eq_false_iff_not]
  intro named
  obtain ⟨target, receiptId, present, own, _⟩ := (linked.entry id reversal found).reversal _ named
  rw [foreign target receiptId present] at own
  cases own

/-! ### What a reversal takes back -/

section Pending

variable {books : Books} {receiptId : Nat} {receipt : Receipt} (reversed : books.Reversed)
  (found : books.receipts.find? receiptId = some receipt)

include reversed found

theorem pendingEntries_of_stands (stands : receipt.isReversed = false) :
    books.pendingEntries receiptId = books.ledger.select fun _ entry => entry.isOwnOf receiptId := by
  refine List.filter_eq_self.mpr fun row member => ?_
  obtain ⟨posted, own⟩ := Table.mem_select.mp member
  have unreversed := reversed row.1 row.2 receiptId receipt posted own found
  rw [stands] at unreversed
  rw [alreadyReversed_eq_false.mpr unreversed]
  rfl

theorem pendingEntries_of_reversed (undone : receipt.isReversed = true) :
    books.pendingEntries receiptId = [] := by
  refine List.filter_eq_nil_iff.mpr fun row member => ?_
  obtain ⟨posted, own⟩ := Table.mem_select.mp member
  have once := reversed row.1 row.2 receiptId receipt posted own found
  rw [undone, if_pos rfl] at once
  cases already : books.alreadyReversed row.1 with
  | true => decide
  | false =>
    rw [alreadyReversed_eq_false.mp already] at once
    cases once

end Pending

theorem countP_reversalEntries (receiptId : Nat) (receipt : Receipt)
    (reversalType : LedgerEntryType) (bounceChargePaise : Int) {rows : List (Nat × LedgerEntry)}
    (distinct : (rows.map Prod.fst).Nodup) (entryId : Nat) :
    (reversalEntries receiptId receipt reversalType bounceChargePaise rows).countP
        (fun entry => entry.reversalOfEntryId = some entryId) =
      if entryId ∈ rows.map Prod.fst then 1 else 0 := by
  have charge : (if 0 < bounceChargePaise then
      [bounceChargeEntry receipt.bookingId receiptId bounceChargePaise] else []).countP
        (fun entry => entry.reversalOfEntryId = some entryId) = 0 := by
    split <;> rfl
  rw [reversalEntries, List.countP_append, charge, Nat.add_zero, List.countP_map,
    ← distinct.count, List.count, List.countP_map]
  refine List.countP_congr fun row _ => ?_
  simp [reversalEntry]

theorem nodup_pendingEntries (books : Books) (receiptId : Nat) :
    ((books.pendingEntries receiptId).map Prod.fst).Nodup :=
  (Table.select_nodup _ _).sublist (List.filter_sublist.map _)

theorem countP_reversalOf_eq_zero {entries : List LedgerEntry}
    (direct : ∀ entry ∈ entries, entry.reversalOfEntryId = none) (entryId : Nat) :
    entries.countP (fun entry => entry.reversalOfEntryId = some entryId) = 0 := by
  refine List.countP_eq_zero.mpr fun entry member => ?_
  rw [direct entry member]
  simp

/-! ### Changes keep it -/

variable {entry : LedgerEntry}

theorem not_isOwnOf_of_isPlain (plain : entry.IsPlain) (receiptId : Nat) :
    entry.isOwnOf receiptId = false := by
  cases own : entry.isOwnOf receiptId with
  | false => rfl
  | true =>
    have kind := ofReceipt_of_isOwnOf own
    rw [plain.kind] at kind
    cases kind

variable {reversalType : LedgerEntryType}

theorem not_isOwnOf_reversalEntries {receiptId : Nat} {receipt : Receipt} {bounceChargePaise : Int}
    {rows : List (Nat × LedgerEntry)}
    (kind : reversalType = .adjustment ∨ reversalType = .bounceReversal)
    (member : entry ∈ reversalEntries receiptId receipt reversalType bounceChargePaise rows)
    (other : Nat) : entry.isOwnOf other = false := by
  rw [LedgerEntry.isOwnOf, decide_eq_false_iff_not]
  rintro ⟨_, own⟩
  rcases mem_reversalEntries member with ⟨row, _, rfl⟩ | ⟨_, rfl⟩
  · have own : reversalType = .receiptAlloc ∨ reversalType = .tdsReceivable := own
    rcases kind with rfl | rfl <;> simp at own
  · simp [bounceChargeEntry] at own

theorem reversalOf_receiptEntries {receiptId : Nat} {dto : CreateReceiptDto}
    (member : entry ∈ receiptEntries receiptId dto) :
    entry.receiptId = some receiptId ∧ entry.reversalOfEntryId = none := by
  rcases mem_receiptEntries member with ⟨a, _, rfl⟩ | ⟨_, rfl⟩ <;> exact ⟨rfl, rfl⟩

variable {next : Books}

theorem Books.Reversed.of_foreign {books : Books} (reversed : books.Reversed)
    (entries : List LedgerEntry) (ledger : next.ledger = books.ledger.createMany entries)
    (direct : ∀ entry ∈ entries, entry.reversalOfEntryId = none)
    (foreign : ∀ entry ∈ entries, ∀ receiptId, entry.isOwnOf receiptId = false)
    (receipts : ∀ id receipt, next.receipts.find? id = some receipt →
      ∃ before, books.receipts.find? id = some before ∧
        receipt.isReversed = before.isReversed) : next.Reversed := by
  intro entryId entry receiptId receipt found own present
  rw [ledger] at found
  rcases Table.find?_createMany found with old | ⟨_, member⟩
  · obtain ⟨before, presentBefore, same⟩ := receipts receiptId receipt present
    rw [Books.reversalsOf, ledger, Table.count_createMany, countP_reversalOf_eq_zero direct,
      Nat.add_zero, same]
    exact reversed entryId entry receiptId before old own presentBefore
  · rw [foreign entry member] at own
    cases own

theorem Books.Reversed.received {books : Books} (linked : books.Linked known)
    (reversed : books.Reversed) (dto : CreateReceiptDto) : (books.recordReceipt dto).Reversed := by
  rw [recordReceipt_eq]
  intro entryId entry receiptId receipt found own present
  have counts : Table.count (books.ledger.createMany (receiptEntries books.receipts.nextId dto))
      (fun _ entry => entry.reversalOfEntryId = some entryId) = books.reversalsOf entryId := by
    rw [Table.count_createMany, countP_reversalOf_eq_zero fun entry member =>
      (reversalOf_receiptEntries member).2]
    rfl
  refine counts.trans ?_
  rcases Table.find?_createMany found with old | ⟨fresh, member⟩
  · -- an entry from before names a receipt from before
    obtain ⟨owner, ownerFound, _⟩ :=
      (linked.entry entryId entry old).receipt receiptId (isOwnOf_iff.mp own).1
    have stays := Table.find?_create_old (receiptRow dto) ownerFound
    rw [stays] at present
    cases present
    exact reversed entryId entry receiptId _ old own ownerFound
  · have named := (reversalOf_receiptEntries member).1
    rw [(isOwnOf_iff.mp own).1] at named
    cases named
    rw [Table.find?_create_self] at present
    cases present
    refine linked.reversalsOf_eq_zero fun target _ targetFound => ?_
    exact absurd (Table.lt_nextId targetFound) (Nat.not_lt.mpr fresh)

theorem Books.Reversed.undone {books : Books} (reversed : books.Reversed) {receiptId : Nat}
    {receipt : Receipt} (bounceChargePaise : Int) {mark : Receipt → Receipt}
    (found : books.receipts.find? receiptId = some receipt)
    (kind : reversalType = .adjustment ∨ reversalType = .bounceReversal)
    (undoes : Receipt.Undoes mark) :
    (books.undo receiptId receipt reversalType bounceChargePaise mark).Reversed := by
  intro entryId entry owner row present own ownerFound
  have counts : (books.undo receiptId receipt reversalType bounceChargePaise mark).reversalsOf
      entryId = books.reversalsOf entryId +
        if entryId ∈ (books.pendingEntries receiptId).map Prod.fst then 1 else 0 := by
    rw [← countP_reversalEntries receiptId receipt reversalType bounceChargePaise
      (nodup_pendingEntries books receiptId)]
    exact Table.count_createMany _ _ _
  rw [counts]
  rcases Table.find?_createMany present with old | ⟨_, member⟩
  swap
  · rw [not_isOwnOf_reversalEntries kind member] at own
    cases own
  have pending : entryId ∈ (books.pendingEntries receiptId).map Prod.fst ↔
      owner = receiptId ∧ books.reversalsOf entryId = 0 := by
    rw [List.mem_map]
    constructor
    · rintro ⟨⟨id, entry'⟩, inside, rfl⟩
      obtain ⟨posted, own', unreversed⟩ := mem_pendingEntries.mp inside
      rw [old] at posted
      cases posted
      have same := (isOwnOf_iff.mp own).1.symm.trans (isOwnOf_iff.mp own').1
      exact ⟨Option.some.inj same, alreadyReversed_eq_false.mp unreversed⟩
    · rintro ⟨rfl, none⟩
      exact ⟨(entryId, entry),
        mem_pendingEntries.mpr ⟨old, own, alreadyReversed_eq_false.mpr none⟩, rfl⟩
  rw [Books.undo, Table.find?_modify] at ownerFound
  by_cases same : owner = receiptId
  · subst same
    rw [if_pos rfl, found] at ownerFound
    cases ownerFound
    have before := reversed entryId entry owner receipt old own found
    rw [undoes.reversed, if_pos rfl]
    cases stands : receipt.isReversed with
    | false =>
      rw [stands] at before
      rw [if_pos (pending.mpr ⟨rfl, before⟩), before]
      rfl
    | true =>
      rw [stands, if_pos rfl] at before
      rw [if_neg fun inside => ?_, before]
      have none := (pending.mp inside).2
      rw [before] at none
      cases none
  · rw [if_neg same] at ownerFound
    rw [if_neg fun inside => same (pending.mp inside).1, Nat.add_zero]
    exact reversed entryId entry owner row old own ownerFound

theorem Books.Reversed.change {books : Books} (linked : books.Linked known)
    (reversed : books.Reversed) (change : Books.Change known books next) : next.Reversed := by
  have untouched : ∀ next : Books, next.ledger = books.ledger → next.receipts = books.receipts →
      next.Reversed := by
    intro next ledger receipts
    unfold Books.Reversed Books.reversalsOf
    rw [ledger, receipts]
    exact reversed
  cases change with
  | posted entries plain =>
    exact reversed.of_foreign entries rfl
      (fun entry member => (plain entry member).reversal)
      (fun entry member receiptId => not_isOwnOf_of_isPlain (plain entry member) receiptId)
      (fun id receipt found => ⟨receipt, found, rfl⟩)
  | received dto => exact reversed.received linked dto
  | marked receiptId mark keeps =>
    refine reversed.of_foreign [] rfl (by simp) (by simp) fun id receipt found => ?_
    rw [Books.markReceipt, Table.find?_modify] at found
    split at found
    · obtain ⟨before, present, rfl⟩ := Option.map_eq_some_iff.mp found
      exact ⟨before, present, keeps.reversed before⟩
    · exact ⟨receipt, found, rfl⟩
  | undone receiptId receipt reversalType bounceChargePaise mark found kind undoes =>
    exact reversed.undone bounceChargePaise found kind undoes
  | certified tdsDeductionId ded =>
    refine reversed.of_foreign
      [{ bookingId := ded.bookingId
         entryType := .tdsCertAdjustment
         signedAmountPaise := -ded.deductedPaise }] rfl (by simp) ?_
      (fun id receipt found => ⟨receipt, found, rfl⟩)
    intro entry member receiptId
    rw [List.mem_singleton.mp member]
    simp [LedgerEntry.isOwnOf]
  | dropped => exact untouched _ rfl rfl
  | scheduled => exact untouched _ rfl rfl
  | rewritten => exact untouched _ rfl rfl

/-! ### The totals of a receipt -/

def LedgerEntry.undoes (entry : LedgerEntry) (receiptId : Nat) : Bool :=
  entry.receiptId = some receiptId ∧ entry.reversalOfEntryId ≠ none

structure Books.ReceiptTotals (books : Books) (receiptId : Nat) (receipt : Receipt) : Prop where
  gross_pos : 0 < receipt.grossAmountPaise
  tds_le : books.tdsWithheld receiptId ≤ receipt.grossAmountPaise
  own : books.sumWhere (·.isOwnOf receiptId) = -books.netCash receiptId receipt
  undone : books.sumWhere (·.undoes receiptId) =
    if receipt.isReversed then books.netCash receiptId receipt else 0

def Books.Totals (books : Books) : Prop :=
  ∀ receiptId receipt, books.receipts.find? receiptId = some receipt →
    books.ReceiptTotals receiptId receipt

theorem sumWhere_eq_zero {books : Books} {counted : LedgerEntry → Bool}
    (uncounted : ∀ id entry, books.ledger.find? id = some entry → counted entry = false) :
    books.sumWhere counted = 0 := by
  refine Table.sum_eq_zero fun id entry found => ?_
  rw [uncounted id entry found]
  rfl

theorem sumWhere_of_ledger {books : Books} {entries : List LedgerEntry}
    (ledger : next.ledger = books.ledger.createMany entries) (counted : LedgerEntry → Bool) :
    next.sumWhere counted = books.sumWhere counted + sumEntries entries counted := by
  unfold Books.sumWhere
  rw [ledger]
  exact Table.sum_createMany _ _ _

theorem sum_select_ledger (books : Books) (counted : LedgerEntry → Bool) :
    ((books.ledger.select fun _ entry => counted entry).map (·.2.signedAmountPaise)).sum =
      books.sumWhere counted :=
  Table.sum_select books.ledger (fun _ entry => counted entry)
    fun _ (entry : LedgerEntry) => entry.signedAmountPaise

theorem sumEntries_allocationEntry {counted : LedgerEntry → Bool} {bookingId receiptId : Nat}
    {allocations : List ReceiptAllocationInput}
    (all : ∀ a ∈ allocations, counted (allocationEntry bookingId receiptId a) = true) :
    sumEntries (allocations.map (allocationEntry bookingId receiptId)) counted =
      -(allocations.map (·.amountPaise)).sum := by
  induction allocations with
  | nil => rfl
  | cons a rest ih =>
    obtain ⟨head, tail⟩ := List.forall_mem_cons.mp all
    rw [List.map_cons, sumEntries_cons, ih tail, head, List.map_cons, List.sum_cons, neg_add]
    rfl

theorem sumEntries_receiptEntries (receiptId : Nat) (dto : CreateReceiptDto)
    (sum : (dto.allocations.map (·.amountPaise)).sum = dto.grossAmountPaise) :
    sumEntries (receiptEntries receiptId dto) (·.isOwnOf receiptId) =
      dto.tdsDeductedPaise - dto.grossAmountPaise := by
  have credits : sumEntries (dto.allocations.map (allocationEntry dto.bookingId receiptId))
      (·.isOwnOf receiptId) = -dto.grossAmountPaise := by
    rw [sumEntries_allocationEntry fun a _ => by simp [LedgerEntry.isOwnOf, allocationEntry], sum]
  rw [receiptEntries, sumEntries_append, credits]
  split
  · simp [LedgerEntry.amountIf, LedgerEntry.isOwnOf, tdsReceivableEntry]
    ring
  · have none : dto.tdsDeductedPaise = 0 := by
      have nonneg := dto.tds_nonneg
      omega
    simp [none]

theorem tdsWithheld_receiptDeductions (books : Books) (entryId : Nat) (dto : CreateReceiptDto)
    (receiptId id : Nat) :
    Table.sum (books.tdsDeductions.createMany (receiptDeductions receiptId entryId dto))
        (fun _ ded => if ded.receiptId = id then ded.deductedPaise else 0) =
      books.tdsWithheld id + if receiptId = id then dto.tdsDeductedPaise else 0 := by
  rw [Table.sum_createMany, Books.tdsWithheld]
  congr 1
  unfold receiptDeductions
  split
  · simp
  · have none : dto.tdsDeductedPaise = 0 := by
      have nonneg := dto.tds_nonneg
      omega
    simp [none]

theorem Books.Linked.tdsWithheld_eq_zero {books : Books} (linked : books.Linked known)
    {receiptId : Nat}
    (absent : books.receipts.find? receiptId = none) : books.tdsWithheld receiptId = 0 := by
  refine Table.sum_eq_zero fun id ded found => if_neg fun same => ?_
  obtain ⟨receipt, present, _⟩ := linked.deduction id ded found
  rw [same, absent] at present
  cases present

theorem Books.Linked.receiptId_ne {books : Books} (linked : books.Linked known) {receiptId : Nat}
    (absent : books.receipts.find? receiptId = none) {id : Nat}
    (found : books.ledger.find? id = some entry) :
    entry.receiptId ≠ some receiptId := by
  intro named
  obtain ⟨receipt, present, _⟩ := (linked.entry id entry found).receipt receiptId named
  rw [absent] at present
  cases present

theorem Books.Totals.of_foreign {books : Books} (totals : books.Totals) (entries : List LedgerEntry)
    (ledger : next.ledger = books.ledger.createMany entries)
    (foreign : ∀ entry ∈ entries, entry.receiptId = none)
    (deductions : next.tdsDeductions = books.tdsDeductions)
    (receipts : ∀ id receipt, next.receipts.find? id = some receipt →
      ∃ before, books.receipts.find? id = some before ∧
        receipt.isReversed = before.isReversed ∧
        receipt.grossAmountPaise = before.grossAmountPaise) : next.Totals := by
  intro receiptId receipt found
  obtain ⟨before, present, sameState, sameGross⟩ := receipts receiptId receipt found
  have old := totals receiptId before present
  have tds : next.tdsWithheld receiptId = books.tdsWithheld receiptId := by
    unfold Books.tdsWithheld
    rw [deductions]
  have net : next.netCash receiptId receipt = books.netCash receiptId before := by
    unfold Books.netCash
    rw [sameGross, tds]
  refine ⟨sameGross ▸ old.gross_pos, tds ▸ sameGross ▸ old.tds_le, ?_, ?_⟩
  · rw [sumWhere_of_ledger ledger, net, old.own, sumEntries_eq_zero, add_zero]
    intro entry member
    simp [LedgerEntry.isOwnOf, foreign entry member]
  · rw [sumWhere_of_ledger ledger, net, sameState, old.undone, sumEntries_eq_zero, add_zero]
    intro entry member
    simp [LedgerEntry.undoes, foreign entry member]

theorem tdsWithheld_recordReceipt (books : Books) (dto : CreateReceiptDto) (receiptId : Nat) :
    (books.recordReceipt dto).tdsWithheld receiptId = books.tdsWithheld receiptId +
      if books.receipts.nextId = receiptId then dto.tdsDeductedPaise else 0 := by
  rw [← tdsWithheld_receiptDeductions books books.ledger.nextId, Books.tdsWithheld,
    recordReceipt_tdsDeductions]

theorem netCash_recordReceipt_new {books : Books} (linked : books.Linked known)
    (dto : CreateReceiptDto) : (books.recordReceipt dto).netCash books.receipts.nextId
      (receiptRow dto) = dto.grossAmountPaise - dto.tdsDeductedPaise := by
  rw [Books.netCash, tdsWithheld_recordReceipt, if_pos rfl,
    linked.tdsWithheld_eq_zero (Table.find?_nextId books.receipts), zero_add]
  rfl

theorem netCash_recordReceipt_old (books : Books) (dto : CreateReceiptDto) {receiptId : Nat}
    (older : receiptId ≠ books.receipts.nextId) (receipt : Receipt) :
    (books.recordReceipt dto).netCash receiptId receipt = books.netCash receiptId receipt := by
  rw [Books.netCash, tdsWithheld_recordReceipt, if_neg older.symm, add_zero, Books.netCash]

theorem Books.Totals.received {books : Books} (linked : books.Linked known) (totals : books.Totals)
    {dto : CreateReceiptDto} (accepts : books.AcceptsReceipt dto) :
    (books.recordReceipt dto).Totals := by
  intro receiptId receipt found
  have tds := tdsWithheld_recordReceipt books dto receiptId
  rw [recordReceipt_receipts, Table.find?_create] at found
  have absent := Table.find?_nextId books.receipts
  by_cases fresh : receiptId = books.receipts.nextId
  · -- the new receipt: nothing names it yet
    subst fresh
    rw [if_pos rfl] at found
    cases found
    rw [if_pos rfl, linked.tdsWithheld_eq_zero absent, zero_add] at tds
    have net := netCash_recordReceipt_new linked dto
    refine ⟨lt_of_lt_of_le Int.zero_lt_one dto.gross_pos, tds ▸ accepts.tds, ?_, ?_⟩
    · have silent : books.sumWhere (·.isOwnOf books.receipts.nextId) = 0 := by
        refine sumWhere_eq_zero fun id entry posted => ?_
        simp [LedgerEntry.isOwnOf, linked.receiptId_ne absent posted]
      rw [sumWhere_of_ledger (recordReceipt_ledger books dto), silent, net,
        sumEntries_receiptEntries _ dto accepts.sum]
      ring
    · have silent : books.sumWhere (·.undoes books.receipts.nextId) = 0 := by
        refine sumWhere_eq_zero fun id entry posted => ?_
        simp [LedgerEntry.undoes, linked.receiptId_ne absent posted]
      rw [sumWhere_of_ledger (recordReceipt_ledger books dto), silent, sumEntries_eq_zero]
      · rfl
      · intro entry member
        simp [LedgerEntry.undoes, (reversalOf_receiptEntries member).2]
  · -- an earlier receipt: the new entries name another one
    rw [if_neg fresh] at found
    rw [if_neg fun same => fresh same.symm, add_zero] at tds
    have old := totals receiptId receipt found
    have net := netCash_recordReceipt_old books dto fresh receipt
    have other : ∀ entry ∈ receiptEntries books.receipts.nextId dto,
        entry.receiptId ≠ some receiptId := by
      intro entry member named
      rw [(reversalOf_receiptEntries member).1] at named
      exact fresh (Option.some.inj named).symm
    refine ⟨old.gross_pos, tds ▸ old.tds_le, ?_, ?_⟩
    · rw [sumWhere_of_ledger (recordReceipt_ledger books dto), net, old.own, sumEntries_eq_zero,
        add_zero]
      intro entry member
      simp [LedgerEntry.isOwnOf, other entry member]
    · rw [sumWhere_of_ledger (recordReceipt_ledger books dto), net, old.undone, sumEntries_eq_zero,
        add_zero]
      intro entry member
      simp [LedgerEntry.undoes, other entry member]

theorem sumEntries_reversalEntries (receiptId : Nat) (receipt : Receipt)
    (reversalType : LedgerEntryType) (bounceChargePaise : Int) (rows : List (Nat × LedgerEntry))
    (other : Nat) :
    sumEntries (reversalEntries receiptId receipt reversalType bounceChargePaise rows)
        (·.undoes other) =
      if receiptId = other then -(rows.map (·.2.signedAmountPaise)).sum else 0 := by
  have charge : sumEntries (if 0 < bounceChargePaise then
      [bounceChargeEntry receipt.bookingId receiptId bounceChargePaise] else [])
      (·.undoes other) = 0 := by
    refine sumEntries_eq_zero fun entry member => ?_
    split at member
    · rw [List.mem_singleton.mp member]
      simp [LedgerEntry.undoes, bounceChargeEntry]
    · cases member
  rw [reversalEntries, sumEntries_append, charge, add_zero]
  induction rows with
  | nil => simp
  | cons row rest ih =>
    rw [List.map_cons, sumEntries_cons, ih, List.map_cons, List.sum_cons]
    by_cases same : receiptId = other
    · simp [same, LedgerEntry.amountIf, LedgerEntry.undoes, reversalEntry]
      ring
    · simp [same, LedgerEntry.amountIf, LedgerEntry.undoes, reversalEntry]

theorem Books.Totals.undone {books : Books} (reversed : books.Reversed) (totals : books.Totals)
    {receiptId : Nat} {receipt : Receipt} (bounceChargePaise : Int) {mark : Receipt → Receipt}
    (found : books.receipts.find? receiptId = some receipt)
    (kind : reversalType = .adjustment ∨ reversalType = .bounceReversal)
    (undoes : Receipt.Undoes mark) :
    (books.undo receiptId receipt reversalType bounceChargePaise mark).Totals := by
  intro other row present
  obtain ⟨before, old, sameGross, state⟩ : ∃ before, books.receipts.find? other = some before ∧
      row.grossAmountPaise = before.grossAmountPaise ∧
      row.isReversed = if other = receiptId then true else before.isReversed := by
    rw [Books.undo, Table.find?_modify] at present
    split at present
    · rename_i same
      obtain ⟨before, old, rfl⟩ := Option.map_eq_some_iff.mp present
      exact ⟨before, old, undoes.gross before, by rw [if_pos same, undoes.reversed]⟩
    · rename_i different
      exact ⟨row, present, rfl, (if_neg different).symm⟩
  have totalsBefore := totals other before old
  have net : (books.undo receiptId receipt reversalType bounceChargePaise mark).netCash other row =
      books.netCash other before := by
    unfold Books.netCash
    rw [sameGross]
    rfl
  have ledger : (books.undo receiptId receipt reversalType bounceChargePaise mark).ledger =
      books.ledger.createMany (reversalEntries receiptId receipt reversalType bounceChargePaise
        (books.pendingEntries receiptId)) := rfl
  refine ⟨sameGross ▸ totalsBefore.gross_pos, sameGross ▸ totalsBefore.tds_le, ?_, ?_⟩
  · rw [net, ← totalsBefore.own, sumWhere_of_ledger ledger, sumEntries_eq_zero, add_zero]
    exact fun entry member => not_isOwnOf_reversalEntries kind member other
  · rw [net, sumWhere_of_ledger ledger,
      sumEntries_reversalEntries]
    by_cases same : receiptId = other
    · subst same
      rw [found] at old
      cases old
      rw [if_pos rfl] at state
      rw [state, if_pos rfl, if_pos rfl, totalsBefore.undone]
      cases stands : receipt.isReversed with
      | false =>
        rw [pendingEntries_of_stands reversed found stands, sum_select_ledger, totalsBefore.own]
        simp
      | true =>
        rw [pendingEntries_of_reversed reversed found stands]
        simp
    · rw [if_neg fun equal => same equal.symm] at state
      rw [if_neg same, add_zero, totalsBefore.undone, state]

theorem Books.Totals.change {books : Books} (linked : books.Linked known)
    (reversed : books.Reversed) (totals : books.Totals)
    (change : Books.Change known books next) : next.Totals := by
  have untouched : ∀ next : Books, next.ledger = books.ledger → next.receipts = books.receipts →
      next.tdsDeductions = books.tdsDeductions → next.Totals := by
    intro next ledger receipts deductions
    refine totals.of_foreign [] ledger (by simp) deductions fun id receipt found => ?_
    exact ⟨receipt, receipts ▸ found, rfl, rfl⟩
  cases change with
  | posted entries plain =>
    exact totals.of_foreign entries rfl (fun entry member => (plain entry member).receipt) rfl
      fun id receipt found => ⟨receipt, found, rfl, rfl⟩
  | received dto booked accepts => exact totals.received linked accepts
  | marked receiptId mark keeps =>
    refine totals.of_foreign [] rfl (by simp) rfl fun id receipt found => ?_
    rw [Books.markReceipt, Table.find?_modify] at found
    split at found
    · obtain ⟨before, present, rfl⟩ := Option.map_eq_some_iff.mp found
      exact ⟨before, present, keeps.reversed before, keeps.gross before⟩
    · exact ⟨receipt, found, rfl, rfl⟩
  | undone receiptId receipt reversalType bounceChargePaise mark found kind undoes =>
    exact totals.undone reversed bounceChargePaise found kind undoes
  | certified tdsDeductionId ded =>
    refine totals.of_foreign
      [{ bookingId := ded.bookingId
         entryType := .tdsCertAdjustment
         signedAmountPaise := -ded.deductedPaise }] rfl ?_ rfl
      fun id receipt found => ⟨receipt, found, rfl, rfl⟩
    intro entry member
    rw [List.mem_singleton.mp member]
  | dropped => exact untouched _ rfl rfl rfl
  | scheduled => exact untouched _ rfl rfl rfl
  | rewritten => exact untouched _ rfl rfl rfl

end OpenEstate
