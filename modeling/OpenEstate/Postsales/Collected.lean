/-
**What is left to collect on a booking.**

The balance of a booking is kept by its ledger, what has been collected on it is read off its
receipts. The two are tied together by what has been charged on the booking and by the tax
certificates recorded on it, which are no receipts (`ReachableDb.balanced`). On a booking whose
balance is 0 and whose receipts are all good the cash collected is what was charged less what was
certified (`netReceived_of_settled`), and what was charged is the price as long as nothing but
receipts and certificates has followed (`chargedOn_of_receiptsOnly`).
-/

import OpenEstate.Postsales.CashHeld
import OpenEstate.Postsales.Reconciliation

namespace OpenEstate

open Relational

/-! ### Charges and certificates -/

/-- What has been charged on a booking, less what has been credited otherwise than by its receipts
and their certificates. -/
def Books.chargedOn (books : Books) (bookingId : Nat) : Int :=
  books.sumWhere fun entry => entry.bookingId = bookingId ∧ entry.entryType.ofReceipt = false

/-- The withheld tax for which certificates have been recorded on a booking. -/
def Books.certifiedOn (books : Books) (bookingId : Nat) : Int :=
  -books.sumWhere fun entry => entry.bookingId = bookingId ∧ entry.entryType = .tdsCertAdjustment

/-- **What was charged on a booking has been received, certified, or is owed.** -/
def Books.Balanced (books : Books) : Prop :=
  ∀ bookingId, books.balance bookingId + books.cashReceived bookingId + books.certifiedOn bookingId =
    books.chargedOn bookingId

variable {books : Books} {entries : List LedgerEntry}

theorem Books.Balanced.move {next : Books} (balanced : books.Balanced)
    (ledger : next.ledger = books.ledger.createMany entries)
    (moves : ∀ bookingId, next.balance bookingId - books.balance bookingId +
        (next.cashReceived bookingId - books.cashReceived bookingId) -
        sumEntries entries (fun entry =>
          entry.bookingId = bookingId ∧ entry.entryType = .tdsCertAdjustment) =
      sumEntries entries fun entry =>
        entry.bookingId = bookingId ∧ entry.entryType.ofReceipt = false) : next.Balanced := by
  intro bookingId
  have before := balanced bookingId
  have moved := moves bookingId
  unfold Books.certifiedOn Books.chargedOn at before ⊢
  rw [sumWhere_of_ledger ledger, sumWhere_of_ledger ledger]
  omega

theorem sumEntries_plain (plain : ∀ entry ∈ entries, entry.IsPlain) (bookingId : Nat) :
    (sumEntries entries fun entry =>
        entry.bookingId = bookingId ∧ entry.entryType.ofReceipt = false) =
      sumEntries entries fun entry => entry.bookingId = bookingId := by
  unfold sumEntries
  congr 1
  refine List.map_congr_left fun entry member => ?_
  simp [(plain entry member).kind]

theorem sumEntries_ofReceipt (ofReceipt : ∀ entry ∈ entries, entry.entryType.ofReceipt = true)
    (bookingId : Nat) :
    (sumEntries entries fun entry =>
      entry.bookingId = bookingId ∧ entry.entryType.ofReceipt = false) = 0 :=
  sumEntries_eq_zero fun entry member => by simp [ofReceipt entry member]

theorem sumEntries_certified (others : ∀ entry ∈ entries, entry.entryType ≠ .tdsCertAdjustment)
    (bookingId : Nat) :
    (sumEntries entries fun entry =>
      entry.bookingId = bookingId ∧ entry.entryType = .tdsCertAdjustment) = 0 :=
  sumEntries_eq_zero fun entry member => by simp [others entry member]

theorem charged_reversalEntries (receiptId : Nat) (receipt : Receipt)
    {reversalType : LedgerEntryType}
    (kind : reversalType = .adjustment ∨ reversalType = .bounceReversal)
    (bounceChargePaise : Int) (rows : List (Nat × LedgerEntry)) (bookingId : Nat) :
    (sumEntries (reversalEntries receiptId receipt reversalType bounceChargePaise rows) fun entry =>
        entry.bookingId = bookingId ∧ entry.entryType.ofReceipt = false) =
      if receipt.bookingId = bookingId then max 0 bounceChargePaise else 0 := by
  have undoing : ∀ entry ∈ rows.map (reversalEntry receiptId receipt reversalType),
      entry.entryType.ofReceipt = true := by
    intro entry member
    obtain ⟨row, _, rfl⟩ := List.mem_map.mp member
    show reversalType.ofReceipt = true
    rcases kind with rfl | rfl <;> rfl
  rw [reversalEntries, sumEntries_append, sumEntries_ofReceipt undoing, zero_add]
  split
  · rename_i charged
    rw [sumEntries_cons, sumEntries_nil, add_zero, max_eq_right charged.le]
    simp [bounceChargeEntry, LedgerEntry.amountIf, LedgerEntryType.ofReceipt]
  · rename_i free
    rw [sumEntries_nil, max_eq_left (not_lt.mp free), ite_self]

theorem Books.Balanced.undo {known : Nat → Prop} (balanced : books.Balanced)
    (sound : books.Sound known) {receiptId : Nat} {receipt : Receipt}
    (found : books.receipts.find? receiptId = some receipt) {reversalType : LedgerEntryType}
    (kind : reversalType = .adjustment ∨ reversalType = .bounceReversal) (bounceChargePaise : Int)
    {mark : Receipt → Receipt} (undoes : Receipt.Undoes mark) :
    (books.undo receiptId receipt reversalType bounceChargePaise mark).Balanced := by
  refine balanced.move rfl fun bookingId => ?_
  have uncertified : ∀ entry ∈ reversalEntries receiptId receipt reversalType bounceChargePaise
      (books.pendingEntries receiptId), entry.entryType ≠ .tdsCertAdjustment := by
    intro entry member
    rcases mem_reversalEntries member with ⟨row, _, rfl⟩ | ⟨_, rfl⟩
    · show reversalType ≠ .tdsCertAdjustment
      rcases kind with rfl | rfl <;> decide
    · exact nofun
  rw [sumEntries_certified uncertified, charged_reversalEntries receiptId receipt kind,
    balance_undo sound found, cashReceived_undo found undoes]
  split <;> omega

theorem Books.Balanced.receive {known : Nat → Prop} (balanced : books.Balanced)
    (linked : books.Linked known) {dto : CreateReceiptDto} (accepts : books.AcceptsReceipt dto) :
    (books.recordReceipt dto).Balanced := by
  refine balanced.move (recordReceipt_ledger books dto) fun bookingId => ?_
  have kinds : ∀ entry ∈ receiptEntries books.receipts.nextId dto,
      entry.entryType.ofReceipt = true ∧ entry.entryType ≠ .tdsCertAdjustment := by
    intro entry member
    rcases mem_receiptEntries member with ⟨a, _, rfl⟩ | ⟨_, rfl⟩
    · exact ⟨rfl, nofun⟩
    · exact ⟨rfl, nofun⟩
  rw [sumEntries_certified fun entry member => (kinds entry member).2,
    sumEntries_ofReceipt fun entry member => (kinds entry member).1,
    balance_recordReceipt accepts, cashReceived_recordReceipt linked]
  split <;> omega

theorem Books.Balanced.certify (balanced : books.Balanced) (tdsDeductionId : Nat)
    (ded : TdsDeduction) : (books.recordCertificate tdsDeductionId ded).Balanced := by
  have ledger : (books.recordCertificate tdsDeductionId ded).ledger = books.ledger.createMany
      [{ bookingId := ded.bookingId
         entryType := .tdsCertAdjustment
         signedAmountPaise := -ded.deductedPaise }] := rfl
  refine balanced.move ledger fun bookingId => ?_
  have cash : (books.recordCertificate tdsDeductionId ded).cashReceived bookingId =
      books.cashReceived bookingId := rfl
  rw [cash, balance_recordCertificate, sumEntries_cons, sumEntries_nil, sumEntries_cons,
    sumEntries_nil]
  by_cases own : ded.bookingId = bookingId
  · simp [own, LedgerEntry.amountIf, LedgerEntryType.ofReceipt]
  · simp [own, LedgerEntry.amountIf]

theorem exec_balanced (request : Request) (db after : Db) (sound : db.Sound)
    (balanced : db.Balanced) (accepted : exec request db = .ok after) : after.Balanced := by
  cases (exec_effect accepted).receiptStep with
  | foreign entries ledger plain receipts _ deductions =>
    refine balanced.move ledger fun bookingId => ?_
    have uncertified : ∀ entry ∈ entries, entry.entryType ≠ .tdsCertAdjustment := by
      intro entry member certificate
      have kind := (plain entry member).kind
      rw [certificate] at kind
      cases kind
    have posted : after.balance bookingId = db.balance bookingId +
        sumEntries entries fun entry => entry.bookingId = bookingId := sumWhere_of_ledger ledger _
    rw [sumEntries_certified uncertified, sumEntries_plain plain, posted,
      cashReceived_congr receipts deductions]
    omega
  | received dto _ accepts same =>
    subst same
    exact balanced.receive sound.books.linked accepts
  | cleared receiptId status receipt _ _ found _ _ _ same =>
    subst same
    have silent : (db.markReceipt receiptId (Receipt.withClearance status.clearance)).ledger =
        db.ledger.createMany [] := rfl
    refine balanced.move silent fun bookingId => ?_
    show db.balance bookingId - db.balance bookingId + ((db.markReceipt receiptId
      (Receipt.withClearance status.clearance)).cashReceived bookingId -
        db.cashReceived bookingId) - 0 = 0
    rw [cashReceived_markReceipt found]
    omega
  | bounced receiptId receipt _ found _ _ _ same =>
    subst same
    exact balanced.undo sound.books found (Or.inr rfl) _
      ⟨fun _ => rfl, fun _ => rfl, fun _ => rfl⟩
  | reversed receiptId receipt _ found _ _ same =>
    subst same
    exact balanced.undo sound.books found (Or.inl rfl) _
      ⟨fun _ => rfl, fun _ => rfl, fun _ => rfl⟩
  | certified tdsDeductionId ded _ _ _ same =>
    subst same
    exact balanced.certify tdsDeductionId ded

theorem ReachableDb.balanced {db : Db} (reachable : ReachableDb db) : db.Balanced := by
  have initially : ({} : Db).Balanced := fun _ => rfl
  exact reachable.invariant_of_sound initially exec_balanced

/-! ### Settled bookings -/

structure Db.IsSettled (db : Db) (bookingId : Nat) : Prop where
  balance : db.balance bookingId = 0
  valid : db.receipts.any (fun _ receipt =>
    receipt.bookingId = bookingId ∧ receipt.isCollected = false) = false

/-- **The cash collected on a settled booking** is what was charged less what was certified. -/
theorem netReceived_of_settled {db : Db} (reachable : ReachableDb db) {bookingId : Nat}
    (settled : db.IsSettled bookingId) :
    db.netReceived bookingId = db.chargedOn bookingId - db.certifiedOn bookingId := by
  have received : db.netReceived bookingId = db.cashReceived bookingId := by
    unfold Books.netReceived Books.cashReceived
    refine Table.sum_congr fun id receipt found => ?_
    by_cases own : receipt.bookingId = bookingId
    · have valid : receipt.isCollected = true := by
        have holds := Table.any_eq_false.mp settled.valid id receipt found
        simpa [own] using holds
      have stands : receipt.isReversed = false := (of_decide_eq_true valid).1
      rw [if_pos own, if_pos ⟨own, valid⟩, standingCash_of_stands _ _ stands]
    · simp [own]
  have balanced := reachable.balanced bookingId
  rw [settled.balance] at balanced
  omega

/-- A booking that was not opened by a transfer, and whose ledger holds nothing but the charges it
opened with and what receipts and certificates have posted. -/
structure Db.ReceiptsOnly (db : Db) (bookingId : Nat) : Prop where
  original : db.transfers.any (fun _ row => row.toBookingId = bookingId) = false
  ledger : db.ledger.any (fun _ entry => entry.bookingId = bookingId ∧
    entry.entryType ≠ .charge ∧ entry.entryType.ofReceipt = false) = false

/-- **The price is what is charged** when nothing but receipts and certificates has followed. -/
theorem chargedOn_of_receiptsOnly {db : Db} (reachable : ReachableDb db) {bookingId : Nat}
    {booking : Booking} (found : db.bookings.find? bookingId = some booking)
    (receiptsOnly : db.ReceiptsOnly bookingId) :
    db.chargedOn bookingId = booking.agreedPricePaise := by
  have opened := reachable.opened bookingId booking found
  have carried : db.notCarried bookingId booking.agreedPricePaise = 0 := by
    refine Table.sum_eq_zero fun id row present => if_neg ?_
    exact of_decide_eq_false (Table.any_eq_false.mp receiptsOnly.original id row present)
  have charges : db.chargedOn bookingId = db.openedWith bookingId := by
    unfold Books.chargedOn Books.openedWith Books.sumWhere
    refine Table.sum_congr fun id entry present => ?_
    have kinds := of_decide_eq_false (Table.any_eq_false.mp receiptsOnly.ledger id entry present)
    congr 1
    rw [decide_eq_decide]
    refine and_congr_right fun own => ?_
    constructor
    · intro plain
      have charge : entry.entryType = .charge := by
        by_contra other
        exact kinds ⟨own, other, plain⟩
      rw [charge]
      rfl
    · intro opens
      cases kind : entry.entryType <;> rw [kind] at opens <;> first | rfl | cases opens
  rw [charges]
  omega

end OpenEstate
