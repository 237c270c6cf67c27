/-
**What the operations do to a balance.**

The balance of a booking moves by the entries posted on it. Here is what that comes to for the
operations whose entries are not a single amount: a receipt credits its cash, undoing one that
stands debits it again (and undoing one that does not debits nothing), a transfer leaves nothing on
the old booking and everything on the new one, a cancellation leaves minus what is refundable.
-/

import OpenEstate.Postsales.ReceiptStep

namespace OpenEstate

open Relational

/-! ### Entries of one booking -/

def totalOf (entries : List LedgerEntry) : Int := (entries.map (·.signedAmountPaise)).sum

@[simp] theorem totalOf_nil : totalOf [] = 0 := rfl

@[simp] theorem totalOf_cons (entry : LedgerEntry) (entries : List LedgerEntry) :
    totalOf (entry :: entries) = entry.signedAmountPaise + totalOf entries :=
  List.sum_cons

@[simp] theorem totalOf_append (first second : List LedgerEntry) :
    totalOf (first ++ second) = totalOf first + totalOf second := by
  simp [totalOf]

theorem sumEntries_of_booking {entries : List LedgerEntry} {owner : Nat}
    (owned : ∀ entry ∈ entries, entry.bookingId = owner) (bookingId : Nat) :
    sumEntries entries (fun entry => entry.bookingId = bookingId) =
      if owner = bookingId then totalOf entries else 0 := by
  induction entries with
  | nil => simp
  | cons entry rest ih =>
    obtain ⟨head, tail⟩ := List.forall_mem_cons.mp owned
    rw [sumEntries_cons, ih tail, totalOf_cons, head]
    by_cases same : owner = bookingId <;> simp [same, LedgerEntry.amountIf]

variable {books : Books}

theorem balance_of_ledger {next : Books} {entries : List LedgerEntry} {owner : Nat}
    (ledger : next.ledger = books.ledger.createMany entries)
    (owned : ∀ entry ∈ entries, entry.bookingId = owner) (bookingId : Nat) :
    next.balance bookingId =
      books.balance bookingId + if owner = bookingId then totalOf entries else 0 := by
  unfold Books.balance
  rw [sumWhere_of_ledger ledger, sumEntries_of_booking owned]

theorem balance_congr {next : Books} (ledger : next.ledger = books.ledger)
    (bookingId : Nat) : next.balance bookingId = books.balance bookingId := by
  unfold Books.balance Books.sumWhere
  rw [ledger]

theorem balance_post_singleton (books : Books) (entry : LedgerEntry) (bookingId : Nat) :
    (books.post [entry]).balance bookingId =
      books.balance bookingId +
        if entry.bookingId = bookingId then entry.signedAmountPaise else 0 := by
  have owned : ∀ posted ∈ [entry], posted.bookingId = entry.bookingId := by simp
  rw [balance_of_ledger (rfl : (books.post [entry]).ledger = _) owned, totalOf_cons, totalOf_nil,
    add_zero]

variable {known : Nat → Prop}

theorem Books.Linked.balance_eq_zero (linked : books.Linked known) {bookingId : Nat}
    (unknown : ¬known bookingId) :
    books.balance bookingId = 0 := by
  refine sumWhere_eq_zero fun id entry found => ?_
  rw [decide_eq_false_iff_not]
  rintro rfl
  exact unknown (linked.entry id entry found).booking

/-! ### Receipts -/

variable {receiptId : Nat}
variable {dto : CreateReceiptDto}

theorem owner_of_mem_receiptEntries {entry : LedgerEntry}
    (member : entry ∈ receiptEntries receiptId dto) : entry.bookingId = dto.bookingId := by
  rcases mem_receiptEntries member with ⟨a, _, rfl⟩ | ⟨_, rfl⟩ <;> rfl

theorem totalOf_receiptEntries (receiptId : Nat)
    (sum : (dto.allocations.map (·.amountPaise)).sum = dto.grossAmountPaise) :
    totalOf (receiptEntries receiptId dto) = dto.tdsDeductedPaise - dto.grossAmountPaise := by
  have lines : totalOf (dto.allocations.map (allocationEntry dto.bookingId receiptId)) =
      -(dto.allocations.map (·.amountPaise)).sum := by
    induction dto.allocations with
    | nil => rfl
    | cons a rest ih =>
      rw [List.map_cons, totalOf_cons, ih, List.map_cons, List.sum_cons, neg_add]
      rfl
  have tds := dto.tds_nonneg
  rw [receiptEntries, totalOf_append, lines, sum]
  split
  · simp only [totalOf_cons, totalOf_nil, tdsReceivableEntry]
    omega
  · rw [totalOf_nil]
    omega

/-- **A receipt credits its cash.** -/
theorem balance_recordReceipt (accepts : books.AcceptsReceipt dto) (bookingId : Nat) :
    (books.recordReceipt dto).balance bookingId = books.balance bookingId +
      if dto.bookingId = bookingId then dto.tdsDeductedPaise - dto.grossAmountPaise else 0 := by
  rw [balance_of_ledger (recordReceipt_ledger books dto)
    (fun _ member => owner_of_mem_receiptEntries member), totalOf_receiptEntries _ accepts.sum]

variable {receipt : Receipt}

theorem owner_of_mem_reversalEntries {reversalType : LedgerEntryType} {bounceChargePaise : Int}
    {rows : List (Nat × LedgerEntry)} {entry : LedgerEntry}
    (member : entry ∈ reversalEntries receiptId receipt reversalType bounceChargePaise rows) :
    entry.bookingId = receipt.bookingId := by
  rcases mem_reversalEntries member with ⟨row, _, rfl⟩ | ⟨_, rfl⟩ <;> rfl

theorem totalOf_reversalEntries (receiptId : Nat) (receipt : Receipt)
    (reversalType : LedgerEntryType) (bounceChargePaise : Int) (rows : List (Nat × LedgerEntry)) :
    totalOf (reversalEntries receiptId receipt reversalType bounceChargePaise rows) =
      max 0 bounceChargePaise - (rows.map (·.2.signedAmountPaise)).sum := by
  have negated : totalOf (rows.map (reversalEntry receiptId receipt reversalType)) =
      -(rows.map (·.2.signedAmountPaise)).sum := by
    induction rows with
    | nil => rfl
    | cons row rest ih =>
      rw [List.map_cons, totalOf_cons, ih, List.map_cons, List.sum_cons, neg_add]
      rfl
  rw [reversalEntries, totalOf_append, negated]
  split
  · simp only [totalOf_cons, totalOf_nil, bounceChargeEntry]
    omega
  · rw [totalOf_nil]
    omega

def Books.standingCash (books : Books) (receiptId : Nat) (receipt : Receipt) : Int :=
  if receipt.isReversed then 0 else books.netCash receiptId receipt

theorem standingCash_of_stands (books : Books) (receiptId : Nat)
    (stands : receipt.isReversed = false) :
    books.standingCash receiptId receipt = books.netCash receiptId receipt := by
  rw [Books.standingCash, stands, if_neg Bool.false_ne_true]

theorem sum_pendingEntries (sound : books.Sound known)
    (found : books.receipts.find? receiptId = some receipt) :
    ((books.pendingEntries receiptId).map (·.2.signedAmountPaise)).sum =
      -books.standingCash receiptId receipt := by
  unfold Books.standingCash
  cases stands : receipt.isReversed with
  | false =>
    rw [pendingEntries_of_stands sound.reversed found stands, sum_select_ledger,
      (sound.totals receiptId receipt found).own]
    simp
  | true =>
    rw [pendingEntries_of_reversed sound.reversed found stands]
    simp

/-- **Undoing a receipt debits the cash it still stood for**, and a charge. -/
theorem balance_undo (sound : books.Sound known)
    (found : books.receipts.find? receiptId = some receipt) (reversalType : LedgerEntryType)
    (bounceChargePaise : Int) (mark : Receipt → Receipt) (bookingId : Nat) :
    (books.undo receiptId receipt reversalType bounceChargePaise mark).balance bookingId =
      books.balance bookingId + if receipt.bookingId = bookingId then
        books.standingCash receiptId receipt + max 0 bounceChargePaise else 0 := by
  have ledger : (books.undo receiptId receipt reversalType bounceChargePaise mark).ledger =
      books.ledger.createMany (reversalEntries receiptId receipt reversalType bounceChargePaise
        (books.pendingEntries receiptId)) := rfl
  rw [balance_of_ledger ledger fun _ member => owner_of_mem_reversalEntries member,
    totalOf_reversalEntries, sum_pendingEntries sound found]
  congr 2
  omega

/-- **A certificate credits the withheld tax.** -/
theorem balance_recordCertificate (books : Books) (tdsDeductionId : Nat) (ded : TdsDeduction)
    (bookingId : Nat) :
    (books.recordCertificate tdsDeductionId ded).balance bookingId = books.balance bookingId +
      if ded.bookingId = bookingId then -ded.deductedPaise else 0 :=
  balance_post_singleton books _ bookingId

theorem netCash_nonneg (sound : books.Sound known)
    (found : books.receipts.find? receiptId = some receipt) :
    0 ≤ books.netCash receiptId receipt := by
  have within := (sound.totals receiptId receipt found).tds_le
  unfold Books.netCash
  omega

theorem standingCash_nonneg (sound : books.Sound known)
    (found : books.receipts.find? receiptId = some receipt) :
    0 ≤ books.standingCash receiptId receipt := by
  have nonneg := netCash_nonneg sound found
  unfold Books.standingCash
  split <;> omega

/-! ### Transfers and cancellations -/

/-- **A transfer** leaves nothing on the old booking and the old balance, with the fee, on the new
one. -/
theorem balance_carryOver {db : Db} (sound : db.Sound) {fromBookingId : Nat} (opened : Booking)
    (transferFeePaise : Int) (known : db.hasBooking fromBookingId) (bookingId : Nat) :
    (db.carryOver fromBookingId opened (db.balance fromBookingId) transferFeePaise).balance
        bookingId =
      if bookingId = fromBookingId then 0
      else if bookingId = db.bookings.nextId then
        db.balance fromBookingId + max 0 transferFeePaise
      else db.balance bookingId := by
  have older : fromBookingId < db.bookings.nextId := known
  have closed : (db.toBooks.post [carryOutEntry fromBookingId (db.balance fromBookingId)]).balance
      bookingId = db.balance bookingId +
        if fromBookingId = bookingId then -db.balance fromBookingId else 0 :=
    balance_post_singleton db.toBooks _ bookingId
  have fresh := sound.books.linked.balance_eq_zero (Nat.lt_irrefl db.bookings.nextId)
  have carried := balance_of_ledger
    (rfl : (db.carryOver fromBookingId opened (db.balance fromBookingId)
      transferFeePaise).ledger =
        Table.createMany (db.post [carryOutEntry fromBookingId (db.balance fromBookingId)]).ledger
          (carryInEntries db.bookings.nextId (db.balance fromBookingId) transferFeePaise))
    (fun entry member => (isPlain_carryInEntries _ _ _ entry member).2) bookingId
  have total : totalOf (carryInEntries db.bookings.nextId (db.balance fromBookingId)
      transferFeePaise) = db.balance fromBookingId + max 0 transferFeePaise := by
    unfold carryInEntries
    split
    · simp only [totalOf_cons, totalOf_nil]
      omega
    · simp only [totalOf_cons, totalOf_nil]
      omega
  rw [carried, total]
  show (db.toBooks.post [carryOutEntry fromBookingId (db.balance fromBookingId)]).balance bookingId +
    _ = _
  rw [closed]
  by_cases old : bookingId = fromBookingId
  · subst old
    rw [if_pos rfl, if_neg older.ne', if_pos rfl]
    omega
  · rw [if_neg fun same : fromBookingId = bookingId => old same.symm, if_neg old]
    by_cases new : bookingId = db.bookings.nextId
    · subst new
      rw [if_pos rfl, if_pos rfl, fresh]
      omega
    · rw [if_neg fun same : db.bookings.nextId = bookingId => new same.symm, if_neg new]
      omega

/-- **A cancellation** brings the balance to minus what is refundable. -/
theorem balance_settle (db : Db) (bookingId : Nat) (dto : CancellationDto) (deduction : Int) :
    (db.settle bookingId dto deduction).balance bookingId =
      -refundableOf (db.netReceived bookingId) deduction := by
  have posted := balance_of_ledger
    (rfl : (db.settle bookingId dto deduction).ledger = db.ledger.createMany
      (settlementEntries bookingId (db.balance bookingId) deduction
        (refundableOf (db.netReceived bookingId) deduction)))
    (fun entry member => (isPlain_settlementEntries _ _ _ _ entry member).2) bookingId
  rw [posted, if_pos rfl]
  simp only [settlementEntries, totalOf_cons, totalOf_nil]
  omega

theorem refundableOf_eq (netReceived deduction : Int) :
    refundableOf netReceived deduction = max 0 (netReceived - deduction) := by
  unfold refundableOf
  split <;> omega

theorem cancel_posts {db after : Db} {masters : Masters} {bookingId : Nat} {dto : CancellationDto}
    (cancelled : exec ⟨masters, .cancel bookingId dto⟩ db = .ok after) {row : Cancellation}
    (recorded : after.cancellations.find? db.cancellations.nextId = some row) :
    after.balance bookingId = -row.refundablePaise ∧
      row.refundablePaise = max 0 (db.netReceived bookingId - row.deductionPaise) := by
  cases exec_effect cancelled with
  | @cancel _ _ _ _ booking deduction units found cancellable deducted released =>
    have recorded : (db.cancellations.create (cancellationRow bookingId dto deduction
        (refundableOf (db.netReceived bookingId) deduction))).find? db.cancellations.nextId =
          some row := recorded
    rw [Table.find?_create_self] at recorded
    cases recorded
    exact ⟨balance_settle db bookingId dto deduction, refundableOf_eq _ _⟩

end OpenEstate
