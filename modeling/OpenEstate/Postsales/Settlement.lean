/-
**What becomes of a settlement.**

A cancellation settles a booking by the cash collected at that moment. Afterwards cheques clear or
bounce and receipts are reversed, which moves the balance by what is reversed
(`Books.Aged.conserved`) but not by what clears. `settlement_consistent_iff` says which outcomes
leave the balance at what a cancellation would post now: what is lost was refundable, what clears
was forfeit anyway, and no cheque that was outstanding at the cancellation fails.
-/

import OpenEstate.Postsales.Balance

namespace OpenEstate

open Relational

/-! ### The state of a receipt -/

/-- **What the status of a receipt says**: one that need not clear is no cheque, one that bounced
is reversed. -/
structure Receipt.Consistent (receipt : Receipt) : Prop where
  immediate : receipt.clearanceStatus = .notApplicable → chequeLike receipt.mode = false
  bounced : receipt.clearanceStatus = .bounced → receipt.isReversed = true

def Books.ReceiptsConsistent (books : Books) : Prop :=
  ∀ id receipt, books.receipts.find? id = some receipt → receipt.Consistent

theorem consistent_receiptRow (dto : CreateReceiptDto) : (receiptRow dto).Consistent where
  immediate := by
    intro immediate
    cases cheque : chequeLike dto.mode with
    | false => exact cheque
    | true =>
      simp only [receiptRow, cheque, if_true] at immediate
      cases immediate
  bounced := by
    intro bounced
    simp only [receiptRow] at bounced
    split at bounced <;> cases bounced

theorem exec_receiptsConsistent (request : Request) (db after : Db)
    (consistent : db.ReceiptsConsistent) (accepted : exec request db = .ok after) :
    after.ReceiptsConsistent := by
  have marked : ∀ (receiptId : Nat) (receipt : Receipt) (mark : Receipt → Receipt),
      db.receipts.find? receiptId = some receipt → (mark receipt).Consistent →
      ∀ id row, (db.receipts.modify receiptId mark).find? id = some row → row.Consistent := by
    intro receiptId receipt mark found markConsistent id row present
    rcases Table.find?_modify_eq_some.mp present with ⟨_, before, old, rfl⟩ | ⟨_, old⟩
    · rw [found] at old
      cases old
      exact markConsistent
    · exact consistent id row old
  cases (exec_effect accepted).receiptStep with
  | foreign entries ledger plain receipts => exact fun id row found => consistent id row (receipts ▸ found)
  | received dto op accepts same =>
    subst same
    intro id row found
    have found : (db.recordReceipt dto).receipts.find? id = some row := found
    rw [recordReceipt_receipts] at found
    rcases Table.find?_create_eq_some.mp found with ⟨_, rfl⟩ | old
    · exact consistent_receiptRow dto
    · exact consistent id row old
  | cleared receiptId status receipt op stands found cheque notCleared notBounced same =>
    subst same
    refine marked receiptId receipt _ found ⟨?_, ?_⟩
    · intro immediate
      cases status <;> cases immediate
    · intro bounced
      cases status with
      | bounced => exact absurd rfl stands
      | deposited => cases bounced
      | cleared => cases bounced
  | bounced receiptId receipt op found cheque notCleared notBounced same =>
    subst same
    exact marked receiptId receipt _ found ⟨nofun, fun _ => rfl⟩
  | reversed receiptId receipt op found unreversed notBounced same =>
    subst same
    exact marked receiptId receipt _ found ⟨(consistent receiptId receipt found).immediate, fun _ => rfl⟩
  | certified tdsDeductionId ded op found fresh same =>
    subst same
    exact consistent

/-! ### Books that grow older by receipt outcomes -/

def Receipt.isOutstanding (receipt : Receipt) : Bool :=
  receipt.isReversed = false ∧
    (receipt.clearanceStatus = .received ∨ receipt.clearanceStatus = .deposited)

def Books.netOf (books : Books) (bookingId : Nat) (counted : Nat → Receipt → Bool) : Int :=
  books.receipts.sum fun id receipt =>
    if receipt.bookingId = bookingId ∧ counted id receipt then books.netCash id receipt else 0

def Books.standingOn (books : Books) (bookingId : Nat) : Int :=
  books.netOf bookingId fun _ receipt => !receipt.isReversed

/-- **A receipt later on**: it stays reversed once it is, and an immediate or cleared one stays so. -/
structure Receipt.Aged (receipt later : Receipt) : Prop where
  booking : later.bookingId = receipt.bookingId
  gross : later.grossAmountPaise = receipt.grossAmountPaise
  reversed : receipt.isReversed = true → later.isReversed = true
  settled : receipt.clearanceStatus = .notApplicable ∨ receipt.clearanceStatus = .cleared →
    later.clearanceStatus = receipt.clearanceStatus

theorem Receipt.Aged.refl (receipt : Receipt) : receipt.Aged receipt :=
  ⟨rfl, rfl, fun reversed => reversed, fun _ => rfl⟩

theorem Receipt.Aged.trans {first second third : Receipt} (earlier : first.Aged second)
    (later : second.Aged third) : first.Aged third where
  booking := later.booking.trans earlier.booking
  gross := later.gross.trans earlier.gross
  reversed := fun reversed => later.reversed (earlier.reversed reversed)
  settled := by
    intro settled
    have same := earlier.settled settled
    rw [later.settled (by rw [same]; exact settled), same]

/-- **Books after receipt outcomes**: the same receipts, each aged, the same tax rows, and balances
moved by exactly the cash that no longer stands. -/
structure Books.Aged (books later : Books) : Prop where
  keys : later.receipts.rows.map Prod.fst = books.receipts.rows.map Prod.fst
  receipts : ∀ id receipt, books.receipts.find? id = some receipt →
    ∃ after, later.receipts.find? id = some after ∧ receipt.Aged after
  deductions : later.tdsDeductions = books.tdsDeductions
  conserved : ∀ bookingId, later.balance bookingId + later.standingOn bookingId =
    books.balance bookingId + books.standingOn bookingId

theorem Books.Aged.refl (books : Books) : books.Aged books :=
  ⟨rfl, fun _ receipt found => ⟨receipt, found, .refl receipt⟩, rfl, fun _ => rfl⟩

theorem Books.Aged.trans {first second third : Books} (earlier : first.Aged second)
    (later : second.Aged third) : first.Aged third where
  keys := later.keys.trans earlier.keys
  receipts := by
    intro id receipt found
    obtain ⟨middle, present, aged⟩ := earlier.receipts id receipt found
    obtain ⟨after, stays, agedAgain⟩ := later.receipts id middle present
    exact ⟨after, stays, aged.trans agedAgain⟩
  deductions := later.deductions.trans earlier.deductions
  conserved := fun bookingId => (later.conserved bookingId).trans (earlier.conserved bookingId)

variable {receipt : Receipt}

theorem netCash_congr {books later : Books} (deductions : later.tdsDeductions = books.tdsDeductions)
    {after : Receipt} (gross : after.grossAmountPaise = receipt.grossAmountPaise)
    (id : Nat) : later.netCash id after = books.netCash id receipt := by
  unfold Books.netCash Books.tdsWithheld
  rw [gross, deductions]

variable {receiptId : Nat}

theorem receipts_aged_of_modify {receipts : Table Receipt} {mark : Receipt → Receipt}
    (found : receipts.find? receiptId = some receipt) (aged : receipt.Aged (mark receipt))
    (id : Nat) (row : Receipt) (present : receipts.find? id = some row) :
    ∃ after, (receipts.modify receiptId mark).find? id = some after ∧ row.Aged after := by
  by_cases same : id = receiptId
  · subst same
    rw [found] at present
    cases present
    exact ⟨mark receipt, by rw [Table.find?_modify_self, found]; rfl, aged⟩
  · exact ⟨row, by rw [Table.find?_modify_of_ne _ _ same, present], .refl row⟩

theorem Books.aged_markReceipt {books : Books} {status : ChequeClearanceStatus}
    (found : books.receipts.find? receiptId = some receipt)
    (aged : receipt.Aged (receipt.withClearance status)) :
    books.Aged (books.markReceipt receiptId (Receipt.withClearance status)) where
  keys := Table.keys_modify _ _ _
  receipts := receipts_aged_of_modify found aged
  deductions := rfl
  conserved := by
    intro bookingId
    have unmoved : (books.markReceipt receiptId (Receipt.withClearance status)).standingOn
        bookingId = books.standingOn bookingId := by
      unfold Books.standingOn Books.netOf Books.markReceipt
      rw [Table.sum_modify found]
      show _ + (_ - _) = _
      exact add_eq_left.mpr (sub_self _)
    rw [unmoved]
    rfl

theorem Books.aged_undo {known : Nat → Prop} {books : Books} (sound : books.Sound known)
    (found : books.receipts.find? receiptId = some receipt) (reversalType : LedgerEntryType)
    {bounceChargePaise : Int} (free : bounceChargePaise ≤ 0) {mark : Receipt → Receipt}
    (undoes : Receipt.Undoes mark) (aged : receipt.Aged (mark receipt)) :
    books.Aged (books.undo receiptId receipt reversalType bounceChargePaise mark) where
  keys := Table.keys_modify _ _ _
  receipts := receipts_aged_of_modify found aged
  deductions := rfl
  conserved := by
    intro bookingId
    have gone : (books.undo receiptId receipt reversalType bounceChargePaise mark).standingOn
        bookingId = books.standingOn bookingId -
          if receipt.bookingId = bookingId then books.standingCash receiptId receipt else 0 := by
      have sameCash : ∀ id row,
          (books.undo receiptId receipt reversalType bounceChargePaise mark).netCash id row =
            books.netCash id row := fun _ _ => rfl
      unfold Books.standingOn Books.netOf
      simp only [sameCash]
      show Table.sum (books.receipts.modify receiptId mark) _ = _
      rw [Table.sum_modify found, undoes.reversed, undoes.booking]
      unfold Books.standingCash
      cases stands : receipt.isReversed <;> by_cases own : receipt.bookingId = bookingId <;>
        simp [own, sub_eq_add_neg]
    rw [gone, balance_undo sound found]
    split <;> omega

/-- Nothing happens to receipts but their outcomes, and bounces are not charged for. -/
def Request.IsOutcome (request : Request) : Prop :=
  match request.op with
  | .recordChequeEvent _ _ => request.masters.chequeBounceChargePaise ≤ 0
  | .reverseReceipt _ => True
  | _ => False

theorem aged_of_open (consistent : receipt.Consistent) (cheque : chequeLike receipt.mode = true)
    (notCleared : receipt.clearanceStatus ≠ .cleared) {later : Receipt}
    (booking : later.bookingId = receipt.bookingId)
    (gross : later.grossAmountPaise = receipt.grossAmountPaise)
    (reversed : receipt.isReversed = true → later.isReversed = true) : receipt.Aged later where
  booking := booking
  gross := gross
  reversed := reversed
  settled := by
    rintro (immediate | cleared)
    · rw [consistent.immediate immediate] at cheque
      cases cheque
    · exact absurd cleared notCleared

theorem aged_of_outcome {request : Request} {db after : Db} (sound : db.Sound)
    (consistent : db.ReceiptsConsistent) (outcome : request.IsOutcome)
    (accepted : exec request db = .ok after) : db.toBooks.Aged after.toBooks := by
  unfold Request.IsOutcome at outcome
  cases (exec_effect accepted).receiptStep with
  | foreign entries ledger plain receipts allocations deductions certificates notOutcome =>
    split at outcome
    · rename_i receiptId status op
      exact absurd op ((notOutcome receiptId).2 status)
    · rename_i receiptId op
      exact absurd op (notOutcome receiptId).1
    · exact outcome.elim
  | received dto op => simp [op] at outcome
  | certified tdsDeductionId ded op => simp [op] at outcome
  | cleared receiptId status receipt op stands found cheque notCleared notBounced same =>
    subst same
    exact Books.aged_markReceipt found (aged_of_open (consistent _ _ found) cheque notCleared rfl rfl id)
  | bounced receiptId receipt op found cheque notCleared notBounced same =>
    subst same
    simp only [op] at outcome
    exact Books.aged_undo sound.books found _ outcome ⟨fun _ => rfl, fun _ => rfl, fun _ => rfl⟩
      (aged_of_open (consistent _ _ found) cheque notCleared rfl rfl fun _ => rfl)
  | reversed receiptId receipt op found unreversed notBounced same =>
    subst same
    exact Books.aged_undo sound.books found _ le_rfl ⟨fun _ => rfl, fun _ => rfl, fun _ => rfl⟩
      ⟨rfl, rfl, fun _ => rfl, fun _ => rfl⟩

/-! ### The settlement at the end -/

def Books.NothingOutstanding (books : Books) (bookingId : Nat) : Prop :=
  books.receipts.any (fun _ receipt => receipt.bookingId = bookingId && receipt.isOutstanding) =
    false

theorem Books.NothingOutstanding.closed {books : Books} {bookingId : Nat}
    (settled : books.NothingOutstanding bookingId) {id : Nat}
    (found : books.receipts.find? id = some receipt) (own : receipt.bookingId = bookingId) :
    receipt.isOutstanding = false := by
  have none := Table.any_eq_false.mp settled id receipt found
  simpa [own] using none

/-- The cash collected by now that is lost later: its receipts are reversed. -/
def Books.lostBy (books later : Books) (bookingId : Nat) : Int :=
  books.netOf bookingId fun id receipt => receipt.isCollected && !later.stands id

def Books.clearedBy (books later : Books) (bookingId : Nat) : Int :=
  books.netOf bookingId fun id receipt => receipt.isOutstanding && later.stands id

/-- The cash of the cheques outstanding by now that are reversed or bounced later. -/
def Books.failedBy (books later : Books) (bookingId : Nat) : Int :=
  books.netOf bookingId fun id receipt => receipt.isOutstanding && !later.stands id

theorem netOf_nonneg {known : Nat → Prop} {books : Books} (sound : books.Sound known)
    (bookingId : Nat) (counted : Nat → Receipt → Bool) : 0 ≤ books.netOf bookingId counted := by
  refine Table.sum_nonneg fun id receipt found => ?_
  have nonneg := netCash_nonneg sound found
  show (0 : Int) ≤ if _ then _ else _
  split <;> omega

theorem netOf_later {books later : Books} (aged : books.Aged later) (bookingId : Nat)
    (counted : Nat → Receipt → Bool) :
    later.netOf bookingId counted = books.netOf bookingId fun id _ =>
      (later.receipts.find? id).any (counted id) := by
  unfold Books.netOf
  rw [Table.sum_lookup aged.keys]
  refine Table.sum_congr fun id receipt found => ?_
  obtain ⟨after, present, row⟩ := aged.receipts id receipt found
  simp only [present, Option.elim_some, Option.any_some, row.booking,
    netCash_congr aged.deductions row.gross]

theorem lostBy_le {known : Nat → Prop} {books : Books} (sound : books.Sound known) (later : Books)
    (bookingId : Nat) : books.lostBy later bookingId ≤ books.netReceived bookingId := by
  have rest := netOf_nonneg sound bookingId fun id receipt =>
    receipt.isCollected && later.stands id
  have split : books.netReceived bookingId = books.lostBy later bookingId +
      books.netOf bookingId fun id receipt => receipt.isCollected && later.stands id := by
    unfold Books.netReceived Books.lostBy Books.netOf
    rw [← Table.sum_add]
    refine Table.sum_congr fun id receipt _ => ?_
    cases stands : later.stands id <;> simp [stands]
  omega

theorem not_collected_of_reversed (reversed : receipt.isReversed = true) :
    receipt.isCollected = false ∧ receipt.isOutstanding = false := by
  simp [Receipt.isCollected, Receipt.isOutstanding, reversed]

theorem collected_or_outstanding (consistent : receipt.Consistent)
    (stands : receipt.isReversed = false) :
    receipt.isCollected = true ∧ receipt.isOutstanding = false ∨
      receipt.isCollected = false ∧ receipt.isOutstanding = true := by
  cases status : receipt.clearanceStatus with
  | notApplicable => simp [Receipt.isCollected, Receipt.isOutstanding, stands, status]
  | received => simp [Receipt.isCollected, Receipt.isOutstanding, stands, status]
  | deposited => simp [Receipt.isCollected, Receipt.isOutstanding, stands, status]
  | cleared => simp [Receipt.isCollected, Receipt.isOutstanding, stands, status]
  | bounced =>
    rw [consistent.bounced status] at stands
    cases stands

section Aged

variable {books later : Books} {bookingId : Nat} (aged : books.Aged later)
  (consistent : books.ReceiptsConsistent)
include aged consistent

/-- **The balance later**: what stood and is reversed has been debited. -/
theorem balance_later : later.balance bookingId =
    books.balance bookingId + books.lostBy later bookingId + books.failedBy later bookingId := by
  have moved := aged.conserved bookingId
  have split : books.standingOn bookingId = later.standingOn bookingId +
      (books.lostBy later bookingId + books.failedBy later bookingId) := by
    unfold Books.standingOn Books.lostBy Books.failedBy
    rw [netOf_later aged]
    unfold Books.netOf
    rw [← Table.sum_add, ← Table.sum_add]
    refine Table.sum_congr fun id receipt found => ?_
    obtain ⟨after, present, row⟩ := aged.receipts id receipt found
    have state : later.stands id = !after.isReversed := by simp [Books.stands, present]
    by_cases own : receipt.bookingId = bookingId
    · cases reversed : receipt.isReversed with
      | true =>
        obtain ⟨uncollected, closed⟩ := not_collected_of_reversed reversed
        simp [present, own, reversed, uncollected, closed, row.reversed reversed]
      | false =>
        rcases collected_or_outstanding (consistent id receipt found) reversed with
          ⟨collected, closed⟩ | ⟨uncollected, outstanding⟩
        · cases later : after.isReversed <;>
            simp [present, own, reversed, collected, closed, state, later]
        · cases later : after.isReversed <;>
            simp [present, own, reversed, uncollected, outstanding, state, later]
    · simp [own]
  omega

/-- **The cash collected later**, once nothing is outstanding: what was collected, less what is
lost, and what clears. -/
theorem netReceived_later (consistentLater : later.ReceiptsConsistent)
    (settled : later.NothingOutstanding bookingId) : later.netReceived bookingId =
    books.netReceived bookingId - books.lostBy later bookingId +
      books.clearedBy later bookingId := by
  have collectedLater : later.netReceived bookingId = books.netOf bookingId fun id _ =>
      (later.receipts.find? id).any (·.isCollected) :=
    netOf_later aged bookingId fun _ receipt => receipt.isCollected
  have collected : books.netReceived bookingId =
      books.netOf bookingId fun _ receipt => receipt.isCollected := rfl
  have split : later.netReceived bookingId + books.lostBy later bookingId =
      books.netReceived bookingId + books.clearedBy later bookingId := by
    rw [collectedLater, collected]
    unfold Books.lostBy Books.clearedBy Books.netOf
    rw [← Table.sum_add, ← Table.sum_add]
    refine Table.sum_congr fun id receipt found => ?_
    obtain ⟨after, present, row⟩ := aged.receipts id receipt found
    have state : later.stands id = !after.isReversed := by simp [Books.stands, present]
    by_cases own : receipt.bookingId = bookingId
    · cases reversedLater : after.isReversed with
      | true =>
        have uncollectedLater := (not_collected_of_reversed reversedLater).1
        simp [present, own, state, reversedLater, uncollectedLater]
      | false =>
        have stands : receipt.isReversed = false := by
          cases reversed : receipt.isReversed with
          | false => rfl
          | true =>
            rw [row.reversed reversed] at reversedLater
            cases reversedLater
        have closed := settled.closed present (row.booking.trans own)
        rcases collected_or_outstanding (consistentLater id after present) reversedLater with
          ⟨collectedLater, _⟩ | ⟨_, outstanding⟩
        · rcases collected_or_outstanding (consistent id receipt found) stands with
            ⟨collected, closed⟩ | ⟨uncollected, outstanding⟩
          · simp [present, own, state, reversedLater, collectedLater, collected, closed]
          · simp [present, own, state, reversedLater, collectedLater, uncollected, outstanding]
        · rw [closed] at outstanding
          cases outstanding
    · simp [own]
  omega

end Aged

def Db.AgedTo (db later : Db) : Prop :=
  later.Sound ∧ later.ReceiptsConsistent ∧ db.toBooks.Aged later.toBooks

theorem agedTo_run {db : Db} (sound : db.Sound) (consistent : db.ReceiptsConsistent)
    {inputs : List Request} (outcomes : ∀ input ∈ inputs, input.IsOutcome) :
    db.AgedTo (run exec db inputs) := by
  have initially : db.AgedTo db := ⟨sound, consistent, .refl _⟩
  refine run_invariant outcomes ?_ initially
  rintro request before after outcome ⟨soundBefore, consistentBefore, aged⟩ accepted
  exact ⟨exec_sound request before after soundBefore accepted,
    exec_receiptsConsistent request before after consistentBefore accepted,
    aged.trans (aged_of_outcome soundBefore consistentBefore outcome accepted)⟩

/-- **After a cancellation and any outcomes of the receipts, with nothing outstanding any more, the
balance is what a cancellation would post now, exactly when** what is lost was refundable, what
clears was forfeit anyway, and no cheque that was outstanding fails. -/
theorem settlement_consistent_iff {db after : Db} (reachable : ReachableDb db) {masters : Masters}
    {bookingId : Nat} {dto : CancellationDto}
    (cancelled : exec ⟨masters, .cancel bookingId dto⟩ db = .ok after) {row : Cancellation}
    (recorded : after.cancellations.find? db.cancellations.nextId = some row)
    {inputs : List Request} (outcomes : ∀ input ∈ inputs, input.IsOutcome)
    (settled : (run exec after inputs).NothingOutstanding bookingId) :
    (run exec after inputs).balance bookingId =
        -max 0 ((run exec after inputs).netReceived bookingId - row.deductionPaise) ↔
      after.lostBy (run exec after inputs).toBooks bookingId ≤ row.refundablePaise ∧
        after.clearedBy (run exec after inputs).toBooks bookingId ≤
          max 0 (row.deductionPaise - after.netReceived bookingId) ∧
        after.failedBy (run exec after inputs).toBooks bookingId = 0 := by
  have sound : after.Sound := exec_sound _ db after reachable.sound cancelled
  have consistent : after.ReceiptsConsistent := by
    have before : db.ReceiptsConsistent :=
      reachable.invariant (by rintro id receipt ⟨⟩) exec_receiptsConsistent
    exact exec_receiptsConsistent _ db after before cancelled
  obtain ⟨_, consistentLater, aged⟩ := agedTo_run sound consistent outcomes
  have balanceLater : (run exec after inputs).balance bookingId = _ :=
    balance_later aged consistent
  have collectedLater := netReceived_later aged consistent consistentLater settled
  have lost := lostBy_le sound.books (run exec after inputs).toBooks bookingId
  have lostNonneg : 0 ≤ after.lostBy (run exec after inputs).toBooks bookingId :=
    netOf_nonneg sound.books _ _
  have clearedNonneg : 0 ≤ after.clearedBy (run exec after inputs).toBooks bookingId :=
    netOf_nonneg sound.books _ _
  have failedNonneg : 0 ≤ after.failedBy (run exec after inputs).toBooks bookingId :=
    netOf_nonneg sound.books _ _
  obtain ⟨balance, refundable⟩ := cancel_posts cancelled recorded
  have unchanged : after.netReceived bookingId = db.netReceived bookingId := by
    cases exec_effect cancelled with
    | cancel => rfl
  omega

/-- The receipt of a cancelled sale is reversed: it was refundable, and nothing is owed any more. -/
theorem settlement_consistent_reversed :
    let later := run exec (run exec {} smallCancelled) [⟨{}, .reverseReceipt 0⟩]
    later.balance 0 = -max 0 (later.netReceived 0 - 0) := by
  have cancelled : exec smallCancellation (run exec {} smallPaid) =
      .ok (run exec {} smallCancelled) := rfl
  refine (settlement_consistent_iff (reachable_run _ _) cancelled rfl ?_ ?_).mpr ?_
  · simp [Request.IsOutcome]
  · rfl
  · exact ⟨by decide, by decide, by decide⟩

def cancelledOutstanding : List Request :=
  smallSale ++ [⟨{}, .createReceipt (smallReceipt 0 0 .cheque 1000 0)⟩, smallCancellation]

/-- The cheque clears after the cancellation: the company holds 1000 and owes nothing. -/
theorem cleared_after_cancellation_not_settled :
    let cancelled := run exec {} cancelledOutstanding
    let later := run exec cancelled [⟨{}, .recordChequeEvent 0 .cleared⟩]
    later.NothingOutstanding 0 ∧ later.netReceived 0 = 1000 ∧ later.balance 0 = 0 ∧
      ∃ row, cancelled.cancellations.find? 0 = some row ∧
        later.balance 0 ≠ -max 0 (later.netReceived 0 - row.deductionPaise) :=
  ⟨rfl, by decide, by decide, _, rfl, by decide⟩

end OpenEstate
