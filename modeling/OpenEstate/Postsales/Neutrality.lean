/-
**Reversed receipts.**

A receipt makes entries (its credits, the receivable for withheld tax, the adjustment of a
certificate), and its reversal makes entries that negate them. `Books.causedSum` adds all of them
up. The reversal negates credits and receivable but not a certificate's adjustment, and a
certificate does not ask whether the receipt still stands, so

* `neutral_iff`: a reversed receipt is neutral exactly when none of its deductions is certified;
* `reversed_receipts_neutral_iff`: a run keeps reversed receipts neutral exactly when no step of it
  certifies a deduction of a reversed receipt or reverses a receipt that is certified.
-/

import OpenEstate.Postsales.ReceiptStep

namespace OpenEstate

open Relational

/-! ### The entries a receipt causes -/

/-- Whether an entry is the adjustment of a certificate on a deduction of a receipt. -/
def Books.isCertificateOf (books : Books) (receiptId entryId : Nat) : Bool :=
  books.tdsCertificates.any fun _ row =>
    row.adjustmentLedgerEntryId = entryId ∧
      (books.tdsDeductions.find? row.tdsDeductionId).any (·.receiptId = receiptId)

/-- An entry made for a receipt: its credits, its receivable, and the adjustment of its
certificate. -/
def Books.isOriginOf (books : Books) (receiptId entryId : Nat) (entry : LedgerEntry) : Bool :=
  entry.isOwnOf receiptId || books.isCertificateOf receiptId entryId

def Books.reversesOriginOf (books : Books) (receiptId : Nat) (entry : LedgerEntry) : Bool :=
  (entry.entryType = .adjustment || entry.entryType = .bounceReversal) &&
    entry.reversalOfEntryId.any fun targetId =>
      (books.ledger.find? targetId).any (books.isOriginOf receiptId targetId)

/-- **The entries that exist because of a receipt**, bounce charges apart. -/
def Books.isCausedBy (books : Books) (receiptId entryId : Nat) (entry : LedgerEntry) : Bool :=
  books.isOriginOf receiptId entryId entry || books.reversesOriginOf receiptId entry

def Books.causedSum (books : Books) (receiptId : Nat) : Int :=
  books.ledger.sum fun id entry => entry.amountIf (books.isCausedBy receiptId id entry)

def Books.balanceWithout (books : Books) (receiptId bookingId : Nat) : Int :=
  books.ledger.sum fun id entry =>
    entry.amountIf (entry.bookingId = bookingId && !books.isCausedBy receiptId id entry)

/-- **A receipt that leaves no trace**: its entries add up to nothing, and its booking's balance is
what it would be without them. -/
def Books.NeutralReceipt (books : Books) (receiptId : Nat) (receipt : Receipt) : Prop :=
  books.causedSum receiptId = 0 ∧
    books.balance receipt.bookingId = books.balanceWithout receiptId receipt.bookingId

def Books.ReversedNeutral (books : Books) : Prop :=
  ∀ receiptId receipt, books.receipts.find? receiptId = some receipt →
    receipt.isReversed = true → books.NeutralReceipt receiptId receipt

/-! ### What they add up to -/

def Books.isCertified (books : Books) (receiptId : Nat) : Bool :=
  books.tdsCertificates.any fun _ row =>
    (books.tdsDeductions.find? row.tdsDeductionId).any (·.receiptId = receiptId)

def Books.certifiedSum (books : Books) (receiptId : Nat) : Int :=
  books.ledger.sum fun id entry => entry.amountIf (books.isCertificateOf receiptId id)

variable {receiptId : Nat}

theorem isCertificateOf_iff {books : Books} {entryId : Nat} :
    books.isCertificateOf receiptId entryId = true ↔ ∃ id row ded,
      books.tdsCertificates.find? id = some row ∧ row.adjustmentLedgerEntryId = entryId ∧
        books.tdsDeductions.find? row.tdsDeductionId = some ded ∧ ded.receiptId = receiptId := by
  simp [Books.isCertificateOf, Table.any_eq_true, Option.any_eq_true]

theorem isCertified_iff {books : Books} :
    books.isCertified receiptId = true ↔ ∃ id row ded,
      books.tdsCertificates.find? id = some row ∧
        books.tdsDeductions.find? row.tdsDeductionId = some ded ∧ ded.receiptId = receiptId := by
  simp [Books.isCertified, Table.any_eq_true, Option.any_eq_true]

section Linked

variable {known : Nat → Prop} {books : Books} (linked : books.Linked known)
include linked

variable {receiptId entryId : Nat}

theorem Books.Linked.certificateEntry
    (certificate : books.isCertificateOf receiptId entryId = true) :
    ∃ entry receipt, books.ledger.find? entryId = some entry ∧
      entry.entryType = .tdsCertAdjustment ∧ entry.signedAmountPaise < 0 ∧
      books.receipts.find? receiptId = some receipt ∧ entry.bookingId = receipt.bookingId := by
  obtain ⟨id, row, ded, recorded, rfl, deducted, rfl⟩ := isCertificateOf_iff.mp certificate
  obtain ⟨_, entry, deductedToo, posted, kind, booking, amount⟩ := linked.certificate id row recorded
  rw [deducted] at deductedToo
  cases deductedToo
  obtain ⟨receipt, present, sameBooking, positive⟩ := linked.deduction _ ded deducted
  exact ⟨entry, receipt, posted, kind, by omega, present, booking.trans sameBooking⟩

variable {entry : LedgerEntry}

theorem Books.Linked.own_not_certificate (found : books.ledger.find? entryId = some entry)
    {owner : Nat} (own : entry.isOwnOf owner = true) (receiptId : Nat) :
    books.isCertificateOf receiptId entryId = false := by
  cases certificate : books.isCertificateOf receiptId entryId with
  | false => rfl
  | true =>
    obtain ⟨posted, _, present, kind, _⟩ := linked.certificateEntry certificate
    rw [found] at present
    cases present
    rcases (isOwnOf_iff.mp own).2 with credit | receivable
    · rw [credit] at kind
      cases kind
    · rw [receivable] at kind
      cases kind

theorem Books.Linked.reversesOriginOf_eq (found : books.ledger.find? entryId = some entry)
    (receiptId : Nat) :
    books.reversesOriginOf receiptId entry = entry.undoes receiptId := by
  have link := linked.entry entryId entry found
  cases named : entry.reversalOfEntryId with
  | none => simp [Books.reversesOriginOf, LedgerEntry.undoes, named]
  | some targetId =>
    obtain ⟨target, owner, present, own, forOwner, _⟩ := link.reversal targetId named
    have kind := link.reverses.mpr (by simp [named])
    have sameOwner : target.isOwnOf receiptId = decide (owner = receiptId) := by
      obtain ⟨byOwner, ownKind⟩ := isOwnOf_iff.mp own
      simp [LedgerEntry.isOwnOf, byOwner, ownKind]
    simp [Books.reversesOriginOf, LedgerEntry.undoes, Books.isOriginOf, named, present, forOwner,
      linked.own_not_certificate present own, sameOwner, kind]

/-- **The entries of a receipt are of three sorts**: its own, those that reverse them, and the
adjustments of its certificates. -/
theorem Books.Linked.amountIf_isCausedBy (found : books.ledger.find? entryId = some entry)
    (receiptId : Nat) :
    entry.amountIf (books.isCausedBy receiptId entryId entry) =
      entry.amountIf (entry.isOwnOf receiptId) + entry.amountIf (entry.undoes receiptId) +
        entry.amountIf (books.isCertificateOf receiptId entryId) := by
  rw [Books.isCausedBy, linked.reversesOriginOf_eq found, Books.isOriginOf]
  have link := linked.entry entryId entry found
  cases own : entry.isOwnOf receiptId with
  | true =>
    have direct : entry.undoes receiptId = false := by
      cases undoes : entry.undoes receiptId with
      | false => rfl
      | true =>
        rw [LedgerEntry.undoes, decide_eq_true_eq] at undoes
        have kind := link.reverses.mpr undoes.2
        rcases (isOwnOf_iff.mp own).2 with credit | receivable
        · rw [credit] at kind
          simp at kind
        · rw [receivable] at kind
          simp at kind
    rw [direct, linked.own_not_certificate found own]
    simp [LedgerEntry.amountIf]
  | false =>
    cases certificate : books.isCertificateOf receiptId entryId with
    | false => simp [LedgerEntry.amountIf]
    | true =>
      obtain ⟨posted, _, present, kind, _⟩ := linked.certificateEntry certificate
      rw [found] at present
      cases present
      have direct : entry.undoes receiptId = false := by
        simp [LedgerEntry.undoes, (link.certificate kind).1]
      simp [direct, LedgerEntry.amountIf]

theorem Books.Linked.booking_of_isCausedBy (found : books.ledger.find? entryId = some entry)
    {receipt : Receipt} (present : books.receipts.find? receiptId = some receipt)
    (caused : books.isCausedBy receiptId entryId entry = true) :
    entry.bookingId = receipt.bookingId := by
  have named : entry.receiptId = some receiptId → entry.bookingId = receipt.bookingId := by
    intro named
    obtain ⟨owner, ownerFound, same⟩ := (linked.entry entryId entry found).receipt receiptId named
    rw [present] at ownerFound
    cases ownerFound
    exact same.symm
  rw [Books.isCausedBy, linked.reversesOriginOf_eq found, Books.isOriginOf, Bool.or_eq_true,
    Bool.or_eq_true] at caused
  rcases caused with (own | certificate) | undoes
  · exact named (isOwnOf_iff.mp own).1
  · obtain ⟨posted, owner, postedFound, _, _, ownerFound, same⟩ :=
      linked.certificateEntry certificate
    rw [found] at postedFound
    rw [present] at ownerFound
    cases postedFound
    cases ownerFound
    exact same
  · rw [LedgerEntry.undoes, decide_eq_true_eq] at undoes
    exact named undoes.1

theorem Books.Linked.causedSum_eq (receiptId : Nat) :
    books.causedSum receiptId = books.sumWhere (·.isOwnOf receiptId) +
      books.sumWhere (·.undoes receiptId) + books.certifiedSum receiptId := by
  unfold Books.causedSum Books.sumWhere Books.certifiedSum
  rw [← Table.sum_add, ← Table.sum_add]
  exact Table.sum_congr fun id entry found => linked.amountIf_isCausedBy found receiptId

theorem Books.Linked.balance_eq {receipt : Receipt}
    (present : books.receipts.find? receiptId = some receipt) :
    books.balance receipt.bookingId =
      books.balanceWithout receiptId receipt.bookingId + books.causedSum receiptId := by
  unfold Books.balance Books.balanceWithout Books.causedSum Books.sumWhere
  rw [← Table.sum_add]
  refine Table.sum_congr fun id entry found => ?_
  cases caused : books.isCausedBy receiptId id entry with
  | false => simp [LedgerEntry.amountIf]
  | true =>
    have onBooking := linked.booking_of_isCausedBy found present caused
    simp [LedgerEntry.amountIf, onBooking]

theorem Books.Linked.certifiedSum_eq_zero :
    books.certifiedSum receiptId = 0 ↔ books.isCertified receiptId = false := by
  constructor
  · intro nothing
    cases certified : books.isCertified receiptId with
    | false => rfl
    | true =>
      obtain ⟨id, row, ded, recorded, deducted, ofReceipt⟩ := isCertified_iff.mp certified
      have certificate : books.isCertificateOf receiptId row.adjustmentLedgerEntryId = true :=
        isCertificateOf_iff.mpr ⟨id, row, ded, recorded, rfl, deducted, ofReceipt⟩
      obtain ⟨entry, _, posted, _, negative, _⟩ := linked.certificateEntry certificate
      -- the adjustments are credits, so their negations cannot cancel out
      have negated : (books.ledger.sum fun id entry =>
          -entry.amountIf (books.isCertificateOf receiptId id)) = 0 := by
        rw [Table.sum_neg, neg_eq_zero]
        exact nothing
      have nonneg : ∀ key other, books.ledger.find? key = some other →
          0 ≤ -other.amountIf (books.isCertificateOf receiptId key) := by
        intro key other found
        cases isOne : books.isCertificateOf receiptId key with
        | false => simp [LedgerEntry.amountIf]
        | true =>
          obtain ⟨same, _, present, _, below, _⟩ := linked.certificateEntry isOne
          rw [found] at present
          cases present
          simp only [LedgerEntry.amountIf, if_true]
          omega
      have vanishes := Table.eq_zero_of_sum_eq_zero nonneg negated posted
      rw [certificate] at vanishes
      simp only [LedgerEntry.amountIf, if_true] at vanishes
      omega
  · intro uncertified
    refine Table.sum_eq_zero fun id entry _ => ?_
    cases certificate : books.isCertificateOf receiptId id with
    | false => rfl
    | true =>
      obtain ⟨key, row, ded, recorded, _, deducted, ofReceipt⟩ := isCertificateOf_iff.mp certificate
      rw [isCertified_iff.mpr ⟨key, row, ded, recorded, deducted, ofReceipt⟩] at uncertified
      cases uncertified

end Linked

variable {receipt : Receipt}

theorem neutral_iff {known : Nat → Prop} {books : Books} (sound : books.Sound known)
    (found : books.receipts.find? receiptId = some receipt) (reversed : receipt.isReversed = true) :
    books.NeutralReceipt receiptId receipt ↔ books.isCertified receiptId = false := by
  have totals := sound.totals receiptId receipt found
  have undone := totals.undone
  rw [reversed, if_pos rfl] at undone
  have caused : books.causedSum receiptId = books.certifiedSum receiptId := by
    rw [sound.linked.causedSum_eq, totals.own, undone]
    omega
  rw [Books.NeutralReceipt, sound.linked.balance_eq found, caused,
    ← sound.linked.certifiedSum_eq_zero]
  constructor
  · exact fun neutral => neutral.1
  · intro nothing
    exact ⟨nothing, by omega⟩

/-! ### Runs that keep reversed receipts neutral -/

/-- **A step that does not both reverse and certify a receipt**: it certifies a deduction of a
receipt that stands, and reverses or bounces a receipt that is not certified. -/
def keepsNeutral (step : Step Db Request) : Prop :=
  match step.input.op with
  | .recordTdsCertificate tdsDeductionId => ∀ ded,
    step.before.tdsDeductions.find? tdsDeductionId = some ded →
      step.before.stands ded.receiptId = true
  | .reverseReceipt receiptId => step.before.isCertified receiptId = false
  | .recordChequeEvent receiptId .bounced => step.before.isCertified receiptId = false
  | _ => True

def Books.NoneReversedCertified (books : Books) : Prop :=
  ∀ receiptId receipt, books.receipts.find? receiptId = some receipt →
    receipt.isReversed = true → books.isCertified receiptId = false

theorem reversedNeutral_iff {known : Nat → Prop} {books : Books} (sound : books.Sound known) :
    books.ReversedNeutral ↔ books.NoneReversedCertified := by
  constructor
  · intro neutral receiptId receipt found reversed
    exact (neutral_iff sound found reversed).mp (neutral receiptId receipt found reversed)
  · intro uncertified receiptId receipt found reversed
    exact (neutral_iff sound found reversed).mpr (uncertified receiptId receipt found reversed)

theorem stands_eq_true {books : Books} (found : books.receipts.find? receiptId = some receipt) :
    books.stands receiptId = true ↔ receipt.isReversed = false := by
  simp [Books.stands, found]

theorem isCertified_congr {books next : Books} (receiptId : Nat)
    (deductions : next.tdsDeductions = books.tdsDeductions)
    (certificates : next.tdsCertificates = books.tdsCertificates) :
    next.isCertified receiptId = books.isCertified receiptId := by
  unfold Books.isCertified
  rw [deductions, certificates]

theorem isCertified_recordReceipt {known : Nat → Prop} {books : Books}
    (linked : books.Linked known) (dto : CreateReceiptDto) (receiptId : Nat) :
    (books.recordReceipt dto).isCertified receiptId = books.isCertified receiptId := by
  rw [Bool.eq_iff_iff, isCertified_iff, isCertified_iff, recordReceipt_tdsCertificates,
    recordReceipt_tdsDeductions]
  constructor
  · rintro ⟨id, row, ded, recorded, deducted, ofReceipt⟩
    obtain ⟨old, _, oldFound, _⟩ := linked.certificate id row recorded
    rw [Table.find?_createMany_old _ oldFound] at deducted
    cases deducted
    exact ⟨id, row, ded, recorded, oldFound, ofReceipt⟩
  · rintro ⟨id, row, ded, recorded, deducted, ofReceipt⟩
    exact ⟨id, row, ded, recorded, Table.find?_createMany_old _ deducted, ofReceipt⟩

theorem isCertified_recordCertificate {books : Books} {tdsDeductionId : Nat} {ded : TdsDeduction}
    (found : books.tdsDeductions.find? tdsDeductionId = some ded) (receiptId : Nat) :
    (books.recordCertificate tdsDeductionId ded).isCertified receiptId =
      (books.isCertified receiptId || ded.receiptId = receiptId) := by
  have certificates : (books.recordCertificate tdsDeductionId ded).tdsCertificates =
      books.tdsCertificates.create
        { tdsDeductionId, adjustmentLedgerEntryId := books.ledger.nextId } := rfl
  unfold Books.isCertified
  rw [certificates, Table.any_create]
  show (_ || (books.tdsDeductions.find? tdsDeductionId).any _) = _
  rw [found]
  rfl

theorem noneReversedCertified_undo {books : Books} (uncertified : books.NoneReversedCertified)
    (found : books.receipts.find? receiptId = some receipt) (reversalType : LedgerEntryType)
    (bounceChargePaise : Int) {mark : Receipt → Receipt} (undoes : Receipt.Undoes mark) :
    (books.undo receiptId receipt reversalType bounceChargePaise mark).NoneReversedCertified ↔
      books.isCertified receiptId = false := by
  constructor
  · intro after
    refine after receiptId (mark receipt) ?_ (undoes.reversed receipt)
    show (books.receipts.modify receiptId mark).find? receiptId = _
    rw [Table.find?_modify_self, found]
    rfl
  · intro free other row present reversed
    have present : (books.receipts.modify receiptId mark).find? other = some row := present
    by_cases same : other = receiptId
    · subst same
      exact free
    · rw [Table.find?_modify_of_ne _ _ same] at present
      exact uncertified other row present reversed

/-- **One step**: it keeps reversed receipts free of certificates exactly when it does not both
reverse and certify a receipt. -/
theorem noneReversedCertified_step {request : Request} {db after : Db} (sound : db.Sound)
    (uncertified : db.NoneReversedCertified) (accepted : exec request db = .ok after) :
    after.NoneReversedCertified ↔ keepsNeutral ⟨db, request, after⟩ := by
  cases (exec_effect accepted).receiptStep with
  | foreign entries ledger plain receipts allocations deductions certificates notOutcome
      notCertificate =>
    have kept : keepsNeutral ⟨db, request, after⟩ := by
      unfold keepsNeutral
      split
      · rename_i tdsDeductionId op
        exact absurd op (notCertificate tdsDeductionId)
      · rename_i receiptId op
        exact absurd op (notOutcome receiptId).1
      · rename_i receiptId op
        exact absurd op ((notOutcome receiptId).2 _)
      · trivial
    refine iff_of_true ?_ kept
    intro receiptId receipt found reversed
    rw [isCertified_congr receiptId deductions certificates]
    exact uncertified receiptId receipt (receipts ▸ found) reversed
  | received dto op accepts same =>
    subst same
    refine iff_of_true ?_ (by simp [keepsNeutral, op])
    intro receiptId receipt found reversed
    have found : (db.recordReceipt dto).receipts.find? receiptId = some receipt := found
    show (db.recordReceipt dto).isCertified receiptId = false
    rw [isCertified_recordReceipt sound.books.linked]
    rw [recordReceipt_receipts, Table.find?_create] at found
    split at found
    · cases found
      cases reversed
    · exact uncertified receiptId receipt found reversed
  | cleared receiptId status receipt op stands found cheque notCleared notBounced same =>
    subst same
    have kept : keepsNeutral
        ⟨db, request, db.withBooks (db.markReceipt receiptId (.withClearance status.clearance))⟩ := by
      unfold keepsNeutral
      rw [op]
      cases status with
      | bounced => exact absurd rfl stands
      | deposited => trivial
      | cleared => trivial
    refine iff_of_true ?_ kept
    intro other row present reversed
    have present : (db.receipts.modify receiptId (Receipt.withClearance status.clearance)).find?
        other = some row := present
    rw [Table.find?_modify] at present
    split at present
    · obtain ⟨before, old, rfl⟩ := Option.map_eq_some_iff.mp present
      exact uncertified other before old reversed
    · exact uncertified other row present reversed
  | bounced receiptId receipt op found cheque notCleared notBounced same =>
    subst same
    unfold keepsNeutral
    rw [op]
    exact noneReversedCertified_undo uncertified found _ _
      ⟨fun _ => rfl, fun _ => rfl, fun _ => rfl⟩
  | reversed receiptId receipt op found unreversed notBounced same =>
    subst same
    unfold keepsNeutral
    rw [op]
    exact noneReversedCertified_undo uncertified found _ _
      ⟨fun _ => rfl, fun _ => rfl, fun _ => rfl⟩
  | certified tdsDeductionId ded op found fresh same =>
    subst same
    have certified := isCertified_recordCertificate found
    obtain ⟨receipt, present, _⟩ := sound.books.linked.deduction tdsDeductionId ded found
    unfold keepsNeutral
    rw [op]
    show (∀ receiptId receipt, db.receipts.find? receiptId = some receipt →
      receipt.isReversed = true → (db.recordCertificate tdsDeductionId ded).isCertified receiptId =
        false) ↔ ∀ other, db.tdsDeductions.find? tdsDeductionId = some other →
          db.stands other.receiptId = true
    rw [Table.forall_find?_iff found]
    constructor
    · intro none
      rw [stands_eq_true present]
      cases reversed : receipt.isReversed with
      | false => rfl
      | true =>
        have free := none ded.receiptId receipt present reversed
        rw [certified] at free
        simp at free
    · intro stands receiptId row rowFound reversed
      rw [certified, uncertified receiptId row rowFound reversed, Bool.false_or]
      rw [decide_eq_false_iff_not]
      rintro rfl
      have standing := (stands_eq_true rowFound).mp stands
      rw [reversed] at standing
      cases standing

/-- **A run keeps every reversed receipt neutral exactly when none of its steps certifies a
deduction of a reversed receipt or reverses a certified one.** -/
theorem reversed_receipts_neutral_iff (inputs : List Request) :
    (∀ db ∈ states exec {} inputs, db.ReversedNeutral) ↔
      ∀ step ∈ steps exec {} inputs, keepsNeutral step := by
  refine forall_states_iff exec_sound ?_ inputs sound_empty ?_
  · intro request before after sound neutral accepted
    rw [reversedNeutral_iff (exec_sound request before after sound accepted).books]
    exact noneReversedCertified_step sound ((reversedNeutral_iff sound.books).mp neutral) accepted
  · rintro receiptId receipt ⟨⟩

def certifiedThenReversed : List Request :=
  smallSale ++
    [⟨smallMasters 0 0, .createReceipt (smallReceipt 0 0 .cash 100 1)⟩,
      ⟨{}, .recordTdsCertificate 0⟩, ⟨{}, .reverseReceipt 0⟩]

/-- The adjustment of the certificate is left over: a credit of 1 for a receipt that is undone. -/
theorem certified_then_reversed_not_neutral :
    ¬(run exec {} certifiedThenReversed).ReversedNeutral := by
  intro neutral
  have leftOver : (run exec {} certifiedThenReversed).causedSum 0 = -1 := by decide
  have nothing := (neutral 0 _ rfl rfl).1
  rw [leftOver] at nothing
  cases nothing

end OpenEstate
