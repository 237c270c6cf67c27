/-
**Reversed receipts are done with, but for two operations.**

A reversal can be reached by two routes, and each checks its own piece of state: the reversal by
hand looks at the flag, the bounce of a cheque at the status of the cheque. A cheque that was
reversed by hand can therefore still bounce. Its entries are not reversed again, but the bounce is
charged for; and a certificate looks at neither.

* `leavesReversedAlone_iff`: a step posts nothing for reversed receipts exactly when it does not
  certify a deduction of one and does not charge for the bounce of one;
* `reversalsOf_le_one`: no entry is ever reversed twice;
* `reversed_receipts_final_iff`: both, over runs.
-/

import OpenEstate.Postsales.Neutrality

namespace OpenEstate

open Relational

/-- Whether an entry names a receipt, or is the adjustment of a certificate on its deduction. -/
def Books.namesReceipt (books : Books) (receiptId entryId : Nat) (entry : LedgerEntry) : Bool :=
  entry.receiptId = some receiptId || books.isCertificateOf receiptId entryId

/-- **A step that posts nothing for a receipt that was reversed before it.** -/
def leavesReversedAlone (step : Step Db Request) : Prop :=
  ∀ receiptId receipt, step.before.receipts.find? receiptId = some receipt →
    receipt.isReversed = true → ∀ id entry, step.after.ledger.find? id = some entry →
      step.before.ledger.find? id = none → step.after.namesReceipt receiptId id entry = false

/-- A step that certifies only receipts that stand, and does not charge for the bounce of a
receipt that is reversed already. -/
def respectsReversal (step : Step Db Request) : Prop :=
  match step.input.op with
  | .recordTdsCertificate tdsDeductionId => ∀ ded,
    step.before.tdsDeductions.find? tdsDeductionId = some ded →
      step.before.stands ded.receiptId = true
  | .recordChequeEvent receiptId .bounced =>
    step.before.stands receiptId = true ∨ step.input.masters.chequeBounceChargePaise ≤ 0
  | _ => True

variable {request : Request}

theorem leavesReversedAlone_of_entries {known : Nat → Prop} {db after : Db}
    (linked : db.Linked known) (entries : List LedgerEntry)
    (ledger : after.ledger = db.ledger.createMany entries)
    (certificates : after.tdsCertificates = db.tdsCertificates)
    (unnamed : ∀ receiptId receipt, db.receipts.find? receiptId = some receipt →
      receipt.isReversed = true → ∀ entry ∈ entries, entry.receiptId ≠ some receiptId) :
    leavesReversedAlone ⟨db, request, after⟩ := by
  intro receiptId receipt found reversed id entry present fresh
  have present : after.ledger.find? id = some entry := present
  have fresh : db.ledger.find? id = none := fresh
  rw [ledger] at present
  rcases Table.find?_createMany present with old | ⟨_, member⟩
  · rw [fresh] at old
    cases old
  · have uncertified : after.isCertificateOf receiptId id = false := by
      cases certificate : after.isCertificateOf receiptId id with
      | false => rfl
      | true =>
        obtain ⟨key, row, ded, recorded, rfl, _, _⟩ := isCertificateOf_iff.mp certificate
        rw [certificates] at recorded
        obtain ⟨_, posted, _, postedFound, _⟩ := linked.certificate key row recorded
        rw [fresh] at postedFound
        cases postedFound
    show (decide (entry.receiptId = some receiptId) || after.isCertificateOf receiptId id) = false
    rw [uncertified, Bool.or_false, decide_eq_false_iff_not]
    exact unnamed receiptId receipt found reversed entry member

theorem receiptId_of_mem_reversalEntries {receiptId : Nat} {receipt : Receipt}
    {reversalType : LedgerEntryType} {bounceChargePaise : Int} {rows : List (Nat × LedgerEntry)}
    {entry : LedgerEntry}
    (member : entry ∈ reversalEntries receiptId receipt reversalType bounceChargePaise rows) :
    entry.receiptId = some receiptId := by
  rcases mem_reversalEntries member with ⟨row, _, rfl⟩ | ⟨_, rfl⟩ <;> rfl

theorem leavesReversedAlone_undo {db : Db} (sound : db.Sound) {receiptId : Nat} {receipt : Receipt}
    (found : db.receipts.find? receiptId = some receipt) (reversalType : LedgerEntryType)
    (bounceChargePaise : Int) (mark : Receipt → Receipt) :
    leavesReversedAlone ⟨db, request, db.withBooks
      (db.undo receiptId receipt reversalType bounceChargePaise mark)⟩ ↔
        db.stands receiptId = true ∨ bounceChargePaise ≤ 0 := by
  rw [stands_eq_true found]
  cases reversed : receipt.isReversed with
  | false =>
    refine iff_of_true ?_ (Or.inl rfl)
    refine leavesReversedAlone_of_entries sound.books.linked _ rfl rfl ?_
    intro other row present undone entry member named
    rw [receiptId_of_mem_reversalEntries member] at named
    cases named
    rw [found] at present
    cases present
    rw [reversed] at undone
    cases undone
  | true =>
    have nothing := pendingEntries_of_reversed sound.books.reversed found reversed
    by_cases charged : 0 < bounceChargePaise
    · refine iff_of_false (fun leaves => ?_) (by simp; omega)
      -- the charge is a new entry that names the receipt
      have charge : bounceChargeEntry receipt.bookingId receiptId bounceChargePaise ∈
          reversalEntries receiptId receipt reversalType bounceChargePaise
            (db.pendingEntries receiptId) := by
        rw [reversalEntries, if_pos charged]
        exact List.mem_append_right _ List.mem_cons_self
      obtain ⟨id, fresh, posted⟩ := Table.exists_of_mem_createMany db.ledger charge
      have unnamed := leaves receiptId receipt found reversed id _ posted
        (Table.find?_of_nextId_le fresh)
      simp [Books.namesReceipt, bounceChargeEntry] at unnamed
    · refine iff_of_true ?_ (Or.inr (by omega))
      refine leavesReversedAlone_of_entries sound.books.linked _ rfl rfl ?_
      intro other row present undone entry member
      rw [nothing, reversalEntries, if_neg charged] at member
      cases member

theorem isCertificateOf_recordCertificate {books : Books} {tdsDeductionId : Nat} {ded : TdsDeduction}
    (found : books.tdsDeductions.find? tdsDeductionId = some ded) (receiptId entryId : Nat) :
    (books.recordCertificate tdsDeductionId ded).isCertificateOf receiptId entryId =
      (books.isCertificateOf receiptId entryId ||
        (books.ledger.nextId = entryId ∧ ded.receiptId = receiptId)) := by
  have certificates : (books.recordCertificate tdsDeductionId ded).tdsCertificates =
      books.tdsCertificates.create
        { tdsDeductionId, adjustmentLedgerEntryId := books.ledger.nextId } := rfl
  unfold Books.isCertificateOf
  rw [certificates, Table.any_create]
  show (_ || decide (books.ledger.nextId = entryId ∧
    (books.tdsDeductions.find? tdsDeductionId).any _ = true)) = _
  rw [found, Option.any_some]
  exact congrArg _ (decide_eq_decide.mpr (and_congr_right' decide_eq_true_iff))

theorem leavesReversedAlone_recordCertificate {db : Db} (sound : db.Sound) {tdsDeductionId : Nat}
    {ded : TdsDeduction} (found : db.tdsDeductions.find? tdsDeductionId = some ded) :
    leavesReversedAlone ⟨db, request, db.withBooks (db.recordCertificate tdsDeductionId ded)⟩ ↔
      db.stands ded.receiptId = true := by
  obtain ⟨receipt, present, _⟩ := sound.books.linked.deduction tdsDeductionId ded found
  have certificate := isCertificateOf_recordCertificate found
  rw [stands_eq_true present]
  constructor
  · intro leaves
    cases reversed : receipt.isReversed with
    | false => rfl
    | true =>
      have unnamed : (db.recordCertificate tdsDeductionId ded).namesReceipt ded.receiptId
          db.ledger.nextId _ = false :=
        leaves ded.receiptId receipt present reversed db.ledger.nextId _
          (Table.find?_create_self _ _) (Table.find?_nextId _)
      rw [Books.namesReceipt, certificate] at unnamed
      simp at unnamed
  · intro standing receiptId row rowFound reversed id entry posted fresh
    have posted : (db.ledger.create _).find? id = some entry := posted
    have fresh : db.ledger.find? id = none := fresh
    have different : ded.receiptId ≠ receiptId := by
      rintro rfl
      rw [present] at rowFound
      cases rowFound
      rw [standing] at reversed
      cases reversed
    have notBefore : db.isCertificateOf receiptId id = false := by
      cases before : db.isCertificateOf receiptId id with
      | false => rfl
      | true =>
        obtain ⟨_, _, oldFound, _⟩ := sound.books.linked.certificateEntry before
        rw [fresh] at oldFound
        cases oldFound
    show (db.recordCertificate tdsDeductionId ded).namesReceipt receiptId id entry = false
    rw [Table.find?_create] at posted
    split at posted
    · cases posted
      rw [Books.namesReceipt, certificate, notBefore]
      simp [different]
    · rw [fresh] at posted
      cases posted

theorem leavesReversedAlone_iff {db after : Db} (sound : db.Sound)
    (accepted : exec request db = .ok after) :
    leavesReversedAlone ⟨db, request, after⟩ ↔ respectsReversal ⟨db, request, after⟩ := by
  cases (exec_effect accepted).receiptStep with
  | foreign entries ledger plain receipts allocations deductions certificates notOutcome
      notCertificate =>
    refine iff_of_true ?_ ?_
    · refine leavesReversedAlone_of_entries sound.books.linked entries ledger certificates ?_
      intro receiptId receipt _ _ entry member named
      rw [(plain entry member).receipt] at named
      cases named
    · unfold respectsReversal
      split
      · rename_i tdsDeductionId op
        exact absurd op (notCertificate tdsDeductionId)
      · rename_i receiptId op
        exact absurd op ((notOutcome receiptId).2 _)
      · trivial
  | received dto op accepts same =>
    subst same
    refine iff_of_true ?_ (by simp [respectsReversal, op])
    refine leavesReversedAlone_of_entries sound.books.linked _ (recordReceipt_ledger _ dto)
      (recordReceipt_tdsCertificates _ dto) ?_
    intro receiptId receipt found _ entry member named
    rw [(reversalOf_receiptEntries member).1] at named
    cases named
    rw [Table.find?_nextId] at found
    cases found
  | cleared receiptId status receipt op stands found cheque notCleared notBounced same =>
    subst same
    refine iff_of_true ?_ ?_
    · refine leavesReversedAlone_of_entries sound.books.linked [] rfl rfl ?_
      intro receiptId receipt _ _ entry member
      cases member
    · unfold respectsReversal
      rw [op]
      cases status with
      | bounced => exact absurd rfl stands
      | deposited => trivial
      | cleared => trivial
  | bounced receiptId receipt op found cheque notCleared notBounced same =>
    subst same
    unfold respectsReversal
    rw [op]
    exact leavesReversedAlone_undo sound found _ _ _
  | reversed receiptId receipt op found unreversed notBounced same =>
    subst same
    refine iff_of_true ?_ (by simp [respectsReversal, op])
    exact (leavesReversedAlone_undo sound found _ _ _).mpr (Or.inr le_rfl)
  | certified tdsDeductionId ded op found fresh same =>
    subst same
    unfold respectsReversal
    rw [op, leavesReversedAlone_recordCertificate sound found]
    show db.stands ded.receiptId = true ↔ ∀ other,
      db.tdsDeductions.find? tdsDeductionId = some other → db.stands other.receiptId = true
    rw [Table.forall_find?_iff found]

theorem reversalsOf_le_one {known : Nat → Prop} {books : Books} (sound : books.Sound known)
    (entryId : Nat) : books.reversalsOf entryId ≤ 1 := by
  by_cases own : ∃ entry receiptId, books.ledger.find? entryId = some entry ∧
      entry.isOwnOf receiptId = true
  · obtain ⟨entry, receiptId, found, own⟩ := own
    obtain ⟨receipt, present, _⟩ :=
      (sound.linked.entry entryId entry found).receipt receiptId (isOwnOf_iff.mp own).1
    rw [sound.reversed entryId entry receiptId receipt found own present]
    split <;> omega
  · rw [sound.linked.reversalsOf_eq_zero fun entry receiptId found => ?_]
    · omega
    · rw [Bool.eq_false_iff]
      exact fun isOwn => own ⟨entry, receiptId, found, isOwn⟩

/-- **A run is done with every reversed receipt, and reverses no entry twice, exactly when none of
its steps certifies a deduction of a reversed receipt or charges for the bounce of one.** -/
theorem reversed_receipts_final_iff (inputs : List Request) :
    ((∀ step ∈ steps exec {} inputs, leavesReversedAlone step) ∧
      ∀ db ∈ states exec {} inputs, ∀ entryId, db.reversalsOf entryId ≤ 1) ↔
        ∀ step ∈ steps exec {} inputs, respectsReversal step := by
  have once : ∀ db ∈ states exec {} inputs, ∀ entryId, db.reversalsOf entryId ≤ 1 :=
    fun db visited => reversalsOf_le_one (ReachableDb.sound (mem_states visited)).books
  rw [and_iff_left once]
  refine forall₂_congr fun step listed => ?_
  obtain ⟨earlier, accepted⟩ := mem_steps listed
  exact leavesReversedAlone_iff (ReachableDb.sound earlier) accepted

def reversedThenBounced : List Request :=
  smallSale ++
    [⟨{}, .createReceipt (smallReceipt 0 0 .cheque 100 0)⟩, ⟨{}, .reverseReceipt 0⟩,
      ⟨smallMasters 500 0, .recordChequeEvent 0 .bounced⟩]

/-- The bounce is accepted, and charges 500 on a receipt that was reversed already. -/
theorem reversed_then_bounced_not_final :
    ¬((∀ step ∈ steps exec {} reversedThenBounced, leavesReversedAlone step) ∧
      ∀ db ∈ states exec {} reversedThenBounced, ∀ entryId, db.reversalsOf entryId ≤ 1) := by
  rintro ⟨leaves, _⟩
  -- the bounce is the seventh step, and entry 3 is its charge
  have unnamed := leaves _ (List.mem_of_getElem? (i := 6) rfl) 0 _ rfl rfl 3 _ rfl rfl
  revert unnamed
  decide

end OpenEstate
