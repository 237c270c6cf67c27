/-
**Two requests that undo one receipt.**

Cancelling a receipt and bouncing its cheque both reverse the entries of the receipt that have no
reversal yet. Which ones these are is read before the first reversal is posted, and the receipt is
marked at the end, or not looked at again.

* `undoing_keeps`: a request that commits could have undone the receipt at first;
* `reversedOnce_of_one`: as long as one request has committed, no entry is reversed twice;
* `reversedOnce_of_nothing_pending`: nor when there was nothing left to reverse;
* `exists_reversedTwice`: a cancellation that is overtaken by a bounce reverses everything again.
-/

import OpenEstate.Concurrent.Decision
import OpenEstate.Postsales.Finality

set_option linter.unusedSectionVars false

namespace OpenEstate

open Relational

def Decision.Undoes (receiptId : Nat) (decision : Decision) : Prop :=
  decision = .receiptReversal receiptId ∨ decision = .chequeBounce receiptId

def Books.ReversedOnce (books : Books) (receiptId : Nat) : Prop :=
  ∀ entryId entry, books.ledger.find? entryId = some entry → entry.isOwnOf receiptId = true →
    books.reversalsOf entryId ≤ 1

/-! ### What undoing leaves alone -/

structure Store.UndoneSince (first : Store) (receiptId : Nat) (store : Store) : Prop where
  receipt : ∀ row, store.receipts.find? receiptId = some row →
    ∃ before, first.receipts.find? receiptId = some before ∧ before.mode = row.mode ∧
      (row.isReversed = false → before.isReversed = false) ∧
      (row.clearanceStatus ≠ .bounced → before.clearanceStatus = row.clearanceStatus)

theorem Store.UndoneSince.modify {first store : Store} {receiptId : Nat}
    (since : first.UndoneSince receiptId store) {change : Receipt → Receipt}
    (marks : ∀ row, (change row).mode = row.mode ∧ (change row).isReversed = true ∧
      ((change row).clearanceStatus = row.clearanceStatus ∨
        (change row).clearanceStatus = .bounced)) :
    first.UndoneSince receiptId (store.onBooks fun books =>
      { books with receipts := books.receipts.modify receiptId change }) where
  receipt := by
    intro row found
    have found : (store.receipts.modify receiptId change).find? receiptId = some row := found
    rw [Table.find?_modify_self] at found
    obtain ⟨current, present, rfl⟩ := Option.map_eq_some_iff.mp found
    obtain ⟨before, original, mode, reversed, clearance⟩ := since.receipt current present
    obtain ⟨sameMode, marked, cleared⟩ := marks current
    refine ⟨before, original, mode.trans sameMode.symm, fun unmarked => ?_, fun notBounced => ?_⟩
    · rw [marked] at unmarked
      cases unmarked
    · rcases cleared with same | bounced
      · rw [same] at notBounced ⊢
        exact clearance notBounced
      · exact absurd bounced notBounced

theorem reverseReceiptLedger_keeps (first : Store) (receiptId : Nat) (receipt : Receipt)
    (reversalType : LedgerEntryType) (bounceChargePaise : Int) :
    (ReceiptService.reverseReceiptLedger receiptId receipt reversalType bounceChargePaise).Keeps
      (first.UndoneSince receiptId) fun _ => True := by
  refine .read_bind fun _ _ => .read_bind fun _ _ => ?_
  have entries : ∀ rows, (ReceiptService.reverseEntries receiptId receipt reversalType rows).Keeps
      (first.UndoneSince receiptId) fun _ => True := by
    refine fun rows => .forEach fun row _ => .insert_bind (fun _ since => ⟨since.receipt⟩) ?_
    split
    · refine .read_bind fun seen _ => ?_
      split
      · exact .done trivial
      · exact .update (fun _ since => ⟨since.receipt⟩) trivial
    · exact .done trivial
  refine (entries _).bind fun _ _ => ?_
  unfold ReceiptService.postBounceCharge
  split
  · exact .insert (fun _ since => ⟨since.receipt⟩) trivial
  · exact .done trivial

theorem undoing_keeps (masters : CommissionMasters) {decision : Decision} {receiptId : Nat}
    (undoes : decision.Undoes receiptId) (first : Store) :
    (decision.statements masters).Keeps (first.UndoneSince receiptId)
      fun _ => decision.Takable masters first.toCommissionDb := by
  rcases undoes with rfl | rfl
  · refine .read_bind fun seen since => .check_bind fun receipt found => ?_
    rw [orThrow_eq_ok] at found
    obtain ⟨before, original, _, reversed, clearance⟩ := since.receipt receipt found
    refine .check_bind fun _ unreversed => .check_bind fun _ notBounced => ?_
    rw [ensure_eq_ok] at unreversed notBounced
    have takable : (Decision.receiptReversal receiptId).Takable masters first.toCommissionDb := by
      refine ⟨before, original, reversed unreversed, ?_⟩
      rw [clearance notBounced]
      exact notBounced
    refine (reverseReceiptLedger_keeps first receiptId receipt _ _).bind fun _ _ => ?_
    exact .update (fun _ since => since.modify fun _ => ⟨rfl, rfl, Or.inl rfl⟩) takable
  · refine .read_bind fun seen since => .check_bind fun receipt found => ?_
    rw [orThrow_eq_ok] at found
    obtain ⟨before, original, mode, _, clearance⟩ := since.receipt receipt found
    refine .check_bind fun _ cheque => .check_bind fun _ open_ => ?_
    rw [ensure_eq_ok] at cheque open_
    have takable : (Decision.chequeBounce receiptId).Takable masters first.toCommissionDb := by
      refine ⟨before, original, ?_, ?_⟩
      · rw [mode]
        exact cheque
      · rw [clearance open_.2]
        exact open_
    refine .update_bind (fun _ since => since.modify fun _ => ⟨rfl, rfl, Or.inr rfl⟩) ?_
    exact (reverseReceiptLedger_keeps first receiptId receipt _ _).mono fun _ _ => takable

/-! ### Nothing left to reverse -/

/-- Every entry of a receipt had been reversed at first, and nothing has been reversed since. -/
structure Store.AllReversed (first : Store) (receiptId : Nat) (store : Store) : Prop where
  before : ∀ id entry, store.ledger.find? id = some entry → entry.isOwnOf receiptId = true →
    first.alreadyReversed id = true
  since : ∀ id, store.reversalsOf id = first.reversalsOf id

theorem reversalsOf_post (books : Books) (entries : List LedgerEntry) (entryId : Nat) :
    (books.post entries).reversalsOf entryId = books.reversalsOf entryId +
      entries.countP fun entry => entry.reversalOfEntryId = some entryId :=
  Table.count_createMany books.ledger entries _

theorem Store.AllReversed.already {first store : Store} {receiptId : Nat}
    (settled : first.AllReversed receiptId store) {id : Nat}
    (reversed : first.alreadyReversed id = true) : store.alreadyReversed id = true := by
  rw [← Bool.not_eq_false, alreadyReversed_eq_false] at reversed ⊢
  rwa [settled.since]

theorem Store.AllReversed.charge {first store : Store} {receiptId : Nat}
    (settled : first.AllReversed receiptId store) (bookingId : Nat) (bounceChargePaise : Int) :
    first.AllReversed receiptId (store.onBooks
      (·.post [bounceChargeEntry bookingId receiptId bounceChargePaise])) where
  before := by
    intro id entry found own
    have found : (store.ledger.create (bounceChargeEntry bookingId receiptId
      bounceChargePaise)).find? id = some entry := found
    rcases Table.find?_create_eq_some.mp found with ⟨_, rfl⟩ | old
    · simp [LedgerEntry.isOwnOf, bounceChargeEntry] at own
    · exact settled.before id entry old own
  since := by
    intro id
    exact (reversalsOf_post store.toBooks [_] id).trans (settled.since id)

/-- **Where every entry has been reversed, no request reverses any.** -/
theorem undoing_keeps_allReversed (masters : CommissionMasters) {decision : Decision}
    {receiptId : Nat} (undoes : decision.Undoes receiptId) (first : Store) :
    (decision.statements masters).Keeps (first.AllReversed receiptId) fun _ => True := by
  have ledger : ∀ receipt reversalType bounceChargePaise,
      (ReceiptService.reverseReceiptLedger receiptId receipt reversalType bounceChargePaise).Keeps
        (first.AllReversed receiptId) fun _ => True := by
    intro receipt reversalType bounceChargePaise
    refine .read_bind fun seen settled => .read_bind fun later settledLater => ?_
    have nothing : (seen.ledger.select fun _ entry => entry.isOwnOf receiptId).filter
        (fun row => !later.alreadyReversed row.1) = [] := by
      refine List.filter_eq_nil_iff.mpr fun row member => ?_
      obtain ⟨found, own⟩ := Table.mem_select.mp member
      rw [settledLater.already (settled.before _ _ found own)]
      decide
    rw [nothing]
    show (ReceiptService.postBounceCharge receiptId receipt bounceChargePaise).Keeps _ _
    unfold ReceiptService.postBounceCharge
    split
    · exact .insert (fun _ settled => settled.charge _ _) trivial
    · exact .done trivial
  rcases undoes with rfl | rfl
  · refine .read_bind fun _ _ => .check_bind fun _ _ => .check_bind fun _ _ => ?_
    refine .check_bind fun _ _ => (ledger _ _ _).bind fun _ _ => ?_
    exact .update (fun _ settled => ⟨settled.before, settled.since⟩) trivial
  · refine .read_bind fun _ _ => .check_bind fun _ _ => .check_bind fun _ _ => ?_
    refine .check_bind fun _ _ => .update_bind (fun _ settled => ⟨settled.before, settled.since⟩) ?_
    exact ledger _ _ _

/-! ### Undoing alone -/

theorem reachable_of_undoing {masters : CommissionMasters} {decision : Decision} {receiptId : Nat}
    (undoes : decision.Undoes receiptId) {store after : Store} (reachable : ReachableDb store.toDb)
    (ran : (decision.statements masters).run store = .ok ((), after)) :
    ReachableDb after.toDb := by
  rcases undoes with rfl | rfl
  · obtain ⟨db, accepted, rfl⟩ := reverseReceipt_run_eq_ok.mp ran
    exact .step ⟨masters.toMasters, .reverseReceipt receiptId⟩ reachable accepted
  · obtain ⟨db, accepted, rfl⟩ := recordChequeEvent_run_eq_ok.mp ran
    exact .step ⟨masters.toMasters, .recordChequeEvent receiptId .bounced⟩ reachable accepted

/-! ### Two sessions -/

section Race

variable {masters : Bool → CommissionMasters} {decision : Bool → Decision} {store : Store}
  {world : World Bool Store RowLock ServiceError Unit} {receiptId : Nat}

theorem takable_of_undoing (undo : ∀ request, (decision request).Undoes receiptId)
    (occurs : World.Occurs (decisionSessions masters decision) store world) {request : Bool}
    (committed : world.HasCommitted request) :
    (decision request).Takable (masters request) store.toCommissionDb := by
  have initially : store.UndoneSince receiptId store :=
    ⟨fun row found => ⟨row, found, rfl, fun same => same, fun _ => rfl⟩⟩
  obtain ⟨_, takable⟩ := World.answered_of_committed (fun request =>
    undoing_keeps (masters request) (undo request) store) initially occurs committed
  exact takable

theorem reversedOnce_of_one (reachable : ReachableDb store.toDb)
    (undo : ∀ request, (decision request).Undoes receiptId)
    (occurs : World.Occurs (decisionSessions masters decision) store world)
    (one : ¬world.BothCommitted) : world.rows.ReversedOnce receiptId := by
  have after : ReachableDb world.rows.toDb := by
    refine World.rows_of_one (fun rows => ReachableDb rows.toDb) occurs one reachable ?_
    intro request result after ran
    exact reachable_of_undoing (undo request) reachable ran
  exact fun entryId _ _ _ => reversalsOf_le_one after.sound.books entryId

theorem reversedOnce_of_nothing_pending (reachable : ReachableDb store.toDb)
    (undo : ∀ request, (decision request).Undoes receiptId)
    (nothing : store.pendingEntries receiptId = [])
    (occurs : World.Occurs (decisionSessions masters decision) store world) :
    world.rows.ReversedOnce receiptId := by
  have initially : store.AllReversed receiptId store := by
    refine ⟨fun id entry found own => ?_, fun _ => rfl⟩
    have filtered := List.filter_eq_nil_iff.mp nothing (id, entry) (Table.mem_select.mpr ⟨found, own⟩)
    simpa using filtered
  have settled := (World.kept_of_reachable (fun request =>
    undoing_keeps_allReversed (masters request) (undo request) store) initially occurs).1
  intro entryId entry found own
  rw [settled.since]
  exact reversalsOf_le_one reachable.sound.books entryId

/-! ### A reversal overtaken by a bounce -/

theorem ledger_of_bounce {masters : Masters} {receiptId : Nat} {db after : Db}
    (accepted : recordChequeEvent masters receiptId .bounced db = .ok after) :
    ∃ receipt, after.ledger = db.ledger.createMany (reversalEntries receiptId receipt
      .bounceReversal masters.chequeBounceChargePaise (db.pendingEntries receiptId)) := by
  obtain ⟨receipt, _, _, _, _, rfl⟩ := recordChequeEvent_eq_ok accepted
  refine ⟨receipt, ?_⟩
  rw [if_pos rfl, reverseReceiptLedger_eq]
  rfl

/-- **A reversal can be paused when it has read what is pending, and then reverses that in any
state.** -/
theorem exists_pause_of_reversal {masters : CommissionMasters} {receiptId : Nat} {store : Store}
    (takable : (Decision.receiptReversal receiptId).Takable masters store.toCommissionDb) :
    ∃ receipt rest, ((Decision.receiptReversal receiptId).statements masters).Path store rest id [] ∧
      ∀ middle : Store, ∃ after, rest.run middle = .ok ((), after) ∧
        after.ledger = middle.ledger.createMany (reversalEntries receiptId receipt .adjustment 0
          (store.pendingEntries receiptId)) := by
  obtain ⟨receipt, found, unreversed, notBounced⟩ := takable
  let pending := store.pendingEntries receiptId
  let rest : Statements Unit := do
    ReceiptService.reverseEntries receiptId receipt .adjustment pending
    ReceiptService.postBounceCharge receiptId receipt 0
  have reads : (ReceiptService.reverseReceiptLedger receiptId receipt .adjustment 0).Path store
      rest id [] := .read_bind (.read_bind (.refl _ _))
  refine ⟨receipt, _, .read_bind (.orThrow_bind found (.ensure_bind unreversed
    (.ensure_bind notBounced (reads.bind _)))), fun middle => ?_⟩
  have reverses : rest.run middle = .ok ((), middle.onBooks fun books =>
      pending.foldl (fun books row => books.reverseEntry receiptId receipt .adjustment row)
        books) :=
    Tx.run_bind_eq_ok.mpr ⟨(), _, reverseEntries_run _ _ _ _ _, postBounceCharge_run _ _ _ _⟩
  refine ⟨_, Tx.run_bind_eq_ok.mpr ⟨(), _, reverses, rfl⟩, ?_⟩
  show (pending.foldl (fun books row => books.reverseEntry receiptId receipt .adjustment row)
    middle.toBooks).ledger = _
  rw [foldl_reverseEntry]
  simp [reversalEntries, pending]

theorem exists_reversedTwice {first second : Bool} (different : first ≠ second)
    (reversal : decision first = .receiptReversal receiptId)
    (bounce : decision second = .chequeBounce receiptId)
    (takable : ∀ request, (decision request).Takable (masters request) store.toCommissionDb)
    (pending : store.pendingEntries receiptId ≠ []) :
    ∃ schedule, ¬(World.interleave (decisionSessions masters decision) store
      schedule).rows.ReversedOnce receiptId := by
  obtain ⟨paused, rest, pauses, resumes⟩ := exists_pause_of_reversal (reversal ▸ takable first)
  obtain ⟨db, accepted⟩ := takable_iff.mp (takable second)
  obtain ⟨after, resumed, ledger⟩ := resumes (store.onCommission fun _ => db)
  rw [← reversal] at pauses
  obtain ⟨schedule, rows, _⟩ := exists_overtaken different pauses accepted resumed
  refine ⟨schedule, fun once => ?_⟩
  rw [rows] at once
  -- what the bounce has reversed, the reversal reverses again
  obtain ⟨row, member⟩ := List.exists_mem_of_ne_nil _ pending
  obtain ⟨found, own, _⟩ := mem_pendingEntries.mp member
  rw [bounce] at accepted
  obtain ⟨_, bounced, rfl⟩ := map_eq_ok.mp accepted
  obtain ⟨receipt, bouncedLedger⟩ := ledger_of_bounce bounced
  have both : after.ledger = (store.ledger.createMany _).createMany _ :=
    ledger.trans (congrArg (Table.createMany · _) bouncedLedger)
  have still : after.ledger.find? row.1 = some row.2 := by
    rw [both]
    exact Table.find?_createMany_old _ (Table.find?_createMany_old _ found)
  have atMostOne := once row.1 row.2 still own
  have listed : row.1 ∈ (store.pendingEntries receiptId).map Prod.fst := List.mem_map_of_mem member
  have distinct := nodup_pendingEntries store.toBooks receiptId
  rw [Books.reversalsOf, both, Table.count_createMany, Table.count_createMany,
    countP_reversalEntries _ _ _ _ distinct, countP_reversalEntries _ _ _ _ distinct,
    if_pos listed] at atMostOne
  omega

end Race

end OpenEstate
