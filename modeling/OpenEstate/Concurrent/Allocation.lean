/-
**Two receipts on one installment.**

A receipt checks what is outstanding before it takes its first lock, and reads each installment
again, without a lock, just before it updates it. Two receipts whose dates fall in one financial
year queue for their number, so neither update is lost, but both may have been checked before; two
receipts for different years do not even queue, and one may overwrite the other's allocation.

* `createReceipt_keeps`: receipts only fill installments up;
* `reachable_of_serial`: receipts recorded one after the other, for which there is room together,
  are receipts of the sequential model;
* `exists_excess`, `exists_lost`: the schedules that allocate too much, and that lose an update;
* **`allocation_exact_iff`**: every schedule leaves the common installments right, exactly when one
  of the receipts cannot be accepted, or both fall in one financial year and fit together.
-/

import OpenEstate.Concurrent.Receipt
import OpenEstate.Postsales.Sound

set_option linter.unusedSectionVars false

namespace OpenEstate

open Relational

/-! ### What receipts leave alone -/

theorem deltaTo_allocationDeltas_nonneg (installmentId : Nat)
    (allocations : List ReceiptAllocationInput) :
    0 ≤ deltaTo installmentId (allocationDeltas allocations) := by
  induction allocations with
  | nil => exact le_rfl
  | cons a rest ih =>
    rw [deltaTo_allocationDeltas_cons]
    refine add_nonneg ?_ ih
    split
    · exact zero_le_one.trans a.amount_pos
    · exact le_rfl

variable {installmentId : Nat}
variable {allocations : List ReceiptAllocationInput}

theorem deltaTo_allocationDeltas_pos (named : ∃ a ∈ allocations, a.installmentId = installmentId) :
    0 < deltaTo installmentId (allocationDeltas allocations) := by
  obtain ⟨a, member, same⟩ := named
  obtain ⟨before, after, rfl⟩ := List.append_of_mem member
  have split : deltaTo installmentId (allocationDeltas (before ++ a :: after)) =
      deltaTo installmentId (allocationDeltas before) +
        deltaTo installmentId (allocationDeltas (a :: after)) := by
    simp [deltaTo, allocationDeltas]
  rw [split, deltaTo_allocationDeltas_cons, if_pos same]
  have first := deltaTo_allocationDeltas_nonneg installmentId before
  have last := deltaTo_allocationDeltas_nonneg installmentId after
  have positive := a.amount_pos
  omega

theorem deltaTo_eq_zero {deltas : List (Nat × Int)}
    (absent : installmentId ∉ deltas.map Prod.fst) : deltaTo installmentId deltas = 0 := by
  refine List.sum_eq_zero fun figure inside => ?_
  obtain ⟨delta, listed, rfl⟩ := List.mem_map.mp inside
  exact if_neg fun same : delta.1 = installmentId => absent (same ▸ List.mem_map_of_mem listed)

theorem total_of_mem_addByInst {total : Nat × Int} (member : total ∈ addByInst allocations) :
    total.2 = deltaTo total.1 (allocationDeltas allocations) := by
  rw [← deltaTo_addByInst]
  exact (deltaTo_of_mem (nodup_keys_addByInst allocations) member).symm

theorem Store.FilledUp.setAllocation {first seen store : Store} (since : first.FilledUp store)
    (read : first.FilledUp seen) {inst : Installment}
    (found : seen.installments.find? installmentId = some inst) {delta : Int} (adds : 0 ≤ delta)
    (status : InstallmentStatus) :
    first.FilledUp (store.onBooks (·.setAllocation installmentId (inst.allocatedPaise + delta)
      status)) where
  bookings := since.bookings
  installments := by
    intro id row present
    have present : (store.installments.modify installmentId fun row =>
      { row with allocatedPaise := inst.allocatedPaise + delta, status }).find? id = some row :=
      present
    rw [Table.find?_modify_eq_some] at present
    rcases present with ⟨rfl, current, there, rfl⟩ | ⟨_, there⟩
    · obtain ⟨before, original, filled⟩ := since.installments _ _ there
      obtain ⟨other, again, filledThen⟩ := read.installments _ _ found
      rw [original] at again
      cases again
      refine ⟨before, original, ?_, ?_⟩
      · exact filledThen.more.trans (le_add_of_nonneg_right adds)
      · rw [filled.kept]
    · exact since.installments _ _ there

/-- **Receipts only fill installments up.** -/
theorem receiptRecord_keeps (companyId : Nat) (masters : Masters) (dto : CreateReceiptDto)
    (first : Store) :
    (ReceiptService.record companyId masters dto).Keeps first.FilledUp fun _ => True := by
  have lines : (ReceiptService.recordLines companyId masters dto).Keeps first.FilledUp
      fun _ => True := by
    refine .updateReturning_bind (fun store since => ⟨since.bookings, since.installments⟩) fun _ => ?_
    refine .insert_bind (fun store since => ⟨since.bookings, since.installments⟩) ?_
    refine .forEach fun a _ => ?_
    refine .insert_bind (fun store since => ⟨since.bookings, since.installments⟩) ?_
    exact .insert (fun store since => ⟨since.bookings, since.installments⟩) trivial
  have bumps : (ReceiptService.bumpInstallments (addByInst dto.allocations)).Keeps first.FilledUp
      fun _ => True := by
    refine .forEach fun total member => .read_bind fun seen read => ?_
    cases found : seen.installments.find? total.1 with
    | none => exact .done trivial
    | some inst =>
      refine .update (fun store since => since.setAllocation read found ?_ _) trivial
      rw [total_of_mem_addByInst member]
      exact deltaTo_allocationDeltas_nonneg _ _
  have tds : (ReceiptService.recordTds dto).Keeps first.FilledUp fun _ => True := by
    unfold ReceiptService.recordTds
    split
    · refine .insert_bind (fun store since => ⟨since.bookings, since.installments⟩) ?_
      exact .insert (fun store since => ⟨since.bookings, since.installments⟩) trivial
    · exact .done trivial
  exact lines.bind fun _ _ => bumps.bind fun _ _ => tds

theorem createReceipt_keeps (companyId : Nat) (masters : Masters) (dto : CreateReceiptDto)
    (first : Store) :
    (ReceiptService.createReceiptTx companyId masters dto).Keeps first.FilledUp
      fun _ => first.CanReceive masters dto :=
  (check_readOnly masters dto first).keeps.bind fun _ can =>
    (receiptRecord_keeps companyId masters dto first).mono fun _ _ => can

/-! ### One after the other -/

def Common (dto : Bool → CreateReceiptDto) (installmentId : Nat) : Prop :=
  ∀ request, ∃ a ∈ (dto request).allocations, a.installmentId = installmentId

/-- What is cached on an installment is what is allocated to it, and no more than its amount. -/
def Books.AllocatedExactly (books : Books) (installmentId : Nat) : Prop :=
  ∀ inst, books.installments.find? installmentId = some inst →
    inst.allocatedPaise = books.allocatedOn installmentId ∧
      inst.allocatedPaise ≤ inst.amountPaise

def Books.FitTogether (books : Books) (dto : Bool → CreateReceiptDto) (installmentId : Nat) : Prop :=
  ∀ inst, books.installments.find? installmentId = some inst →
    inst.allocatedPaise + deltaTo installmentId (allocationDeltas (dto false).allocations) +
      deltaTo installmentId (allocationDeltas (dto true).allocations) ≤ inst.amountPaise

theorem find?_recordReceipt {books : Books} (dto : CreateReceiptDto) {inst : Installment}
    (found : books.installments.find? installmentId = some inst) :
    ∃ after, (books.recordReceipt dto).installments.find? installmentId = some after ∧
      inst.Bumped after (deltaTo installmentId (allocationDeltas dto.allocations)) := by
  rw [recordReceipt_installments, ← deltaTo_addByInst]
  exact find?_bumpAll_of_some _ found

theorem Db.CanReceive.after {db : Db} {masters : Masters} {dto other : CreateReceiptDto}
    (can : db.CanReceive masters dto)
    (room : ∀ total ∈ addByInst dto.allocations, ∀ inst,
      db.installments.find? total.1 = some inst →
      inst.allocatedPaise + deltaTo total.1 (allocationDeltas other.allocations) + total.2 ≤
        inst.amountPaise) :
    Db.CanReceive { db with toBooks := db.recordReceipt other } masters dto where
  booking := can.booking
  accepts :=
    { sum := can.accepts.sum
      tds := can.accepts.tds
      lines := by
        intro a member
        obtain ⟨inst, found, sameBooking, raised⟩ := can.accepts.lines a member
        obtain ⟨after, present, moved⟩ := find?_recordReceipt other found
        refine ⟨after, present, moved.booking.trans sameBooking, ?_⟩
        rw [moved.kept]
        exact raised
      totals := by
        intro total member
        obtain ⟨inst, found, sameBooking, _⟩ := can.accepts.totals total member
        obtain ⟨after, present, moved⟩ := find?_recordReceipt other found
        refine ⟨after, present, moved.booking.trans sameBooking, ?_⟩
        rw [moved.allocated, moved.amount]
        exact room total member inst found }

theorem Db.CanReceive.reachable {db : Db} {masters : Masters} {dto : CreateReceiptDto}
    (can : db.CanReceive masters dto) (reachable : ReachableDb db) :
    ReachableDb { db with toBooks := db.recordReceipt dto } := by
  refine .step ⟨masters, .createReceipt dto⟩ reachable ?_
  show Prod.fst <$> createReceipt masters dto db = _
  rw [createReceipt_iff.mpr ⟨can, rfl⟩]
  rfl

/-! ### Two sessions -/

def receiptSessions (companyId : Nat) (masters : Bool → Masters) (dto : Bool → CreateReceiptDto) :
    Bool → Statements Unit :=
  fun request => ReceiptService.createReceiptTx companyId (masters request) (dto request)

section Race

variable {companyId : Nat} {masters : Bool → Masters} {dto : Bool → CreateReceiptDto}
  {store : Store} {world : World Bool Store RowLock ServiceError Unit}

theorem canReceive_of_committed
    (occurs : World.Occurs (receiptSessions companyId masters dto) store world) {request : Bool}
    (committed : world.HasCommitted request) : store.CanReceive (masters request) (dto request) := by
  obtain ⟨_, can⟩ := World.answered_of_committed
    (fun request => createReceipt_keeps companyId (masters request) (dto request) store)
    (.refl store) occurs committed
  exact can

theorem reachable_of_one (reachable : ReachableDb store.toDb)
    (occurs : World.Occurs (receiptSessions companyId masters dto) store world)
    (one : ¬world.BothCommitted) : ReachableDb world.rows.toDb := by
  refine World.rows_of_one (fun rows => ReachableDb rows.toDb) occurs one reachable ?_
  intro request result after ran
  obtain ⟨can, rfl⟩ := createReceipt_run_eq_ok.mp ran
  exact can.reachable reachable

theorem reachable_of_refused (reachable : ReachableDb store.toDb)
    (refused : ¬∀ request, store.CanReceive (masters request) (dto request))
    (occurs : World.Occurs (receiptSessions companyId masters dto) store world) :
    ReachableDb world.rows.toDb := by
  refine reachable_of_one reachable occurs fun both => refused fun request => ?_
  exact canReceive_of_committed occurs (both.each request)

theorem room_of_fitTogether (can : ∀ request, store.CanReceive (masters request) (dto request))
    (fit : ∀ id, Common dto id → store.FitTogether dto id) {first second : Bool}
    (different : first ≠ second) :
    ∀ total ∈ addByInst (dto second).allocations, ∀ inst,
      store.installments.find? total.1 = some inst →
      inst.allocatedPaise + deltaTo total.1 (allocationDeltas (dto first).allocations) + total.2 ≤
        inst.amountPaise := by
  intro total member inst found
  by_cases named : ∃ a ∈ (dto first).allocations, a.installmentId = total.1
  · have common : Common dto total.1 := by
      intro request
      by_cases same : request = first
      · rwa [same]
      · have other : request = second := by
          cases request <;> cases first <;> cases second <;> first | rfl | contradiction
        rw [other]
        exact mem_keys_addByInst.mp (List.mem_map_of_mem member)
    have fits := fit total.1 common inst found
    rw [total_of_mem_addByInst member]
    cases first <;> cases second <;> first | contradiction | omega
  · obtain ⟨other, again, _, fits⟩ := (can second).accepts.totals total member
    rw [found] at again
    cases again
    have nothing : deltaTo total.1 (allocationDeltas (dto first).allocations) = 0 := by
      rw [← deltaTo_addByInst]
      exact deltaTo_eq_zero fun listed => named (mem_keys_addByInst.mp listed)
    rwa [nothing, add_zero]

theorem reachable_of_serial (reachable : ReachableDb store.toDb)
    (can : ∀ request, store.CanReceive (masters request) (dto request))
    (fit : ∀ id, Common dto id → store.FitTogether dto id) {history : List Bool} {after : Store}
    (serial : World.Serial (fun request tail => tail =
      ReceiptService.record companyId (masters request) (dto request)) store history after)
    (nodup : history.Nodup) : ReachableDb after.toDb := by
  cases serial with
  | nil => exact reachable
  | @snoc earlier before _ second _ _ serial one ran =>
    subst one
    rw [receiptRecord_run] at ran
    cases ran
    cases serial with
    | nil => exact (can second).reachable reachable
    | @snoc earliest before _ first _ _ serial one ran =>
      subst one
      rw [receiptRecord_run] at ran
      cases ran
      cases serial with
      | nil =>
        have different : first ≠ second := by
          rintro rfl
          exact absurd nodup (by simp)
        have room := room_of_fitTogether can fit different
        exact ((can second).after room).reachable ((can first).reachable reachable)
      | snoc serial one ran =>
        have long := List.Nodup.length_le_card nodup
        simp at long

theorem reachable_of_sameSequence (reachable : ReachableDb store.toDb)
    (can : ∀ request, store.CanReceive (masters request) (dto request))
    (fit : ∀ id, Common dto id → store.FitTogether dto id) {key : SequenceKey}
    (sameSequence : ∀ request, receiptSequence companyId (masters request) (dto request) = key)
    (occurs : World.Occurs (receiptSessions companyId masters dto) store world) :
    ReachableDb world.rows.toDb := by
  have defers : ∀ request, (receiptSessions companyId masters dto request).Defers
      (.sequence key) store.FilledUp (fun tail => tail =
        ReceiptService.record companyId (masters request) (dto request)) := by
    intro request
    rw [← sameSequence request]
    exact .bind (check_readOnly (masters request) (dto request) store)
      fun _ _ => .tail List.mem_cons_self rfl
  have stays : ∀ request tail before result after,
      tail = ReceiptService.record companyId (masters request) (dto request) →
      store.FilledUp before → tail.run before = .ok (result, after) → store.FilledUp after := by
    rintro request _ before result after rfl since ran
    exact ((receiptRecord_keeps _ _ _ store).run since ran).1
  obtain ⟨history, serial, nodup, _⟩ :=
    (World.serialized defers (.refl store) stays occurs).history
  exact reachable_of_serial reachable can fit serial nodup

/-! ### Paths -/

/-- Writes that change no installment but those of a list, and nothing else. -/
def TouchesOnly (ids : List Nat) (writes : Store → Store) : Prop :=
  ∀ store, ∃ installments, writes store = store.withInstallments installments ∧
    ∀ id, id ∉ ids → installments.find? id = store.installments.find? id

theorem TouchesOnly.comp {first second : List Nat} {before after : Store → Store}
    (touches : TouchesOnly first before) (touchesLater : TouchesOnly second after) :
    TouchesOnly (first ++ second) (after ∘ before) := by
  intro store
  obtain ⟨middle, same, others⟩ := touches store
  obtain ⟨installments, sameLater, othersLater⟩ := touchesLater (before store)
  refine ⟨installments, ?_, fun id absent => ?_⟩
  · rw [Function.comp_apply, sameLater, same]
    rfl
  · rw [List.mem_append, not_or] at absent
    rw [othersLater id absent.2, same]
    exact others id absent.1

theorem touchesOnly_setAllocation (installmentId : Nat) (allocated : Int)
    (status : InstallmentStatus) :
    TouchesOnly [installmentId]
      (fun store => store.onBooks (·.setAllocation installmentId allocated status)) := by
  intro store
  refine ⟨_, rfl, fun id absent => ?_⟩
  exact Table.find?_modify_of_ne _ _ fun same => absent (List.mem_singleton.mpr same)

theorem bumpInstallments_path (totals : List (Nat × Int)) (state : Store) :
    ∃ writes locks, (ReceiptService.bumpInstallments totals).Path state (.done ()) writes locks ∧
      TouchesOnly (totals.map Prod.fst) writes ∧
      ∀ lock ∈ locks, ∃ id ∈ totals.map Prod.fst, lock = .installment id := by
  induction totals generalizing state with
  | nil => exact ⟨id, [], .refl _ _, fun store => ⟨_, rfl, fun _ _ => rfl⟩, nofun⟩
  | cons total rest ih =>
    cases found : state.installments.find? total.1 with
    | none =>
      obtain ⟨writes, locks, path, touches, named⟩ := ih state
      have skips : (ReceiptService.bumpInstallment total.1 total.2).Path state (.done ()) id [] := by
        refine .read_bind ?_
        rw [found]
        exact .refl _ _
      refine ⟨_, _, skips.andThen path, fun store => ?_, fun lock taken => ?_⟩
      · obtain ⟨installments, same, others⟩ := touches store
        exact ⟨installments, same, fun id absent => others id fun later =>
          absent (List.mem_cons_of_mem _ later)⟩
      · obtain ⟨id, member, same⟩ := named lock taken
        exact ⟨id, List.mem_cons_of_mem _ member, same⟩
    | some inst =>
      have bumps : ∃ write, (ReceiptService.bumpInstallment total.1 total.2).Path state (.done ())
          write [.installment total.1] ∧ TouchesOnly [total.1] write := by
        refine ⟨_, .read_bind ?_, touchesOnly_setAllocation total.1
          (inst.allocatedPaise + total.2)
          (installmentStatus inst.amountPaise (inst.allocatedPaise + total.2))⟩
        rw [found]
        exact .update _ _ _
      obtain ⟨write, bump, touchesFirst⟩ := bumps
      obtain ⟨writes, locks, path, touches, named⟩ := ih (write state)
      refine ⟨_, _, bump.andThen path, touchesFirst.comp touches, fun lock taken => ?_⟩
      rcases List.mem_cons.mp taken with rfl | later
      · exact ⟨total.1, List.mem_cons_self, rfl⟩
      · obtain ⟨id, member, same⟩ := named lock later
        exact ⟨id, List.mem_cons_of_mem _ member, same⟩

theorem recordAllocations_path (bookingId : Nat) (allocations : List ReceiptAllocationInput)
    (state : Store) :
    (Tx.forEach allocations (ReceiptService.recordAllocation bookingId) : Statements Unit).Path
      state (.done ()) (fun store => store.onBooks fun books =>
        { books with
          allocations := books.allocations.createMany
            (allocations.map (allocationRow (books.receipts.nextId - 1)))
          ledger := books.ledger.createMany
            (allocations.map (allocationEntry bookingId (books.receipts.nextId - 1))) }) [] := by
  induction allocations generalizing state with
  | nil => exact .refl _ _
  | cons a rest ih =>
    have first : (ReceiptService.recordAllocation bookingId a).Path state (.done ()) _ [] :=
      .insert_bind (.insert _ _)
    have line := first.bind fun _ => Tx.forEach rest (ReceiptService.recordAllocation bookingId)
    exact line.trans (ih _)

theorem recordLines_path (companyId : Nat) (masters : Masters) (dto : CreateReceiptDto)
    (state : Store) :
    (ReceiptService.recordLines companyId masters dto).Path state (.done ())
      (·.withLines companyId masters dto) [.sequence (receiptSequence companyId masters dto)] := by
  have row : (Tx.insert fun store : Store => store.onBooks fun books =>
      { books with receipts := books.receipts.create (receiptRow dto) } : Statements Unit).Path
      (state.incrementSequence (receiptSequence companyId masters dto)) (.done ()) _ [] :=
    .insert _ _
  have lines := row.bind fun _ =>
    Tx.forEach dto.allocations (ReceiptService.recordAllocation dto.bookingId)
  have whole : (ReceiptService.recordLines companyId masters dto).Path state (.done ()) _ _ :=
    .updateReturning_bind (lines.trans (recordAllocations_path dto.bookingId dto.allocations _))
  exact whole

theorem recordTds_path (dto : CreateReceiptDto) (state : Store) :
    ∃ writes, (ReceiptService.recordTds dto).Path state (.done ()) writes [] := by
  unfold ReceiptService.recordTds
  split
  · exact ⟨_, .insert_bind (.insert _ _)⟩
  · exact ⟨_, .refl _ _⟩

theorem createReceipt_path (companyId : Nat) {masters : Masters} {dto : CreateReceiptDto}
    {store : Store} (can : store.CanReceive masters dto) :
    ∃ writes locks, (ReceiptService.createReceiptTx companyId masters dto).Path store (.done ())
        writes locks ∧
      writes store = (store.incrementSequence (receiptSequence companyId masters dto)).onBooks
        (·.recordReceipt dto) ∧
      ∀ lock ∈ locks, lock = .sequence (receiptSequence companyId masters dto) ∨
        ∃ id ∈ (addByInst dto.allocations).map Prod.fst, lock = .installment id := by
  have checks := ((check_readOnly masters dto store).path (.refl store)
    (receiptCheck_run_eq_ok.mpr ⟨can, rfl⟩)).1
  have lines := recordLines_path companyId masters dto store
  obtain ⟨writes, locks, bumps, _, named⟩ := bumpInstallments_path (addByInst dto.allocations)
    (store.withLines companyId masters dto)
  obtain ⟨last, tds⟩ := recordTds_path dto (writes (store.withLines companyId masters dto))
  have whole : (ReceiptService.createReceiptTx companyId masters dto).Path store (.done ()) _ _ :=
    checks.andThen (lines.andThen (bumps.andThen tds))
  refine ⟨_, _, whole, ?_, fun lock taken => ?_⟩
  · have ran := whole.run_eq
    rw [createReceipt_run_eq_ok.mpr ⟨can, rfl⟩, Tx.run_done] at ran
    exact (Prod.mk.inj (Except.ok.inj ran)).2.symm
  · simp only [List.nil_append, List.append_nil, List.singleton_append, List.mem_cons] at taken
    exact taken.imp_right (named lock)

/-! ### The bad schedules -/

theorem exists_schedule (occurs : World.Occurs (receiptSessions companyId masters dto) store world)
    (one : world.sessions false = .committed ()) (other : world.sessions true = .committed ()) :
    ∃ schedule, World.interleave (receiptSessions companyId masters dto) store schedule = world ∧
      world.Finished := by
  obtain ⟨schedule, leads⟩ := occurs.exists_run
  refine ⟨schedule, leads, ?_⟩
  rintro (_ | _) todo written active
  · rw [one] at active
    cases active
  · rw [other] at active
    cases active

variable {installmentId : Nat}
variable {inst : Installment}

/-- **Too much is allocated** when both receipts were checked before either was recorded. -/
theorem exists_excess (can : ∀ request, store.CanReceive (masters request) (dto request))
    (found : store.installments.find? installmentId = some inst)
    (excess : inst.amountPaise < inst.allocatedPaise +
      deltaTo installmentId (allocationDeltas (dto false).allocations) +
      deltaTo installmentId (allocationDeltas (dto true).allocations)) :
    ∃ schedule, (World.interleave (receiptSessions companyId masters dto) store schedule).Finished ∧
      ¬(World.interleave (receiptSessions companyId masters dto) store
        schedule).rows.AllocatedExactly installmentId := by
  have checks := ((check_readOnly (masters false) (dto false) store).path (.refl store)
    (receiptCheck_run_eq_ok.mpr ⟨can false, rfl⟩)).1
  have pauses : (receiptSessions companyId masters dto false).Path store _ id [] :=
    checks.bind fun _ => ReceiptService.record companyId (masters false) (dto false)
  obtain ⟨writes, locks, overtakes, wrote, _⟩ := createReceipt_path companyId (can true)
  have overtakes : (receiptSessions companyId masters dto true).Path store _ _ _ := overtakes
  obtain ⟨world, occurs, same, one, other⟩ := World.exists_overtaking Bool.false_ne_true pauses
    overtakes (fun _ _ => List.not_mem_nil)
    (receiptRecord_run companyId (masters false) (dto false) _)
  obtain ⟨schedule, leads, finished⟩ := exists_schedule occurs one other
  refine ⟨schedule, leads ▸ finished, fun exactly => ?_⟩
  rw [leads, same, id_eq, wrote] at exactly
  -- the second receipt, and then the first on top of it
  obtain ⟨middle, between, moved⟩ := find?_recordReceipt (dto true) found
  obtain ⟨after, present, movedAgain⟩ := find?_recordReceipt (dto false) between
  have fits := (exactly after present).2
  rw [movedAgain.allocated, moved.allocated, movedAgain.amount, moved.amount] at fits
  omega

def overwrite (installmentId : Nat) (inst : Installment) (add : Int) : Statements Unit :=
  Tx.update (.installment installmentId) fun store => store.onBooks
    (·.setAllocation installmentId (inst.allocatedPaise + add)
      (installmentStatus inst.amountPaise (inst.allocatedPaise + add)))

theorem bumpInstallments_pause {earlier : List (Nat × Int)}
    (fresh : installmentId ∉ earlier.map Prod.fst) {state : Store}
    (found : state.installments.find? installmentId = some inst) (add : Int)
    (later : List (Nat × Int)) :
    ∃ writes locks, (ReceiptService.bumpInstallments (earlier ++ (installmentId, add) :: later)).Path
        state (overwrite installmentId inst add >>= fun _ => ReceiptService.bumpInstallments later)
        writes locks ∧
      TouchesOnly (earlier.map Prod.fst) writes ∧
      ∀ lock ∈ locks, ∃ id ∈ earlier.map Prod.fst, lock = .installment id := by
  obtain ⟨writes, locks, path, touches, named⟩ := bumpInstallments_path earlier state
  have reads : (ReceiptService.bumpInstallment installmentId add).Path (writes state)
      (overwrite installmentId inst add) id [] := by
    obtain ⟨installments, same, others⟩ := touches state
    have seen : (writes state).installments.find? installmentId = some inst := by
      rw [same]
      exact (others installmentId fresh).trans found
    refine .read_bind ?_
    rw [seen]
    exact .refl _ _
  refine ⟨writes, locks, ?_, touches, named⟩
  rw [ReceiptService.bumpInstallments, Tx.forEach_append, ← List.append_nil locks]
  have first := path.bind fun _ => ReceiptService.bumpInstallments ((installmentId, add) :: later)
  exact first.trans (reads.bind fun _ => ReceiptService.bumpInstallments later)

theorem overwrite_run {later : List (Nat × Int)} (fresh : installmentId ∉ later.map Prod.fst)
    (inst : Installment) (add : Int) {store : Store}
    (present : (store.installments.find? installmentId).isSome) :
    ∃ installments, (overwrite installmentId inst add >>= fun _ =>
        ReceiptService.bumpInstallments later).run store =
          .ok ((), store.withInstallments installments) ∧
      ∃ after, installments.find? installmentId = some after ∧
        after.allocatedPaise = inst.allocatedPaise + add := by
  obtain ⟨row, found⟩ := Option.isSome_iff_exists.mp present
  let written := store.installments.modify installmentId fun row =>
    { row with
      allocatedPaise := inst.allocatedPaise + add
      status := installmentStatus inst.amountPaise (inst.allocatedPaise + add) }
  have there : written.find? installmentId = some { row with
      allocatedPaise := inst.allocatedPaise + add
      status := installmentStatus inst.amountPaise (inst.allocatedPaise + add) } := by
    rw [Table.find?_modify_self, found]
    rfl
  obtain ⟨after, kept, moved⟩ := find?_bumpAll_of_some later there
  refine ⟨bumpAll written later, bumpInstallments_run later _, after, kept, ?_⟩
  rw [moved.allocated, deltaTo_eq_zero fresh, add_zero]

theorem exists_first_common (common : ∃ id, Common dto id) :
    ∃ earlier installmentId add later,
      addByInst (dto false).allocations = earlier ++ (installmentId, add) :: later ∧
      Common dto installmentId ∧
      ∀ id ∈ earlier.map Prod.fst, id ∉ (addByInst (dto true).allocations).map Prod.fst := by
  obtain ⟨id, both⟩ := common
  obtain ⟨total, listed, rfl⟩ := List.mem_map.mp (mem_keys_addByInst.mpr (both false))
  have some_ : ((addByInst (dto false).allocations).find? fun total =>
      total.1 ∈ (addByInst (dto true).allocations).map Prod.fst).isSome :=
    List.find?_isSome.mpr ⟨total, listed, decide_eq_true (mem_keys_addByInst.mpr (both true))⟩
  obtain ⟨⟨installmentId, add⟩, first⟩ := Option.isSome_iff_exists.mp some_
  obtain ⟨shared, earlier, later, split, none⟩ := List.find?_eq_some_iff_append.mp first
  refine ⟨earlier, installmentId, add, later, split, fun request => ?_, fun id early => ?_⟩
  · cases request with
    | false => exact mem_keys_addByInst.mp (List.mem_map_of_mem (List.mem_of_find?_eq_some first))
    | true => exact mem_keys_addByInst.mp (of_decide_eq_true shared)
  · obtain ⟨total, listed, rfl⟩ := List.mem_map.mp early
    simpa using none total listed

theorem allocatedOn_congr {books other : Books} (receipts : books.receipts = other.receipts)
    (allocations : books.allocations = other.allocations) (installmentId : Nat) :
    books.allocatedOn installmentId = other.allocatedOn installmentId := by
  unfold Books.allocatedOn Books.stands
  rw [receipts, allocations]

theorem exists_recordTds_run (dto : CreateReceiptDto) (store : Store) :
    ∃ after, (ReceiptService.recordTds dto).run store = .ok ((), after) ∧
      after.receipts = store.receipts ∧ after.allocations = store.allocations ∧
      after.installments = store.installments := by
  unfold ReceiptService.recordTds
  split
  · exact ⟨_, rfl, rfl, rfl, rfl⟩
  · exact ⟨_, rfl, rfl, rfl, rfl⟩

theorem not_allocatedExactly (reachable : ReachableDb store.toDb)
    (can : ∀ request, store.CanReceive (masters request) (dto request))
    (both : Common dto installmentId) (found : store.installments.find? installmentId = some inst)
    {books : Books}
    (receipts : books.receipts = ((store.recordReceipt (dto true)).recordReceipt (dto false)).receipts)
    (allocations : books.allocations =
      ((store.recordReceipt (dto true)).recordReceipt (dto false)).allocations)
    {after : Installment} (there : books.installments.find? installmentId = some after)
    (lost : after.allocatedPaise =
      inst.allocatedPaise + deltaTo installmentId (allocationDeltas (dto false).allocations)) :
    ¬books.AllocatedExactly installmentId := by
  intro exactly
  have agrees := (exactly after there).1
  have second := (can true).reachable reachable
  have first := (installment_cache_agrees reachable found).2.2.1
  have adds := deltaTo_allocationDeltas_pos (both true)
  rw [allocatedOn_congr receipts allocations,
    allocatedOn_recordReceipt second.sound.books.linked,
    allocatedOn_recordReceipt reachable.sound.books.linked, ← first, lost] at agrees
  omega

/-- **An update is lost.** -/
theorem exists_lost (reachable : ReachableDb store.toDb)
    (can : ∀ request, store.CanReceive (masters request) (dto request))
    (apart : receiptSequence companyId (masters true) (dto true) ≠
      receiptSequence companyId (masters false) (dto false))
    (common : ∃ id, Common dto id) :
    ∃ installmentId, Common dto installmentId ∧ ∃ schedule,
      (World.interleave (receiptSessions companyId masters dto) store schedule).Finished ∧
      ¬(World.interleave (receiptSessions companyId masters dto) store
        schedule).rows.AllocatedExactly installmentId := by
  obtain ⟨earlier, installmentId, add, later, totals, both, before⟩ := exists_first_common common
  have member : (installmentId, add) ∈ addByInst (dto false).allocations := by
    rw [totals]
    exact List.mem_append_right _ List.mem_cons_self
  have sum : add = deltaTo installmentId (allocationDeltas (dto false).allocations) :=
    total_of_mem_addByInst member
  have distinct := nodup_keys_addByInst (dto false).allocations
  rw [totals, List.map_append, List.map_cons, List.nodup_append, List.nodup_cons] at distinct
  obtain ⟨_, ⟨freshLater, _⟩, disjoint⟩ := distinct
  have freshEarlier : installmentId ∉ earlier.map Prod.fst := fun early =>
    disjoint _ early _ List.mem_cons_self rfl
  obtain ⟨inst, found, _, _⟩ := (can false).accepts.totals _ member
  -- the first receipt, as far as the update of the installment
  have checks := ((check_readOnly (masters false) (dto false) store).path (.refl store)
    (receiptCheck_run_eq_ok.mpr ⟨can false, rfl⟩)).1
  have lines := recordLines_path companyId (masters false) (dto false) store
  obtain ⟨writes, locks, pause, touches, named⟩ := bumpInstallments_pause freshEarlier
    (show (store.withLines companyId (masters false) (dto false)).installments.find?
      installmentId = some inst from found) add later
  rw [← totals] at pause
  have pauses : (receiptSessions companyId masters dto false).Path store _ _ _ :=
    checks.andThen (lines.andThen (pause.bind fun _ => ReceiptService.recordTds (dto false)))
  -- the second receipt
  obtain ⟨writesAll, taken, overtakes, wrote, takes⟩ := createReceipt_path companyId (can true)
  have overtakes : (receiptSessions companyId masters dto true).Path store _ _ _ := overtakes
  have free : ∀ lock ∈ taken, lock ∉ [] ++
      ([.sequence (receiptSequence companyId (masters false) (dto false))] ++ locks) := by
    intro lock needs
    simp only [List.nil_append, List.singleton_append, List.mem_cons, not_or]
    rcases takes lock needs with rfl | ⟨id, listed, rfl⟩
    · refine ⟨by simpa using apart, fun held => ?_⟩
      obtain ⟨_, _, same⟩ := named _ held
      cases same
    · refine ⟨fun same => ?_, fun held => ?_⟩
      · cases same
      · obtain ⟨_, early, same⟩ := named _ held
        cases same
        exact before id early listed
  -- the first receipt goes on from what the second has left
  obtain ⟨table, same, others⟩ :=
    touches ((writesAll store).withLines companyId (masters false) (dto false))
  obtain ⟨middle, between, _⟩ := find?_recordReceipt (dto true) found
  have present : ((writes ((writesAll store).withLines companyId (masters false)
      (dto false))).installments.find? installmentId).isSome := by
    rw [same, wrote]
    show (table.find? installmentId).isSome
    rw [others installmentId freshEarlier, wrote]
    exact Option.isSome_of_eq_some between
  obtain ⟨installments, ran, after, there, allocated⟩ := overwrite_run freshLater inst add present
  obtain ⟨final, recorded, receipts, allocations, kept⟩ :=
    exists_recordTds_run (dto false) (Store.withInstallments _ installments)
  have resumes : ((overwrite installmentId inst add >>= fun _ =>
      ReceiptService.bumpInstallments later) >>= fun _ => ReceiptService.recordTds (dto false)).run
      (writes ((writesAll store).withLines companyId (masters false) (dto false))) =
        .ok ((), final) :=
    Tx.run_bind_eq_ok.mpr ⟨(), _, ran, recorded⟩
  obtain ⟨world, occurs, rows, one, other⟩ := World.exists_overtaking Bool.false_ne_true pauses
    overtakes free resumes
  obtain ⟨schedule, leads, finished⟩ := exists_schedule occurs one other
  refine ⟨installmentId, both, schedule, leads ▸ finished, ?_⟩
  rw [leads, rows]
  rw [same, wrote] at receipts allocations
  refine not_allocatedExactly reachable can both found
    (receipts.trans (recordReceipt_receipts _ _).symm)
    (allocations.trans (recordReceipt_allocations _ _).symm)
    (show final.installments.find? installmentId = some after by rw [kept]; exact there) ?_
  rw [allocated, ← sum]

end Race

/-- **Two receipts on one installment.** Whenever both have ended, what is cached on the common
installments is exactly what is allocated to them and within their amounts, exactly when one of the
receipts cannot be accepted, or both fall in one financial year and fit together. -/
theorem allocation_exact_iff (companyId : Nat) (masters : Bool → Masters)
    (dto : Bool → CreateReceiptDto) (common : ∃ id, Common dto id) (store : Store)
    (reachable : ReachableDb store.toDb) :
    (∀ schedule, (World.interleave (receiptSessions companyId masters dto) store
        schedule).Finished →
      ∀ id, Common dto id → (World.interleave (receiptSessions companyId masters dto) store
        schedule).rows.AllocatedExactly id) ↔
      (financialYearLabel (dto false).receiptDate (masters false).fyStartMonth =
          financialYearLabel (dto true).receiptDate (masters true).fyStartMonth ∧
        ∀ id, Common dto id → store.FitTogether dto id) ∨
      ¬∀ request, store.CanReceive (masters request) (dto request) := by
  constructor
  · intro always
    by_contra both
    obtain ⟨neither, can⟩ := not_or.mp both
    rw [not_not] at can
    by_cases years : financialYearLabel (dto false).receiptDate (masters false).fyStartMonth =
        financialYearLabel (dto true).receiptDate (masters true).fyStartMonth
    · have unfit : ∃ id, Common dto id ∧ ¬store.FitTogether dto id := by
        by_contra none
        refine neither ⟨years, fun id shared => ?_⟩
        by_contra unfit
        exact none ⟨id, shared, unfit⟩
      obtain ⟨id, shared, unfit⟩ := unfit
      simp only [Books.FitTogether, not_forall, not_le] at unfit
      obtain ⟨inst, found, excess⟩ := unfit
      obtain ⟨schedule, finished, wrong⟩ := exists_excess can found excess
      exact wrong (always schedule finished id shared)
    · have apart : receiptSequence companyId (masters true) (dto true) ≠
          receiptSequence companyId (masters false) (dto false) := by
        intro same
        exact years (congrArg SequenceKey.scopeLabel same).symm
      obtain ⟨id, shared, schedule, finished, wrong⟩ := exists_lost reachable can apart common
      exact wrong (always schedule finished id shared)
  · intro condition schedule _ id shared
    have occurs := World.occurs_interleave (receiptSessions companyId masters dto) store schedule
    suffices after : ReachableDb (World.interleave (receiptSessions companyId masters dto) store
        schedule).rows.toDb by
      intro inst found
      obtain ⟨_, within, agrees, _⟩ := installment_cache_agrees after found
      exact ⟨agrees, within⟩
    rcases condition with ⟨years, fit⟩ | refused
    · by_cases can : ∀ request, store.CanReceive (masters request) (dto request)
      · have sameSequence : ∀ request, receiptSequence companyId (masters request) (dto request) =
            receiptSequence companyId (masters false) (dto false) := by
          intro request
          cases request with
          | false => rfl
          | true => rw [receiptSequence, receiptSequence, years]
        exact reachable_of_sameSequence reachable can fit sameSequence occurs
      · exact reachable_of_refused reachable can occurs
    · exact reachable_of_refused reachable refused occurs

def smallScheduled : Store := { toDb := run exec {} smallSale }

/-- Two receipts on the installment, the second one dated a day later, or not. -/
def smallReceipts (first second : Int) (laterDate : Date) (request : Bool) : CreateReceiptDto :=
  { smallReceipt 0 0 .cash (if request then second else first) 0 with
    receiptDate := if request then laterDate else 1774915200000 }

theorem common_smallReceipts (first second : Int) (laterDate : Date) :
    Common (smallReceipts first second laterDate) 0 :=
  fun _ => ⟨_, List.mem_singleton_self _, rfl⟩

theorem allocation_exact_iff_smallReceipts :
    (∀ schedule, (World.interleave (receiptSessions 0 (fun _ => smallMasters 0 0)
        (smallReceipts 600 600 1774915200000)) smallScheduled schedule).Finished →
      ∀ id, Common (smallReceipts 600 600 1774915200000) id →
        (World.interleave (receiptSessions 0 (fun _ => smallMasters 0 0)
          (smallReceipts 600 600 1774915200000)) smallScheduled
          schedule).rows.AllocatedExactly id) ↔
      (financialYearLabel 1774915200000 4 = financialYearLabel 1774915200000 4 ∧
        ∀ id, Common (smallReceipts 600 600 1774915200000) id →
          smallScheduled.FitTogether (smallReceipts 600 600 1774915200000) id) ∨
      ¬∀ request, smallScheduled.CanReceive (smallMasters 0 0)
        (smallReceipts 600 600 1774915200000 request) :=
  allocation_exact_iff 0 (fun _ => smallMasters 0 0) (smallReceipts 600 600 1774915200000)
    ⟨0, common_smallReceipts _ _ _⟩ smallScheduled (reachable_run _ _)

def excessSchedule : List (Choice Bool) :=
  List.replicate 2 (.advance false) ++ List.replicate 9 (.advance true) ++
    List.replicate 7 (.advance false)

/-- The receipt of 400 is overtaken between reading the installment and updating it. -/
def lostSchedule : List (Choice Bool) :=
  List.replicate 7 (.advance false) ++ List.replicate 9 (.advance true) ++
    List.replicate 2 (.advance false)

/-- **Two receipts of one day put 1200 on an installment of 1000**, and of two receipts around the
turn of the financial year, of 400 and 500, the second leaves no trace in the cache. -/
theorem allocation_inexact :
    let exceeded := World.interleave (receiptSessions 0 (fun _ => smallMasters 0 0)
      (smallReceipts 600 600 1774915200000)) smallScheduled excessSchedule
    let lost := World.interleave (receiptSessions 0 (fun _ => smallMasters 0 0)
      (smallReceipts 400 500 1775001600000)) smallScheduled lostSchedule
    (exceeded.BothCommitted ∧ ¬exceeded.rows.AllocatedExactly 0) ∧
      (lost.BothCommitted ∧ ¬lost.rows.AllocatedExactly 0) := by
  refine ⟨⟨⟨⟨(), rfl⟩, ⟨(), rfl⟩⟩, fun exactly => ?_⟩, ⟨⟨(), rfl⟩, ⟨(), rfl⟩⟩, fun exactly => ?_⟩
  · exact absurd (exactly _ rfl).2 (by decide)
  · exact absurd (exactly _ rfl).1 (by decide)

end OpenEstate
