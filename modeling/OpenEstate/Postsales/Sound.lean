/-
**The invariant of the financial core.**

`Db.Sound` puts the invariants of the books together with what they rest on outside the books.
Every operation keeps it (`exec_sound`), so it holds in every reachable state
(`ReachableDb.sound`). The first result drawn from it is about the installment cache.
-/

import OpenEstate.Postsales.Cached

namespace OpenEstate

open Relational

structure Books.Sound (known : Nat → Prop) (books : Books) : Prop where
  linked : books.Linked known
  reversed : books.Reversed
  totals : books.Totals
  mirrored : books.Mirrored
  cached : books.Cached

theorem Books.Sound.change {known : Nat → Prop} {books next : Books} (sound : books.Sound known)
    (change : Books.Change known books next) : next.Sound known where
  linked := sound.linked.change change
  reversed := sound.reversed.change sound.linked change
  totals := sound.totals.change sound.linked sound.reversed change
  mirrored := sound.mirrored.change change
  cached := sound.cached.change sound.linked sound.reversed sound.mirrored change

theorem Books.Linked.mono {known later : Nat → Prop} {books : Books} (linked : books.Linked known)
    (more : ∀ bookingId, known bookingId → later bookingId) : books.Linked later :=
  { linked with
    entry := by
      intro id entry found
      have link := linked.entry id entry found
      exact { link with booking := more _ link.booking }
    receipt := fun id receipt found => more _ (linked.receipt id receipt found)
    installment := fun id inst found => more _ (linked.installment id inst found) }

theorem Books.Sound.mono {known later : Nat → Prop} {books : Books} (sound : books.Sound known)
    (more : ∀ bookingId, known bookingId → later bookingId) : books.Sound later :=
  { sound with linked := sound.linked.mono more }

structure Db.Sound (db : Db) : Prop where
  grounded : db.Grounded
  books : db.toBooks.Sound db.hasBooking

theorem sound_empty : ({} : Db).Sound where
  grounded := grounded_empty
  books := {
    linked := {
      entry := by rintro id entry ⟨⟩
      receipt := by rintro id receipt ⟨⟩
      installment := by rintro id inst ⟨⟩
      allocation := by rintro id row ⟨⟩
      deduction := by rintro id ded ⟨⟩
      certificate := by rintro id row ⟨⟩ }
    reversed := by rintro entryId entry receiptId receipt ⟨⟩
    totals := by rintro receiptId receipt ⟨⟩
    mirrored := fun _ _ => rfl
    cached := by rintro id inst ⟨⟩ }

theorem Effect.sound {request : Request} {db after : Db} (effect : Effect request db after)
    (sound : db.Sound) : after.Sound where
  grounded := effect.grounded sound.grounded
  books := by
    refine (effect.changes sound.grounded).invariant ?_ ?_
    · exact sound.books.mono fun _ known => effect.hasBooking known
    · intro books next soundBooks change
      exact soundBooks.change change

theorem exec_sound (request : Request) (db after : Db) (sound : db.Sound)
    (accepted : exec request db = .ok after) : after.Sound :=
  (exec_effect accepted).sound sound

theorem ReachableDb.sound {db : Db} (reachable : ReachableDb db) : db.Sound :=
  reachable.invariant sound_empty exec_sound

/-- **An invariant that rests on soundness** holds in every reachable state, if it holds initially
and every operation on a sound state keeps it. -/
theorem ReachableDb.invariant_of_sound {P : Db → Prop} (initially : P {})
    (kept : ∀ request before after, before.Sound → P before →
      exec request before = .ok after → P after)
    {db : Db} (reachable : ReachableDb db) : P db := by
  have both : db.Sound ∧ P db := by
    refine reachable.invariant (P := fun db => db.Sound ∧ P db) ⟨sound_empty, initially⟩ ?_
    intro request before after invariant accepted
    exact ⟨exec_sound request before after invariant.1 accepted,
      kept request before after invariant.1 invariant.2 accepted⟩
  exact both.2

/-! ### The installment cache -/

variable {amountPaise allocatedPaise : Int}

theorem installmentStatus_eq_unpaid (positive : 0 < amountPaise) (nonneg : 0 ≤ allocatedPaise) :
    installmentStatus amountPaise allocatedPaise = .unpaid ↔ allocatedPaise = 0 := by
  unfold installmentStatus
  split
  · simp only [reduceCtorEq, false_iff]
    omega
  · split
    · simp only [reduceCtorEq, false_iff]
      omega
    · simp only [true_iff]
      omega

theorem installmentStatus_eq_partPaid :
    installmentStatus amountPaise allocatedPaise = .partPaid ↔
      0 < allocatedPaise ∧ allocatedPaise < amountPaise := by
  unfold installmentStatus
  split
  · simp only [reduceCtorEq, false_iff]
    omega
  · split
    · simp only [true_iff]
      omega
    · simp only [reduceCtorEq, false_iff]
      omega

theorem installmentStatus_eq_paid (within : allocatedPaise ≤ amountPaise) :
    installmentStatus amountPaise allocatedPaise = .paid ↔ allocatedPaise = amountPaise := by
  unfold installmentStatus
  split
  · simp only [true_iff]
    omega
  · split
    · simp only [reduceCtorEq, false_iff]
      omega
    · simp only [reduceCtorEq, false_iff]
      omega

/-- **The cached allocation is right**: it lies between zero and the amount, it is what the
allocations of unreversed receipts add up to and what the ledger says, and the status follows it. -/
theorem installment_cache_agrees {db : Db} (reachable : ReachableDb db) {installmentId : Nat}
    {inst : Installment} (found : db.installments.find? installmentId = some inst) :
    0 ≤ inst.allocatedPaise ∧ inst.allocatedPaise ≤ inst.amountPaise ∧
      inst.allocatedPaise = db.allocatedOn installmentId ∧
      inst.allocatedPaise = -db.creditsOn installmentId ∧
      (0 < inst.amountPaise →
        (inst.status = .unpaid ↔ inst.allocatedPaise = 0) ∧
        (inst.status = .partPaid ↔
          0 < inst.allocatedPaise ∧ inst.allocatedPaise < inst.amountPaise) ∧
        (inst.status = .paid ↔ inst.allocatedPaise = inst.amountPaise)) := by
  have sound := reachable.sound
  have cached := sound.books.cached installmentId inst found
  refine ⟨cached.nonneg, cached.within, cached.allocations, ?_, ?_⟩
  · rw [sound.books.linked.creditsOn_eq]
    exact cached.ledger
  · intro positive
    rw [cached.status positive]
    exact ⟨installmentStatus_eq_unpaid positive cached.nonneg, installmentStatus_eq_partPaid,
      installmentStatus_eq_paid cached.within⟩

def partlyPaid : Db :=
  run exec {} (smallSale ++ [⟨{}, .createReceipt (smallReceipt 0 0 .cash 100 0)⟩])

theorem installment_cache_agrees_partlyPaid :
    ∃ inst, partlyPaid.installments.find? 0 = some inst ∧ inst.allocatedPaise = 100 ∧
      inst.allocatedPaise = partlyPaid.allocatedOn 0 ∧
      inst.allocatedPaise = -partlyPaid.creditsOn 0 ∧ inst.status = .partPaid := by
  have agrees := installment_cache_agrees (reachable_run _ _ : ReachableDb partlyPaid)
    (rfl : partlyPaid.installments.find? 0 = some _)
  obtain ⟨_, _, allocations, ledger, status⟩ := agrees
  exact ⟨_, rfl, by decide, allocations, ledger, (status (by decide)).2.1.mpr (by decide)⟩

end OpenEstate
