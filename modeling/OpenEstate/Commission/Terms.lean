/-
**The terms of a commission, and its ledger.**

Operations and evaluations take their statements in any order. None of them takes an entry of the
commission ledger back, or changes the commission that a booking has been given.

* `CommissionDb.Stays`: what stays; `AccrualSession.Leaves.stays`: in every step;
* **`commission_stays`**: in any order of the statements.
-/

import OpenEstate.Commission.AccrualBound
import OpenEstate.Postsales.Permanence

namespace OpenEstate

open Relational

/-- The books stay, and the entries of the commission ledger; a booking keeps its commission. -/
structure CommissionDb.Stays (before after : CommissionDb) : Prop where
  books : before.toBooks.Stays after.toBooks
  ledger : ∀ id entry, before.commissionLedger.find? id = some entry →
    after.commissionLedger.find? id = some entry
  terms : ∀ bookingId snapshot, before.snapshotOf bookingId = some snapshot →
    after.snapshotOf bookingId = some snapshot

theorem CommissionDb.Stays.refl (db : CommissionDb) : db.Stays db :=
  ⟨.refl _, fun _ _ => id, fun _ _ => id⟩

theorem CommissionDb.Stays.trans {first second third : CommissionDb} (one : first.Stays second)
    (other : second.Stays third) : first.Stays third where
  books := one.books.trans other.books
  ledger id entry found := other.ledger id entry (one.ledger id entry found)
  terms bookingId snapshot found := other.terms bookingId snapshot (one.terms bookingId snapshot found)

/-- **One step**, of an operation or of an evaluation. -/
theorem AccrualSession.Leaves.stays {session : AccrualSession} {db after : CommissionDb}
    (leaves : session.Leaves db after) (reachable : ReachableDb db.toDb) :
    ReachableDb after.toDb ∧ db.Stays after := by
  cases leaves with
  | operation _ accepted =>
    have changes := execCommission_changes accepted
    obtain ⟨entries, _, posted⟩ := changes.posts
    refine ⟨(execCommission_leaves accepted).core reachable, ?_, fun id entry found => ?_, ?_⟩
    · rcases changes.core with same | ⟨op, _, answered⟩
      · exact same ▸ .refl _
      · exact exec_stays (ReachableDb.sound reachable) answered
    · rw [posted]
      exact Table.find?_createMany_old entries found
    · intro bookingId snapshot found
      rw [CommissionDb.snapshotOf, changes.snapshots]
      exact found
  | posting =>
    exact ⟨reachable, .refl _, fun _ _ => Table.find?_createMany_old _, fun _ _ => id⟩
  | snapshot snapshot =>
    have same := sameBasis_insertSnapshot db snapshot
    refine ⟨same.core ▸ reachable, same.core ▸ .refl _, fun id entry found => same.ledger ▸ found, ?_⟩
    intro bookingId snapshot found
    rw [snapshotOf_insertSnapshot, found]
    rfl
  | nothing => exact ⟨reachable, .refl db⟩

/-- **Nothing is taken back in any order of the statements** of operations and evaluations: the
books stay, so do the entries of the commission ledger, and the terms that a booking was given. -/
theorem commission_stays {ι : Type} [DecidableEq ι] (calls : ι → CommissionCall)
    (earlier later : List ι) :
    (run (Shared.exec AccrualSession.move) (accrualStart calls) earlier).rows.Stays
      (run (Shared.exec AccrualSession.move) (accrualStart calls) (earlier ++ later)).rows := by
  have kept : ∀ session db after, AccrualSession.Leaves session db after →
      ReachableDb db.toDb → ReachableDb after.toDb :=
    fun _ _ _ leaves reachable => (leaves.stays reachable).1
  have reachable := accrualRun_kept .init kept calls earlier _ (run_mem_states _ _)
  set before := (run (Shared.exec AccrualSession.move) (accrualStart calls) earlier).rows
  refine (run_of_isPrefix (fun world : Shared ι CommissionDb AccrualSession =>
    ReachableDb world.rows.toDb ∧ before.Stays world.rows) ?_ (List.prefix_append _ _)
    ⟨reachable, .refl _⟩).2
  rintro step member ⟨reachable, stays⟩
  obtain ⟨reaches, further⟩ := (accrualRun_leaves calls _ step member).stays reachable
  exact ⟨reaches, stays.trans further⟩

end OpenEstate
