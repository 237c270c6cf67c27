/-
**Paying commission.**

A payment is attributed to the broker's bookings that have commission outstanding, oldest first;
the tax withheld on the whole is split over these shares. Every share is posted as a payment and,
when there is tax on it, as a withholding.

* `allocateGross_sum`, `allocateGross_ne_nil`: what the shares add up to, and when there are any;
* `paymentEntries_isOk_iff`: a payment can be distributed exactly when it is positive and within
  what is outstanding;
* `paymentEntries_paid`: its entries add up to its amount.
-/

import OpenEstate.Commission.Schema
import OpenEstate.Postsales.Receipt

namespace OpenEstate

open Relational

/-! ### Distribution -/

/-- The entries of a broker by booking, in the order the bookings were first seen, where something
is outstanding. -/
def CommissionDb.outstandingBookings (db : CommissionDb) (brokerId : Nat) : List (Nat × Int) :=
  let allEntries := db.commissionLedger.select fun _ entry => entry.brokerId = brokerId
  let byBooking := allEntries.foldl
    (fun totals row => addToTotal totals row.2.bookingId row.2.signedAmountPaise) []
  byBooking.filter fun total => 0 < total.2

/-- Attribute an amount to bookings in their order. Answers the share of each booking that has one,
and what is left. -/
def allocateGross : List (Nat × Int) → Int → List (Nat × Int) × Int
  | [], remaining => ([], remaining)
  | (bookingId, total) :: rest, remaining =>
    if remaining ≤ 0 then ([], remaining)
    else
      let take := if total < remaining then total else remaining
      let (later, left) := allocateGross rest (remaining - take)
      ((bookingId, take) :: later, left)

/-- The 194-H rule in force on a date: the latest one that has started and has not ended. -/
def effectiveBrokerTdsRule (masters : CommissionMasters) (date : Date) : Option BrokerTdsRule :=
  (masters.tdsRules194H.filter fun rule =>
      rule.effectiveFrom ≤ toUtcMidnight date ∧
        ∀ last ∈ rule.effectiveTo, toUtcMidnight date ≤ last).foldl
    (fun latest rule => match latest with
      | none => some rule
      | some best => if best.effectiveFrom < rule.effectiveFrom then some rule else latest) none

def brokerTds (masters : CommissionMasters) (paymentDate : Date) (amountPaise : Int) : Int :=
  match effectiveBrokerTdsRule masters paymentDate with
  | some rule =>
    if rule.thresholdPaise ≤ amountPaise then percentOf amountPaise rule.rateBasisPoints else 0
  | none => 0

def tdsShares (tdsPaise : Int) (grossAllocations : List (Nat × Int)) :
    Except ServiceError (List Int) :=
  if 0 < tdsPaise then allocate tdsPaise (grossAllocations.map fun share => share.2.toNat)
  else return grossAllocations.map fun _ => 0

def shareEntries (brokerId : Nat) (share : Nat × Int) (tdsShare : Int) :
    List CommissionLedgerEntry :=
  { brokerId
    bookingId := share.1
    entryType := .payment
    signedAmountPaise := -(share.2 - tdsShare) } ::
  if 0 < tdsShare then
    [{ brokerId
       bookingId := share.1
       entryType := .tdsWithheld
       signedAmountPaise := -tdsShare }]
  else []

def paymentEntries (masters : CommissionMasters) (paymentDate : Date) (payment : CommissionPayment)
    (outstandingBookings : List (Nat × Int)) :
    Except ServiceError (List CommissionLedgerEntry) := do
  let (grossAllocations, remaining) := allocateGross outstandingBookings payment.amountPaise
  ensure (grossAllocations ≠ []) (.badRequest
    "No outstanding commission found for this broker to attribute the payment to")
  ensure (remaining ≤ 0) (.badRequest
    (s!"Payment amount ({payment.amountPaise}) exceeds the broker's total outstanding " ++
      "across bookings"))
  let shares ← tdsShares (brokerTds masters paymentDate payment.amountPaise) grossAllocations
  return (grossAllocations.zipWith (shareEntries payment.brokerId) shares).flatten

/-! ### Paying -/

def CommissionDb.setPaymentStatus (db : CommissionDb) (paymentId : Nat)
    (status : CommissionPaymentStatus) : CommissionDb :=
  { db with
    commissionPayments := db.commissionPayments.modify paymentId fun payment =>
      { payment with status } }

def payCommission (masters : CommissionMasters) (paymentId : Nat) (paymentDate : Date)
    (db : CommissionDb) : Except ServiceError CommissionDb := do
  let payment ← orThrow (db.commissionPayments.find? paymentId)
    (.notFound "Commission payment not found")
  ensure (payment.status = .approved) (.conflict
    s!"Commission payment is {payment.status.text}; only APPROVED can be paid")
  let entries ← paymentEntries masters paymentDate payment
    (db.outstandingBookings payment.brokerId)
  return (db.postCommission entries).setPaymentStatus paymentId .paid

/-! ### When a payment can be distributed -/

theorem allocateGross_sum (outstandingBookings : List (Nat × Int)) (amount : Int) :
    ((allocateGross outstandingBookings amount).1.map Prod.snd).sum +
      (allocateGross outstandingBookings amount).2 = amount := by
  induction outstandingBookings generalizing amount with
  | nil => simp [allocateGross]
  | cons total rest ih =>
    obtain ⟨bookingId, total⟩ := total
    rw [allocateGross]
    by_cases spent : amount ≤ 0
    · simp [if_pos spent]
    · rw [if_neg spent]
      have later := ih (amount - if total < amount then total else amount)
      simp only [List.map_cons, List.sum_cons]
      omega

variable {outstandingBookings : List (Nat × Int)}

theorem allocateGross_ne_nil {amount : Int} :
    (allocateGross outstandingBookings amount).1 ≠ [] ↔ outstandingBookings ≠ [] ∧ 0 < amount := by
  cases outstandingBookings with
  | nil => simp [allocateGross]
  | cons total rest =>
    rw [allocateGross]
    by_cases spent : amount ≤ 0
    · simp [spent]
    · simp [if_neg spent, not_le.mp spent]

theorem allocateGross_left (positive : ∀ total ∈ outstandingBookings, 0 < total.2) (amount : Int) :
    (allocateGross outstandingBookings amount).2 ≤ 0 ↔
      amount ≤ (outstandingBookings.map Prod.snd).sum := by
  induction outstandingBookings generalizing amount with
  | nil => simp [allocateGross]
  | cons total rest ih =>
    obtain ⟨bookingId, total⟩ := total
    obtain ⟨first, later⟩ := List.forall_mem_cons.mp positive
    have nonneg : 0 ≤ (rest.map Prod.snd).sum := by
      refine List.sum_nonneg fun figure inside => ?_
      obtain ⟨row, member, rfl⟩ := List.mem_map.mp inside
      exact (later row member).le
    rw [allocateGross]
    by_cases spent : amount ≤ 0
    · simp only [if_pos spent, List.map_cons, List.sum_cons]
      omega
    · simp only [if_neg spent, List.map_cons, List.sum_cons]
      rw [ih later]
      split <;> omega

theorem allocateGross_pos (positive : ∀ total ∈ outstandingBookings, 0 < total.2) (amount : Int) :
    ∀ share ∈ (allocateGross outstandingBookings amount).1, 0 < share.2 := by
  induction outstandingBookings generalizing amount with
  | nil => nofun
  | cons total rest ih =>
    obtain ⟨bookingId, total⟩ := total
    obtain ⟨first, later⟩ := List.forall_mem_cons.mp positive
    rw [allocateGross]
    by_cases spent : amount ≤ 0
    · rw [if_pos spent]
      nofun
    · rw [if_neg spent]
      refine List.forall_mem_cons.mpr ⟨?_, ih later _⟩
      simp only at first ⊢
      split <;> omega

variable {grossAllocations : List (Nat × Int)}

theorem tdsShares_isOk (tdsPaise : Int) (nonempty : grossAllocations ≠ [])
    (positive : ∀ share ∈ grossAllocations, 0 < share.2) :
    ∃ shares, tdsShares tdsPaise grossAllocations = .ok shares := by
  unfold tdsShares
  split
  · obtain ⟨share, rest, rfl⟩ := List.exists_cons_of_ne_nil nonempty
    have weights : 0 < ((share :: rest).map fun share => share.2.toNat).sum := by
      have first := positive share List.mem_cons_self
      rw [List.map_cons, List.sum_cons]
      omega
    simp only [allocate, bind_eq_ok, ensure_eq_ok]
    rw [if_neg (by omega)]
    exact ⟨_, (), by simp, (), weights, rfl⟩
  · exact ⟨_, rfl⟩

theorem outstandingBookings_pos (db : CommissionDb) (brokerId : Nat) :
    ∀ total ∈ db.outstandingBookings brokerId, 0 < total.2 := by
  intro total member
  exact of_decide_eq_true (List.mem_filter.mp member).2

variable {masters : CommissionMasters} {paymentDate : Date}

theorem paymentEntries_isOk_iff {payment : CommissionPayment}
    (positive : ∀ total ∈ outstandingBookings, 0 < total.2) :
    (∃ entries, paymentEntries masters paymentDate payment outstandingBookings = .ok entries) ↔
      0 < payment.amountPaise ∧
        payment.amountPaise ≤ (outstandingBookings.map Prod.snd).sum := by
  simp only [paymentEntries, bind_eq_ok, ensure_eq_ok, allocateGross_ne_nil,
    allocateGross_left positive]
  constructor
  · rintro ⟨_, _, ⟨_, owing⟩, _, enough, _⟩
    exact ⟨owing, enough⟩
  · rintro ⟨owing, enough⟩
    have nonempty : outstandingBookings ≠ [] := by
      rintro rfl
      exact absurd (owing.trans_le enough) (lt_irrefl 0)
    obtain ⟨shares, split⟩ := tdsShares_isOk
      (brokerTds masters paymentDate payment.amountPaise)
      (allocateGross_ne_nil.mpr ⟨nonempty, owing⟩)
      (allocateGross_pos positive payment.amountPaise)
    exact ⟨_, (), ⟨nonempty, owing⟩, (), enough, shares, split, rfl⟩

theorem payCommission_eq_ok {paymentId : Nat} {db after : CommissionDb} :
    payCommission masters paymentId paymentDate db = .ok after ↔
      ∃ payment entries, db.commissionPayments.find? paymentId = some payment ∧
        payment.status = .approved ∧
        paymentEntries masters paymentDate payment (db.outstandingBookings payment.brokerId) =
          .ok entries ∧
        after = (db.postCommission entries).setPaymentStatus paymentId .paid := by
  simp only [payCommission, bind_eq_ok, orThrow_eq_ok, ensure_eq_ok, pure_eq_ok]
  constructor
  · rintro ⟨payment, found, _, approved, entries, distributed, rfl⟩
    exact ⟨payment, entries, found, approved, distributed, rfl⟩
  · rintro ⟨payment, entries, found, approved, distributed, rfl⟩
    exact ⟨payment, found, (), approved, entries, distributed, rfl⟩

/-! ### What a payment posts -/

theorem allocateGross_left_nonneg (outstandingBookings : List (Nat × Int)) {amount : Int}
    (nonneg : 0 ≤ amount) : 0 ≤ (allocateGross outstandingBookings amount).2 := by
  induction outstandingBookings generalizing amount with
  | nil => exact nonneg
  | cons total rest ih =>
    obtain ⟨bookingId, total⟩ := total
    rw [allocateGross]
    by_cases spent : amount ≤ 0
    · rw [if_pos spent]
      exact nonneg
    · rw [if_neg spent]
      refine ih ?_
      split <;> omega

theorem brokerTds_bounds (masters : CommissionMasters) (paymentDate : Date) {amountPaise : Int}
    (nonneg : 0 ≤ amountPaise) : 0 ≤ brokerTds masters paymentDate amountPaise ∧
      brokerTds masters paymentDate amountPaise ≤ amountPaise := by
  unfold brokerTds
  split
  · rename_i rule _
    split
    · exact ⟨percentOf_nonneg nonneg rule.rate_nonneg,
        percentOf_le nonneg rule.rate_nonneg rule.rate_max⟩
    · exact ⟨le_refl 0, nonneg⟩
  · exact ⟨le_refl 0, nonneg⟩

def IsWithheldFrom (share : Nat × Int) (tdsShare : Int) : Prop := 0 ≤ tdsShare ∧ tdsShare ≤ share.2

theorem tdsShares_withheld {tdsPaise : Int} {shares : List Int}
    (positive : ∀ share ∈ grossAllocations, 0 < share.2)
    (within : tdsPaise ≤ (grossAllocations.map Prod.snd).sum)
    (split : tdsShares tdsPaise grossAllocations = .ok shares) :
    List.Forall₂ IsWithheldFrom grossAllocations shares := by
  unfold tdsShares at split
  split at split
  · rename_i taxed
    obtain ⟨_, rfl⟩ := allocate_eq_ok taxed.le split
    have weights : (((grossAllocations.map fun share => share.2.toNat).sum : Nat) : Int) =
        (grossAllocations.map Prod.snd).sum := by
      rw [Nat.cast_list_sum, List.map_map]
      refine congrArg List.sum (List.map_congr_left fun share member => ?_)
      exact Int.toNat_of_nonneg (positive share member).le
    have weightsPos : ∀ weight ∈ grossAllocations.map fun share => share.2.toNat, 0 < weight := by
      intro weight member
      obtain ⟨share, listed, rfl⟩ := List.mem_map.mp member
      exact Int.pos_iff_toNat_pos.mp (positive share listed)
    rw [List.forall₂_iff_get]
    refine ⟨by rw [length_largestRemainder, List.length_map], fun index inside handed => ?_⟩
    refine ⟨largestRemainder_nonneg taxed.le _ _ (List.get_mem _ _), ?_⟩
    have listed : (grossAllocations.map fun share => share.2.toNat)[index]? =
        some grossAllocations[index].2.toNat := by
      rw [List.getElem?_map, List.getElem?_eq_getElem inside, Option.map_some]
    have bound := largestRemainder_le taxed.le (weights ▸ within) weightsPos
      (List.getElem?_eq_getElem handed) listed
    rw [Int.toNat_of_nonneg (positive _ (List.getElem_mem inside)).le] at bound
    exact bound
  · rw [pure_eq_ok] at split
    subst split
    rw [List.forall₂_map_right_iff, List.forall₂_same]
    exact fun share member => ⟨le_refl 0, (positive share member).le⟩

/-- The entries of a broker's shares, none of which is owed to him, and what they add up to. -/
structure ArePaidTo (brokerId : Nat) (amountPaise : Int) (entries : List CommissionLedgerEntry) :
    Prop where
  each : ∀ entry ∈ entries, entry.brokerId = brokerId ∧ entry.signedAmountPaise ≤ 0
  sum : (entries.map (·.signedAmountPaise)).sum = -amountPaise

theorem ArePaidTo.append {brokerId : Nat} {first second : Int}
    {entries later : List CommissionLedgerEntry} (paid : ArePaidTo brokerId first entries)
    (more : ArePaidTo brokerId second later) :
    ArePaidTo brokerId (first + second) (entries ++ later) where
  each := List.forall_mem_append.mpr ⟨paid.each, more.each⟩
  sum := by
    rw [List.map_append, List.sum_append, paid.sum, more.sum]
    ring

theorem shareEntries_paid (brokerId : Nat) {share : Nat × Int} {tdsShare : Int}
    (withheld : IsWithheldFrom share tdsShare) :
    ArePaidTo brokerId share.2 (shareEntries brokerId share tdsShare) := by
  obtain ⟨nonneg, within⟩ := withheld
  unfold shareEntries
  by_cases taxed : 0 < tdsShare
  · rw [if_pos taxed]
    constructor
    · simp
      omega
    · simp
      ring
  · rw [if_neg taxed]
    constructor
    · simp
      omega
    · simp
      omega

theorem flatten_shareEntries_paid (brokerId : Nat) {shares : List Int}
    (withheld : List.Forall₂ IsWithheldFrom grossAllocations shares) :
    ArePaidTo brokerId (grossAllocations.map Prod.snd).sum
      (grossAllocations.zipWith (shareEntries brokerId) shares).flatten := by
  induction withheld with
  | nil => exact ⟨fun entry member => absurd member List.not_mem_nil, rfl⟩
  | cons bounds later ih => exact (shareEntries_paid brokerId bounds).append ih

theorem paymentEntries_paid {payment : CommissionPayment} {entries : List CommissionLedgerEntry}
    (positive : ∀ total ∈ outstandingBookings, 0 < total.2)
    (distributed : paymentEntries masters paymentDate payment outstandingBookings = .ok entries) :
    ArePaidTo payment.brokerId payment.amountPaise entries := by
  simp only [paymentEntries, bind_eq_ok, ensure_eq_ok, pure_eq_ok] at distributed
  obtain ⟨_, found, _, enough, shares, split, rfl⟩ := distributed
  have owing := (allocateGross_ne_nil.mp found).2
  have left := allocateGross_left_nonneg outstandingBookings owing.le
  have total := allocateGross_sum outstandingBookings payment.amountPaise
  have amount : ((allocateGross outstandingBookings payment.amountPaise).1.map Prod.snd).sum =
      payment.amountPaise := by omega
  have within := (brokerTds_bounds masters paymentDate owing.le).2
  have withheld := tdsShares_withheld (allocateGross_pos positive payment.amountPaise)
    (amount.symm ▸ within) split
  have paid := flatten_shareEntries_paid payment.brokerId withheld
  rw [amount] at paid
  exact paid

end OpenEstate
