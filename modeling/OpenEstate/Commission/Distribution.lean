/-
**How a payment of commission is distributed.**

What a payment takes from each booking, and what tax is withheld on it, are two roundings that have
to fit: the shares are taken greedily, oldest booking first, and the tax on the whole is split over
them by largest remainders.

* `IsDistributed` says what the entries of a payment are to be, booking by booking;
* `keys_bookingSums`: the bookings are met in the order of their first entries;
* `allocateGross_greedy`: a booking has a share only if all older ones have been taken in full;
* **`payment_distributed`**: the entries of a payment are posted when it commits, all of them and as
  they should be, and none before; if it is refused, none is.
-/

import OpenEstate.Concurrent.Decision

namespace OpenEstate

open Relational

/-! ### What is to be posted -/

namespace CommissionDb

def owedOn (db : CommissionDb) (brokerId bookingId : Nat) : Int :=
  db.commissionLedger.sum fun _ entry =>
    if entry.brokerId = brokerId ∧ entry.bookingId = bookingId then entry.signedAmountPaise else 0

/-- A booking of a broker is older than another: one of its entries is before all of the other's. -/
def IsOlderFor (db : CommissionDb) (brokerId older newer : Nat) : Prop :=
  ∃ id entry, db.commissionLedger.find? id = some entry ∧ entry.brokerId = brokerId ∧
    entry.bookingId = older ∧ ∀ later other, db.commissionLedger.find? later = some other →
      other.brokerId = brokerId → other.bookingId = newer → id < later

end CommissionDb

/-- **A payment as it is to be distributed.** -/
structure IsDistributed (db : CommissionDb) (payment : CommissionPayment) (tdsPaise : Int)
    (share tax : Nat → Int) (entries : List CommissionLedgerEntry) : Prop where
  total : (entries.map (·.signedAmountPaise)).sum = -payment.amountPaise
  named : ∀ entry ∈ entries, entry.brokerId = payment.brokerId
  each : ∀ bookingId, (entries.filter fun entry => entry.bookingId = bookingId) =
    if 0 < share bookingId then
      shareEntries payment.brokerId (bookingId, share bookingId) (tax bookingId)
    else []
  ofBooking : ∀ bookingId,
    ((entries.filter fun entry => entry.bookingId = bookingId).map (·.signedAmountPaise)).sum =
      -share bookingId
  within : ∀ bookingId,
    0 ≤ share bookingId ∧ share bookingId ≤ max 0 (db.owedOn payment.brokerId bookingId)
  oldestFirst : ∀ older newer, db.IsOlderFor payment.brokerId older newer → 0 < share newer →
    share older = max 0 (db.owedOn payment.brokerId older)
  withheld : ∀ bookingId, 0 ≤ tax bookingId ∧ tax bookingId ≤ share bookingId
  taxes : ((entries.filter fun entry => entry.entryType = .tdsWithheld).map
    (·.signedAmountPaise)).sum = -tdsPaise

/-! ### What is outstanding -/

/-- The bookings of some entries with what they have come to, in the order they are met. -/
def bookingSums (rows : List (Nat × CommissionLedgerEntry)) : List (Nat × Int) :=
  rows.foldl (fun totals row => addToTotal totals row.2.bookingId row.2.signedAmountPaise) []

section Sums

variable {rows : List (Nat × CommissionLedgerEntry)}

theorem bookingSums_snoc (row : Nat × CommissionLedgerEntry) :
    bookingSums (rows ++ [row]) =
      addToTotal (bookingSums rows) row.2.bookingId row.2.signedAmountPaise := by
  rw [bookingSums, List.foldl_append]
  rfl

theorem mem_keys_bookingSums {bookingId : Nat} :
    bookingId ∈ (bookingSums rows).map Prod.fst ↔ ∃ row ∈ rows, row.2.bookingId = bookingId := by
  induction rows using List.reverseRecOn with
  | nil => simp [bookingSums]
  | append_singleton earlier row ih =>
    rw [bookingSums_snoc, keys_addToTotal]
    split
    · rename_i known
      rw [ih]
      constructor
      · rintro ⟨other, member, named⟩
        exact ⟨other, List.mem_append_left _ member, named⟩
      · rintro ⟨other, member, named⟩
        rcases List.mem_append.mp member with old | new
        · exact ⟨other, old, named⟩
        · rw [List.mem_singleton.mp new] at named
          exact ih.mp (named ▸ known)
    · simp only [List.mem_append, List.mem_singleton, ih]
      constructor
      · rintro (⟨other, member, named⟩ | rfl)
        · exact ⟨other, Or.inl member, named⟩
        · exact ⟨row, Or.inr rfl, rfl⟩
      · rintro ⟨other, member | rfl, named⟩
        · exact Or.inl ⟨other, member, named⟩
        · exact Or.inr named.symm

theorem nodup_keys_bookingSums (rows : List (Nat × CommissionLedgerEntry)) :
    ((bookingSums rows).map Prod.fst).Nodup := by
  induction rows using List.reverseRecOn with
  | nil => exact List.nodup_nil
  | append_singleton earlier row ih =>
    rw [bookingSums_snoc]
    exact nodup_keys_addToTotal ih _ _

theorem deltaTo_bookingSums (rows : List (Nat × CommissionLedgerEntry)) (bookingId : Nat) :
    deltaTo bookingId (bookingSums rows) = (rows.map fun row =>
      if row.2.bookingId = bookingId then row.2.signedAmountPaise else 0).sum := by
  induction rows using List.reverseRecOn with
  | nil => rfl
  | append_singleton earlier row ih =>
    rw [bookingSums_snoc, deltaTo_addToTotal, ih, List.map_append, List.sum_append,
      List.map_singleton, List.sum_singleton]

def IsMetBefore (rows : List (Nat × CommissionLedgerEntry)) (older newer : Nat) : Prop :=
  ∃ row ∈ rows, row.2.bookingId = older ∧
    ∀ later ∈ rows, later.2.bookingId = newer → row.1 < later.1

theorem keys_bookingSums (ascending : rows.Pairwise fun first second => first.1 < second.1) :
    ((bookingSums rows).map Prod.fst).Pairwise (IsMetBefore rows) := by
  induction rows using List.reverseRecOn with
  | nil => exact .nil
  | append_singleton earlier row ih =>
    obtain ⟨before, _, last⟩ := List.pairwise_append.mp ascending
    have last : ∀ other ∈ earlier, other.1 < row.1 :=
      fun other member => last other member row (List.mem_singleton_self row)
    have still : ((bookingSums earlier).map Prod.fst).Pairwise (IsMetBefore (earlier ++ [row])) := by
      refine (ih before).imp fun ⟨first, member, named, earliest⟩ => ?_
      refine ⟨first, List.mem_append_left _ member, named, fun later isLater isNewer => ?_⟩
      rcases List.mem_append.mp isLater with old | new
      · exact earliest later old isNewer
      · rw [List.mem_singleton.mp new]
        exact last first member
    rw [bookingSums_snoc, keys_addToTotal]
    split
    · exact still
    · rename_i fresh
      refine List.pairwise_append.mpr ⟨still, List.pairwise_singleton _ _, ?_⟩
      intro older known newer isNew
      rw [List.mem_singleton.mp isNew]
      obtain ⟨first, member, named⟩ := mem_keys_bookingSums.mp known
      refine ⟨first, List.mem_append_left _ member, named, fun later isLater isNewer => ?_⟩
      rcases List.mem_append.mp isLater with old | new
      · exact absurd (mem_keys_bookingSums.mpr ⟨later, old, isNewer⟩) fresh
      · rw [List.mem_singleton.mp new]
        exact last first member

end Sums

section Outstanding

variable (db : CommissionDb) (brokerId : Nat)

def CommissionDb.entriesOf : List (Nat × CommissionLedgerEntry) :=
  db.commissionLedger.select fun _ entry => entry.brokerId = brokerId

theorem outstandingBookings_eq : db.outstandingBookings brokerId =
    (bookingSums (db.entriesOf brokerId)).filter fun total => 0 < total.2 := rfl

theorem deltaTo_entriesOf (bookingId : Nat) :
    deltaTo bookingId (bookingSums (db.entriesOf brokerId)) = db.owedOn brokerId bookingId := by
  have selected := Table.sum_select db.commissionLedger (fun _ entry => entry.brokerId = brokerId)
    fun _ entry => if entry.bookingId = bookingId then entry.signedAmountPaise else 0
  rw [deltaTo_bookingSums]
  refine selected.trans ?_
  simp only [decide_eq_true_eq, ← ite_and]
  rfl

variable {db brokerId}

theorem isMetBefore_entriesOf {older newer : Nat} :
    IsMetBefore (db.entriesOf brokerId) older newer ↔ db.IsOlderFor brokerId older newer := by
  constructor
  · rintro ⟨row, member, named, earliest⟩
    obtain ⟨found, own⟩ := Table.mem_select.mp member
    refine ⟨row.1, row.2, found, of_decide_eq_true own, named, fun later other isOther mine is => ?_⟩
    exact earliest (later, other) (Table.mem_select.mpr ⟨isOther, decide_eq_true mine⟩) is
  · rintro ⟨id, entry, found, own, named, earliest⟩
    refine ⟨(id, entry), Table.mem_select.mpr ⟨found, decide_eq_true own⟩, named, ?_⟩
    intro later member is
    obtain ⟨isLater, mine⟩ := Table.mem_select.mp member
    exact earliest later.1 later.2 isLater (of_decide_eq_true mine) is

variable (db brokerId)

theorem nodup_keys_outstandingBookings :
    ((db.outstandingBookings brokerId).map Prod.fst).Nodup := by
  rw [outstandingBookings_eq]
  exact (nodup_keys_bookingSums _).sublist (List.filter_sublist.map _)

theorem deltaTo_eq_zero_of_notMem {deltas : List (Nat × Int)} {key : Nat}
    (absent : key ∉ deltas.map Prod.fst) : deltaTo key deltas = 0 := by
  refine List.sum_eq_zero fun figure inside => ?_
  obtain ⟨delta, listed, rfl⟩ := List.mem_map.mp inside
  exact if_neg fun same : delta.1 = key => absent (List.mem_map.mpr ⟨delta, listed, same⟩)

theorem deltaTo_outstandingBookings (bookingId : Nat) :
    deltaTo bookingId (db.outstandingBookings brokerId) =
      max 0 (db.owedOn brokerId bookingId) := by
  have distinct := nodup_keys_bookingSums (db.entriesOf brokerId)
  rw [← deltaTo_entriesOf, outstandingBookings_eq]
  by_cases listed : bookingId ∈ (bookingSums (db.entriesOf brokerId)).map Prod.fst
  · obtain ⟨total, member, rfl⟩ := List.mem_map.mp listed
    rw [deltaTo_of_mem distinct member]
    by_cases positive : 0 < total.2
    · have kept : total ∈ (bookingSums (db.entriesOf brokerId)).filter fun total => 0 < total.2 :=
        List.mem_filter.mpr ⟨member, decide_eq_true positive⟩
      rw [deltaTo_of_mem (distinct.sublist (List.filter_sublist.map _)) kept,
        max_eq_right positive.le]
    · rw [max_eq_left (not_lt.mp positive)]
      refine deltaTo_eq_zero_of_notMem fun inside => ?_
      obtain ⟨other, kept, named⟩ := List.mem_map.mp inside
      obtain ⟨isOther, owed⟩ := List.mem_filter.mp kept
      have same : other.2 = total.2 := by
        rw [← deltaTo_of_mem distinct isOther, ← deltaTo_of_mem distinct member, named]
      exact positive (same ▸ of_decide_eq_true owed)
  · have absent : bookingId ∉ ((bookingSums (db.entriesOf brokerId)).filter
        fun total => 0 < total.2).map Prod.fst :=
      fun inside => listed ((List.filter_sublist.map _).subset inside)
    rw [deltaTo_eq_zero_of_notMem listed, deltaTo_eq_zero_of_notMem absent, max_self]

theorem outstandingBookings_oldestFirst :
    (db.outstandingBookings brokerId).Pairwise fun older newer =>
      db.IsOlderFor brokerId older.1 newer.1 := by
  have met : ((bookingSums (db.entriesOf brokerId)).map Prod.fst).Pairwise (IsMetBefore _) :=
    keys_bookingSums (db.commissionLedger.ascending.filter _)
  rw [outstandingBookings_eq]
  exact ((List.pairwise_map.mp met).filter _).imp fun before => isMetBefore_entriesOf.mp before

end Outstanding

/-! ### Shares -/

section Shares

variable {owed : List (Nat × Int)}

theorem keys_allocateGross (owed : List (Nat × Int)) (amount : Int) :
    (allocateGross owed amount).1.map Prod.fst <+: owed.map Prod.fst := by
  induction owed generalizing amount with
  | nil => exact List.prefix_rfl
  | cons total rest ih =>
    obtain ⟨bookingId, total⟩ := total
    rw [allocateGross]
    split
    · exact List.nil_prefix
    · exact (List.prefix_cons_inj bookingId).mpr (ih _)

theorem allocateGross_within (positive : ∀ total ∈ owed, 0 < total.2) (amount : Int)
    (bookingId : Nat) : 0 ≤ deltaTo bookingId (allocateGross owed amount).1 ∧
      deltaTo bookingId (allocateGross owed amount).1 ≤ deltaTo bookingId owed := by
  induction owed generalizing amount with
  | nil => exact ⟨le_refl 0, le_refl 0⟩
  | cons total rest ih =>
    obtain ⟨key, total⟩ := total
    obtain ⟨first, later⟩ := List.forall_mem_cons.mp positive
    have first : 0 < total := first
    have rest_nonneg : 0 ≤ deltaTo bookingId rest := (ih later amount).1.trans (ih later amount).2
    rw [allocateGross]
    by_cases spent : amount ≤ 0
    · rw [if_pos spent, deltaTo_nil, deltaTo_cons]
      refine ⟨le_refl 0, ?_⟩
      split <;> omega
    · rw [if_neg spent, deltaTo_cons, deltaTo_cons]
      obtain ⟨nonneg, within⟩ := ih later (amount - if total < amount then total else amount)
      by_cases mine : key = bookingId
      · simp only [if_pos mine]
        by_cases less : total < amount
        · simp only [if_pos less] at nonneg within ⊢
          constructor <;> omega
        · simp only [if_neg less] at nonneg within ⊢
          constructor <;> omega
      · simp only [if_neg mine, zero_add]
        exact ⟨nonneg, within⟩

theorem allocateGross_greedy (distinct : (owed.map Prod.fst).Nodup) (amount : Int) :
    owed.Pairwise fun older newer => 0 < deltaTo newer.1 (allocateGross owed amount).1 →
      deltaTo older.1 (allocateGross owed amount).1 = older.2 := by
  induction owed generalizing amount with
  | nil => exact .nil
  | cons total rest ih =>
    obtain ⟨key, total⟩ := total
    obtain ⟨fresh, distinctRest⟩ := List.nodup_cons.mp distinct
    have fresh : key ∉ rest.map Prod.fst := fresh
    have differs : ∀ other ∈ rest, ¬key = other.1 :=
      fun other member same => fresh (same ▸ List.mem_map_of_mem member)
    rw [allocateGross]
    by_cases spent : amount ≤ 0
    · rw [if_pos spent]
      exact List.pairwise_of_forall fun _ _ share => absurd share (lt_irrefl 0)
    rw [if_neg spent]
    refine List.pairwise_cons.mpr ⟨fun newer member share => ?_, ?_⟩
    · -- what is left over for a later booking is left over by the first one
      rw [deltaTo_cons, if_neg (differs newer member), zero_add] at share
      have silent : key ∉ ((allocateGross rest
          (amount - if total < amount then total else amount)).1.map Prod.fst) :=
        fun listed => fresh ((keys_allocateGross rest _).subset listed)
      rw [deltaTo_cons, if_pos rfl, deltaTo_eq_zero_of_notMem silent, add_zero]
      split
      · rfl
      · rename_i taken
        rw [if_neg taken, sub_self] at share
        have nothing : (allocateGross rest 0).1 = [] := by
          cases rest with
          | nil => rfl
          | cons _ _ => rw [allocateGross, if_pos (le_refl 0)]
        rw [nothing] at share
        exact absurd share (lt_irrefl 0)
    · have later := ih distinctRest (amount - if total < amount then total else amount)
      refine List.Pairwise.imp_of_mem ?_ later
      intro older newer isOlder isNewer greedy share
      rw [deltaTo_cons, if_neg (differs newer isNewer), zero_add] at share
      rw [deltaTo_cons, if_neg (differs older isOlder), zero_add]
      exact greedy share

end Shares

/-! ### Entries -/

section Entries

variable {brokerId : Nat} {gross : List (Nat × Int)} {taxes : List Int}

def taxedShares (gross : List (Nat × Int)) (taxes : List Int) : List (Nat × Int) :=
  gross.zipWith (fun share tax => (share.1, tax)) taxes

theorem filter_shareEntries (brokerId bookingId : Nat) (share : Nat × Int) (tax : Int) :
    ((shareEntries brokerId share tax).filter fun entry => entry.bookingId = bookingId) =
      if share.1 = bookingId then shareEntries brokerId share tax else [] := by
  unfold shareEntries
  by_cases mine : share.1 = bookingId
  · split <;> simp [mine]
  · split <;> simp [mine]

theorem taxedShares_within (withheld : List.Forall₂ IsWithheldFrom gross taxes) (bookingId : Nat) :
    0 ≤ deltaTo bookingId (taxedShares gross taxes) ∧
      deltaTo bookingId (taxedShares gross taxes) ≤ deltaTo bookingId gross := by
  induction withheld with
  | nil => exact ⟨le_refl 0, le_refl 0⟩
  | @cons share tax rest others bounds _ ih =>
    obtain ⟨nonneg, within⟩ := bounds
    obtain ⟨restNonneg, restWithin⟩ := ih
    have split : taxedShares (share :: rest) (tax :: others) =
        (share.1, tax) :: taxedShares rest others := rfl
    rw [split, deltaTo_cons, deltaTo_cons]
    dsimp only
    split <;> constructor <;> omega

/-- **The entries of a booking** are those of its share and of the tax on it. -/
theorem filter_entries (brokerId : Nat) (distinct : (gross.map Prod.fst).Nodup)
    (positive : ∀ share ∈ gross, 0 < share.2) (same : gross.length = taxes.length)
    (bookingId : Nat) :
    ((gross.zipWith (shareEntries brokerId) taxes).flatten.filter
        fun entry => entry.bookingId = bookingId) =
      if 0 < deltaTo bookingId gross then
        shareEntries brokerId (bookingId, deltaTo bookingId gross)
          (deltaTo bookingId (taxedShares gross taxes))
      else [] := by
  induction gross generalizing taxes with
  | nil => rfl
  | cons share rest ih =>
    cases taxes with
    | nil => exact absurd same (Nat.succ_ne_zero _)
    | cons tax others =>
      obtain ⟨fresh, distinctRest⟩ := List.nodup_cons.mp distinct
      obtain ⟨first, later⟩ := List.forall_mem_cons.mp positive
      have split : taxedShares (share :: rest) (tax :: others) =
          (share.1, tax) :: taxedShares rest others := rfl
      rw [List.zipWith_cons_cons, List.flatten_cons, List.filter_append, filter_shareEntries,
        ih distinctRest later (Nat.succ.inj same), split, deltaTo_cons, deltaTo_cons]
      dsimp only
      by_cases mine : share.1 = bookingId
      · subst mine
        have taxed : deltaTo share.1 (taxedShares rest others) = 0 := by
          refine deltaTo_eq_zero_of_notMem fun listed => fresh ?_
          obtain ⟨pair, member, named⟩ := List.mem_map.mp listed
          obtain ⟨index, inside, rfl⟩ := List.getElem_of_mem member
          simp only [taxedShares, List.getElem_zipWith] at named
          exact named ▸ List.mem_map_of_mem (List.getElem_mem _)
        rw [deltaTo_eq_zero_of_notMem fresh, taxed, if_pos rfl, if_pos rfl, if_pos rfl, add_zero,
          add_zero, if_neg (lt_irrefl 0), if_pos first, List.append_nil]
      · rw [if_neg mine, if_neg mine, if_neg mine, zero_add, zero_add, List.nil_append]

theorem sum_shareEntries (brokerId : Nat) (share : Nat × Int) {tax : Int} (nonneg : 0 ≤ tax) :
    ((shareEntries brokerId share tax).map (·.signedAmountPaise)).sum = -share.2 := by
  unfold shareEntries
  by_cases taxed : 0 < tax
  · simp [taxed]
    omega
  · simp [taxed]
    omega

theorem sum_withheld (withheld : List.Forall₂ IsWithheldFrom gross taxes) :
    (((gross.zipWith (shareEntries brokerId) taxes).flatten.filter
      fun entry => entry.entryType = .tdsWithheld).map (·.signedAmountPaise)).sum = -taxes.sum := by
  induction withheld with
  | nil => rfl
  | @cons share tax rest others bounds _ ih =>
    have one : (((shareEntries brokerId share tax).filter
        fun entry => entry.entryType = .tdsWithheld).map (·.signedAmountPaise)).sum = -tax := by
      have nonneg := bounds.1
      unfold shareEntries
      by_cases taxed : 0 < tax
      · simp [taxed]
      · simp [taxed]
        omega
    rw [List.zipWith_cons_cons, List.flatten_cons, List.filter_append, List.map_append,
      List.sum_append, one, ih, List.sum_cons]
    ring

theorem tdsShares_sum {tdsPaise : Int} (nonneg : 0 ≤ tdsPaise)
    (split : tdsShares tdsPaise gross = .ok taxes) : taxes.sum = tdsPaise := by
  unfold tdsShares at split
  split at split
  · rename_i taxed
    obtain ⟨positive, rfl⟩ := allocate_eq_ok taxed.le split
    exact largestRemainder_sum taxed.le positive
  · rename_i untaxed
    rw [pure_eq_ok] at split
    subst split
    have nothing : tdsPaise = 0 := le_antisymm (not_lt.mp untaxed) nonneg
    simp [nothing]

end Entries

/-! ### Distribution -/

theorem taken_of_older {owed : List (Nat × Int)} {isOlder : Nat → Nat → Prop} (share : Nat → Int)
    (irreflexive : ∀ older newer, isOlder older newer → ¬isOlder newer older)
    (ordered : owed.Pairwise fun older newer => isOlder older.1 newer.1)
    (greedy : owed.Pairwise fun older newer => 0 < share newer.1 → share older.1 = older.2)
    {older newer : Nat × Int} (isListed : older ∈ owed) (listed : newer ∈ owed)
    (before : isOlder older.1 newer.1) (taken : 0 < share newer.1) : share older.1 = older.2 := by
  have differs : older ≠ newer := fun same => irreflexive _ _ before (same ▸ before)
  let follows : Nat × Int → Nat × Int → Prop := fun first second =>
    isOlder first.1 second.1 ∧ (0 < share second.1 → share first.1 = first.2)
  have either : follows older newer ∨ follows newer older := by
    have all : owed.Pairwise fun first second => follows first second ∨ follows second first :=
      (ordered.and greedy).imp Or.inl
    have : Std.Symm fun first second => follows first second ∨ follows second first :=
      ⟨fun _ _ => Or.symm⟩
    exact all.forall isListed listed differs
  rcases either with ⟨_, holds⟩ | ⟨after, _⟩
  · exact holds taken
  · exact absurd after (irreflexive _ _ before)

theorem CommissionDb.IsOlderFor.not_symm {db : CommissionDb} {brokerId older newer : Nat}
    (before : db.IsOlderFor brokerId older newer) : ¬db.IsOlderFor brokerId newer older := by
  obtain ⟨id, entry, found, own, named, earliest⟩ := before
  rintro ⟨other, second, isOther, mine, is, first⟩
  exact lt_asymm (earliest other second isOther mine is) (first id entry found own named)

theorem paymentEntries_distributed {masters : CommissionMasters} {paymentDate : Date}
    {payment : CommissionPayment} {db : CommissionDb} {entries : List CommissionLedgerEntry}
    (distributed : paymentEntries masters paymentDate payment
      (db.outstandingBookings payment.brokerId) = .ok entries) :
    ∃ share tax, IsDistributed db payment
      (brokerTds masters paymentDate payment.amountPaise) share tax entries := by
  have positive := outstandingBookings_pos db payment.brokerId
  have paid := paymentEntries_paid positive distributed
  simp only [paymentEntries, bind_eq_ok, ensure_eq_ok, pure_eq_ok] at distributed
  obtain ⟨_, found, _, enough, taxes, split, rfl⟩ := distributed
  have distinct := nodup_keys_outstandingBookings db payment.brokerId
  have ordered := outstandingBookings_oldestFirst db payment.brokerId
  have owedOn := deltaTo_outstandingBookings db payment.brokerId
  generalize db.outstandingBookings payment.brokerId = owed at *
  have owing := (allocateGross_ne_nil.mp found).2
  have left := allocateGross_left_nonneg owed owing.le
  have total := allocateGross_sum owed payment.amountPaise
  have amount : ((allocateGross owed payment.amountPaise).1.map Prod.snd).sum =
      payment.amountPaise := by omega
  have within := allocateGross_within positive payment.amountPaise
  obtain ⟨taxNonneg, taxWithin⟩ := brokerTds_bounds masters paymentDate owing.le
  have sharesPos := allocateGross_pos positive payment.amountPaise
  have withheld := tdsShares_withheld sharesPos (amount.symm ▸ taxWithin) split
  have taxed := taxedShares_within withheld
  have each := filter_entries payment.brokerId
    (distinct.sublist (keys_allocateGross owed payment.amountPaise).sublist) sharesPos
    withheld.length_eq
  refine ⟨fun bookingId => deltaTo bookingId (allocateGross owed payment.amountPaise).1,
    fun bookingId => deltaTo bookingId
      (taxedShares (allocateGross owed payment.amountPaise).1 taxes),
    { total := paid.sum
      named := fun entry member => (paid.each entry member).1
      each
      ofBooking := fun bookingId => ?_
      within := fun bookingId => owedOn bookingId ▸ within bookingId
      oldestFirst := fun older newer isOlder share => ?_
      withheld := taxed
      taxes := ?_ }⟩
  · rw [each]
    split
    · exact sum_shareEntries _ _ (taxed bookingId).1
    · have none := (within bookingId).1
      simp only [List.map_nil, List.sum_nil]
      omega
  · -- both bookings are among those with something outstanding, or nothing is to be taken
    rw [← owedOn]
    have listed : ∀ bookingId, deltaTo bookingId owed ≠ 0 →
        (bookingId, deltaTo bookingId owed) ∈ owed := by
      intro bookingId owing
      obtain ⟨row, member, rfl⟩ := List.mem_map.mp
        (not_imp_comm.mp deltaTo_eq_zero_of_notMem owing)
      rwa [deltaTo_of_mem distinct member]
    by_cases nothing : deltaTo older owed = 0
    · exact le_antisymm (within older).2 (nothing ▸ (within older).1)
    · exact taken_of_older (fun bookingId =>
          deltaTo bookingId (allocateGross owed payment.amountPaise).1)
        (fun _ _ before => before.not_symm) ordered
        (allocateGross_greedy distinct payment.amountPaise) (listed older nothing)
        (listed newer (share.trans_le (within newer).2).ne') isOlder share
  · rw [sum_withheld withheld, tdsShares_sum taxNonneg split]

/-- **A payment is distributed exactly and atomically.** However far a payment gets, as long as it
has not committed, and if it is refused or interrupted, nothing is posted; once it has committed, the
entries of an approved payment are posted, and they distribute it as they should. -/
theorem payment_distributed (masters : CommissionMasters) (paymentId : Nat) (paymentDate : Date)
    (store : Store) (schedule : List (Choice Unit)) :
    (¬(World.interleave (fun _ => CommissionPaymentService.pay masters paymentId paymentDate) store
        schedule).HasCommitted () →
      (World.interleave (fun _ => CommissionPaymentService.pay masters paymentId paymentDate) store
        schedule).rows = store) ∧
    ((World.interleave (fun _ => CommissionPaymentService.pay masters paymentId paymentDate) store
        schedule).HasCommitted () →
      ∃ payment entries share tax, store.commissionPayments.find? paymentId = some payment ∧
        payment.status = .approved ∧
        (World.interleave (fun _ => CommissionPaymentService.pay masters paymentId paymentDate)
          store schedule).rows.commissionLedger = store.commissionLedger.createMany entries ∧
        IsDistributed store.toCommissionDb payment
          (brokerTds masters paymentDate payment.amountPaise) share tax entries) := by
  have occurs := World.occurs_interleave
    (fun _ : Unit => CommissionPaymentService.pay masters paymentId paymentDate) store schedule
  constructor
  · exact fun nobody => World.rows_of_nobody occurs fun _ => nobody
  · intro committed
    obtain ⟨_, _, after, ran, _, alone⟩ := World.first_ran_alone occurs committed
    rw [alone fun _ _ => rfl]
    obtain ⟨db, accepted, rfl⟩ := payCommission_run_eq_ok.mp ran
    obtain ⟨payment, entries, found, approved, distributed, rfl⟩ := payCommission_eq_ok.mp accepted
    obtain ⟨share, tax, isDistributed⟩ := paymentEntries_distributed distributed
    exact ⟨payment, entries, share, tax, found, approved, rfl, isDistributed⟩

end OpenEstate
