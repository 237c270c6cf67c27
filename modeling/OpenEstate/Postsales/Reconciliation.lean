/-
**The schedule and the ledger of a booking.**

A ledger that holds nothing but what opened it, credits of receipts and reversals of these owes
exactly what the schedule has not been allocated, with one exception: a booking opened by a transfer
starts from the balance carried over, while its plan is made for the agreed price. The part of the
price that was not carried over stays on the schedule (`schedule_reconciles`).
-/

import OpenEstate.Postsales.Balance
import OpenEstate.Postsales.Schedule

namespace OpenEstate

open Relational

def Books.demandedOn (books : Books) (planId : Nat) : Int :=
  books.installments.sum fun _ inst =>
    if inst.planId = planId then inst.amountPaise - inst.allocatedPaise else 0

/-- The entries a booking's ledger opens with: its charges, or the balance carried in. -/
def LedgerEntryType.opens : LedgerEntryType → Bool
  | .charge => true
  | .transferCarryIn => true
  | _ => false

/-- The entries a schedule can account for: those that open a ledger, credits of receipts, and
reversals. -/
def LedgerEntryType.onSchedule : LedgerEntryType → Bool
  | .charge => true
  | .transferCarryIn => true
  | .receiptAlloc => true
  | .adjustment => true
  | .bounceReversal => true
  | _ => false

def Books.openedWith (books : Books) (bookingId : Nat) : Int :=
  books.sumWhere fun entry => entry.bookingId = bookingId ∧ entry.entryType.opens

/-- The part of a price that the transfers into a booking did not carry over: nothing when no
transfer opened it. -/
def Db.notCarried (db : Db) (bookingId : Nat) (agreedPricePaise : Int) : Int :=
  db.transfers.sum fun _ row =>
    if row.toBookingId = bookingId then agreedPricePaise - row.carryForwardPaise else 0

/-! ### What a ledger opens with -/

/-- **Every ledger opens with the price**, less what a transfer did not carry over. -/
def Db.Opened (db : Db) : Prop :=
  ∀ bookingId booking, db.bookings.find? bookingId = some booking →
    db.openedWith bookingId + db.notCarried bookingId booking.agreedPricePaise =
      booking.agreedPricePaise

theorem opened_empty : ({} : Db).Opened := by
  rintro bookingId booking ⟨⟩

theorem openedWith_of_unknown {db : Db} (sound : db.Sound) :
    db.openedWith db.bookings.nextId = 0 := by
  refine sumWhere_eq_zero fun id entry found => ?_
  have known : entry.bookingId < db.bookings.nextId := (sound.books.linked.entry id entry found).booking
  simp [known.ne]

theorem notCarried_of_unknown {db : Db} (sound : db.Sound) (agreedPricePaise : Int) :
    db.notCarried db.bookings.nextId agreedPricePaise = 0 := by
  refine Table.sum_eq_zero fun id row found => if_neg ?_
  have known : row.toBookingId < db.bookings.nextId :=
    (sound.grounded.transfer_bookings id row found).2
  exact known.ne

theorem notCarried_of_create (db : Db) {after : Db} {row : Transfer}
    (transfers : after.transfers = db.transfers.create row) (bookingId : Nat)
    (agreedPricePaise : Int) :
    after.notCarried bookingId agreedPricePaise = db.notCarried bookingId agreedPricePaise +
      if row.toBookingId = bookingId then agreedPricePaise - row.carryForwardPaise else 0 := by
  unfold Db.notCarried
  rw [transfers, Table.sum_create]

variable {books : Books} {entries : List LedgerEntry}

theorem openedWith_of_ledger {next : Books} (ledger : next.ledger = books.ledger.createMany entries)
    (bookingId : Nat) :
    next.openedWith bookingId = books.openedWith bookingId +
      sumEntries entries fun entry => entry.bookingId = bookingId ∧ entry.entryType.opens :=
  sumWhere_of_ledger ledger _

theorem Db.Opened.of_silent {db after : Db} (opened : db.Opened)
    (prices : ∀ bookingId booking, db.hasBooking bookingId →
      after.bookings.find? bookingId = some booking → ∃ before,
        db.bookings.find? bookingId = some before ∧
          booking.agreedPricePaise = before.agreedPricePaise)
    (ledger : after.ledger = db.ledger.createMany entries)
    (silent : ∀ entry ∈ entries, entry.entryType.opens = false)
    (transfers : after.transfers = db.transfers)
    (nextId : after.bookings.nextId = db.bookings.nextId) : after.Opened := by
  intro bookingId booking found
  have known : db.hasBooking bookingId := by
    unfold Db.hasBooking
    rw [← nextId]
    exact Table.lt_nextId found
  obtain ⟨before, present, same⟩ := prices bookingId booking known found
  have nothing : (sumEntries entries fun entry =>
      entry.bookingId = bookingId ∧ entry.entryType.opens) = 0 := by
    refine sumEntries_eq_zero fun entry member => ?_
    simp [silent entry member]
  rw [openedWith_of_ledger ledger, nothing, add_zero, same]
  unfold Db.notCarried
  rw [transfers]
  exact opened bookingId before present

theorem Db.Opened.of_new {db after : Db} (sound : db.Sound) (opened : db.Opened) {booking : Booking}
    (prices : ∀ bookingId booking, db.hasBooking bookingId →
      after.bookings.find? bookingId = some booking → ∃ before,
        db.bookings.find? bookingId = some before ∧
          booking.agreedPricePaise = before.agreedPricePaise)
    (nextId : after.bookings.nextId = db.bookings.nextId + 1)
    (new : after.bookings.find? db.bookings.nextId = some booking)
    (ledger : after.ledger = db.ledger.createMany entries)
    (own : ∀ entry ∈ entries, entry.entryType.opens = true → entry.bookingId = db.bookings.nextId)
    (transfers : after.transfers = db.transfers ∨ ∃ row, row.toBookingId = db.bookings.nextId ∧
      after.transfers = db.transfers.create row) (total : (sumEntries entries fun entry =>
        entry.bookingId = db.bookings.nextId ∧ entry.entryType.opens) +
      after.notCarried db.bookings.nextId booking.agreedPricePaise = booking.agreedPricePaise) :
    after.Opened := by
  intro bookingId row found
  rw [openedWith_of_ledger ledger]
  by_cases fresh : bookingId = db.bookings.nextId
  · subst fresh
    rw [new] at found
    cases found
    rw [openedWith_of_unknown sound, zero_add]
    exact total
  · have known : db.hasBooking bookingId := by
      have bound := Table.lt_nextId found
      unfold Db.hasBooking
      omega
    obtain ⟨before, present, same⟩ := prices bookingId row known found
    have nothing : (sumEntries entries fun entry =>
        entry.bookingId = bookingId ∧ entry.entryType.opens) = 0 := by
      refine sumEntries_eq_zero fun entry member => ?_
      rw [decide_eq_false_iff_not]
      intro opens
      exact fresh (opens.1.symm.trans (own entry member opens.2))
    have sameTransfers : after.notCarried bookingId row.agreedPricePaise =
        db.notCarried bookingId row.agreedPricePaise := by
      rcases transfers with same | ⟨last, toNew, same⟩
      · unfold Db.notCarried
        rw [same]
      · rw [notCarried_of_create db same, toNew, if_neg fun equal => fresh equal.symm, add_zero]
    rw [nothing, add_zero, sameTransfers, same]
    exact opened bookingId before present

theorem sumEntries_charges (bookingId : Nat) (lineTotals : List Int) :
    (sumEntries (lineTotals.map (chargeEntry bookingId)) fun entry =>
      entry.bookingId = bookingId ∧ entry.entryType.opens) = lineTotals.sum := by
  induction lineTotals with
  | nil => rfl
  | cons lineTotal rest ih =>
    rw [List.map_cons, sumEntries_cons, List.sum_cons, ih]
    simp [LedgerEntry.amountIf, chargeEntry, LedgerEntryType.opens]

theorem sumEntries_carryOver (fromBookingId toBookingId : Nat) (carryForwardPaise fee : Int) :
    (sumEntries (carryOutEntry fromBookingId carryForwardPaise ::
        carryInEntries toBookingId carryForwardPaise fee) fun entry =>
      entry.bookingId = toBookingId ∧ entry.entryType.opens) = carryForwardPaise := by
  unfold carryInEntries
  split <;> simp [LedgerEntry.amountIf, carryOutEntry, LedgerEntryType.opens]

theorem Effect.opened {request : Request} {db after : Db} (effect : Effect request db after)
    (sound : db.Sound) (opened : db.Opened) : after.Opened := by
  have prices : ∀ bookingId booking, db.hasBooking bookingId →
      after.bookings.find? bookingId = some booking → ∃ before,
        db.bookings.find? bookingId = some before ∧
          booking.agreedPricePaise = before.agreedPricePaise :=
    fun _ _ known found => effect.price_of_booked known found
  have none : ∀ entry ∈ ([] : List LedgerEntry), entry.entryType.opens = false := by simp
  have single : ∀ entry : LedgerEntry, entry.entryType.opens = false →
      ∀ posted ∈ [entry], posted.entryType.opens = false := by simp
  cases effect with
  | @createBooking _ _ dto unit placeOfSupplyStateCode lineTotals =>
    refine opened.of_new sound prices rfl (Table.find?_create_self _ _) rfl ?_ (Or.inl rfl) ?_
    · intro entry member _
      obtain ⟨lineTotal, _, rfl⟩ := List.mem_map.mp member
      rfl
    · rw [sumEntries_charges]
      have nothing : db.notCarried db.bookings.nextId lineTotals.sum = 0 :=
        notCarried_of_unknown sound _
      show lineTotals.sum + db.notCarried db.bookings.nextId lineTotals.sum = lineTotals.sum
      rw [nothing, add_zero]
  | @transfer masters _ fromBookingId dto booking fee unitId applicantId units found =>
    have ledger : (db.carryOver fromBookingId (transferredBooking masters booking unitId applicantId)
        (db.balance fromBookingId) fee).ledger = db.ledger.createMany
          (carryOutEntry fromBookingId (db.balance fromBookingId) ::
            carryInEntries db.bookings.nextId (db.balance fromBookingId) fee) := rfl
    refine opened.of_new sound prices rfl (Table.find?_create_self _ _) ledger ?_
      (Or.inr ⟨_, rfl, rfl⟩) ?_
    · intro entry member opens
      rcases List.mem_cons.mp member with rfl | carriedIn
      · cases opens
      · exact (isPlain_carryInEntries _ _ _ entry carriedIn).2
    · rw [sumEntries_carryOver]
      have nothing : db.notCarried db.bookings.nextId booking.agreedPricePaise = 0 :=
        notCarried_of_unknown sound _
      rw [notCarried_of_create db rfl]
      show db.balance fromBookingId + (db.notCarried db.bookings.nextId booking.agreedPricePaise +
        if db.bookings.nextId = db.bookings.nextId then
          booking.agreedPricePaise - db.balance fromBookingId else 0) = booking.agreedPricePaise
      rw [nothing, if_pos rfl]
      omega
  | @advance => exact opened.of_silent prices rfl none rfl (Table.nextId_modify _ _ _)
  | setInterestRule => exact opened.of_silent prices rfl none rfl (Table.nextId_modify _ _ _)
  | instantiateFromTemplate found deactivated =>
    rw [deactivateExistingPlans_frame deactivated] at prices ⊢
    exact opened.of_silent prices rfl none rfl rfl
  | createCustomPlan found deactivated =>
    rw [deactivateExistingPlans_frame deactivated] at prices ⊢
    exact opened.of_silent prices rfl none rfl rfl
  | raiseStage stage =>
    rcases stage with rfl | ⟨stageRaise, rfl⟩ <;> exact opened.of_silent prices rfl none rfl rfl
  | addExtraCharge => exact opened.of_silent prices rfl (single _ rfl) rfl rfl
  | @createReceipt _ _ dto =>
    refine opened.of_silent prices (recordReceipt_ledger _ _) (fun entry member => ?_) rfl rfl
    rcases mem_receiptEntries member with ⟨a, _, rfl⟩ | ⟨_, rfl⟩ <;> rfl
  | recordBounce =>
    refine opened.of_silent prices rfl (fun entry member => ?_) rfl rfl
    rcases mem_reversalEntries member with ⟨row, _, rfl⟩ | ⟨_, rfl⟩ <;> rfl
  | reverseReceipt =>
    refine opened.of_silent prices rfl (fun entry member => ?_) rfl rfl
    rcases mem_reversalEntries member with ⟨row, _, rfl⟩ | ⟨_, rfl⟩ <;> rfl
  | recordTdsCertificate => exact opened.of_silent prices rfl (single _ rfl) rfl rfl
  | accrueForBooking found posted =>
    refine opened.of_silent prices rfl (fun entry member => ?_) rfl rfl
    obtain ⟨installmentId, amount, _, rfl⟩ := posted entry member
    rfl
  | waiveInterest => exact opened.of_silent prices rfl (single _ rfl) rfl rfl
  | approveRefund => exact opened.of_silent prices rfl (single _ rfl) rfl rfl
  | @voucherBounced masters _ _ voucher =>
    have silent : ∀ entry ∈ voucherBouncedEntries voucher.bookingId voucher.amountPaise
        masters.chequeBounceChargePaise, entry.entryType.opens = false := by
      intro entry member
      rcases List.mem_cons.mp member with rfl | charge
      · rfl
      · split at charge
        · rw [List.mem_singleton.mp charge]
          rfl
        · cases charge
    cases named : voucher.refundId <;>
      (rw [named] at prices; exact opened.of_silent prices rfl silent rfl rfl)
  | cancel =>
    refine opened.of_silent prices rfl (fun entry member => ?_) rfl (Table.nextId_modify _ _ _)
    simp only [settlementEntries, List.mem_cons, List.not_mem_nil, or_false] at member
    rcases member with rfl | rfl <;> rfl
  | _ => exact opened.of_silent prices rfl none rfl rfl

theorem ReachableDb.opened {db : Db} (reachable : ReachableDb db) : db.Opened := by
  refine reachable.invariant_of_sound opened_empty ?_
  intro request before after sound opened accepted
  exact (exec_effect accepted).opened sound opened

/-! ### What the receipts credited -/

def Books.creditedBy (books : Books) (planId : Nat) (entry : LedgerEntry) : Int :=
  books.installments.sum fun id inst =>
    if inst.planId = planId then entry.amountIf (entry.touches id) else 0

variable {entry : LedgerEntry} {installmentId : Nat}

theorem touches_iff :
    entry.touches installmentId = true ↔ entry.installmentId = some installmentId ∧
      (entry.entryType = .receiptAlloc ∨ entry.reversalOfEntryId ≠ none) := by
  simp [LedgerEntry.touches]

variable {known : Nat → Prop}

theorem sum_allocated (sound : books.Sound known) (planId : Nat) :
    (books.installments.sum fun _ inst =>
        if inst.planId = planId then inst.allocatedPaise else 0) =
      -books.ledger.sum fun _ entry => books.creditedBy planId entry := by
  unfold Books.creditedBy
  rw [Table.sum_comm, ← Table.sum_neg]
  refine Table.sum_congr fun id inst found => ?_
  by_cases own : inst.planId = planId
  · simp only [if_pos own]
    exact (sound.cached id inst found).ledger
  · simp [own]

theorem creditedBy_eq_zero {planId : Nat}
    (elsewhere : ∀ id inst, books.installments.find? id = some inst → inst.planId = planId →
      entry.touches id = false) : books.creditedBy planId entry = 0 := by
  refine Table.sum_eq_zero fun id inst found => ?_
  by_cases own : inst.planId = planId
  · rw [if_pos own, elsewhere id inst found own]
    rfl
  · rw [if_neg own]

theorem creditedBy_of_touches {planId : Nat} {inst : Installment}
    (touches : entry.touches installmentId = true)
    (found : books.installments.find? installmentId = some inst) (own : inst.planId = planId) :
    books.creditedBy planId entry = entry.signedAmountPaise := by
  have named := (touches_iff.mp touches).1
  have single : books.creditedBy planId entry = books.installments.sum fun id row =>
      if id = installmentId then (if row.planId = planId then entry.signedAmountPaise else 0)
      else 0 := by
    refine Table.sum_congr fun id row _ => ?_
    by_cases same : id = installmentId
    · subst same
      simp [LedgerEntry.amountIf, touches]
    · have other : entry.touches id = false := by
        rw [Bool.eq_false_iff]
        intro also
        have both := (touches_iff.mp also).1.symm.trans named
        exact same (Option.some.inj both)
      simp [LedgerEntry.amountIf, other, same]
  rw [single, Table.sum_single, found]
  simp [own]

theorem installment_of_touches (link : books.EntryLinked known entry)
    (touches : entry.touches installmentId = true) :
    ∃ inst, books.installments.find? installmentId = some inst ∧
      inst.bookingId = entry.bookingId := by
  obtain ⟨named, kind⟩ := touches_iff.mp touches
  refine link.installment installmentId ?_ named
  rcases kind with credit | reverses
  · rw [credit]
    rfl
  · rcases link.reverses.mpr reverses with adjusts | bounces
    · rw [adjusts]
      rfl
    · rw [bounces]
      rfl

theorem touches_of_onSchedule (linked : books.Linked known) {id : Nat}
    (found : books.ledger.find? id = some entry)
    (accounted : ∀ id other, books.ledger.find? id = some other →
      other.bookingId = entry.bookingId → other.entryType.onSchedule = true)
    (later : entry.entryType.opens = false) :
    ∃ installmentId, entry.touches installmentId = true := by
  have link := linked.entry id entry found
  have kind := accounted id entry found rfl
  have reversal : entry.reversalOfEntryId ≠ none →
      ∃ installmentId, entry.touches installmentId = true := by
    intro reverses
    obtain ⟨targetId, named⟩ := Option.ne_none_iff_exists'.mp reverses
    obtain ⟨target, receiptId, present, own, _, sameBooking, sameInst, _⟩ :=
      link.reversal targetId named
    have targetKind := accounted targetId target present sameBooking.symm
    have credit : target.entryType = .receiptAlloc := by
      rcases (isOwnOf_iff.mp own).2 with credit | receivable
      · exact credit
      · rw [receivable] at targetKind
        cases targetKind
    obtain ⟨installmentId, on⟩ := Option.ne_none_iff_exists'.mp
      ((linked.entry targetId target present).credit credit).2.1
    exact ⟨installmentId, by simp [LedgerEntry.touches, sameInst, on, reverses]⟩
  cases type : entry.entryType with
  | receiptAlloc =>
    obtain ⟨installmentId, on⟩ := Option.ne_none_iff_exists'.mp (link.credit type).2.1
    exact ⟨installmentId, by simp [LedgerEntry.touches, on, type]⟩
  | adjustment => exact reversal (link.reverses.mp (Or.inl type))
  | bounceReversal => exact reversal (link.reverses.mp (Or.inr type))
  | charge =>
    rw [type] at later
    cases later
  | transferCarryIn =>
    rw [type] at later
    cases later
  | _ =>
    rw [type] at kind
    cases kind

theorem touches_of_opens (link : books.EntryLinked known entry)
    (opens : entry.entryType.opens = true)
    (installmentId : Nat) : entry.touches installmentId = false := by
  have noCredit : entry.entryType ≠ .receiptAlloc := by
    intro credit
    rw [credit] at opens
    cases opens
  have noReversal : entry.reversalOfEntryId = none := by
    by_contra reverses
    rcases link.reverses.mpr reverses with adjusts | bounces
    · rw [adjusts] at opens
      cases opens
    · rw [bounces] at opens
      cases opens
  simp [LedgerEntry.touches, noCredit, noReversal]

/-! ### The two totals -/

section Reconciliation

variable {db : Db} {bookingId planId : Nat} {plan : PaymentPlan}

/-- **A ledger the schedule can account for** is what it opened with and what was credited on the
installments of the active plan. -/
theorem balance_eq_opened_add_credited (sound : db.Sound) (planned : db.Planned)
    (found : db.plans.find? planId = some plan) (active : plan.isActive = true)
    (accounted : ∀ id entry, db.ledger.find? id = some entry →
      entry.bookingId = plan.bookingId → entry.entryType.onSchedule = true) :
    db.balance plan.bookingId = db.openedWith plan.bookingId +
      db.ledger.sum fun _ entry => db.creditedBy planId entry := by
  unfold Books.balance Books.openedWith Books.sumWhere
  rw [← Table.sum_add]
  refine Table.sum_congr fun id entry present => ?_
  have link := sound.books.linked.entry id entry present
  by_cases own : entry.bookingId = plan.bookingId
  · cases opens : entry.entryType.opens with
    | true =>
      rw [creditedBy_eq_zero fun instId _ _ _ => touches_of_opens link opens instId, add_zero]
      simp [own, opens]
    | false =>
      -- the installment it touches is on this plan, the only active one of the booking
      obtain ⟨installmentId, touches⟩ := touches_of_onSchedule sound.books.linked present
        (fun otherId other otherFound same => accounted otherId other otherFound (same.trans own))
        opens
      obtain ⟨inst, instFound, ofBooking⟩ := installment_of_touches link touches
      obtain ⟨home, homeFound, homeActive, homeBooking⟩ :=
        planned.home installmentId inst instFound
      have same : inst.planId = planId := planned.one _ _ home plan homeFound found homeActive active
        (homeBooking.trans (ofBooking.trans own))
      rw [creditedBy_of_touches touches instFound same]
      simp [LedgerEntry.amountIf, own, opens]
  · have elsewhere : ∀ instId inst, db.installments.find? instId = some inst →
        inst.planId = planId → entry.touches instId = false := by
      intro instId inst instFound onPlan
      rw [Bool.eq_false_iff]
      intro touches
      obtain ⟨other, otherFound, ofBooking⟩ := installment_of_touches link touches
      rw [instFound] at otherFound
      cases otherFound
      obtain ⟨home, homeFound, _, homeBooking⟩ := planned.home instId inst instFound
      rw [onPlan, found] at homeFound
      cases homeFound
      exact own (ofBooking.symm.trans homeBooking.symm)
    rw [creditedBy_eq_zero elsewhere]
    simp [LedgerEntry.amountIf, own]

/-- **On a ledger that holds only charges, the balance carried in, credits of receipts and
reversals, the active plan demands the balance**, and the part of the agreed price that a transfer
into the booking did not carry over. -/
theorem schedule_reconciles (reachable : ReachableDb db) {booking : Booking}
    (found : db.bookings.find? bookingId = some booking)
    (active : db.activePlan bookingId = some (planId, plan))
    (accounted : ∀ id entry, db.ledger.find? id = some entry → entry.bookingId = bookingId →
      entry.entryType.onSchedule = true) :
    db.demandedOn planId =
      db.balance bookingId + db.notCarried bookingId booking.agreedPricePaise := by
  have sound := ReachableDb.sound reachable
  have planned := ReachableDb.planned reachable
  obtain ⟨planFound, kept⟩ := Table.findFirst?_eq_some active
  have kept : plan.bookingId = bookingId ∧ plan.isActive = true := by simpa using kept
  obtain ⟨rfl, isActive⟩ := kept
  have balance := balance_eq_opened_add_credited sound planned planFound isActive accounted
  have total := planned.total planId plan booking planFound isActive found
  have opened := ReachableDb.opened reachable plan.bookingId booking found
  have allocated := sum_allocated sound.books planId
  have split : db.demandedOn planId = db.scheduledOn planId -
      db.installments.sum fun _ inst =>
        if inst.planId = planId then inst.allocatedPaise else 0 := by
    unfold Books.demandedOn Books.scheduledOn
    rw [← Table.sum_sub]
    refine Table.sum_congr fun _ inst _ => ?_
    split <;> simp
  omega

end Reconciliation

theorem accounted_of_any
    (none : books.ledger.any (fun _ entry => !entry.entryType.onSchedule) = false)
    (bookingId : Nat) : ∀ id entry, books.ledger.find? id = some entry →
      entry.bookingId = bookingId → entry.entryType.onSchedule = true := by
  intro id entry found _
  simpa using Table.any_eq_false.mp none id entry found

/-- With 100 of the sale paid, 900 are demanded and 900 are owed. -/
theorem schedule_reconciles_partlyPaid :
    partlyPaid.demandedOn 0 = partlyPaid.balance 0 + partlyPaid.notCarried 0 1000 :=
  schedule_reconciles (reachable_run _ _) (rfl : partlyPaid.bookings.find? 0 = some _) rfl
    (accounted_of_any rfl 0)

/-- The sale with 100 paid, moved to another applicant and given the same plan again. -/
def transferredPartlyPaid : Db :=
  run exec {} (smallSale ++
    [⟨{}, .createReceipt (smallReceipt 0 0 .cash 100 0)⟩, ⟨{}, .createApplicant⟩,
      smallTransfer 0 1, ⟨{}, .createCustomPlan 1 smallPlan⟩])

/-- The new schedule demands the whole price, though the ledger only took over 900. -/
theorem transferred_schedule_exceeds_balance :
    ReachableDb transferredPartlyPaid ∧
      (∃ booking plan, transferredPartlyPaid.bookings.find? 1 = some booking ∧
        booking.status = .booked ∧ transferredPartlyPaid.activePlan 1 = some (1, plan)) ∧
      (∀ id entry, transferredPartlyPaid.ledger.find? id = some entry → entry.bookingId = 1 →
        entry.entryType.onSchedule = true) ∧
      transferredPartlyPaid.demandedOn 1 ≠ transferredPartlyPaid.balance 1 := by
  refine ⟨reachable_run _ _, ⟨_, _, rfl, rfl, rfl⟩, ?_, by decide⟩
  intro id entry found own
  by_contra other
  have some : transferredPartlyPaid.ledger.any (fun _ entry =>
      entry.bookingId = 1 && !entry.entryType.onSchedule) = true :=
    Table.any_eq_true.mpr ⟨id, entry, found, by simp [own, other]⟩
  revert some
  decide

end OpenEstate
