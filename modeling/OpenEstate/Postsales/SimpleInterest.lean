/-
**Simple interest, whatever the schedule of its runs.**

Every posted accrual rounds the interest for its own window, and a window whose interest rounds to
nothing stays open: the next one that is posted starts where the last one that was posted ends. So
the runs between two days may be as many as one likes. What they post is the interest of those days,
up to half a paisa for each accrual and the open window.

* `sum_rounded_of_tiles`: what rounding over a tiling comes to;
* `Db.ChargedSince`: what runs on a booking have added to the accruals of an installment;
* `simple_interest_schedule`: two schedules that end on the same day.
-/

import OpenEstate.Postsales.InterestWindows

namespace OpenEstate

open Relational

/-! ### Rounding over a tiling -/

theorem sum_rounded_of_tiles {rate denominator start : Int} {windows : List (Int × Int)}
    (rateNonneg : 0 ≤ rate) (positive : 0 < denominator) (tiles : Tiles start windows) :
    let charges := windows.map fun window => roundedDiv (rate * (window.2 - window.1)) denominator
    let atOnce := rate * (endOf start windows - start)
    2 * (denominator * charges.sum - atOnce) ≤ denominator * windows.length ∧
      -(denominator * windows.length) ≤ 2 * (denominator * charges.sum - atOnce) := by
  induction windows generalizing start with
  | nil => simp [endOf]
  | cons window rest ih =>
    obtain ⟨rfl, later, tiles⟩ := tiles
    obtain ⟨upper, lower⟩ := ih tiles
    have product : 0 ≤ rate * (window.2 - window.1) := mul_nonneg rateNonneg (by omega)
    obtain ⟨below, above⟩ := roundedDiv_near product positive
    simp only [List.map_cons, List.sum_cons, List.length_cons, Nat.cast_add, Nat.cast_one, endOf]
      at lower upper ⊢
    constructor <;> linarith

/-! ### What runs have added -/

def Db.chargedUpTo (db : Db) (id : Nat) (dueDate : Date) : Int :=
  endOf (dayOf dueDate) (db.windows id)

def Installment.outstandingPaise (inst : Installment) : Int :=
  inst.amountPaise - inst.allocatedPaise

/-- Simple interest on an amount for some days, not rounded, in the fraction of a paisa that the
accruals divide by. -/
def simpleRate (rule : InterestRule) (inst : Installment) : Int :=
  inst.outstandingPaise * rule.rateBasisPoints

theorem interestBase_simple {rule : InterestRule} (simple : rule.rateType = .simple) {db : Db}
    {row : Nat × Installment} : db.interestBase rule row = row.2.outstandingPaise := by
  rw [Db.interestBase, InterestRule.base, if_neg (by rw [simple]; decide)]
  rfl

/-- **What accruals on a booking have added.** -/
structure Db.ChargedSince (before : Db) (rule : InterestRule) (inst : Installment) (id : Nat)
    (last : Int) (after : Db) (added : List InterestAccrual) : Prop where
  windowed : after.Windowed
  installments : after.installments = before.installments
  bookings : after.bookings = before.bookings
  accruals : (after.priorAccruals id).map Prod.snd = (before.priorAccruals id).map Prod.snd ++ added
  charged : ∀ accrual ∈ added, accrual.accruedPaise =
    roundedDiv (simpleRate rule inst * (accrual.days.2 - accrual.days.1)) (365 * 10000)
  within : ∀ accrual ∈ added, accrual.days.2 ≤ last

section Runs

variable {before : Db} {rule : InterestRule} {inst : Installment} {id bookingId : Nat} {last : Int}
  {dueDate : Date}

theorem Db.ChargedSince.accrueInstallment {after : Db} {added : List InterestAccrual}
    (charged : before.ChargedSince rule inst id last after added)
    (simple : rule.rateType = .simple) (found : before.installments.find? id = some inst)
    {asOf : Date} (inTime : dayOf asOf ≤ last) {row : Nat × Installment} {date : Date}
    (listed : before.installments.find? row.1 = some row.2) (due : row.2.dueDate = some date) :
    ∃ added, before.ChargedSince rule inst id last
      (OpenEstate.accrueInstallment rule bookingId asOf after row) added := by
  have present : after.installments.find? row.1 = some row.2 := by
    rw [charged.installments, listed]
  have kept := charged.windowed.accrue rule bookingId asOf present due
  have installments := accrueInstallment_installments rule bookingId asOf after row
  have bookings := accrueInstallment_bookings rule bookingId asOf after row
  by_cases accrues : after.accrues rule asOf row
  · by_cases own : row.1 = id
    · have same : row.2 = inst := by
        rw [own, found] at listed
        exact (Option.some.inj listed).symm
      have days := charged.windowed.uncharged present due asOf
      have tiles := charged.windowed.tiles present due
      let accrual : InterestAccrual :=
        { bookingId
          installmentId := row.1
          periodStart := after.accrualCursor row.1 (row.2.dueDate.getD asOf)
          periodEnd := toUtcMidnight asOf
          principalPaise := after.interestBase rule row
          accruedPaise := after.newInterest rule asOf row
          ledgerEntryId := after.ledger.nextId }
      have window : accrual.days = (endOf (dayOf date) (after.windows row.1), dayOf asOf) := by
        show (dayOf (after.accrualCursor row.1 (row.2.dueDate.getD asOf)),
          dayOf (toUtcMidnight asOf)) = _
        rw [due, dayOf_toUtcMidnight, Option.getD_some, dayOf_accrualCursor tiles]
      refine ⟨added ++ [accrual], kept, installments.trans charged.installments,
        bookings.trans charged.bookings, ?_, ?_, ?_⟩
      · rw [← List.append_assoc, ← charged.accruals]
        unfold OpenEstate.accrueInstallment
        rw [if_pos accrues, priorAccruals_addAccrual, if_pos own, List.map_append]
        rfl
      · refine List.forall_mem_append.mpr ⟨charged.charged, List.forall_mem_singleton.mpr ?_⟩
        show after.newInterest rule asOf row = _
        rw [Db.newInterest, interestBase_simple simple, days, window, same]
        rfl
      · refine List.forall_mem_append.mpr ⟨charged.within, List.forall_mem_singleton.mpr ?_⟩
        rw [window]
        exact inTime
    · refine ⟨added, kept, installments.trans charged.installments,
        bookings.trans charged.bookings, ?_, charged.charged, charged.within⟩
      rw [← charged.accruals]
      unfold OpenEstate.accrueInstallment
      rw [if_pos accrues, priorAccruals_addAccrual]
      show List.map Prod.snd (after.priorAccruals id ++ (if row.1 = id then _ else [])) = _
      rw [if_neg own, List.append_nil]
  · refine ⟨added, ?_⟩
    unfold OpenEstate.accrueInstallment
    rw [if_neg accrues]
    exact charged

theorem Db.ChargedSince.accrueForBooking {after later : Db} {added : List InterestAccrual}
    (charged : before.ChargedSince rule inst id last after added)
    (simple : rule.rateType = .simple) (found : before.installments.find? id = some inst)
    {booking : Booking} {masters : Masters} (sold : before.bookings.find? bookingId = some booking)
    (ruled : booking.interestRuleId.bind masters.interestRules = some rule)
    {asOf : Date} (inTime : dayOf asOf ≤ last)
    (accepted : OpenEstate.accrueForBooking masters bookingId (some asOf) after = .ok later) :
    ∃ added, before.ChargedSince rule inst id last later added := by
  have fold : ∀ (rows : List (Nat × Installment)) (db : Db) (added : List InterestAccrual),
      before.ChargedSince rule inst id last db added →
      (∀ row ∈ rows, before.installments.find? row.1 = some row.2 ∧
        ∃ date, row.2.dueDate = some date) →
      ∃ added, before.ChargedSince rule inst id last
        (rows.foldl (OpenEstate.accrueInstallment rule bookingId asOf) db) added := by
    intro rows
    induction rows with
    | nil => exact fun db added charged _ => ⟨added, charged⟩
    | cons row rest ih =>
      intro db added charged listed
      obtain ⟨⟨present, date, due⟩, others⟩ := List.forall_mem_cons.mp listed
      have stepped : ∃ next, before.ChargedSince rule inst id last
          (OpenEstate.accrueInstallment rule bookingId asOf db row) next :=
        charged.accrueInstallment simple found inTime present due
      obtain ⟨next, charged⟩ := stepped
      exact ih _ next charged others
  obtain ⟨sameBooking, there, ⟨none, rfl⟩ | ⟨sameRule, named, rfl⟩⟩ :=
    accrueForBooking_eq_ok accepted
  · exact ⟨added, charged⟩
  · rw [charged.bookings, sold] at there
    cases there
    rw [ruled] at named
    cases named
    refine fold _ after added charged fun row member => ?_
    obtain ⟨present, _, _, date, due, _⟩ := mem_overdue.mp member
    rw [charged.installments] at present
    exact ⟨present, date, due⟩

end Runs

/-! ### Schedules -/

def accrualRuns (masters : Masters) (bookingId : Nat) (dates : List Date) : List Request :=
  dates.map fun asOf => ⟨masters, .accrueForBooking bookingId (some asOf)⟩

def EndOn (dates : List Date) (day : Int) : Prop :=
  (∃ asOf ∈ dates, dayOf asOf = day) ∧ ∀ asOf ∈ dates, dayOf asOf ≤ day

/-- Simple interest on what is owed on an installment, to the last fraction of a paisa. -/
def simpleInterest (rule : InterestRule) (inst : Installment) (days : Int) : ℚ :=
  (inst.outstandingPaise : ℚ) * rule.rateBasisPoints * (max 0 days : Int) / (10000 * 365)

def Db.postedSince (before : Db) (id : Nat) (after : Db) : Int :=
  after.interestPosted id - before.interestPosted id

/-- **What runs up to a day come to**, for one installment: the accruals they posted are for windows
that adjoin one another, the first from where the earlier ones end; all together they are the
interest up to that day, but for half a paisa each and what the window still open carries; and that
is less than half a paisa. -/
structure Db.InterestUpTo (before : Db) (rule : InterestRule) (inst : Installment) (id : Nat)
    (dueDate : Date) (day : Int) (after : Db) (added : List InterestAccrual) : Prop where
  accruals : (after.priorAccruals id).map Prod.snd = (before.priorAccruals id).map Prod.snd ++ added
  tiles : Tiles (before.chargedUpTo id dueDate) (added.map (·.days))
  charged : ∀ accrual ∈ added, accrual.accruedPaise =
    roundedDiv (simpleRate rule inst * (accrual.days.2 - accrual.days.1)) (365 * 10000)
  posted : before.postedSince id after = (added.map (·.accruedPaise)).sum
  near : |(before.postedSince id after : ℚ) -
      simpleInterest rule inst (day - before.chargedUpTo id dueDate)| ≤
    added.length / 2 + simpleInterest rule inst (day - after.chargedUpTo id dueDate)
  carried : simpleInterest rule inst (day - after.chargedUpTo id dueDate) < 1 / 2

section Schedules

variable {before after : Db} {masters : Masters} {booking : Booking} {rule : InterestRule}
  {id : Nat} {inst : Installment} {dueDate : Date} {day : Int} {dates : List Date}
  {added : List InterestAccrual}

theorem chargedSince_accrualRuns (windowed : before.Windowed) (simple : rule.rateType = .simple)
    (found : before.installments.find? id = some inst)
    (sold : before.bookings.find? inst.bookingId = some booking)
    (ruled : booking.interestRuleId.bind masters.interestRules = some rule)
    (inTime : ∀ asOf ∈ dates, dayOf asOf ≤ day) :
    ∃ added, before.ChargedSince rule inst id day
      (run exec before (accrualRuns masters inst.bookingId dates)) added := by
  have runs : ∀ request ∈ accrualRuns masters inst.bookingId dates, ∃ asOf, dayOf asOf ≤ day ∧
      request = ⟨masters, .accrueForBooking inst.bookingId (some asOf)⟩ := by
    intro request member
    obtain ⟨asOf, listed, rfl⟩ := List.mem_map.mp member
    exact ⟨asOf, inTime asOf listed, rfl⟩
  have stepped : ∀ request earlier later, (∃ asOf, dayOf asOf ≤ day ∧
      request = ⟨masters, .accrueForBooking inst.bookingId (some asOf)⟩) →
      (∃ added, before.ChargedSince rule inst id day earlier added) →
      exec request earlier = .ok later →
      ∃ added, before.ChargedSince rule inst id day later added := by
    rintro request earlier later ⟨asOf, early, rfl⟩ ⟨added, charged⟩ accepted
    exact charged.accrueForBooking simple found sold ruled early accepted
  have nothing : ∃ added, before.ChargedSince rule inst id day before added := by
    refine ⟨[], windowed, rfl, rfl, ?_, ?_, ?_⟩
    · rw [List.append_nil]
    · exact fun _ impossible => absurd impossible List.not_mem_nil
    · exact fun _ impossible => absurd impossible List.not_mem_nil
  exact run_invariant runs stepped nothing

theorem settled_accrualRuns (windowed : before.Windowed) (simple : rule.rateType = .simple)
    (found : before.installments.find? id = some inst)
    (sold : before.bookings.find? inst.bookingId = some booking)
    (ruled : booking.interestRuleId.bind masters.interestRules = some rule)
    (inTime : ∀ asOf ∈ dates, dayOf asOf ≤ day) {asOf : Date} (listed : asOf ∈ dates) :
    (run exec before (accrualRuns masters inst.bookingId dates)).Settled masters inst.bookingId
      asOf := by
  obtain ⟨earlier, later, rfl⟩ := List.append_of_mem listed
  have reached : ∃ added, before.ChargedSince rule inst id day
      (run exec before (accrualRuns masters inst.bookingId earlier)) added :=
    chargedSince_accrualRuns windowed simple found sold ruled fun date member =>
      inTime date (List.mem_append_left _ member)
  obtain ⟨_, charged⟩ := reached
  have split : accrualRuns masters inst.bookingId (earlier ++ asOf :: later) =
      accrualRuns masters inst.bookingId earlier ++
        ⟨masters, .accrueForBooking inst.bookingId (some asOf)⟩ ::
          accrualRuns masters inst.bookingId later := by
    rw [accrualRuns, List.map_append, List.map_cons]
    rfl
  rw [split, run_append]
  generalize run exec before (accrualRuns masters inst.bookingId earlier) = middle at charged ⊢
  obtain ⟨next, accepted⟩ : ∃ next,
      accrueForBooking masters inst.bookingId (some asOf) middle = .ok next := by
    rw [← charged.bookings] at sold
    unfold accrueForBooking
    simp only [sold, orThrow, bind, Except.bind, ruled]
    exact ⟨_, rfl⟩
  have step : exec ⟨masters, .accrueForBooking inst.bookingId (some asOf)⟩ middle = .ok next :=
    accepted
  have ran : run exec middle (⟨masters, .accrueForBooking inst.bookingId (some asOf)⟩ ::
      accrualRuns masters inst.bookingId later) =
      run exec next (accrualRuns masters inst.bookingId later) := by
    rw [run, step]
  rw [ran]
  refine (settled_of_accrueForBooking charged.windowed accepted).stays
    (charged.windowed.step step).1 fun request member => ?_
  obtain ⟨date, _, rfl⟩ := List.mem_map.mp member
  exact Or.inr ⟨rfl, inst.bookingId, some date, rfl⟩

theorem roundedDiv_nonpos_of_settled (charged : before.ChargedSince rule inst id day after added)
    (simple : rule.rateType = .simple) (found : before.installments.find? id = some inst)
    (active : inst.isActive = true) (due : inst.dueDate = some dueDate)
    (owes : 0 < inst.outstandingPaise)
    (sold : before.bookings.find? inst.bookingId = some booking)
    (ruled : booking.interestRuleId.bind masters.interestRules = some rule) {asOf : Date}
    (settled : after.Settled masters inst.bookingId asOf)
    (ahead : 0 < dayOf asOf - after.chargedUpTo id dueDate) :
    roundedDiv (simpleRate rule inst * (dayOf asOf - after.chargedUpTo id dueDate))
      (365 * 10000) ≤ 0 := by
  have present : after.installments.find? id = some inst := by rw [charged.installments, found]
  have before : dayOf dueDate ≤ after.chargedUpTo id dueDate :=
    (charged.windowed.tiles present due).le_endOf
  have overdue : (id, inst) ∈ after.overdue inst.bookingId asOf := by
    refine mem_overdue.mpr ⟨present, rfl, active, dueDate, due, ?_⟩
    have earlier : dueDate / dayMs < dayOf asOf := by
      show dayOf dueDate < dayOf asOf
      omega
    exact (Int.ediv_lt_iff_lt_mul (by decide)).mp earlier
  obtain ⟨sameBooking, there, quiet⟩ := settled
  rw [charged.bookings, sold] at there
  cases there
  have days : after.uncharged asOf (id, inst) = dayOf asOf - after.chargedUpTo id dueDate :=
    charged.windowed.uncharged present due asOf
  by_contra positive
  refine quiet rule ruled (id, inst) overdue ⟨owes, ?_, ?_⟩
  · rw [days]
    exact ahead
  · rw [Db.newInterest, interestBase_simple simple, days]
    exact not_le.mp positive

theorem open_lt_half (charged : before.ChargedSince rule inst id day after added)
    (simple : rule.rateType = .simple) (found : before.installments.find? id = some inst)
    (active : inst.isActive = true) (due : inst.dueDate = some dueDate)
    (owed : 0 ≤ inst.outstandingPaise)
    (sold : before.bookings.find? inst.bookingId = some booking)
    (ruled : booking.interestRuleId.bind masters.interestRules = some rule) {asOf : Date}
    (settled : after.Settled masters inst.bookingId asOf) :
    simpleInterest rule inst (dayOf asOf - after.chargedUpTo id dueDate) < 1 / 2 := by
  have small : 2 * (simpleRate rule inst * max 0 (dayOf asOf - after.chargedUpTo id dueDate)) <
      365 * 10000 := by
    rcases le_or_gt (dayOf asOf - after.chargedUpTo id dueDate) 0 with none | ahead
    · rw [max_eq_left none, mul_zero]
      decide
    · rcases owed.eq_or_lt with nothing | owes
      · rw [simpleRate, ← nothing, zero_mul, zero_mul]
        decide
      · rw [max_eq_right ahead.le]
        have nothing := roundedDiv_nonpos_of_settled charged simple found active due owes sold ruled
          settled ahead
        have rateNonneg : 0 ≤ simpleRate rule inst := mul_nonneg owed (Int.natCast_nonneg _)
        exact two_mul_lt_of_roundedDiv_nonpos (mul_nonneg rateNonneg ahead.le) (by decide) nothing
  have cast : (2 : ℚ) * (inst.outstandingPaise * rule.rateBasisPoints *
      (max 0 (dayOf asOf - after.chargedUpTo id dueDate) : Int)) < 365 * 10000 := by
    unfold simpleRate at small
    exact_mod_cast small
  rw [simpleInterest, div_lt_iff₀ (by norm_num)]
  linarith

theorem tiles_of_chargedSince (charged : before.ChargedSince rule inst id day after added)
    (found : before.installments.find? id = some inst) (due : inst.dueDate = some dueDate) :
    Tiles (before.chargedUpTo id dueDate) (added.map (·.days)) ∧
      after.chargedUpTo id dueDate =
        endOf (before.chargedUpTo id dueDate) (added.map (·.days)) := by
  have windows : ∀ db : Db, db.windows id =
      ((db.priorAccruals id).map Prod.snd).map InterestAccrual.days := by
    intro db
    rw [List.map_map]
    rfl
  have grown : after.windows id = before.windows id ++ added.map (·.days) := by
    rw [windows, windows, charged.accruals, List.map_append]
  have tiles := charged.windowed.tiles (by rw [charged.installments, found]) due
  rw [grown] at tiles
  refine ⟨(tiles_append.mp tiles).2, ?_⟩
  rw [Db.chargedUpTo, grown, endOf_append]
  rfl

theorem postedSince_eq (windowed : before.Windowed)
    (charged : before.ChargedSince rule inst id day after added) :
    before.postedSince id after = (added.map (·.accruedPaise)).sum := by
  have accrued : ∀ db : Db, db.accruedOn id =
      (((db.priorAccruals id).map Prod.snd).map InterestAccrual.accruedPaise).sum := by
    intro db
    rw [List.map_map]
    rfl
  rw [Db.postedSince, charged.windowed.posted, windowed.posted, accrued, accrued,
    charged.accruals, List.map_append, List.sum_append]
  ring

theorem days_of_chargedSince (charged : before.ChargedSince rule inst id day after added)
    (found : before.installments.find? id = some inst) (due : inst.dueDate = some dueDate) :
    max 0 (day - before.chargedUpTo id dueDate) - max 0 (day - after.chargedUpTo id dueDate) =
      after.chargedUpTo id dueDate - before.chargedUpTo id dueDate := by
  obtain ⟨tiles, ends⟩ := tiles_of_chargedSince charged found due
  have grows : before.chargedUpTo id dueDate ≤ after.chargedUpTo id dueDate := by
    rw [ends]
    exact tiles.le_endOf
  have within : after.chargedUpTo id dueDate ≤ day ∨
      after.chargedUpTo id dueDate = before.chargedUpTo id dueDate := by
    rcases List.eq_nil_or_concat' added with none | ⟨earlier, last, rfl⟩
    · right
      rw [ends, none]
      rfl
    · left
      rw [ends, List.map_append, List.map_singleton, endOf_append_singleton]
      exact charged.within last List.mem_concat_self
  omega

theorem interest_of_chargedSince (charged : before.ChargedSince rule inst id day after added)
    (found : before.installments.find? id = some inst) (due : inst.dueDate = some dueDate) :
    simpleInterest rule inst (day - before.chargedUpTo id dueDate) -
        simpleInterest rule inst (day - after.chargedUpTo id dueDate) =
      simpleRate rule inst * ((after.chargedUpTo id dueDate : ℚ) -
        before.chargedUpTo id dueDate) / (365 * 10000) := by
  have cast : ((max 0 (day - before.chargedUpTo id dueDate) : Int) : ℚ) -
      (max 0 (day - after.chargedUpTo id dueDate) : Int) =
        (after.chargedUpTo id dueDate : ℚ) - before.chargedUpTo id dueDate := by
    exact_mod_cast days_of_chargedSince charged found due
  rw [← cast, simpleInterest, simpleInterest, simpleRate]
  push_cast
  ring

/-- What was posted and what is still open come to the interest of all the days, but for half a
paisa an accrual. -/
theorem near_of_chargedSince (charged : before.ChargedSince rule inst id day after added)
    (found : before.installments.find? id = some inst) (due : inst.dueDate = some dueDate)
    (owed : 0 ≤ inst.outstandingPaise) :
    |(((added.map (·.accruedPaise)).sum : Int) : ℚ) -
        (simpleInterest rule inst (day - before.chargedUpTo id dueDate) -
          simpleInterest rule inst (day - after.chargedUpTo id dueDate))| ≤ added.length / 2 := by
  obtain ⟨tiles, ends⟩ := tiles_of_chargedSince charged found due
  have rateNonneg : 0 ≤ simpleRate rule inst := mul_nonneg owed (Int.natCast_nonneg _)
  have charges : added.map (·.accruedPaise) = (added.map (·.days)).map fun window =>
      roundedDiv (simpleRate rule inst * (window.2 - window.1)) (365 * 10000) := by
    rw [List.map_map]
    exact List.map_congr_left charged.charged
  obtain ⟨upper, lower⟩ := sum_rounded_of_tiles rateNonneg (by decide : (0 : Int) < 365 * 10000) tiles
  rw [← charges, ← ends, List.length_map] at upper lower
  have upper : (2 : ℚ) * (365 * 10000 * ((added.map (·.accruedPaise)).sum : Int) -
      simpleRate rule inst * ((after.chargedUpTo id dueDate : ℚ) -
        before.chargedUpTo id dueDate)) ≤ 365 * 10000 * added.length := by
    exact_mod_cast upper
  have lower : -(365 * 10000 * (added.length : ℚ)) ≤
      2 * (365 * 10000 * ((added.map (·.accruedPaise)).sum : Int) -
        simpleRate rule inst * ((after.chargedUpTo id dueDate : ℚ) -
          before.chargedUpTo id dueDate)) := by
    exact_mod_cast lower
  rw [interest_of_chargedSince charged found due, abs_le]
  constructor
  · rw [neg_le_sub_iff_le_add, div_le_iff₀ (by norm_num)]
    linarith
  · rw [sub_le_iff_le_add', ← sub_le_iff_le_add, le_div_iff₀ (by norm_num)]
    linarith

theorem interestUpTo_accrualRuns (reachable : ReachableDb before)
    (simple : rule.rateType = .simple) (found : before.installments.find? id = some inst)
    (active : inst.isActive = true) (due : inst.dueDate = some dueDate)
    (sold : before.bookings.find? inst.bookingId = some booking)
    (ruled : booking.interestRuleId.bind masters.interestRules = some rule)
    (ends : EndOn dates day) :
    ∃ added, before.InterestUpTo rule inst id dueDate day
      (run exec before (accrualRuns masters inst.bookingId dates)) added := by
  obtain ⟨⟨asOf, listed, rfl⟩, inTime⟩ := ends
  have windowed := ReachableDb.windowed reachable
  have owed : 0 ≤ inst.outstandingPaise :=
    sub_nonneg.mpr (installment_cache_agrees reachable found).2.1
  obtain ⟨added, charged⟩ := chargedSince_accrualRuns windowed simple found sold ruled inTime
  have settled := settled_accrualRuns windowed simple found sold ruled inTime listed
  have posted := postedSince_eq windowed charged
  refine ⟨added, charged.accruals, (tiles_of_chargedSince charged found due).1, charged.charged,
    posted, ?_, open_lt_half charged simple found active due owed sold ruled settled⟩
  have near := near_of_chargedSince charged found due owed
  have openNonneg : 0 ≤ simpleInterest rule inst (dayOf asOf -
      (run exec before (accrualRuns masters inst.bookingId dates)).chargedUpTo id dueDate) := by
    have amount : (0 : ℚ) ≤ inst.outstandingPaise := by exact_mod_cast owed
    have days : (0 : ℚ) ≤ (max 0 (dayOf asOf -
        (run exec before (accrualRuns masters inst.bookingId dates)).chargedUpTo id dueDate) :
          Int) := by
      exact_mod_cast le_max_left _ _
    exact div_nonneg (mul_nonneg (mul_nonneg amount (Nat.cast_nonneg _)) days) (by norm_num)
  rw [posted]
  rw [abs_le] at near ⊢
  constructor
  · linarith [near.1]
  · linarith [near.2]

end Schedules

/-- **Simple interest does not depend on how often it is run.** Take an installment of a booking with
a rule of simple interest, in any state a run of the core can reach, and two schedules of accrual
runs that end on the same day. What each posts is the interest on the outstanding amount up to that
day, but for half a paisa for each accrual and for what its open window carries; no window is left
out, however many runs rounded to nothing; and so the two differ by no more than that. -/
theorem simple_interest_schedule {db : Db} (reachable : ReachableDb db) {masters : Masters}
    {booking : Booking} {rule : InterestRule} {id : Nat} {inst : Installment} {dueDate : Date}
    (simple : rule.rateType = .simple) (found : db.installments.find? id = some inst)
    (active : inst.isActive = true) (due : inst.dueDate = some dueDate)
    (sold : db.bookings.find? inst.bookingId = some booking)
    (ruled : booking.interestRuleId.bind masters.interestRules = some rule) {day : Int}
    {first second : List Date} (firstEnds : EndOn first day) (secondEnds : EndOn second day) :
    let afterFirst := run exec db (accrualRuns masters inst.bookingId first)
    let afterSecond := run exec db (accrualRuns masters inst.bookingId second)
    ∃ addedFirst addedSecond,
      db.InterestUpTo rule inst id dueDate day afterFirst addedFirst ∧
      db.InterestUpTo rule inst id dueDate day afterSecond addedSecond ∧
      |((db.postedSince id afterFirst - db.postedSince id afterSecond : Int) : ℚ)| ≤
        (addedFirst.length + addedSecond.length) / 2 + 1 := by
  obtain ⟨addedFirst, one⟩ := interestUpTo_accrualRuns reachable simple found active due sold ruled
    firstEnds
  obtain ⟨addedSecond, other⟩ := interestUpTo_accrualRuns reachable simple found active due sold
    ruled secondEnds
  refine ⟨addedFirst, addedSecond, one, other, ?_⟩
  have nearOne := abs_le.mp one.near
  have nearOther := abs_le.mp other.near
  have carriedOne := one.carried
  have carriedOther := other.carried
  push_cast
  rw [abs_le]
  constructor <;> linarith

def smallRuled : Db := run exec {} (smallSale ++ [⟨{}, .setInterestRule 0 (some 0)⟩])

/-- Three daily runs, of which the first rounds to nothing, and one run for the three days. -/
theorem simple_interest_schedule_daily :
    ∃ rule inst addedFirst addedSecond,
      smallRuled.InterestUpTo rule inst 0 0 3
        (run exec smallRuled (accrualRuns smallInterest 0 [addDays 0 1, addDays 0 2, addDays 0 3]))
        addedFirst ∧
      smallRuled.InterestUpTo rule inst 0 0 3
        (run exec smallRuled (accrualRuns smallInterest 0 [addDays 0 3])) addedSecond := by
  have reachable : ReachableDb smallRuled := reachable_run _ _
  have dailyEnds : EndOn [addDays 0 1, addDays 0 2, addDays 0 3] 3 := by
    unfold EndOn
    decide
  have onceEnds : EndOn [addDays 0 3] 3 := by
    unfold EndOn
    decide
  have ruled : some (0 : Nat) >>= smallInterest.interestRules = some _ := rfl
  have found : smallRuled.installments.find? 0 = some _ := rfl
  obtain ⟨addedFirst, addedSecond, daily, once, _⟩ := simple_interest_schedule reachable rfl found
    rfl rfl rfl ruled dailyEnds onceEnds
  exact ⟨_, _, addedFirst, addedSecond, daily, once⟩

end OpenEstate
