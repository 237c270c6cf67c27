/-
**The schedule of a booking.**

A booking has at most one active plan, every installment belongs to an active plan of its own
booking, and the installments of an active plan add up to the agreed price and have different
numbers (`Db.Planned`, and for one booking `active_schedule_sums_to_price`). Plans
are created and edited so that this stays true; receipts move what is allocated to installments and
nothing else of them, which `Table.Rewritten` says once for all other operations.
-/

import OpenEstate.Postsales.Sound

namespace OpenEstate

open Relational

def Books.scheduledOn (books : Books) (planId : Nat) : Int :=
  books.installments.sum fun _ inst => if inst.planId = planId then inst.amountPaise else 0

structure Db.Planned (db : Db) : Prop where
  booked : ∀ id plan, db.plans.find? id = some plan → db.hasBooking plan.bookingId
  one : ∀ first second plan other, db.plans.find? first = some plan →
    db.plans.find? second = some other → plan.isActive = true → other.isActive = true →
    plan.bookingId = other.bookingId → first = second
  home : ∀ id inst, db.installments.find? id = some inst → ∃ plan,
    db.plans.find? inst.planId = some plan ∧ plan.isActive = true ∧ plan.bookingId = inst.bookingId
  total : ∀ id plan booking, db.plans.find? id = some plan → plan.isActive = true →
    db.bookings.find? plan.bookingId = some booking →
    db.scheduledOn id = booking.agreedPricePaise
  numbered : ∀ first second inst other, db.installments.find? first = some inst →
    db.installments.find? second = some other → inst.planId = other.planId →
    inst.seq = other.seq → first = second

theorem planned_empty : ({} : Db).Planned where
  booked := by rintro id plan ⟨⟩
  one := by rintro first second plan other ⟨⟩
  home := by rintro id inst ⟨⟩
  total := by rintro id plan booking ⟨⟩
  numbered := by rintro first second inst other ⟨⟩

/-! ### Dropping the plans of a booking -/

theorem foldlM_deactivatePlan {rows : List (Nat × PaymentPlan)} {db cleared : Db}
    (accepted : rows.foldlM (fun db row => deactivatePlan db row.1) db = .ok cleared) :
    cleared.installments =
        db.installments.delete (fun _ inst => decide (inst.planId ∈ rows.map Prod.fst)) ∧
      cleared.plans.nextId = db.plans.nextId ∧
      ∀ id, cleared.plans.find? id = (db.plans.find? id).map fun plan =>
        if id ∈ rows.map Prod.fst then { plan with isActive := false } else plan := by
  induction rows generalizing db with
  | nil =>
    rw [List.foldlM_nil, pure_eq_ok] at accepted
    subst accepted
    refine ⟨(Table.delete_eq_self fun _ _ _ => by simp).symm, rfl, fun id => ?_⟩
    simp
  | cons row rest ih =>
    rw [List.foldlM_cons, bind_eq_ok] at accepted
    obtain ⟨middle, first, later⟩ := accepted
    obtain ⟨_, rfl⟩ := deactivatePlan_eq_ok first
    obtain ⟨installments, nextId, plans⟩ := ih later
    refine ⟨?_, nextId, fun id => ?_⟩
    · rw [installments]
      show (db.installments.delete fun _ inst => decide (inst.planId = row.1)).delete
        (fun _ inst => decide (inst.planId ∈ rest.map Prod.fst)) = _
      rw [Table.delete_delete]
      congr 1
      funext _ inst
      by_cases same : inst.planId = row.1 <;> simp [same]
    · rw [plans]
      show Option.map _ ((db.plans.modify row.1 _).find? id) = _
      rw [Table.find?_modify]
      by_cases same : id = row.1
      · rw [if_pos same, Option.map_map]
        congr 1
        funext plan
        simp [same]
      · rw [if_neg same]
        simp only [List.map_cons, List.mem_cons, same, false_or]

/-- **Once the plans of a booking are dropped**, no active plan of it is left, the plans of other
bookings are as they were, and so are their installments. -/
structure Db.PlansDropped (db : Db) (bookingId : Nat) (cleared : Db) : Prop where
  nextId : cleared.plans.nextId = db.plans.nextId
  active : ∀ id plan, cleared.plans.find? id = some plan → plan.isActive = true →
    db.plans.find? id = some plan ∧ plan.bookingId ≠ bookingId
  booked : ∀ id plan, cleared.plans.find? id = some plan →
    ∃ before, db.plans.find? id = some before ∧ before.bookingId = plan.bookingId
  stays : ∀ id plan, db.plans.find? id = some plan → plan.isActive = true →
    plan.bookingId ≠ bookingId → cleared.plans.find? id = some plan
  installments : ∀ id inst, cleared.installments.find? id = some inst →
    db.installments.find? id = some inst ∧ ∀ plan, db.plans.find? inst.planId = some plan →
      plan.isActive = true → plan.bookingId ≠ bookingId
  scheduled : ∀ id plan, db.plans.find? id = some plan → plan.bookingId ≠ bookingId →
    cleared.scheduledOn id = db.scheduledOn id

variable {bookingId : Nat}

theorem deactivateExistingPlans_dropped {db cleared : Db}
    (deactivated : deactivateExistingPlans bookingId db = .ok cleared) :
    db.PlansDropped bookingId cleared := by
  obtain ⟨installments, nextId, plans⟩ := foldlM_deactivatePlan deactivated
  have retired : ∀ id, id ∈ (db.plans.select fun _ plan =>
      plan.bookingId = bookingId ∧ plan.isActive).map Prod.fst ↔
      ∃ plan, db.plans.find? id = some plan ∧ plan.bookingId = bookingId ∧
        plan.isActive = true := by
    intro id
    constructor
    · intro listed
      obtain ⟨⟨key, plan⟩, selected, rfl⟩ := List.mem_map.mp listed
      obtain ⟨found, kept⟩ := Table.mem_select.mp selected
      exact ⟨plan, found, by simpa using kept⟩
    · rintro ⟨plan, found, own⟩
      exact List.mem_map.mpr ⟨(id, plan), Table.mem_select.mpr ⟨found, by simpa using own⟩, rfl⟩
  have kept : ∀ id plan, db.plans.find? id = some plan → plan.bookingId ≠ bookingId →
      ¬id ∈ (db.plans.select fun _ plan =>
        plan.bookingId = bookingId ∧ plan.isActive).map Prod.fst := by
    intro id plan found other listed
    obtain ⟨same, sameFound, own, _⟩ := (retired id).mp listed
    rw [found] at sameFound
    cases sameFound
    exact other own
  constructor
  case nextId => exact nextId
  case active =>
    intro id plan found active
    rw [plans] at found
    obtain ⟨before, present, rfl⟩ := Option.map_eq_some_iff.mp found
    split at active
    · cases active
    · rename_i unlisted
      rw [if_neg unlisted]
      exact ⟨present, fun own => unlisted ((retired id).mpr ⟨before, present, own, active⟩)⟩
  case booked =>
    intro id plan found
    rw [plans] at found
    obtain ⟨before, present, rfl⟩ := Option.map_eq_some_iff.mp found
    refine ⟨before, present, ?_⟩
    split <;> rfl
  case stays =>
    intro id plan found _ other
    rw [plans, found, Option.map_some, if_neg (kept id plan found other)]
  case installments =>
    intro id inst found
    rw [installments, Table.find?_delete, Option.filter_eq_some_iff] at found
    obtain ⟨present, unlisted⟩ := found
    refine ⟨present, fun plan planFound active own => ?_⟩
    simp only [Bool.not_eq_true', decide_eq_false_iff_not] at unlisted
    exact unlisted ((retired inst.planId).mpr ⟨plan, planFound, own, active⟩)
  case scheduled =>
    intro id plan found other
    unfold Books.scheduledOn
    rw [installments, Table.sum_delete]
    refine Table.sum_congr fun _ inst _ => ?_
    by_cases same : inst.planId = id
    · rw [same, if_pos rfl, if_neg]
      simpa using kept id plan found other
    · rw [if_neg same, ite_self]

/-! ### What the operations do to schedules -/

/-- **The same installment**, but for what is allocated to it and when it is due. -/
structure Installment.Same (inst after : Installment) : Prop where
  booking : after.bookingId = inst.bookingId
  plan : after.planId = inst.planId
  seq : after.seq = inst.seq
  amount : after.amountPaise = inst.amountPaise

theorem Installment.Same.refl (inst : Installment) : inst.Same inst := ⟨rfl, rfl, rfl, rfl⟩

theorem rewritten_bumpAll (installments : Table Installment) (deltas : List (Nat × Int)) :
    Table.Rewritten Installment.Same installments (bumpAll installments deltas) where
  keys := by
    induction deltas generalizing installments with
    | nil => rfl
    | cons delta rest ih =>
      show (bumpAll (installments.modify delta.1 _) rest).rows.map Prod.fst = _
      rw [ih, Table.keys_modify]
  rows := by
    intro id inst found
    obtain ⟨after, present, moved⟩ := find?_bumpAll_of_some deltas found
    exact ⟨after, present, moved.booking, moved.plan, moved.seq, moved.amount⟩

/-- **What an operation does to plans and installments**: nothing but rewrite installments in
place, or replace the plans of a booking, or replace installments of an active plan. -/
inductive Db.ScheduleStep (db after : Db) : Prop
  | kept (installments : Table.Rewritten Installment.Same db.installments after.installments)
    (plans : after.plans = db.plans)
  | planned {booking : Booking} {cleared : Db} {rows : List Installment} (plan : PaymentPlan)
    (found : db.bookings.find? plan.bookingId = some booking) (active : plan.isActive = true)
    (dropped : db.PlansDropped plan.bookingId cleared)
    (schedule : 0 ≤ booking.agreedPricePaise →
      IsSchedule rows plan.bookingId cleared.plans.nextId booking.agreedPricePaise)
    (installments : after.installments = cleared.installments.createMany rows)
    (plans : after.plans = cleared.plans.create plan)
  | edited {booking : Booking} {planId : Nat} {rows : List Installment} (plan : PaymentPlan)
    (found : db.bookings.find? plan.bookingId = some booking)
    (present : db.plans.find? planId = some plan) (active : plan.isActive = true)
    (schedule : IsSchedule rows plan.bookingId planId
      (booking.agreedPricePaise - db.frozenSum planId))
    (appended : ∀ id frozen, db.installments.find? id = some frozen → frozen.planId = planId →
      0 < frozen.allocatedPaise → ∀ inst ∈ rows, frozen.seq < inst.seq)
    (installments : after.installments = (db.installments.delete fun _ inst =>
      inst.planId = planId ∧ inst.allocatedPaise = 0).createMany rows)
    (plans : after.plans = db.plans)

theorem Effect.scheduleStep {request : Request} {db after : Db} (effect : Effect request db after) :
    db.ScheduleStep after := by
  have untouched : Table.Rewritten Installment.Same db.installments db.installments :=
    .refl Installment.Same.refl _
  cases effect with
  | @instantiateFromTemplate _ _ bookingId templateId _ _ _ found deactivated schedule =>
    exact .planned { bookingId, templateId := some templateId } found rfl (deactivateExistingPlans_dropped deactivated) schedule rfl rfl
  | @createCustomPlan _ _ bookingId _ _ _ _ found deactivated schedule =>
    exact .planned { bookingId } found rfl (deactivateExistingPlans_dropped deactivated) schedule rfl rfl
  | @editPlan _ _ bookingId _ booking plan rows found active unreferenced schedule appended =>
    obtain ⟨planId, plan⟩ := plan
    obtain ⟨present, kept⟩ := Table.findFirst?_eq_some active
    simp only [Bool.decide_and, Bool.decide_eq_true, Bool.and_eq_true, decide_eq_true_eq] at kept
    obtain ⟨rfl, isActive⟩ := kept
    exact .edited plan found present isActive schedule appended rfl rfl
  | @raiseStage _ _ projectId dto dueDate stageRaiseId _ stage =>
    have raised : Table.Rewritten Installment.Same db.installments
        (db.installments.modifyAll (fun _ => db.raises projectId dto) fun inst =>
          { inst with dueDate := some dueDate, stageRaiseId := some stageRaiseId }) :=
      .modifyAll Installment.Same.refl _ _ fun _ => ⟨rfl, rfl, rfl, rfl⟩
    rcases stage with rfl | ⟨stageRaise, rfl⟩
    · exact .kept raised rfl
    · exact .kept raised rfl
  | @createReceipt _ _ dto =>
    refine .kept ?_ rfl
    show Table.Rewritten Installment.Same db.installments (db.recordReceipt dto).installments
    rw [recordReceipt_installments]
    exact rewritten_bumpAll _ _
  | recordBounce => exact .kept (rewritten_bumpAll _ _) rfl
  | reverseReceipt => exact .kept (rewritten_bumpAll _ _) rfl
  | @voucherBounced _ _ _ voucher => cases voucher.refundId <;> exact .kept untouched rfl
  | _ => exact .kept untouched rfl

/-! ### Every operation keeps the schedules -/

theorem Effect.price_of_booked {request : Request} {db after : Db}
    (effect : Effect request db after) {booking : Booking} (booked : db.hasBooking bookingId)
    (found : after.bookings.find? bookingId = some booking) :
    ∃ before, db.bookings.find? bookingId = some before ∧
      booking.agreedPricePaise = before.agreedPricePaise := by
  rcases effect.bookings.price found with old | ⟨fresh, _⟩
  · exact old
  · exact absurd booked (by rw [fresh]; exact Nat.lt_irrefl _)

theorem sum_schedule {rows : List Installment} {planId : Nat} {total : Int}
    (schedule : IsSchedule rows bookingId planId total) (id : Nat) :
    (rows.map fun inst => if inst.planId = id then inst.amountPaise else 0).sum =
      if planId = id then total else 0 := by
  have ofPlan : (rows.map fun inst => if inst.planId = id then inst.amountPaise else 0) =
      rows.map fun inst => if planId = id then inst.amountPaise else 0 := by
    refine List.map_congr_left fun inst member => ?_
    rw [schedule.plan inst member]
  rw [ofPlan]
  by_cases same : planId = id
  · simp only [if_pos same]
    exact schedule.sum
  · simp [same]

/-- **Numbers stay distinct** when a schedule is added whose numbers come after those its plan
keeps. -/
theorem numbered_createMany {kept : Table Installment} {rows : List Installment} {planId : Nat}
    {total : Int} (schedule : IsSchedule rows bookingId planId total)
    (numbered : ∀ first second inst other, kept.find? first = some inst →
      kept.find? second = some other → inst.planId = other.planId → inst.seq = other.seq →
      first = second) (appended : ∀ id inst, kept.find? id = some inst → inst.planId = planId →
      ∀ row ∈ rows, inst.seq < row.seq) (first second : Nat) (inst other : Installment)
    (found : (kept.createMany rows).find? first = some inst)
    (otherFound : (kept.createMany rows).find? second = some other)
    (samePlan : inst.planId = other.planId) (sameSeq : inst.seq = other.seq) : first = second := by
  rcases Table.find?_createMany found with old | ⟨fresh, new⟩ <;>
    rcases Table.find?_createMany otherFound with otherOld | ⟨otherFresh, otherNew⟩
  · exact numbered first second inst other old otherOld samePlan sameSeq
  · have own : inst.planId = planId := samePlan.trans (schedule.plan other otherNew)
    exact absurd sameSeq (appended first inst old own other otherNew).ne
  · have own : other.planId = planId := samePlan.symm.trans (schedule.plan inst new)
    exact absurd sameSeq (appended second other otherOld own inst new).ne'
  · rcases Nat.lt_trichotomy first second with before | same | after
    · have smaller := Table.pairwise_createMany schedule.ascending fresh before found otherFound
      exact absurd sameSeq smaller.ne
    · exact same
    · have smaller := Table.pairwise_createMany schedule.ascending otherFresh after otherFound found
      exact absurd sameSeq smaller.ne'

theorem scheduledOn_edited {db : Db} (sound : db.Sound) (planId : Nat) :
    (db.installments.delete fun _ inst => inst.planId = planId ∧ inst.allocatedPaise = 0).sum
        (fun _ inst => if inst.planId = planId then inst.amountPaise else 0) =
      db.frozenSum planId := by
  unfold Books.frozenSum
  rw [Table.sum_delete, Table.sum_select db.installments _ fun _ inst => inst.amountPaise]
  refine Table.sum_congr fun id inst found => ?_
  have nonneg := (sound.books.cached id inst found).nonneg
  by_cases own : inst.planId = planId
  · by_cases unallocated : inst.allocatedPaise = 0
    · simp [own, unallocated]
    · have positive : 0 < inst.allocatedPaise := by omega
      simp [own, unallocated, positive]
  · simp [own]

section Planned

variable {request : Request} {db after : Db}

theorem Effect.planned_kept (effect : Effect request db after) (planned : db.Planned)
    (installments : Table.Rewritten Installment.Same db.installments after.installments)
    (plans : after.plans = db.plans) : after.Planned := by
  constructor
  case booked =>
    intro id plan found
    exact effect.hasBooking (planned.booked id plan (plans ▸ found))
  case one =>
    intro first second plan other found otherFound
    exact planned.one first second plan other (plans ▸ found) (plans ▸ otherFound)
  case home =>
    intro id inst found
    obtain ⟨before, present, same⟩ := installments.before found
    obtain ⟨plan, planFound, active, own⟩ := planned.home id before present
    exact ⟨plan, by rw [plans, same.plan, planFound], active, own.trans same.booking.symm⟩
  case total =>
    intro id plan booking found active bookingFound
    rw [plans] at found
    obtain ⟨before, present, samePrice⟩ :=
      effect.price_of_booked (planned.booked id plan found) bookingFound
    have scheduled : after.scheduledOn id = db.scheduledOn id := by
      refine installments.sum_eq fun _ inst later same => ?_
      rw [same.plan, same.amount]
    rw [scheduled, samePrice]
    exact planned.total id plan before found active present
  case numbered =>
    intro first second inst other found otherFound samePlan sameSeq
    obtain ⟨instBefore, instPresent, same⟩ := installments.before found
    obtain ⟨otherBefore, otherPresent, otherSame⟩ := installments.before otherFound
    rw [same.plan, otherSame.plan] at samePlan
    rw [same.seq, otherSame.seq] at sameSeq
    exact planned.numbered first second instBefore otherBefore instPresent otherPresent samePlan
      sameSeq

theorem Effect.planned_added (effect : Effect request db after) (planned : db.Planned)
    {booking : Booking} {cleared : Db} {rows : List Installment} {plan : PaymentPlan}
    (found : db.bookings.find? plan.bookingId = some booking) (active : plan.isActive = true)
    (dropped : db.PlansDropped plan.bookingId cleared)
    (shape : IsSchedule rows plan.bookingId cleared.plans.nextId booking.agreedPricePaise)
    (installments : after.installments = cleared.installments.createMany rows)
    (plans : after.plans = cleared.plans.create plan) : after.Planned := by
  have scheduled : ∀ id, after.scheduledOn id = cleared.scheduledOn id +
      if cleared.plans.nextId = id then booking.agreedPricePaise else 0 := by
    intro id
    unfold Books.scheduledOn
    rw [installments, Table.sum_createMany, sum_schedule shape]
  constructor
  case booked =>
    intro id other otherFound
    rw [plans] at otherFound
    rcases Table.find?_create_eq_some.mp otherFound with ⟨_, rfl⟩ | old
    · exact effect.hasBooking (Db.hasBooking_of_find? found)
    · obtain ⟨before, present, same⟩ := dropped.booked id other old
      exact effect.hasBooking (same ▸ planned.booked id before present)
  case one =>
    intro first second some other someFound otherFound someActive otherActive same
    rw [plans] at someFound otherFound
    rcases Table.find?_create_eq_some.mp someFound with ⟨rfl, rfl⟩ | old <;>
      rcases Table.find?_create_eq_some.mp otherFound with ⟨rfl, rfl⟩ | otherOld
    · rfl
    · exact absurd same.symm (dropped.active second other otherOld otherActive).2
    · exact absurd same (dropped.active first some old someActive).2
    · exact planned.one first second some other (dropped.active first some old someActive).1
        (dropped.active second other otherOld otherActive).1 someActive otherActive same
  case home =>
    intro id inst instFound
    rw [installments] at instFound
    rcases Table.find?_createMany instFound with old | ⟨_, new⟩
    · obtain ⟨present, other⟩ := dropped.installments id inst old
      obtain ⟨home, homeFound, homeActive, own⟩ := planned.home id inst present
      have stays := dropped.stays inst.planId home homeFound homeActive
        (other home homeFound homeActive)
      exact ⟨home, by rw [plans, Table.find?_create_old _ stays], homeActive, own⟩
    · refine ⟨plan, ?_, active, (shape.booking inst new).symm⟩
      rw [plans, shape.plan inst new, Table.find?_create_self]
  case total =>
    intro id other otherBooking otherFound otherActive bookingFound
    rw [plans] at otherFound
    rw [scheduled]
    rcases Table.find?_create_eq_some.mp otherFound with ⟨rfl, rfl⟩ | old
    · have none : cleared.scheduledOn cleared.plans.nextId = 0 := by
        refine Table.sum_eq_zero fun instId inst instFound => if_neg ?_
        obtain ⟨present, _⟩ := dropped.installments instId inst instFound
        obtain ⟨home, homeFound, _⟩ := planned.home instId inst present
        rw [dropped.nextId]
        exact (Table.lt_nextId homeFound).ne
      obtain ⟨before, present, samePrice⟩ :=
        effect.price_of_booked (Db.hasBooking_of_find? found) bookingFound
      rw [found] at present
      cases present
      rw [none, if_pos rfl, zero_add, samePrice]
    · obtain ⟨present, different⟩ := dropped.active id other old otherActive
      obtain ⟨before, bookingPresent, samePrice⟩ :=
        effect.price_of_booked (planned.booked id other present) bookingFound
      rw [if_neg (Table.lt_nextId old).ne', add_zero,
        dropped.scheduled id other present different, samePrice]
      exact planned.total id other before present otherActive bookingPresent
  case numbered =>
    -- the installments of earlier plans carry the numbers of earlier plans
    have earlier : ∀ id inst, cleared.installments.find? id = some inst →
        inst.planId ≠ cleared.plans.nextId := by
      intro id inst instFound
      obtain ⟨instPresent, _⟩ := dropped.installments id inst instFound
      obtain ⟨home, homeFound, _⟩ := planned.home id inst instPresent
      rw [dropped.nextId]
      exact (Table.lt_nextId homeFound).ne
    rw [installments]
    refine numbered_createMany shape (fun first second inst other instFound otherFound => ?_)
      fun id inst instFound own => absurd own (earlier id inst instFound)
    exact planned.numbered first second inst other
      (dropped.installments first inst instFound).1
      (dropped.installments second other otherFound).1

theorem Effect.planned_edited (effect : Effect request db after) (sound : db.Sound)
    (planned : db.Planned) {booking : Booking} {planId : Nat} {rows : List Installment}
    {plan : PaymentPlan} (found : db.bookings.find? plan.bookingId = some booking)
    (present : db.plans.find? planId = some plan) (active : plan.isActive = true)
    (schedule : IsSchedule rows plan.bookingId planId
      (booking.agreedPricePaise - db.frozenSum planId))
    (appended : ∀ id frozen, db.installments.find? id = some frozen → frozen.planId = planId →
      0 < frozen.allocatedPaise → ∀ inst ∈ rows, frozen.seq < inst.seq)
    (installments : after.installments = (db.installments.delete fun _ inst =>
      inst.planId = planId ∧ inst.allocatedPaise = 0).createMany rows)
    (plans : after.plans = db.plans) : after.Planned := by
  have scheduled : ∀ id, after.scheduledOn id = db.scheduledOn id := by
    intro id
    unfold Books.scheduledOn
    rw [installments, Table.sum_createMany, sum_schedule schedule]
    by_cases same : planId = id
    · subst same
      rw [if_pos rfl, scheduledOn_edited sound]
      have total : db.scheduledOn planId = booking.agreedPricePaise :=
        planned.total planId plan booking present active found
      unfold Books.scheduledOn at total
      omega
    · rw [if_neg same, add_zero, Table.sum_delete]
      refine Table.sum_congr fun _ inst _ => ?_
      by_cases own : inst.planId = id
      · have kept : inst.planId ≠ planId := fun equal => same (equal.symm.trans own)
        simp [kept]
      · simp [own]
  constructor
  case booked =>
    intro id other otherFound
    exact effect.hasBooking (planned.booked id other (plans ▸ otherFound))
  case one =>
    intro first second some other someFound otherFound
    exact planned.one first second some other (plans ▸ someFound) (plans ▸ otherFound)
  case home =>
    intro id inst instFound
    rw [installments] at instFound
    rw [plans]
    rcases Table.find?_createMany instFound with old | ⟨_, new⟩
    · rw [Table.find?_delete, Option.filter_eq_some_iff] at old
      exact planned.home id inst old.1
    · exact ⟨plan, by rw [schedule.plan inst new, present], active,
        (schedule.booking inst new).symm⟩
  case total =>
    intro id other otherBooking otherFound otherActive bookingFound
    rw [plans] at otherFound
    obtain ⟨before, bookingPresent, samePrice⟩ :=
      effect.price_of_booked (planned.booked id other otherFound) bookingFound
    rw [scheduled, samePrice]
    exact planned.total id other before otherFound otherActive bookingPresent
  case numbered =>
    rw [installments]
    refine numbered_createMany schedule (fun first second inst other instFound otherFound => ?_)
      fun id inst instFound own row member => ?_
    · rw [Table.find?_delete, Option.filter_eq_some_iff] at instFound otherFound
      exact planned.numbered first second inst other instFound.1 otherFound.1
    · rw [Table.find?_delete, Option.filter_eq_some_iff] at instFound
      obtain ⟨instPresent, kept⟩ := instFound
      have nonneg := (sound.books.cached id inst instPresent).nonneg
      simp only [own, true_and, Bool.not_eq_true', decide_eq_false_iff_not] at kept
      exact appended id inst instPresent own (by omega) row member

theorem Effect.planned (effect : Effect request db after) (sound : db.Sound)
    (planned : db.Planned) : after.Planned := by
  cases effect.scheduleStep with
  | kept installments plans => exact effect.planned_kept planned installments plans
  | planned plan found active dropped schedule installments plans =>
    exact effect.planned_added planned found active dropped
      (schedule (sound.grounded.price_nonneg _ _ found)) installments plans
  | edited plan found present active schedule appended installments plans =>
    exact effect.planned_edited sound planned found present active schedule appended installments
      plans

end Planned

theorem ReachableDb.planned {db : Db} (reachable : ReachableDb db) : db.Planned := by
  refine reachable.invariant_of_sound planned_empty ?_
  intro request before after sound planned accepted
  exact (exec_effect accepted).planned sound planned

/-! ### The active schedule -/

def Db.IsActivePlan (db : Db) (bookingId planId : Nat) : Prop :=
  ∃ plan, db.plans.find? planId = some plan ∧ plan.bookingId = bookingId ∧ plan.isActive = true

/-- **The active schedule of a booking**: one plan at most, installments that add up to the agreed
price and have different numbers, and no edit that reaches an installment with an allocation. -/
structure Db.ActiveSchedule (db : Db) (bookingId : Nat) (agreedPricePaise : Int) : Prop where
  one : ∀ first second, db.IsActivePlan bookingId first → db.IsActivePlan bookingId second →
    first = second
  total : ∀ planId, db.IsActivePlan bookingId planId → db.scheduledOn planId = agreedPricePaise
  numbered : ∀ planId, db.IsActivePlan bookingId planId → ∀ first second inst other,
    db.installments.find? first = some inst → db.installments.find? second = some other →
    inst.planId = planId → other.planId = planId → inst.seq = other.seq → first = second
  frozen : ∀ dto after, editPlan bookingId dto db = .ok after → ∀ id inst,
    db.installments.find? id = some inst → 0 < inst.allocatedPaise →
    after.installments.find? id = some inst

theorem editPlan_frozen {dto : CreatePaymentPlanDto} {db after : Db}
    (accepted : editPlan bookingId dto db = .ok after) {id : Nat} {inst : Installment}
    (found : db.installments.find? id = some inst) (allocated : 0 < inst.allocatedPaise) :
    after.installments.find? id = some inst := by
  obtain ⟨_, plan, rows, _, _, _, _, _, rfl⟩ := editPlan_eq_ok accepted
  refine Table.find?_createMany_old rows ?_
  show (db.installments.delete fun _ inst =>
    decide (inst.planId = plan.1 ∧ inst.allocatedPaise = 0)).find? id = some inst
  rw [Table.find?_delete, Option.filter_eq_some_iff]
  exact ⟨found, by simp [allocated.ne']⟩

/-- **In every reachable state every booking has a sound active schedule.** -/
theorem active_schedule_sums_to_price {db : Db} (reachable : ReachableDb db) {bookingId : Nat}
    {booking : Booking} (found : db.bookings.find? bookingId = some booking) :
    db.ActiveSchedule bookingId booking.agreedPricePaise := by
  have planned := ReachableDb.planned reachable
  constructor
  case one =>
    rintro first second ⟨plan, planFound, rfl, active⟩ ⟨other, otherFound, same, otherActive⟩
    exact planned.one first second plan other planFound otherFound active otherActive same.symm
  case total =>
    rintro planId ⟨plan, planFound, rfl, active⟩
    exact planned.total planId plan booking planFound active found
  case numbered =>
    rintro planId _ first second inst other instFound otherFound rfl same sameSeq
    exact planned.numbered first second inst other instFound otherFound same.symm sameSeq
  case frozen =>
    intro dto after accepted id inst instFound allocated
    exact editPlan_frozen accepted instFound allocated

/-- The sale, with 100 of its one installment over 1000 paid. -/
theorem active_schedule_sums_to_price_partlyPaid : partlyPaid.ActiveSchedule 0 1000 :=
  active_schedule_sums_to_price (reachable_run _ _)
    (rfl : partlyPaid.bookings.find? 0 = some _)

end OpenEstate
