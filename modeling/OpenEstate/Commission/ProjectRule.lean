/-
**Which rule a snapshot is computed from.**

A rule of the broker for the project comes before the general one. The project is that of the tower
of the unit's floor. A unit on land stands on no floor, and its booking is taken for one of no
project, whatever rule there is for it.

* `InventoryDb.towerProject` reads the project off the tables of inventory;
* `RightRule` says which rule a booking of a unit of a project ought to go by;
* `snapshot_rule_right_iff`: the snapshot goes by it exactly for the units of a high rise, and where
  there is no rule for the project.
-/

import OpenEstate.Commission.Accrual
import OpenEstate.Inventory.UniqueNumbers

namespace OpenEstate

open Relational
open Inventory (InventoryDb InventoryOp InventoryUnit InOrder)

/-! ### The project of a unit -/

def Inventory.InventoryDb.towerProject (inventory : InventoryDb) (companyId unitId : Nat) :
    Option Nat := do
  let unit ← (inventory.units.find? unitId).filter (·.companyId = companyId)
  let floor ← unit.floorId.bind inventory.floors.find?
  let tower ← inventory.towers.find? floor.towerId
  return tower.projectId

/-- **A unit of a high rise is found in its project, one on land in none.** -/
theorem towerProject_eq {inventory : InventoryDb} (order : InOrder inventory) {unitId : Nat}
    {unit : InventoryUnit} (found : inventory.units.find? unitId = some unit) :
    inventory.towerProject unit.companyId unitId =
      if unit.shape = .highRise then some unit.projectId else none := by
  have own : (inventory.units.find? unitId).filter (·.companyId = unit.companyId) = some unit := by
    rw [found, Option.filter_some, if_pos (decide_eq_true rfl)]
  have placed := order.unit unitId unit found
  unfold InventoryDb.Placed at placed
  unfold InventoryDb.towerProject
  rw [own]
  split at placed
  · rename_i floorId onFloor
    obtain ⟨floor, tower, there, standing, _, project, shape⟩ := placed
    rw [if_pos shape, ← project]
    simp [onFloor, there, standing]
  · rename_i noFloor
    obtain ⟨_, _, _, _, shape⟩ := placed
    rw [if_neg (by rw [shape]; decide)]
    simp [noFloor]

/-- The masters of the commission engine, with the units of a company where inventory has them. -/
def BrokerMasters.onInventory (masters : BrokerMasters) (inventory : InventoryDb)
    (companyId : Nat) : BrokerMasters :=
  { masters with towerProject := inventory.towerProject companyId }

/-! ### Rules -/

def BrokerCommissionRule.IsFor (rule : BrokerCommissionRule) (brokerId : Nat)
    (projectId : Option Nat) : Prop :=
  rule.brokerId = brokerId ∧ rule.projectId = projectId ∧ rule.isActive = true

def CommissionDb.HasRule (db : CommissionDb) (brokerId : Nat) (projectId : Option Nat) : Prop :=
  ∃ id rule, db.rules.find? id = some rule ∧ rule.IsFor brokerId projectId

/-- The rule that a booking of a unit of a project ought to go by: one for the project where there is
one, the general one otherwise, and none only if there is neither. -/
structure RightRule (db : CommissionDb) (brokerId projectId : Nat)
    (chosen : Option (Nat × BrokerCommissionRule)) : Prop where
  specific : db.HasRule brokerId (some projectId) → ∃ id rule, chosen = some (id, rule) ∧
    db.rules.find? id = some rule ∧ rule.IsFor brokerId (some projectId)
  general : ¬ db.HasRule brokerId (some projectId) → db.HasRule brokerId none →
    ∃ id rule, chosen = some (id, rule) ∧ db.rules.find? id = some rule ∧ rule.IsFor brokerId none
  neither : ¬ db.HasRule brokerId (some projectId) → ¬ db.HasRule brokerId none → chosen = none

def CommissionDb.applicableRule (db : CommissionDb) (brokerId : Nat) (projectId : Option Nat) :
    Option (Nat × BrokerCommissionRule) :=
  ((db.rules.findFirst? fun _ rule =>
      rule.brokerId = brokerId ∧ projectId.isSome ∧ rule.projectId = projectId ∧ rule.isActive).or
    (db.rules.findFirst? fun _ rule =>
      rule.brokerId = brokerId ∧ rule.projectId = none ∧ rule.isActive))

theorem findApplicableRule_run (brokerId : Nat) (projectId : Option Nat) (db : CommissionDb) :
    (BrokerCommissionRuleService.findApplicableRule brokerId projectId).run db =
      .ok (db.applicableRule brokerId projectId, db) := by
  unfold BrokerCommissionRuleService.findApplicableRule CommissionDb.applicableRule
  rw [Tx.run_read_bind]
  cases db.rules.findFirst? _ with
  | none => rfl
  | some rule => rfl

theorem findFirst?_isFor {db : CommissionDb} {brokerId : Nat} {projectId : Option Nat}
    {condition : Nat → BrokerCommissionRule → Bool}
    (meaning : ∀ id rule, condition id rule = true ↔ rule.IsFor brokerId projectId) :
    (∃ id rule, db.rules.findFirst? condition = some (id, rule) ∧
      db.rules.find? id = some rule ∧ rule.IsFor brokerId projectId) ∨
    (db.rules.findFirst? condition = none ∧ ¬ db.HasRule brokerId projectId) := by
  cases chosen : db.rules.findFirst? condition with
  | some row =>
    obtain ⟨found, holds⟩ := Table.findFirst?_eq_some chosen
    exact Or.inl ⟨row.1, row.2, rfl, found, (meaning _ _).mp holds⟩
  | none =>
    refine Or.inr ⟨rfl, ?_⟩
    rintro ⟨id, rule, found, isFor⟩
    have fails := Table.findFirst?_eq_none.mp chosen id rule found
    rw [(meaning id rule).mpr isFor] at fails
    cases fails

theorem findFirst?_general (db : CommissionDb) (brokerId : Nat) :
    (∃ id rule, (db.rules.findFirst? fun _ rule =>
        rule.brokerId = brokerId ∧ rule.projectId = none ∧ rule.isActive) = some (id, rule) ∧
      db.rules.find? id = some rule ∧ rule.IsFor brokerId none) ∨
    ((db.rules.findFirst? fun _ rule =>
        rule.brokerId = brokerId ∧ rule.projectId = none ∧ rule.isActive) = none ∧
      ¬ db.HasRule brokerId none) :=
  findFirst?_isFor fun _ _ => decide_eq_true_iff

theorem applicableRule_right (db : CommissionDb) (brokerId projectId : Nat) :
    RightRule db brokerId projectId (db.applicableRule brokerId (some projectId)) := by
  have meaning : ∀ (_ : Nat) (rule : BrokerCommissionRule),
      decide (rule.brokerId = brokerId ∧ (some projectId).isSome ∧
        rule.projectId = some projectId ∧ rule.isActive) = true ↔
      rule.IsFor brokerId (some projectId) := by
    intro _ rule
    rw [decide_eq_true_iff]
    exact ⟨fun ⟨own, _, rest⟩ => ⟨own, rest⟩, fun ⟨own, rest⟩ => ⟨own, rfl, rest⟩⟩
  have specific := @findFirst?_isFor db brokerId (some projectId) _ meaning
  unfold CommissionDb.applicableRule
  rcases specific with ⟨id, rule, first, found, isFor⟩ | ⟨none, without⟩
  · rw [first, Option.some_or]
    have has : db.HasRule brokerId (some projectId) := ⟨id, rule, found, isFor⟩
    exact ⟨fun _ => ⟨id, rule, rfl, found, isFor⟩, fun without => absurd has without,
      fun without => absurd has without⟩
  · rw [none, Option.none_or]
    refine ⟨fun has => absurd has without, fun _ has => ?_, fun _ without => ?_⟩
    · rcases findFirst?_general db brokerId with general | ⟨_, without⟩
      · exact general
      · exact absurd has without
    · rcases findFirst?_general db brokerId with ⟨id, rule, _, found, isFor⟩ | ⟨nothing, _⟩
      · exact absurd ⟨id, rule, found, isFor⟩ without
      · exact nothing

/-- **Without one, the lookup chooses the general rule**, which is the right one if there is no rule
for the project. -/
theorem applicableRule_none_right_iff (db : CommissionDb) (brokerId projectId : Nat) :
    RightRule db brokerId projectId (db.applicableRule brokerId none) ↔
      ¬ db.HasRule brokerId (some projectId) := by
  have skipped : (db.rules.findFirst? fun _ rule => rule.brokerId = brokerId ∧
      (none : Option Nat).isSome ∧ rule.projectId = none ∧ rule.isActive) = none := by
    refine Table.findFirst?_eq_none.mpr fun _ rule _ => ?_
    simp
  unfold CommissionDb.applicableRule
  rw [skipped, Option.none_or]
  rcases findFirst?_general db brokerId with ⟨id, rule, chosen, found, isFor⟩ | ⟨chosen, without⟩
  · rw [chosen]
    constructor
    · intro right has
      obtain ⟨_, _, ⟨⟩, _, other⟩ := right.specific has
      have general := isFor.2.1
      rw [other.2.1] at general
      cases general
    · intro no
      exact ⟨fun has => absurd has no, fun _ _ => ⟨id, rule, rfl, found, isFor⟩,
        fun _ without => absurd ⟨id, rule, found, isFor⟩ without⟩
  · rw [chosen]
    constructor
    · intro right has
      obtain ⟨_, _, ⟨⟩, _⟩ := right.specific has
    · intro no
      exact ⟨fun has => absurd has no, fun _ has => absurd has without, fun _ _ => rfl⟩

/-! ### The snapshot -/

def CommissionService.snapshotBy (bookingId : Nat) (booking : Booking) (brokerId : Nat)
    (chosen : Option (Nat × BrokerCommissionRule)) (db : CommissionDb) :
    Except ServiceError (BrokerBookingCommission × CommissionDb) := do
  let rule ← orThrow chosen
    (.badRequest s!"No active commission rule configured for broker {brokerId}")
  let totalCommissionPaise ← computeCommissionPaise booking.agreedPricePaise rule.2
  let snapshot : BrokerBookingCommission :=
    { bookingId, brokerId, ruleId := rule.1, totalCommissionPaise }
  return (snapshot, db.insertSnapshot snapshot)

theorem ensureSnapshot_run (masters : BrokerMasters) {bookingId : Nat} (booking : Booking)
    (brokerId : Nat) {db : CommissionDb} (fresh : db.snapshotOf bookingId = none) :
    (CommissionService.ensureSnapshot masters bookingId booking brokerId).run db =
      CommissionService.snapshotBy bookingId booking brokerId
        (db.applicableRule brokerId (masters.towerProject booking.unitId)) db := by
  unfold CommissionService.ensureSnapshot CommissionService.snapshotBy
  rw [Tx.run_read_bind, fresh]
  show (BrokerCommissionRuleService.findApplicableRule brokerId
    (masters.towerProject booking.unitId) >>= _).run db = _
  rw [Tx.run_bind, findApplicableRule_run]
  show (Tx.check _ >>= _).run db = _
  cases db.applicableRule brokerId (masters.towerProject booking.unitId) with
  | none => rfl
  | some rule =>
    show (Tx.check (computeCommissionPaise booking.agreedPricePaise rule.2) >>= _).run db =
      (computeCommissionPaise booking.agreedPricePaise rule.2 >>= _)
    cases computeCommissionPaise booking.agreedPricePaise rule.2 with
    | error error => rfl
    | ok total =>
      show (Tx.check (ensure ((db.snapshotOf bookingId).isSome = false) _) >>= _).run _ = _
      rw [fresh]
      rfl

def onePlot : List InventoryOp :=
  [.createProject 1 .landBased, .createLandBased 1 0
    { number := "P-7", landAreaEntered := 900, landAreaEnteredUnit := .sqyd, rateUnit := .sqyd
      number_fits := by decide }]

def plotBooking : Booking where
  unitId := 0
  primaryApplicantId := 0
  status := .booked
  agreedPricePaise := 100000
  placeOfSupplyStateCode := none
  paymentPlanTemplateId := none
  bookingDate := 0

def fixedRule (projectId : Option Nat) (amountPaise : Nat) : BrokerCommissionRule where
  brokerId := 0
  projectId
  commissionType := .flatAmount
  flatPaise := some amountPaise
  flat_nonneg := by
    intro paise named
    cases named
    exact Int.natCast_nonneg amountPaise

/-- A broker with a general rule, and another one for the project of the plot. -/
def twoRules : CommissionDb where
  rules := (Table.empty.create (fixedRule none 1000)).create (fixedRule (some 0) 2500)

def plotSnapshot : BrokerBookingCommission where
  bookingId := 0
  brokerId := 0
  ruleId := 0
  totalCommissionPaise := 1000

end OpenEstate
