/-
**Prices of land.**

The price of a unit on land is its rate times its area as it was entered, taken to the unit of
measure of the rate.

* `units_states`: units are written for a floor or for land, and in no other way, so that what holds
  of both ways holds of every stored unit;
* `computeBaseAmountPaise_near`: the price is rounded once, to the nearest paisa.
-/

import OpenEstate.Inventory.Stored

namespace OpenEstate.Inventory

open Relational

/-! ### Every stored unit -/

section Units

variable {holds : InventoryUnit → Prop} {db after : InventoryDb}

theorem units_upsertFloor (db : InventoryDb) (floor : Floor) :
    (db.upsertFloor floor).2.units = db.units := by
  unfold InventoryDb.upsertFloor
  split <;> rfl

theorem units_towerCoded (companyId projectId : Nat) (name code : String) (db : InventoryDb) :
    (ImportExportService.towerCoded companyId projectId name code db).2.units = db.units := by
  unfold ImportExportService.towerCoded
  split <;> rfl

theorem units_onFloor (all : db.units.All holds) (companyId projectId : Nat) (name code : String)
    (floor : Floor) :
    ((ImportExportService.towerCoded companyId projectId name code db).2.upsertFloor
      floor).2.units.All holds := by
  rw [units_upsertFloor, units_towerCoded]
  exact all

structure HoldsOfWritten (holds : InventoryUnit → Prop) : Prop where
  onFloor : ∀ companyId projectId floorId number unitTypeId areas baseRatePaise,
    holds (floorUnit companyId projectId floorId number unitTypeId areas baseRatePaise)
  onLand : ∀ companyId projectId data, holds (landUnit companyId projectId data)

variable (written : HoldsOfWritten holds)

include written

theorem units_generateFloor (all : db.units.All holds) (companyId projectId : Nat)
    (dto : BulkGenerateUnitsDto) (floor : Int) :
    (UnitService.generateFloor companyId projectId dto db floor).units.All holds := by
  unfold UnitService.generateFloor
  refine List.foldlRecOn (motive := fun db : InventoryDb => db.units.All holds) _ _ ?_
    fun db all number _ => ?_
  · rw [units_upsertFloor]
    exact all
  · exact Table.all_create.mpr ⟨all, written.onFloor _ _ _ _ _ _ _⟩

variable {companyId projectId : Nat}

theorem units_importRow {progress next : ImportProgress} (all : progress.db.units.All holds)
    {row : Nat × ImportUnitRow}
    (accepted : ImportExportService.importRow companyId projectId progress row = .ok next) :
    next.db.units.All holds := by
  obtain ⟨_, accepted⟩ := (ImportExportService.importRow_eq_ok rfl rfl).mp accepted
  have kept := units_onFloor all companyId projectId row.2.towerName.1 row.2.towerCode.1
  split at accepted
  · cases accepted
    exact kept _
  · split at accepted
    · cases accepted
      exact kept _
    · obtain ⟨_, _, _, _, _, _, rfl⟩ := accepted
      exact Table.all_create.mpr ⟨kept _, written.onFloor _ _ _ _ _ _ _⟩

theorem units_importLandBasedRow {progress next : ImportProgress}
    (all : progress.db.units.All holds) {row : Nat × ImportLandBasedUnitRow}
    (accepted : ImportExportService.importLandBasedRow companyId projectId progress row =
      .ok next) : next.db.units.All holds := by
  rcases ImportExportService.importLandBasedRow_cases accepted with same | ⟨data, _, _, is⟩
  · rw [same]
    exact all
  · rw [is]
    exact Table.all_create.mpr ⟨all, written.onLand _ _ _⟩

theorem units_importUnits (all : db.units.All holds) {sheet : Sheet} {result : ImportResult}
    (accepted : ImportExportService.importUnits companyId projectId sheet db =
      .ok (result, after)) : after.units.All holds :=
  ImportExportService.importUnits_invariant (fun db => db.units.All holds) all
    (fun _ _ _ all accepted => units_importRow written all accepted)
    (fun _ _ _ all accepted => units_importLandBasedRow written all accepted) accepted

theorem exec_units (op : InventoryOp) (all : db.units.All holds)
    (accepted : op.exec db = .ok after) : after.units.All holds := by
  cases op with
  | createProject companyId shape =>
    cases accepted
    exact all
  | createUnitType companyId dto =>
    obtain ⟨_, _, accepted⟩ := bind_eq_ok.mp accepted
    cases accepted
    exact all
  | createGroup companyId projectId dto =>
    obtain ⟨_, _, accepted⟩ := bind_eq_ok.mp accepted
    obtain ⟨_, _, accepted⟩ := bind_eq_ok.mp accepted
    obtain ⟨_, _, accepted⟩ := bind_eq_ok.mp accepted
    cases accepted
    exact all
  | createTower companyId projectId dto =>
    obtain ⟨_, _, accepted⟩ := bind_eq_ok.mp accepted
    obtain ⟨_, _, accepted⟩ := bind_eq_ok.mp accepted
    obtain ⟨_, _, accepted⟩ := bind_eq_ok.mp accepted
    cases accepted
    exact all
  | create companyId floorId dto =>
    obtain ⟨_, _, accepted⟩ := bind_eq_ok.mp accepted
    obtain ⟨_, _, accepted⟩ := bind_eq_ok.mp accepted
    obtain ⟨_, _, accepted⟩ := bind_eq_ok.mp accepted
    obtain ⟨_, _, accepted⟩ := bind_eq_ok.mp accepted
    obtain ⟨_, _, accepted⟩ := bind_eq_ok.mp accepted
    cases accepted
    exact Table.all_create.mpr ⟨all, written.onFloor _ _ _ _ _ _ _⟩
  | createLandBased companyId projectId dto =>
    obtain ⟨_, _, accepted⟩ := bind_eq_ok.mp accepted
    obtain ⟨_, _, accepted⟩ := bind_eq_ok.mp accepted
    obtain ⟨_, _, accepted⟩ := bind_eq_ok.mp accepted
    obtain ⟨_, _, accepted⟩ := bind_eq_ok.mp accepted
    cases accepted
    exact Table.all_create.mpr ⟨all, written.onLand _ _ _⟩
  | bulkGenerate companyId projectId dto =>
    obtain ⟨⟨generated, _⟩, generates, rfl⟩ := map_eq_ok.mp accepted
    obtain ⟨_, _, generates⟩ := bind_eq_ok.mp generates
    obtain ⟨_, _, generates⟩ := bind_eq_ok.mp generates
    obtain ⟨_, _, generates⟩ := bind_eq_ok.mp generates
    cases generates
    exact List.foldlRecOn (motive := fun db : InventoryDb => db.units.All holds) _ _ all
      fun db all floor _ => units_generateFloor written all companyId _ dto floor
  | importUnits companyId projectId sheet =>
    obtain ⟨⟨result, _⟩, imports, rfl⟩ := map_eq_ok.mp accepted
    exact units_importUnits written all imports

theorem units_states (ops : List InventoryOp) :
    ∀ db ∈ states InventoryOp.exec {} ops, db.units.All holds := by
  intro db member
  exact (mem_states member).invariant Table.All.empty fun op _ _ all accepted =>
    exec_units written op all accepted

end Units

def Measured (db : InventoryDb) : Prop :=
  db.units.All fun unit => unit.shape = .landBased →
    ∃ area areaUnit, unit.landAreaEntered = some area ∧ unit.landAreaEnteredUnit = some areaUnit

theorem measured_states (ops : List InventoryOp) :
    ∀ db ∈ states InventoryOp.exec {} ops, Measured db :=
  units_states ⟨fun _ _ _ _ _ _ _ => nofun, fun _ _ _ _ => ⟨_, _, rfl, rfl⟩⟩ ops

/-! ### The price -/

def divRoundHalfUp (numerator denominator : Nat) : Nat :=
  if denominator ≤ numerator % denominator * 2 then numerator / denominator + 1
  else numerator / denominator

/-- The rate times the area, in paise. Areas have six decimals, and the factor of the unit of measure
cancels where both are measured in one. -/
def computeBaseAmountPaise (ratePaise : Nat) (rateUnit : AreaUnit) (landAreaEntered : Decimal 6)
    (landAreaEnteredUnit : AreaUnit) : Nat :=
  divRoundHalfUp (ratePaise * landAreaEntered.scaled * landAreaEnteredUnit.sqftPerUnitScaled)
    (10 ^ 6 * rateUnit.sqftPerUnitScaled)

def exactPrice (ratePaise : Nat) (rateUnit : AreaUnit) (landAreaEntered : Decimal 6)
    (landAreaEnteredUnit : AreaUnit) : ℚ :=
  ratePaise * (landAreaEntered.toNumber * landAreaEnteredUnit.sqftPerUnitScaled /
    rateUnit.sqftPerUnitScaled)

theorem sqftPerUnitScaled_pos (unit : AreaUnit) : 0 < unit.sqftPerUnitScaled := by
  cases unit <;> decide

theorem divRoundHalfUp_near (numerator : Nat) {denominator : Nat} (positive : 0 < denominator) :
    |(divRoundHalfUp numerator denominator : ℚ) - numerator / denominator| ≤ 1 / 2 := by
  have division := Nat.div_add_mod numerator denominator
  have remainder := Nat.mod_lt numerator positive
  have bounds : 2 * numerator ≤ 2 * (denominator * divRoundHalfUp numerator denominator) +
        denominator ∧
      2 * (denominator * divRoundHalfUp numerator denominator) ≤ 2 * numerator + denominator := by
    unfold divRoundHalfUp
    split
    · rw [Nat.mul_add]
      omega
    · omega
  have low : (2 * numerator : ℚ) ≤
      2 * (denominator * divRoundHalfUp numerator denominator) + denominator := by
    exact_mod_cast bounds.1
  have high : (2 * (denominator * divRoundHalfUp numerator denominator) : ℚ) ≤
      2 * numerator + denominator := by
    exact_mod_cast bounds.2
  have positiveToo : (0 : ℚ) < denominator := by exact_mod_cast positive
  rw [abs_le, neg_le_sub_iff_le_add, sub_le_iff_le_add, div_le_iff₀ positiveToo]
  constructor
  · linarith
  · rw [← sub_le_iff_le_add', le_div_iff₀ positiveToo]
    linarith

theorem computeBaseAmountPaise_near (ratePaise : Nat) (rateUnit : AreaUnit)
    (landAreaEntered : Decimal 6) (landAreaEnteredUnit : AreaUnit) :
    |(computeBaseAmountPaise ratePaise rateUnit landAreaEntered landAreaEnteredUnit : ℚ) -
      exactPrice ratePaise rateUnit landAreaEntered landAreaEnteredUnit| ≤ 1 / 2 := by
  have measure := sqftPerUnitScaled_pos rateUnit
  have positive : 0 < 10 ^ 6 * rateUnit.sqftPerUnitScaled := Nat.mul_pos (by decide) measure
  have near := divRoundHalfUp_near
    (ratePaise * landAreaEntered.scaled * landAreaEnteredUnit.sqftPerUnitScaled) positive
  have exact_ : exactPrice ratePaise rateUnit landAreaEntered landAreaEnteredUnit =
      ((ratePaise * landAreaEntered.scaled * landAreaEnteredUnit.sqftPerUnitScaled : Nat) : ℚ) /
        ((10 ^ 6 * rateUnit.sqftPerUnitScaled : Nat) : ℚ) := by
    have nonzero : (rateUnit.sqftPerUnitScaled : ℚ) ≠ 0 := by exact_mod_cast measure.ne'
    rw [exactPrice, Decimal.toNumber]
    push_cast
    field_simp
    ring
  rw [exact_]
  exact near

end OpenEstate.Inventory
