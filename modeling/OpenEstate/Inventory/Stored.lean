/-
**What is stored.**

Texts are checked when they come in, and numbers of floors by their column, so that rows which are
written can be read again by an import.

* `Stored` is what all operations keep of the rows;
* `stored_states`: it holds in every state that is reached.
-/

import OpenEstate.Inventory.UniqueNumbers

namespace OpenEstate.Inventory

open Relational

/-- A unit has a number; one of a high rise has nothing of a unit on land. -/
structure UnitStored (unit : InventoryUnit) : Prop where
  number : Fits 50 unit.number
  highRise : unit.shape = .highRise → unit.inventoryGroupId = none ∧ unit.landAreaEntered = none ∧
    unit.landAreaEnteredUnit = none ∧ unit.landAreaSqft = none ∧ unit.rateUnit = .sqft ∧
    unit.builtUpRatePaise = none

structure TowerStored (tower : Tower) : Prop where
  name : Fits 255 tower.name
  code : Fits 50 tower.code

structure FloorStored (floor : Floor) : Prop where
  name : Fits 100 floor.name
  low : -2 ^ 31 ≤ floor.floorNumber
  high : floor.floorNumber < 2 ^ 31

structure Stored (db : InventoryDb) : Prop where
  towers : db.towers.All TowerStored
  floors : db.floors.All FloorStored
  unitTypes : db.unitTypes.All fun unitType => Fits 255 unitType.name
  units : db.units.All UnitStored

/-! ### Texts that are generated -/

section Texts

theorem length_toString_le {floor : Int} (low : -10 ≤ floor) (high : floor < 2 ^ 31) :
    (toString floor).toList.length ≤ 11 := by
  have digits : ∀ {number : Nat}, number < 2 ^ 31 → (toString number).toList.length ≤ 10 := by
    intro number small
    show number.repr.toList.length ≤ 10
    rw [Nat.toList_repr, Nat.length_toDigits_le_iff (by decide) (by decide)]
    omega
  cases floor with
  | ofNat number =>
    have small : number < 2 ^ 31 := by
      have high : (number : Int) < 2 ^ 31 := high
      exact_mod_cast high
    exact (digits small).trans (by decide)
  | negSucc magnitude =>
    have small : magnitude + 1 < 2 ^ 31 := by
      have small : magnitude < 10 := by omega
      omega
    rw [toString_negSucc, List.length_cons]
    exact Nat.succ_le_succ (digits small)

theorem length_padStart (text : String) (width : Nat) (fill : Char) :
    (padStart text width fill).toList.length = max width text.toList.length := by
  rw [padStart, String.toList_ofList, List.length_leftpad]

theorem fits_generatedNumber {dto : BulkGenerateUnitsDto} {floor : Int} {unit : Nat}
    (low : -10 ≤ floor) (high : floor < 2 ^ 31) (most : unit ≤ 100) :
    Fits 50 (UnitService.generatedNumber dto.unitPrefix floor unit) := by
  have floorLength := length_padStart (toString floor) 2 '0'
  have floorMost := length_toString_le low high
  have unitLength := length_padStart (toString unit) 2 '0'
  have unitMost : (toString unit).toList.length ≤ 3 := by
    show unit.repr.toList.length ≤ 3
    rw [Nat.toList_repr, Nat.length_toDigits_le_iff (by decide) (by decide)]
    omega
  constructor
  · intro empty
    have none_ := congrArg (fun text : String => text.toList.length) empty
    simp only [UnitService.generatedNumber, String.toList_append, List.length_append,
      String.toList_empty, List.length_nil] at none_
    omega
  · rw [UnitService.generatedNumber, Runtime.length_append, Runtime.length_append]
    have prefixMost := dto.prefix_max
    have first := Runtime.length_le (padStart (toString floor) 2 '0')
    have second := Runtime.length_le (padStart (toString unit) 2 '0')
    omega

theorem fits_floorName {floor : Int} (low : -10 ≤ floor) (high : floor < 2 ^ 31) :
    Fits 100 s!"Floor {floor}" := by
  have most := length_toString_le low high
  have named : s!"Floor {floor}" = "Floor " ++ toString floor := rfl
  rw [named]
  constructor
  · intro empty
    have none_ := congrArg (fun text : String => text.toList.length) empty
    rw [String.toList_append, List.length_append] at none_
    have six : ("Floor ".toList).length = 6 := by decide
    simp only [String.toList_empty, List.length_nil] at none_
    omega
  · rw [Runtime.length_append]
    have six : Runtime.length "Floor " = 6 := by decide
    have bound := Runtime.length_le (toString floor)
    omega

end Texts

/-! ### Operations keep it -/

section Stored

variable {db after : InventoryDb}

theorem Stored.empty : Stored {} :=
  ⟨Table.All.empty, Table.All.empty, Table.All.empty, Table.All.empty⟩

theorem Stored.insertFloor (stored : Stored db) {floor : Floor} (fits : FloorStored floor) :
    Stored (db.insertFloor floor) :=
  { stored with floors := Table.all_create.mpr ⟨stored.floors, fits⟩ }

theorem Stored.insertTower (stored : Stored db) {tower : Tower} (fits : TowerStored tower) :
    Stored (db.insertTower tower) :=
  { stored with towers := Table.all_create.mpr ⟨stored.towers, fits⟩ }

theorem Stored.insertUnit (stored : Stored db) {unit : InventoryUnit} (fits : UnitStored unit) :
    Stored (db.insertUnit unit) :=
  { stored with units := Table.all_create.mpr ⟨stored.units, fits⟩ }

theorem Stored.upsertFloor (stored : Stored db) (floor : Floor) (fits : FloorStored floor) :
    Stored (db.upsertFloor floor).2 := by
  unfold InventoryDb.upsertFloor
  split
  · exact stored
  · exact stored.insertFloor fits

theorem Stored.towerCoded (stored : Stored db) (companyId projectId : Nat) {name code : String}
    (name_fits : Fits 255 name) (code_fits : Fits 50 code) :
    Stored (ImportExportService.towerCoded companyId projectId name code db).2 := by
  unfold ImportExportService.towerCoded
  split
  · exact stored
  · exact stored.insertTower ⟨name_fits, code_fits⟩

variable {companyId projectId : Nat}

theorem unitStored_floorUnit {floorId : Nat} {number : String} {unitTypeId : Option Nat}
    {areas : FloorAreas} {baseRatePaise : Nat} (fits : Fits 50 number) :
    UnitStored (floorUnit companyId projectId floorId number unitTypeId areas baseRatePaise) :=
  ⟨fits, fun _ => ⟨rfl, rfl, rfl, rfl, rfl, rfl⟩⟩

theorem unitStored_landUnit {data : LandUnitData}
    (fits : Fits 50 data.number) : UnitStored (landUnit companyId projectId data) :=
  ⟨fits, nofun⟩

theorem Stored.generateFloor (stored : Stored db) {dto : BulkGenerateUnitsDto} {floor : Int}
    (low : -10 ≤ floor) (high : floor < 2 ^ 31) :
    Stored (UnitService.generateFloor companyId projectId dto db floor) := by
  unfold UnitService.generateFloor
  refine List.foldlRecOn _ _ ?_ fun db stored number member => ?_
  · have column : -2 ^ 31 ≤ floor := by omega
    exact stored.upsertFloor _ ⟨fits_floorName low high, column, high⟩
  · obtain ⟨unit, inRange, rfl⟩ := List.mem_map.mp member
    refine stored.insertUnit (unitStored_floorUnit (fits_generatedNumber low high ?_))
    have range := List.mem_range'_1.mp inRange
    have most := dto.units_max
    omega

theorem Stored.bulkGenerate (stored : Stored db) {dto : BulkGenerateUnitsDto}
    {generated : UnitService.Generated}
    (accepted : UnitService.bulkGenerate companyId projectId dto db = .ok (generated, after)) :
    Stored after := by
  obtain ⟨tower, _, accepted⟩ := bind_eq_ok.mp accepted
  obtain ⟨_, _, accepted⟩ := bind_eq_ok.mp accepted
  obtain ⟨_, fits, accepted⟩ := bind_eq_ok.mp accepted
  cases accepted
  refine List.foldlRecOn _ _ stored fun db stored floor member => ?_
  obtain ⟨offset, inRange, rfl⟩ := List.mem_map.mp member
  have range := List.mem_range.mp inRange
  have low := dto.floorStart_min
  have most := ensure_eq_ok.mp fits
  exact stored.generateFloor (by omega) (by omega)

theorem Stored.createUnit (stored : Stored db) {floorId : Nat} {dto : CreateUnitDto}
    (accepted : UnitService.create companyId floorId dto db = .ok after) : Stored after := by
  obtain ⟨floor, _, accepted⟩ := bind_eq_ok.mp accepted
  obtain ⟨tower, _, accepted⟩ := bind_eq_ok.mp accepted
  obtain ⟨project, _, accepted⟩ := bind_eq_ok.mp accepted
  obtain ⟨_, _, accepted⟩ := bind_eq_ok.mp accepted
  obtain ⟨_, _, accepted⟩ := bind_eq_ok.mp accepted
  cases accepted
  exact stored.insertUnit (unitStored_floorUnit dto.number_fits)

theorem Stored.createLandBased (stored : Stored db) {dto : CreateLandBasedUnitDto}
    (accepted : UnitService.createLandBased companyId projectId dto db = .ok after) :
    Stored after := by
  obtain ⟨project, _, accepted⟩ := bind_eq_ok.mp accepted
  obtain ⟨_, _, accepted⟩ := bind_eq_ok.mp accepted
  obtain ⟨_, _, accepted⟩ := bind_eq_ok.mp accepted
  obtain ⟨_, _, accepted⟩ := bind_eq_ok.mp accepted
  cases accepted
  exact stored.insertUnit (unitStored_landUnit dto.number_fits)

theorem Stored.importRow {progress next : ImportProgress} (stored : Stored progress.db)
    {row : Nat × ImportUnitRow}
    (accepted : ImportExportService.importRow companyId projectId progress row = .ok next) :
    Stored next.db := by
  obtain ⟨column, accepted⟩ := (ImportExportService.importRow_eq_ok rfl rfl).mp accepted
  have coded := stored.towerCoded companyId projectId row.2.towerName.2 row.2.towerCode.2
  have upserted := fun towerId => coded.upsertFloor
    { companyId, towerId, name := row.2.floorName.1, floorNumber := row.2.floorNumber }
    ⟨row.2.floorName.2, column.1, column.2⟩
  split at accepted
  · cases accepted
    exact upserted _
  · split at accepted
    · cases accepted
      exact upserted _
    · obtain ⟨_, _, _, _, _, _, rfl⟩ := accepted
      exact (upserted _).insertUnit (unitStored_floorUnit row.2.unitNumber.2)

theorem Stored.importLandBasedRow {progress next : ImportProgress} (stored : Stored progress.db)
    {row : Nat × ImportLandBasedUnitRow}
    (accepted : ImportExportService.importLandBasedRow companyId projectId progress row =
      .ok next) : Stored next.db := by
  rcases ImportExportService.importLandBasedRow_cases accepted with same | ⟨data, named, _, is⟩
  · rw [same]
    exact stored
  · rw [is]
    exact stored.insertUnit (unitStored_landUnit (named ▸ row.2.unitNumber.2))

theorem Stored.importUnits (stored : Stored db) {sheet : Sheet} {result : ImportResult}
    (accepted : ImportExportService.importUnits companyId projectId sheet db =
      .ok (result, after)) : Stored after :=
  ImportExportService.importUnits_invariant Stored stored
    (fun _ _ _ stored accepted => stored.importRow accepted)
    (fun _ _ _ stored accepted => stored.importLandBasedRow accepted) accepted

theorem exec_stored (op : InventoryOp) (stored : Stored db) (accepted : op.exec db = .ok after) :
    Stored after := by
  cases op with
  | createProject companyId shape =>
    cases accepted
    exact { stored with }
  | createUnitType companyId dto =>
    obtain ⟨_, _, accepted⟩ := bind_eq_ok.mp accepted
    cases accepted
    exact { stored with unitTypes := Table.all_create.mpr ⟨stored.unitTypes, dto.name_fits⟩ }
  | createGroup companyId projectId dto =>
    obtain ⟨_, _, accepted⟩ := bind_eq_ok.mp accepted
    obtain ⟨_, _, accepted⟩ := bind_eq_ok.mp accepted
    obtain ⟨_, _, accepted⟩ := bind_eq_ok.mp accepted
    cases accepted
    exact { stored with }
  | createTower companyId projectId dto =>
    obtain ⟨_, _, accepted⟩ := bind_eq_ok.mp accepted
    obtain ⟨_, _, accepted⟩ := bind_eq_ok.mp accepted
    obtain ⟨_, _, accepted⟩ := bind_eq_ok.mp accepted
    cases accepted
    exact stored.insertTower ⟨dto.name_fits, dto.code_fits⟩
  | create companyId floorId dto => exact stored.createUnit accepted
  | createLandBased companyId projectId dto => exact stored.createLandBased accepted
  | bulkGenerate companyId projectId dto =>
    obtain ⟨⟨generated, _⟩, generates, rfl⟩ := map_eq_ok.mp accepted
    exact stored.bulkGenerate generates
  | importUnits companyId projectId sheet =>
    obtain ⟨⟨result, _⟩, imports, rfl⟩ := map_eq_ok.mp accepted
    exact stored.importUnits imports

end Stored

theorem stored_states (ops : List InventoryOp) :
    ∀ db ∈ states InventoryOp.exec {} ops, Stored db := by
  intro db member
  exact (mem_states member).invariant .empty fun op _ _ stored accepted =>
    exec_stored op stored accepted

end OpenEstate.Inventory
