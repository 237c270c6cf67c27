/-
**Rows that are copied.**

An import into an empty high rise creates one unit for each row, if the rows name towers and floors
consistently and no two have a number in one tower.

* `InventoryDb.specs` lists the units of a project without keys;
* `Copying` is what holds between two rows: the project has what the rows so far say;
* `importRows_copying`: an import copies all rows.
-/

import OpenEstate.Inventory.Export
import OpenEstate.Inventory.Stored

namespace OpenEstate.Inventory

open Relational
open Runtime (Number)

/-! ### Units without keys -/

/-- What a unit is: its number, where it is placed, its type, its areas and its rates. -/
structure UnitSpec where
  number : String
  tower : Option (String × String)
  floor : Option (String × Int)
  groupCode : Option String
  unitType : Option String
  carpetAreaSqft : Option (Decimal 2)
  builtUpAreaSqft : Option (Decimal 2)
  superBuiltUpSqft : Option (Decimal 2)
  landAreaEntered : Option (Decimal 6)
  landAreaEnteredUnit : Option AreaUnit
  landAreaSqft : Option (Decimal 6)
  rateUnit : AreaUnit
  baseRatePaise : Nat
  builtUpRatePaise : Option Nat

def UnitView.spec (view : UnitView) : UnitSpec where
  number := view.unit.number
  tower := view.tower.map fun tower => (tower.name, tower.code)
  floor := view.floor.map fun floor => (floor.name, floor.floorNumber)
  groupCode := view.inventoryGroup.map InventoryGroup.code
  unitType := view.unitType.map UnitType.name
  carpetAreaSqft := view.unit.carpetAreaSqft
  builtUpAreaSqft := view.unit.builtUpAreaSqft
  superBuiltUpSqft := view.unit.superBuiltUpSqft
  landAreaEntered := view.unit.landAreaEntered
  landAreaEnteredUnit := view.unit.landAreaEnteredUnit
  landAreaSqft := view.unit.landAreaSqft
  rateUnit := view.unit.rateUnit
  baseRatePaise := view.unit.baseRatePaise
  builtUpRatePaise := view.unit.builtUpRatePaise

namespace InventoryDb

def specs (db : InventoryDb) (projectId : Nat) : List UnitSpec :=
  (db.units.select fun _ unit => unit.projectId = projectId).map fun row => (db.viewOf row.2).spec

variable {db after : InventoryDb}
variable {unit : InventoryUnit}

theorem Placed.viewOf_eq (placed : db.Placed unit) (keeps : db.Keeps after)
    (groups : after.groups = db.groups) (unitTypes : after.unitTypes = db.unitTypes) :
    after.viewOf unit = db.viewOf unit := by
  have floor : unit.floorId.bind after.floors.find? = unit.floorId.bind db.floors.find? ∧
      (after.towerOf unit).bind after.towers.find? = (db.towerOf unit).bind db.towers.find? := by
    unfold Placed at placed
    unfold towerOf
    split at placed
    · rename_i floorId stands
      obtain ⟨floor, tower, onFloor, inTower, _⟩ := placed
      simp only [stands, Option.bind_some, onFloor, keeps.floors _ _ onFloor, Option.map_some,
        inTower, keeps.towers _ _ inTower, and_self]
    · rename_i stands
      simp only [stands, Option.bind_none, and_self]
  simp only [viewOf, floor.1, floor.2, groups, unitTypes]

theorem specs_keep (order : InOrder db) (keeps : db.Keeps after) (units : after.units = db.units)
    (groups : after.groups = db.groups) (unitTypes : after.unitTypes = db.unitTypes)
    (projectId : Nat) : after.specs projectId = db.specs projectId := by
  unfold specs
  rw [units]
  refine List.map_congr_left fun row member => ?_
  have placed := order.unit row.1 row.2 (Table.mem_select.mp member).1
  rw [placed.viewOf_eq keeps groups unitTypes]

theorem specs_insertUnit (db : InventoryDb) {projectId : Nat} (its : unit.projectId = projectId) :
    (db.insertUnit unit).specs projectId = db.specs projectId ++ [(db.viewOf unit).spec] := by
  unfold specs
  rw [insertUnit, Table.select_create, if_pos (decide_eq_true its), List.map_append]
  rfl

theorem mem_specs {id projectId : Nat} (found : db.units.find? id = some unit)
    (its : unit.projectId = projectId) :
    (db.viewOf unit).spec ∈ db.specs projectId :=
  List.mem_map.mpr ⟨(id, unit), Table.mem_select.mpr ⟨found, decide_eq_true its⟩, rfl⟩

end InventoryDb

/-! ### Rows -/

def columnArea : Option Number → Option (Decimal 2)
  | some (.finite value) => some (Decimal.ofNumber value)
  | _ => none

def rowSpec (row : ImportUnitRow) : UnitSpec where
  number := row.unitNumber.1
  tower := some (row.towerName.1, row.towerCode.1)
  floor := some (row.floorName.1, row.floorNumber)
  groupCode := none
  unitType := row.unitType.filter (· ≠ "")
  carpetAreaSqft := columnArea row.carpetAreaSqft
  builtUpAreaSqft := columnArea row.builtUpAreaSqft
  superBuiltUpSqft := columnArea row.superBuiltUpSqft
  landAreaEntered := none
  landAreaEnteredUnit := none
  landAreaSqft := none
  rateUnit := .sqft
  baseRatePaise := row.baseRatePaise.getD 0
  builtUpRatePaise := none

def FiniteArea (area : Option Number) : Prop := ∀ value ∈ area, ∃ finite, value = .finite finite

theorem columnNumber?_of_finite {area : Option Number} (finite : FiniteArea area) :
    ∃ value, columnNumber? area = .ok value ∧ value.map Decimal.ofNumber = columnArea area := by
  cases area with
  | none => exact ⟨none, rfl, rfl⟩
  | some number =>
    obtain ⟨value, rfl⟩ := finite number rfl
    exact ⟨some value, rfl, rfl⟩

/-- The names that towers have by their codes, and floors by their numbers. -/
structure Names where
  tower : String → String
  floor : String → Int → String

/-- A row that names its tower and its floor as others do, and that the columns can take. -/
structure Copyable (names : Names) (companyId : Nat) (unitTypes : Table UnitType)
    (row : ImportUnitRow) : Prop where
  tower : row.towerName.1 = names.tower row.towerCode.1
  floor : row.floorName.1 = names.floor row.towerCode.1 row.floorNumber
  column : -2 ^ 31 ≤ row.floorNumber ∧ row.floorNumber < 2 ^ 31
  carpetAreaSqft : FiniteArea row.carpetAreaSqft
  builtUpAreaSqft : FiniteArea row.builtUpAreaSqft
  superBuiltUpSqft : FiniteArea row.superBuiltUpSqft
  unitType : ∀ name ∈ row.unitType.filter (· ≠ ""), ∃ id unitType,
    unitTypes.find? id = some unitType ∧ unitType.companyId = companyId ∧ unitType.name = name

/-! ### Copying -/

/-- **Between two rows.** -/
structure Copying (names : Names) (companyId projectId : Nat) (project : Project)
    (unitTypes : Table UnitType) (done : List ImportUnitRow) (db : InventoryDb) : Prop where
  order : InOrder db
  owned : db.project? companyId projectId = some project
  unitTypes : db.unitTypes = unitTypes
  towers : ∀ id tower, db.towers.find? id = some tower → tower.projectId = projectId →
    tower.name = names.tower tower.code
  floors : ∀ id floor tower, db.floors.find? id = some floor →
    db.towers.find? floor.towerId = some tower → tower.projectId = projectId →
    floor.name = names.floor tower.code floor.floorNumber
  specs : db.specs projectId = done.map rowSpec

section Copying

variable {names : Names} {companyId projectId : Nat} {project : Project}
variable {unitTypes : Table UnitType} {done : List ImportUnitRow} {db after : InventoryDb}

open ImportExportService (project?_keep towerCoded unitTypeNamed importRow importRow_eq_ok)

variable {id : Nat}

theorem Copying.coded (copying : Copying names companyId projectId project unitTypes done db)
    {name code : String} (coded : Coded db companyId projectId name code id after)
    (named : name = names.tower code) :
    Copying names companyId projectId project unitTypes done after where
  order := coded.order
  owned := project?_keep coded.keeps copying.owned
  unitTypes := coded.unitTypes.trans copying.unitTypes
  towers id tower found its := by
    rcases coded.rows id tower found with old | rfl
    · exact copying.towers id tower old its
    · exact named
  floors id floor tower found inTower its := by
    rw [coded.floors] at found
    obtain ⟨same, wasThere, _⟩ := copying.order.floor id floor found
    have still := coded.keeps.towers _ _ wasThere
    rw [inTower] at still
    cases still
    exact copying.floors id floor tower found wasThere its
  specs := (InventoryDb.specs_keep copying.order coded.keeps coded.units coded.groups
    coded.unitTypes projectId).trans copying.specs

variable {tower : Tower}

theorem Copying.upserted (copying : Copying names companyId projectId project unitTypes done db)
    {floor : Floor} (upserted : Upserted db floor id after)
    (inTower : db.towers.find? floor.towerId = some tower)
    (named : floor.name = names.floor tower.code floor.floorNumber) :
    Copying names companyId projectId project unitTypes done after where
  order := upserted.order
  owned := project?_keep upserted.keeps copying.owned
  unitTypes := upserted.unitTypes.trans copying.unitTypes
  towers id tower found its := by
    rw [upserted.towers] at found
    exact copying.towers id tower found its
  floors id row other found stands its := by
    rw [upserted.towers] at stands
    rcases upserted.rows id row found with old | rfl
    · exact copying.floors id row other old stands its
    · rw [inTower] at stands
      cases stands
      exact named
  specs := (InventoryDb.specs_keep copying.order upserted.keeps upserted.units upserted.groups
    upserted.unitTypes projectId).trans copying.specs

theorem Copying.exists_row (copying : Copying names companyId projectId project unitTypes done db)
    {towerId : Nat} {unit : InventoryUnit} (found : db.units.find? id = some unit)
    (stands : db.towerOf unit = some towerId) (inTower : db.towers.find? towerId = some tower)
    (its : tower.projectId = projectId) :
    ∃ row ∈ done, row.towerCode.1 = tower.code ∧ row.unitNumber.1 = unit.number := by
  have placed := copying.order.unit id unit found
  have unitIts : unit.projectId = projectId := by
    unfold InventoryDb.Placed at placed
    unfold InventoryDb.towerOf at stands
    split at placed
    · rename_i floorId on_
      obtain ⟨floor, other, onFloor, inOther, _, same, _⟩ := placed
      simp only [on_, Option.bind_some, onFloor, Option.map_some, Option.some.injEq] at stands
      rw [stands, inTower] at inOther
      cases inOther
      exact same.symm.trans its
    · rename_i on_
      simp [on_] at stands
  have member := InventoryDb.mem_specs found unitIts
  rw [copying.specs] at member
  obtain ⟨row, listed, same⟩ := List.mem_map.mp member
  have tower_ := congrArg UnitSpec.tower same
  simp only [rowSpec, UnitView.spec, InventoryDb.viewOf, stands, Option.bind_some, inTower,
    Option.map_some, Option.some.injEq, Prod.mk.injEq] at tower_
  exact ⟨row, listed, tower_.2, congrArg UnitSpec.number same⟩

theorem unitTypeNamed_spec {unitType : Option String}
    (known : ∀ name ∈ unitType.filter (· ≠ ""), ∃ id row, db.unitTypes.find? id = some row ∧
      row.companyId = companyId ∧ row.name = name) :
    ((unitTypeNamed companyId unitType db).bind db.unitTypes.find?).map UnitType.name =
      unitType.filter (· ≠ "") := by
  unfold unitTypeNamed
  cases is : unitType.filter (· ≠ "") with
  | none => rfl
  | some name =>
    obtain ⟨id, row, found, company, named⟩ := known name is
    rw [Option.bind_some]
    cases first : db.unitTypes.findFirst? fun _ row =>
        row.companyId == companyId && row.name == name with
    | none =>
      have apart := Table.findFirst?_eq_none.mp first id row found
      simp [company, named] at apart
    | some entry =>
      obtain ⟨there, matching⟩ := Table.findFirst?_eq_some first
      simp only [Bool.and_eq_true, beq_iff_eq] at matching
      simp only [Option.map_some, Option.bind_some, there, matching.2]

theorem Copying.fresh (copying : Copying names companyId projectId project unitTypes done db)
    {row : ImportUnitRow} (fresh : ∀ earlier ∈ done, earlier.towerCode.1 = row.towerCode.1 →
      earlier.unitNumber.1 ≠ row.unitNumber.1) {towerId : Nat}
    (inTower : db.towers.find? towerId = some tower) (its : tower.projectId = projectId)
    (code : tower.code = row.towerCode.1) {unit : InventoryUnit}
    (found : db.units.find? id = some unit) (stands : db.towerOf unit = some towerId) :
    unit.number ≠ row.unitNumber.1 := by
  intro number
  obtain ⟨earlier, listed, sameCode, sameNumber⟩ := copying.exists_row found stands inTower its
  exact fresh earlier listed (sameCode.trans code) (sameNumber.trans number)

theorem Copying.insertUnit (copying : Copying names companyId projectId project unitTypes done db)
    {row : ImportUnitRow} (copyable : Copyable names companyId unitTypes row)
    (fresh : ∀ earlier ∈ done, earlier.towerCode.1 = row.towerCode.1 →
      earlier.unitNumber.1 ≠ row.unitNumber.1) {floorId : Nat} {floor : Floor}
    (onFloor : db.floors.find? floorId = some floor)
    (inTower : db.towers.find? floor.towerId = some tower) (company : floor.companyId = companyId)
    (its : tower.projectId = projectId) (code : tower.code = row.towerCode.1)
    (number : floor.floorNumber = row.floorNumber) {areas : FloorAreas}
    (carpet : areas.carpetAreaSqft.map Decimal.ofNumber = columnArea row.carpetAreaSqft)
    (builtUp : areas.builtUpAreaSqft.map Decimal.ofNumber = columnArea row.builtUpAreaSqft)
    (superBuiltUp : areas.superBuiltUpSqft.map Decimal.ofNumber = columnArea row.superBuiltUpSqft) :
    Copying names companyId projectId project unitTypes (done ++ [row])
      (db.insertUnit (floorUnit companyId projectId floorId row.unitNumber.1
        (unitTypeNamed companyId row.unitType db) areas (row.baseRatePaise.getD 0))) where
  order := by
    obtain ⟨placed, inScope⟩ := placed_floorUnit onFloor inTower company its row.unitNumber.1
      (unitTypeNamed companyId row.unitType db) areas (row.baseRatePaise.getD 0)
    refine copying.order.insertUnit placed inScope fun id unit found stands member => ?_
    exact copying.fresh fresh inTower its code found (towerOf_eq_some.mpr stands)
      (List.mem_singleton.mp member)
  owned := copying.owned
  unitTypes := copying.unitTypes
  towers := copying.towers
  floors := copying.floors
  specs := by
    rw [List.map_append, ← copying.specs]
    refine (InventoryDb.specs_insertUnit db rfl).trans ?_
    have towerName := copying.towers _ tower inTower its
    have floorName := copying.floors _ floor tower onFloor inTower its
    rw [code, ← copyable.tower] at towerName
    rw [code, number, ← copyable.floor] at floorName
    have stands : db.towerOf (floorUnit companyId projectId floorId row.unitNumber.1
        (unitTypeNamed companyId row.unitType db) areas (row.baseRatePaise.getD 0)) =
          some floor.towerId := by
      show (db.floors.find? floorId).map Floor.towerId = _
      rw [onFloor, Option.map_some]
    have named := unitTypeNamed_spec (copying.unitTypes ▸ copyable.unitType)
    refine congrArg (fun spec => db.specs projectId ++ [spec]) ?_
    rw [UnitView.spec, rowSpec, UnitSpec.mk.injEq]
    refine ⟨rfl, ?_, ?_, rfl, named, carpet, builtUp, superBuiltUp, rfl, rfl, rfl, rfl, rfl, rfl⟩
    · show ((db.towerOf _).bind db.towers.find?).map _ = _
      rw [stands, Option.bind_some, inTower, Option.map_some, towerName, code]
    · show (db.floors.find? floorId).map _ = _
      rw [onFloor, Option.map_some, floorName, number]

theorem Copying.importRow {progress : ImportProgress}
    (copying : Copying names companyId projectId project unitTypes done progress.db)
    (shape : project.shape = .highRise) {row : Nat × ImportUnitRow}
    (copyable : Copyable names companyId unitTypes row.2)
    (fresh : ∀ earlier ∈ done, earlier.towerCode.1 = row.2.towerCode.1 →
      earlier.unitNumber.1 ≠ row.2.unitNumber.1) :
    ∃ next, importRow companyId projectId progress row = .ok next ∧
      Copying names companyId projectId project unitTypes (done ++ [row.2]) next.db := by
  obtain ⟨rowTower, isTower⟩ : ∃ rowTower, towerCoded companyId projectId row.2.towerName.1
    row.2.towerCode.1 progress.db = rowTower := ⟨_, rfl⟩
  have coded := copying.order.towerCoded copying.owned shape row.2.towerName.1 row.2.towerCode.1
  rw [isTower] at coded
  obtain ⟨tower, inTower, company, its, code⟩ := coded.found
  obtain ⟨rowFloor, isFloor⟩ : ∃ rowFloor, rowTower.2.upsertFloor
      { companyId, towerId := rowTower.1, name := row.2.floorName.1, floorNumber := row.2.floorNumber } =
        rowFloor := ⟨_, rfl⟩
  have upserted := coded.order.upsertFloor
    { companyId, towerId := _, name := row.2.floorName.1, floorNumber := row.2.floorNumber }
    inTower company
  rw [isFloor] at upserted
  have afterFloor := (copying.coded coded copyable.tower).upserted upserted inTower
    (copyable.floor.trans (by rw [code]))
  obtain ⟨floor, onFloor, sameTower, sameNumber, sameCompany⟩ := upserted.found
  rw [← upserted.towers] at inTower
  have free : ∀ {id : Nat} {unit : InventoryUnit}, rowFloor.2.units.find? id = some unit →
      rowFloor.2.towerOf unit = some rowTower.1 → unit.number ≠ row.2.unitNumber.1 :=
    fun found stands => afterFloor.fresh fresh inTower its code found stands
  obtain ⟨carpet, isCarpet, carpetArea⟩ := columnNumber?_of_finite copyable.carpetAreaSqft
  obtain ⟨builtUp, isBuiltUp, builtUpArea⟩ := columnNumber?_of_finite copyable.builtUpAreaSqft
  obtain ⟨superBuiltUp, isSuper, superArea⟩ := columnNumber?_of_finite copyable.superBuiltUpSqft
  refine ⟨({ progress with db := rowFloor.2 } : ImportProgress).created (floorUnit companyId projectId
    rowFloor.1 row.2.unitNumber.1 (unitTypeNamed companyId row.2.unitType progress.db)
    ⟨carpet, builtUp, superBuiltUp⟩ (row.2.baseRatePaise.getD 0)),
    (importRow_eq_ok isTower isFloor).mpr ⟨copyable.column, ?_⟩, ?_⟩
  · rw [if_neg, if_neg]
    · exact ⟨carpet, builtUp, superBuiltUp, isCarpet, isBuiltUp, isSuper, rfl⟩
    · rw [Bool.not_eq_true, Table.any_eq_false]
      intro id unit found
      by_cases stands : rowFloor.2.towerOf unit = some rowTower.1
      · simp [free found stands]
      · simp [stands]
    · rw [Bool.not_eq_true, Table.any_eq_false]
      intro id unit found
      by_cases on_ : unit.floorId = some rowFloor.1
      · have stands : rowFloor.2.towerOf unit = some rowTower.1 := by
          rw [InventoryDb.towerOf, on_, Option.bind_some, onFloor, Option.map_some, sameTower]
        simp [free found stands]
      · simp [on_]
  · have sameTypes : unitTypeNamed companyId row.2.unitType progress.db =
        unitTypeNamed companyId row.2.unitType rowFloor.2 := by
      rw [unitTypeNamed, unitTypeNamed, upserted.unitTypes, coded.unitTypes]
    rw [sameTypes]
    exact afterFloor.insertUnit copyable fresh onFloor (sameTower ▸ inTower) sameCompany its code
      sameNumber carpetArea builtUpArea superArea

def towerKey (row : ImportUnitRow) : String × String := (row.towerCode.1, row.unitNumber.1)

theorem importRows_copying (shape : project.shape = .highRise) {rows : List (Nat × ImportUnitRow)}
    (progress : ImportProgress)
    (copying : Copying names companyId projectId project unitTypes done progress.db)
    (copyable : ∀ row ∈ rows, Copyable names companyId unitTypes row.2)
    (distinct : ((done ++ rows.map Prod.snd).map towerKey).Nodup) :
    ∃ result, rows.foldlM (importRow companyId projectId) progress = .ok result ∧
      Copying names companyId projectId project unitTypes (done ++ rows.map Prod.snd) result.db := by
  induction rows generalizing done progress with
  | nil =>
    refine ⟨progress, rfl, ?_⟩
    rw [List.map_nil, List.append_nil]
    exact copying
  | cons row rest ih =>
    rw [List.map_cons, List.append_cons] at distinct ⊢
    obtain ⟨first, others⟩ := List.forall_mem_cons.mp copyable
    have fresh : ∀ earlier ∈ done, earlier.towerCode.1 = row.2.towerCode.1 →
        earlier.unitNumber.1 ≠ row.2.unitNumber.1 := by
      intro earlier listed sameTower sameNumber
      rw [List.append_assoc, List.map_append, List.nodup_append] at distinct
      exact distinct.2.2 _ (List.mem_map_of_mem listed) _ List.mem_cons_self
        (Prod.ext sameTower sameNumber)
    obtain ⟨next, passed, copied⟩ := copying.importRow shape first fresh
    obtain ⟨result, imported, all⟩ := ih next copied others distinct
    refine ⟨result, ?_, all⟩
    rw [List.foldlM_cons, bind_eq_ok]
    exact ⟨next, passed, imported⟩

theorem Copying.start (order : InOrder db) (owned : db.project? companyId projectId = some project)
    (noTowers : ∀ id tower, db.towers.find? id = some tower → tower.projectId ≠ projectId)
    (noUnits : ∀ id unit, db.units.find? id = some unit → unit.projectId ≠ projectId) :
    Copying names companyId projectId project db.unitTypes [] db where
  order
  owned
  unitTypes := rfl
  towers id tower found its := absurd its (noTowers id tower found)
  floors id floor tower _ inTower its := absurd its (noTowers _ tower inTower)
  specs := by
    rw [List.map_nil, InventoryDb.specs, List.map_eq_nil_iff, List.eq_nil_iff_forall_not_mem]
    intro row member
    obtain ⟨found, its⟩ := Table.mem_select.mp member
    exact noUnits row.1 row.2 found (of_decide_eq_true its)

end Copying

end OpenEstate.Inventory
