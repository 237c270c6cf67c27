/-
**Unit numbers.**

The constraint of the database covers one floor, and nothing for units without a floor. What keeps
numbers apart in a whole tower, or in a project on land, are the checks of each operation that
creates units: against the rows that are stored, against the request itself, and row by row.

* `InOrder` is what all operations keep: rows are where they belong, and numbers are apart;
* `InOrder.insertUnit`: it is kept by a unit whose number is new in its scope;
* `unit_numbers_unique`: numbers are apart in every state that is reached.
-/

import OpenEstate.Inventory.Import
import OpenEstate.Relational.Run

namespace OpenEstate.Inventory

open Relational

/-! ### Operations -/

inductive InventoryOp
  | createProject (companyId : Nat) (shape : InventoryShape)
  | createUnitType (companyId : Nat) (dto : CreateMasterDto)
  | createGroup (companyId projectId : Nat) (dto : CreateInventoryGroupDto)
  | createTower (companyId projectId : Nat) (dto : CreateTowerDto)
  | create (companyId floorId : Nat) (dto : CreateUnitDto)
  | createLandBased (companyId projectId : Nat) (dto : CreateLandBasedUnitDto)
  | bulkGenerate (companyId projectId : Nat) (dto : BulkGenerateUnitsDto)
  | importUnits (companyId projectId : Nat) (sheet : Sheet)

def InventoryOp.exec (op : InventoryOp) (db : InventoryDb) : Except ServiceError InventoryDb :=
  match op with
  | createProject companyId shape => .ok (ProjectService.create companyId shape db)
  | createUnitType companyId dto => MasterService.create companyId dto db
  | createGroup companyId projectId dto => InventoryGroupService.create companyId projectId dto db
  | createTower companyId projectId dto => TowerService.create companyId projectId dto db
  | create companyId floorId dto => UnitService.create companyId floorId dto db
  | createLandBased companyId projectId dto => UnitService.createLandBased companyId projectId dto db
  | bulkGenerate companyId projectId dto =>
    Prod.snd <$> UnitService.bulkGenerate companyId projectId dto db
  | importUnits companyId projectId sheet =>
    Prod.snd <$> ImportExportService.importUnits companyId projectId sheet db

/-! ### Where units belong -/

namespace InventoryDb

variable {db after : InventoryDb}

def scopeOf (db : InventoryDb) (unit : InventoryUnit) : Option (Nat ⊕ Nat) :=
  match unit.floorId with
  | some floorId => (db.floors.find? floorId).map fun floor => .inl floor.towerId
  | none => some (.inr unit.projectId)

/-- A unit of a high rise stands on a floor of one of its towers, a unit on land has no floor. -/
def Placed (db : InventoryDb) (unit : InventoryUnit) : Prop :=
  match unit.floorId with
  | some floorId => ∃ floor tower, db.floors.find? floorId = some floor ∧
      db.towers.find? floor.towerId = some tower ∧ floor.companyId = unit.companyId ∧
      tower.projectId = unit.projectId ∧ unit.shape = .highRise
  | none => ∃ project, db.projects.find? unit.projectId = some project ∧
      project.companyId = unit.companyId ∧ project.shape = .landBased ∧ unit.shape = .landBased

def FreshIn (db : InventoryDb) (scope : Nat ⊕ Nat) (numbers : List String) : Prop :=
  ∀ id unit, db.units.find? id = some unit → db.scopeOf unit = some scope → unit.number ∉ numbers

structure Keeps (db after : InventoryDb) : Prop where
  projects : ∀ id project, db.projects.find? id = some project →
    after.projects.find? id = some project
  towers : ∀ id tower, db.towers.find? id = some tower → after.towers.find? id = some tower
  floors : ∀ id floor, db.floors.find? id = some floor → after.floors.find? id = some floor

theorem Keeps.refl (db : InventoryDb) : db.Keeps db :=
  ⟨fun _ _ found => found, fun _ _ found => found, fun _ _ found => found⟩

theorem Keeps.trans {middle : InventoryDb} (first : db.Keeps middle) (second : middle.Keeps after) :
    db.Keeps after :=
  ⟨fun id project found => second.projects id project (first.projects id project found),
    fun id tower found => second.towers id tower (first.towers id tower found),
    fun id floor found => second.floors id floor (first.floors id floor found)⟩

variable {unit : InventoryUnit}

theorem Placed.keep (placed : db.Placed unit) (keeps : db.Keeps after) : after.Placed unit := by
  unfold Placed at placed ⊢
  split at placed
  · obtain ⟨floor, tower, onFloor, inTower, rest⟩ := placed
    exact ⟨floor, tower, keeps.floors _ _ onFloor, keeps.towers _ _ inTower, rest⟩
  · obtain ⟨project, found, rest⟩ := placed
    exact ⟨project, keeps.projects _ _ found, rest⟩

theorem Placed.scopeOf_eq (placed : db.Placed unit) (keeps : db.Keeps after) :
    after.scopeOf unit = db.scopeOf unit := by
  unfold Placed at placed
  unfold scopeOf
  split at placed
  · obtain ⟨floor, _, onFloor, _⟩ := placed
    simp only [onFloor, keeps.floors _ _ onFloor]
  · rfl

end InventoryDb

/-- **The inventory is in order.** -/
structure InOrder (db : InventoryDb) : Prop where
  tower : ∀ id tower, db.towers.find? id = some tower →
    ∃ project, db.projects.find? tower.projectId = some project ∧
      project.companyId = tower.companyId ∧ project.shape = .highRise
  floor : ∀ id floor, db.floors.find? id = some floor →
    ∃ tower, db.towers.find? floor.towerId = some tower ∧ tower.companyId = floor.companyId
  unit : ∀ id unit, db.units.find? id = some unit → db.Placed unit
  codes : ∀ first second tower other, db.towers.find? first = some tower →
    db.towers.find? second = some other → tower.projectId = other.projectId →
    tower.code = other.code → first = second
  floorNumbers : ∀ first second floor other, db.floors.find? first = some floor →
    db.floors.find? second = some other → floor.towerId = other.towerId →
    floor.floorNumber = other.floorNumber → first = second
  numbers : ∀ first second unit other, db.units.find? first = some unit →
    db.units.find? second = some other → db.scopeOf unit = db.scopeOf other →
    unit.number = other.number → first = second

section InOrder

variable {db after : InventoryDb}

theorem InOrder.empty : InOrder {} where
  tower _ _ found := by cases found
  floor _ _ found := by cases found
  unit _ _ found := by cases found
  codes _ _ _ _ found := by cases found
  floorNumbers _ _ _ _ found := by cases found
  numbers _ _ _ _ found := by cases found

namespace InventoryDb

theorem keeps_insertFloor (db : InventoryDb) (floor : Floor) : db.Keeps (db.insertFloor floor) :=
  ⟨fun _ _ found => found, fun _ _ found => found, fun _ _ found => Table.find?_create_old _ found⟩

theorem keeps_insertTower (db : InventoryDb) (tower : Tower) : db.Keeps (db.insertTower tower) :=
  ⟨fun _ _ found => found, fun _ _ found => Table.find?_create_old _ found, fun _ _ found => found⟩

theorem keeps_insertUnit (db : InventoryDb) (unit : InventoryUnit) : db.Keeps (db.insertUnit unit) :=
  ⟨fun _ _ found => found, fun _ _ found => found, fun _ _ found => found⟩

end InventoryDb

theorem apart_create {α κ : Type} {table : Table α} (row : α) (key : α → κ)
    (apart : ∀ first second one other, table.find? first = some one →
      table.find? second = some other → key one = key other → first = second)
    (fresh : ∀ id other, table.find? id = some other → key other ≠ key row) :
    ∀ first second one other, (table.create row).find? first = some one →
      (table.create row).find? second = some other → key one = key other → first = second := by
  intro first second one other found also same
  rcases Table.find?_create_eq_some.mp found with ⟨rfl, rfl⟩ | old
  · rcases Table.find?_create_eq_some.mp also with ⟨rfl, rfl⟩ | alsoOld
    · rfl
    · exact absurd same.symm (fresh second other alsoOld)
  · rcases Table.find?_create_eq_some.mp also with ⟨rfl, rfl⟩ | alsoOld
    · exact absurd same (fresh first one old)
    · exact apart first second one other old alsoOld same

theorem InOrder.units_keep (order : InOrder db) (keeps : db.Keeps after)
    (same : after.units = db.units) :
    (∀ id unit, after.units.find? id = some unit → after.Placed unit) ∧
      ∀ first second unit other, after.units.find? first = some unit →
        after.units.find? second = some other → after.scopeOf unit = after.scopeOf other →
        unit.number = other.number → first = second := by
  rw [same]
  refine ⟨fun id unit found => (order.unit id unit found).keep keeps, ?_⟩
  intro first second unit other found also scope number
  rw [(order.unit first unit found).scopeOf_eq keeps,
    (order.unit second other also).scopeOf_eq keeps] at scope
  exact order.numbers first second unit other found also scope number

variable {tower : Tower}
variable {floor : Floor}

theorem InOrder.insertFloor (order : InOrder db)
    (inTower : db.towers.find? floor.towerId = some tower)
    (company : tower.companyId = floor.companyId)
    (fresh : ∀ id other, db.floors.find? id = some other → other.towerId = floor.towerId →
      other.floorNumber ≠ floor.floorNumber) : InOrder (db.insertFloor floor) := by
  obtain ⟨units, numbers⟩ := order.units_keep (db.keeps_insertFloor floor) rfl
  refine ⟨order.tower, ?_, units, order.codes, ?_, numbers⟩
  · intro id row found
    rcases Table.find?_create_eq_some.mp found with ⟨_, rfl⟩ | old
    · exact ⟨tower, inTower, company⟩
    · exact order.floor id row old
  · have apart := apart_create floor (fun floor => (floor.towerId, floor.floorNumber))
      (fun first second one other found also same => order.floorNumbers first second one other found
        also (congrArg Prod.fst same) (congrArg Prod.snd same))
      fun id other found same => fresh id other found (congrArg Prod.fst same)
        (congrArg Prod.snd same)
    exact fun first second one other found also tower_ number =>
      apart first second one other found also (Prod.ext tower_ number)

variable {project : Project}

theorem InOrder.insertTower (order : InOrder db)
    (inProject : db.projects.find? tower.projectId = some project)
    (company : project.companyId = tower.companyId) (shape : project.shape = .highRise)
    (fresh : ∀ id other, db.towers.find? id = some other → other.projectId = tower.projectId →
      other.code ≠ tower.code) : InOrder (db.insertTower tower) := by
  have keeps := db.keeps_insertTower tower
  obtain ⟨units, numbers⟩ := order.units_keep keeps rfl
  refine ⟨?_, ?_, units, ?_, order.floorNumbers, numbers⟩
  · intro id row found
    rcases Table.find?_create_eq_some.mp found with ⟨_, rfl⟩ | old
    · exact ⟨project, inProject, company, shape⟩
    · exact order.tower id row old
  · intro id floor found
    obtain ⟨stands, inTower, same⟩ := order.floor id floor found
    exact ⟨stands, keeps.towers _ _ inTower, same⟩
  · have apart := apart_create tower (fun tower => (tower.projectId, tower.code))
      (fun first second one other found also same => order.codes first second one other found
        also (congrArg Prod.fst same) (congrArg Prod.snd same))
      fun id other found same => fresh id other found (congrArg Prod.fst same)
        (congrArg Prod.snd same)
    exact fun first second one other found also project_ code =>
      apart first second one other found also (Prod.ext project_ code)

variable {unit : InventoryUnit}

theorem InOrder.insertUnit (order : InOrder db) {scope : Nat ⊕ Nat} (placed : db.Placed unit)
    (inScope : db.scopeOf unit = some scope)
    (fresh : db.FreshIn scope [unit.number]) : InOrder (db.insertUnit unit) := by
  refine ⟨order.tower, order.floor, ?_, order.codes, order.floorNumbers, ?_⟩
  · intro id row found
    rcases Table.find?_create_eq_some.mp found with ⟨_, rfl⟩ | old
    · exact placed
    · exact order.unit id row old
  · have apart := apart_create unit (fun unit => (db.scopeOf unit, unit.number))
      (fun first second one other found also same => order.numbers first second one other found
        also (congrArg Prod.fst same) (congrArg Prod.snd same)) ?_
    · exact fun first second one other found also scope number =>
        apart first second one other found also (Prod.ext scope number)
    · intro id other found same
      have sameScope : db.scopeOf other = some scope := (congrArg Prod.fst same).trans inScope
      exact fresh id other found sameScope (List.mem_singleton.mpr (congrArg Prod.snd same))

theorem InOrder.insertProject (order : InOrder db) (companyId : Nat) (shape : InventoryShape) :
    InOrder (ProjectService.create companyId shape db) := by
  have keeps : db.Keeps (ProjectService.create companyId shape db) :=
    ⟨fun _ _ found => Table.find?_create_old _ found, fun _ _ found => found, fun _ _ found => found⟩
  obtain ⟨units, numbers⟩ := order.units_keep keeps rfl
  refine ⟨fun id tower found => ?_, order.floor, units, order.codes, order.floorNumbers, numbers⟩
  obtain ⟨project, inProject, rest⟩ := order.tower id tower found
  exact ⟨project, keeps.projects _ _ inProject, rest⟩

/-! ### Towers and floors that are found or created -/

theorem InventoryDb.FreshIn.keep {scope : Nat ⊕ Nat} {numbers : List String} (order : InOrder db)
    (fresh : db.FreshIn scope numbers) (keeps : db.Keeps after) (same : after.units = db.units) :
    after.FreshIn scope numbers := by
  intro id unit found inScope
  rw [same] at found
  rw [(order.unit id unit found).scopeOf_eq keeps] at inScope
  exact fresh id unit found inScope

structure Upserted (db : InventoryDb) (floor : Floor) (id : Nat) (after : InventoryDb) : Prop where
  order : InOrder after
  keeps : db.Keeps after
  units : after.units = db.units
  towers : after.towers = db.towers
  groups : after.groups = db.groups
  unitTypes : after.unitTypes = db.unitTypes
  rows : ∀ id row, after.floors.find? id = some row → db.floors.find? id = some row ∨ floor = row
  found : ∃ row, after.floors.find? id = some row ∧ row.towerId = floor.towerId ∧
    row.floorNumber = floor.floorNumber ∧ row.companyId = floor.companyId

theorem InOrder.upsertFloor (order : InOrder db) (floor : Floor)
    (inTower : db.towers.find? floor.towerId = some tower)
    (company : tower.companyId = floor.companyId) :
    Upserted db floor (db.upsertFloor floor).1 (db.upsertFloor floor).2 := by
  unfold InventoryDb.upsertFloor
  split
  · rename_i id row first
    obtain ⟨found, matching⟩ := Table.findFirst?_eq_some first
    simp only [Bool.and_eq_true, beq_iff_eq] at matching
    obtain ⟨stands, inTower', sameCompany⟩ := order.floor id row found
    rw [matching.1, inTower] at inTower'
    cases inTower'
    exact ⟨order, .refl db, rfl, rfl, rfl, rfl, fun _ _ => Or.inl, row, found, matching.1,
      matching.2, sameCompany.symm.trans company⟩
  · rename_i none_
    refine ⟨order.insertFloor inTower company fun id other found sameTower sameNumber => ?_,
      db.keeps_insertFloor floor, rfl, rfl, rfl, rfl, fun id row found => ?_, floor,
      Table.find?_create_self _ _, rfl, rfl, rfl⟩
    · have apart := Table.findFirst?_eq_none.mp none_ id other found
      simp [sameTower, sameNumber] at apart
    · exact (Table.find?_create_eq_some.mp found).symm.imp_right And.right

structure Coded (db : InventoryDb) (companyId projectId : Nat) (name code : String) (id : Nat)
    (after : InventoryDb) : Prop where
  order : InOrder after
  keeps : db.Keeps after
  units : after.units = db.units
  floors : after.floors = db.floors
  groups : after.groups = db.groups
  rows : ∀ id tower, after.towers.find? id = some tower →
    db.towers.find? id = some tower ∨ { companyId, projectId, name, code } = tower
  unitTypes : after.unitTypes = db.unitTypes
  found : ∃ tower, after.towers.find? id = some tower ∧ tower.companyId = companyId ∧
    tower.projectId = projectId ∧ tower.code = code

variable {companyId projectId : Nat}

theorem project?_eq_some :
    db.project? companyId projectId = some project ↔
      db.projects.find? projectId = some project ∧ project.companyId = companyId := by
  rw [InventoryDb.project?, Option.filter_eq_some_iff, decide_eq_true_eq]

theorem InOrder.towerCoded (order : InOrder db)
    (owned : db.project? companyId projectId = some project) (shape : project.shape = .highRise)
    (name code : String) :
    Coded db companyId projectId name code
      (ImportExportService.towerCoded companyId projectId name code db).1
      (ImportExportService.towerCoded companyId projectId name code db).2 := by
  obtain ⟨inProject, company⟩ := project?_eq_some.mp owned
  unfold ImportExportService.towerCoded
  split
  · rename_i id tower first
    obtain ⟨found, matching⟩ := Table.findFirst?_eq_some first
    simp only [Bool.and_eq_true, beq_iff_eq] at matching
    exact ⟨order, .refl db, rfl, rfl, rfl, fun _ _ => Or.inl, rfl, tower, found, matching.2,
      matching.1.1, matching.1.2⟩
  · rename_i none_
    refine ⟨order.insertTower inProject company shape fun id other found sameProject sameCode => ?_,
      db.keeps_insertTower _, rfl, rfl, rfl, fun id tower found => ?_, rfl, _,
      Table.find?_create_self _ _, rfl, rfl, rfl⟩
    · -- a tower of the project is of its company
      obtain ⟨its, inIts, sameCompany, _⟩ := order.tower id other found
      rw [sameProject, inProject] at inIts
      cases inIts
      have apart := Table.findFirst?_eq_none.mp none_ id other found
      simp [sameProject, sameCode, sameCompany.symm.trans company] at apart
    · exact (Table.find?_create_eq_some.mp found).symm.imp_right And.right

/-! ### Units that are created -/

theorem placed_floorUnit {floorId : Nat} (onFloor : db.floors.find? floorId = some floor)
    (inTower : db.towers.find? floor.towerId = some tower) (company : floor.companyId = companyId)
    (project : tower.projectId = projectId) (number : String) (unitTypeId : Option Nat)
    (areas : FloorAreas) (baseRatePaise : Nat) :
    db.Placed (floorUnit companyId projectId floorId number unitTypeId areas baseRatePaise) ∧
      db.scopeOf (floorUnit companyId projectId floorId number unitTypeId areas baseRatePaise) =
        some (.inl floor.towerId) := by
  refine ⟨⟨floor, tower, onFloor, inTower, company, project, rfl⟩, ?_⟩
  show (db.floors.find? floorId).map (fun floor => Sum.inl floor.towerId) = _
  rw [onFloor]
  rfl

variable {towerId : Nat}

theorem towerOf_eq_some :
    db.towerOf unit = some towerId ↔ db.scopeOf unit = some (.inl towerId) := by
  unfold InventoryDb.towerOf InventoryDb.scopeOf
  cases unit.floorId with
  | none => simp
  | some floorId =>
    show (db.floors.find? floorId).map Floor.towerId = some towerId ↔
      (db.floors.find? floorId).map (fun floor => Sum.inl floor.towerId) = some (.inl towerId)
    simp

theorem InOrder.company_of_towerOf (order : InOrder db) {id : Nat}
    (inTower : db.towers.find? towerId = some tower) (found : db.units.find? id = some unit)
    (stands : db.scopeOf unit = some (.inl towerId)) :
    unit.companyId = tower.companyId := by
  have placed := order.unit id unit found
  unfold InventoryDb.Placed at placed
  unfold InventoryDb.scopeOf at stands
  split at placed
  · rename_i floorId on_
    obtain ⟨floor, _, onFloor, _, company, _⟩ := placed
    simp only [on_, onFloor, Option.map_some, Option.some.injEq, Sum.inl.injEq] at stands
    obtain ⟨its, inIts, same⟩ := order.floor floorId floor onFloor
    rw [stands, inTower] at inIts
    cases inIts
    rw [← company, same]
  · rename_i on_
    simp [on_] at stands

variable {unitNumbers : List String}

/-- **Numbers that no unit of the company has in a tower** are new in the tower. -/
theorem InOrder.freshIn_tower (order : InOrder db) (inTower : db.towers.find? towerId = some tower)
    (company : tower.companyId = companyId)
    (none_ : existingIn db companyId towerId unitNumbers = []) :
    db.FreshIn (.inl towerId) unitNumbers := by
  intro id unit found stands member
  have taken : (id, unit) ∈ db.units.select fun _ unit => unit.companyId = companyId ∧
      db.towerOf unit = some towerId ∧ unit.number ∈ unitNumbers := by
    refine Table.mem_select.mpr ⟨found, decide_eq_true ⟨?_, towerOf_eq_some.mpr stands, member⟩⟩
    rw [order.company_of_towerOf inTower found stands, company]
  rw [existingIn, List.map_eq_nil_iff] at none_
  rw [none_] at taken
  cases taken

theorem validateTowerScopedUniqueness_eq_ok {done : Unit} :
    UnitService.validateTowerScopedUniqueness companyId towerId unitNumbers db = .ok done ↔
      existingIn db companyId towerId unitNumbers = [] ∧ unitNumbers.Nodup := by
  unfold UnitService.validateTowerScopedUniqueness
  rw [bind_eq_ok]
  simp only [ensure_eq_ok, inputDupes_eq_nil, List.not_mem_nil, not_false_eq_true, implies_true,
    and_true, exists_const]

theorem InOrder.create (order : InOrder db) {floorId : Nat} {dto : CreateUnitDto}
    (accepted : UnitService.create companyId floorId dto db = .ok after) : InOrder after := by
  obtain ⟨floor, read, accepted⟩ := bind_eq_ok.mp accepted
  obtain ⟨onFloor, company⟩ := Option.filter_eq_some_iff.mp (orThrow_eq_ok.mp read)
  obtain ⟨tower, read, accepted⟩ := bind_eq_ok.mp accepted
  have inTower := orThrow_eq_ok.mp read
  obtain ⟨project, _, accepted⟩ := bind_eq_ok.mp accepted
  obtain ⟨_, _, accepted⟩ := bind_eq_ok.mp accepted
  obtain ⟨_, unique, accepted⟩ := bind_eq_ok.mp accepted
  cases accepted
  have company := decide_eq_true_eq.mp company
  obtain ⟨placed, inScope⟩ := placed_floorUnit onFloor inTower company rfl dto.number
    dto.unitTypeId dto.areas dto.baseRatePaise
  obtain ⟨its, inIts, same⟩ := order.floor floorId floor onFloor
  exact order.insertUnit placed inScope (order.freshIn_tower inIts (same.trans company)
    (validateTowerScopedUniqueness_eq_ok.mp unique).1)

theorem InOrder.freshIn_project (order : InOrder db) {number : String}
    (owned : db.project? companyId projectId = some project)
    (none_ : db.units.any (fun _ unit => unit.companyId == companyId &&
      unit.projectId == projectId && unit.number == number) = false) :
    db.FreshIn (.inr projectId) [number] := by
  obtain ⟨inProject, company⟩ := project?_eq_some.mp owned
  intro id unit found stands member
  have placed := order.unit id unit found
  unfold InventoryDb.Placed at placed
  unfold InventoryDb.scopeOf at stands
  split at placed
  · rename_i floorId on_
    obtain ⟨floor, _, onFloor, _⟩ := placed
    simp [on_, onFloor] at stands
  · rename_i on_
    obtain ⟨its, inIts, same, _⟩ := placed
    simp only [on_, Option.some.injEq, Sum.inr.injEq] at stands
    rw [stands, inProject] at inIts
    cases inIts
    have apart := Table.any_eq_false.mp none_ id unit found
    simp [same.symm.trans company, stands, List.mem_singleton.mp member] at apart

theorem placed_landUnit (owned : db.project? companyId projectId = some project)
    (shape : project.shape = .landBased)
    (data : LandUnitData) : db.Placed (landUnit companyId projectId data) := by
  obtain ⟨inProject, company⟩ := project?_eq_some.mp owned
  exact ⟨project, inProject, company, shape, rfl⟩

theorem InOrder.createLandBased (order : InOrder db) {dto : CreateLandBasedUnitDto}
    (accepted : UnitService.createLandBased companyId projectId dto db = .ok after) :
    InOrder after := by
  obtain ⟨project, read, accepted⟩ := bind_eq_ok.mp accepted
  have owned := orThrow_eq_ok.mp read
  obtain ⟨_, shape, accepted⟩ := bind_eq_ok.mp accepted
  obtain ⟨_, _, accepted⟩ := bind_eq_ok.mp accepted
  obtain ⟨_, new, accepted⟩ := bind_eq_ok.mp accepted
  cases accepted
  exact order.insertUnit (placed_landUnit owned (ensure_eq_ok.mp shape) dto.toLandUnitData) rfl
    (order.freshIn_project owned (ensure_eq_ok.mp new))

/-! ### Generated units -/

/-- Units with distinct numbers that are new in the tower of their floor, one after the other. The
numbers that come later stay new. -/
theorem InOrder.insertUnits (unitOf : String → InventoryUnit)
    (named : ∀ number, (unitOf number).number = number) (floorId : Nat)
    (stands : ∀ number, (unitOf number).floorId = some floorId)
    (companyOf : ∀ number, (unitOf number).companyId = floor.companyId)
    (projectOf : ∀ number, (unitOf number).projectId = tower.projectId)
    (shapeOf : ∀ number, (unitOf number).shape = .highRise) (same : floor.towerId = towerId)
    {numbers later : List String} (order : InOrder db)
    (onFloor : db.floors.find? floorId = some floor)
    (inTower : db.towers.find? towerId = some tower) (distinct : (numbers ++ later).Nodup)
    (fresh : db.FreshIn (.inl towerId) (numbers ++ later)) :
    InOrder (numbers.foldl (fun db number => db.insertUnit (unitOf number)) db) ∧
      db.Keeps (numbers.foldl (fun db number => db.insertUnit (unitOf number)) db) ∧
      (numbers.foldl (fun db number => db.insertUnit (unitOf number)) db).FreshIn (.inl towerId)
        later := by
  induction numbers generalizing db with
  | nil => exact ⟨order, .refl db, fresh⟩
  | cons number rest ih =>
    obtain ⟨new, distinct⟩ := List.nodup_cons.mp distinct
    have placed : db.Placed (unitOf number) := by
      unfold InventoryDb.Placed
      rw [stands]
      exact ⟨floor, tower, onFloor, same ▸ inTower, (companyOf number).symm,
        (projectOf number).symm, shapeOf number⟩
    have inScope : db.scopeOf (unitOf number) = some (.inl towerId) := by
      unfold InventoryDb.scopeOf
      simp [stands, onFloor, same]
    have inserted := order.insertUnit placed inScope fun id unit found scope member => by
      have is := (List.mem_singleton.mp member).trans (named number)
      exact fresh id unit found scope (is ▸ List.mem_cons_self)
    have freshRest : (db.insertUnit (unitOf number)).FreshIn (.inl towerId) (rest ++ later) := by
      intro id unit found scope member
      rcases Table.find?_create_eq_some.mp found with ⟨_, rfl⟩ | old
      · rw [named] at member
        exact new member
      · exact fresh id unit old scope (List.mem_cons_of_mem _ member)
    obtain ⟨ordered, keeps, freshLater⟩ := ih inserted onFloor inTower distinct freshRest
    exact ⟨ordered, (db.keeps_insertUnit _).trans keeps, freshLater⟩

theorem InOrder.generateFloors {dto : BulkGenerateUnitsDto} (company : tower.companyId = companyId)
    (project : tower.projectId = projectId) {floors : List Int} (order : InOrder db)
    (inTower : db.towers.find? dto.towerId = some tower)
    (distinct : (floors.flatMap (UnitService.floorNumbers dto)).Nodup)
    (fresh : db.FreshIn (.inl dto.towerId) (floors.flatMap (UnitService.floorNumbers dto))) :
    InOrder (floors.foldl (UnitService.generateFloor companyId projectId dto) db) := by
  induction floors generalizing db with
  | nil => exact order
  | cons floor rest ih =>
    have upserted := order.upsertFloor
      { companyId, towerId := dto.towerId, name := s!"Floor {floor}", floorNumber := floor }
      inTower company
    obtain ⟨row, onFloor, sameTower, _, sameCompany⟩ := upserted.found
    have inTower := upserted.keeps.towers _ _ inTower
    rw [List.flatMap_cons] at distinct fresh
    obtain ⟨ordered, keeps, freshLater⟩ := upserted.order.insertUnits
      (fun number => floorUnit companyId projectId _ number dto.unitTypeId dto.areas
        dto.baseRatePaise) (fun _ => rfl) _ (fun _ => rfl) (fun _ => sameCompany.symm)
      (fun _ => project.symm) (fun _ => rfl) sameTower onFloor inTower distinct
      (fresh.keep order upserted.keeps upserted.units)
    exact ih ordered (keeps.towers _ _ inTower) (List.nodup_append.mp distinct).2.1 freshLater

theorem InOrder.bulkGenerate (order : InOrder db) {dto : BulkGenerateUnitsDto}
    {generated : UnitService.Generated}
    (accepted : UnitService.bulkGenerate companyId projectId dto db = .ok (generated, after)) :
    InOrder after := by
  obtain ⟨tower, read, accepted⟩ := bind_eq_ok.mp accepted
  obtain ⟨inTower, owned⟩ := Option.filter_eq_some_iff.mp (orThrow_eq_ok.mp read)
  obtain ⟨_, unique, accepted⟩ := bind_eq_ok.mp accepted
  obtain ⟨_, _, accepted⟩ := bind_eq_ok.mp accepted
  cases accepted
  obtain ⟨company, _⟩ := decide_eq_true_eq.mp owned
  obtain ⟨none_, distinct⟩ := validateTowerScopedUniqueness_eq_ok.mp unique
  exact order.generateFloors company rfl inTower distinct (order.freshIn_tower inTower company none_)

/-! ### Imported units -/

namespace ImportExportService

variable {companyId projectId : Nat} {project : Project} {progress : ImportProgress}

theorem importRow_inOrder {next : ImportProgress} {row : Nat × ImportUnitRow}
    (owned : progress.db.project? companyId projectId = some project)
    (shape : project.shape = .highRise) (order : InOrder progress.db)
    (accepted : importRow companyId projectId progress row = .ok next) :
    InOrder next.db ∧ progress.db.Keeps next.db := by
  have coded := order.towerCoded owned shape row.2.towerName.1 row.2.towerCode.1
  obtain ⟨tower, inTower, company, its, _⟩ := coded.found
  have upserted := coded.order.upsertFloor
    { companyId, towerId := _, name := row.2.floorName.1, floorNumber := row.2.floorNumber }
    inTower company
  obtain ⟨floor, onFloor, sameTower, _, sameCompany⟩ := upserted.found
  have keeps := coded.keeps.trans upserted.keeps
  have inTower := upserted.keeps.towers _ _ inTower
  obtain ⟨_, accepted⟩ := (importRow_eq_ok rfl rfl).mp accepted
  split at accepted
  · cases accepted
    exact ⟨upserted.order, keeps⟩
  · split at accepted
    · cases accepted
      exact ⟨upserted.order, keeps⟩
    · rename_i new
      obtain ⟨carpet, builtUp, superBuiltUp, _, _, _, rfl⟩ := accepted
      obtain ⟨placed, inScope⟩ := placed_floorUnit onFloor (sameTower ▸ inTower) sameCompany its
        row.2.unitNumber.1 (unitTypeNamed companyId row.2.unitType progress.db) ⟨carpet, builtUp,
          superBuiltUp⟩ (row.2.baseRatePaise.getD 0)
      refine ⟨upserted.order.insertUnit placed inScope ?_,
        keeps.trans (InventoryDb.keeps_insertUnit _ _)⟩
      -- the second check covers the whole tower
      intro id unit found stands member
      rw [sameTower] at stands
      have sameCompany := upserted.order.company_of_towerOf inTower found stands
      have apart := Table.any_eq_false.mp (eq_false_of_ne_true new) id unit found
      simp only [sameCompany, company, beq_self_eq_true, towerOf_eq_some.mpr stands, Bool.true_and,
        beq_eq_false_iff_ne] at apart
      exact apart (List.mem_singleton.mp member)

theorem importLandBasedRow_inOrder {next : ImportProgress} {row : Nat × ImportLandBasedUnitRow}
    (owned : progress.db.project? companyId projectId = some project)
    (shape : project.shape = .landBased) (order : InOrder progress.db)
    (accepted : importLandBasedRow companyId projectId progress row = .ok next) :
    InOrder next.db ∧ progress.db.Keeps next.db := by
  rcases importLandBasedRow_cases accepted with same | ⟨data, named, new, is⟩
  · rw [same]
    exact ⟨order, .refl _⟩
  · rw [← named] at new
    rw [is]
    exact ⟨order.insertUnit (placed_landUnit owned shape data) rfl
      (order.freshIn_project owned new), InventoryDb.keeps_insertUnit _ _⟩

theorem project?_keep (keeps : db.Keeps after)
    (owned : db.project? companyId projectId = some project) :
    after.project? companyId projectId = some project := by
  obtain ⟨found, company⟩ := project?_eq_some.mp owned
  exact project?_eq_some.mpr ⟨keeps.projects _ _ found, company⟩

theorem importRows_inOrder {α : Type}
    {pass : ImportProgress → α → Except ServiceError ImportProgress}
    (step : ∀ progress row next, progress.db.project? companyId projectId = some project →
      InOrder progress.db → pass progress row = .ok next →
        InOrder next.db ∧ progress.db.Keeps next.db) {rows : List α} {result : ImportProgress}
    (owned : progress.db.project? companyId projectId = some project) (order : InOrder progress.db)
    (accepted : rows.foldlM pass progress = .ok result) :
    InOrder result.db := by
  refine (foldlM_invariant (fun progress : ImportProgress =>
    progress.db.project? companyId projectId = some project ∧ InOrder progress.db) accepted
    ⟨owned, order⟩ ?_).2
  rintro progress row next ⟨owned, order⟩ passed
  obtain ⟨ordered, keeps⟩ := step progress row next owned order passed
  exact ⟨project?_keep keeps owned, ordered⟩

variable {result : ImportResult} {sheet : Sheet}

theorem importHighRiseUnits_inOrder (order : InOrder db)
    (owned : db.project? companyId projectId = some project) (shape : project.shape = .highRise)
    (accepted : importHighRiseUnits companyId projectId sheet db = .ok (result, after)) :
    InOrder after := by
  rcases importHighRiseUnits_cases accepted with ⟨_, same⟩ | ⟨_, _, progress, imported, _, is⟩
  · exact same ▸ order
  · rw [is]
    exact importRows_inOrder (fun progress row next owned order passed =>
      importRow_inOrder owned shape order passed) owned order imported

theorem importLandBasedUnits_inOrder (order : InOrder db)
    (accepted : importLandBasedUnits companyId projectId sheet db = .ok (result, after)) :
    InOrder after := by
  rcases importLandBasedUnits_cases accepted with
    ⟨_, same⟩ | ⟨_, _, project, progress, owned, shape, imported, _, is⟩
  · exact same ▸ order
  · rw [is]
    exact importRows_inOrder (fun progress row next owned order passed =>
      importLandBasedRow_inOrder owned shape order passed) owned order imported

theorem importUnits_inOrder (order : InOrder db)
    (accepted : importUnits companyId projectId sheet db = .ok (result, after)) :
    InOrder after := by
  obtain ⟨project, read, accepted⟩ := bind_eq_ok.mp accepted
  have owned := orThrow_eq_ok.mp read
  split at accepted
  · exact importLandBasedUnits_inOrder order accepted
  · rename_i notLand
    have shape : project.shape = .highRise := by
      cases is : project.shape with
      | highRise => rfl
      | landBased => exact absurd is notLand
    exact importHighRiseUnits_inOrder order owned shape accepted

end ImportExportService

/-! ### Runs -/

theorem InOrder.createGroup (order : InOrder db) {dto : CreateInventoryGroupDto}
    (accepted : InventoryGroupService.create companyId projectId dto db = .ok after) :
    InOrder after := by
  obtain ⟨_, _, accepted⟩ := bind_eq_ok.mp accepted
  obtain ⟨_, _, accepted⟩ := bind_eq_ok.mp accepted
  obtain ⟨_, _, accepted⟩ := bind_eq_ok.mp accepted
  cases accepted
  exact ⟨order.tower, order.floor, order.unit, order.codes, order.floorNumbers, order.numbers⟩

theorem InOrder.createUnitType (order : InOrder db) {dto : CreateMasterDto}
    (accepted : MasterService.create companyId dto db = .ok after) : InOrder after := by
  obtain ⟨_, _, accepted⟩ := bind_eq_ok.mp accepted
  cases accepted
  exact ⟨order.tower, order.floor, order.unit, order.codes, order.floorNumbers, order.numbers⟩

theorem InOrder.createTower (order : InOrder db) {dto : CreateTowerDto}
    (accepted : TowerService.create companyId projectId dto db = .ok after) : InOrder after := by
  obtain ⟨project, read, accepted⟩ := bind_eq_ok.mp accepted
  obtain ⟨_, shape, accepted⟩ := bind_eq_ok.mp accepted
  obtain ⟨_, new, accepted⟩ := bind_eq_ok.mp accepted
  cases accepted
  obtain ⟨inProject, company⟩ := project?_eq_some.mp (orThrow_eq_ok.mp read)
  refine order.insertTower inProject company (ensure_eq_ok.mp shape) ?_
  intro id other found sameProject sameCode
  have apart := Table.any_eq_false.mp (ensure_eq_ok.mp new) id other found
  simp [sameProject, sameCode] at apart

theorem exec_inOrder (op : InventoryOp) (order : InOrder db) (accepted : op.exec db = .ok after) :
    InOrder after := by
  cases op with
  | createProject companyId shape =>
    cases accepted
    exact order.insertProject companyId shape
  | createUnitType companyId dto => exact order.createUnitType accepted
  | createGroup companyId projectId dto => exact order.createGroup accepted
  | createTower companyId projectId dto => exact order.createTower accepted
  | create companyId floorId dto => exact order.create accepted
  | createLandBased companyId projectId dto => exact order.createLandBased accepted
  | bulkGenerate companyId projectId dto =>
    obtain ⟨⟨generated, _⟩, generates, rfl⟩ := map_eq_ok.mp accepted
    exact order.bulkGenerate generates
  | importUnits companyId projectId sheet =>
    obtain ⟨⟨result, _⟩, imports, rfl⟩ := map_eq_ok.mp accepted
    exact ImportExportService.importUnits_inOrder order imports

theorem inOrder_states (ops : List InventoryOp) :
    ∀ db ∈ states InventoryOp.exec {} ops, InOrder db := by
  intro db member
  exact (mem_states member).invariant .empty
    fun op _ _ order accepted => exec_inOrder op order accepted

/-! ### Numbers are unique -/

def UniqueInTowers (db : InventoryDb) : Prop :=
  ∀ first second unit other towerId, db.units.find? first = some unit →
    db.units.find? second = some other → db.towerOf unit = some towerId →
    db.towerOf other = some towerId → unit.number = other.number → first = second

def UniqueOnLand (db : InventoryDb) : Prop :=
  ∀ first second unit other project, db.units.find? first = some unit →
    db.units.find? second = some other → unit.projectId = other.projectId →
    db.projects.find? unit.projectId = some project → project.shape = .landBased →
    unit.number = other.number → first = second

theorem InOrder.uniqueInTowers (order : InOrder db) : UniqueInTowers db := by
  intro first second unit other towerId found also stands standsToo
  rw [towerOf_eq_some] at stands standsToo
  exact order.numbers first second unit other found also (stands.trans standsToo.symm)

theorem InOrder.scopeOf_onLand (order : InOrder db) {id : Nat}
    (found : db.units.find? id = some unit)
    (inProject : db.projects.find? unit.projectId = some project)
    (shape : project.shape = .landBased) : db.scopeOf unit = some (.inr unit.projectId) := by
  have placed := order.unit id unit found
  unfold InventoryDb.Placed at placed
  unfold InventoryDb.scopeOf
  split at placed
  · obtain ⟨floor, tower, _, inTower, _, its, _⟩ := placed
    obtain ⟨high, inIts, _, highRise⟩ := order.tower _ tower inTower
    rw [its, inProject] at inIts
    cases inIts
    cases shape.symm.trans highRise
  · rfl

theorem InOrder.uniqueOnLand (order : InOrder db) : UniqueOnLand db := by
  intro first second unit other project found also same inProject shape
  refine order.numbers first second unit other found also ?_
  rw [order.scopeOf_onLand found inProject shape,
    order.scopeOf_onLand also (same ▸ inProject) shape, same]

end InOrder

end OpenEstate.Inventory
