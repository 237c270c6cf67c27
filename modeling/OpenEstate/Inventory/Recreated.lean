/-
**Exporting and importing again.**

The file of a high rise recreates its units if every base rate is a double, and no area is stored as
zero, or absent where the library for worksheets gives empty texts back. The file of a project on
land is never accepted: its headers for the unit of the land area, the unit of the rate and the rate
are not those that an import reads.

* `RecreatesInventory`: what an export and an import into an empty project should do;
* `recreates_iff`: when they do.
-/

import OpenEstate.Inventory.Reading

namespace OpenEstate.Inventory

open Relational

/-! ### Copies of a project -/

/-- An empty project of the same shape, with the same groups and unit types. -/
structure EmptyCopy (db : InventoryDb) (companyId sourceId toCompanyId targetId : Nat) : Prop where
  shape : ∃ source target, db.project? companyId sourceId = some source ∧
    db.project? toCompanyId targetId = some target ∧ target.shape = source.shape
  noTowers : ∀ id tower, db.towers.find? id = some tower → tower.projectId ≠ targetId
  noUnits : ∀ id unit, db.units.find? id = some unit → unit.projectId ≠ targetId
  groups : ∀ code, db.groups.any (fun _ group => group.companyId == companyId &&
      group.projectId == sourceId && group.code == code) =
    db.groups.any (fun _ group => group.companyId == toCompanyId &&
      group.projectId == targetId && group.code == code)
  unitTypes : ∀ id unit, db.units.find? id = some unit → unit.projectId = sourceId →
    ∀ name ∈ (db.viewOf unit).unitType.map UnitType.name, ∃ key unitType,
      db.unitTypes.find? key = some unitType ∧ unitType.companyId = toCompanyId ∧
        unitType.name = name

/-- **The file of a project, imported into another one, recreates its units**: there are no errors,
and the units are the same but for their keys. -/
def RecreatesInventory (collation : String → String → Bool) (blanks : BlankCells)
    (companyId sourceId toCompanyId targetId : Nat) (db : InventoryDb) : Prop :=
  ∃ sheet result after,
    ImportExportService.exportUnits collation companyId sourceId db = .ok sheet ∧
    ImportExportService.importUnits toCompanyId targetId (readBack blanks sheet) db =
      .ok (result, after) ∧
    result.success = true ∧ result.errors = [] ∧
    (after.specs targetId).Perm (db.specs sourceId)

/-! ### Units of a high rise -/

section HighRise

variable {db : InventoryDb} {companyId sourceId : Nat} {source : Project}

structure Located (db : InventoryDb) (companyId projectId : Nat) (unit : InventoryUnit)
    (tower : Tower) (floor : Floor) : Prop where
  standing : Standing (db.viewOf unit) tower floor
  inTower : db.towers.find? floor.towerId = some tower
  onFloor : ∃ floorId, db.floors.find? floorId = some floor
  scope : db.scopeOf unit = some (.inl floor.towerId)
  project : tower.projectId = projectId
  company : unit.companyId = companyId
  shape : unit.shape = .highRise

theorem InOrder.located (order : InOrder db) (stored : Stored db)
    (owned : db.project? companyId sourceId = some source) (shape : source.shape = .highRise)
    {id : Nat} {unit : InventoryUnit} (found : db.units.find? id = some unit)
    (its : unit.projectId = sourceId) :
    ∃ tower floor, Located db companyId sourceId unit tower floor := by
  obtain ⟨inProject, company⟩ := project?_eq_some.mp owned
  have placed := order.unit id unit found
  unfold InventoryDb.Placed at placed
  split at placed
  · rename_i floorId stands
    obtain ⟨floor, tower, onFloor, inTower, sameCompany, sameProject, high⟩ := placed
    have towerId : db.towerOf unit = some floor.towerId := by
      rw [InventoryDb.towerOf, stands, Option.bind_some, onFloor, Option.map_some]
    refine ⟨tower, floor, {
      standing := ⟨?_, ?_, stored.towers _ _ inTower, stored.floors _ _ onFloor,
        (stored.units _ _ found).number, ?_⟩
      inTower
      onFloor := ⟨floorId, onFloor⟩
      scope := towerOf_eq_some.mp towerId
      project := sameProject.trans its
      company := ?_
      shape := high }⟩
    · show (db.towerOf unit).bind db.towers.find? = some tower
      rw [towerId, Option.bind_some, inTower]
    · show unit.floorId.bind db.floors.find? = some floor
      rw [stands, Option.bind_some, onFloor]
    · intro name member
      obtain ⟨unitType, is, rfl⟩ := Option.map_eq_some_iff.mp member
      obtain ⟨key, _, there⟩ := Option.bind_eq_some_iff.mp is
      exact stored.unitTypes key unitType there
    · obtain ⟨other, inOther, same⟩ := order.floor _ floor onFloor
      rw [inTower] at inOther
      cases inOther
      obtain ⟨project, found, sameAs, _⟩ := order.tower _ tower inTower
      rw [sameProject.trans its, inProject] at found
      cases found
      rw [← sameCompany, ← same, ← sameAs, company]
  · obtain ⟨project, inOther, _, land, _⟩ := placed
    rw [its, inProject] at inOther
    cases inOther
    cases shape.symm.trans land

def viewKey (view : UnitView) : String × String :=
  ((view.tower.map Tower.code).getD "", view.unit.number)

theorem Located.viewKey_eq {unit : InventoryUnit} {tower : Tower} {floor : Floor}
    (located : Located db companyId sourceId unit tower floor) :
    viewKey (db.viewOf unit) = (tower.code, unit.number) := by
  rw [viewKey, located.standing.inTower]
  rfl

theorem InOrder.unit_eq (order : InOrder db) {first second : Nat} {unit other : InventoryUnit}
    {tower otherTower : Tower} {floor otherFloor : Floor}
    (found : db.units.find? first = some unit) (also : db.units.find? second = some other)
    (located : Located db companyId sourceId unit tower floor)
    (locatedToo : Located db companyId sourceId other otherTower otherFloor)
    (code : tower.code = otherTower.code) (number : unit.number = other.number) :
    first = second := by
  have sameTower : floor.towerId = otherFloor.towerId := order.codes _ _ tower otherTower
    located.inTower locatedToo.inTower (located.project.trans locatedToo.project.symm) code
  refine order.numbers first second unit other found also ?_ number
  rw [located.scope, locatedToo.scope, sameTower]

def namesOf (db : InventoryDb) (projectId : Nat) : Names where
  tower code := ((db.towers.findFirst? fun _ tower =>
    tower.projectId == projectId && tower.code == code).map fun row => row.2.name).getD ""
  floor code number := ((db.floors.findFirst? fun _ floor => floor.floorNumber == number &&
    (db.towers.find? floor.towerId).any fun tower =>
      tower.projectId == projectId && tower.code == code).map fun row => row.2.name).getD ""

theorem InOrder.namesOf_tower (order : InOrder db) {id : Nat} {tower : Tower}
    (found : db.towers.find? id = some tower) :
    (namesOf db tower.projectId).tower tower.code = tower.name := by
  unfold namesOf
  dsimp only
  cases first : db.towers.findFirst? fun _ row =>
      row.projectId == tower.projectId && row.code == tower.code with
  | none =>
    have apart := Table.findFirst?_eq_none.mp first id tower found
    simp at apart
  | some row =>
    obtain ⟨there, matching⟩ := Table.findFirst?_eq_some first
    simp only [Bool.and_eq_true, beq_iff_eq] at matching
    have same := order.codes _ _ row.2 tower there found matching.1 matching.2
    rw [same, found] at there
    cases there
    rfl

theorem InOrder.namesOf_floor (order : InOrder db) {id : Nat} {floor : Floor} {tower : Tower}
    (found : db.floors.find? id = some floor) (inTower : db.towers.find? floor.towerId = some tower) :
    (namesOf db tower.projectId).floor tower.code floor.floorNumber = floor.name := by
  unfold namesOf
  dsimp only
  cases first : db.floors.findFirst? fun _ row => row.floorNumber == floor.floorNumber &&
      (db.towers.find? row.towerId).any fun other =>
        other.projectId == tower.projectId && other.code == tower.code with
  | none =>
    have apart := Table.findFirst?_eq_none.mp first id floor found
    simp [inTower] at apart
  | some row =>
    obtain ⟨there, matching⟩ := Table.findFirst?_eq_some first
    simp only [Bool.and_eq_true, beq_iff_eq, Option.any_eq_true] at matching
    obtain ⟨number, other, inOther, project, code⟩ := matching
    have sameTower := order.codes _ _ other tower inOther inTower project code
    have same := order.floorNumbers _ _ row.2 floor there found sameTower number
    rw [same, found] at there
    cases there
    rfl

variable {blanks : BlankCells} {unit : InventoryUnit} {tower : Tower} {floor : Floor}
variable {row : ImportUnitRow}

theorem Reads.rowSpec_eq (reads : Reads blanks (db.viewOf unit) tower floor row)
    (located : Located db companyId sourceId unit tower floor) (stored : UnitStored unit) :
    rowSpec row =
      { (db.viewOf unit).spec with baseRatePaise := row.baseRatePaise.getD 0 } := by
  obtain ⟨noGroup, noArea, noUnit, noSqft, rateUnit, noRate⟩ := stored.highRise located.shape
  rw [rowSpec, UnitView.spec, UnitSpec.mk.injEq]
  refine ⟨reads.unitNumber, ?_, ?_, ?_, reads.unitType, reads.carpetAreaSqft.columnArea_eq,
    reads.builtUpAreaSqft.columnArea_eq, reads.superBuiltUpSqft.columnArea_eq, noArea.symm,
    noUnit.symm, noSqft.symm, rateUnit.symm, rfl, noRate.symm⟩
  · rw [located.standing.inTower, Option.map_some, reads.towerName, reads.towerCode]
  · rw [located.standing.onFloor, Option.map_some, reads.floorName, reads.floorNumber]
  · show none = (unit.inventoryGroupId.bind db.groups.find?).map InventoryGroup.code
    rw [noGroup]
    rfl

theorem Reads.copyable (order : InOrder db) (reads : Reads blanks (db.viewOf unit) tower floor row)
    (located : Located db companyId sourceId unit tower floor) {toCompanyId : Nat}
    (known : ∀ name ∈ (db.viewOf unit).unitType.map UnitType.name, ∃ key unitType,
      db.unitTypes.find? key = some unitType ∧ unitType.companyId = toCompanyId ∧
        unitType.name = name) :
    Copyable (namesOf db sourceId) toCompanyId db.unitTypes row where
  tower := by
    rw [reads.towerName, reads.towerCode, ← located.project, order.namesOf_tower located.inTower]
  floor := by
    obtain ⟨floorId, onFloor⟩ := located.onFloor
    rw [reads.floorName, reads.towerCode, reads.floorNumber, ← located.project,
      order.namesOf_floor onFloor located.inTower]
  column := by
    rw [reads.floorNumber]
    exact ⟨located.standing.floor.low, located.standing.floor.high⟩
  carpetAreaSqft := reads.carpetAreaSqft.finite
  builtUpAreaSqft := reads.builtUpAreaSqft.finite
  superBuiltUpSqft := reads.superBuiltUpSqft.finite
  unitType name member := known name (reads.unitType ▸ member)

def InventoryDb.views (db : InventoryDb) (projectId : Nat) : List UnitView :=
  (db.units.select fun _ unit => unit.projectId = projectId).map fun row => db.viewOf row.2

theorem InventoryDb.mem_views {view : UnitView} : view ∈ db.views sourceId ↔
    ∃ id unit, db.units.find? id = some unit ∧ unit.projectId = sourceId ∧
      db.viewOf unit = view := by
  unfold InventoryDb.views
  rw [List.mem_map]
  constructor
  · rintro ⟨⟨id, unit⟩, member, rfl⟩
    obtain ⟨found, its⟩ := Table.mem_select.mp member
    exact ⟨id, unit, found, of_decide_eq_true its, rfl⟩
  · rintro ⟨id, unit, found, its, rfl⟩
    exact ⟨(id, unit), Table.mem_select.mpr ⟨found, decide_eq_true its⟩, rfl⟩

theorem exportUnits_highRise (order : InOrder db) (stored : Stored db)
    (owned : db.project? companyId sourceId = some source) (shape : source.shape = .highRise)
    (collation : String → String → Bool) :
    ∃ views, views.Perm (db.views sourceId) ∧
      ImportExportService.exportUnits collation companyId sourceId db =
        .ok (written highRiseHeaders highRiseCells views) := by
  have same : (db.units.select fun _ unit => unit.companyId = companyId ∧ unit.projectId = sourceId) =
      db.units.select fun _ unit => unit.projectId = sourceId := by
    refine List.filter_congr fun row member => ?_
    have found := Table.find?_eq_some.mpr member
    by_cases its : row.2.projectId = sourceId
    · obtain ⟨_, _, located⟩ := order.located stored owned shape found its
      simp [its, located.company]
    · simp [its]
  refine ⟨_, List.mergeSort_perm _ (highRiseOrder collation), ?_⟩
  unfold ImportExportService.exportUnits
  rw [bind_eq_ok]
  refine ⟨source, orThrow_eq_ok.mpr owned, ?_⟩
  rw [if_neg (by rw [shape]; decide)]
  dsimp only
  rw [same]
  rfl

theorem InOrder.viewKey_nodup (order : InOrder db) (stored : Stored db)
    (owned : db.project? companyId sourceId = some source) (shape : source.shape = .highRise) :
    ((db.views sourceId).map viewKey).Nodup := by
  rw [InventoryDb.views, List.map_map]
  refine List.Nodup.map_on ?_ (List.Nodup.of_map _ (Table.select_nodup db.units _))
  rintro ⟨first, unit⟩ member ⟨second, other⟩ also same
  obtain ⟨found, its⟩ := Table.mem_select.mp member
  obtain ⟨alsoFound, alsoIts⟩ := Table.mem_select.mp also
  obtain ⟨_, _, located⟩ := order.located stored owned shape found (of_decide_eq_true its)
  obtain ⟨_, _, locatedToo⟩ := order.located stored owned shape alsoFound
    (of_decide_eq_true alsoIts)
  simp only [Function.comp_apply] at same
  rw [located.viewKey_eq, locatedToo.viewKey_eq, Prod.mk.injEq] at same
  have sameId : first = second :=
    order.unit_eq found alsoFound located locatedToo same.1 same.2
  subst sameId
  rw [found] at alsoFound
  cases alsoFound
  rfl

theorem map_filterMap_of_forall {α β γ : Type} {list : List α} {f : α → Option β} {g : β → γ}
    {h : α → γ} (all : ∀ element ∈ list, ∃ value, f element = some value ∧ g value = h element) :
    (list.filterMap f).map g = list.map h := by
  induction list with
  | nil => rfl
  | cons first rest ih =>
    obtain ⟨⟨value, is, same⟩, others⟩ := List.forall_mem_cons.mp all
    rw [List.filterMap_cons, is, List.map_cons, List.map_cons, same, ih others]

def readRows (blanks : BlankCells) (views : List UnitView) : List ImportUnitRow :=
  views.filterMap fun view =>
    (parseUnitRow (readRow blanks highRiseFields (highRiseCells view))).toOption

theorem mem_readRows {views : List UnitView} : row ∈ readRows blanks views ↔
    ∃ view ∈ views, parseUnitRow (readRow blanks highRiseFields (highRiseCells view)) = .ok row := by
  unfold readRows
  rw [List.mem_filterMap]
  refine exists_congr fun view => and_congr_right fun _ => ?_
  cases parseUnitRow (readRow blanks highRiseFields (highRiseCells view)) with
  | ok value => simp [Except.toOption]
  | error issues => simp [Except.toOption]

theorem fieldCells_ne_nil (order : InOrder db) (stored : Stored db)
    (owned : db.project? companyId sourceId = some source) (shape : source.shape = .highRise)
    {view : UnitView} (member : view ∈ db.views sourceId) :
    fieldCells highRiseFields ((highRiseCells view).map blanks.read) ≠ [] := by
  obtain ⟨id, unit, found, its, rfl⟩ := InventoryDb.mem_views.mp member
  obtain ⟨tower, floor, located⟩ := order.located stored owned shape found its
  have listed : (some "unitNumber", some (.text unit.number)) ∈
      highRiseFields.zip ((highRiseCells (db.viewOf unit)).map blanks.read) := by
    have cell : blanks.read (.text unit.number) = some (.text unit.number) :=
      read_text located.standing.number.1
    exact List.mem_of_getElem? (i := 4) (congrArg (fun cell => some (some "unitNumber", cell)) cell)
  exact List.ne_nil_of_mem (mem_fieldCells.mpr listed)

variable {toCompanyId targetId : Nat} {target : Project} {views : List UnitView}

theorem reads_of_mem (order : InOrder db) (stored : Stored db)
    (owned : db.project? companyId sourceId = some source) (shape : source.shape = .highRise)
    (exported : views.Perm (db.views sourceId)) (member : row ∈ readRows blanks views) :
    ∃ id unit tower floor, db.units.find? id = some unit ∧ unit.projectId = sourceId ∧
      db.viewOf unit ∈ views ∧ Located db companyId sourceId unit tower floor ∧
      Reads blanks (db.viewOf unit) tower floor row := by
  obtain ⟨view, listed, parsed⟩ := mem_readRows.mp member
  obtain ⟨id, unit, found, its, rfl⟩ := InventoryDb.mem_views.mp (exported.mem_iff.mp listed)
  obtain ⟨tower, floor, located⟩ := order.located stored owned shape found its
  exact ⟨id, unit, tower, floor, found, its, listed, located,
    located.standing.parseUnitRow_reads parsed⟩

theorem readRows_keys (order : InOrder db) (stored : Stored db)
    (owned : db.project? companyId sourceId = some source) (shape : source.shape = .highRise)
    (exported : views.Perm (db.views sourceId))
    (parsed : ∀ view ∈ views, ∃ row,
      parseUnitRow (readRow blanks highRiseFields (highRiseCells view)) = .ok row) :
    ((readRows blanks views).map towerKey).Nodup := by
  have same : (readRows blanks views).map towerKey = views.map viewKey := by
    refine map_filterMap_of_forall fun view listed => ?_
    obtain ⟨row, is⟩ := parsed view listed
    obtain ⟨id, unit, found, its, rfl⟩ := InventoryDb.mem_views.mp (exported.mem_iff.mp listed)
    obtain ⟨tower, floor, located⟩ := order.located stored owned shape found its
    have reads := located.standing.parseUnitRow_reads is
    refine ⟨row, by rw [is]; rfl, ?_⟩
    rw [towerKey, located.viewKey_eq, reads.towerCode, reads.unitNumber]
    rfl
  rw [same, (exported.map viewKey).nodup_iff]
  exact order.viewKey_nodup stored owned shape

theorem importRows_readRows (order : InOrder db) (stored : Stored db)
    (copy : EmptyCopy db companyId sourceId toCompanyId targetId)
    (owned : db.project? companyId sourceId = some source) (shape : source.shape = .highRise)
    (ownedToo : db.project? toCompanyId targetId = some target) (high : target.shape = .highRise)
    (exported : views.Perm (db.views sourceId))
    (parsed : ∀ view ∈ views, ∃ row,
      parseUnitRow (readRow blanks highRiseFields (highRiseCells view)) = .ok row)
    {rows : List (Nat × ImportUnitRow)} (are : rows.map Prod.snd = readRows blanks views) :
    ∃ progress, rows.foldlM (ImportExportService.importRow toCompanyId targetId) { db } =
        .ok progress ∧
      progress.db.specs targetId = (readRows blanks views).map rowSpec := by
  have start : Copying (namesOf db sourceId) toCompanyId targetId target db.unitTypes [] db :=
    Copying.start order ownedToo copy.noTowers copy.noUnits
  have copyable : ∀ row ∈ rows, Copyable (namesOf db sourceId) toCompanyId db.unitTypes row.2 := by
    intro row member
    have listed : row.2 ∈ readRows blanks views := are ▸ List.mem_map_of_mem member
    obtain ⟨id, unit, tower, floor, found, its, _, located, reads⟩ :=
      reads_of_mem order stored owned shape exported listed
    exact reads.copyable order located (copy.unitTypes id unit found its)
  have distinct : (([] ++ rows.map Prod.snd).map towerKey).Nodup := by
    rw [List.nil_append, are]
    exact readRows_keys order stored owned shape exported parsed
  obtain ⟨progress, imported, copied⟩ :=
    importRows_copying high { db } start copyable distinct
  refine ⟨progress, imported, ?_⟩
  rw [copied.specs, List.nil_append, are]

theorem duplicateErrors_eq_nil {α κ : Type} [DecidableEq κ] {key : α → κ} {message : α → String}
    {rows : List (Nat × α)} {seen : List κ}
    (distinct : ((rows.map Prod.snd).map key).Nodup)
    (fresh : ∀ row ∈ rows, key row.2 ∉ seen) : duplicateErrors key message seen rows = [] := by
  induction rows generalizing seen with
  | nil => rfl
  | cons row rest ih =>
    obtain ⟨first, others⟩ := List.forall_mem_cons.mp fresh
    obtain ⟨new, distinct⟩ := List.nodup_cons.mp distinct
    unfold duplicateErrors
    rw [if_neg first, List.nil_append]
    refine ih distinct fun later member again => ?_
    rcases List.mem_cons.mp again with same | earlier
    · exact new (same ▸ List.mem_map_of_mem (List.mem_map_of_mem member))
    · exact others later member earlier

theorem floorKey_nodup {rows : List ImportUnitRow} (distinct : (rows.map towerKey).Nodup) :
    (rows.map ImportExportService.floorKey).Nodup := by
  have keys : rows.map towerKey = (rows.map ImportExportService.floorKey).map
      fun key : String × Int × String => (key.1, key.2.2) := by
    rw [List.map_map]
    rfl
  rw [keys] at distinct
  exact distinct.of_map

/-- **What an import reads of the file of a high rise**: a row for each of its units. -/
theorem exported_highRise (order : InOrder db) (stored : Stored db)
    (owned : db.project? companyId sourceId = some source) (shape : source.shape = .highRise)
    (collation : String → String → Bool) (blanks : BlankCells) :
    ∃ (views : List UnitView) (sheet : List (List CellValue)), views.Perm (db.views sourceId) ∧
      ImportExportService.exportUnits collation companyId sourceId db = .ok sheet ∧
      dataRows highRiseHeaderMap (readBack blanks sheet) = (views.zipIdx 2).map
        fun row => (row.2, readRow blanks highRiseFields (highRiseCells row.1)) := by
  obtain ⟨views, exported, isSheet⟩ := exportUnits_highRise order stored owned shape collation
  exact ⟨views, _, exported, isSheet, dataRows_written fieldOf_highRiseHeaders fun view listed =>
    fieldCells_ne_nil order stored owned shape (exported.mem_iff.mp listed)⟩

theorem importUnits_highRise (owned : db.project? companyId sourceId = some source)
    (shape : source.shape = .highRise) (sheet : Sheet) :
    ImportExportService.importUnits companyId sourceId sheet db =
      ImportExportService.importHighRiseUnits companyId sourceId sheet db := by
  unfold ImportExportService.importUnits
  rw [owned]
  show (if source.shape = .landBased then _ else _) = _
  rw [if_neg (by rw [shape]; decide)]

theorem readRows_spec (order : InOrder db) (stored : Stored db)
    (owned : db.project? companyId sourceId = some source) (shape : source.shape = .highRise)
    (exported : views.Perm (db.views sourceId))
    (exportable : ∀ id unit, db.units.find? id = some unit → unit.projectId = sourceId →
      Exportable blanks unit) :
    (readRows blanks views).map rowSpec = views.map UnitView.spec := by
  refine map_filterMap_of_forall fun view listed => ?_
  obtain ⟨id, unit, found, its, rfl⟩ := InventoryDb.mem_views.mp (exported.mem_iff.mp listed)
  obtain ⟨tower, floor, located⟩ := order.located stored owned shape found its
  have readable := exportable id unit found its
  obtain ⟨row, is⟩ := located.standing.exists_parseUnitRow readable
  have reads := located.standing.parseUnitRow_reads is
  refine ⟨row, by rw [is]; rfl, ?_⟩
  obtain ⟨value, rate, number⟩ := reads.baseRatePaise
  have same : (unit.baseRatePaise : ℚ) = value :=
    Runtime.Number.finite.inj (readable.baseRatePaise.symm.trans number)
  have same : unit.baseRatePaise = value := by exact_mod_cast same
  rw [reads.rowSpec_eq located (stored.units id unit found), rate, Option.getD_some, ← same]
  rfl

theorem recreates_of_exportable (order : InOrder db) (stored : Stored db)
    (copy : EmptyCopy db companyId sourceId toCompanyId targetId)
    (owned : db.project? companyId sourceId = some source) (shape : source.shape = .highRise)
    (ownedToo : db.project? toCompanyId targetId = some target) (high : target.shape = .highRise)
    (collation : String → String → Bool) (some_ : db.views sourceId ≠ [])
    (exportable : ∀ id unit, db.units.find? id = some unit → unit.projectId = sourceId →
      Exportable blanks unit) :
    RecreatesInventory collation blanks companyId sourceId toCompanyId targetId db := by
  obtain ⟨views, sheet, exported, isSheet, rows⟩ :=
    exported_highRise order stored owned shape collation blanks
  have parsed : ∀ view ∈ views, ∃ row,
      parseUnitRow (readRow blanks highRiseFields (highRiseCells view)) = .ok row := by
    intro view listed
    obtain ⟨id, unit, found, its, rfl⟩ := InventoryDb.mem_views.mp (exported.mem_iff.mp listed)
    obtain ⟨tower, floor, located⟩ := order.located stored owned shape found its
    exact located.standing.exists_parseUnitRow (exportable id unit found its)
  have are : (validRows parseUnitRow (dataRows highRiseHeaderMap (readBack blanks sheet))).map
      Prod.snd = readRows blanks views := by
    rw [rows]
    exact validRows_written
  obtain ⟨progress, imported, specs⟩ :=
    importRows_readRows order stored copy owned shape ownedToo high exported parsed are
  refine ⟨sheet, progress.result, progress.db, isSheet, ?_, rfl, rfl, ?_⟩
  · rw [importUnits_highRise ownedToo high]
    refine ImportExportService.importHighRiseUnits_of_valid ?_ ?_ ?_ imported
    · intro none_
      rw [rows, List.map_eq_nil_iff, List.zipIdx_eq_nil_iff] at none_
      exact some_ (List.Perm.eq_nil (none_ ▸ exported.symm))
    · rw [rows]
      exact (rowErrors_eq_nil parseUnitRow_ne_error_nil).mpr parsed
    · refine duplicateErrors_eq_nil ?_ fun _ _ => List.not_mem_nil
      rw [are]
      exact floorKey_nodup (readRows_keys order stored owned shape exported parsed)
  · rw [specs, readRows_spec order stored owned shape exported exportable]
    refine (exported.map UnitView.spec).trans (List.Perm.of_eq ?_)
    rw [InventoryDb.views, InventoryDb.specs, List.map_map]
    rfl

/-- A row that has become a unit of the project has the rate of the unit that it was written for:
the unit that it has become is that one. -/
theorem Reads.baseRatePaise_eq (order : InOrder db) (stored : Stored db)
    (owned : db.project? companyId sourceId = some source) (shape : source.shape = .highRise)
    {id : Nat} (found : db.units.find? id = some unit)
    (located : Located db companyId sourceId unit tower floor)
    (reads : Reads blanks (db.viewOf unit) tower floor row) (member : rowSpec row ∈ db.specs sourceId) :
    unit.baseRatePaise = row.baseRatePaise.getD 0 := by
  obtain ⟨⟨second, other⟩, also, same⟩ := List.mem_map.mp member
  obtain ⟨alsoFound, alsoIts⟩ := Table.mem_select.mp also
  obtain ⟨otherTower, otherFloor, locatedToo⟩ :=
    order.located stored owned shape alsoFound (of_decide_eq_true alsoIts)
  have sameTower := congrArg UnitSpec.tower same
  have sameNumber : other.number = row.unitNumber.1 := congrArg UnitSpec.number same
  have sameRate : other.baseRatePaise = row.baseRatePaise.getD 0 :=
    congrArg UnitSpec.baseRatePaise same
  simp only [UnitView.spec, rowSpec, locatedToo.standing.inTower, Option.map_some,
    Option.some.injEq, Prod.mk.injEq] at sameTower
  have sameId : second = id := order.unit_eq alsoFound found locatedToo located
    (sameTower.2.trans reads.towerCode) (sameNumber.trans reads.unitNumber)
  subst sameId
  rw [found] at alsoFound
  cases alsoFound
  exact sameRate

/-- **A file that recreates its units has some**, and all of them can be read. -/
theorem exportable_of_recreates (order : InOrder db) (stored : Stored db)
    (copy : EmptyCopy db companyId sourceId toCompanyId targetId)
    (owned : db.project? companyId sourceId = some source) (shape : source.shape = .highRise)
    (ownedToo : db.project? toCompanyId targetId = some target) (high : target.shape = .highRise)
    {collation : String → String → Bool}
    (recreates : RecreatesInventory collation blanks companyId sourceId toCompanyId targetId db) :
    db.views sourceId ≠ [] ∧ ∀ id unit, db.units.find? id = some unit →
      unit.projectId = sourceId → Exportable blanks unit := by
  obtain ⟨views, sheet, exported, isSheet, rows⟩ :=
    exported_highRise order stored owned shape collation blanks
  obtain ⟨other, result, after, isExported, imported, success, _, same⟩ := recreates
  cases Except.ok.inj (isExported.symm.trans isSheet)
  rw [importUnits_highRise ownedToo high] at imported
  rcases ImportExportService.importHighRiseUnits_cases imported with
    ⟨failed, _⟩ | ⟨some_, noErrors, progress, accepted, _, is⟩
  · rw [failed] at success
    cases success
  · rw [rows] at some_ noErrors
    have parsed : ∀ view ∈ views, ∃ row,
        parseUnitRow (readRow blanks highRiseFields (highRiseCells view)) = .ok row :=
      (rowErrors_eq_nil parseUnitRow_ne_error_nil).mp noErrors
    have are : (validRows parseUnitRow (dataRows highRiseHeaderMap (readBack blanks sheet))).map
        Prod.snd = readRows blanks views := by
      rw [rows]
      exact validRows_written
    obtain ⟨copied, isCopied, specs⟩ :=
      importRows_readRows order stored copy owned shape ownedToo high exported parsed are
    cases Except.ok.inj (accepted.symm.trans isCopied)
    rw [is, specs] at same
    constructor
    · intro none_
      rw [none_, List.perm_nil] at exported
      rw [exported] at some_
      exact some_ rfl
    · intro id unit found its
      obtain ⟨tower, floor, located⟩ := order.located stored owned shape found its
      have listed : db.viewOf unit ∈ views :=
        exported.mem_iff.mpr (InventoryDb.mem_views.mpr ⟨id, unit, found, its, rfl⟩)
      obtain ⟨row, isRow⟩ := parsed _ listed
      have reads := located.standing.parseUnitRow_reads isRow
      obtain ⟨value, rate, number⟩ := reads.baseRatePaise
      have exact_ : unit.baseRatePaise = value := by
        rw [reads.baseRatePaise_eq order stored owned shape found located (same.mem_iff.mp
          (List.mem_map_of_mem (mem_readRows.mpr ⟨_, listed, isRow⟩))), rate, Option.getD_some]
      refine ⟨exists_readsArea.mp ⟨_, reads.carpetAreaSqft⟩,
        exists_readsArea.mp ⟨_, reads.builtUpAreaSqft⟩,
        exists_readsArea.mp ⟨_, reads.superBuiltUpSqft⟩, ?_⟩
      exact number.trans (by rw [exact_])

end HighRise

/-! ### Projects on land -/

section OnLand

variable {db : InventoryDb} {companyId sourceId toCompanyId targetId : Nat} {source target : Project}
variable {collation : String → String → Bool} {blanks : BlankCells}

/-- **The file of a project on land recreates nothing**: no row of it has the unit of its rate. -/
theorem not_recreates_onLand (stored : Stored db)
    (owned : db.project? companyId sourceId = some source) (shape : source.shape = .landBased)
    (ownedToo : db.project? toCompanyId targetId = some target) (land : target.shape = .landBased) :
    ¬RecreatesInventory collation blanks companyId sourceId toCompanyId targetId db := by
  rintro ⟨sheet, result, after, isExported, imported, success, _, _⟩
  unfold ImportExportService.exportUnits ImportExportService.exportLandBasedUnits at isExported
  rw [owned] at isExported
  obtain ⟨_, read, isExported⟩ := bind_eq_ok.mp isExported
  cases orThrow_eq_ok.mp read
  rw [if_pos shape] at isExported
  cases isExported
  unfold ImportExportService.importUnits at imported
  rw [ownedToo] at imported
  obtain ⟨_, read, imported⟩ := bind_eq_ok.mp imported
  cases orThrow_eq_ok.mp read
  rw [if_pos land] at imported
  rcases ImportExportService.importLandBasedUnits_cases imported with
    ⟨failed, _⟩ | ⟨some_, noErrors, _⟩
  · rw [failed] at success
    cases success
  · have cells : ∀ view ∈ (((db.units.select fun _ unit => unit.projectId = sourceId).map
        fun row => db.viewOf row.2).mergeSort fun one other =>
          collation one.unit.number other.unit.number),
        fieldCells landBasedFields ((landBasedCells view).map blanks.read) ≠ [] := by
      intro view member
      rw [List.mem_mergeSort, List.mem_map] at member
      obtain ⟨row, listed, rfl⟩ := member
      have number := (stored.units _ _ (Table.mem_select.mp listed).1).number.1
      have cell : blanks.read (.text row.2.number) = some (.text row.2.number) := read_text number
      have listed : (some "unitNumber", some (.text row.2.number)) ∈
          landBasedFields.zip ((landBasedCells (db.viewOf row.2)).map blanks.read) :=
        List.mem_of_getElem? (i := 1) (congrArg (fun cell => some (some "unitNumber", cell)) cell)
      exact List.ne_nil_of_mem (mem_fieldCells.mpr listed)
    rw [dataRows_written fieldOf_landBasedHeaders cells] at some_ noErrors
    have parsed := (rowErrors_eq_nil parseLandBasedUnitRow_ne_error_nil).mp noErrors
    refine some_ (List.map_eq_nil_iff.mpr (List.zipIdx_eq_nil_iff.mpr ?_))
    rw [List.eq_nil_iff_forall_not_mem]
    intro view member
    obtain ⟨row, isRow⟩ := parsed view member
    exact parseLandBasedUnitRow_error (rowData_fieldCells_of_notMem (by decide)) row isRow

end OnLand

/-! ### Runs -/

/-- **When the file of a project recreates its units**, imported into an empty copy of it: if the
project is a high rise, with units that all can be read. -/
theorem recreates_iff (ops : List InventoryOp) (collation : String → String → Bool)
    (blanks : BlankCells) {companyId sourceId toCompanyId targetId : Nat}
    (copy : EmptyCopy (run InventoryOp.exec {} ops) companyId sourceId toCompanyId targetId) :
    RecreatesInventory collation blanks companyId sourceId toCompanyId targetId
        (run InventoryOp.exec {} ops) ↔
      ((run InventoryOp.exec {} ops).project? companyId sourceId).any (·.shape = .highRise) ∧
        (run InventoryOp.exec {} ops).views sourceId ≠ [] ∧
        ∀ id unit, (run InventoryOp.exec {} ops).units.find? id = some unit →
          unit.projectId = sourceId → Exportable blanks unit := by
  have order := inOrder_states ops _ (run_mem_states _ ops)
  have stored := stored_states ops _ (run_mem_states _ ops)
  generalize run InventoryOp.exec {} ops = db at *
  obtain ⟨source, target, owned, ownedToo, same⟩ := copy.shape
  rw [owned, Option.any_some, decide_eq_true_eq]
  cases shape : source.shape with
  | landBased =>
    have never : ¬RecreatesInventory collation blanks companyId sourceId toCompanyId targetId db :=
      not_recreates_onLand stored owned shape ownedToo (same.trans shape)
    simp [never]
  | highRise =>
    simp only [true_and]
    exact ⟨exportable_of_recreates order stored copy owned shape ownedToo (same.trans shape),
      fun exportable => recreates_of_exportable order stored copy owned shape ownedToo
        (same.trans shape) collation exportable.1 exportable.2⟩

def highRisePair : List InventoryOp :=
  [.createProject 1 .highRise, .createProject 1 .highRise,
    .createTower 1 0 ⟨"Tower A", "A", by decide, by decide⟩,
    .bulkGenerate 1 0
      { towerId := 0, floorStart := 1, floorEnd := 1, unitsPerFloor := 1
        areas := ⟨some 500, some 600, some 700⟩, baseRatePaise := 450000
        floorStart_min := by decide, floorEnd_min := by decide, units_min := by decide
        units_max := by decide, prefix_max := by decide }]

def highRiseUnit : InventoryUnit :=
  floorUnit 1 0 0 "0101" none ⟨some 500, some 600, some 700⟩ 450000

theorem highRisePair_units :
    (run InventoryOp.exec {} highRisePair).units = Table.empty.create highRiseUnit := by
  rfl

theorem highRisePair_copy : EmptyCopy (run InventoryOp.exec {} highRisePair) 1 0 1 1 where
  shape := ⟨⟨1, .highRise⟩, ⟨1, .highRise⟩, rfl, rfl, rfl⟩
  noTowers := by
    have towers : (run InventoryOp.exec {} highRisePair).towers =
        Table.empty.create ⟨1, 0, "Tower A", "A"⟩ := rfl
    rw [towers]
    exact Table.all_create.mpr ⟨Table.All.empty, by decide⟩
  noUnits := by
    rw [highRisePair_units]
    exact Table.all_create.mpr ⟨Table.All.empty, by decide⟩
  groups _ := rfl
  unitTypes := by
    rw [highRisePair_units]
    intro id unit found _ name member
    rcases Table.find?_create_eq_some.mp found with ⟨_, rfl⟩ | old
    · cases member
    · cases old

theorem recreates_highRisePair : RecreatesInventory (fun one other => decide (one ≤ other)) .absent
    1 0 1 1 (run InventoryOp.exec {} highRisePair) := by
  refine (recreates_iff highRisePair _ .absent highRisePair_copy).mpr ⟨rfl, ?_, ?_⟩
  · refine List.ne_nil_of_mem (InventoryDb.mem_views.mpr ⟨0, highRiseUnit, ?_, rfl, rfl⟩)
    rw [highRisePair_units]
    rfl
  · rw [highRisePair_units]
    refine Table.all_create.mpr ⟨Table.All.empty, fun _ => ?_⟩
    exact ⟨Decimal.ofNumber_ne_zero (by norm_num), Decimal.ofNumber_ne_zero (by norm_num),
      Decimal.ofNumber_ne_zero (by norm_num), Runtime.toNumber_natCast (by decide)⟩

def landPair : List InventoryOp :=
  [.createProject 1 .landBased, .createProject 1 .landBased,
    .createLandBased 1 0
      { number := "P-1", landAreaEntered := 1200, landAreaEnteredUnit := .sqft, rateUnit := .sqft
        baseRatePaise := 450000, number_fits := by decide }]

theorem landPair_units : (run InventoryOp.exec {} landPair).units = Table.empty.create (landUnit 1 0
    { number := "P-1", landAreaEntered := 1200, landAreaEnteredUnit := .sqft, rateUnit := .sqft
      baseRatePaise := 450000 }) := by
  rfl

theorem landPair_copy : EmptyCopy (run InventoryOp.exec {} landPair) 1 0 1 1 where
  shape := ⟨⟨1, .landBased⟩, ⟨1, .landBased⟩, rfl, rfl, rfl⟩
  noTowers _ _ found := by cases found
  noUnits := by
    rw [landPair_units]
    exact Table.all_create.mpr ⟨Table.All.empty, by decide⟩
  groups _ := rfl
  unitTypes := by
    rw [landPair_units]
    intro id unit found _ name member
    rcases Table.find?_create_eq_some.mp found with ⟨_, rfl⟩ | old
    · cases member
    · cases old

/-- The file of the first of them, imported into the second one, is refused. -/
theorem landPair_not_recreated : EmptyCopy (run InventoryOp.exec {} landPair) 1 0 1 1 ∧
    ¬RecreatesInventory (fun one other => decide (one ≤ other)) .absent 1 0 1 1
      (run InventoryOp.exec {} landPair) := by
  have stored := stored_states landPair _ (run_mem_states _ landPair)
  have owned : (run InventoryOp.exec {} landPair).project? 1 0 = some ⟨1, .landBased⟩ := rfl
  have ownedToo : (run InventoryOp.exec {} landPair).project? 1 1 = some ⟨1, .landBased⟩ := rfl
  exact ⟨landPair_copy, not_recreates_onLand stored owned rfl ownedToo rfl⟩

end OpenEstate.Inventory
