/-
**Exporting units.**

The units of a project are written to a worksheet, one row each below the headers. The columns
depend on the shape of the project, and so does the order of the rows. What is absent is written as
an empty text; how such a cell is read back is up to the library for worksheets.

* `ImportExportService.exportUnits`, with `exportLandBasedUnits` for projects on land;
* `readBack` is what an import sees of a worksheet that was written;
* `rowData_fieldCells`: a row is read by its columns.
-/

import OpenEstate.Inventory.Import

namespace OpenEstate.Inventory

open Relational

/-! ### What is exported -/

structure UnitView where
  unit : InventoryUnit
  unitType : Option UnitType
  floor : Option Floor
  tower : Option Tower
  inventoryGroup : Option InventoryGroup

def InventoryDb.viewOf (db : InventoryDb) (unit : InventoryUnit) : UnitView where
  unit
  unitType := unit.unitTypeId.bind db.unitTypes.find?
  floor := unit.floorId.bind db.floors.find?
  tower := (db.towerOf unit).bind db.towers.find?
  inventoryGroup := unit.inventoryGroupId.bind db.groups.find?

/-! ### The order of rows -/

section Order

variable {α : Type}

/-- By one order, and by another where that one does not tell two rows apart. -/
def thenBy (first second : α → α → Bool) (one other : α) : Bool :=
  if first one other && first other one then second one other else first one other

def nullsLast (order : α → α → Bool) : Option α → Option α → Bool
  | some one, some other => order one other
  | none, some _ => false
  | _, none => true

end Order

/-- By tower, floor and number; how texts are ordered is up to the database. -/
def highRiseOrder (collation : String → String → Bool) : UnitView → UnitView → Bool :=
  thenBy (fun one other =>
      nullsLast collation (one.tower.map Tower.code) (other.tower.map Tower.code))
    (thenBy (fun one other => nullsLast (fun floor above => decide (floor ≤ above))
        (one.floor.map Floor.floorNumber) (other.floor.map Floor.floorNumber))
      fun one other => collation one.unit.number other.unit.number)

/-! ### Columns -/

def textCell (content : Option String) : CellValue := .text (content.getD "")

def areaCell {places : Nat} (area : Option (Decimal places)) : CellValue :=
  area.elim (.text "") fun area => .number area.toNumber

def highRiseHeaders : List String :=
  ["Tower Name", "Tower Code", "Floor Name", "Floor Number", "Unit Number", "Unit Type", "Status",
    "Carpet Area (sqft)", "Built-up Area (sqft)", "Super Built-up Area (sqft)", "Base Rate (paise)"]

def highRiseCells (view : UnitView) : List CellValue :=
  [textCell (view.tower.map Tower.name), textCell (view.tower.map Tower.code),
    textCell (view.floor.map Floor.name),
    view.floor.elim (.text "") fun floor => .number floor.floorNumber,
    .text view.unit.number, textCell (view.unitType.map UnitType.name),
    .text view.unit.status.text, areaCell view.unit.carpetAreaSqft,
    areaCell view.unit.builtUpAreaSqft, areaCell view.unit.superBuiltUpSqft,
    .text (toString view.unit.baseRatePaise)]

def landBasedHeaders : List String :=
  ["Group Code", "Unit Number", "Unit Type", "Status", "Land Area Entered", "Land Area Unit",
    "Land Area (sqft)", "Rate Unit", "Base Rate (paise)", "Built-up Area (sqft)", "Land Record Ref",
    "Facing"]

def landBasedCells (view : UnitView) : List CellValue :=
  [textCell (view.inventoryGroup.map InventoryGroup.code), .text view.unit.number,
    textCell (view.unitType.map UnitType.name), .text view.unit.status.text,
    areaCell view.unit.landAreaEntered, textCell (view.unit.landAreaEnteredUnit.map AreaUnit.text),
    areaCell view.unit.landAreaSqft, .text view.unit.rateUnit.text,
    .text (toString view.unit.baseRatePaise), areaCell view.unit.builtUpAreaSqft,
    textCell view.unit.landRecordRef, textCell view.unit.facing]

def written (headers : List String) (cells : UnitView → List CellValue) (views : List UnitView) :
    List (List CellValue) :=
  headers.map .text :: views.map cells

namespace ImportExportService

variable (collation : String → String → Bool)

def exportLandBasedUnits (projectId : Nat) (db : InventoryDb) : List (List CellValue) :=
  let units := db.units.select fun _ unit => unit.projectId = projectId
  written landBasedHeaders landBasedCells ((units.map fun row => db.viewOf row.2).mergeSort
    fun one other => collation one.unit.number other.unit.number)

def exportUnits (companyId projectId : Nat) (db : InventoryDb) :
    Except ServiceError (List (List CellValue)) := do
  let project ← orThrow (db.project? companyId projectId) (.notFound "Project not found")
  if project.shape = .landBased then return exportLandBasedUnits collation projectId db
  else
    let units := db.units.select fun _ unit =>
      unit.companyId = companyId ∧ unit.projectId = projectId
    return written highRiseHeaders highRiseCells
      ((units.map fun row => db.viewOf row.2).mergeSort (highRiseOrder collation))

end ImportExportService

/-! ### Reading back -/

/-- How the library for worksheets gives back a cell that was written empty. -/
inductive BlankCells
  | absent | emptyText

def BlankCells.read (blanks : BlankCells) (cell : CellValue) : Option CellValue :=
  match blanks with
  | absent => if cell = .text "" then none else some cell
  | emptyText => some cell

def readBack (blanks : BlankCells) (sheet : List (List CellValue)) : Sheet :=
  sheet.map fun row => row.map blanks.read

theorem BlankCells.read_of_ne {blanks : BlankCells} {cell : CellValue} (some_ : cell ≠ .text "") :
    blanks.read cell = some cell := by
  cases blanks with
  | absent => exact if_neg some_
  | emptyText => rfl

/-! ### Rows by their columns -/

section Columns

variable {fields : List (Option String)} {cells : List (Option CellValue)} {field : String}

theorem mem_fieldCells {cell : CellValue} : (field, cell) ∈ fieldCells fields cells ↔
    (some field, some cell) ∈ fields.zip cells := by
  unfold fieldCells
  rw [List.mem_filterMap]
  constructor
  · rintro ⟨⟨named, content⟩, member, is⟩
    cases named with
    | none => cases is
    | some named =>
      cases content with
      | none => cases is
      | some content =>
        cases is
        exact member
  · intro member
    exact ⟨_, member, rfl⟩

theorem rowData_fieldCells {content : Option CellValue}
    (distinct : ∀ one other, (some field, one) ∈ fields.zip cells →
      (some field, other) ∈ fields.zip cells → one = other)
    (member : (some field, content) ∈ fields.zip cells) :
    rowData (fieldCells fields cells) field = content := by
  unfold rowData
  cases content with
  | none =>
    rw [List.lookup_eq_none_iff]
    rintro ⟨named, cell⟩ listed
    rw [List.mem_reverse, mem_fieldCells] at listed
    rw [bne_iff_ne]
    rintro rfl
    cases distinct _ _ member listed
  | some cell =>
    cases found : (fieldCells fields cells).reverse.lookup field with
    | none =>
      rw [List.lookup_eq_none_iff] at found
      have listed := List.mem_reverse.mpr (mem_fieldCells.mpr member)
      exact absurd rfl (bne_iff_ne.mp (found _ listed))
    | some second =>
      obtain ⟨before, after, is, _⟩ := List.lookup_eq_some_iff.mp found
      have listed : (field, second) ∈ (fieldCells fields cells).reverse := by
        rw [is]
        exact List.mem_append_right _ List.mem_cons_self
      rw [List.mem_reverse, mem_fieldCells] at listed
      exact (distinct _ _ member listed).symm

theorem rowData_fieldCells_of_notMem (missing : some field ∉ fields) :
    rowData (fieldCells fields cells) field = none := by
  unfold rowData
  rw [List.lookup_eq_none_iff]
  rintro ⟨named, cell⟩ listed
  rw [List.mem_reverse, mem_fieldCells] at listed
  rw [bne_iff_ne]
  rintro rfl
  exact missing (List.of_mem_zip listed).1

end Columns

end OpenEstate.Inventory
