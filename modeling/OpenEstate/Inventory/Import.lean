/-
**Importing units.**

A worksheet is read by the headers of its first row; each further row is parsed against the columns
of its project's shape. If a row does not parse, or repeats the number of an earlier one, nothing is
imported and the answer lists what is wrong. Otherwise the units are created in one transaction, and
those whose number is taken are skipped.

* `ImportExportService.importUnits`, with `importLandBasedUnits` for projects on land;
* `Parsed` is the parse of a row, which gathers the issues of all its fields.
-/

import OpenEstate.Inventory.Units

namespace OpenEstate.Inventory

open Relational
open Runtime (Number)

/-! ### Worksheets -/

inductive CellValue
  | text (content : String)
  | number (value : ℚ)
  | boolean (value : Bool)
  | date (milliseconds : Int)
  | other
  deriving DecidableEq

abbrev Sheet : Type := List (List (Option CellValue))

abbrev RowData : Type := String → Option CellValue

namespace CellValue

def toNumber : CellValue → Number
  | text content => Runtime.numberOf content
  | number value => .finite value
  | boolean value => .finite (if value then 1 else 0)
  | date milliseconds => .finite milliseconds
  | other => .nan

def typeName : CellValue → String
  | text _ => "string"
  | number _ => "number"
  | boolean _ => "boolean"
  | date _ => "date"
  | other => "object"

end CellValue

/-- The field that a cell of the header row stands for. Only texts can name one. -/
def fieldOf (headerMap : List (String × String)) : Option CellValue → Option String
  | some (.text header) => headerMap.lookup (Runtime.trim header)
  | _ => none

def fieldCells (fields : List (Option String)) (cells : List (Option CellValue)) :
    List (String × CellValue) :=
  (fields.zip cells).filterMap fun column => column.1.bind fun field =>
    column.2.map fun cell => (field, cell)

def rowData (cells : List (String × CellValue)) : RowData := fun field =>
  cells.reverse.lookup field

/-- The rows below the header that have cells of a field, with their numbers. -/
def dataRows (headerMap : List (String × String)) (sheet : Sheet) : List (Nat × RowData) :=
  match sheet with
  | [] => []
  | header :: rows => (rows.zipIdx 2).filterMap fun row =>
    let cells := fieldCells (header.map (fieldOf headerMap)) row.1
    if cells = [] then none else some (row.2, rowData cells)

/-! ### Parsing -/

structure Issue where
  field : String
  message : String
  deriving DecidableEq

abbrev Parsed (α : Type) : Type := Except (List Issue) α

namespace Parsed

variable {α β : Type}

def seq (function : Parsed (α → β)) (value : Parsed α) : Parsed β :=
  match function, value with
  | .ok function, .ok value => .ok (function value)
  | .error issues, .ok _ => .error issues
  | .ok _, .error issues => .error issues
  | .error issues, .error more => .error (issues ++ more)

theorem seq_eq_ok {function : Parsed (α → β)} {value : Parsed α} {result : β} :
    function.seq value = .ok result ↔
      ∃ apply argument, function = .ok apply ∧ value = .ok argument ∧ apply argument = result := by
  cases function <;> cases value <;> simp [seq]

end Parsed

def issue {α : Type} (field message : String) : Parsed α := .error [⟨field, message⟩]

def requiredText (most : Nat) (data : RowData) (field : String) :
    Parsed { text : String // Fits most text } :=
  match data field with
  | none => issue field "Required"
  | some (.text content) =>
    if fits : Fits most content then .ok ⟨content, fits⟩
    else if content = "" then issue field "String must contain at least 1 character(s)"
    else issue field s!"String must contain at most {most} character(s)"
  | some cell => issue field s!"Expected string, received {cell.typeName}"

def optionalText (most : Nat) (data : RowData) (field : String) : Parsed (Option String) :=
  match data field with
  | none => .ok none
  | some (.text content) =>
    if Runtime.length content ≤ most then .ok (some content)
    else issue field s!"String must contain at most {most} character(s)"
  | some cell => issue field s!"Expected string, received {cell.typeName}"

def positiveNumber (field : String) : Number → Parsed Number
  | .nan => issue field "Expected number, received nan"
  | .infinite negative =>
    if negative then issue field "Number must be greater than 0" else .ok (.infinite false)
  | .finite value =>
    if 0 < value then .ok (.finite value) else issue field "Number must be greater than 0"

def integerNumber (field : String) : Number → Parsed Int
  | .nan => issue field "Expected number, received nan"
  | .infinite _ => issue field "Expected integer, received float"
  | .finite value =>
    if value.den = 1 then .ok value.num else issue field "Expected integer, received float"

def naturalNumber (field : String) : Number → Parsed Nat
  | .nan => issue field "Expected number, received nan"
  | .infinite negative =>
    .error (⟨field, "Expected integer, received float"⟩ ::
      if negative then [⟨field, "Number must be greater than or equal to 0"⟩] else [])
  | .finite value =>
    if value.den = 1 ∧ 0 ≤ value then .ok value.num.toNat
    else .error
      ((if value.den = 1 then [] else [⟨field, "Expected integer, received float"⟩]) ++
        if 0 ≤ value then [] else [⟨field, "Number must be greater than or equal to 0"⟩])

/-- A field whose value is coerced to a number; one that is absent is none. -/
def requiredNumber {α : Type} (check : String → Number → Parsed α) (data : RowData)
    (field : String) : Parsed α :=
  check field ((data field).elim .nan CellValue.toNumber)

def optionalNumber {α : Type} (check : String → Number → Parsed α) (data : RowData)
    (field : String) : Parsed (Option α) :=
  match data field with
  | none => .ok none
  | some cell => some <$> check field cell.toNumber

def areaUnitTexts : String :=
  String.intercalate " | " (AreaUnit.all.map fun unit => s!"'{unit.text}'")

def requiredAreaUnit (data : RowData) (field : String) : Parsed AreaUnit :=
  match data field with
  | none => issue field "Required"
  | some (.text content) =>
    match AreaUnit.ofText? content with
    | some unit => .ok unit
    | none => issue field
      s!"Invalid enum value. Expected {areaUnitTexts}, received '{content}'"
  | some cell => issue field s!"Expected {areaUnitTexts}, received {cell.typeName}"

/-! ### Rows of either shape -/

def highRiseHeaderMap : List (String × String) :=
  [("Tower Name", "towerName"), ("Tower Code", "towerCode"), ("Floor Name", "floorName"),
    ("Floor Number", "floorNumber"), ("Unit Number", "unitNumber"), ("Unit Type", "unitType"),
    ("Carpet Area (sqft)", "carpetAreaSqft"), ("Built-up Area (sqft)", "builtUpAreaSqft"),
    ("Super Built-up Area (sqft)", "superBuiltUpSqft"), ("Base Rate (paise)", "baseRatePaise")]

def landBasedHeaderMap : List (String × String) :=
  [("Group Code", "groupCode"), ("Unit Number", "unitNumber"), ("Unit Type", "unitType"),
    ("Land Area Entered", "landAreaEntered"),
    ("Land Area Unit (SQFT/SQYD/SQM/ACRE/GUNTA)", "landAreaEnteredUnit"),
    ("Rate Unit (SQFT/SQYD/SQM/ACRE/GUNTA)", "rateUnit"),
    ("Base Rate (paise, per Rate Unit)", "baseRatePaise"),
    ("Built-up Area (sqft)", "builtUpAreaSqft"),
    ("Built-up Rate (paise per sqft)", "builtUpRatePaise"), ("Land Record Ref", "landRecordRef"),
    ("Facing", "facing"), ("Length (feet)", "lengthFeet"), ("Breadth (feet)", "breadthFeet")]

structure ImportUnitRow where
  towerName : { text : String // Fits 255 text }
  towerCode : { text : String // Fits 50 text }
  floorName : { text : String // Fits 100 text }
  floorNumber : Int
  unitNumber : { text : String // Fits 50 text }
  unitType : Option String
  carpetAreaSqft : Option Number
  builtUpAreaSqft : Option Number
  superBuiltUpSqft : Option Number
  baseRatePaise : Option Nat

def parseUnitRow (data : RowData) : Parsed ImportUnitRow :=
  (((((((((ImportUnitRow.mk <$> requiredText 255 data "towerName").seq
    (requiredText 50 data "towerCode")).seq
    (requiredText 100 data "floorName")).seq
    (requiredNumber integerNumber data "floorNumber")).seq
    (requiredText 50 data "unitNumber")).seq
    (optionalText 255 data "unitType")).seq
    (optionalNumber positiveNumber data "carpetAreaSqft")).seq
    (optionalNumber positiveNumber data "builtUpAreaSqft")).seq
    (optionalNumber positiveNumber data "superBuiltUpSqft")).seq
    (optionalNumber naturalNumber data "baseRatePaise")

structure ImportLandBasedUnitRow where
  groupCode : Option String
  unitNumber : { text : String // Fits 50 text }
  unitType : Option String
  landAreaEntered : Number
  landAreaEnteredUnit : AreaUnit
  rateUnit : AreaUnit
  baseRatePaise : Option Nat
  builtUpAreaSqft : Option Number
  builtUpRatePaise : Option Nat
  landRecordRef : Option String
  facing : Option String
  lengthFeet : Option Number
  breadthFeet : Option Number

def parseLandBasedUnitRow (data : RowData) : Parsed ImportLandBasedUnitRow :=
  ((((((((((((ImportLandBasedUnitRow.mk <$> optionalText 50 data "groupCode").seq
    (requiredText 50 data "unitNumber")).seq
    (optionalText 255 data "unitType")).seq
    (requiredNumber positiveNumber data "landAreaEntered")).seq
    (requiredAreaUnit data "landAreaEnteredUnit")).seq
    (requiredAreaUnit data "rateUnit")).seq
    (optionalNumber naturalNumber data "baseRatePaise")).seq
    (optionalNumber positiveNumber data "builtUpAreaSqft")).seq
    (optionalNumber naturalNumber data "builtUpRatePaise")).seq
    (optionalText 100 data "landRecordRef")).seq
    (optionalText 20 data "facing")).seq
    (optionalNumber positiveNumber data "lengthFeet")).seq
    (optionalNumber positiveNumber data "breadthFeet")

/-! ### Answers -/

structure ImportError where
  row : Nat
  field : String
  message : String
  deriving DecidableEq

structure SkippedRow where
  row : Nat
  unitNumber : String
  reason : String
  deriving DecidableEq

structure ImportResult where
  success : Bool
  createdCount : Nat
  skippedCount : Nat
  errorCount : Nat
  errors : List ImportError
  skipped : List SkippedRow
  deriving DecidableEq

def ImportResult.failed (errors : List ImportError) : ImportResult where
  success := false
  createdCount := 0
  skippedCount := 0
  errorCount := errors.length
  errors
  skipped := []

def rowErrors {α : Type} (parse : RowData → Parsed α) (rows : List (Nat × RowData)) :
    List ImportError :=
  rows.flatMap fun row =>
    match parse row.2 with
    | .ok _ => []
    | .error issues => issues.map fun issue => ⟨row.1, issue.field, issue.message⟩

def validRows {α : Type} (parse : RowData → Parsed α) (rows : List (Nat × RowData)) :
    List (Nat × α) :=
  rows.filterMap fun row => (parse row.2).toOption.map fun value => (row.1, value)

def duplicateErrors {α κ : Type} [DecidableEq κ] (key : α → κ) (message : α → String)
    (seen : List κ) : List (Nat × α) → List ImportError
  | [] => []
  | row :: rest =>
    (if key row.2 ∈ seen then [⟨row.1, "unitNumber", message row.2⟩] else []) ++
      duplicateErrors key message (key row.2 :: seen) rest

structure ImportProgress where
  db : InventoryDb
  createdCount : Nat := 0
  skipped : List SkippedRow := []

namespace ImportProgress

def skip (progress : ImportProgress) (row : Nat) (unitNumber reason : String) : ImportProgress :=
  { progress with skipped := progress.skipped ++ [⟨row, unitNumber, reason⟩] }

def created (progress : ImportProgress) (unit : InventoryUnit) : ImportProgress :=
  { progress with db := progress.db.insertUnit unit, createdCount := progress.createdCount + 1 }

def result (progress : ImportProgress) : ImportResult where
  success := true
  createdCount := progress.createdCount
  skippedCount := progress.skipped.length
  errorCount := 0
  errors := []
  skipped := progress.skipped

end ImportProgress

def columnNumber : Number → Except ServiceError ℚ
  | .finite value => .ok value
  | _ => .error (.error "Invalid value for a decimal column")

def columnNumber? : Option Number → Except ServiceError (Option ℚ)
  | none => .ok none
  | some value => some <$> columnNumber value

namespace ImportExportService

/-- The type of a name; an empty name is none. The transaction looks each name up once and keeps the
answer, as it does with towers and floors. -/
def unitTypeNamed (companyId : Nat) (unitType : Option String) (db : InventoryDb) : Option Nat :=
  (unitType.filter (· ≠ "")).bind fun name =>
    (db.unitTypes.findFirst? fun _ row => row.companyId == companyId && row.name == name).map
      Prod.fst

/-- The tower of a project with a code, which is created if it is not there. -/
def towerCoded (companyId projectId : Nat) (name code : String) (db : InventoryDb) :
    Nat × InventoryDb :=
  match db.towers.findFirst? fun _ tower => tower.projectId == projectId && tower.code == code &&
      tower.companyId == companyId with
  | some (id, _) => (id, db)
  | none => (db.towers.nextId, db.insertTower { companyId, projectId, name, code })

def importRow (companyId projectId : Nat) (progress : ImportProgress) (row : Nat × ImportUnitRow) :
    Except ServiceError ImportProgress := do
  let unitTypeId := unitTypeNamed companyId row.2.unitType progress.db
  let tower := towerCoded companyId projectId row.2.towerName.1 row.2.towerCode.1 progress.db
  ensure (-2 ^ 31 ≤ row.2.floorNumber ∧ row.2.floorNumber < 2 ^ 31)
    (.error "Unable to fit integer value into an INT4")
  let floor := tower.2.upsertFloor
    { companyId, towerId := tower.1, name := row.2.floorName.1, floorNumber := row.2.floorNumber }
  let progress := { progress with db := floor.2 }
  if progress.db.units.any (fun _ unit => unit.floorId == some floor.1 &&
      unit.number == row.2.unitNumber.1 && unit.companyId == companyId) then
    return progress.skip row.1 row.2.unitNumber.1 "Unit already exists on this floor"
  else if progress.db.units.any (fun _ unit => unit.companyId == companyId &&
      progress.db.towerOf unit == some tower.1 && unit.number == row.2.unitNumber.1) then
    return progress.skip row.1 row.2.unitNumber.1
      s!"Unit number already exists on another floor in tower {row.2.towerCode.1}"
  else
    let carpetAreaSqft ← columnNumber? row.2.carpetAreaSqft
    let builtUpAreaSqft ← columnNumber? row.2.builtUpAreaSqft
    let superBuiltUpSqft ← columnNumber? row.2.superBuiltUpSqft
    return progress.created (floorUnit companyId projectId floor.1 row.2.unitNumber.1 unitTypeId
      { carpetAreaSqft, builtUpAreaSqft, superBuiltUpSqft } (row.2.baseRatePaise.getD 0))

def importLandBasedRow (companyId projectId : Nat) (progress : ImportProgress)
    (row : Nat × ImportLandBasedUnitRow) : Except ServiceError ImportProgress := do
  let group := (row.2.groupCode.filter (· ≠ "")).map fun code => (code,
    (progress.db.groups.findFirst? fun _ group => group.companyId == companyId &&
      group.projectId == projectId && group.code == code).map Prod.fst)
  match group with
  | some (code, none) =>
    return progress.skip row.1 row.2.unitNumber.1
      s!"Inventory group '{code}' not found in this project"
  | _ =>
    if progress.db.units.any (fun _ unit => unit.companyId == companyId &&
        unit.projectId == projectId && unit.number == row.2.unitNumber.1) then
      return progress.skip row.1 row.2.unitNumber.1 "Unit number already exists in this project"
    else
      let landAreaEntered ← columnNumber row.2.landAreaEntered
      let builtUpAreaSqft ← columnNumber? row.2.builtUpAreaSqft
      let lengthFeet ← columnNumber? row.2.lengthFeet
      let breadthFeet ← columnNumber? row.2.breadthFeet
      return progress.created (landUnit companyId projectId
        { number := row.2.unitNumber.1
          inventoryGroupId := group.bind Prod.snd
          unitTypeId := unitTypeNamed companyId row.2.unitType progress.db
          landAreaEntered
          landAreaEnteredUnit := row.2.landAreaEnteredUnit
          rateUnit := row.2.rateUnit
          baseRatePaise := row.2.baseRatePaise.getD 0
          builtUpAreaSqft
          builtUpRatePaise := row.2.builtUpRatePaise.filter (· ≠ 0)
          landRecordRef := row.2.landRecordRef
          facing := row.2.facing
          lengthFeet
          breadthFeet })

def noDataRows : ServiceError := .badRequest "No data rows found in the worksheet"

def floorKey (row : ImportUnitRow) : String × Int × String :=
  (row.towerCode.1, row.floorNumber, row.unitNumber.1)

def floorKeyMessage (row : ImportUnitRow) : String :=
  s!"Duplicate unit number '{row.unitNumber.1}' on floor {row.floorNumber} in tower " ++
    row.towerCode.1

def importLandBasedUnits (companyId projectId : Nat) (sheet : Sheet) (db : InventoryDb) :
    Except ServiceError (ImportResult × InventoryDb) := do
  let rows := dataRows landBasedHeaderMap sheet
  ensure (rows.length ≠ 0) noDataRows
  let valid := validRows parseLandBasedUnitRow rows
  let errors := rowErrors parseLandBasedUnitRow rows ++
    duplicateErrors (fun row => row.unitNumber.1)
      (fun row => s!"Duplicate unit number '{row.unitNumber.1}' in file") [] valid
  if errors ≠ [] then return (.failed errors, db)
  else
    let project ← orThrow (db.project? companyId projectId) (.notFound "Project not found")
    ensure (project.shape = .landBased) (.badRequest
      "This project is HIGH_RISE — use the tower/floor import template instead.")
    let progress ← valid.foldlM (importLandBasedRow companyId projectId) { db }
    return (progress.result, progress.db)

def importHighRiseUnits (companyId projectId : Nat) (sheet : Sheet) (db : InventoryDb) :
    Except ServiceError (ImportResult × InventoryDb) := do
  let rows := dataRows highRiseHeaderMap sheet
  ensure (rows.length ≠ 0) noDataRows
  let errors := rowErrors parseUnitRow rows
  let valid := validRows parseUnitRow rows
  if errors ≠ [] then return (.failed errors, db)
  else
    let errors := duplicateErrors floorKey floorKeyMessage [] valid
    if errors ≠ [] then return (.failed errors, db)
    else
      let progress ← valid.foldlM (importRow companyId projectId) { db }
      return (progress.result, progress.db)

def importUnits (companyId projectId : Nat) (sheet : Sheet) (db : InventoryDb) :
    Except ServiceError (ImportResult × InventoryDb) := do
  let project ← orThrow (db.project? companyId projectId) (.notFound "Project not found")
  if project.shape = .landBased then importLandBasedUnits companyId projectId sheet db
  else importHighRiseUnits companyId projectId sheet db

/-! ### What a row does -/

variable {companyId projectId : Nat} {progress : ImportProgress}

/-- **A row of a high rise** is skipped, on its floor or in its tower, or adds a unit. -/
theorem importRow_eq_ok {next : ImportProgress} {row : Nat × ImportUnitRow}
    {tower floor : Nat × InventoryDb}
    (coded : towerCoded companyId projectId row.2.towerName.1 row.2.towerCode.1 progress.db = tower)
    (upserted : tower.2.upsertFloor
      { companyId, towerId := tower.1, name := row.2.floorName.1, floorNumber := row.2.floorNumber } =
        floor) :
    importRow companyId projectId progress row = .ok next ↔
      (-2 ^ 31 ≤ row.2.floorNumber ∧ row.2.floorNumber < 2 ^ 31) ∧
      if floor.2.units.any (fun _ unit => unit.floorId == some floor.1 &&
          unit.number == row.2.unitNumber.1 && unit.companyId == companyId) then
        { progress with db := floor.2 }.skip row.1 row.2.unitNumber.1
          "Unit already exists on this floor" = next
      else if floor.2.units.any (fun _ unit => unit.companyId == companyId &&
          floor.2.towerOf unit == some tower.1 && unit.number == row.2.unitNumber.1) then
        { progress with db := floor.2 }.skip row.1 row.2.unitNumber.1
          s!"Unit number already exists on another floor in tower {row.2.towerCode.1}" = next
      else ∃ carpetAreaSqft builtUpAreaSqft superBuiltUpSqft,
        columnNumber? row.2.carpetAreaSqft = .ok carpetAreaSqft ∧
        columnNumber? row.2.builtUpAreaSqft = .ok builtUpAreaSqft ∧
        columnNumber? row.2.superBuiltUpSqft = .ok superBuiltUpSqft ∧
        { progress with db := floor.2 }.created (floorUnit companyId projectId floor.1
          row.2.unitNumber.1 (unitTypeNamed companyId row.2.unitType progress.db)
          { carpetAreaSqft, builtUpAreaSqft, superBuiltUpSqft }
          (row.2.baseRatePaise.getD 0)) = next := by
  subst coded upserted
  unfold importRow
  rw [bind_eq_ok]
  simp only [ensure_eq_ok, exists_const]
  refine and_congr_right fun _ => ?_
  split
  · exact pure_eq_ok
  · split
    · exact pure_eq_ok
    · simp only [bind_eq_ok, pure_eq_ok, exists_and_left]

/-- **A row on land** is skipped, or adds a unit whose number is new in its project. -/
theorem importLandBasedRow_cases {next : ImportProgress} {row : Nat × ImportLandBasedUnitRow}
    (accepted : importLandBasedRow companyId projectId progress row = .ok next) :
    next.db = progress.db ∨ ∃ data : LandUnitData, data.number = row.2.unitNumber.1 ∧
      progress.db.units.any (fun _ unit => unit.companyId == companyId &&
        unit.projectId == projectId && unit.number == row.2.unitNumber.1) = false ∧
      next.db = progress.db.insertUnit (landUnit companyId projectId data) := by
  simp only [importLandBasedRow] at accepted
  split at accepted
  · cases accepted
    exact Or.inl rfl
  · split at accepted
    · cases accepted
      exact Or.inl rfl
    · rename_i new
      obtain ⟨entered, _, accepted⟩ := bind_eq_ok.mp accepted
      obtain ⟨builtUp, _, accepted⟩ := bind_eq_ok.mp accepted
      obtain ⟨length, _, accepted⟩ := bind_eq_ok.mp accepted
      obtain ⟨breadth, _, accepted⟩ := bind_eq_ok.mp accepted
      cases accepted
      exact Or.inr ⟨_, rfl, eq_false_of_ne_true new, rfl⟩

/-- **An import to a project on land** fails, or imports all rows of a file without errors. -/
theorem importLandBasedUnits_cases {sheet : Sheet} {db after : InventoryDb} {result : ImportResult}
    (accepted : importLandBasedUnits companyId projectId sheet db = .ok (result, after)) :
    (result.success = false ∧ after = db) ∨
      (dataRows landBasedHeaderMap sheet ≠ [] ∧
        rowErrors parseLandBasedUnitRow (dataRows landBasedHeaderMap sheet) = [] ∧
        ∃ project progress, db.project? companyId projectId = some project ∧
          project.shape = .landBased ∧
          (validRows parseLandBasedUnitRow (dataRows landBasedHeaderMap sheet)).foldlM
            (importLandBasedRow companyId projectId) { db } = .ok progress ∧
          result = progress.result ∧ after = progress.db) := by
  obtain ⟨_, some_, accepted⟩ := bind_eq_ok.mp accepted
  dsimp only at accepted
  split at accepted
  · cases accepted
    exact Or.inl ⟨rfl, rfl⟩
  · rename_i noErrors
    have noErrors := Decidable.not_not.mp noErrors
    obtain ⟨project, read, accepted⟩ := bind_eq_ok.mp accepted
    obtain ⟨_, shape, accepted⟩ := bind_eq_ok.mp accepted
    obtain ⟨progress, imported, accepted⟩ := bind_eq_ok.mp accepted
    cases accepted
    exact Or.inr ⟨fun none_ => ensure_eq_ok.mp some_ (List.length_eq_zero_iff.mpr none_),
      (List.append_eq_nil_iff.mp noErrors).1, project, progress, orThrow_eq_ok.mp read,
      ensure_eq_ok.mp shape, imported, rfl, rfl⟩

/-- **An import to a high rise** fails, or imports all rows of a file without errors. -/
theorem importHighRiseUnits_cases {sheet : Sheet} {db after : InventoryDb} {result : ImportResult}
    (accepted : importHighRiseUnits companyId projectId sheet db = .ok (result, after)) :
    (result.success = false ∧ after = db) ∨
      (dataRows highRiseHeaderMap sheet ≠ [] ∧
        rowErrors parseUnitRow (dataRows highRiseHeaderMap sheet) = [] ∧
        ∃ progress, (validRows parseUnitRow (dataRows highRiseHeaderMap sheet)).foldlM
            (importRow companyId projectId) { db } = .ok progress ∧
          result = progress.result ∧ after = progress.db) := by
  obtain ⟨_, some_, accepted⟩ := bind_eq_ok.mp accepted
  dsimp only at accepted
  split at accepted
  · cases accepted
    exact Or.inl ⟨rfl, rfl⟩
  · rename_i noErrors
    split at accepted
    · cases accepted
      exact Or.inl ⟨rfl, rfl⟩
    · obtain ⟨progress, imported, accepted⟩ := bind_eq_ok.mp accepted
      cases accepted
      exact Or.inr ⟨fun none_ => ensure_eq_ok.mp some_ (List.length_eq_zero_iff.mpr none_),
        Decidable.not_not.mp noErrors, progress, imported, rfl, rfl⟩

theorem importHighRiseUnits_of_valid {sheet : Sheet} {db : InventoryDb}
    (some_ : dataRows highRiseHeaderMap sheet ≠ [])
    (noErrors : rowErrors parseUnitRow (dataRows highRiseHeaderMap sheet) = [])
    (distinct : duplicateErrors floorKey floorKeyMessage []
      (validRows parseUnitRow (dataRows highRiseHeaderMap sheet)) = [])
    (imported : (validRows parseUnitRow (dataRows highRiseHeaderMap sheet)).foldlM
      (importRow companyId projectId) { db } = .ok progress) :
    importHighRiseUnits companyId projectId sheet db = .ok (progress.result, progress.db) := by
  unfold importHighRiseUnits
  rw [bind_eq_ok]
  refine ⟨(), ensure_eq_ok.mpr fun none_ => some_ (List.length_eq_zero_iff.mp none_), ?_⟩
  dsimp only
  rw [if_neg fun some_ => some_ noErrors, if_neg fun some_ => some_ distinct, imported]
  rfl

/-- **An import keeps what each of its rows keeps.** -/
theorem importUnits_invariant (holds : InventoryDb → Prop) {sheet : Sheet} {db after : InventoryDb}
    {result : ImportResult} (start : holds db)
    (highRise : ∀ progress row next, holds progress.db →
      importRow companyId projectId progress row = .ok next → holds next.db)
    (landBased : ∀ progress row next, holds progress.db →
      importLandBasedRow companyId projectId progress row = .ok next → holds next.db)
    (accepted : importUnits companyId projectId sheet db = .ok (result, after)) : holds after := by
  obtain ⟨project, _, accepted⟩ := bind_eq_ok.mp accepted
  split at accepted
  · rcases importLandBasedUnits_cases accepted with
      ⟨_, same⟩ | ⟨_, _, _, progress, _, _, imported, _, is⟩
    · exact same ▸ start
    · rw [is]
      exact foldlM_invariant (fun progress => holds progress.db) imported start landBased
  · rcases importHighRiseUnits_cases accepted with ⟨_, same⟩ | ⟨_, _, progress, imported, _, is⟩
    · exact same ▸ start
    · rw [is]
      exact foldlM_invariant (fun progress => holds progress.db) imported start highRise

end ImportExportService

end OpenEstate.Inventory
