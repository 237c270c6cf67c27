/-
**Reading what was written.**

A worksheet that was exported is read by the headers that an import has fields for. Of a high rise,
these are all but the status. Of a project on land, the headers of three fields that an import asks
for are others.

* `Standing.parseUnitRow_reads`: a row that parses is what was written, but for its rate, which is
  read as a double;
* `Standing.exists_parseUnitRow`: a row parses if its areas can be read and its rate is a double;
* `dataRows_written`, `rowErrors_eq_nil` and `validRows_written`: from rows to worksheets.
-/

import OpenEstate.Inventory.Copied

namespace OpenEstate.Inventory

open Relational
open Runtime (Number)

/-! ### Parsing a row -/

section Parsing

variable {data : RowData} {field : String}

theorem parseUnitRow_eq_ok {row : ImportUnitRow} : parseUnitRow data = .ok row ↔
    requiredText 255 data "towerName" = .ok row.towerName ∧
    requiredText 50 data "towerCode" = .ok row.towerCode ∧
    requiredText 100 data "floorName" = .ok row.floorName ∧
    requiredNumber integerNumber data "floorNumber" = .ok row.floorNumber ∧
    requiredText 50 data "unitNumber" = .ok row.unitNumber ∧
    optionalText 255 data "unitType" = .ok row.unitType ∧
    optionalNumber positiveNumber data "carpetAreaSqft" = .ok row.carpetAreaSqft ∧
    optionalNumber positiveNumber data "builtUpAreaSqft" = .ok row.builtUpAreaSqft ∧
    optionalNumber positiveNumber data "superBuiltUpSqft" = .ok row.superBuiltUpSqft ∧
    optionalNumber naturalNumber data "baseRatePaise" = .ok row.baseRatePaise := by
  unfold parseUnitRow
  simp only [Parsed.seq_eq_ok, map_eq_ok]
  constructor
  · rintro ⟨_, baseRate, ⟨_, superBuiltUp, ⟨_, builtUp, ⟨_, carpet, ⟨_, unitType, ⟨_, unitNumber,
      ⟨_, floorNumber, ⟨_, floorName, ⟨_, towerCode, ⟨towerName, h1, rfl⟩, h2, rfl⟩, h3, rfl⟩,
      h4, rfl⟩, h5, rfl⟩, h6, rfl⟩, h7, rfl⟩, h8, rfl⟩, h9, rfl⟩, h10, rfl⟩
    exact ⟨h1, h2, h3, h4, h5, h6, h7, h8, h9, h10⟩
  · rintro ⟨h1, h2, h3, h4, h5, h6, h7, h8, h9, h10⟩
    exact ⟨_, _, ⟨_, _, ⟨_, _, ⟨_, _, ⟨_, _, ⟨_, _, ⟨_, _, ⟨_, _, ⟨_, _, ⟨_, h1, rfl⟩, h2, rfl⟩,
      h3, rfl⟩, h4, rfl⟩, h5, rfl⟩, h6, rfl⟩, h7, rfl⟩, h8, rfl⟩, h9, rfl⟩, h10, rfl⟩

theorem requiredText_of_text {most : Nat} {content : String} (is : data field = some (.text content))
    (fits : Fits most content) : requiredText most data field = .ok ⟨content, fits⟩ := by
  simp only [requiredText, is, fits, dite_true]

theorem naturalNumber_eq_ok {number : Number} {value : Nat} :
    naturalNumber field number = .ok value ↔ number = .finite value := by
  cases number with
  | nan => simp [naturalNumber, issue]
  | infinite negative => simp [naturalNumber]
  | finite rational =>
    rw [Number.finite.injEq]
    simp only [naturalNumber]
    constructor
    · intro accepted
      split at accepted
      · rename_i whole
        cases accepted
        have natural : ((rational.num.toNat : ℤ) : ℚ) = rational := by
          rw [Int.toNat_of_nonneg (Rat.num_nonneg.mpr whole.2)]
          exact Rat.coe_int_num_of_den_eq_one whole.1
        exact_mod_cast natural.symm
      · cases accepted
    · rintro rfl
      rw [if_pos ⟨Rat.den_natCast value, Nat.cast_nonneg value⟩, Rat.num_natCast, Int.toNat_natCast]

theorem integerNumber_intCast (value : Int) :
    integerNumber field (.finite (value : ℚ)) = .ok value := by
  simp [integerNumber]

/-- An area that is read as it is: one of the column, or an absent one if the library has it. -/
def ReadsArea (blanks : BlankCells) (column : Option (Decimal 2)) (area : Option Number) : Prop :=
  match column with
  | some column => column.scaled ≠ 0 ∧ area = some (.finite column.toNumber)
  | none => blanks = .absent ∧ area = none

variable {blanks : BlankCells} {column : Option (Decimal 2)}
variable {area : Option Number}

theorem optionalNumber_areaCell (is : data field = blanks.read (areaCell column)) :
    optionalNumber positiveNumber data field = .ok area ↔ ReadsArea blanks column area := by
  cases column with
  | none =>
    cases blanks with
    | absent =>
      have none_ : data field = none := is
      simp [optionalNumber, none_, ReadsArea, eq_comm]
    | emptyText =>
      have empty : data field = some (.text "") := is
      simp [optionalNumber, empty, ReadsArea, CellValue.toNumber, Runtime.numberOf_empty,
        positiveNumber, issue]
  | some column =>
    have number : data field = some (.number column.toNumber) :=
      is.trans (BlankCells.read_of_ne nofun)
    by_cases zero : column.scaled = 0
    · have positive : ¬0 < column.toNumber := fun positive => Decimal.toNumber_pos.mp positive zero
      simp [optionalNumber, number, ReadsArea, CellValue.toNumber, positiveNumber, positive, issue,
        zero]
    · have positive : 0 < column.toNumber := Decimal.toNumber_pos.mpr zero
      simp [optionalNumber, number, ReadsArea, CellValue.toNumber, positiveNumber, positive, zero,
        eq_comm]

theorem ReadsArea.columnArea_eq
    (reads : ReadsArea blanks column area) : columnArea area = column := by
  cases column with
  | none =>
    obtain ⟨_, rfl⟩ := reads
    rfl
  | some column =>
    obtain ⟨_, rfl⟩ := reads
    exact congrArg some column.ofNumber_toNumber

theorem ReadsArea.finite (reads : ReadsArea blanks column area) : FiniteArea area := by
  intro number is
  cases column with
  | none =>
    obtain ⟨_, rfl⟩ := reads
    cases is
  | some column =>
    obtain ⟨_, rfl⟩ := reads
    cases is
    exact ⟨column.toNumber, rfl⟩

/-- Whether an area can be read: one that is stored as zero cannot, and one that is absent only if
the library gives no empty text back. -/
def AreaReadable (blanks : BlankCells) : Option (Decimal 2) → Prop
  | some column => column.scaled ≠ 0
  | none => blanks = .absent

theorem exists_readsArea :
    (∃ area, ReadsArea blanks column area) ↔ AreaReadable blanks column := by
  cases column with
  | none =>
    exact ⟨fun ⟨_, absent, _⟩ => absent, fun absent => ⟨none, absent, rfl⟩⟩
  | some column =>
    exact ⟨fun ⟨_, nonzero, _⟩ => nonzero, fun nonzero => ⟨_, nonzero, rfl⟩⟩

/-- **Whether a unit can be read** as it was written: its areas can, and its rate is a double. -/
structure Exportable (blanks : BlankCells) (unit : InventoryUnit) : Prop where
  carpetAreaSqft : AreaReadable blanks unit.carpetAreaSqft
  builtUpAreaSqft : AreaReadable blanks unit.builtUpAreaSqft
  superBuiltUpSqft : AreaReadable blanks unit.superBuiltUpSqft
  baseRatePaise : Runtime.toNumber (unit.baseRatePaise : ℕ) = .finite unit.baseRatePaise

theorem optionalText_textCell {most : Nat} {name : Option String}
    (fits : ∀ text ∈ name, Fits most text) (is : data field = blanks.read (textCell name)) :
    ∃ read, optionalText most data field = .ok read ∧ read.filter (· ≠ "") = name := by
  cases name with
  | none =>
    cases blanks with
    | absent =>
      have none_ : data field = none := is
      exact ⟨none, by simp [optionalText, none_], rfl⟩
    | emptyText =>
      have empty : data field = some (.text "") := is
      exact ⟨some "", by simp [optionalText, empty, Runtime.length], rfl⟩
  | some text =>
    obtain ⟨some_, short⟩ := fits text rfl
    have cell : data field = some (.text text) :=
      is.trans (BlankCells.read_of_ne fun same => some_ (CellValue.text.inj same))
    exact ⟨some text, by simp [optionalText, cell, short], by simp [some_]⟩

theorem optionalNumber_rate {rate : Nat} {read : Option Nat}
    (is : data field = some (.text (toString rate))) :
    optionalNumber naturalNumber data field = .ok read ↔
      ∃ value, read = some value ∧ Runtime.toNumber (rate : ℕ) = .finite value := by
  simp only [optionalNumber, is, map_eq_ok, CellValue.toNumber, Runtime.numberOf_digits,
    naturalNumber_eq_ok]
  constructor
  · rintro ⟨value, number, rfl⟩
    exact ⟨value, rfl, number⟩
  · rintro ⟨value, rfl, number⟩
    exact ⟨value, number, rfl⟩

end Parsing

/-! ### Reading a written row -/

def highRiseFields : List (Option String) :=
  [some "towerName", some "towerCode", some "floorName", some "floorNumber", some "unitNumber",
    some "unitType", none, some "carpetAreaSqft", some "builtUpAreaSqft", some "superBuiltUpSqft",
    some "baseRatePaise"]

/-- The fields that the columns of a project on land stand for: those of its units are not found. -/
def landBasedFields : List (Option String) :=
  [some "groupCode", some "unitNumber", some "unitType", none, some "landAreaEntered", none, none,
    none, none, some "builtUpAreaSqft", some "landRecordRef", some "facing"]

section Reading

variable {blanks : BlankCells} {view : UnitView}

theorem fieldOf_highRiseHeaders : ((highRiseHeaders.map .text).map blanks.read).map
    (fieldOf highRiseHeaderMap) = highRiseFields := by
  cases blanks <;> decide

theorem fieldOf_landBasedHeaders : ((landBasedHeaders.map .text).map blanks.read).map
    (fieldOf landBasedHeaderMap) = landBasedFields := by
  cases blanks <;> decide

def readRow (blanks : BlankCells) (fields : List (Option String)) (cells : List CellValue) :
    RowData :=
  rowData (fieldCells fields (cells.map blanks.read))

theorem zip_unique {fields : List (Option String)} (distinct : (fields.filterMap id).Nodup)
    {cells : List (Option CellValue)} {field : String} {one second : Option CellValue}
    (member : (some field, one) ∈ fields.zip cells)
    (also : (some field, second) ∈ fields.zip cells) : one = second := by
  induction fields generalizing cells with
  | nil => cases member
  | cons first rest ih =>
    cases cells with
    | nil => cases member
    | cons cell cells =>
      have apart : first = some field → some field ∉ rest := by
        rintro rfl there
        exact (List.nodup_cons.mp distinct).1 (List.mem_filterMap.mpr ⟨some field, there, rfl⟩)
      have later : (rest.filterMap id).Nodup := by
        cases first with
        | none => exact distinct
        | some _ => exact (List.nodup_cons.mp distinct).2
      rw [List.zip_cons_cons, List.mem_cons] at member also
      rcases member with same | member
      · rcases also with sameToo | also
        · cases same
          cases sameToo
          rfl
        · exact absurd (List.of_mem_zip also).1 (apart (congrArg Prod.fst same).symm)
      · rcases also with sameToo | also
        · exact absurd (List.of_mem_zip member).1 (apart (congrArg Prod.fst sameToo).symm)
        · exact ih later member also

theorem readRow_highRise (blanks : BlankCells) (view : UnitView) (column : Nat) {field : String}
    {content : Option CellValue}
    (at_ : (highRiseFields.zip ((highRiseCells view).map blanks.read))[column]? =
      some (some field, content)) :
    readRow blanks highRiseFields (highRiseCells view) field = content :=
  rowData_fieldCells (fun _ _ member also => zip_unique (by decide) member also)
    (List.mem_of_getElem? at_)

theorem read_text {content : String} (some_ : content ≠ "") :
    blanks.read (.text content) = some (.text content) :=
  BlankCells.read_of_ne fun same => some_ (CellValue.text.inj same)

theorem toString_ne_empty (number : Nat) : toString number ≠ "" := by
  intro empty
  have none_ : number.repr.toList = [] := congrArg String.toList empty
  rw [Nat.toList_repr] at none_
  exact Nat.toDigits_ne_nil none_

structure Standing (view : UnitView) (tower : Tower) (floor : Floor) : Prop where
  inTower : view.tower = some tower
  onFloor : view.floor = some floor
  tower : TowerStored tower
  floor : FloorStored floor
  number : Fits 50 view.unit.number
  unitType : ∀ name ∈ view.unitType.map UnitType.name, Fits 255 name

/-- **What is read of a unit**: all that was written, but for the rate, which is read as a double. -/
structure Reads (blanks : BlankCells) (view : UnitView) (tower : Tower) (floor : Floor)
    (row : ImportUnitRow) : Prop where
  towerName : row.towerName.1 = tower.name
  towerCode : row.towerCode.1 = tower.code
  floorName : row.floorName.1 = floor.name
  floorNumber : row.floorNumber = floor.floorNumber
  unitNumber : row.unitNumber.1 = view.unit.number
  unitType : row.unitType.filter (· ≠ "") = view.unitType.map UnitType.name
  carpetAreaSqft : ReadsArea blanks view.unit.carpetAreaSqft row.carpetAreaSqft
  builtUpAreaSqft : ReadsArea blanks view.unit.builtUpAreaSqft row.builtUpAreaSqft
  superBuiltUpSqft : ReadsArea blanks view.unit.superBuiltUpSqft row.superBuiltUpSqft
  baseRatePaise : ∃ value, row.baseRatePaise = some value ∧
    Runtime.toNumber (view.unit.baseRatePaise : ℕ) = .finite value

structure ReadFields (blanks : BlankCells) (view : UnitView) (tower : Tower) (floor : Floor)
    (data : RowData) : Prop where
  towerName : ∃ fits, requiredText 255 data "towerName" = .ok ⟨tower.name, fits⟩
  towerCode : ∃ fits, requiredText 50 data "towerCode" = .ok ⟨tower.code, fits⟩
  floorName : ∃ fits, requiredText 100 data "floorName" = .ok ⟨floor.name, fits⟩
  floorNumber : requiredNumber integerNumber data "floorNumber" = .ok floor.floorNumber
  unitNumber : ∃ fits, requiredText 50 data "unitNumber" = .ok ⟨view.unit.number, fits⟩
  unitType : ∃ read, optionalText 255 data "unitType" = .ok read ∧
    read.filter (· ≠ "") = view.unitType.map UnitType.name

variable {tower : Tower} {floor : Floor}

theorem Standing.readFields (standing : Standing view tower floor) :
    ReadFields blanks view tower floor (readRow blanks highRiseFields (highRiseCells view)) where
  towerName := by
    have read := readRow_highRise blanks view 0 rfl
    rw [standing.inTower] at read
    exact ⟨standing.tower.name, requiredText_of_text (read.trans (read_text standing.tower.name.1)) _⟩
  towerCode := by
    have read := readRow_highRise blanks view 1 rfl
    rw [standing.inTower] at read
    exact ⟨standing.tower.code, requiredText_of_text (read.trans (read_text standing.tower.code.1)) _⟩
  floorName := by
    have read := readRow_highRise blanks view 2 rfl
    rw [standing.onFloor] at read
    exact ⟨standing.floor.name, requiredText_of_text (read.trans (read_text standing.floor.name.1)) _⟩
  floorNumber := by
    have read := readRow_highRise blanks view 3 rfl
    rw [standing.onFloor] at read
    rw [requiredNumber, read.trans (BlankCells.read_of_ne nofun)]
    exact integerNumber_intCast floor.floorNumber
  unitNumber :=
    ⟨standing.number, requiredText_of_text
      ((readRow_highRise blanks view 4 rfl).trans (read_text standing.number.1)) _⟩
  unitType := optionalText_textCell standing.unitType (readRow_highRise blanks view 5 rfl)

theorem Standing.parseUnitRow_reads (standing : Standing view tower floor) {row : ImportUnitRow}
    (parsed : parseUnitRow (readRow blanks highRiseFields (highRiseCells view)) = .ok row) :
    Reads blanks view tower floor row := by
  have fields : ReadFields blanks view tower floor _ := standing.readFields
  obtain ⟨isTower, isCode, isFloor, isNumber, isUnit, isType, carpet, builtUp, superBuiltUp, rate⟩ :=
    parseUnitRow_eq_ok.mp parsed
  obtain ⟨_, towerName⟩ := fields.towerName
  obtain ⟨_, towerCode⟩ := fields.towerCode
  obtain ⟨_, floorName⟩ := fields.floorName
  obtain ⟨_, unitNumber⟩ := fields.unitNumber
  obtain ⟨read, unitType, named⟩ := fields.unitType
  exact {
    towerName := congrArg Subtype.val (Except.ok.inj (isTower.symm.trans towerName))
    towerCode := congrArg Subtype.val (Except.ok.inj (isCode.symm.trans towerCode))
    floorName := congrArg Subtype.val (Except.ok.inj (isFloor.symm.trans floorName))
    floorNumber := Except.ok.inj (isNumber.symm.trans fields.floorNumber)
    unitNumber := congrArg Subtype.val (Except.ok.inj (isUnit.symm.trans unitNumber))
    unitType := Except.ok.inj (isType.symm.trans unitType) ▸ named
    carpetAreaSqft := (optionalNumber_areaCell (readRow_highRise blanks view 7 rfl)).mp carpet
    builtUpAreaSqft := (optionalNumber_areaCell (readRow_highRise blanks view 8 rfl)).mp builtUp
    superBuiltUpSqft :=
      (optionalNumber_areaCell (readRow_highRise blanks view 9 rfl)).mp superBuiltUp
    baseRatePaise := (optionalNumber_rate ((readRow_highRise blanks view 10 rfl).trans
      (read_text (toString_ne_empty _)))).mp rate }

theorem Standing.exists_parseUnitRow (standing : Standing view tower floor)
    (exportable : Exportable blanks view.unit) :
    ∃ row, parseUnitRow (readRow blanks highRiseFields (highRiseCells view)) = .ok row := by
  have fields : ReadFields blanks view tower floor _ := standing.readFields
  obtain ⟨_, towerName⟩ := fields.towerName
  obtain ⟨_, towerCode⟩ := fields.towerCode
  obtain ⟨_, floorName⟩ := fields.floorName
  obtain ⟨_, unitNumber⟩ := fields.unitNumber
  obtain ⟨read, unitType, _⟩ := fields.unitType
  obtain ⟨carpet, isCarpet⟩ := exists_readsArea.mpr exportable.carpetAreaSqft
  obtain ⟨builtUp, isBuiltUp⟩ := exists_readsArea.mpr exportable.builtUpAreaSqft
  obtain ⟨superBuiltUp, isSuper⟩ := exists_readsArea.mpr exportable.superBuiltUpSqft
  exact ⟨⟨_, _, _, _, _, _, _, _, _, some view.unit.baseRatePaise⟩, parseUnitRow_eq_ok.mpr
    ⟨towerName, towerCode, floorName, fields.floorNumber, unitNumber, unitType,
      (optionalNumber_areaCell (readRow_highRise blanks view 7 rfl)).mpr isCarpet,
      (optionalNumber_areaCell (readRow_highRise blanks view 8 rfl)).mpr isBuiltUp,
      (optionalNumber_areaCell (readRow_highRise blanks view 9 rfl)).mpr isSuper,
      (optionalNumber_rate ((readRow_highRise blanks view 10 rfl).trans
        (read_text (toString_ne_empty _)))).mpr
        ⟨view.unit.baseRatePaise, rfl, exportable.baseRatePaise⟩⟩⟩

end Reading

/-! ### Reading a written worksheet -/

section Worksheets

variable {α : Type} {headerMap : List (String × String)} {headers : List String}
variable {fields : List (Option String)} {cells : UnitView → List CellValue} {blanks : BlankCells}
variable {views : List UnitView} {parse : RowData → Parsed α}

theorem dataRows_written (isFields : ((headers.map .text).map blanks.read).map
      (fieldOf headerMap) = fields)
    (some_ : ∀ view ∈ views, fieldCells fields ((cells view).map blanks.read) ≠ []) :
    dataRows headerMap (readBack blanks (written headers cells views)) =
      (views.zipIdx 2).map fun row => (row.2, readRow blanks fields (cells row.1)) := by
  show (((views.map cells).map fun row => row.map blanks.read).zipIdx 2).filterMap (fun row =>
    if fieldCells (((headers.map .text).map blanks.read).map (fieldOf headerMap)) row.1 = [] then none
    else some (row.2, rowData (fieldCells (((headers.map .text).map blanks.read).map
      (fieldOf headerMap)) row.1))) = _
  rw [isFields, List.map_map, List.zipIdx_map, List.filterMap_map]
  refine (List.filterMap_congr fun row member => ?_).trans (congrFun List.filterMap_eq_map _)
  exact if_neg (some_ row.1 (List.fst_mem_of_mem_zipIdx member))

theorem rowErrors_eq_nil (sound : ∀ data, parse data ≠ .error []) {first : Nat} :
    rowErrors parse ((views.zipIdx first).map fun row =>
      (row.2, readRow blanks fields (cells row.1))) = [] ↔
        ∀ view ∈ views, ∃ value, parse (readRow blanks fields (cells view)) = .ok value := by
  induction views generalizing first with
  | nil => simp [rowErrors]
  | cons view rest ih =>
    unfold rowErrors at ih ⊢
    rw [List.zipIdx_cons, List.map_cons, List.flatMap_cons, List.append_eq_nil_iff, ih,
      List.forall_mem_cons]
    refine and_congr_left fun _ => ?_
    cases parsed : parse (readRow blanks fields (cells view)) with
    | ok value => simp
    | error issues =>
      have some_ : issues ≠ [] := fun none_ => sound _ (none_ ▸ parsed)
      simp [some_]

theorem validRows_written {first : Nat} :
    (validRows parse ((views.zipIdx first).map fun row =>
      (row.2, readRow blanks fields (cells row.1)))).map Prod.snd =
        views.filterMap fun view => (parse (readRow blanks fields (cells view))).toOption := by
  induction views generalizing first with
  | nil => rfl
  | cons view rest ih =>
    unfold validRows at ih ⊢
    rw [List.zipIdx_cons, List.map_cons, List.filterMap_cons, List.filterMap_cons]
    cases (parse (readRow blanks fields (cells view))).toOption with
    | none => exact ih
    | some value => exact congrArg (value :: ·) ih

end Worksheets

/-! ### Parses that fail name an issue -/

section Sound

variable {α β : Type} {data : RowData} {field : String}

theorem map_ne_error_nil {value : Parsed α} (sound : value ≠ .error []) (f : α → β) :
    f <$> value ≠ .error [] := by
  cases value with
  | ok value => nofun
  | error issues => exact fun none_ => sound (by cases none_; rfl)

theorem seq_ne_error_nil {function : Parsed (α → β)} {value : Parsed α}
    (first : function ≠ .error []) (second : value ≠ .error []) :
    function.seq value ≠ .error [] := by
  cases function with
  | ok function =>
    cases value with
    | ok value => nofun
    | error issues => exact fun none_ => second (by cases none_; rfl)
  | error issues =>
    cases value with
    | ok value => exact fun none_ => first (by cases none_; rfl)
    | error more =>
      intro none_
      have both := Except.error.inj none_
      exact first (congrArg Except.error (List.append_eq_nil_iff.mp both).1)

theorem requiredText_ne_error_nil (most : Nat) : requiredText most data field ≠ .error [] := by
  unfold requiredText
  repeat' split
  all_goals nofun

theorem optionalText_ne_error_nil (most : Nat) : optionalText most data field ≠ .error [] := by
  unfold optionalText
  repeat' split
  all_goals nofun

theorem positiveNumber_ne_error_nil (number : Number) : positiveNumber field number ≠ .error [] := by
  unfold positiveNumber
  repeat' split
  all_goals nofun

theorem integerNumber_ne_error_nil (number : Number) : integerNumber field number ≠ .error [] := by
  unfold integerNumber
  repeat' split
  all_goals nofun

theorem naturalNumber_ne_error_nil (number : Number) : naturalNumber field number ≠ .error [] := by
  cases number with
  | nan => nofun
  | infinite negative => nofun
  | finite value =>
    intro none_
    simp only [naturalNumber] at none_
    split at none_
    · cases none_
    · rename_i neither
      obtain ⟨whole, positive⟩ := List.append_eq_nil_iff.mp (Except.error.inj none_)
      apply neither
      constructor
      · by_contra fraction
        rw [if_neg fraction] at whole
        cases whole
      · by_contra negative
        rw [if_neg negative] at positive
        cases positive

theorem optionalNumber_ne_error_nil {check : String → Number → Parsed α}
    (sound : ∀ number, check field number ≠ .error []) :
    optionalNumber check data field ≠ .error [] := by
  unfold optionalNumber
  split
  · nofun
  · exact map_ne_error_nil (sound _) some

theorem parseUnitRow_ne_error_nil (data : RowData) : parseUnitRow data ≠ .error [] := by
  unfold parseUnitRow
  refine seq_ne_error_nil (seq_ne_error_nil (seq_ne_error_nil (seq_ne_error_nil (seq_ne_error_nil
    (seq_ne_error_nil (seq_ne_error_nil (seq_ne_error_nil (seq_ne_error_nil
      (map_ne_error_nil ?_ _) ?_) ?_) ?_) ?_) ?_) ?_) ?_) ?_) ?_
  · exact requiredText_ne_error_nil 255
  · exact requiredText_ne_error_nil 50
  · exact requiredText_ne_error_nil 100
  · exact integerNumber_ne_error_nil _
  · exact requiredText_ne_error_nil 50
  · exact optionalText_ne_error_nil 255
  · exact optionalNumber_ne_error_nil positiveNumber_ne_error_nil
  · exact optionalNumber_ne_error_nil positiveNumber_ne_error_nil
  · exact optionalNumber_ne_error_nil positiveNumber_ne_error_nil
  · exact optionalNumber_ne_error_nil naturalNumber_ne_error_nil

theorem requiredAreaUnit_ne_error_nil : requiredAreaUnit data field ≠ .error [] := by
  unfold requiredAreaUnit
  repeat' split
  all_goals nofun

theorem parseLandBasedUnitRow_ne_error_nil (data : RowData) :
    parseLandBasedUnitRow data ≠ .error [] := by
  unfold parseLandBasedUnitRow
  refine seq_ne_error_nil (seq_ne_error_nil (seq_ne_error_nil (seq_ne_error_nil (seq_ne_error_nil
    (seq_ne_error_nil (seq_ne_error_nil (seq_ne_error_nil (seq_ne_error_nil (seq_ne_error_nil
      (seq_ne_error_nil (seq_ne_error_nil
        (map_ne_error_nil ?_ _) ?_) ?_) ?_) ?_) ?_) ?_) ?_) ?_) ?_) ?_) ?_) ?_
  · exact optionalText_ne_error_nil 50
  · exact requiredText_ne_error_nil 50
  · exact optionalText_ne_error_nil 255
  · exact positiveNumber_ne_error_nil _
  · exact requiredAreaUnit_ne_error_nil
  · exact requiredAreaUnit_ne_error_nil
  · exact optionalNumber_ne_error_nil naturalNumber_ne_error_nil
  · exact optionalNumber_ne_error_nil positiveNumber_ne_error_nil
  · exact optionalNumber_ne_error_nil naturalNumber_ne_error_nil
  · exact optionalText_ne_error_nil 100
  · exact optionalText_ne_error_nil 20
  · exact optionalNumber_ne_error_nil positiveNumber_ne_error_nil
  · exact optionalNumber_ne_error_nil positiveNumber_ne_error_nil

theorem parseLandBasedUnitRow_error (missing : data "rateUnit" = none) (row : ImportLandBasedUnitRow) :
    parseLandBasedUnitRow data ≠ .ok row := by
  intro parsed
  unfold parseLandBasedUnitRow at parsed
  obtain ⟨_, _, parsed, _⟩ := Parsed.seq_eq_ok.mp parsed
  obtain ⟨_, _, parsed, _⟩ := Parsed.seq_eq_ok.mp parsed
  obtain ⟨_, _, parsed, _⟩ := Parsed.seq_eq_ok.mp parsed
  obtain ⟨_, _, parsed, _⟩ := Parsed.seq_eq_ok.mp parsed
  obtain ⟨_, _, parsed, _⟩ := Parsed.seq_eq_ok.mp parsed
  obtain ⟨_, _, parsed, _⟩ := Parsed.seq_eq_ok.mp parsed
  obtain ⟨_, _, parsed, _⟩ := Parsed.seq_eq_ok.mp parsed
  obtain ⟨_, _, _, rateUnit, _⟩ := Parsed.seq_eq_ok.mp parsed
  rw [requiredAreaUnit, missing] at rateUnit
  cases rateUnit

end Sound

end OpenEstate.Inventory
