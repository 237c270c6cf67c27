/-
**The tables of inventory.**

A project is of one of two shapes. The units of a high rise stand on the floors of its towers; those
of a project on land have no floor, and may belong to a group. Floors have no operation of their
own: they appear with the units that stand on them.
-/

import Mathlib.Data.Rat.Floor
import OpenEstate.Relational.Table
import OpenEstate.Shared.Inventory
import OpenEstate.Shared.ServiceError

namespace OpenEstate.Inventory

open Relational

/-! ### Areas -/

inductive AreaUnit
  | sqft | sqyd | sqm | acre | gunta
  deriving DecidableEq

namespace AreaUnit

def text : AreaUnit → String
  | sqft => "SQFT"
  | sqyd => "SQYD"
  | sqm => "SQM"
  | acre => "ACRE"
  | gunta => "GUNTA"

def all : List AreaUnit := [sqft, sqyd, sqm, acre, gunta]

def ofText? (text : String) : Option AreaUnit := all.find? fun unit => unit.text == text

def sqftPerUnitScaled : AreaUnit → Nat
  | sqft => 10000000000
  | sqyd => 90000000000
  | gunta => 10890000000000
  | acre => 435600000000000
  | sqm => 107639104167

end AreaUnit

/-- A decimal column, of so many places. A number written to it is rounded half up; none is
negative. -/
structure Decimal (places : Nat) where
  scaled : Nat
  deriving DecidableEq

namespace Decimal

variable {places : Nat}

def ofNumber (value : ℚ) : Decimal places := ⟨⌊value * 10 ^ places + 1 / 2⌋.toNat⟩

/-- The number of a column. Fifteen digits survive the way through a double and its shortest text,
so that it stands for the rational here. -/
def toNumber (column : Decimal places) : ℚ := column.scaled / 10 ^ places

/-- **A column is written back as it was read.** -/
theorem ofNumber_toNumber (column : Decimal places) : ofNumber column.toNumber = column := by
  have whole : (column.scaled / 10 ^ places * 10 ^ places + 1 / 2 : ℚ) = column.scaled + 1 / 2 := by
    rw [div_mul_cancel₀ _ (pow_ne_zero _ (by norm_num))]
  have floor : ⌊(column.scaled + 1 / 2 : ℚ)⌋ = column.scaled := by
    rw [Int.floor_eq_iff]
    constructor
    · push_cast
      linarith
    · push_cast
      linarith
  rw [ofNumber, toNumber, whole, floor]
  rfl

theorem ofNumber_ne_zero {value : ℚ} (large : 1 ≤ value) :
    (ofNumber value : Decimal places).scaled ≠ 0 := by
  have scale : (1 : ℚ) ≤ 10 ^ places := one_le_pow₀ (by norm_num)
  have product : (1 : ℚ) ≤ value * 10 ^ places := one_le_mul_of_one_le_of_one_le large scale
  have floor : 1 ≤ ⌊value * 10 ^ places + 1 / 2⌋ := by
    rw [Int.le_floor]
    push_cast
    linarith
  have whole : (ofNumber value : Decimal places).scaled = ⌊value * 10 ^ places + 1 / 2⌋.toNat := rfl
  omega

theorem toNumber_pos {column : Decimal places} : 0 < column.toNumber ↔ column.scaled ≠ 0 := by
  rw [toNumber, div_pos_iff_of_pos_right (by positivity), Nat.cast_pos, Nat.pos_iff_ne_zero]

end Decimal

def convertToSqft (entered : Decimal 6) (unit : AreaUnit) : Decimal 6 :=
  ⟨(2 * (entered.scaled * unit.sqftPerUnitScaled) + 10 ^ 10) / (2 * 10 ^ 10)⟩

/-! ### Rows -/

inductive InventoryShape
  | highRise | landBased
  deriving DecidableEq

structure Project where
  companyId : Nat
  shape : InventoryShape

structure Tower where
  companyId : Nat
  projectId : Nat
  name : String
  code : String

structure Floor where
  companyId : Nat
  towerId : Nat
  name : String
  floorNumber : Int

structure InventoryGroup where
  companyId : Nat
  projectId : Nat
  code : String

structure UnitType where
  companyId : Nat
  name : String

structure InventoryUnit where
  companyId : Nat
  projectId : Nat
  shape : InventoryShape
  floorId : Option Nat
  inventoryGroupId : Option Nat := none
  unitTypeId : Option Nat := none
  number : String
  status : UnitStatus := .available
  carpetAreaSqft : Option (Decimal 2) := none
  builtUpAreaSqft : Option (Decimal 2) := none
  superBuiltUpSqft : Option (Decimal 2) := none
  landAreaEntered : Option (Decimal 6) := none
  landAreaEnteredUnit : Option AreaUnit := none
  landAreaSqft : Option (Decimal 6) := none
  landRecordRef : Option String := none
  facing : Option String := none
  lengthFeet : Option (Decimal 2) := none
  breadthFeet : Option (Decimal 2) := none
  baseRatePaise : Nat := 0
  rateUnit : AreaUnit := .sqft
  builtUpRatePaise : Option Nat := none

structure InventoryDb where
  projects : Table Project := .empty
  towers : Table Tower := .empty
  floors : Table Floor := .empty
  groups : Table InventoryGroup := .empty
  unitTypes : Table UnitType := .empty
  units : Table InventoryUnit := .empty

namespace InventoryDb

def project? (db : InventoryDb) (companyId projectId : Nat) : Option Project :=
  (db.projects.find? projectId).filter (·.companyId = companyId)

def towerOf (db : InventoryDb) (unit : InventoryUnit) : Option Nat :=
  unit.floorId.bind fun floorId => (db.floors.find? floorId).map Floor.towerId

def insertUnit (db : InventoryDb) (unit : InventoryUnit) : InventoryDb :=
  { db with units := db.units.create unit }

def insertFloor (db : InventoryDb) (floor : Floor) : InventoryDb :=
  { db with floors := db.floors.create floor }

def insertTower (db : InventoryDb) (tower : Tower) : InventoryDb :=
  { db with towers := db.towers.create tower }

/-- The floor of a tower with a number, which is inserted if it is not there. -/
def upsertFloor (db : InventoryDb) (floor : Floor) : Nat × InventoryDb :=
  match db.floors.findFirst? fun _ row =>
      row.towerId == floor.towerId && row.floorNumber == floor.floorNumber with
  | some (id, _) => (id, db)
  | none => (db.floors.nextId, db.insertFloor floor)

end InventoryDb

end OpenEstate.Inventory
