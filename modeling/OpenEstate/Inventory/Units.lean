/-
**Units of inventory.**

A unit is created on a floor or in a project on land, or units are generated for a range of floors
of a tower. What a unit is called must be new in its tower, or in its project.

* `UnitService.create`, `createLandBased` and `bulkGenerate`, with `TowerService.create` before them;
* `generatedNumber_injective`: the numbers that are generated differ.
-/

import OpenEstate.Inventory.Schema
import OpenEstate.Runtime.Text
import OpenEstate.Shared.FinancialYear

namespace OpenEstate.Inventory

open Relational

/-! ### Requests -/

def Fits (most : Nat) (text : String) : Prop := text ≠ "" ∧ Runtime.length text ≤ most

instance (most : Nat) (text : String) : Decidable (Fits most text) :=
  inferInstanceAs (Decidable (text ≠ "" ∧ Runtime.length text ≤ most))

structure FloorAreas where
  carpetAreaSqft : Option ℚ := none
  builtUpAreaSqft : Option ℚ := none
  superBuiltUpSqft : Option ℚ := none

structure CreateInventoryGroupDto where
  code : String
  code_fits : Fits 50 code

structure CreateMasterDto where
  name : String
  name_fits : Fits 255 name

structure CreateTowerDto where
  name : String
  code : String
  name_fits : Fits 255 name
  code_fits : Fits 50 code

structure CreateUnitDto where
  number : String
  unitTypeId : Option Nat := none
  areas : FloorAreas := {}
  baseRatePaise : Nat := 0
  number_fits : Fits 50 number

structure LandUnitData where
  number : String
  inventoryGroupId : Option Nat := none
  unitTypeId : Option Nat := none
  landAreaEntered : ℚ
  landAreaEnteredUnit : AreaUnit
  rateUnit : AreaUnit
  baseRatePaise : Nat := 0
  builtUpAreaSqft : Option ℚ := none
  builtUpRatePaise : Option Nat := none
  landRecordRef : Option String := none
  facing : Option String := none
  lengthFeet : Option ℚ := none
  breadthFeet : Option ℚ := none

structure CreateLandBasedUnitDto extends LandUnitData where
  number_fits : Fits 50 number

structure BulkGenerateUnitsDto where
  towerId : Nat
  floorStart : Int
  floorEnd : Int
  unitsPerFloor : Nat
  unitPrefix : String := ""
  unitTypeId : Option Nat := none
  areas : FloorAreas := {}
  baseRatePaise : Nat := 0
  floorStart_min : -10 ≤ floorStart
  floorEnd_min : floorStart ≤ floorEnd
  units_min : 1 ≤ unitsPerFloor
  units_max : unitsPerFloor ≤ 100
  prefix_max : Runtime.length unitPrefix ≤ 10

/-! ### Units on floors and on land -/

def floorUnit (companyId projectId floorId : Nat) (number : String) (unitTypeId : Option Nat)
    (areas : FloorAreas) (baseRatePaise : Nat) : InventoryUnit where
  companyId
  projectId
  shape := .highRise
  floorId := some floorId
  unitTypeId
  number
  carpetAreaSqft := areas.carpetAreaSqft.map Decimal.ofNumber
  builtUpAreaSqft := areas.builtUpAreaSqft.map Decimal.ofNumber
  superBuiltUpSqft := areas.superBuiltUpSqft.map Decimal.ofNumber
  baseRatePaise

def landUnit (companyId projectId : Nat) (dto : LandUnitData) : InventoryUnit where
  companyId
  projectId
  shape := .landBased
  floorId := none
  inventoryGroupId := dto.inventoryGroupId
  unitTypeId := dto.unitTypeId
  number := dto.number
  builtUpAreaSqft := dto.builtUpAreaSqft.map Decimal.ofNumber
  landAreaEntered := some (Decimal.ofNumber dto.landAreaEntered)
  landAreaEnteredUnit := some dto.landAreaEnteredUnit
  landAreaSqft :=
    some (convertToSqft (Decimal.ofNumber dto.landAreaEntered) dto.landAreaEnteredUnit)
  landRecordRef := dto.landRecordRef
  facing := dto.facing
  lengthFeet := dto.lengthFeet.map Decimal.ofNumber
  breadthFeet := dto.breadthFeet.map Decimal.ofNumber
  baseRatePaise := dto.baseRatePaise
  rateUnit := dto.rateUnit
  builtUpRatePaise := dto.builtUpRatePaise

def inputDupes (seen : List String) : List String → List String
  | [] => []
  | number :: rest =>
    if number ∈ seen then number :: inputDupes (number :: seen) rest
    else inputDupes (number :: seen) rest

def existingIn (db : InventoryDb) (companyId towerId : Nat) (unitNumbers : List String) :
    List String :=
  (db.units.select fun _ unit => unit.companyId = companyId ∧ db.towerOf unit = some towerId ∧
    unit.number ∈ unitNumbers).map fun row => row.2.number

def ProjectService.create (companyId : Nat) (shape : InventoryShape) (db : InventoryDb) :
    InventoryDb :=
  { db with projects := db.projects.create { companyId, shape } }

def MasterService.create (companyId : Nat) (dto : CreateMasterDto) (db : InventoryDb) :
    Except ServiceError InventoryDb := do
  ensure (db.unitTypes.any (fun _ row => row.companyId == companyId && row.name == dto.name) =
    false) (.badRequest "Unit Types with this name already exists")
  return { db with unitTypes := db.unitTypes.create { companyId, name := dto.name } }

def InventoryGroupService.create (companyId projectId : Nat) (dto : CreateInventoryGroupDto)
    (db : InventoryDb) : Except ServiceError InventoryDb := do
  let project ← orThrow (db.project? companyId projectId) (.notFound "Project not found")
  ensure (project.shape = .landBased) (.badRequest ("This project is HIGH_RISE. Inventory groups " ++
    "(Sector/Block/Cluster) are for LAND_BASED projects — use towers/floors instead."))
  -- the constraint on the codes of a project's groups
  ensure (db.groups.any (fun _ group => group.projectId == projectId && group.code == dto.code) =
    false) (.error "Unique constraint failed on the fields: (projectId, code)")
  return { db with groups := db.groups.create { companyId, projectId, code := dto.code } }

namespace TowerService

def create (companyId projectId : Nat) (dto : CreateTowerDto) (db : InventoryDb) :
    Except ServiceError InventoryDb := do
  let project ← orThrow (db.project? companyId projectId) (.notFound "Project not found")
  ensure (project.shape = .highRise) (.badRequest ("This project is LAND_BASED. Towers/floors are " ++
    "for HIGH_RISE projects. Use POST /projects/:id/inventory-groups instead."))
  -- the constraint on the codes of a project's towers
  ensure (db.towers.any (fun _ tower => tower.projectId == projectId && tower.code == dto.code) =
    false) (.error "Unique constraint failed on the fields: (projectId, code)")
  return db.insertTower { companyId, projectId, name := dto.name, code := dto.code }

end TowerService

namespace UnitService

def validateTowerScopedUniqueness (companyId towerId : Nat) (unitNumbers : List String)
    (db : InventoryDb) : Except ServiceError Unit := do
  ensure (existingIn db companyId towerId unitNumbers = [])
    (.badRequest ("Unit numbers already exist in this tower: " ++
      String.intercalate ", " (existingIn db companyId towerId unitNumbers)))
  ensure (inputDupes [] unitNumbers = [])
    (.badRequest ("Duplicate unit numbers in request: " ++
      String.intercalate ", " (inputDupes [] unitNumbers)))

def create (companyId floorId : Nat) (dto : CreateUnitDto) (db : InventoryDb) :
    Except ServiceError InventoryDb := do
  let floor ← orThrow ((db.floors.find? floorId).filter (·.companyId = companyId))
    (.notFound "Floor not found")
  let tower ← orThrow (db.towers.find? floor.towerId) (.error "No record was found for a query.")
  let project ← orThrow (db.projects.find? tower.projectId)
    (.error "No record was found for a query.")
  ensure (project.shape = .highRise) (.badRequest
    "This project is LAND_BASED. Use POST /projects/:id/units/land-based instead.")
  validateTowerScopedUniqueness companyId floor.towerId [dto.number] db
  return db.insertUnit (floorUnit companyId tower.projectId floorId dto.number dto.unitTypeId
    dto.areas dto.baseRatePaise)

def createLandBased (companyId projectId : Nat) (dto : CreateLandBasedUnitDto) (db : InventoryDb) :
    Except ServiceError InventoryDb := do
  let project ← orThrow (db.project? companyId projectId) (.notFound "Project not found")
  ensure (project.shape = .landBased) (.badRequest
    "This project is HIGH_RISE. Use POST /projects/:id/units/floors/:floorId instead.")
  ensure (∀ groupId ∈ dto.inventoryGroupId, (db.groups.find? groupId).any (fun group =>
      group.companyId == companyId && group.projectId == projectId) = true)
    (.notFound "Inventory group not found in this project")
  ensure (db.units.any (fun _ unit => unit.companyId == companyId && unit.projectId == projectId &&
      unit.number == dto.number) = false)
    (.badRequest s!"Unit number already exists in this project: {dto.number}")
  return db.insertUnit (landUnit companyId projectId dto.toLandUnitData)

/-! ### Generated units -/

def generatedNumber (unitPrefix : String) (floor : Int) (unit : Nat) : String :=
  unitPrefix ++ padStart (toString floor) 2 '0' ++ padStart (toString unit) 2 '0'

def floorRange (floorStart floorEnd : Int) : List Int :=
  (List.range (floorEnd - floorStart + 1).toNat).map fun offset : Nat => floorStart + offset

def floorNumbers (dto : BulkGenerateUnitsDto) (floor : Int) : List String :=
  (List.range' 1 dto.unitsPerFloor).map (generatedNumber dto.unitPrefix floor)

def unitNumbers (dto : BulkGenerateUnitsDto) : List String :=
  (floorRange dto.floorStart dto.floorEnd).flatMap (floorNumbers dto)

def generateFloor (companyId projectId : Nat) (dto : BulkGenerateUnitsDto) (db : InventoryDb)
    (floor : Int) : InventoryDb :=
  let upserted := db.upsertFloor
    { companyId, towerId := dto.towerId, name := s!"Floor {floor}", floorNumber := floor }
  (floorNumbers dto floor).foldl (fun db number => db.insertUnit
    (floorUnit companyId projectId upserted.1 number dto.unitTypeId dto.areas dto.baseRatePaise))
    upserted.2

structure Generated where
  createdCount : Nat
  towerCode : String

def bulkGenerate (companyId projectId : Nat) (dto : BulkGenerateUnitsDto) (db : InventoryDb) :
    Except ServiceError (Generated × InventoryDb) := do
  let tower ← orThrow ((db.towers.find? dto.towerId).filter fun tower =>
    tower.companyId = companyId ∧ tower.projectId = projectId)
    (.notFound "Tower not found in project")
  validateTowerScopedUniqueness companyId dto.towerId (unitNumbers dto) db
  -- the column of a floor's number has 32 bits
  ensure (dto.floorEnd < 2 ^ 31) (.error "Unable to fit integer value into an INT4")
  return (⟨(unitNumbers dto).length, tower.code⟩,
    (floorRange dto.floorStart dto.floorEnd).foldl
      (generateFloor companyId tower.projectId dto) db)

end UnitService

/-! ### Generated numbers -/

section Numbers

theorem padStart_length_of_lt {unit : Nat} (small : unit < 100) :
    (padStart (toString unit) 2 '0').toList.length = 2 := by
  have all : ∀ unit < 100, (padStart (toString unit) 2 '0').toList.length = 2 := by decide
  exact all unit small

theorem padded_injective {first other : List Char} {unit second : Nat} (low : 1 ≤ unit)
    (high : unit ≤ 100) (lowToo : 1 ≤ second) (highToo : second ≤ 100)
    (same : first ++ (padStart (toString unit) 2 '0').toList =
      other ++ (padStart (toString second) 2 '0').toList) : first = other ∧ unit = second := by
  have hundred : (padStart (toString 100) 2 '0').toList = ['1'] ++ ['0', '0'] := by decide
  have zeros : ∀ {number : Nat}, 1 ≤ number → number < 100 →
      (padStart (toString number) 2 '0').toList ≠ ['0', '0'] := by
    intro number positive _ is
    have zero : (padStart (toString 0) 2 '0').toList = ['0', '0'] := by decide
    have none_ := padStart_injective (String.toList_injective (is.trans zero.symm))
    omega
  rcases Nat.lt_or_eq_of_le high with small | rfl
  · have two := padStart_length_of_lt small
    rcases Nat.lt_or_eq_of_le highToo with smallToo | rfl
    · obtain ⟨rfl, digits⟩ :=
        List.append_inj' same (two.trans (padStart_length_of_lt smallToo).symm)
      exact ⟨rfl, padStart_injective (String.toList_injective digits)⟩
    · rw [hundred, ← List.append_assoc] at same
      exact absurd (List.append_inj' same two).2 (zeros low small)
  · rcases Nat.lt_or_eq_of_le highToo with smallToo | rfl
    · rw [hundred, ← List.append_assoc] at same
      exact absurd (List.append_inj' same (padStart_length_of_lt smallToo).symm).2.symm
        (zeros lowToo smallToo)
    · exact ⟨List.append_cancel_right same, rfl⟩

theorem toString_negSucc (magnitude : Nat) : (toString (Int.negSucc magnitude)).toList =
    '-' :: (toString (magnitude + 1)).toList := by
  show ("-" ++ (magnitude + 1).repr).toList = _
  rw [String.toList_append]
  rfl

theorem padStart_negSucc (magnitude : Nat) :
    (padStart (toString (Int.negSucc magnitude)) 2 '0').toList =
      '-' :: (toString (magnitude + 1)).toList := by
  have some_ : 0 < (toString (magnitude + 1)).toList.length := by
    show 0 < (magnitude + 1).repr.toList.length
    rw [Nat.toList_repr]
    exact List.length_pos_iff.mpr Nat.toDigits_ne_nil
  have long : 2 - ('-' :: (toString (magnitude + 1)).toList).length = 0 := by
    rw [List.length_cons]
    omega
  rw [padStart, String.toList_ofList, List.leftpad, toString_negSucc, long]
  rfl

theorem minus_not_mem_padStart (number : Nat) :
    '-' ∉ (padStart (toString number) 2 '0').toList := by
  rw [padStart, String.toList_ofList, List.leftpad, List.mem_append]
  rintro (zero | digit)
  · exact absurd (List.eq_of_mem_replicate zero) (by decide)
  · have digit : '-' ∈ number.repr.toList := digit
    rw [Nat.toList_repr] at digit
    exact absurd (Nat.isDigit_of_mem_toDigits (by decide) (by decide) digit) (by decide)

theorem padStart_int_injective {floor other : Int}
    (same : (padStart (toString floor) 2 '0').toList = (padStart (toString other) 2 '0').toList) :
    floor = other := by
  have apart : ∀ number magnitude : Nat, (padStart (toString number) 2 '0').toList ≠
      (padStart (toString (Int.negSucc magnitude)) 2 '0').toList := by
    intro number magnitude is
    apply minus_not_mem_padStart number
    rw [is, padStart_negSucc]
    exact List.mem_cons_self
  cases floor with
  | ofNat number =>
    cases other with
    | ofNat second => exact congrArg Int.ofNat (padStart_injective (String.toList_injective same))
    | negSucc magnitude => exact absurd same (apart number magnitude)
  | negSucc magnitude =>
    cases other with
    | ofNat second => exact absurd same.symm (apart second magnitude)
    | negSucc second =>
      rw [padStart_negSucc, padStart_negSucc] at same
      have digits : (magnitude + 1).repr = (second + 1).repr :=
        String.toList_injective (List.cons.inj same).2
      have chars := congrArg String.toList digits
      rw [Nat.toList_repr, Nat.toList_repr] at chars
      have value := congrArg (Nat.ofDigitChars 10 · 0) chars
      simp only [Nat.ofDigitChars_ten_toDigits, Nat.add_right_cancel_iff] at value
      rw [value]

namespace UnitService

/-- **A generated number** determines its floor and its unit. -/
theorem generatedNumber_injective {unitPrefix : String} {floor other : Int} {unit second : Nat}
    (low : 1 ≤ unit) (high : unit ≤ 100) (lowToo : 1 ≤ second) (highToo : second ≤ 100)
    (same : generatedNumber unitPrefix floor unit = generatedNumber unitPrefix other second) :
    floor = other ∧ unit = second := by
  have chars := congrArg String.toList same
  simp only [generatedNumber, String.toList_append] at chars
  obtain ⟨floors, rfl⟩ := padded_injective low high lowToo highToo chars
  exact ⟨padStart_int_injective (List.append_cancel_left floors), rfl⟩

/-- **Generated numbers are pairwise distinct.** -/
theorem unitNumbers_nodup (dto : BulkGenerateUnitsDto) : (unitNumbers dto).Nodup := by
  have bounds : ∀ unit ∈ List.range' 1 dto.unitsPerFloor, 1 ≤ unit ∧ unit ≤ 100 := by
    intro unit member
    have range := List.mem_range'_1.mp member
    have most := dto.units_max
    omega
  have floors : (floorRange dto.floorStart dto.floorEnd).Nodup := by
    refine List.Nodup.map (fun first second same => ?_) List.nodup_range
    simpa using same
  refine List.nodup_flatMap.mpr ⟨fun floor _ => ?_, floors.imp fun {floor other} differs => ?_⟩
  · refine List.Nodup.map_on (fun first member second also same => ?_) List.nodup_range'
    obtain ⟨low, high⟩ := bounds first member
    obtain ⟨lowToo, highToo⟩ := bounds second also
    exact (generatedNumber_injective low high lowToo highToo same).2
  · intro number member also
    obtain ⟨unit, inRange, rfl⟩ := List.mem_map.mp member
    obtain ⟨second, alsoInRange, same⟩ := List.mem_map.mp also
    obtain ⟨low, high⟩ := bounds unit inRange
    obtain ⟨lowToo, highToo⟩ := bounds second alsoInRange
    exact differs (generatedNumber_injective lowToo highToo low high same).1.symm

end UnitService

theorem inputDupes_eq_nil {seen numbers : List String} :
    inputDupes seen numbers = [] ↔ numbers.Nodup ∧ ∀ number ∈ numbers, number ∉ seen := by
  induction numbers generalizing seen with
  | nil => simp [inputDupes]
  | cons number rest ih =>
    unfold inputDupes
    by_cases again : number ∈ seen
    · rw [if_pos again]
      constructor
      · nofun
      · rintro ⟨_, fresh⟩
        exact absurd again (fresh number List.mem_cons_self)
    · rw [if_neg again, ih, List.nodup_cons, List.forall_mem_cons]
      constructor
      · rintro ⟨distinct, fresh⟩
        refine ⟨⟨fun member => fresh number member List.mem_cons_self, distinct⟩, again, ?_⟩
        exact fun other member seen_ => fresh other member (List.mem_cons_of_mem _ seen_)
      · rintro ⟨⟨new, distinct⟩, _, fresh⟩
        refine ⟨distinct, fun other member seen_ => ?_⟩
        rcases List.mem_cons.mp seen_ with rfl | earlier
        · exact new member
        · exact fresh other member earlier

end Numbers

end OpenEstate.Inventory
