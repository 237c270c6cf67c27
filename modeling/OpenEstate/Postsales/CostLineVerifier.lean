/-
**The check of a base price.**

A booking on land brings its own cost lines, and each `BASE` line among them is held against the
price of the unit. Lines of other kinds pass, and so does any number of `BASE` lines.

* `verifyForCreate` refuses a `BASE` line that is more than a paisa off;
* `base_lines_verified`: it accepts exactly the lists whose `BASE` lines are each within a paisa, so
  that they add up to within a paisa a line of as many prices as there are `BASE` lines;
* `base_price_twice`: two of them are accepted, and so is none.
-/

import OpenEstate.Inventory.LandPrice

namespace OpenEstate

open Relational
open Inventory (AreaUnit Decimal InventoryDb InventoryOp InventoryUnit Measured
  computeBaseAmountPaise computeBaseAmountPaise_near exactPrice)

namespace BookingCostLineVerifier

def allowedSlackPaise : Int := 1

def verifyLine (expected : Int) (line : BookingCostLineInput) : Except ServiceError Unit :=
  if line.kind ≠ .base then .ok ()
  else
    let diff := if expected > line.baseAmountPaise then expected - line.baseAmountPaise
      else line.baseAmountPaise - expected
    ensure (diff ≤ allowedSlackPaise) (.badRequest (s!"Cost line \"{line.label}\": submitted " ++
      s!"amount {line.baseAmountPaise} paise does not match the unit's rate x area " ++
      s!"(expected {expected} paise)."))

def verifyForCreate (companyId unitId : Nat) (costLines : List BookingCostLineInput)
    (db : InventoryDb) : Except ServiceError Unit :=
  match (db.units.find? unitId).filter (·.companyId = companyId) with
  | none => .ok ()
  | some unit =>
    if unit.shape ≠ .landBased then .ok ()
    else match unit.landAreaEntered, unit.landAreaEnteredUnit with
      | some landAreaEntered, some landAreaEnteredUnit =>
        forEach costLines (verifyLine (computeBaseAmountPaise unit.baseRatePaise unit.rateUnit
          landAreaEntered landAreaEnteredUnit))
      | _, _ => .ok ()

theorem verifyLine_eq_ok {expected : Int} {line : BookingCostLineInput} {done : Unit} :
    verifyLine expected line = .ok done ↔
      (line.kind = .base → |line.baseAmountPaise - expected| ≤ 1) := by
  unfold verifyLine
  split
  · rename_i other
    exact ⟨fun _ base => absurd base other, fun _ => rfl⟩
  · rename_i base
    rw [ensure_eq_ok, allowedSlackPaise]
    constructor
    · intro near _
      rw [abs_le]
      split at near <;> omega
    · intro near
      have near := abs_le.mp (near (not_not.mp base))
      split <;> omega

end BookingCostLineVerifier

open BookingCostLineVerifier

/-! ### Sums -/

def baseLines (costLines : List BookingCostLineInput) : List BookingCostLineInput :=
  costLines.filter (·.kind = .base)

def basePaise (costLines : List BookingCostLineInput) : Int :=
  ((baseLines costLines).map (·.baseAmountPaise)).sum

theorem sum_near {expected slack : Int} {amounts : List Int}
    (near : ∀ amount ∈ amounts, |amount - expected| ≤ slack) :
    |amounts.sum - amounts.length * expected| ≤ amounts.length * slack := by
  induction amounts with
  | nil => simp
  | cons amount rest ih =>
    obtain ⟨first, later⟩ := List.forall_mem_cons.mp near
    have rest_ := ih later
    rw [abs_le] at first rest_ ⊢
    rw [List.sum_cons, List.length_cons]
    push_cast
    constructor <;> linarith

/-- **What the check promises** of the lines of a booking: each `BASE` line is within a paisa of the
price, and the sum of the `BASE` lines within a paisa a line of so many prices. -/
structure BaseLinesNear (unit : InventoryUnit) (landAreaEntered : Decimal 6)
    (landAreaEnteredUnit : AreaUnit) (costLines : List BookingCostLineInput) : Prop where
  each : ∀ line ∈ baseLines costLines, |line.baseAmountPaise - computeBaseAmountPaise
    unit.baseRatePaise unit.rateUnit landAreaEntered landAreaEnteredUnit| ≤ 1
  sum : |basePaise costLines - (baseLines costLines).length * computeBaseAmountPaise
    unit.baseRatePaise unit.rateUnit landAreaEntered landAreaEnteredUnit| ≤
      (baseLines costLines).length
  exact_ : |(basePaise costLines : ℚ) - (baseLines costLines).length * exactPrice
    unit.baseRatePaise unit.rateUnit landAreaEntered landAreaEnteredUnit| ≤
      (baseLines costLines).length * (3 / 2)

section Near

variable {unit : InventoryUnit} {landAreaEntered : Decimal 6} {landAreaEnteredUnit : AreaUnit}
  {costLines : List BookingCostLineInput}

theorem baseLinesNear_iff : BaseLinesNear unit landAreaEntered landAreaEnteredUnit costLines ↔
    ∀ line ∈ costLines, line.kind = .base → |line.baseAmountPaise - computeBaseAmountPaise
      unit.baseRatePaise unit.rateUnit landAreaEntered landAreaEnteredUnit| ≤ 1 := by
  constructor
  · intro near line member base
    exact near.each line (List.mem_filter.mpr ⟨member, decide_eq_true base⟩)
  · intro near
    have each : ∀ line ∈ baseLines costLines, |line.baseAmountPaise - computeBaseAmountPaise
        unit.baseRatePaise unit.rateUnit landAreaEntered landAreaEnteredUnit| ≤ 1 := by
      intro line member
      obtain ⟨inside, base⟩ := List.mem_filter.mp member
      exact near line inside (of_decide_eq_true base)
    have sum := sum_near (List.forall_mem_map.mpr each)
    rw [List.length_map, mul_one] at sum
    refine ⟨each, sum, ?_⟩
    -- a paisa a line, and half a paisa a line for the rounding of the price
    have rounded := computeBaseAmountPaise_near unit.baseRatePaise unit.rateUnit landAreaEntered
      landAreaEnteredUnit
    have count : (0 : ℚ) ≤ (baseLines costLines).length := Nat.cast_nonneg _
    have scaled := mul_le_mul_of_nonneg_left rounded count
    have sum : |(basePaise costLines : ℚ) - (baseLines costLines).length * computeBaseAmountPaise
        unit.baseRatePaise unit.rateUnit landAreaEntered landAreaEnteredUnit| ≤
          (baseLines costLines).length := by
      exact_mod_cast sum
    rw [← abs_of_nonneg count, ← abs_mul, abs_of_nonneg count, mul_sub] at scaled
    rw [abs_le] at sum scaled ⊢
    constructor <;> linarith

end Near

/-- **The check holds every `BASE` line against the price.** For a unit on land, which has its area,
it accepts exactly the lists whose `BASE` lines are each within a paisa of the rate times the area,
and then their sum is within a paisa a line of so many prices. How many there are is not checked. -/
theorem base_lines_verified {db : InventoryDb} (measured : Measured db) {companyId unitId : Nat}
    {unit : InventoryUnit} (found : db.units.find? unitId = some unit)
    (company : unit.companyId = companyId) (shape : unit.shape = .landBased)
    (costLines : List BookingCostLineInput) :
    ∃ landAreaEntered landAreaEnteredUnit, unit.landAreaEntered = some landAreaEntered ∧
      unit.landAreaEnteredUnit = some landAreaEnteredUnit ∧
      (verifyForCreate companyId unitId costLines db = .ok () ↔
        BaseLinesNear unit landAreaEntered landAreaEnteredUnit costLines) := by
  obtain ⟨landAreaEntered, landAreaEnteredUnit, area, areaUnit⟩ := measured unitId unit found shape
  refine ⟨landAreaEntered, landAreaEnteredUnit, area, areaUnit, ?_⟩
  have read : (db.units.find? unitId).filter (·.companyId = companyId) = some unit :=
    Option.filter_eq_some_iff.mpr ⟨found, decide_eq_true company⟩
  rw [baseLinesNear_iff, verifyForCreate]
  simp only [read, shape, area, areaUnit, ne_eq, not_true_eq_false, if_false]
  rw [forEach_eq_ok]
  simp only [verifyLine_eq_ok]

/-! ### Half an acre -/

def halfAcre : List InventoryOp :=
  [.createProject 1 .landBased, .createLandBased 1 0
    { number := "Plot 12", landAreaEntered := 1 / 2, landAreaEnteredUnit := .acre
      rateUnit := .acre, baseRatePaise := 5000000, number_fits := by decide }]

def landLine (kind : CostLineKind) (paise : Nat) : BookingCostLineInput where
  kind
  label := "Land"
  baseAmountPaise := paise
  base_nonneg := Int.natCast_nonneg paise

theorem base_lines_verified_halfAcre :
    ∃ unit, (run InventoryOp.exec {} halfAcre).units.find? 0 = some unit ∧
      ∃ landAreaEntered landAreaEnteredUnit, unit.landAreaEntered = some landAreaEntered ∧
        unit.landAreaEnteredUnit = some landAreaEnteredUnit ∧
        (verifyForCreate 1 0 [landLine .base 2500001, landLine .club 90000]
            (run InventoryOp.exec {} halfAcre) = .ok () ↔
          BaseLinesNear unit landAreaEntered landAreaEnteredUnit
            [landLine .base 2500001, landLine .club 90000]) :=
  ⟨_, rfl, base_lines_verified
    (Inventory.measured_states halfAcre _ (run_mem_states _ halfAcre)) rfl rfl rfl _⟩

/-- The plot costs 2500000 paise. It is booked with two lines of its full price, and with none. -/
theorem base_price_twice :
    computeBaseAmountPaise 5000000 .acre (Decimal.ofNumber (1 / 2)) .acre = 2500000 ∧
    verifyForCreate 1 0 [landLine .base 2500000, landLine .base 2500000]
      (run InventoryOp.exec {} halfAcre) = .ok () ∧
    ¬|basePaise [landLine .base 2500000, landLine .base 2500000] - 2500000| ≤ 1 ∧
    verifyForCreate 1 0 [landLine .club 90000] (run InventoryOp.exec {} halfAcre) = .ok () ∧
    ¬|basePaise [landLine .club 90000] - 2500000| ≤ 1 := by
  refine ⟨?_, ?_, ?_, ?_, ?_⟩ <;> decide +kernel

end OpenEstate
