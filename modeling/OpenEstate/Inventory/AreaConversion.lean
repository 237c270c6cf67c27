/-
**Area conversions.**

An area is a decimal of six places, held as an integer. Texts are brought into it and back by their
digits, units of measure by one multiplication and one rounded division.

* `divRoundHalfUp_eq`: the division rounds half away from zero, and
  **`roundedDiv_rounds`**: so does that of amounts;
* `carryOne_value`: the loop over the digits adds one to the number they write;
* `toAreaScaled_text`: a plain decimal is brought to the nearest area;
* `area_conversions`: the round trips, and the price where both units of measure are one.
-/

import Mathlib.Data.List.DropRight
import OpenEstate.Inventory.LandPrice
import OpenEstate.Runtime.Digits

namespace OpenEstate.Area

open Inventory Runtime

def areaScale : ℤ := 1000000

def sqftScale : ℤ := 10000000000

/-! ### From texts and back -/

/-- What an area is brought from. Of a number it is the text that is read. -/
inductive AreaValue
  | bigint (scaled : ℤ)
  | text (text : String)

/-- What `BigInt` reads from a text, which it refuses if it is no integer. -/
def bigInt (chars : List Char) : Except ServiceError ℤ :=
  match bigIntOf chars with
  | some value => .ok value
  | none => .error (.error ("Cannot convert " ++ String.ofList chars ++ " to a BigInt"))

def charNumber (char : Char) : Option Nat :=
  if char.isDigit then some (char.toNat - 48) else if isSpace char then some 0 else none

/-- The loop that adds one to the last of the digits, which come in reverse, and carries on. A
character that is no number ends it, and leaves a text that is no integer. -/
def carryOne : List Char → List (List Char) × Bool
  | [] => ([], true)
  | char :: rest =>
    match charNumber char with
    | none => ("NaN".toList :: rest.map fun char => [char], false)
    | some digit =>
      if (digit + 1) / 10 = 0 then
        ((toString ((digit + 1) % 10)).toList :: rest.map fun char => [char], false)
      else
        ((toString ((digit + 1) % 10)).toList :: (carryOne rest).1, (carryOne rest).2)

def toAreaScaled : AreaValue → Except ServiceError ℤ
  | .bigint scaled => .ok scaled
  | .text text => do
    let chars := trimmed text.toList
    -- of what is between the points the first two texts are read
    let whole := chars.takeWhile (· ≠ '.')
    let frac := (chars.dropWhile (· ≠ '.')).tail.takeWhile (· ≠ '.')
    let sign : ℤ := if whole.head? = some '-' then -1 else 1
    let unsigned := if whole.head? = some '-' then whole.tail else whole
    let wholeAbs := if unsigned = [] then ['0'] else unsigned
    let fracDigits := (frac.take 6).rightpad 6 '0'
    if (frac[6]?.bind charNumber).any (5 ≤ ·) then
      if (carryOne fracDigits.reverse).2 then
        return sign * ((← bigInt wholeAbs) + 1) * areaScale
      else
        return sign * ((← bigInt wholeAbs) * areaScale +
          (← bigInt (carryOne fracDigits.reverse).1.reverse.flatten))
    else
      return sign * ((← bigInt wholeAbs) * areaScale + (← bigInt fracDigits))

def fromAreaScaled (scaled : ℤ) : String :=
  let abs := if scaled < 0 then -scaled else scaled
  let whole := toString (abs.tdiv areaScale)
  let fracStr := (padStart (toString (abs.tmod areaScale)) 6 '0').toList.rdropWhile (· = '0')
  let body := if fracStr = [] then whole else whole ++ "." ++ String.ofList fracStr
  if scaled < 0 then "-" ++ body else body

/-! ### Between units of measure -/

def divRoundHalfUp (num den : ℤ) : Except ServiceError ℤ :=
  if den = 0 then .error (.error "divRoundHalfUp: division by zero")
  else
    let absNum := if num < 0 then -num else num
    let absDen := if den < 0 then -den else den
    let quotient := absNum.tdiv absDen
    let remainder := absNum.tmod absDen
    let rounded := if remainder * 2 ≥ absDen then quotient + 1 else quotient
    .ok (if decide (num < 0) ≠ decide (den < 0) then -rounded else rounded)

def convertToSqftScaled (enteredScaled : ℤ) (enteredUnit : AreaUnit) : Except ServiceError ℤ :=
  divRoundHalfUp (enteredScaled * enteredUnit.sqftPerUnitScaled) sqftScale

def convertFromSqftScaled (sqftScaled : ℤ) (targetUnit : AreaUnit) : Except ServiceError ℤ :=
  divRoundHalfUp (sqftScaled * sqftScale) targetUnit.sqftPerUnitScaled

def computeBaseAmountPaise (ratePaise : ℤ) (rateUnit : AreaUnit) (landAreaEnteredScaled : ℤ)
    (landAreaEnteredUnit : AreaUnit) : Except ServiceError ℤ :=
  divRoundHalfUp (ratePaise * landAreaEnteredScaled * landAreaEnteredUnit.sqftPerUnitScaled)
    (areaScale * rateUnit.sqftPerUnitScaled)

/-! ### The division -/

theorem divRoundHalfUp_eq (num : ℤ) {den : ℤ} (nonzero : den ≠ 0) :
    divRoundHalfUp num den = .ok (roundHalfAway (num / den)) := by
  have magnitude : ∀ value : ℤ, (if value < 0 then -value else value) = (value.natAbs : ℤ) := by
    intro value
    split <;> omega
  have rounds : ∀ num : ℕ, ∀ {den : ℕ}, 0 < den → roundHalfAway ((num : ℚ) / den) =
      if (num : ℤ).tmod den * 2 ≥ den then (num : ℤ).tdiv den + 1 else (num : ℤ).tdiv den := by
    intro num den positive
    rw [roundHalfAway_div num positive, ← Int.ofNat_tdiv, ← Int.ofNat_tmod]
    by_cases half : den ≤ num % den * 2
    · rw [if_pos half, if_pos (by exact_mod_cast half)]
      exact Nat.cast_succ _
    · rw [if_neg half, if_neg (by exact_mod_cast half)]
  have quotient := rounds num.natAbs (Int.natAbs_pos.mpr nonzero)
  have absolute : ∀ value : ℤ, (value.natAbs : ℚ) = |(value : ℚ)| := by
    intro value
    rw [Nat.cast_natAbs, Int.cast_abs]
  rw [absolute, absolute] at quotient
  unfold divRoundHalfUp
  rw [if_neg nonzero, magnitude, magnitude]
  dsimp only
  rw [← quotient]
  refine congrArg Except.ok ?_
  rcases lt_or_ge num 0 with numNeg | numPos <;> rcases lt_or_gt_of_ne nonzero with denNeg | denPos
  · have numNeg' : (num : ℚ) < 0 := by exact_mod_cast numNeg
    have denNeg' : (den : ℚ) < 0 := by exact_mod_cast denNeg
    rw [abs_of_neg numNeg', abs_of_neg denNeg', neg_div_neg_eq]
    simp [numNeg, denNeg]
  · have numNeg' : (num : ℚ) < 0 := by exact_mod_cast numNeg
    have denPos' : (0 : ℚ) < den := by exact_mod_cast denPos
    rw [abs_of_neg numNeg', abs_of_pos denPos', neg_div, roundHalfAway_neg, neg_neg]
    simp [numNeg, denPos.le]
  · have numPos' : (0 : ℚ) ≤ num := by exact_mod_cast numPos
    have denNeg' : (den : ℚ) < 0 := by exact_mod_cast denNeg
    rw [abs_of_nonneg numPos', abs_of_neg denNeg', div_neg, roundHalfAway_neg, neg_neg]
    simp [numPos, denNeg]
  · have numPos' : (0 : ℚ) ≤ num := by exact_mod_cast numPos
    have denPos' : (0 : ℚ) < den := by exact_mod_cast denPos
    rw [abs_of_nonneg numPos', abs_of_pos denPos']
    simp [numPos.not_gt, denPos.not_gt]

theorem roundedDivPositive_of_nonneg {numerator denominator : ℤ} (nonneg : 0 ≤ numerator)
    (positive : 0 < denominator) :
    roundedDivPositive numerator denominator = roundHalfAway (numerator / denominator) := by
  obtain ⟨numerator, rfl⟩ := Int.eq_ofNat_of_zero_le nonneg
  obtain ⟨denominator, rfl⟩ := Int.eq_ofNat_of_zero_le positive.le
  have positive : 0 < denominator := by exact_mod_cast positive
  have below := Nat.mod_lt numerator positive
  have halves : (numerator + denominator / 2) / denominator =
      numerator / denominator + (numerator % denominator + denominator / 2) / denominator := by
    rw [← Nat.mul_add_div positive, ← Nat.add_assoc, Nat.div_add_mod]
  have rounded := roundHalfAway_div numerator positive
  rw [roundedDivPositive, if_pos nonneg, Int.cast_natCast, Int.cast_natCast, rounded]
  show (((numerator + denominator / 2) / denominator : ℕ) : ℤ) = _
  rw [halves]
  split
  · have one : (numerator % denominator + denominator / 2) / denominator = 1 :=
      Nat.div_eq_of_lt_le (by omega) (by omega)
    rw [one]
  · have nothing : (numerator % denominator + denominator / 2) / denominator = 0 :=
      Nat.div_eq_of_lt (by omega)
    rw [nothing, Nat.add_zero]

theorem roundedDivPositive_eq (numerator : ℤ) {denominator : ℤ} (positive : 0 < denominator) :
    roundedDivPositive numerator denominator = roundHalfAway (numerator / denominator) := by
  rcases le_or_gt 0 numerator with nonneg | negative
  · exact roundedDivPositive_of_nonneg nonneg positive
  · have mirrored := roundedDivPositive_of_nonneg (neg_nonneg.mpr negative.le) positive
    rw [Int.cast_neg, neg_div, roundHalfAway_neg, roundedDivPositive, if_pos (by omega)] at mirrored
    rw [roundedDivPositive, if_neg (by omega), mirrored, neg_neg]

theorem roundedDiv_eq (numerator : ℤ) {denominator : ℤ} (nonzero : denominator ≠ 0) :
    roundedDiv numerator denominator = roundHalfAway (numerator / denominator) := by
  rw [roundedDiv]
  split
  · rw [roundedDivPositive_eq _ (by omega), Int.cast_neg, Int.cast_neg, neg_div_neg_eq]
  · exact roundedDivPositive_eq _ (by omega)

/-- **Amounts and areas round alike**: to the nearest integer, of two to the one that is further
from zero. -/
theorem roundedDiv_rounds (numerator : ℤ) {denominator : ℤ} (nonzero : denominator ≠ 0) :
    (∀ whole : ℤ, |(roundedDiv numerator denominator : ℚ) - numerator / denominator| ≤
      |(whole : ℚ) - numerator / denominator|) ∧
      (∀ whole ≠ roundedDiv numerator denominator, |(whole : ℚ) - numerator / denominator| =
          |(roundedDiv numerator denominator : ℚ) - numerator / denominator| →
        |whole| < |roundedDiv numerator denominator|) ∧
      roundedDiv (-numerator) denominator = -roundedDiv numerator denominator ∧
      divRoundHalfUp numerator denominator = .ok (roundedDiv numerator denominator) := by
  rw [divRoundHalfUp_eq _ nonzero, roundedDiv_eq _ nonzero, roundedDiv_eq _ nonzero]
  refine ⟨roundHalfAway_nearest _, fun whole => roundHalfAway_tie, ?_, rfl⟩
  rw [Int.cast_neg, neg_div, roundHalfAway_neg]

theorem roundedDiv_rounds_seven_two :
    roundedDiv (-7) 2 = -4 ∧ divRoundHalfUp (-7) 2 = .ok (roundedDiv (-7) 2) := by
  obtain ⟨_, _, _, same⟩ := roundedDiv_rounds (-7) (show (2 : ℤ) ≠ 0 by decide)
  exact ⟨by decide, same⟩

theorem computeBaseAmountPaise_natCast (ratePaise : ℕ) (rateUnit : AreaUnit)
    (landAreaEntered : Decimal 6) (landAreaEnteredUnit : AreaUnit) :
    computeBaseAmountPaise ratePaise rateUnit landAreaEntered.scaled landAreaEnteredUnit =
      .ok (Inventory.computeBaseAmountPaise ratePaise rateUnit landAreaEntered
        landAreaEnteredUnit : ℕ) := by
  have positive : 0 < 10 ^ 6 * rateUnit.sqftPerUnitScaled :=
    Nat.mul_pos (by decide) (sqftPerUnitScaled_pos rateUnit)
  have nonzero : areaScale * (rateUnit.sqftPerUnitScaled : ℤ) ≠ 0 := by
    have measure := sqftPerUnitScaled_pos rateUnit
    unfold areaScale
    omega
  have rounded := roundHalfAway_div
    (ratePaise * landAreaEntered.scaled * landAreaEnteredUnit.sqftPerUnitScaled) positive
  rw [computeBaseAmountPaise, divRoundHalfUp_eq _ nonzero, Inventory.computeBaseAmountPaise,
    Inventory.divRoundHalfUp, ← rounded, areaScale]
  push_cast
  norm_num

theorem sqftPerUnitScaled_cases (unit : AreaUnit) :
    (unit.sqftPerUnitScaled : ℤ) = sqftScale ∨ sqftScale < unit.sqftPerUnitScaled := by
  cases unit <;> decide

/-- **An area taken to square feet and back is the area.** The first rounding is off by half of the
sixth decimal, which the division by the factor makes less than a half. -/
theorem convertFromSqftScaled_convertToSqftScaled (scaled : ℤ) (unit : AreaUnit) :
    (convertToSqftScaled scaled unit).bind (convertFromSqftScaled · unit) = .ok scaled := by
  have positive : (0 : ℚ) < unit.sqftPerUnitScaled := by
    exact_mod_cast sqftPerUnitScaled_pos unit
  have nonzero : (unit.sqftPerUnitScaled : ℤ) ≠ 0 := by
    exact_mod_cast (sqftPerUnitScaled_pos unit).ne'
  rw [convertToSqftScaled, divRoundHalfUp_eq _ (by decide)]
  show convertFromSqftScaled _ unit = _
  rw [convertFromSqftScaled, divRoundHalfUp_eq _ nonzero]
  refine congrArg Except.ok ?_
  push_cast
  rcases sqftPerUnitScaled_cases unit with same | larger
  · have same : (unit.sqftPerUnitScaled : ℚ) = (sqftScale : ℚ) := by exact_mod_cast same
    rw [same] at positive ⊢
    rw [mul_div_cancel_right₀ _ positive.ne', roundHalfAway_intCast,
      mul_div_cancel_right₀ _ positive.ne', roundHalfAway_intCast]
  · have larger : (sqftScale : ℚ) < unit.sqftPerUnitScaled := by exact_mod_cast larger
    have scale : (0 : ℚ) < sqftScale := by norm_num [sqftScale]
    have near := roundHalfAway_near ((scaled : ℚ) * unit.sqftPerUnitScaled / sqftScale)
    generalize roundHalfAway ((scaled : ℚ) * unit.sqftPerUnitScaled / sqftScale) = sqft at near ⊢
    generalize (unit.sqftPerUnitScaled : ℚ) = factor at *
    apply roundHalfAway_of_near
    have shrunk : (sqft : ℚ) * sqftScale / factor - scaled =
        (sqft - scaled * factor / sqftScale) * (sqftScale / factor) := by
      field_simp
    have ratio : sqftScale / factor < 1 := (div_lt_one positive).mpr larger
    rw [shrunk, abs_mul, abs_of_pos (div_pos scale positive)]
    calc |(sqft : ℚ) - scaled * factor / sqftScale| * (sqftScale / factor)
        ≤ 1 / 2 * (sqftScale / factor) :=
          mul_le_mul_of_nonneg_right near (div_pos scale positive).le
      _ < 1 / 2 := by linarith

/-- **Equal units of measure cancel.** -/
theorem computeBaseAmountPaise_self (ratePaise scaled : ℤ) (unit : AreaUnit) :
    computeBaseAmountPaise ratePaise unit scaled unit =
      .ok (roundHalfAway (ratePaise * (scaled / areaScale))) := by
  have nonzero : (unit.sqftPerUnitScaled : ℤ) ≠ 0 := by
    exact_mod_cast (sqftPerUnitScaled_pos unit).ne'
  have factor : (unit.sqftPerUnitScaled : ℚ) ≠ 0 := by exact_mod_cast nonzero
  rw [computeBaseAmountPaise, divRoundHalfUp_eq _ (mul_ne_zero (by decide) nonzero)]
  push_cast
  rw [mul_div_mul_right _ _ factor, mul_div_assoc]

/-! ### Digits -/

section Digits

variable {chars : List Char}

theorem bigInt_digits (some_ : chars ≠ []) (digits : ∀ char ∈ chars, char.isDigit = true) :
    bigInt chars = .ok ((Nat.ofDigitChars 10 chars 0 : ℕ) : ℤ) := by
  rw [bigInt, bigIntOf_digits some_ digits]

theorem charNumber_of_isDigit {char : Char} (digit : char.isDigit = true) :
    charNumber char = some (char.toNat - 48) :=
  if_pos digit

theorem toString_digit {digit : Nat} (lt : digit < 10) :
    (toString digit).toList = [Nat.digitChar digit] := by
  rw [Nat.toString_eq_repr, Nat.toList_repr, Nat.toDigits_of_lt_base lt]

theorem ofDigitChars_concat_digitChar (front : List Char) {last : Nat} (lt : last < 10) :
    Nat.ofDigitChars 10 (front ++ [last.digitChar]) 0 = 10 * Nat.ofDigitChars 10 front 0 + last := by
  rw [ofDigitChars_concat, Nat.toNat_digitChar_sub_48_of_lt_ten lt]

theorem isDigit_concat_digitChar {front : List Char} {last : Nat} (lt : last < 10)
    (digits : ∀ char ∈ front, char.isDigit = true) :
    ∀ char ∈ front ++ [last.digitChar], char.isDigit = true := by
  intro char member
  rcases List.mem_append.mp member with member | member
  · exact digits char member
  · rw [List.mem_singleton.mp member, Nat.isDigit_digitChar]
    exact decide_eq_true lt

theorem carryOne_value (digits : ∀ char ∈ chars, char.isDigit = true) :
    if (carryOne chars).2 then Nat.ofDigitChars 10 chars.reverse 0 + 1 = 10 ^ chars.length
    else (carryOne chars).1.reverse.flatten ≠ [] ∧
      (∀ char ∈ (carryOne chars).1.reverse.flatten, char.isDigit = true) ∧
      Nat.ofDigitChars 10 (carryOne chars).1.reverse.flatten 0 =
        Nat.ofDigitChars 10 chars.reverse 0 + 1 := by
  induction chars with
  | nil => rfl
  | cons char rest ih =>
    obtain ⟨digit, others⟩ := List.forall_mem_cons.mp digits
    have lt := toNat_sub_lt_ten digit
    rw [carryOne, charNumber_of_isDigit digit, List.reverse_cons, ofDigitChars_concat]
    generalize char.toNat - 48 = number at lt
    dsimp only
    split
    · rename_i noCarry
      have below : number + 1 < 10 := by omega
      have rest_ : (rest.map fun char => [char]).reverse.flatten = rest.reverse := by
        rw [← List.map_reverse, ← List.flatMap_def, List.flatMap_singleton']
      rw [if_neg nofun, Nat.mod_eq_of_lt below, toString_digit below, List.reverse_cons,
        List.flatten_append, rest_, List.flatten_singleton, ofDigitChars_concat_digitChar _ below]
      refine ⟨by simp, isDigit_concat_digitChar below fun char member => ?_, by omega⟩
      exact others char (List.mem_reverse.mp member)
    · rename_i carries
      have nine : number = 9 := by omega
      subst nine
      have zero : (toString ((9 + 1) % 10)).toList = [Nat.digitChar 0] := by decide
      rw [zero, List.reverse_cons, List.flatten_append, List.flatten_singleton,
        ofDigitChars_concat_digitChar _ (by decide : 0 < 10), List.length_cons, Nat.pow_succ]
      have ih := ih others
      dsimp only
      split at ih
      · rename_i carry
        rw [if_pos carry]
        omega
      · rename_i noCarry
        obtain ⟨_, areDigits, sum⟩ := ih
        rw [if_neg noCarry, sum]
        exact ⟨by simp, isDigit_concat_digitChar (by decide : 0 < 10) areDigits, by omega⟩

end Digits

/-! ### Digits after the point -/

theorem ofDigitChars_rightpad {frac : List Char} (short : frac.length ≤ 6) :
    Nat.ofDigitChars 10 ((frac.take 6).rightpad 6 '0') 0 =
      Nat.ofDigitChars 10 frac 0 * 10 ^ (6 - frac.length) := by
  rw [List.take_of_length_le short, List.rightpad, Nat.ofDigitChars_append,
    Nat.ofDigitChars_replicate_zero, Nat.mul_comm]

theorem roundHalfAway_seventh (front : ℕ) {seventh others places : ℕ} (digit : seventh < 10)
    (below : others < 10 ^ places) :
    roundHalfAway (((front * 10 ^ (places + 1) + (10 ^ places * seventh + others) : ℕ) : ℚ) /
      (10 ^ (places + 1) : ℕ)) = (if 5 ≤ seventh then front + 1 else front : ℕ) := by
  have positive : 0 < 10 ^ (places + 1) := Nat.pow_pos (by decide)
  have ten : 10 ^ (places + 1) = 10 * 10 ^ places := Nat.pow_succ'
  have less : 10 ^ places * seventh ≤ 10 ^ places * 9 := Nat.mul_le_mul_left _ (by omega)
  have half : 10 ^ (places + 1) ≤ (10 ^ places * seventh + others) * 2 ↔ 5 ≤ seventh := by
    constructor
    · intro half
      by_contra small
      have small : 10 ^ places * seventh ≤ 10 ^ places * 4 := Nat.mul_le_mul_left _ (by omega)
      omega
    · intro large
      have large : 10 ^ places * 5 ≤ 10 ^ places * seventh := Nat.mul_le_mul_left _ large
      omega
  have remainder : 10 ^ places * seventh + others < 10 ^ (places + 1) := by omega
  rw [roundHalfAway_div _ positive, Nat.mul_add_mod', Nat.mod_eq_of_lt remainder,
    Nat.mul_comm front, Nat.mul_add_div positive, Nat.div_eq_of_lt remainder]
  simp only [half, Nat.add_zero]

theorem ofDigitChars_split (first rest : List Char) (next : Char) :
    Nat.ofDigitChars 10 (first ++ next :: rest) 0 =
      10 ^ (rest.length + 1) * Nat.ofDigitChars 10 first 0 +
        (10 ^ rest.length * (next.toNat - 48) + Nat.ofDigitChars 10 rest 0) := by
  have zero : '0'.toNat = 48 := rfl
  rw [Nat.ofDigitChars_append, Nat.ofDigitChars_cons, Nat.ofDigitChars_eq_ofDigitChars_zero, zero]
  ring

theorem value_eq_quotient (whole front others places : ℕ) :
    ((whole : ℚ) + ((10 ^ places * front + others : ℕ) : ℚ) / 10 ^ (6 + places)) * 10 ^ 6 =
      (((whole * 10 ^ 6 + front) * 10 ^ places + others : ℕ) : ℚ) / (10 ^ places : ℕ) := by
  push_cast
  rw [pow_add (10 : ℚ) 6]
  field_simp
  ring

/-- **The digits after the point**, of which there are more than six: the seventh decides, and the sixth
may carry into those before the point. -/
theorem scaled_long {first rest : List Char} {next : Char} (six : first.length = 6)
    (digits : ∀ char ∈ first ++ next :: rest, char.isDigit = true) (sign : ℤ) (whole : ℕ) :
    (if ((first ++ next :: rest)[6]?.bind charNumber).any (5 ≤ ·) then
      if (carryOne (((first ++ next :: rest).take 6).rightpad 6 '0').reverse).2 then
        .ok (sign * (whole + 1) * areaScale)
      else do
        return sign * (whole * areaScale + (← bigInt
          (carryOne (((first ++ next :: rest).take 6).rightpad 6 '0').reverse).1.reverse.flatten))
    else do
      return sign * (whole * areaScale +
        (← bigInt (((first ++ next :: rest).take 6).rightpad 6 '0')))) =
      (.ok (sign * roundHalfAway ((whole + Nat.ofDigitChars 10 (first ++ next :: rest) 0 /
        10 ^ (first ++ next :: rest).length) * 10 ^ 6)) : Except ServiceError ℤ) := by
  have digit := digits next (by simp)
  have digitsFirst : ∀ char ∈ first, char.isDigit = true := fun char member =>
    digits char (List.mem_append_left _ member)
  have below : Nat.ofDigitChars 10 rest 0 < 10 ^ rest.length := ofDigitChars_lt fun char member =>
    digits char (List.mem_append_right _ (List.mem_cons_of_mem _ member))
  have lt := toNat_sub_lt_ten digit
  have taken : ((first ++ next :: rest).take 6).rightpad 6 '0' = first := by
    rw [← six, List.take_left, List.rightpad, Nat.sub_self, List.replicate_zero, List.append_nil]
  have seventh : (first ++ next :: rest)[6]? = some next := by
    rw [← six, List.getElem?_append_right (le_refl _), Nat.sub_self, List.getElem?_cons_zero]
  have length_ : (first ++ next :: rest).length = 6 + (rest.length + 1) := by
    rw [List.length_append, List.length_cons, six]
  have carried := carryOne_value fun char member => digitsFirst char (List.mem_reverse.mp member)
  rw [List.reverse_reverse, List.length_reverse, six] at carried
  have read := bigInt_digits (by rintro rfl; cases six) digitsFirst
  rw [taken, seventh, ofDigitChars_split, length_, Option.bind_some, charNumber_of_isDigit digit,
    Option.any_some]
  generalize next.toNat - 48 = digit at lt
  generalize Nat.ofDigitChars 10 first 0 = front at carried read
  generalize Nat.ofDigitChars 10 rest 0 = others at below
  -- the value is a fraction whose remainder begins with the seventh digit
  rw [value_eq_quotient, roundHalfAway_seventh (whole * 10 ^ 6 + front) lt below]
  by_cases half : 5 ≤ digit
  · rw [if_pos half, if_pos (decide_eq_true half)]
    split at carried
    · rename_i overflows
      rw [if_pos overflows]
      have scale : areaScale = ((10 ^ 6 : ℕ) : ℤ) := by norm_num [areaScale]
      have sum : (front : ℤ) + 1 = areaScale := by rw [scale, ← carried, Nat.cast_succ]
      refine congrArg Except.ok ?_
      push_cast
      rw [mul_assoc, add_assoc, sum, areaScale]
      ring
    · rename_i fits
      obtain ⟨some_, areDigits, sum⟩ := carried
      rw [if_neg fits, bigInt_digits some_ areDigits, sum]
      refine congrArg Except.ok ?_
      rw [areaScale]
      push_cast
      ring
  · rw [if_neg half, if_neg (by simpa using half), read]
    refine congrArg Except.ok ?_
    rw [areaScale]
    push_cast
    ring

/-- **The digits after the point**: six of them are kept, rounded by the seventh. -/
theorem scaled_digits {frac : List Char} (digits : ∀ char ∈ frac, char.isDigit = true) (sign : ℤ)
    (whole : ℕ) :
    (if (frac[6]?.bind charNumber).any (5 ≤ ·) then
      if (carryOne ((frac.take 6).rightpad 6 '0').reverse).2 then
        .ok (sign * (whole + 1) * areaScale)
      else do
        return sign * (whole * areaScale +
          (← bigInt (carryOne ((frac.take 6).rightpad 6 '0').reverse).1.reverse.flatten))
    else do
      return sign * (whole * areaScale + (← bigInt ((frac.take 6).rightpad 6 '0')))) =
      (.ok (sign * roundHalfAway ((whole + Nat.ofDigitChars 10 frac 0 / 10 ^ frac.length) *
        10 ^ 6)) : Except ServiceError ℤ) := by
  rcases Nat.lt_or_ge 6 frac.length with long | short
  · obtain ⟨first, next, rest, rfl, six⟩ : ∃ first next rest,
        frac = first ++ next :: rest ∧ first.length = 6 := by
      refine ⟨frac.take 6, frac[6], frac.drop 7, ?_, by simp; omega⟩
      rw [List.cons_getElem_drop_succ, List.take_append_drop]
    exact scaled_long six digits sign whole
  · have six : 0 < ((frac.take 6).rightpad 6 '0').length := by
      rw [List.length_rightpad]
      omega
    have areDigits : ∀ char ∈ (frac.take 6).rightpad 6 '0', char.isDigit = true := by
      intro char member
      rcases List.mem_append.mp member with member | member
      · exact digits char (List.mem_of_mem_take member)
      · rw [List.eq_of_mem_replicate member]
        rfl
    have noSeventh : frac[6]? = none := List.getElem?_eq_none short
    have exact_ : ((whole : ℚ) + Nat.ofDigitChars 10 frac 0 / 10 ^ frac.length) * 10 ^ 6 =
        ((whole * 10 ^ 6 + Nat.ofDigitChars 10 frac 0 * 10 ^ (6 - frac.length) : ℤ) : ℚ) := by
      have six : (10 : ℚ) ^ 6 = 10 ^ (6 - frac.length) * 10 ^ frac.length := by
        rw [← pow_add, Nat.sub_add_cancel short]
      have filled : (Nat.ofDigitChars 10 frac 0 : ℚ) / 10 ^ frac.length * 10 ^ 6 =
          Nat.ofDigitChars 10 frac 0 * 10 ^ (6 - frac.length) := by
        rw [six]
        field_simp
      push_cast
      rw [add_mul, filled]
      norm_num
    rw [noSeventh, exact_, roundHalfAway_intCast,
      bigInt_digits (List.ne_nil_of_length_pos six) areDigits, ofDigitChars_rightpad short]
    refine congrArg Except.ok ?_
    rw [areaScale]
    push_cast
    ring

/-! ### Plain decimals -/

/-- A decimal as it is written: a minus sign if it is negative, digits, and a point with more digits
if there is one. -/
structure PlainDecimal where
  negative : Bool
  whole : List Char
  fraction : Option (List Char)
  some_whole : whole ≠ []
  digits_whole : ∀ char ∈ whole, char.isDigit = true
  digits_fraction : ∀ char ∈ fraction.getD [], char.isDigit = true

namespace PlainDecimal

variable (decimal : PlainDecimal)

def minus : List Char := if decimal.negative then ['-'] else []

def text : String :=
  String.ofList (decimal.minus ++ decimal.whole ++
    (decimal.fraction.map fun digits => '.' :: digits).getD [])

def sign : ℤ := if decimal.negative then -1 else 1

def magnitude : ℚ :=
  Nat.ofDigitChars 10 decimal.whole 0 +
    Nat.ofDigitChars 10 (decimal.fraction.getD []) 0 / 10 ^ (decimal.fraction.getD []).length

def value : ℚ := decimal.sign * decimal.magnitude

theorem roundHalfAway_sign_mul (value : ℚ) :
    roundHalfAway (decimal.sign * value) = decimal.sign * roundHalfAway value := by
  unfold sign
  split
  · push_cast
    rw [neg_one_mul, neg_one_mul, roundHalfAway_neg]
  · push_cast
    rw [one_mul, one_mul]

theorem split_text :
    trimmed decimal.text.toList = decimal.text.toList ∧
      decimal.text.toList.takeWhile (· ≠ '.') = decimal.minus ++ decimal.whole ∧
      (decimal.text.toList.dropWhile (· ≠ '.')).tail.takeWhile (· ≠ '.') =
        decimal.fraction.getD [] := by
  have notPoint : ∀ {chars : List Char}, (∀ char ∈ chars, char.isDigit = true) →
      ∀ char ∈ chars, (decide (char ≠ '.')) = true := by
    intro chars digits char member
    rw [decide_eq_true_eq]
    rintro rfl
    exact absurd (digits _ member) (by decide)
  have minus : ∀ char ∈ decimal.minus, char = '-' := by
    intro char member
    unfold PlainDecimal.minus at member
    split at member
    · exact List.mem_singleton.mp member
    · cases member
  have front : ∀ char ∈ decimal.minus ++ decimal.whole, (decide (char ≠ '.')) = true := by
    intro char member
    rcases List.mem_append.mp member with member | member
    · rw [minus char member]
      decide
    · exact notPoint decimal.digits_whole char member
  refine ⟨trimmed_of_forall_not fun char member => ?_, ?_, ?_⟩
  · rw [text, String.toList_ofList] at member
    rcases List.mem_append.mp member with member | member
    · rcases List.mem_append.mp member with member | member
      · rw [minus char member]
        decide
      · exact isSpace_of_isDigit (decimal.digits_whole char member)
    · cases point : decimal.fraction with
      | none =>
        rw [point] at member
        cases member
      | some digits =>
        rw [point] at member
        rcases List.mem_cons.mp member with rfl | member
        · decide
        · refine isSpace_of_isDigit (decimal.digits_fraction char ?_)
          rw [point]
          exact member
  · rw [text, String.toList_ofList, List.takeWhile_append_of_pos front]
    cases decimal.fraction with
    | none => simp
    | some digits => simp
  · rw [text, String.toList_ofList, List.dropWhile_append_of_pos front]
    have digits := decimal.digits_fraction
    cases point : decimal.fraction with
    | none => rfl
    | some fraction =>
      rw [point] at digits
      exact List.takeWhile_eq_self_iff.mpr (notPoint digits)

theorem head_whole :
    (if (decimal.minus ++ decimal.whole).head? = some '-' then (-1 : ℤ) else 1) = decimal.sign ∧
      (if (decimal.minus ++ decimal.whole).head? = some '-' then
        (decimal.minus ++ decimal.whole).tail else decimal.minus ++ decimal.whole) =
        decimal.whole := by
  unfold minus sign
  split
  · exact ⟨rfl, rfl⟩
  · have digits := decimal.digits_whole
    cases same : decimal.whole with
    | nil => exact absurd same decimal.some_whole
    | cons first rest =>
      have noMinus : first ≠ '-' := by
        rintro rfl
        exact absurd (digits '-' (by simp [same])) (by decide)
      simp [noMinus]

theorem toAreaScaled_text :
    toAreaScaled (.text decimal.text) = .ok (roundHalfAway (decimal.value * 10 ^ 6)) := by
  obtain ⟨trimmed_, whole_, frac_⟩ := decimal.split_text
  have wholeAbs : (if decimal.whole = [] then ['0'] else decimal.whole) = decimal.whole :=
    if_neg decimal.some_whole
  have read := bigInt_digits decimal.some_whole decimal.digits_whole
  rw [value, mul_assoc, roundHalfAway_sign_mul, toAreaScaled, magnitude]
  rw [trimmed_, whole_, frac_, decimal.head_whole.1, decimal.head_whole.2, wholeAbs, read]
  exact scaled_digits decimal.digits_fraction decimal.sign (Nat.ofDigitChars 10 decimal.whole 0)

/-- Half a unit is carried through the nines, also below zero. -/
example : toAreaScaled (.text "-9.9999995") = .ok (-10000000) := by decide

end PlainDecimal

theorem eq_rdropWhile_append (chars : List Char) :
    ∃ zeros, chars = chars.rdropWhile (· = '0') ++ List.replicate zeros '0' := by
  refine ⟨(chars.rtakeWhile (· = '0')).length, ?_⟩
  have zeros : chars.rtakeWhile (· = '0') =
      List.replicate (chars.rtakeWhile (· = '0')).length '0' :=
    List.eq_replicate_iff.mpr
      ⟨rfl, fun char member => by simpa using List.mem_rtakeWhile_imp member⟩
  rw [← zeros, List.rdropWhile_append_rtakeWhile]

theorem padStart_remainder {remainder : ℕ} (lt : remainder < 10 ^ 6) :
    (padStart (toString remainder) 6 '0').toList.length = 6 ∧
      (∀ char ∈ (padStart (toString remainder) 6 '0').toList, char.isDigit = true) ∧
      Nat.ofDigitChars 10 (padStart (toString remainder) 6 '0').toList 0 = remainder := by
  have fits : (Nat.toDigits 10 remainder).length ≤ 6 :=
    (Nat.length_toDigits_le_iff (by decide) (by decide)).mpr lt
  rw [padStart, String.toList_ofList, Nat.toString_eq_repr, Nat.toList_repr]
  refine ⟨by rw [List.length_leftpad]; omega, fun char member => ?_, ?_⟩
  · rcases List.mem_append.mp member with member | member
    · rw [List.eq_of_mem_replicate member]
      rfl
    · exact Nat.isDigit_of_mem_toDigits (by decide) (by decide) member
  · rw [List.leftpad, Nat.ofDigitChars_append, Nat.ofDigitChars_replicate_zero, mul_zero,
      Nat.ofDigitChars_ten_toDigits]

theorem toList_withPoint (whole : ℕ) (kept : List Char) :
    (if kept = [] then toString whole
      else toString whole ++ "." ++ String.ofList kept).toList =
      Nat.toDigits 10 whole ++ if kept = [] then [] else '.' :: kept := by
  rw [Nat.toString_eq_repr]
  split
  · rw [Nat.toList_repr, List.append_nil]
  · rw [String.toList_append, String.toList_append, Nat.toList_repr, List.append_assoc,
      @String.toList_ofList kept]
    rfl

theorem exists_fraction (kept : List Char) : ∃ fraction : Option (List Char),
    fraction.getD [] = kept ∧
      (fraction.map fun digits => '.' :: digits).getD [] = if kept = [] then [] else '.' :: kept := by
  by_cases nothing : kept = []
  · exact ⟨none, nothing.symm, by rw [if_pos nothing]; rfl⟩
  · exact ⟨some kept, rfl, by rw [if_neg nothing]; rfl⟩

theorem magnitude_eq {natAbs zeros : ℕ} {kept : List Char} (length : kept.length + zeros = 6)
    (value : Nat.ofDigitChars 10 kept 0 * 10 ^ zeros = natAbs % 10 ^ 6) :
    ((natAbs / 10 ^ 6 : ℕ) + (Nat.ofDigitChars 10 kept 0 : ℚ) / 10 ^ kept.length) * 10 ^ 6 =
      natAbs := by
  have left : (10 : ℚ) ^ 6 = 10 ^ zeros * 10 ^ kept.length := by
    rw [← pow_add, add_comm, length]
  have remainder : (Nat.ofDigitChars 10 kept 0 : ℚ) / 10 ^ kept.length * 10 ^ 6 =
      ((natAbs % 10 ^ 6 : ℕ) : ℚ) := by
    rw [left, ← value]
    push_cast
    field_simp
  rw [add_mul, remainder]
  exact_mod_cast Nat.div_add_mod' natAbs (10 ^ 6)

theorem sign_mul_natAbs (scaled : ℤ) :
    (((if decide (scaled < 0) = true then -1 else 1 : ℤ) : ℚ)) * scaled.natAbs = scaled := by
  by_cases negative : scaled < 0
  · rw [if_pos (decide_eq_true negative), Nat.cast_natAbs, abs_of_neg negative]
    push_cast
    rw [neg_one_mul, neg_neg]
  · have sign : decide (scaled < 0) ≠ true := by simpa using negative
    rw [if_neg sign, Nat.cast_natAbs, abs_of_nonneg (not_lt.mp negative)]
    push_cast
    rw [one_mul]

/-- **The text of an area** is a plain decimal with that value. -/
theorem fromAreaScaled_eq (scaled : ℤ) : ∃ decimal : PlainDecimal,
    fromAreaScaled scaled = decimal.text ∧ decimal.value * 10 ^ 6 = scaled := by
  obtain ⟨length_, digits, value_⟩ :=
    padStart_remainder (Nat.mod_lt scaled.natAbs (by decide : 0 < 10 ^ 6))
  obtain ⟨zeros, parts⟩ :=
    eq_rdropWhile_append (padStart (toString (scaled.natAbs % 10 ^ 6)) 6 '0').toList
  have abs_ : (if scaled < 0 then -scaled else scaled) = (scaled.natAbs : ℤ) := by
    split <;> omega
  have whole_ : toString ((scaled.natAbs : ℤ).tdiv areaScale) =
      toString (scaled.natAbs / 10 ^ 6) := rfl
  have frac_ : toString ((scaled.natAbs : ℤ).tmod areaScale) =
      toString (scaled.natAbs % 10 ^ 6) := rfl
  unfold fromAreaScaled
  dsimp only
  rw [abs_, whole_, frac_]
  generalize (padStart (toString (scaled.natAbs % 10 ^ 6)) 6 '0').toList.rdropWhile (· = '0') = kept
    at parts
  rw [parts] at length_ digits value_
  rw [List.length_append, List.length_replicate] at length_
  rw [Nat.ofDigitChars_append, Nat.ofDigitChars_replicate_zero, mul_comm] at value_
  obtain ⟨fraction, rfl, point⟩ := exists_fraction kept
  refine ⟨⟨scaled < 0, Nat.toDigits 10 (scaled.natAbs / 10 ^ 6), fraction, Nat.toDigits_ne_nil,
    fun char => Nat.isDigit_of_mem_toDigits (by decide) (by decide),
    fun char member => digits char (List.mem_append_left _ member)⟩, ?_, ?_⟩
  · apply String.toList_injective
    rw [PlainDecimal.text, PlainDecimal.minus, String.toList_ofList]
    dsimp only
    rw [point, List.append_assoc, ← toList_withPoint]
    by_cases negative : scaled < 0
    · rw [if_pos negative, if_pos (decide_eq_true negative), String.toList_append]
      rfl
    · have sign : decide (scaled < 0) ≠ true := by simpa using negative
      rw [if_neg negative, if_neg sign, List.nil_append]
  · rw [PlainDecimal.value, PlainDecimal.magnitude, PlainDecimal.sign]
    dsimp only
    rw [Nat.ofDigitChars_ten_toDigits, mul_assoc, magnitude_eq length_ value_, sign_mul_natAbs]

theorem toAreaScaled_fromAreaScaled (scaled : ℤ) :
    toAreaScaled (.text (fromAreaScaled scaled)) = .ok scaled := by
  obtain ⟨decimal, text, value⟩ := fromAreaScaled_eq scaled
  rw [text, decimal.toAreaScaled_text, value, roundHalfAway_intCast]

/-- **Area conversions**: a plain decimal is brought to the nearest area, an area to a text and to
square feet and back is the area, and the price where both units of measure are one is the rate times
the area, rounded. -/
theorem area_conversions :
    (∀ decimal : PlainDecimal,
      toAreaScaled (.text decimal.text) = .ok (roundHalfAway (decimal.value * 10 ^ 6))) ∧
    (∀ scaled, toAreaScaled (.text (fromAreaScaled scaled)) = .ok scaled) ∧
    (∀ scaled unit,
      (convertToSqftScaled scaled unit).bind (convertFromSqftScaled · unit) = .ok scaled) ∧
    ∀ ratePaise scaled unit, computeBaseAmountPaise ratePaise unit scaled unit =
      .ok (roundHalfAway (ratePaise * (scaled / areaScale))) := by
  exact ⟨PlainDecimal.toAreaScaled_text, toAreaScaled_fromAreaScaled,
    convertFromSqftScaled_convertToSqftScaled, computeBaseAmountPaise_self⟩

end OpenEstate.Area
