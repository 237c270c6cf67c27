/-
**The guard against Aadhaar numbers.**

Twelve digits, of which the first is no 0 or 1, perhaps in groups of four, with a valid checksum. The
digits stand alone: there is none before and none after them.

The tables of the guard are a group: its elements are the rotations and the reflections of a pentagon,
and the table composes them. A digit is encoded by the permutation of its place, counted from the check
digit on, so that a number is valid if the product of its digits is the unit.

* `symmetry` is the element of the group that a digit stands for, `encode` the one at a place;
* `isValidVerhoeff_iff`: the fold over the tables is that product;
* `verhoeff_detects`: a check digit makes a number valid, and what becomes of a valid number by another
  digit or by two that change places is not valid.
-/

import Mathlib.GroupTheory.SpecificGroups.Dihedral
import OpenEstate.Coding.CheckDigit
import OpenEstate.Runtime.Value

namespace OpenEstate.CustomFields

open Runtime (Value Number)

/-! ### Checksums -/

def verhoeffD : List (List Nat) :=
  [[0, 1, 2, 3, 4, 5, 6, 7, 8, 9], [1, 2, 3, 4, 0, 6, 7, 8, 9, 5], [2, 3, 4, 0, 1, 7, 8, 9, 5, 6],
    [3, 4, 0, 1, 2, 8, 9, 5, 6, 7], [4, 0, 1, 2, 3, 9, 5, 6, 7, 8], [5, 9, 8, 7, 6, 0, 4, 3, 2, 1],
    [6, 5, 9, 8, 7, 1, 0, 4, 3, 2], [7, 6, 5, 9, 8, 2, 1, 0, 4, 3], [8, 7, 6, 5, 9, 3, 2, 1, 0, 4],
    [9, 8, 7, 6, 5, 4, 3, 2, 1, 0]]

def verhoeffP : List (List Nat) :=
  [[0, 1, 2, 3, 4, 5, 6, 7, 8, 9], [1, 5, 7, 6, 2, 8, 3, 0, 9, 4], [5, 8, 0, 3, 7, 9, 6, 1, 4, 2],
    [8, 9, 1, 6, 0, 4, 3, 5, 2, 7], [9, 4, 5, 3, 1, 2, 6, 8, 7, 0], [4, 2, 8, 6, 5, 7, 3, 9, 0, 1],
    [2, 7, 9, 3, 8, 0, 6, 4, 1, 5], [7, 0, 4, 6, 9, 1, 3, 2, 5, 8]]

def entry (table : List (List Nat)) (row column : Nat) : Nat := (table.getD row []).getD column 0

/-- The digits, of which the last one is the check digit, are gone through from the end. -/
def isValidVerhoeff (digits : List Char) : Bool :=
  digits.reverse.zipIdx.foldl (fun c digit =>
    entry verhoeffD c (entry verhoeffP (digit.2 % 8) (digit.1.toNat - 48))) 0 == 0

example : isValidVerhoeff "2363".toList = true ∧ isValidVerhoeff "2364".toList = false := by decide

/-! ### Numbers in texts -/

def fourDigits : List Char → Option (List Char × List Char)
  | a :: b :: c :: d :: rest =>
    if [a, b, c, d].all Char.isDigit then some ([a, b, c, d], rest) else none
  | _ => none

def skipSeparator : List Char → List Char
  | ' ' :: rest | '-' :: rest => rest
  | chars => chars

def candidate (chars : List Char) : Option (List Char) := do
  let (first, rest) ← fourDigits chars
  let (second, rest) ← fourDigits (skipSeparator rest)
  let (third, rest) ← fourDigits (skipSeparator rest)
  if first.head?.any (· ∈ ['0', '1']) || rest.head?.any Char.isDigit then none
  else some (first ++ second ++ third)

def candidates (before : Option Char) : List Char → List (List Char)
  | [] => []
  | char :: rest =>
    (if before.any Char.isDigit then [] else (candidate (char :: rest)).toList) ++
      candidates (some char) rest

def findAadhaarLikeNumbers (text : String) : List (List Char) :=
  (candidates none text.toList).filter isValidVerhoeff

/-- Only texts and numbers can hold one; how a number is written is up to the runtime. -/
def isAadhaarLikeValue (numberText : ℚ → String) : Value → Bool
  | .number (.finite value) =>
    value.den == 1 && !(findAadhaarLikeNumbers (numberText value)).isEmpty
  | .text content => !(findAadhaarLikeNumbers content).isEmpty
  | _ => false

open Coding

/-! ### Check digits -/

def verhoeffInv : List Nat := [0, 4, 3, 2, 1, 5, 6, 7, 8, 9]

/-- The digit to append: its place is the first one, and the others move on by one. -/
def verhoeffCheckDigit (digits : List Char) : Nat :=
  verhoeffInv.getD (digits.reverse.zipIdx.foldl (fun c digit =>
    entry verhoeffD c (entry verhoeffP ((digit.2 + 1) % 8) (digit.1.toNat - 48))) 0) 0

/-! ### The group -/

def symmetry (digit : Nat) : DihedralGroup 5 :=
  if digit < 5 then .r digit else .sr (-digit)

def encode (place : Nat) (char : Char) : DihedralGroup 5 :=
  symmetry (entry verhoeffP (place % 8) (char.toNat - 48))

variable {first second : Nat}

theorem symmetry_entry (firstLt : first < 10) (secondLt : second < 10) :
    entry verhoeffD first second < 10 ∧
      symmetry (entry verhoeffD first second) = symmetry first * symmetry second := by
  have table : ∀ first : Fin 10, ∀ second : Fin 10, entry verhoeffD first second < 10 ∧
      symmetry (entry verhoeffD first second) = symmetry first * symmetry second := by
    decide
  exact table ⟨first, firstLt⟩ ⟨second, secondLt⟩

theorem symmetry_injective (firstLt : first < 10) (secondLt : second < 10)
    (same : symmetry first = symmetry second) : first = second := by
  have table : ∀ first second : Fin 10, symmetry first = symmetry second → first = second := by
    decide
  exact congrArg Fin.val (table ⟨first, firstLt⟩ ⟨second, secondLt⟩ same)

theorem symmetry_inv {digit : Nat} (lt : digit < 10) :
    verhoeffInv.getD digit 0 < 10 ∧ symmetry (verhoeffInv.getD digit 0) * symmetry digit = 1 := by
  have table : ∀ digit : Fin 10, verhoeffInv.getD digit 0 < 10 ∧
      symmetry (verhoeffInv.getD digit 0) * symmetry digit = 1 := by
    decide
  exact table ⟨digit, lt⟩

/-! ### The permutations -/

theorem permuted_lt (place : Nat) {digit : Nat} (lt : digit < 10) :
    entry verhoeffP (place % 8) digit < 10 := by
  have table : ∀ place : Fin 8, ∀ digit : Fin 10, entry verhoeffP place digit < 10 := by decide
  exact table ⟨place % 8, Nat.mod_lt place (by decide)⟩ ⟨digit, lt⟩

theorem permuted_injective (place : Nat) (firstLt : first < 10) (secondLt : second < 10)
    (same : entry verhoeffP (place % 8) first = entry verhoeffP (place % 8) second) :
    first = second := by
  have table : ∀ place : Fin 8, ∀ first second : Fin 10,
      entry verhoeffP place first = entry verhoeffP place second → first = second := by
    decide
  exact congrArg Fin.val
    (table ⟨place % 8, Nat.mod_lt place (by decide)⟩ ⟨first, firstLt⟩ ⟨second, secondLt⟩ same)

/-- Two digits are told from the same two the other way round, by every line of the table and the
next one. After the last line comes the first. -/
theorem permuted_tells (place : Nat) (firstLt : first < 10) (secondLt : second < 10)
    (differs : first ≠ second) :
    symmetry (entry verhoeffP (place % 8) first) *
        symmetry (entry verhoeffP ((place + 1) % 8) second) ≠
      symmetry (entry verhoeffP (place % 8) second) *
        symmetry (entry verhoeffP ((place + 1) % 8) first) := by
  have table : ∀ place : Fin 8, ∀ first second : Fin 10, first ≠ second →
      symmetry (entry verhoeffP place first) *
          symmetry (entry verhoeffP ((place + 1) % 8) second) ≠
        symmetry (entry verhoeffP place second) *
          symmetry (entry verhoeffP ((place + 1) % 8) first) := by
    decide
  have next : (place % 8 + 1) % 8 = (place + 1) % 8 := by omega
  have line := table ⟨place % 8, Nat.mod_lt place (by decide)⟩ ⟨first, firstLt⟩ ⟨second, secondLt⟩
    fun same => differs (congrArg Fin.val same)
  rw [← next]
  exact line

/-! ### Digits -/

section Digits

variable {digits : List Char}

theorem encode_ne {place : Nat} {old new : Char} (oldDigit : old.isDigit = true)
    (newDigit : new.isDigit = true) (differs : new ≠ old) : encode place new ≠ encode place old := by
  have oldLt := Runtime.toNat_sub_lt_ten oldDigit
  have newLt := Runtime.toNat_sub_lt_ten newDigit
  intro same
  have permuted := symmetry_injective (permuted_lt place newLt) (permuted_lt place oldLt) same
  have values := permuted_injective place newLt oldLt permuted
  have oldBounds := Runtime.toNat_of_isDigit oldDigit
  have newBounds := Runtime.toNat_of_isDigit newDigit
  exact differs (Char.toNat_inj.mp (by omega))

theorem encode_tells (place : Nat) {first second : Char} (firstDigit : first.isDigit = true)
    (secondDigit : second.isDigit = true) (differs : first ≠ second) :
    TellsOrder encode place first second := by
  refine permuted_tells place (Runtime.toNat_sub_lt_ten firstDigit)
    (Runtime.toNat_sub_lt_ten secondDigit) fun values => differs (Char.toNat_inj.mp ?_)
  have firstBounds := Runtime.toNat_of_isDigit firstDigit
  have secondBounds := Runtime.toNat_of_isDigit secondDigit
  omega

/-- **The fold over the tables is a product.** Digits are gone through from a place on. -/
theorem symmetry_foldl {chars : List Char} (areDigits : ∀ char ∈ chars, char.isDigit = true)
    (offset place : Nat) {c : Nat} (lt : c < 10) :
    (chars.zipIdx place).foldl (fun c digit => entry verhoeffD c
        (entry verhoeffP ((digit.2 + offset) % 8) (digit.1.toNat - 48))) c < 10 ∧
      symmetry ((chars.zipIdx place).foldl (fun c digit => entry verhoeffD c
        (entry verhoeffP ((digit.2 + offset) % 8) (digit.1.toNat - 48))) c) =
        symmetry c * weigh encode (place + offset) chars := by
  induction chars generalizing place c with
  | nil => simpa [weigh] using lt
  | cons char rest ih =>
    obtain ⟨isDigit, others⟩ := List.forall_mem_cons.mp areDigits
    obtain ⟨below, composed⟩ := symmetry_entry lt
      (permuted_lt (place + offset) (Runtime.toNat_sub_lt_ten isDigit))
    obtain ⟨within, product⟩ := ih others (place + 1) below
    refine ⟨within, product.trans ?_⟩
    have next : place + 1 + offset = place + offset + 1 := by omega
    rw [composed, next, weigh, mul_assoc]
    rfl

theorem symmetry_zero : symmetry 0 = 1 := rfl

/-- **A number is valid if the product of its digits is the unit.** -/
theorem isValidVerhoeff_iff (areDigits : ∀ char ∈ digits, char.isDigit = true) :
    isValidVerhoeff digits = true ↔ weigh encode 0 digits.reverse = 1 := by
  obtain ⟨lt, product⟩ := @symmetry_foldl digits.reverse
    (fun char member => areDigits char (List.mem_reverse.mp member)) 0 0 0 (by decide)
  rw [symmetry_zero, one_mul] at product
  rw [← product, isValidVerhoeff, beq_iff_eq]
  constructor
  · intro zero
    exact congrArg symmetry zero
  · exact symmetry_injective lt (by decide : 0 < 10)

theorem encode_checkDigit (areDigits : ∀ char ∈ digits, char.isDigit = true) :
    ∃ check : Char, check.isDigit = true ∧
      (toString (verhoeffCheckDigit digits)).toList = [check] ∧
      encode 0 check * weigh encode 1 digits.reverse = 1 := by
  obtain ⟨lt, product⟩ := @symmetry_foldl digits.reverse
    (fun char member => areDigits char (List.mem_reverse.mp member)) 1 0 0 (by decide)
  rw [symmetry_zero, one_mul, Nat.zero_add] at product
  obtain ⟨checkLt, undoes⟩ := symmetry_inv lt
  have written : ∀ value : Fin 10, (toString value.val).toList = [Nat.digitChar value] ∧
      (Nat.digitChar value).isDigit = true ∧ encode 0 (Nat.digitChar value) = symmetry value := by
    decide
  obtain ⟨text, isDigit, encoded⟩ := written ⟨_, checkLt⟩
  refine ⟨_, isDigit, text, ?_⟩
  rw [encoded, ← product]
  exact undoes

theorem not_valid_of_weigh_ne {other : List Char} (areDigits : ∀ char ∈ digits, char.isDigit = true)
    (otherDigits : ∀ char ∈ other, char.isDigit = true)
    (differs : weigh encode 0 other.reverse ≠ weigh encode 0 digits.reverse)
    (valid : isValidVerhoeff digits = true) : isValidVerhoeff other = false := by
  rw [← Bool.not_eq_true]
  intro also
  have unit := (isValidVerhoeff_iff areDigits).mp valid
  have otherUnit := (isValidVerhoeff_iff otherDigits).mp also
  exact differs (otherUnit.trans unit.symm)

end Digits

/-- **The checksum detects errors.** Digits with their check digit are valid, and no valid number
stays valid if one digit becomes another one, or two adjacent different digits change places. -/
theorem verhoeff_detects {digits : List Char} (areDigits : ∀ char ∈ digits, char.isDigit = true) :
    isValidVerhoeff (digits ++ (toString (verhoeffCheckDigit digits)).toList) = true ∧
      (isValidVerhoeff digits = true →
        (∀ before old after new, digits = before ++ old :: after → new.isDigit = true → new ≠ old →
          isValidVerhoeff (before ++ new :: after) = false) ∧
        ∀ before first second after, digits = before ++ first :: second :: after →
          first ≠ second → isValidVerhoeff (before ++ second :: first :: after) = false) := by
  refine ⟨?_, fun valid => ⟨?_, ?_⟩⟩
  · obtain ⟨check, isDigit, text, unit⟩ := encode_checkDigit areDigits
    have all : ∀ char ∈ digits ++ [check], char.isDigit = true := by
      simpa [or_imp, forall_and, isDigit] using areDigits
    rw [text, isValidVerhoeff_iff all, List.reverse_append]
    exact unit
  · rintro before old after new rfl newDigit differs
    have others : ∀ char ∈ before ++ new :: after, char.isDigit = true := by
      intro char member
      rcases List.mem_append.mp member with early | late
      · exact areDigits char (List.mem_append_left _ early)
      · rcases List.mem_cons.mp late with rfl | later
        · exact newDigit
        · exact areDigits char (List.mem_append_right _ (List.mem_cons_of_mem _ later))
    refine not_valid_of_weigh_ne areDigits others ?_ valid
    have oldDigit := areDigits old (List.mem_append_right _ List.mem_cons_self)
    simp only [List.reverse_append, List.reverse_cons, List.append_assoc, List.singleton_append]
    exact weigh_change_ne (encode_ne oldDigit newDigit differs)
  · rintro before first second after rfl differs
    have perm : (before ++ second :: first :: after).Perm (before ++ first :: second :: after) :=
      (List.Perm.swap first second after).append_left before
    have others : ∀ char ∈ before ++ second :: first :: after, char.isDigit = true :=
      fun char member => areDigits char (perm.mem_iff.mp member)
    refine not_valid_of_weigh_ne areDigits others ?_ valid
    have firstDigit := areDigits first (List.mem_append_right _ List.mem_cons_self)
    have secondDigit := areDigits second
      (List.mem_append_right _ (List.mem_cons_of_mem _ List.mem_cons_self))
    simp only [List.reverse_append, List.reverse_cons, List.append_assoc, List.cons_append,
      List.nil_append]
    exact weigh_swap_ne (encode_tells _ secondDigit firstDigit differs.symm)

/-- The checksum of 236, with the check digit 3. -/
theorem verhoeff_detects_example :
    isValidVerhoeff ("236".toList ++ (toString (verhoeffCheckDigit "236".toList)).toList) = true ∧
      isValidVerhoeff "2463".toList = false ∧ isValidVerhoeff "2633".toList = false := by
  have valid := (@verhoeff_detects "236".toList (by simp)).1
  have detects := (@verhoeff_detects "2363".toList (by simp)).2 valid
  refine ⟨valid, ?_, ?_⟩
  · exact detects.1 ['2'] '3' ['6', '3'] '4' rfl (by decide) (by decide)
  · exact detects.2 ['2'] '3' '6' ['3'] rfl (by decide)

end OpenEstate.CustomFields
