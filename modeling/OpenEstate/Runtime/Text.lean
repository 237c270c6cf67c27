/-
**Texts.**

Texts are measured in UTF-16 code units and trimmed of white space and line terminators. `Number`
reads a number from a text: an empty one is zero, and one that is no literal is not a number; `BigInt`
reads an integer: an empty text is zero, and one that is no literal is refused.

* `numberOf_digits`: the number of a text of decimal digits is the double nearest to its value;
* `bigIntOf_digits`: the integer of decimal digits is their value.
-/

import Mathlib.Data.List.TakeWhile
import Mathlib.Data.Nat.Digits.Lemmas
import OpenEstate.Runtime.Double

namespace Runtime

/-! ### Length and trimming -/

def length (text : String) : Nat :=
  (text.toList.map fun char => if char.toNat < 0x10000 then 1 else 2).sum

def isSpace (char : Char) : Bool :=
  char.toNat ∈ [0x9, 0xA, 0xB, 0xC, 0xD, 0x20, 0xA0, 0x1680, 0x2000, 0x2001, 0x2002, 0x2003, 0x2004,
    0x2005, 0x2006, 0x2007, 0x2008, 0x2009, 0x200A, 0x2028, 0x2029, 0x202F, 0x205F, 0x3000, 0xFEFF]

def trimmed (chars : List Char) : List Char :=
  ((chars.dropWhile isSpace).reverse.dropWhile isSpace).reverse

def trim (text : String) : String := String.ofList (trimmed text.toList)

theorem length_append (first second : String) :
    length (first ++ second) = length first + length second := by
  rw [length, String.toList_append, List.map_append, List.sum_append]
  rfl

theorem length_le (text : String) : length text ≤ 2 * text.toList.length := by
  unfold length
  induction text.toList with
  | nil => exact le_refl 0
  | cons char rest ih =>
    rw [List.map_cons, List.sum_cons, List.length_cons]
    split <;> omega

theorem trimmed_of_forall_not {chars : List Char} (none_ : ∀ char ∈ chars, isSpace char = false) :
    trimmed chars = chars := by
  have kept : ∀ {list : List Char}, (∀ char ∈ list, isSpace char = false) →
      list.dropWhile isSpace = list := by
    intro list none_
    cases list with
    | nil => rfl
    | cons first rest =>
      rw [List.dropWhile_cons, none_ first List.mem_cons_self]
      rfl
  unfold trimmed
  rw [kept none_, kept fun char member => none_ char (List.mem_reverse.mp member),
    List.reverse_reverse]

/-! ### Numbers -/

def digitsValue (base : Nat) (chars : List Char) : Option Nat :=
  chars.foldlM (fun value char => do
    let digit ← if char.isDigit then some (char.toNat - 48)
      else if 97 ≤ char.toLower.toNat ∧ char.toLower.toNat < 87 + base then
        some (char.toLower.toNat - 87)
      else none
    if digit < base then some (value * base + digit) else none) 0

def exponentValue : List Char → Option ℤ
  | [] => some 0
  | mark :: rest =>
    if mark ∈ ['e', 'E'] then
      match rest with
      | [] | ['+'] | ['-'] => none
      | '-' :: digits => (digitsValue 10 digits).map fun value => -(value : ℤ)
      | '+' :: digits => (digitsValue 10 digits).map Nat.cast
      | digits => (digitsValue 10 digits).map Nat.cast
    else none

/-- A decimal literal without a sign: digits, a fraction and an exponent, of which digits or a
fraction must be there. -/
def decimalLiteral (chars : List Char) : Number :=
  let whole := chars.takeWhile Char.isDigit
  let after := chars.dropWhile Char.isDigit
  let fraction := if after.head? = some '.' then after.tail.takeWhile Char.isDigit else []
  let rest := if after.head? = some '.' then after.tail.dropWhile Char.isDigit else after
  if whole = [] ∧ fraction = [] then .nan
  else
    match digitsValue 10 (whole ++ fraction), exponentValue rest with
    | some value, some exponent => toNumber (value * 10 ^ (exponent - fraction.length))
    | _, _ => .nan

def unsignedLiteral (chars : List Char) : Number :=
  if chars = "Infinity".toList then .infinite false else decimalLiteral chars

def radixLiteral (mark : Char) (digits : List Char) : Number :=
  let base := if mark ∈ ['x', 'X'] then 16 else if mark ∈ ['o', 'O'] then 8 else 2
  if digits = [] then .nan
  else
    match digitsValue base digits with
    | some value => toNumber value
    | none => .nan

def numberOf (text : String) : Number :=
  match trimmed text.toList with
  | [] => .finite 0
  | '+' :: rest => unsignedLiteral rest
  | '-' :: rest => (unsignedLiteral rest).neg
  | chars =>
    if chars.head? = some '0' ∧ chars.tail.head?.any (· ∈ ['x', 'X', 'o', 'O', 'b', 'B']) then
      radixLiteral (chars.getD 1 ' ') (chars.drop 2)
    else unsignedLiteral chars

theorem numberOf_empty : numberOf "" = .finite 0 := rfl

/-! ### Decimal digits -/

section Digits

variable {chars : List Char}

theorem toNat_of_isDigit {char : Char} (digit : char.isDigit = true) :
    48 ≤ char.toNat ∧ char.toNat ≤ 57 :=
  Char.isDigit_iff_toNat.mp digit

theorem toNat_sub_lt_ten {char : Char} (digit : char.isDigit = true) : char.toNat - 48 < 10 := by
  have bounds := toNat_of_isDigit digit
  omega

theorem digitsValue_of_isDigit (digits : ∀ char ∈ chars, char.isDigit = true) :
    digitsValue 10 chars = some (Nat.ofDigitChars 10 chars 0) := by
  unfold digitsValue
  generalize 0 = value
  induction chars generalizing value with
  | nil => rfl
  | cons first rest ih =>
    obtain ⟨digit, others⟩ := List.forall_mem_cons.mp digits
    rw [List.foldlM_cons, Nat.ofDigitChars_cons, ← ih others]
    simp [digit, toNat_sub_lt_ten digit, Nat.mul_comm]

theorem isSpace_of_isDigit {char : Char} (digit : char.isDigit = true) : isSpace char = false := by
  have bounds := toNat_of_isDigit digit
  simp only [isSpace, List.mem_cons, List.not_mem_nil, or_false, decide_eq_false_iff_not]
  omega

theorem unsignedLiteral_of_isDigit (some_ : chars ≠ [])
    (digits : ∀ char ∈ chars, char.isDigit = true) :
    unsignedLiteral chars = toNumber (Nat.ofDigitChars 10 chars 0 : ℕ) := by
  have taken : chars.takeWhile Char.isDigit = chars := List.takeWhile_eq_self_iff.mpr digits
  have dropped : chars.dropWhile Char.isDigit = [] := List.dropWhile_eq_nil_iff.mpr digits
  have named : chars ≠ "Infinity".toList := by
    rintro rfl
    exact absurd (digits 'I' (by decide)) (by decide)
  rw [unsignedLiteral, if_neg named, decimalLiteral]
  simp [taken, dropped, some_, digitsValue_of_isDigit digits, exponentValue]

theorem numberOf_of_isDigit {text : String} (some_ : text.toList ≠ [])
    (digits : ∀ char ∈ text.toList, char.isDigit = true) :
    numberOf text = toNumber (Nat.ofDigitChars 10 text.toList 0 : ℕ) := by
  have same : trimmed text.toList = text.toList :=
    trimmed_of_forall_not fun char member => isSpace_of_isDigit (digits char member)
  have literal := unsignedLiteral_of_isDigit some_ digits
  unfold numberOf
  rw [same]
  generalize text.toList = chars at some_ digits literal
  cases chars with
  | nil => exact absurd rfl some_
  | cons first rest =>
    have digit := digits first List.mem_cons_self
    have second : (rest.head?.any fun char => char ∈ ['x', 'X', 'o', 'O', 'b', 'B']) = false := by
      cases rest with
      | nil => rfl
      | cons second _ =>
        have digit := digits second (List.mem_cons_of_mem _ List.mem_cons_self)
        show decide (second ∈ ['x', 'X', 'o', 'O', 'b', 'B']) = false
        rw [decide_eq_false_iff_not]
        intro member
        simp only [List.mem_cons, List.not_mem_nil, or_false] at member
        rcases member with rfl | rfl | rfl | rfl | rfl | rfl <;> cases digit
    split
    · rename_i none_
      cases none_
    · rename_i signed
      cases signed
      cases digit
    · rename_i signed
      cases signed
      cases digit
    · rw [if_neg fun base => ?_, literal]
      have base : (rest.head?.any fun char => char ∈ ['x', 'X', 'o', 'O', 'b', 'B']) = true := base.2
      rw [second] at base
      cases base

theorem numberOf_digits (value : Nat) : numberOf (toString value) = toNumber (value : ℕ) := by
  have chars : (toString value).toList = Nat.toDigits 10 value := by
    show value.repr.toList = _
    rw [Nat.toList_repr]
  have read := @numberOf_of_isDigit (toString value) (by rw [chars]; exact Nat.toDigits_ne_nil)
    (by rw [chars]; exact fun char member =>
      Nat.isDigit_of_mem_toDigits (by decide) (by decide) member)
  rwa [chars, Nat.ofDigitChars_ten_toDigits] at read

end Digits

/-! ### Integers -/

def integerLiteral (base : Nat) (chars : List Char) : Option ℤ :=
  if chars = [] then none else (digitsValue base chars).map Nat.cast

def bigIntOf (chars : List Char) : Option ℤ :=
  match trimmed chars with
  | [] => some 0
  | '+' :: rest => integerLiteral 10 rest
  | '-' :: rest => (integerLiteral 10 rest).map fun value => -value
  | chars =>
    if chars.head? = some '0' ∧ chars.tail.head?.any (· ∈ ['x', 'X']) then
      integerLiteral 16 (chars.drop 2)
    else if chars.head? = some '0' ∧ chars.tail.head?.any (· ∈ ['o', 'O']) then
      integerLiteral 8 (chars.drop 2)
    else if chars.head? = some '0' ∧ chars.tail.head?.any (· ∈ ['b', 'B']) then
      integerLiteral 2 (chars.drop 2)
    else integerLiteral 10 chars

theorem bigIntOf_digits {chars : List Char} (some_ : chars ≠ [])
    (digits : ∀ char ∈ chars, char.isDigit = true) :
    bigIntOf chars = some ((Nat.ofDigitChars 10 chars 0 : ℕ) : ℤ) := by
  have same : trimmed chars = chars :=
    trimmed_of_forall_not fun char member => isSpace_of_isDigit (digits char member)
  have literal : integerLiteral 10 chars = some ((Nat.ofDigitChars 10 chars 0 : ℕ) : ℤ) := by
    rw [integerLiteral, if_neg some_, digitsValue_of_isDigit digits, Option.map_some]
  unfold bigIntOf
  rw [same]
  cases chars with
  | nil => exact absurd rfl some_
  | cons first rest =>
    have digit := digits first List.mem_cons_self
    have second : ∀ marks : List Char, (∀ mark ∈ marks, mark.isDigit = false) →
        (rest.head?.any fun char => char ∈ marks) = false := by
      intro marks noDigits
      cases rest with
      | nil => rfl
      | cons second _ =>
        have digit := digits second (List.mem_cons_of_mem _ List.mem_cons_self)
        show decide (second ∈ marks) = false
        rw [decide_eq_false_iff_not]
        intro member
        rw [noDigits second member] at digit
        cases digit
    split
    · rename_i nothing
      cases nothing
    · rename_i signed
      cases signed
      cases digit
    · rename_i signed
      cases signed
      cases digit
    · simp only [List.tail_cons, second ['x', 'X'] (by simp), second ['o', 'O'] (by simp),
        second ['b', 'B'] (by simp), Bool.false_eq_true, and_false, if_false, literal]

end Runtime
