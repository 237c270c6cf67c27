/-
**Decimal digits.**

A text of digits has a value, which determines a text of a given length. A number is written with
zeros in front of it where a width asks for them.

* `ofDigitChars_lt`: the value of some digits is below the power of ten;
* `eq_of_ofDigitChars_eq`: texts of one length with one value are one;
* `padded_ofDigitChars`: a text of digits is its value, written with as many digits.
-/

import Mathlib.Algebra.Order.Field.Power
import Mathlib.Data.Char
import OpenEstate.Runtime.Text

namespace Runtime

/-! ### The value of digits -/

section Value

variable {chars : List Char}

theorem ofDigitChars_concat (front : List Char) (last : Char) :
    Nat.ofDigitChars 10 (front ++ [last]) 0 =
      10 * Nat.ofDigitChars 10 front 0 + (last.toNat - 48) := by
  rw [Nat.ofDigitChars_append, Nat.ofDigitChars_cons, Nat.ofDigitChars_nil]
  rfl

theorem ofDigitChars_lt (digits : ∀ char ∈ chars, char.isDigit = true) :
    Nat.ofDigitChars 10 chars 0 < 10 ^ chars.length := by
  induction chars using List.reverseRecOn with
  | nil => exact Nat.one_pos
  | append_singleton front last ih =>
    have below := ih fun char member => digits char (List.mem_append_left _ member)
    have digit := toNat_sub_lt_ten (digits last (by simp))
    rw [ofDigitChars_concat, List.length_append, List.length_singleton, Nat.pow_succ]
    omega

end Value

theorem eq_of_ofDigitChars_eq {first second : List Char}
    (digits : ∀ char ∈ first, char.isDigit = true)
    (others : ∀ char ∈ second, char.isDigit = true) (length : first.length = second.length)
    (same : Nat.ofDigitChars 10 first 0 = Nat.ofDigitChars 10 second 0) : first = second := by
  induction first using List.reverseRecOn generalizing second with
  | nil => exact (List.eq_nil_of_length_eq_zero length.symm).symm
  | append_singleton front last ih =>
    rcases List.eq_nil_or_concat' second with rfl | ⟨start, other, rfl⟩
    · simp at length
    · rw [ofDigitChars_concat, ofDigitChars_concat] at same
      have lastDigit := digits last (by simp)
      have otherDigit := others other (by simp)
      have bound := toNat_of_isDigit lastDigit
      have otherBound := toNat_of_isDigit otherDigit
      have fronts : front = start :=
        ih (fun char member => digits char (List.mem_append_left _ member))
          (fun char member => others char (List.mem_append_left _ member))
          (by simpa using length) (by omega)
      have lasts : last = other := Char.toNat_inj.mp (by omega)
      rw [fronts, lasts]

/-! ### Numbers with zeros in front -/

def padded (width number : Nat) : List Char := (Nat.toDigits 10 number).leftpad width '0'

section Padded

variable {width number other : Nat}

theorem isDigit_padded : ∀ char ∈ padded width number, char.isDigit = true := by
  intro char member
  rw [padded, List.leftpad, List.mem_append] at member
  rcases member with zero | digit
  · rw [List.eq_of_mem_replicate zero]
    decide
  · exact Nat.isDigit_of_mem_toDigits (by decide) (by decide) digit

@[simp] theorem ofDigitChars_padded : Nat.ofDigitChars 10 (padded width number) 0 = number := by
  rw [padded, List.leftpad, Nat.ofDigitChars_append, Nat.ofDigitChars_replicate_zero, Nat.mul_zero,
    Nat.ofDigitChars_ten_toDigits]

theorem length_padded (some_ : 0 < width) (fits : number < 10 ^ width) :
    (padded width number).length = width := by
  rw [padded, List.length_leftpad, Nat.max_eq_left]
  exact (Nat.length_toDigits_le_iff (by decide) some_).mpr fits

theorem le_length_padded : width ≤ (padded width number).length := by
  rw [padded, List.length_leftpad]
  exact Nat.le_max_left _ _

theorem padded_ofDigitChars {chars : List Char} (some_ : chars ≠ [])
    (digits : ∀ char ∈ chars, char.isDigit = true) :
    padded chars.length (Nat.ofDigitChars 10 chars 0) = chars :=
  eq_of_ofDigitChars_eq isDigit_padded digits
    (length_padded (List.length_pos_iff.mpr some_) (ofDigitChars_lt digits)) ofDigitChars_padded

end Padded

end Runtime
