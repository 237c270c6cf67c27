/-
**Check digits over a group.**

The letters of a word are encoded in a group, each one depending on its place, and multiplied. A word
is valid if the product is the unit.

* `weigh` is the product of a word whose first letter stands at a place;
* `weigh_change_ne`: another letter at one place makes another product;
* `weigh_swap_ne`: so do two letters that change places, if every two letters that follow each other
  are told from the same two the other way round.
-/

import Mathlib.Algebra.Group.Basic

namespace Coding

variable {G A : Type} [Group G]

def weigh (encode : Nat → A → G) : Nat → List A → G
  | _, [] => 1
  | place, letter :: rest => encode place letter * weigh encode (place + 1) rest

/-- Two letters that follow each other are told from the same two the other way round. -/
def TellsOrder (encode : Nat → A → G) (place : Nat) (first second : A) : Prop :=
  encode place first * encode (place + 1) second ≠ encode place second * encode (place + 1) first

variable {encode : Nat → A → G} {place : Nat}

theorem weigh_append (place : Nat) (before after : List A) :
    weigh encode place (before ++ after) =
      weigh encode place before * weigh encode (place + before.length) after := by
  induction before generalizing place with
  | nil => simp [weigh]
  | cons letter rest ih =>
    have shifted : place + 1 + rest.length = place + (letter :: rest).length := by
      rw [List.length_cons]
      omega
    rw [List.cons_append, weigh, weigh, ih, shifted, mul_assoc]

theorem weigh_append_inj {before first second : List A} :
    weigh encode place (before ++ first) = weigh encode place (before ++ second) ↔
      weigh encode (place + before.length) first = weigh encode (place + before.length) second := by
  rw [weigh_append, weigh_append, mul_right_inj]

theorem weigh_change_ne {before after : List A} {old new : A}
    (differs : encode (place + before.length) new ≠ encode (place + before.length) old) :
    weigh encode place (before ++ new :: after) ≠ weigh encode place (before ++ old :: after) := by
  intro same
  have letters := weigh_append_inj.mp same
  rw [weigh, weigh, mul_left_inj] at letters
  exact differs letters

theorem weigh_swap_ne {before after : List A} {first second : A}
    (tells : TellsOrder encode (place + before.length) first second) :
    weigh encode place (before ++ second :: first :: after) ≠
      weigh encode place (before ++ first :: second :: after) := by
  intro same
  have letters := weigh_append_inj.mp same
  rw [weigh, weigh, weigh, weigh, ← mul_assoc, ← mul_assoc, mul_left_inj] at letters
  exact tells letters.symm

end Coding
