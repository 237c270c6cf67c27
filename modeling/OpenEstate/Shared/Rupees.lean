/-
**Amounts, as they are shown.**

An amount is shown in rupees, with its digits in groups for lakhs and crores, and with two digits of
paise.

* `grouped_formatWithLakhCrore`: the commas stand before the last three digits and before every two
  of the others;
* `decimalOf_formatInr`: without the sign of the currency and the commas, what is shown is the amount;
* `formatInr_shows`: so what is shown determines the amount.
-/

import OpenEstate.Runtime.Digits
import OpenEstate.Shared.FinancialYear

namespace OpenEstate

open Runtime

/-- The groups of two that the loop takes from the end of the digits, which come in reverse. -/
def groupsOfTwo : List Char → List (List Char)
  | [] => []
  | [digit] => [[digit]]
  | digit :: next :: rest => groupsOfTwo rest ++ [[next, digit]]

def formatWithLakhCrore (n : Nat) : String :=
  let s := (toString n).toList
  if s.length ≤ 3 then String.ofList s
  else
    let last3 := s.drop (s.length - 3)
    let rest := s.take (s.length - 3)
    String.ofList ([','].intercalate (groupsOfTwo rest.reverse ++ [last3]))

def formatInr (paise : Int) : String :=
  let abs := paise.natAbs
  (if paise < 0 then "-" else "") ++ "₹" ++ formatWithLakhCrore (abs / 100) ++ "." ++
    padStart (toString (abs % 100)) 2 '0'

example : formatInr 123456789 = "₹12,34,567.89" ∧ formatInr (-5) = "-₹0.05" := by decide

/-! ### What an amount should look like -/

/-- Digits in groups of two, of which the first may have one. -/
inductive InPairs : List Char → Prop
  | one {digit : Char} (isDigit : digit.isDigit = true) : InPairs [digit]
  | two {first second : Char} (isDigit : first.isDigit = true)
      (isDigit' : second.isDigit = true) : InPairs [first, second]
  | more {front : List Char} {first second : Char} (pairs : InPairs front)
      (isDigit : first.isDigit = true) (isDigit' : second.isDigit = true) :
      InPairs (front ++ [',', first, second])

/-- At most three digits, or three digits behind a comma and the others in groups of two. -/
def Grouped (chars : List Char) : Prop :=
  (chars ≠ [] ∧ chars.length ≤ 3 ∧ ∀ char ∈ chars, char.isDigit = true) ∨
    ∃ front last, chars = front ++ ',' :: last ∧ InPairs front ∧ last.length = 3 ∧
      ∀ char ∈ last, char.isDigit = true

/-- The number that is written by digits, a point and digits. -/
def unsignedDecimal (chars : List Char) : Option ℚ :=
  let whole := chars.takeWhile Char.isDigit
  match chars.dropWhile Char.isDigit with
  | '.' :: fraction =>
    if whole = [] ∨ fraction = [] then none
    else (digitsValue 10 (whole ++ fraction)).map fun value : ℕ => (value : ℚ) / 10 ^ fraction.length
  | _ => none

def decimalOf : List Char → Option ℚ
  | '-' :: rest => (unsignedDecimal rest).map (- ·)
  | chars => unsignedDecimal chars

def noSign (char : Char) : Bool := char ≠ '₹' ∧ char ≠ ','

def withoutSigns (text : String) : List Char := text.toList.filter noSign

/-! ### The groups -/

theorem isDigit_toString {n : Nat} : ∀ char ∈ (toString n).toList, char.isDigit = true := by
  intro char member
  have member : char ∈ n.repr.toList := member
  rw [Nat.toList_repr] at member
  exact Nat.isDigit_of_mem_toDigits (by decide) (by decide) member

theorem intercalate_concat {groups : List (List Char)} (some_ : groups ≠ []) (last : List Char) :
    [','].intercalate (groups ++ [last]) = [','].intercalate groups ++ ',' :: last := by
  induction groups with
  | nil => exact absurd rfl some_
  | cons first rest ih =>
    cases rest with
    | nil => simp [List.intercalate_cons_cons]
    | cons second rest =>
      rw [List.cons_append, List.cons_append, List.intercalate_cons_cons,
        List.intercalate_cons_cons, ← List.cons_append, ih (List.cons_ne_nil _ _),
        List.append_assoc, List.append_assoc, List.append_assoc]

theorem groupsOfTwo_ne_nil {reversed : List Char} (some_ : reversed ≠ []) :
    groupsOfTwo reversed ≠ [] := by
  fun_cases groupsOfTwo reversed with
  | case1 => exact absurd rfl some_
  | case2 digit => exact List.cons_ne_nil _ _
  | case3 digit next rest => exact List.append_ne_nil_of_right_ne_nil _ (List.cons_ne_nil _ _)

theorem inPairs_groupsOfTwo {reversed : List Char} (some_ : reversed ≠ [])
    (digits : ∀ char ∈ reversed, char.isDigit = true) :
    InPairs ([','].intercalate (groupsOfTwo reversed)) := by
  fun_induction groupsOfTwo reversed with
  | case1 => exact absurd rfl some_
  | case2 digit => exact .one (digits digit List.mem_cons_self)
  | case3 digit next rest ih =>
    obtain ⟨isDigit, digits⟩ := List.forall_mem_cons.mp digits
    obtain ⟨isDigit', digits⟩ := List.forall_mem_cons.mp digits
    rcases eq_or_ne rest [] with rfl | more
    · exact .two isDigit' isDigit
    · rw [intercalate_concat (groupsOfTwo_ne_nil more)]
      exact .more (ih more digits) isDigit' isDigit

theorem grouped_formatWithLakhCrore (n : Nat) : Grouped (formatWithLakhCrore n).toList := by
  have some_ : (toString n).toList ≠ [] := by
    show n.repr.toList ≠ []
    rw [Nat.toList_repr]
    exact Nat.toDigits_ne_nil
  have digits := @isDigit_toString n
  rw [formatWithLakhCrore]
  dsimp only
  split_ifs with short
  · rw [String.toList_ofList]
    exact .inl ⟨some_, short, digits⟩
  · generalize (toString n).toList = s at *
    have before : (s.take (s.length - 3)).reverse ≠ [] := by
      rw [ne_eq, List.reverse_eq_nil_iff, ← List.length_eq_zero_iff, List.length_take]
      omega
    rw [String.toList_ofList, intercalate_concat (groupsOfTwo_ne_nil before)]
    refine .inr ⟨_, _, rfl, inPairs_groupsOfTwo before fun char member => ?_, ?_, fun char member => ?_⟩
    · exact digits char (List.mem_of_mem_take (List.mem_reverse.mp member))
    · rw [List.length_drop]
      omega
    · exact digits char (List.mem_of_mem_drop member)

/-! ### The value -/

theorem flatten_groupsOfTwo (reversed : List Char) :
    (groupsOfTwo reversed).flatten = reversed.reverse := by
  fun_induction groupsOfTwo reversed with
  | case1 => rfl
  | case2 digit => rfl
  | case3 digit next rest ih => simp [ih]

theorem filter_intercalate {keep : Char → Bool} (comma : keep ',' = false)
    (groups : List (List Char)) :
    ([','].intercalate groups).filter keep = groups.flatten.filter keep := by
  induction groups with
  | nil => rfl
  | cons first rest ih =>
    cases rest with
    | nil => simp [List.intercalate]
    | cons second rest =>
      have nothing : [','].filter keep = [] := by simp [comma]
      rw [List.intercalate_cons_cons, List.filter_append, List.filter_append, ih, nothing,
        List.append_nil, ← List.filter_append, ← List.flatten_cons]

theorem filter_formatWithLakhCrore {keep : Char → Bool} (comma : keep ',' = false)
    (kept : ∀ char : Char, char.isDigit = true → keep char = true) (n : Nat) :
    (formatWithLakhCrore n).toList.filter keep = Nat.toDigits 10 n := by
  have digits : (toString n).toList.filter keep = Nat.toDigits 10 n := by
    rw [List.filter_eq_self.mpr fun char member => kept char (isDigit_toString char member)]
    exact Nat.toList_repr
  rw [formatWithLakhCrore]
  dsimp only
  split_ifs with short
  · rw [String.toList_ofList, digits]
  · rw [String.toList_ofList, filter_intercalate comma, List.flatten_append, flatten_groupsOfTwo,
      List.reverse_reverse, List.flatten_singleton, List.take_append_drop, digits]

theorem toList_paise (paise : Nat) :
    (padStart (toString paise) 2 '0').toList = padded 2 paise := by
  show (padStart paise.repr 2 '0').toList = _
  rw [padStart, String.toList_ofList, Nat.toList_repr, padded]

theorem noSign_of_isDigit (char : Char) (digit : char.isDigit = true) : noSign char = true := by
  rw [noSign, decide_eq_true_eq]
  constructor <;> rintro rfl <;> exact absurd digit (by decide)

theorem withoutSigns_formatInr (paise : Int) :
    withoutSigns (formatInr paise) = (if paise < 0 then ['-'] else []) ++
      (Nat.toDigits 10 (paise.natAbs / 100) ++ '.' :: padded 2 (paise.natAbs % 100)) := by
  have fraction : (padded 2 (paise.natAbs % 100)).filter noSign = padded 2 (paise.natAbs % 100) :=
    List.filter_eq_self.mpr fun char member => noSign_of_isDigit char (isDigit_padded char member)
  have sign : (if paise < 0 then "-" else "" : String).toList.filter noSign =
      if paise < 0 then ['-'] else [] := by
    split_ifs <;> rfl
  have rupee : ("₹" : String).toList.filter noSign = [] := rfl
  have point : ("." : String).toList.filter noSign = ['.'] := rfl
  rw [withoutSigns, formatInr, String.toList_append, String.toList_append, String.toList_append,
    String.toList_append, List.filter_append, List.filter_append, List.filter_append,
    List.filter_append, sign, rupee, point, filter_formatWithLakhCrore (by decide) noSign_of_isDigit,
    toList_paise, fraction, List.append_nil, List.append_assoc, List.append_assoc,
    List.singleton_append]

theorem unsignedDecimal_digits {whole fraction : List Char} (some_ : whole ≠ [])
    (more : fraction ≠ []) (digits : ∀ char ∈ whole ++ fraction, char.isDigit = true) :
    unsignedDecimal (whole ++ '.' :: fraction) =
      some ((Nat.ofDigitChars 10 (whole ++ fraction) 0 : ℕ) / (10 : ℚ) ^ fraction.length) := by
  have front : ∀ char ∈ whole, char.isDigit = true :=
    fun char member => digits char (List.mem_append_left _ member)
  have taken : (whole ++ '.' :: fraction).takeWhile Char.isDigit = whole := by
    rw [List.takeWhile_append_of_pos front, List.takeWhile_cons_of_neg (by decide), List.append_nil]
  have dropped : (whole ++ '.' :: fraction).dropWhile Char.isDigit = '.' :: fraction := by
    rw [List.dropWhile_append_of_pos front, List.dropWhile_cons_of_neg (by decide)]
  unfold unsignedDecimal
  rw [taken, dropped]
  show (if whole = [] ∨ fraction = [] then none else (digitsValue 10 (whole ++ fraction)).map
    fun value : ℕ => (value : ℚ) / 10 ^ fraction.length) = _
  rw [if_neg (by simp [some_, more]), digitsValue_of_isDigit digits, Option.map_some]

theorem decimalOf_formatInr (paise : Int) :
    decimalOf (withoutSigns (formatInr paise)) = some ((paise : ℚ) / 100) := by
  have some_ : Nat.toDigits 10 (paise.natAbs / 100) ≠ [] := Nat.toDigits_ne_nil
  have first : (Nat.toDigits 10 (paise.natAbs / 100)).head some_ ≠ '-' := by
    intro minus
    have digit := Nat.isDigit_of_mem_toDigits (by decide) (by decide) (List.head_mem some_)
    rw [minus] at digit
    cases digit
  have width : (padded 2 (paise.natAbs % 100)).length = 2 :=
    length_padded (by decide) (Nat.mod_lt _ (by decide))
  have value : Nat.ofDigitChars 10 (Nat.toDigits 10 (paise.natAbs / 100) ++
      padded 2 (paise.natAbs % 100)) 0 = paise.natAbs := by
    rw [Nat.ofDigitChars_append, Nat.ofDigitChars_eq_ofDigitChars_zero, ofDigitChars_padded,
      Nat.ofDigitChars_ten_toDigits, width]
    omega
  have read := unsignedDecimal_digits some_ (List.ne_nil_of_length_pos (width ▸ Nat.two_pos))
    (List.forall_mem_append.mpr
      ⟨fun _ => Nat.isDigit_of_mem_toDigits (by decide) (by decide), isDigit_padded⟩)
  rw [value, width] at read
  rw [withoutSigns_formatInr]
  generalize Nat.toDigits 10 (paise.natAbs / 100) = digits at some_ first read ⊢
  split_ifs with negative
  · have magnitude : (paise.natAbs : ℤ) = -paise := by omega
    have magnitude : ((paise.natAbs : ℕ) : ℚ) = -paise := by
      rw [← Int.cast_natCast, magnitude, Int.cast_neg]
    rw [List.singleton_append, decimalOf, read, Option.map_some, magnitude]
    norm_num [neg_div]
  · have magnitude : (paise.natAbs : ℤ) = paise := by omega
    have magnitude : ((paise.natAbs : ℕ) : ℚ) = paise := by rw [← Int.cast_natCast, magnitude]
    cases digits with
    | nil => exact absurd rfl some_
    | cons digit rest =>
      have unsigned : decimalOf (digit :: rest ++ '.' :: padded 2 (paise.natAbs % 100)) =
          unsignedDecimal (digit :: rest ++ '.' :: padded 2 (paise.natAbs % 100)) := by
        unfold decimalOf
        split
        · rename_i same
          exact absurd (List.cons.inj same).1 first
        · rfl
      rw [List.nil_append, unsigned, read, magnitude]
      norm_num

/-- **What is shown determines the amount.** -/
theorem formatInr_shows :
    (∀ paise : Int, decimalOf (withoutSigns (formatInr paise)) = some ((paise : ℚ) / 100)) ∧
      (∀ paise : Int, ∃ sign rupees fraction, formatInr paise =
          sign ++ "₹" ++ rupees ++ "." ++ fraction ∧
        (sign = "" ∨ sign = "-") ∧ Grouped rupees.toList ∧ fraction.toList.length = 2) ∧
      Function.Injective formatInr := by
  refine ⟨decimalOf_formatInr, fun paise => ?_, fun paise other same => ?_⟩
  · refine ⟨_, _, _, rfl, ?_, grouped_formatWithLakhCrore _, ?_⟩
    · split_ifs
      · exact .inr rfl
      · exact .inl rfl
    · rw [toList_paise]
      exact length_padded (by decide) (Nat.mod_lt _ (by decide))
  · have shown := decimalOf_formatInr paise
    rw [same, decimalOf_formatInr] at shown
    have shown : (other : ℚ) = paise := (div_left_inj' (by norm_num)).mp (Option.some.inj shown)
    exact_mod_cast shown.symm

end OpenEstate
