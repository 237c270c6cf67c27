/-
**Phone numbers.**

A number is compared by its ten digits, if those are the digits of an Indian mobile. A text that names a
country code before its digits denotes the line of that code; without one it denotes a mobile or
nothing that is known.

* `IndianMobile` is a mobile, `lineOf` the line that a text denotes;
* `normalizePhone_eq`: a text becomes a mobile by its digits, or is kept without the white space
  around it;
* `normalizePhone_right_iff`: what is right of a number is so exactly if it is not misread, which
  numbers are that have ten digits, or ten behind a zero, after a plus sign.
-/

import Mathlib.Data.List.DropRight
import OpenEstate.Presales.Applicant

namespace OpenEstate.Presales

def isMobile (digits : List Char) : Bool :=
  digits.length = 10 && digits.head?.any ['6', '7', '8', '9'].contains

structure IndianMobile where
  digits : List Char
  areDigits : ∀ char ∈ digits, char.isDigit = true
  mobile : isMobile digits = true

def IndianMobile.text (mobile : IndianMobile) : String := String.ofList mobile.digits

def digitsOf (text : String) : List Char := text.toList.filter Char.isDigit

def marksOf (text : String) : List Char := text.toList.filter fun char => char.isDigit || char == '+'

def hasCountryCode (text : String) : Bool := (marksOf text).head? = some '+'

def nationalDigits (digits : List Char) : Option (List Char) :=
  if isMobile digits then some digits
  else if digits.head? = some '0' ∧ isMobile digits.tail then some digits.tail
  else if digits.take 2 = ['9', '1'] ∧ isMobile (digits.drop 2) then some (digits.drop 2)
  else none

/-- A line, by its digits with those of its country, or a text that denotes none that is known. -/
inductive Line
  | international (digits : List Char)
  | unknown (text : String)
  deriving DecidableEq

def IndianMobile.line (mobile : IndianMobile) : Line := .international ('9' :: '1' :: mobile.digits)

def lineOf (text : String) : Line :=
  if hasCountryCode text then .international (digitsOf text)
  else
    match nationalDigits (digitsOf text) with
    | some digits => .international ('9' :: '1' :: digits)
    | none => .unknown (trim text)

/-- Whether a text has a country code, and so few digits after it that they pass for a mobile. -/
def Misread (text : String) : Prop :=
  hasCountryCode text = true ∧ (isMobile (digitsOf text) = true ∨
    (digitsOf text).head? = some '0' ∧ isMobile (digitsOf text).tail = true)

instance (text : String) : Decidable (Misread text) := inferInstanceAs (Decidable (_ ∧ _))

structure NormalizesRightly (text : String) : Prop where
  idempotent : normalizePhone (normalizePhone text) = normalizePhone text
  /-- Whatever stands between the digits, a mobile is found behind each of its prefixes. -/
  spelled : ∀ mobile : IndianMobile,
    ∀ code ∈ [[], ['0'], ['9', '1'], ['+', '9', '1']], marksOf text = code ++ mobile.digits →
      normalizePhone text = mobile.text
  foreign : hasCountryCode text = true → ¬['9', '1'] <+: digitsOf text →
    normalizePhone text = trim text
  sound : ∀ mobile : IndianMobile, normalizePhone text = mobile.text → lineOf text = mobile.line

/-! ### Digits and white space -/

section Trim

theorem isWhiteSpace_of_isDigit {char : Char} (digit : char.isDigit = true) :
    isWhiteSpace char = false := by
  have bounds : 48 ≤ char.toNat ∧ char.toNat ≤ 57 := Char.isDigit_iff_toNat.mp digit
  unfold isWhiteSpace
  generalize char.toNat = code at bounds
  simp
  omega

theorem toList_trim (text : String) :
    (trim text).toList = (text.toList.dropWhile isWhiteSpace).rdropWhile isWhiteSpace :=
  String.toList_ofList

theorem filter_trim {kept : Char → Bool} (keeps : ∀ char, kept char = true → isWhiteSpace char = false)
    (text : String) : (trim text).toList.filter kept = text.toList.filter kept := by
  have gone : ∀ spaces : List Char, (∀ char ∈ spaces, isWhiteSpace char = true) →
      spaces.filter kept = [] := by
    intro spaces all
    rw [List.filter_eq_nil_iff]
    intro char member isKept
    exact absurd (all char member) (by rw [keeps char isKept]; decide)
  have front := List.takeWhile_append_dropWhile (p := isWhiteSpace) (l := text.toList)
  have back := List.rdropWhile_append_rtakeWhile (p := isWhiteSpace)
    (l := text.toList.dropWhile isWhiteSpace)
  rw [toList_trim]
  conv_rhs => rw [← front, ← back]
  rw [List.filter_append, List.filter_append,
    gone _ fun char member => List.mem_takeWhile_imp member,
    gone _ fun char member => List.mem_rtakeWhile_imp member, List.nil_append, List.append_nil]

theorem digitsOf_trim (text : String) : digitsOf (trim text) = digitsOf text :=
  filter_trim (fun _ => isWhiteSpace_of_isDigit) text

theorem marksOf_trim (text : String) : marksOf (trim text) = marksOf text := by
  refine filter_trim (fun char mark => ?_) text
  rcases Bool.or_eq_true_iff.mp mark with digit | plus
  · exact isWhiteSpace_of_isDigit digit
  · rw [beq_iff_eq.mp plus]
    decide

theorem trim_trim (text : String) : trim (trim text) = trim text := by
  apply String.toList_injective
  rw [toList_trim, toList_trim]
  -- what is left begins with the first character that is no white space
  have first := List.dropWhile_eq_self_iff.mp (List.dropWhile_idempotent isWhiteSpace text.toList)
  generalize text.toList.dropWhile isWhiteSpace = chars at first
  have kept : (chars.rdropWhile isWhiteSpace).dropWhile isWhiteSpace =
      chars.rdropWhile isWhiteSpace := by
    refine List.dropWhile_eq_self_iff.mpr fun some_ => ?_
    have isPrefix := List.rdropWhile_prefix (p := isWhiteSpace) chars
    rw [isPrefix.getElem]
    exact first (lt_of_lt_of_le some_ isPrefix.length_le)
  rw [kept, List.rdropWhile_idempotent]

end Trim

/-! ### The normal form -/

variable {digits : List Char}

theorem length_of_isMobile (mobile : isMobile digits = true) :
    digits.length = 10 := by
  rw [isMobile, Bool.and_eq_true] at mobile
  exact of_decide_eq_true mobile.1

theorem normalizePhone_eq (text : String) :
    normalizePhone text = (nationalDigits (digitsOf text)).elim (trim text) String.ofList := by
  have digits : (trim text).toList.filter Char.isDigit = digitsOf text := digitsOf_trim text
  have decides : ∀ digits : List Char,
      (if digits.length = 10 ∧ digits.head?.any ['6', '7', '8', '9'].contains then
        String.ofList digits else trim text) =
      if isMobile digits then String.ofList digits else trim text := by
    intro digits
    simp [isMobile]
  unfold normalizePhone nationalDigits
  dsimp only
  rw [digits, decides]
  generalize digitsOf text = digits
  have zero : digits.take 1 = ['0'] ↔ digits.head? = some '0' := by
    cases digits <;> simp
  simp only [zero]
  generalize is : (if digits.length = 12 ∧ digits.take 2 = ['9', '1'] then digits.drop 2
    else if digits.length = 11 ∧ digits.head? = some '0' then digits.drop 1 else digits) = stripped
  by_cases bare : isMobile digits = true
  · have ten := length_of_isMobile bare
    rw [if_neg (by omega), if_neg (by omega)] at is
    rw [← is, if_pos bare, if_pos bare, Option.elim_some]
  · rw [if_neg bare]
    by_cases trunk : digits.head? = some '0' ∧ isMobile digits.tail = true
    · have ten := length_of_isMobile trunk.2
      rw [List.length_tail] at ten
      rw [if_neg (by omega), if_pos ⟨by omega, trunk.1⟩, List.drop_one] at is
      rw [← is, if_pos trunk, if_pos trunk.2, Option.elim_some]
    · rw [if_neg trunk]
      by_cases country : digits.take 2 = ['9', '1'] ∧ isMobile (digits.drop 2) = true
      · have ten := length_of_isMobile country.2
        rw [List.length_drop] at ten
        rw [if_pos ⟨by omega, country.1⟩] at is
        rw [← is, if_pos country, if_pos country.2, Option.elim_some]
      · rw [if_neg country, Option.elim_none]
        refine if_neg fun mobile => ?_
        rw [← is] at mobile
        split at mobile
        · rename_i long
          exact country ⟨long.2, mobile⟩
        · split at mobile
          · rename_i long
            exact trunk ⟨long.2, List.drop_one ▸ mobile⟩
          · exact bare mobile

theorem nationalDigits_of_isMobile (mobile : isMobile digits = true) :
    nationalDigits digits = some digits :=
  if_pos mobile

/-- Behind the zero of a trunk call, and behind the code of the country, the digits are not those of a
mobile themselves. -/
theorem nationalDigits_of_trunk (mobile : isMobile digits = true) :
    nationalDigits ('0' :: digits) = some digits := by
  have long : isMobile ('0' :: digits) ≠ true := fun other => by
    have ten := length_of_isMobile mobile
    have also := length_of_isMobile other
    rw [List.length_cons] at also
    omega
  rw [nationalDigits, if_neg long]
  exact if_pos ⟨rfl, mobile⟩

theorem nationalDigits_of_country (mobile : isMobile digits = true) :
    nationalDigits ('9' :: '1' :: digits) = some digits := by
  have long : isMobile ('9' :: '1' :: digits) ≠ true := fun other => by
    have ten := length_of_isMobile mobile
    have also := length_of_isMobile other
    rw [List.length_cons, List.length_cons] at also
    omega
  rw [nationalDigits, if_neg long, if_neg (by simp)]
  exact if_pos ⟨rfl, mobile⟩

theorem nationalDigits_eq_some {found : List Char} (is : nationalDigits digits = some found) :
    isMobile found = true ∧
      (digits = found ∨ digits = '0' :: found ∨ digits = '9' :: '1' :: found) := by
  unfold nationalDigits at is
  split at is
  · rename_i mobile
    cases is
    exact ⟨mobile, Or.inl rfl⟩
  · split at is
    · rename_i trunk
      cases is
      refine ⟨trunk.2, Or.inr (Or.inl ?_)⟩
      cases digits with
      | nil => cases trunk.1
      | cons first rest => rw [Option.some.inj trunk.1, List.tail_cons]
    · split at is
      · rename_i country
        cases is
        refine ⟨country.2, Or.inr (Or.inr ?_)⟩
        have whole := List.take_append_drop 2 digits
        rw [country.1] at whole
        exact whole.symm
      · cases is

theorem digitsOf_text (mobile : IndianMobile) : digitsOf mobile.text = mobile.digits := by
  rw [digitsOf, IndianMobile.text, String.toList_ofList]
  exact List.filter_eq_self.mpr mobile.areDigits

theorem normalizePhone_text (mobile : IndianMobile) : normalizePhone mobile.text = mobile.text := by
  rw [normalizePhone_eq, digitsOf_text, nationalDigits_of_isMobile mobile.mobile]
  rfl

theorem exists_mobile {text : String} {found : List Char}
    (is : nationalDigits (digitsOf text) = some found) :
    ∃ mobile : IndianMobile, mobile.digits = found ∧ normalizePhone text = mobile.text := by
  obtain ⟨mobile, among⟩ := nationalDigits_eq_some is
  have areDigits : ∀ char ∈ digitsOf text, char.isDigit = true :=
    fun char member => (List.mem_filter.mp member).2
  refine ⟨⟨found, fun char member => areDigits char ?_, mobile⟩, rfl,
    by rw [normalizePhone_eq, is]; rfl⟩
  rcases among with same | same | same <;> rw [same]
  · exact member
  · exact List.mem_cons_of_mem _ member
  · exact List.mem_cons_of_mem _ (List.mem_cons_of_mem _ member)

theorem normalizePhone_idempotent (text : String) :
    normalizePhone (normalizePhone text) = normalizePhone text := by
  cases found : nationalDigits (digitsOf text) with
  | none =>
    have kept : normalizePhone text = trim text := by rw [normalizePhone_eq, found]; rfl
    rw [kept, normalizePhone_eq, digitsOf_trim, found, trim_trim]
    rfl
  | some digits =>
    obtain ⟨mobile, _, is⟩ := exists_mobile found
    rw [is, normalizePhone_text]

/-! ### Marks -/

theorem digitsOf_eq (text : String) : digitsOf text = (marksOf text).filter Char.isDigit := by
  rw [digitsOf, marksOf, List.filter_filter]
  refine List.filter_congr fun char _ => ?_
  cases char.isDigit <;> rfl

theorem digitsOf_of_marks {text : String} {code : List Char}
    (areDigits : ∀ char ∈ digits, char.isDigit = true) (marks : marksOf text = code ++ digits) :
    digitsOf text = code.filter Char.isDigit ++ digits := by
  rw [digitsOf_eq, marks, List.filter_append, List.filter_eq_self.mpr areDigits]

theorem normalizePhone_of_spelling {text : String} {mobile : IndianMobile} {code : List Char}
    (known : code ∈ [[], ['0'], ['9', '1'], ['+', '9', '1']])
    (marks : marksOf text = code ++ mobile.digits) : normalizePhone text = mobile.text := by
  have digits := digitsOf_of_marks mobile.areDigits marks
  have found : nationalDigits (digitsOf text) = some mobile.digits := by
    rw [digits]
    simp only [List.mem_cons, List.not_mem_nil, or_false] at known
    rcases known with rfl | rfl | rfl | rfl
    · exact nationalDigits_of_isMobile mobile.mobile
    · exact nationalDigits_of_trunk mobile.mobile
    · exact nationalDigits_of_country mobile.mobile
    · exact nationalDigits_of_country mobile.mobile
  rw [normalizePhone_eq, found]
  rfl

/-! ### Lines -/

section Lines

variable {text : String}

theorem lineOf_trim (text : String) : lineOf (trim text) = lineOf text := by
  rw [lineOf, lineOf, hasCountryCode, hasCountryCode, marksOf_trim, digitsOf_trim, trim_trim]

theorem Misread.exists_mobile (misread : Misread text) :
    ∃ mobile : IndianMobile, normalizePhone text = mobile.text ∧ lineOf text ≠ mobile.line := by
  obtain ⟨code, passes⟩ := misread
  have found : ∃ digits, nationalDigits (digitsOf text) = some digits ∧
      digitsOf text ≠ '9' :: '1' :: digits := by
    rcases passes with bare | trunk
    · refine ⟨_, nationalDigits_of_isMobile bare, fun same => ?_⟩
      have length := congrArg List.length same
      rw [List.length_cons, List.length_cons] at length
      omega
    · cases digits : digitsOf text with
      | nil =>
        rw [digits] at trunk
        cases trunk.1
      | cons first rest =>
        rw [digits] at trunk
        cases Option.some.inj trunk.1
        exact ⟨rest, nationalDigits_of_trunk trunk.2, fun same => by cases same⟩
  obtain ⟨digits, found, differs⟩ := found
  obtain ⟨mobile, rfl, is⟩ := Presales.exists_mobile found
  refine ⟨mobile, is, ?_⟩
  rw [lineOf, if_pos code, IndianMobile.line]
  exact fun same => differs (Line.international.inj same)

/-- **A text that is not misread** is taken for no mobile but that on its line. -/
theorem lineOf_of_normalizePhone (right : ¬Misread text) {mobile : IndianMobile}
    (is : normalizePhone text = mobile.text) : lineOf text = mobile.line := by
  cases found : nationalDigits (digitsOf text) with
  | none =>
    rw [normalizePhone_eq, found] at is
    have same : trim text = mobile.text := is
    rw [← digitsOf_trim, same, digitsOf_text, nationalDigits_of_isMobile mobile.mobile] at found
    cases found
  | some digits =>
    rw [normalizePhone_eq, found] at is
    have same : digits = mobile.digits := String.ofList_injective is
    rw [lineOf, found, IndianMobile.line, ← same]
    split
    · rename_i code
      obtain ⟨passes, whole | whole | whole⟩ := nationalDigits_eq_some found
      · exact absurd ⟨code, Or.inl (whole ▸ passes)⟩ right
      · exact absurd ⟨code, Or.inr (by rw [whole]; exact ⟨rfl, passes⟩)⟩ right
      · rw [whole]
    · rfl

theorem normalizePhone_of_foreign (right : ¬Misread text) (code : hasCountryCode text = true)
    (foreign : ¬['9', '1'] <+: digitsOf text) : normalizePhone text = trim text := by
  rw [normalizePhone_eq]
  cases found : nationalDigits (digitsOf text) with
  | none => rfl
  | some digits =>
    obtain ⟨mobile, same | same | same⟩ := nationalDigits_eq_some found
    · exact absurd ⟨code, Or.inl (same ▸ mobile)⟩ right
    · exact absurd ⟨code, Or.inr (by rw [same]; exact ⟨rfl, mobile⟩)⟩ right
    · exact absurd ⟨digits, same.symm⟩ foreign

/-- **Two texts with one normal form** denote one line, if neither is misread. -/
theorem lineOf_eq_of_normalizePhone_eq {other : String} (right : ¬Misread text)
    (rightToo : ¬Misread other) (same : normalizePhone text = normalizePhone other) :
    lineOf text = lineOf other := by
  have both : ∀ mobile : IndianMobile, normalizePhone text = mobile.text →
      lineOf text = lineOf other := by
    intro mobile is
    rw [lineOf_of_normalizePhone right is, lineOf_of_normalizePhone rightToo (same ▸ is)]
  cases found : nationalDigits (digitsOf text) with
  | some digits =>
    obtain ⟨mobile, _, is⟩ := exists_mobile found
    exact both mobile is
  | none =>
    cases foundToo : nationalDigits (digitsOf other) with
    | some digits =>
      obtain ⟨mobile, _, is⟩ := exists_mobile foundToo
      exact both mobile (same.trans is)
    | none =>
      rw [normalizePhone_eq, normalizePhone_eq, found, foundToo] at same
      have kept : trim text = trim other := same
      rw [← lineOf_trim text, kept, lineOf_trim]

end Lines

/-- **What is right of the normal form of a text** is so exactly if the text is not misread; and texts
that are not misread have one normal form only if they denote one line. -/
theorem normalizePhone_right_iff (text : String) :
    (NormalizesRightly text ↔ ¬Misread text) ∧
      ∀ other, ¬Misread text → ¬Misread other →
        normalizePhone text = normalizePhone other → lineOf text = lineOf other := by
  refine ⟨⟨fun rightly misread => ?_, fun right => ?_⟩, fun _ => lineOf_eq_of_normalizePhone_eq⟩
  · obtain ⟨mobile, is, differs⟩ := misread.exists_mobile
    exact differs (rightly.sound mobile is)
  · exact ⟨normalizePhone_idempotent text, fun _ _ => normalizePhone_of_spelling,
      normalizePhone_of_foreign right, fun _ => lineOf_of_normalizePhone right⟩

/-- **A number of Singapore** has one normal form with an Indian mobile. -/
theorem singapore_number_misread :
    hasCountryCode "+65 9123 4567" = true ∧ ¬['9', '1'] <+: digitsOf "+65 9123 4567" ∧
      normalizePhone "+65 9123 4567" = "6591234567" ∧
      normalizePhone "+65 9123 4567" = normalizePhone "+91 65912 34567" ∧
      lineOf "+65 9123 4567" ≠ lineOf "+91 65912 34567" := by
  decide

end OpenEstate.Presales
