/-
**Texts without Aadhaar numbers.**

The numbers found in a text are replaced from the left, and one that overlaps a number replaced before
is left out. A redaction keeps nothing of a number, and what it leaves holds none. A mask keeps the last
four digits, and these may begin another number with the groups that follow them: the number that was
left out as it overlaps, or one that the text did not hold.

* `aadhaarFrame` is the reader of a number; `findAadhaarLikeNumbers_eq` lists the windows of a text;
* `replaceMatches_eq`: the loop over the numbers breaks the text into pieces and replaces some;
* `redact_complete`: what is left by a redaction;
* `mask_clear_iff`: the texts of which a mask leaves no number; `mask_leaves_number`: one of which it
  leaves one.
-/

import OpenEstate.CustomFields.AadhaarGuard
import OpenEstate.Runtime.Window

namespace OpenEstate.AadhaarGuard

open CustomFields (fourDigits skipSeparator candidate candidates isValidVerhoeff)
open Runtime

/-! ### Finding numbers -/

structure AadhaarLikeMatch where
  start : Nat
  stop : Nat
  digits : List Char
  deriving DecidableEq

def takeSeparator : List Char → List Char × List Char
  | ' ' :: rest => ([' '], rest)
  | '-' :: rest => (['-'], rest)
  | chars => ([], chars)

/-- The window at the beginning of a text: three groups of four digits, of which the first one begins
with no 0 or 1, and no digit after them. -/
def window (chars : List Char) : Option (List Char) := do
  let first ← fourDigits chars
  let gap := takeSeparator first.2
  let second ← fourDigits gap.2
  let nextGap := takeSeparator second.2
  let third ← fourDigits nextGap.2
  if first.1.head?.any (· ∈ ['0', '1']) || third.2.head?.any Char.isDigit then none
  else some (first.1 ++ gap.1 ++ second.1 ++ nextGap.1 ++ third.1)

/-- The windows of a text, each with its index: every place behind no digit is tried. -/
def windowsFrom (before : Option Char) (index : Nat) : List Char → List (Nat × List Char)
  | [] => []
  | char :: rest =>
    (if before.any Char.isDigit then []
      else (window (char :: rest)).toList.map fun found => (index, found)) ++
      windowsFrom (some char) (index + 1) rest

def digitsOf (found : List Char) : List Char :=
  found.filter fun char => char ∉ [' ', '-']

def findAadhaarLikeNumbers (text : String) : List AadhaarLikeMatch :=
  (windowsFrom none 0 text.toList).filterMap fun (index, found) =>
    if isValidVerhoeff (digitsOf found) then
      some { start := index, stop := index + found.length, digits := digitsOf found }
    else none

/-! ### Replacing numbers -/

/-- The numbers are replaced one after the other, but for those that overlap one replaced before. -/
def replaceMatches (text : String) (replace : AadhaarLikeMatch → String) : String :=
  let found := findAadhaarLikeNumbers text
  if found.isEmpty then text
  else
    let (out, cursor) := found.foldl (fun (done : List Char × Nat) number =>
      if number.start < done.2 then done
      else (done.1 ++ Frame.slice text.toList done.2 number.start ++ (replace number).toList, number.stop))
      ([], 0)
    String.ofList (out ++ text.toList.drop cursor)

def aadhaarRedaction : String := "[Aadhaar-like number removed]"

def redactAadhaarLike (text : String) : String :=
  replaceMatches text fun _ => aadhaarRedaction

def maskAadhaarLike (text : String) : String :=
  replaceMatches text fun number => "XXXX XXXX " ++ String.ofList (number.digits.drop 8)

/-! ### Groups and separators -/

def IsGroup (chars : List Char) : Prop :=
  chars.length = 4 ∧ ∀ char ∈ chars, char.isDigit = true

def IsGap (chars : List Char) : Prop :=
  chars = [] ∨ chars = [' '] ∨ chars = ['-']

section Groups

variable {chars group gap rest : List Char}

theorem fourDigits_eq_some : fourDigits chars = some (group, rest) ↔
    chars = group ++ rest ∧ IsGroup group := by
  constructor
  · intro reads
    unfold fourDigits at reads
    split at reads
    · rename_i a b c d rest
      split at reads
      · rename_i digits
        cases reads
        exact ⟨rfl, rfl, List.all_eq_true.mp digits⟩
      · cases reads
    · cases reads
  · rintro ⟨rfl, four, digits⟩
    obtain ⟨a, b, c, d, rfl⟩ : ∃ a b c d, group = [a, b, c, d] := by
      match group, four with
      | [a, b, c, d], _ => exact ⟨a, b, c, d, rfl⟩
    show (if [a, b, c, d].all Char.isDigit then some ([a, b, c, d], rest) else none) = _
    rw [if_pos (List.all_eq_true.mpr digits)]

theorem takeSeparator_spec (chars : List Char) :
    chars = (takeSeparator chars).1 ++ (takeSeparator chars).2 ∧ IsGap (takeSeparator chars).1 ∧
      skipSeparator chars = (takeSeparator chars).2 := by
  cases chars with
  | nil => exact ⟨rfl, Or.inl rfl, rfl⟩
  | cons char rest =>
    by_cases space : char = ' '
    · subst space
      exact ⟨rfl, Or.inr (Or.inl rfl), rfl⟩
    · by_cases hyphen : char = '-'
      · subst hyphen
        exact ⟨rfl, Or.inr (Or.inr rfl), rfl⟩
      · have none_ : takeSeparator (char :: rest) = ([], char :: rest) := by
          simp [takeSeparator, space, hyphen]
        have skips : skipSeparator (char :: rest) = char :: rest := by
          simp [skipSeparator, space, hyphen]
        rw [none_, skips]
        exact ⟨rfl, Or.inl rfl, rfl⟩

theorem takeSeparator_append (isGap : IsGap gap) (isGroup : IsGroup group) :
    takeSeparator (gap ++ (group ++ rest)) = (gap, group ++ rest) := by
  rcases isGap with rfl | rfl | rfl
  · obtain ⟨four, digits⟩ := isGroup
    cases group with
    | nil => cases four
    | cons first group =>
      have digit := digits first List.mem_cons_self
      show takeSeparator (first :: (group ++ rest)) = ([], first :: (group ++ rest))
      unfold takeSeparator
      split
      · rename_i same
        cases same
        cases digit
      · rename_i same
        cases same
        cases digit
      · rfl
  · rfl
  · rfl

structure Shape (found rest : List Char) : Prop where
  groups : ∃ first gap second nextGap third, found = first ++ gap ++ second ++ nextGap ++ third ∧
    IsGroup first ∧ IsGap gap ∧ IsGroup second ∧ IsGap nextGap ∧ IsGroup third ∧
    first.head?.any (· ∈ ['0', '1']) = false
  border : rest.head?.any Char.isDigit = false

/-- **What a window is**: groups with separators between them, and no digit next to it. -/
theorem window_eq_some {found : List Char} :
    window chars = some found ↔ ∃ rest, chars = found ++ rest ∧ Shape found rest := by
  constructor
  · intro reads
    unfold window at reads
    obtain ⟨⟨first, afterFirst⟩, isFirst, goesOn⟩ := Option.bind_eq_some_iff.mp reads
    obtain ⟨⟨second, afterSecond⟩, isSecond, ends⟩ := Option.bind_eq_some_iff.mp goesOn
    obtain ⟨⟨third, rest⟩, isThird, answered⟩ := Option.bind_eq_some_iff.mp ends
    obtain ⟨rfl, firstGroup⟩ := fourDigits_eq_some.mp isFirst
    obtain ⟨secondAfter, secondGroup⟩ := fourDigits_eq_some.mp isSecond
    obtain ⟨thirdAfter, thirdGroup⟩ := fourDigits_eq_some.mp isThird
    obtain ⟨gapAfter, isGap, _⟩ := takeSeparator_spec afterFirst
    obtain ⟨nextGapAfter, isNextGap, _⟩ := takeSeparator_spec afterSecond
    split at answered
    · cases answered
    · rename_i accepted
      cases answered
      rw [Bool.or_eq_true, not_or, Bool.not_eq_true, Bool.not_eq_true] at accepted
      refine ⟨rest, ?_, ⟨first, _, second, _, third, rfl, firstGroup, isGap, secondGroup,
        isNextGap, thirdGroup, accepted.1⟩, accepted.2⟩
      conv_lhs => rw [gapAfter, secondAfter, nextGapAfter, thirdAfter]
      simp only [List.append_assoc]
  · rintro ⟨rest, rfl, ⟨first, gap, second, nextGap, third, rfl, firstGroup, isGap, secondGroup,
      isNextGap, thirdGroup, head⟩, border⟩
    have reads : ∀ {group after}, IsGroup group → fourDigits (group ++ after) = some (group, after) :=
      fun isGroup => fourDigits_eq_some.mpr ⟨rfl, isGroup⟩
    simp only [List.append_assoc, window, reads firstGroup, takeSeparator_append isGap secondGroup,
      reads secondGroup, takeSeparator_append isNextGap thirdGroup, reads thirdGroup,
      Option.bind_eq_bind, Option.bind_some, head, border, Bool.or_self, Bool.false_eq_true,
      if_false]

theorem digitsOf_groups {first second nextGap third : List Char} (firstGroup : IsGroup first)
    (isGap : IsGap gap) (secondGroup : IsGroup second) (isNextGap : IsGap nextGap)
    (thirdGroup : IsGroup third) :
    digitsOf (first ++ gap ++ second ++ nextGap ++ third) = first ++ second ++ third := by
  have ofGroup : ∀ {group}, IsGroup group → digitsOf group = group := by
    intro group isGroup
    refine List.filter_eq_self.mpr fun char member => ?_
    have digit := isGroup.2 char member
    rw [decide_eq_true_eq]
    intro separator
    simp only [List.mem_cons, List.not_mem_nil, or_false] at separator
    rcases separator with rfl | rfl <;> cases digit
  have ofGap : ∀ {gap}, IsGap gap → digitsOf gap = [] := by
    rintro _ (rfl | rfl | rfl) <;> rfl
  unfold digitsOf at ofGroup ofGap ⊢
  simp only [List.filter_append, ofGroup firstGroup, ofGap isGap, ofGroup secondGroup,
    ofGap isNextGap, ofGroup thirdGroup, List.append_nil]

theorem drop_digitsOf {found : List Char} (shape : Shape found rest) :
    ∃ front, found = front ++ (digitsOf found).drop 8 ∧ IsGroup ((digitsOf found).drop 8) := by
  obtain ⟨first, gap, second, nextGap, third, rfl, firstGroup, isGap, secondGroup, isNextGap,
    thirdGroup, _⟩ := shape.groups
  have eight : (first ++ second).length = 8 := by
    rw [List.length_append, firstGroup.1, secondGroup.1]
  rw [digitsOf_groups firstGroup isGap secondGroup isNextGap thirdGroup, ← eight, List.drop_left]
  exact ⟨first ++ gap ++ second ++ nextGap, rfl, thirdGroup⟩

end Groups

/-! ### The frame -/

def number (text : List Char) : Option (List Char) :=
  (window text).filter fun found => isValidVerhoeff (digitsOf found)

theorem number_eq_some {text found : List Char} : number text = some found ↔
    (∃ rest, text = found ++ rest ∧ Shape found rest) ∧ isValidVerhoeff (digitsOf found) = true := by
  rw [number, Option.filter_eq_some_iff, window_eq_some]

def isInner (char : Char) : Bool := char.isDigit || char == ' ' || char == '-'

theorem Shape.inner {found rest : List Char} (shape : Shape found rest) :
    ∀ char ∈ found, isInner char = true := by
  obtain ⟨first, gap, second, nextGap, third, rfl, firstGroup, isGap, secondGroup, isNextGap,
    thirdGroup, _⟩ := shape.groups
  have ofGroup : ∀ {group}, IsGroup group → ∀ char ∈ group, isInner char = true := by
    intro group isGroup char member
    rw [isInner, isGroup.2 char member]
    rfl
  have ofGap : ∀ {gap}, IsGap gap → ∀ char ∈ gap, isInner char = true := by
    rintro _ (rfl | rfl | rfl) <;> simp [isInner]
  simp only [List.mem_append, or_imp, forall_and]
  exact ⟨⟨⟨⟨ofGroup firstGroup, ofGap isGap⟩, ofGroup secondGroup⟩, ofGap isNextGap⟩,
    ofGroup thirdGroup⟩

theorem Shape.edges {found rest : List Char} (shape : Shape found rest) :
    found.head?.any Char.isDigit = true ∧ found.getLast?.any Char.isDigit = true := by
  obtain ⟨first, gap, second, nextGap, third, rfl, firstGroup, _, _, _, thirdGroup, _⟩ :=
    shape.groups
  constructor
  · obtain ⟨char, other, rfl⟩ : ∃ char other, first = char :: other := by
      cases first with
      | nil => cases firstGroup.1
      | cons char other => exact ⟨char, other, rfl⟩
    exact firstGroup.2 char List.mem_cons_self
  · have some_ : third ≠ [] := by
      rintro rfl
      cases thirdGroup.1
    rw [List.getLast?_append, List.getLast?_eq_some_getLast some_]
    exact thirdGroup.2 _ (List.getLast_mem some_)

def aadhaarFrame : Frame Char where
  edge := Char.isDigit
  inner := isInner
  read := number
  read_eq reads := by
    obtain ⟨⟨rest, same, shape⟩, _⟩ := number_eq_some.mp reads
    exact ⟨rest, same, shape.border⟩
  read_inner reads := by
    obtain ⟨⟨rest, _, shape⟩, _⟩ := number_eq_some.mp reads
    exact shape.inner
  read_edges reads := by
    obtain ⟨⟨rest, _, shape⟩, _⟩ := number_eq_some.mp reads
    exact shape.edges
  read_congr reads border := by
    obtain ⟨⟨rest, _, shape⟩, valid⟩ := number_eq_some.mp reads
    exact number_eq_some.mpr ⟨⟨_, rfl, shape.groups, border⟩, valid⟩

def ofToken (token : Nat × List Char) : AadhaarLikeMatch :=
  { start := token.1, stop := token.1 + token.2.length, digits := digitsOf token.2 }

theorem findAadhaarLikeNumbers_eq (text : String) : findAadhaarLikeNumbers text =
    (aadhaarFrame.windows none 0 text.toList).map ofToken := by
  have found : ∀ (chars : List Char) (before : Option Char) (index : Nat),
      ((windowsFrom before index chars).filterMap fun (index, found) =>
        if isValidVerhoeff (digitsOf found) then
          some (AadhaarLikeMatch.mk index (index + found.length) (digitsOf found)) else none) =
        (aadhaarFrame.windows before index chars).map ofToken := by
    intro chars
    induction chars with
    | nil => intros; rfl
    | cons char rest ih =>
      intro before index
      rw [windowsFrom, Frame.windows, List.filterMap_append, List.map_append, ih]
      congr 1
      show _ = (((if before.any Char.isDigit then none else number (char :: rest)).toList).map
        _).map ofToken
      split
      · rfl
      · unfold number
        cases window (char :: rest) with
        | none => rfl
        | some found =>
          by_cases valid : isValidVerhoeff (digitsOf found) = true
          · simp [valid, Option.filter, ofToken]
          · simp [valid, Option.filter]
  exact found _ none 0

theorem candidate_eq_window (chars : List Char) : candidate chars = (window chars).map digitsOf := by
  rw [candidate, window]
  cases isFirst : fourDigits chars with
  | none => rfl
  | some first =>
    obtain ⟨_, firstGroup⟩ := fourDigits_eq_some.mp isFirst
    obtain ⟨_, isGap, skipsFirst⟩ := takeSeparator_spec first.2
    simp only [Option.bind_eq_bind, Option.bind_some, skipsFirst]
    cases isSecond : fourDigits (takeSeparator first.2).2 with
    | none => rfl
    | some second =>
      obtain ⟨_, secondGroup⟩ := fourDigits_eq_some.mp isSecond
      obtain ⟨_, isNextGap, skipsSecond⟩ := takeSeparator_spec second.2
      simp only [Option.bind_some, skipsSecond]
      cases isThird : fourDigits (takeSeparator second.2).2 with
      | none => rfl
      | some third =>
        obtain ⟨_, thirdGroup⟩ := fourDigits_eq_some.mp isThird
        simp only [Option.bind_some]
        split
        · rfl
        · rw [Option.map_some, digitsOf_groups firstGroup isGap secondGroup isNextGap thirdGroup]

theorem digits_findAadhaarLikeNumbers (text : String) :
    CustomFields.findAadhaarLikeNumbers text =
      (findAadhaarLikeNumbers text).map AadhaarLikeMatch.digits := by
  have found : ∀ (chars : List Char) (before : Option Char) (index : Nat),
      (candidates before chars).filter isValidVerhoeff =
        ((windowsFrom before index chars).filterMap fun (index, found) =>
          if isValidVerhoeff (digitsOf found) then
            some (AadhaarLikeMatch.mk index (index + found.length) (digitsOf found))
          else none).map AadhaarLikeMatch.digits := by
    intro chars
    induction chars with
    | nil => intros; rfl
    | cons char rest ih =>
      intro before index
      rw [candidates, windowsFrom, List.filter_append, List.filterMap_append, List.map_append,
        ih _ (index + 1), candidate_eq_window]
      congr 1
      split
      · rfl
      · cases window (char :: rest) with
        | none => rfl
        | some found =>
          by_cases valid : isValidVerhoeff (digitsOf found) = true
          · simp [valid]
          · simp [valid]
  exact found _ none 0

/-! ### Pieces -/

/-- The numbers that are replaced, from the left: none that overlaps one replaced before. -/
def withoutOverlaps : Nat → List AadhaarLikeMatch → List AadhaarLikeMatch
  | _, [] => []
  | cursor, number :: rest =>
    if number.start < cursor then withoutOverlaps cursor rest
    else number :: withoutOverlaps number.stop rest

def replacedNumbers (text : String) : List AadhaarLikeMatch :=
  withoutOverlaps 0 (findAadhaarLikeNumbers text)

section Pieces

variable (text : String)

theorem replaceMatches_eq (replace : AadhaarLikeMatch → String) : replaceMatches text replace =
    String.ofList (substitute (fun token => (replace (ofToken token)).toList)
      (aadhaarFrame.pieces text.toList)) := by
  have loop := fun done folds => @Frame.foldl_windows _ aadhaarFrame none text.toList
    (fun token => (replace (ofToken token)).toList) [] [] 0 done folds
  simp only [List.nil_append, List.length_nil, Frame.slice, List.take_zero, List.drop_nil,
    Nat.sub_self] at loop
  unfold replaceMatches
  rw [findAadhaarLikeNumbers_eq]
  dsimp only
  rw [List.isEmpty_map, List.foldl_map]
  split
  · rename_i nothing
    rw [List.isEmpty_iff] at nothing
    have whole := loop ([], 0) (by rw [nothing]; rfl)
    rw [List.nil_append, List.drop_zero] at whole
    rw [Frame.pieces, ← whole, String.ofList_toList]
  · exact congrArg String.ofList (loop _ rfl)

theorem replacedNumbers_eq :
    replacedNumbers text = (tokens (aadhaarFrame.pieces text.toList)).map ofToken := by
  have skips : ∀ (cursor : Nat) (windows : List (Nat × List Char)),
      withoutOverlaps cursor (windows.map ofToken) = (taken cursor windows).map ofToken := by
    intro cursor windows
    induction windows generalizing cursor with
    | nil => rfl
    | cons first rest ih =>
      obtain ⟨index, found⟩ := first
      show (if index < cursor then withoutOverlaps cursor (rest.map ofToken)
        else ofToken (index, found) :: withoutOverlaps (index + found.length) (rest.map ofToken)) = _
      rw [ih, ih, taken]
      split <;> rfl
  rw [replacedNumbers, findAadhaarLikeNumbers_eq, skips, Frame.tokens_pieces]

theorem mem_findAadhaarLikeNumbers_of_token {token : Nat × List Char}
    (member : token ∈ tokens (aadhaarFrame.pieces text.toList)) :
    ofToken token ∈ findAadhaarLikeNumbers text := by
  rw [Frame.tokens_pieces] at member
  rw [findAadhaarLikeNumbers_eq]
  exact List.mem_map_of_mem ((taken_sublist _ _).subset member)

theorem findAadhaarLikeNumbers_eq_nil :
    findAadhaarLikeNumbers text = [] ↔ aadhaarFrame.Clear none text.toList := by
  rw [findAadhaarLikeNumbers_eq, List.map_eq_nil_iff, Frame.windows_eq_nil]

theorem replaceMatches_of_eq_nil (replace : AadhaarLikeMatch → String)
    (nothing : findAadhaarLikeNumbers text = []) : replaceMatches text replace = text := by
  unfold replaceMatches
  rw [nothing]
  rfl

end Pieces

/-! ### Redaction -/

/-- A text broken into characters and numbers found in it, each where it was found. -/
structure Breaks (text : String) (pieces : List (Cut Char)) : Prop where
  whole : pieces.flatMap Piece.source = text.toList
  found : ∀ earlier token source later, pieces = earlier ++ .token token source :: later →
    ofToken token ∈ findAadhaarLikeNumbers text ∧
      (ofToken token).start = (earlier.flatMap Piece.source).length ∧
      (ofToken token).stop = (ofToken token).start + source.length

theorem breaks_pieces (text : String) : Breaks text (aadhaarFrame.pieces text.toList) := by
  have cuts := aadhaarFrame.pieces_cuts text.toList
  refine ⟨cuts.flatMap_source, fun earlier token source later same => ?_⟩
  have listed : token ∈ tokens (aadhaarFrame.pieces text.toList) := by
    rw [same]
    exact Frame.mem_tokens_of_split
  rw [same] at cuts
  obtain ⟨_, _, at_, _, isSource, _⟩ := cuts.split
  subst isSource
  refine ⟨mem_findAadhaarLikeNumbers_of_token text listed, ?_, rfl⟩
  show token.1 = _
  omega

theorem redaction_covers :
    Frame.Covers aadhaarFrame aadhaarRedaction.toList fun _ => [] where
  starts := ⟨'[', rfl, rfl⟩
  plain := by simp [aadhaarRedaction, aadhaarFrame]
  edges _ := nofun

theorem redactAadhaarLike_toList (text : String) : (redactAadhaarLike text).toList =
    Frame.covered aadhaarRedaction.toList (fun _ => []) (aadhaarFrame.pieces text.toList) := by
  rw [redactAadhaarLike, replaceMatches_eq, String.toList_ofList, Frame.covered]
  simp only [List.append_nil]

/-- **Redaction is complete.** No number is found in what a redaction leaves, so that a second one
changes nothing; and it leaves the text with a marker in the place of some of the numbers that were
found, one behind the other, and everything else as it was. -/
theorem redact_complete (text : String) :
    findAadhaarLikeNumbers (redactAadhaarLike text) = [] ∧
      redactAadhaarLike (redactAadhaarLike text) = redactAadhaarLike text ∧
      ∃ pieces, Breaks text pieces ∧
        redactAadhaarLike text =
          String.ofList (substitute (fun _ => aadhaarRedaction.toList) pieces) := by
  have clear : findAadhaarLikeNumbers (redactAadhaarLike text) = [] := by
    have cuts := aadhaarFrame.pieces_cuts text.toList
    rw [findAadhaarLikeNumbers_eq_nil, redactAadhaarLike_toList,
      cuts.clear_covered_iff redaction_covers (Or.inl rfl)]
    intro earlier token source later same
    rw [same] at cuts
    obtain ⟨rest, _, _, reads, _, follows⟩ := cuts.split
    -- no digit follows a window, so that none of the result begins behind it
    obtain ⟨other, whole, border⟩ := aadhaarFrame.read_eq reads
    rw [← List.append_cancel_left whole] at border
    rw [List.nil_append, Option.eq_none_iff_forall_ne_some]
    intro found isFound
    have original := follows.read_of_read_covered redaction_covers isFound
    rw [Frame.read_eq_none_of_head border] at original
    cases original
  exact ⟨clear, replaceMatches_of_eq_nil _ _ clear, _, breaks_pieces text, replaceMatches_eq text _⟩

/-! ### Masks -/

/-- What begins with the last four digits of a number that is replaced is no number, unless another
one that is replaced begins in it. -/
def NothingRejoined (text : String) : Prop :=
  ∀ replaced ∈ replacedNumbers text, ∀ found ∈ number (text.toList.drop (replaced.stop - 4)),
    ∃ other ∈ replacedNumbers text,
      replaced.stop ≤ other.start ∧ other.start < replaced.stop - 4 + found.length

def maskCover : List Char := "XXXX XXXX ".toList

def lastFour (found : List Char) : List Char := (digitsOf found).drop 8

theorem mask_covers : Frame.Covers aadhaarFrame maskCover lastFour where
  starts := ⟨'X', rfl, rfl⟩
  plain := by
    have all : (maskCover.all fun char => !aadhaarFrame.edge char) = true := by decide
    simpa using all
  edges reads := by
    obtain ⟨⟨rest, _, shape⟩, _⟩ := number_eq_some.mp reads
    obtain ⟨_, _, group⟩ := drop_digitsOf shape
    exact group.2

theorem maskAadhaarLike_toList (text : String) : (maskAadhaarLike text).toList =
    Frame.covered maskCover lastFour (aadhaarFrame.pieces text.toList) := by
  have each : ∀ token : Nat × List Char,
      ("XXXX XXXX " ++ String.ofList ((ofToken token).digits.drop 8)).toList =
        maskCover ++ lastFour token.2 := by
    intro token
    rw [String.toList_append]
    exact congrArg (maskCover ++ ·) String.toList_ofList
  rw [maskAadhaarLike, replaceMatches_eq, String.toList_ofList, Frame.covered]
  simp only [each]

section Left

variable {text : String} {earlier later : List (Cut Char)} {token : Nat × List Char}
  {source : List Char}

theorem exists_replaced_iff
    (same : aadhaarFrame.pieces text.toList = earlier ++ .token token source :: later) (limit : Nat) :
    (∃ other ∈ replacedNumbers text, (ofToken token).stop ≤ other.start ∧ other.start < limit) ↔
      ∃ other ∈ tokens later, other.1 < limit := by
  have cuts := aadhaarFrame.pieces_cuts text.toList
  rw [same] at cuts
  rw [replacedNumbers_eq, same]
  constructor
  · rintro ⟨_, member, after, before⟩
    obtain ⟨other, listed, rfl⟩ := List.mem_map.mp member
    exact ⟨other, cuts.mem_later_iff.mpr ⟨listed, after⟩, before⟩
  · rintro ⟨other, member, before⟩
    obtain ⟨listed, after⟩ := cuts.mem_later_iff.mp member
    exact ⟨_, List.mem_map_of_mem listed, after, before⟩

theorem drop_lastFour
    (same : aadhaarFrame.pieces text.toList = earlier ++ .token token source :: later) :
    ∃ rest, text.toList.drop ((ofToken token).stop - 4) = lastFour token.2 ++ rest ∧
      (lastFour token.2).length = 4 ∧ 4 ≤ token.2.length ∧
      (∀ char ∈ lastFour token.2, aadhaarFrame.edge char = true) ∧
      token.2.getLast?.any aadhaarFrame.edge = true ∧
      aadhaarFrame.Cuts token.2.getLast? (ofToken token).stop rest later := by
  have cuts := aadhaarFrame.pieces_cuts text.toList
  rw [same] at cuts
  obtain ⟨rest, whole, at_, reads, _, follows⟩ := cuts.split
  obtain ⟨⟨_, _, shape⟩, _⟩ := number_eq_some.mp reads
  obtain ⟨front, ends, four, digits⟩ := drop_digitsOf shape
  have length : token.2.length = front.length + 4 := by
    rw [ends, List.length_append, four]
  refine ⟨rest, ?_, four, by omega, digits, (aadhaarFrame.read_edges reads).2, follows⟩
  have index : (ofToken token).stop - 4 = (earlier.flatMap Piece.source ++ front).length := by
    show token.1 + token.2.length - 4 = _
    rw [List.length_append]
    omega
  have whole : text.toList =
      earlier.flatMap Piece.source ++ front ++ (lastFour token.2 ++ rest) := by
    rw [whole, List.append_assoc _ front, ← List.append_assoc front]
    rw [List.append_assoc]
    congr 2
  rw [whole, index, List.drop_left]

theorem read_mask_eq_none_iff
    (same : aadhaarFrame.pieces text.toList = earlier ++ .token token source :: later) :
    aadhaarFrame.read (lastFour token.2 ++ Frame.covered maskCover lastFour later) = none ↔
      ∀ found ∈ number (text.toList.drop ((ofToken token).stop - 4)),
        ∃ other ∈ replacedNumbers text, (ofToken token).stop ≤ other.start ∧
          other.start < (ofToken token).stop - 4 + found.length := by
  obtain ⟨rest, from_, four, long, digits, edge, follows⟩ := drop_lastFour same
  have stop : (ofToken token).stop = token.1 + token.2.length := rfl
  rw [from_, Option.eq_none_iff_forall_ne_some]
  constructor
  · intro nothing found isFound
    have isFound : aadhaarFrame.read (lastFour token.2 ++ rest) = some found := isFound
    obtain ⟨kept, rfl⟩ := Frame.exists_eq_append_of_read digits isFound
    obtain ⟨after, split, _⟩ := aadhaarFrame.read_eq isFound
    rw [List.append_assoc, List.append_cancel_left_eq] at split
    subst split
    rw [exists_replaced_iff same]
    by_contra noOther
    push Not at noOther
    obtain ⟨later_, kept_⟩ := follows.kept_iff.mpr fun other member => by
      have bound := noOther other member
      rw [List.length_append] at bound
      omega
    exact nothing _ ((follows.read_covered mask_covers digits (Or.inr edge)).mpr
      ⟨kept, later_, rfl, kept_, isFound⟩)
  · intro others found isFound
    obtain ⟨kept, later_, rfl, kept_, original⟩ :=
      (follows.read_covered mask_covers digits (Or.inr edge)).mp isFound
    obtain ⟨after, split, _⟩ := aadhaarFrame.read_eq original
    rw [List.append_assoc, List.append_cancel_left_eq] at split
    subst split
    obtain ⟨other, member, before⟩ := (exists_replaced_iff same _).mp (others _ original)
    have bound := follows.kept_iff.mp ⟨later_, kept_⟩ other member
    rw [List.length_append] at before
    omega

end Left

/-- **When a mask leaves no number.** No number is found in a masked text, and masking it again changes
nothing, if and only if the last four digits of no number that is replaced begin another one of which
nothing is replaced. -/
theorem mask_clear_iff (text : String) :
    findAadhaarLikeNumbers (maskAadhaarLike text) = [] ∧
        maskAadhaarLike (maskAadhaarLike text) = maskAadhaarLike text ↔
      NothingRejoined text := by
  have clear : findAadhaarLikeNumbers (maskAadhaarLike text) = [] ↔ NothingRejoined text := by
    rw [findAadhaarLikeNumbers_eq_nil, maskAadhaarLike_toList,
      (aadhaarFrame.pieces_cuts text.toList).clear_covered_iff mask_covers (Or.inl rfl)]
    unfold NothingRejoined
    constructor
    · intro nothing replaced member
      rw [replacedNumbers_eq] at member
      obtain ⟨token, listed, rfl⟩ := List.mem_map.mp member
      obtain ⟨earlier, source, later, same⟩ := Frame.exists_split_of_mem_tokens listed
      exact (read_mask_eq_none_iff same).mp (nothing earlier token source later same)
    · intro nothing earlier token source later same
      have listed : ofToken token ∈ replacedNumbers text := by
        rw [replacedNumbers_eq, same]
        exact List.mem_map_of_mem Frame.mem_tokens_of_split
      exact (read_mask_eq_none_iff same).mpr (nothing _ listed)
  rw [← clear]
  exact ⟨And.left, fun nothing => ⟨nothing, replaceMatches_of_eq_nil _ _ nothing⟩⟩

/-- **A mask leaves a number** that overlaps one it has replaced: of five groups, the last three. -/
theorem mask_leaves_number :
    maskAadhaarLike "2000 0000 2001 0000 0005" = "XXXX XXXX 2001 0000 0005" ∧
      (findAadhaarLikeNumbers "2000 0000 2001 0000 0005").map AadhaarLikeMatch.digits =
        ["200000002001".toList, "200100000005".toList] ∧
      (findAadhaarLikeNumbers (maskAadhaarLike "2000 0000 2001 0000 0005")).map
        AadhaarLikeMatch.digits = ["200100000005".toList] ∧
      maskAadhaarLike (maskAadhaarLike "2000 0000 2001 0000 0005") ≠
        maskAadhaarLike "2000 0000 2001 0000 0005" := by
  decide

end OpenEstate.AadhaarGuard
