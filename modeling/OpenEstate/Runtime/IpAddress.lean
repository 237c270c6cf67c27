/-
**Addresses and their texts.**

An address has many texts: groups may be written with leading zeros and in either case, a run of zero
groups may be left out, and the last two groups may be written as four octets.

* `Denotes`: which text is one of which address;
* `Part.splitOn_toLower`: the pieces of a text are what is between its colons;
* `Ipv6Text.address_startingWith`: an address has a text that begins with any text of its first group;
* `Ipv6Text.address_mapping`: an address that maps one of four octets has a text that ends with it.
-/

import Mathlib.Algebra.Group.Nat.Defs
import Mathlib.Data.Fintype.Basic

namespace Runtime

/-! ### Addresses -/

structure Ipv4 where
  a : Fin 256
  b : Fin 256
  c : Fin 256
  d : Fin 256
  deriving DecidableEq

namespace Ipv4

def groups (address : Ipv4) : List Nat :=
  [address.a * 256 + address.b, address.c * 256 + address.d]

def ofGroups (high low : Nat) : Ipv4 :=
  ⟨Fin.ofNat 256 (high / 256), Fin.ofNat 256 high, Fin.ofNat 256 (low / 256), Fin.ofNat 256 low⟩

theorem ofGroups_groups (address : Ipv4) :
    ofGroups (address.a * 256 + address.b) (address.c * 256 + address.d) = address := by
  obtain ⟨a, b, c, d⟩ := address
  simp only [ofGroups, Ipv4.mk.injEq, Fin.ext_iff, Fin.val_ofNat]
  omega

def internal (address : Ipv4) : Bool :=
  let a := address.a.val
  let b := address.b.val
  a = 127 ∨ a = 10 ∨ (a = 172 ∧ 16 ≤ b ∧ b ≤ 31) ∨ (a = 192 ∧ b = 168) ∨ (a = 169 ∧ b = 254) ∨
    (a = 100 ∧ 64 ≤ b ∧ b ≤ 127) ∨ a = 0

end Ipv4

structure Ipv6 where
  groups : List Nat
  eight : groups.length = 8
  bounded : ∀ group ∈ groups, group < 0x10000

namespace Ipv6

variable (address : Ipv6)

def first : Nat := address.groups.headD 0

theorem first_lt : address.first < 0x10000 := by
  obtain ⟨groups, eight, bounded⟩ := address
  cases groups with
  | nil => cases eight
  | cons first rest => exact bounded first List.mem_cons_self

def mapped : Option Ipv4 :=
  match address.groups with
  | [0, 0, 0, 0, 0, 0xFFFF, high, low] => some (.ofGroups high low)
  | _ => none

def compatible : Option Ipv4 :=
  match address.groups with
  | [0, 0, 0, 0, 0, 0, high, low] => some (.ofGroups high low)
  | _ => none

theorem compatible_of_groups {address : Ipv6} {high low : Nat}
    (groups : address.groups = [0, 0, 0, 0, 0, 0, high, low]) :
    address.compatible = some (.ofGroups high low) := by
  unfold compatible
  rw [groups]
  rfl

/-- Loopback, unspecified, unique-local and link-local addresses, and those in which an internal
address of four octets is embedded. -/
def internal : Bool :=
  address.groups = [0, 0, 0, 0, 0, 0, 0, 1] ∨ address.groups = [0, 0, 0, 0, 0, 0, 0, 0] ∨
    (0xFC00 ≤ address.first ∧ address.first ≤ 0xFDFF) ∨
    (0xFE80 ≤ address.first ∧ address.first ≤ 0xFEBF) ∨
    address.mapped.any Ipv4.internal ∨ address.compatible.any Ipv4.internal

end Ipv6

inductive Address
  | v4 (address : Ipv4)
  | v6 (address : Ipv6)

def Address.internal : Address → Bool
  | v4 address => address.internal
  | v6 address => address.internal

/-! ### Texts -/

/-- An octet as it is written: decimal digits, perhaps with leading zeros. -/
structure Octet where
  chars : List Char
  digits : ∀ char ∈ chars, char.isDigit = true
  some_ : chars ≠ []
  short : chars.length ≤ 3
  small : Nat.ofDigitChars 10 chars 0 < 256

def Octet.value (octet : Octet) : Fin 256 := ⟨Nat.ofDigitChars 10 octet.chars 0, octet.small⟩

structure Ipv4Text where
  a : Octet
  b : Octet
  c : Octet
  d : Octet

namespace Ipv4Text

variable (text : Ipv4Text)

def pieces : List (List Char) := [text.a.chars, text.b.chars, text.c.chars, text.d.chars]

def chars : List Char := ['.'].intercalate text.pieces

def address : Ipv4 := ⟨text.a.value, text.b.value, text.c.value, text.d.value⟩

end Ipv4Text

structure HexDigit where
  value : Fin 16
  upper : Bool := false

namespace HexDigit

def char (digit : HexDigit) : Char :=
  if digit.upper then (Nat.digitChar digit.value).toUpper else Nat.digitChar digit.value

def number (digits : List HexDigit) : Nat :=
  digits.foldl (fun value digit => value * 16 + digit.value) 0

end HexDigit

/-- A group as it is written: up to four digits, perhaps with leading zeros. -/
structure Group where
  digits : List HexDigit
  some_ : digits ≠ []
  short : digits.length ≤ 4

namespace Group

def chars (group : Group) : List Char := group.digits.map HexDigit.char

def value (group : Group) : Nat := HexDigit.number group.digits

end Group

structure Part where
  groups : List Group
  tail : Option Ipv4Text := none

namespace Part

variable (part : Part)

def pieces : List (List Char) :=
  part.groups.map Group.chars ++ part.tail.toList.map Ipv4Text.chars

def chars : List Char := [':'].intercalate part.pieces

def values : List Nat :=
  part.groups.map Group.value ++ (part.tail.map fun text => text.address.groups).getD []

end Part

/-- Eight groups with colons between them, or fewer with a double colon in the place of the zeros that
are left out. -/
inductive Ipv6Text
  | full (part : Part) (eight : part.values.length = 8)
  | compressed (front : List Group) (back : Part) (fewer : front.length + back.values.length < 8)

theorem HexDigit.number_lt (digits : List HexDigit) :
    HexDigit.number digits < 16 ^ digits.length := by
  induction digits using List.reverseRecOn with
  | nil => exact Nat.one_pos
  | append_singleton front last ih =>
    have appended : HexDigit.number (front ++ [last]) = HexDigit.number front * 16 + last.value :=
      List.foldl_append
    rw [appended, List.length_append, List.length_singleton, pow_succ]
    omega

theorem Group.value_lt (group : Group) : group.value < 0x10000 :=
  lt_of_lt_of_le (HexDigit.number_lt group.digits) (Nat.pow_le_pow_right (by decide) group.short)

theorem Group.length_eq_four {group : Group} (large : 0x1000 ≤ group.value) :
    group.digits.length = 4 := by
  by_contra fewer
  have short : group.digits.length ≤ 3 := Nat.lt_succ_iff.mp (lt_of_le_of_ne group.short fewer)
  have below : group.value < 16 ^ 3 :=
    lt_of_lt_of_le (HexDigit.number_lt group.digits) (Nat.pow_le_pow_right (by decide) short)
  omega

theorem Part.values_lt (part : Part) : ∀ value ∈ part.values, value < 0x10000 := by
  intro value member
  rcases List.mem_append.mp member with member | member
  · obtain ⟨group, _, rfl⟩ := List.mem_map.mp member
    exact group.value_lt
  · cases tail : part.tail with
    | none =>
      rw [tail] at member
      cases member
    | some text =>
      rw [tail] at member
      simp only [Option.map_some, Option.getD_some, Ipv4.groups, List.mem_cons, List.not_mem_nil,
        or_false] at member
      omega

namespace Ipv6Text

def chars : Ipv6Text → List Char
  | full part _ => part.chars
  | compressed front back _ =>
    [':'].intercalate (front.map Group.chars) ++ [':', ':'] ++ back.chars

def address : Ipv6Text → Ipv6
  | full part eight => ⟨part.values, eight, part.values_lt⟩
  | compressed front back fewer =>
    { groups := front.map Group.value ++
        List.replicate (8 - (front.length + back.values.length)) 0 ++ back.values
      eight := by
        rw [List.length_append, List.length_append, List.length_replicate, List.length_map]
        omega
      bounded := by
        intro value member
        rcases List.mem_append.mp member with member | member
        · rcases List.mem_append.mp member with member | member
          · obtain ⟨group, _, rfl⟩ := List.mem_map.mp member
            exact group.value_lt
          · rw [List.eq_of_mem_replicate member]
            decide
        · exact back.values_lt value member }

end Ipv6Text

inductive Denotes : String → Address → Prop
  | v4 (text : Ipv4Text) : Denotes (String.ofList text.chars) (.v4 text.address)
  | v6 (text : Ipv6Text) : Denotes (String.ofList text.chars) (.v6 text.address)

/-! ### Characters -/

theorem mem_intercalate {α : Type} {between item : α} {pieces : List (List α)}
    (member : item ∈ [between].intercalate pieces) :
    item = between ∨ ∃ piece ∈ pieces, item ∈ piece := by
  induction pieces with
  | nil => cases member
  | cons first rest ih =>
    have here : item ∈ first → ∃ piece ∈ first :: rest, item ∈ piece :=
      fun member => ⟨first, List.mem_cons_self, member⟩
    cases rest with
    | nil =>
      rw [List.intercalate_singleton] at member
      exact Or.inr (here member)
    | cons second rest =>
      rw [List.intercalate_cons_cons] at member
      rcases List.mem_append.mp member with member | member
      · rcases List.mem_append.mp member with member | member
        · exact Or.inr (here member)
        · exact Or.inl (List.mem_singleton.mp member)
      · rcases ih member with same | ⟨piece, isPiece, member⟩
        · exact Or.inl same
        · exact Or.inr ⟨piece, List.mem_cons_of_mem _ isPiece, member⟩

theorem map_intercalate {α β : Type} (f : α → β) (between : List α) (pieces : List (List α)) :
    (between.intercalate pieces).map f = (between.map f).intercalate (pieces.map (List.map f)) := by
  induction pieces with
  | nil => rfl
  | cons first rest ih =>
    cases rest with
    | nil => simp
    | cons second rest =>
      rw [List.intercalate_cons_cons, List.map_append, List.map_append, ih]
      exact List.intercalate_cons_cons.symm

namespace HexDigit

variable (digit : HexDigit)

theorem toLower_char : digit.char.toLower = Nat.digitChar digit.value := by
  obtain ⟨value, upper⟩ := digit
  revert value upper
  decide

end HexDigit

namespace Group

variable (group : Group)

theorem chars_ne_nil : group.chars ≠ [] := fun nothing =>
  group.some_ (List.map_eq_nil_iff.mp nothing)

end Group

namespace Ipv4Text

variable (text : Ipv4Text)

theorem isDigit_of_mem_pieces {piece : List Char} (member : piece ∈ text.pieces) :
    piece ≠ [] ∧ ∀ char ∈ piece, char.isDigit = true := by
  simp only [pieces, List.mem_cons, List.not_mem_nil, or_false] at member
  rcases member with rfl | rfl | rfl | rfl
  · exact ⟨text.a.some_, text.a.digits⟩
  · exact ⟨text.b.some_, text.b.digits⟩
  · exact ⟨text.c.some_, text.c.digits⟩
  · exact ⟨text.d.some_, text.d.digits⟩

theorem splitOn_chars : text.chars.splitOn '.' = text.pieces := by
  refine List.splitOn_intercalate '.' (fun piece member point => ?_) (List.cons_ne_nil _ _)
  exact absurd ((text.isDigit_of_mem_pieces member).2 '.' point) (by decide)

theorem mem_chars {char : Char} (member : char ∈ text.chars) : char.isDigit = true ∨ char = '.' := by
  rcases mem_intercalate member with point | ⟨piece, isPiece, member⟩
  · exact Or.inr point
  · exact Or.inl ((text.isDigit_of_mem_pieces isPiece).2 char member)

theorem colon_not_mem_chars : ':' ∉ text.chars := by
  intro member
  rcases text.mem_chars member with digit | point
  · cases digit
  · cases point

theorem point_mem_chars : '.' ∈ text.chars := by
  simp [chars, pieces]

end Ipv4Text

namespace Group

variable (group : Group)

theorem map_toLower_chars : group.chars.map Char.toLower =
    (group.digits.map HexDigit.value).map fun value : Fin 16 => Nat.digitChar value := by
  rw [chars, List.map_map, List.map_map]
  exact List.map_congr_left fun digit _ => digit.toLower_char

theorem value_of_toLower {values : List (Fin 16)}
    (same : group.chars.map Char.toLower = values.map fun value : Fin 16 => Nat.digitChar value) :
    group.value = (values.map Fin.val).foldl (fun value digit => value * 16 + digit) 0 := by
  have injective : Function.Injective fun value : Fin 16 => Nat.digitChar value := by
    unfold Function.Injective
    decide
  rw [map_toLower_chars] at same
  rw [← List.map_injective_iff.mpr injective same, List.foldl_map, List.foldl_map]
  rfl

theorem not_mem_toLower {char : Char} (noDigit : ∀ value : Fin 16, Nat.digitChar value ≠ char) :
    char ∉ group.chars.map Char.toLower := by
  rw [map_toLower_chars]
  intro member
  obtain ⟨value, _, same⟩ := List.mem_map.mp member
  exact noDigit value same

theorem colon_not_mem_toLower : ':' ∉ group.chars.map Char.toLower :=
  group.not_mem_toLower (by decide)

theorem point_not_mem_toLower : '.' ∉ group.chars.map Char.toLower :=
  group.not_mem_toLower (by decide)

end Group

theorem Ipv4Text.map_toLower_chars (text : Ipv4Text) :
    text.chars.map Char.toLower = text.chars := by
  refine (List.map_congr_left fun char member => ?_).trans (List.map_id _)
  rcases text.mem_chars member with digit | rfl
  · have bounds := Char.isDigit_iff_toNat.mp digit
    have noUpper : ¬(char.val ≥ 'A'.val ∧ char.val ≤ 'Z'.val) := by
      rintro ⟨above, _⟩
      have above : 65 ≤ char.toNat := above
      have below : char.toNat ≤ 57 := bounds.2
      omega
    exact dif_neg noUpper
  · rfl

theorem Part.splitOn_toLower {part : Part} {lower : List Char} (some_ : part.pieces ≠ [])
    (same : part.chars.map Char.toLower = lower) :
    lower.splitOn ':' = part.pieces.map (List.map Char.toLower) := by
  have nonempty : part.pieces.map (List.map Char.toLower) ≠ [] :=
    fun nothing => some_ (List.map_eq_nil_iff.mp nothing)
  rw [← same, Part.chars, map_intercalate]
  refine List.splitOn_intercalate ':' (fun piece member => ?_) nonempty
  obtain ⟨piece, isPiece, rfl⟩ := List.mem_map.mp member
  rcases List.mem_append.mp isPiece with isPiece | isPiece
  · obtain ⟨group, _, rfl⟩ := List.mem_map.mp isPiece
    exact group.colon_not_mem_toLower
  · obtain ⟨text, _, rfl⟩ := List.mem_map.mp isPiece
    rw [text.map_toLower_chars]
    exact text.colon_not_mem_chars

theorem Ipv6Text.chars_cases (text : Ipv6Text) :
    (∃ group : Group, ∃ rest, text.chars = group.chars ++ ':' :: rest ∧ group.value = text.address.first) ∨
      ∃ back fewer, text = .compressed [] back fewer := by
  cases text with
  | full part eight =>
    obtain ⟨groups, tail⟩ := part
    have many : groups.length + (tail.toList.map Ipv4Text.chars).length * 2 = 8 := by
      cases tail with
      | none => simpa [Part.values] using eight
      | some text => simpa [Part.values, Ipv4.groups] using eight
    cases groups with
    | nil =>
      cases tail with
      | none => cases many
      | some text => cases many
    | cons group others =>
      refine Or.inl ⟨group, [':'].intercalate (Part.pieces ⟨others, tail⟩), ?_, rfl⟩
      have more : Part.pieces ⟨others, tail⟩ ≠ [] := by
        intro nothing
        obtain ⟨noGroup, noTail⟩ := List.append_eq_nil_iff.mp nothing
        obtain rfl : others = [] := List.map_eq_nil_iff.mp noGroup
        rw [noTail] at many
        cases many
      have parts : [':'].intercalate (group.chars :: Part.pieces ⟨others, tail⟩) =
          group.chars ++ [':'] ++ [':'].intercalate (Part.pieces ⟨others, tail⟩) :=
        List.intercalate_cons_of_ne_nil more
      rw [List.append_assoc] at parts
      exact parts
  | compressed front back fewer =>
    cases front with
    | nil => exact Or.inr ⟨back, fewer, rfl⟩
    | cons group others =>
      left
      cases others with
      | nil => exact ⟨group, ':' :: back.chars, by simp [Ipv6Text.chars], rfl⟩
      | cons other others =>
        exact ⟨group, [':'].intercalate ((other :: others).map Group.chars) ++ [':', ':'] ++
          back.chars, by simp [Ipv6Text.chars], rfl⟩

/-! ### A text of every address -/

namespace Group

def padded (value : Nat) : Group where
  digits := [⟨Fin.ofNat 16 (value / 4096), false⟩, ⟨Fin.ofNat 16 (value / 256), false⟩,
    ⟨Fin.ofNat 16 (value / 16), false⟩, ⟨Fin.ofNat 16 value, false⟩]
  some_ := List.cons_ne_nil _ _
  short := le_refl 4

theorem value_padded {value : Nat} (lt : value < 0x10000) : (padded value).value = value := by
  simp only [Group.value, padded, HexDigit.number, List.foldl_cons, List.foldl_nil, Fin.val_ofNat]
  omega

end Group

theorem Ipv6.ext {first second : Ipv6} (same : first.groups = second.groups) : first = second := by
  obtain ⟨_, _, _⟩ := first
  obtain rfl := same
  rfl

namespace Ipv6Text

/-- The text that begins with a text of the first group, and has four digits for each of the others. -/
def startingWith (group : Group) (address : Ipv6) : Ipv6Text :=
  full ⟨group :: address.groups.tail.map Group.padded, none⟩ (by
    have eight := address.eight
    rw [Part.values, Option.map_none, Option.getD_none, List.append_nil, List.length_map,
      List.length_cons, List.length_map, List.length_tail]
    omega)

theorem chars_startingWith (group : Group) (address : Ipv6) :
    ∃ rest, (startingWith group address).chars = group.chars ++ ':' :: rest := by
  have eight := address.eight
  obtain ⟨first, second, others, is⟩ :
      ∃ first second others, address.groups = first :: second :: others := by
    match groups : address.groups with
    | [] | [_] =>
      rw [groups] at eight
      cases eight
    | first :: second :: others => exact ⟨first, second, others, rfl⟩
  refine ⟨[':'].intercalate (((second :: others).map Group.padded).map Group.chars), ?_⟩
  show [':'].intercalate ((group :: address.groups.tail.map Group.padded).map Group.chars ++ []) = _
  rw [is, List.append_nil, List.tail_cons, List.map_cons, List.map_cons, List.map_cons,
    List.intercalate_cons_cons, List.append_assoc]
  rfl

theorem address_startingWith {group : Group} {address : Ipv6}
    (same : group.value = address.first) : (startingWith group address).address = address := by
  apply Ipv6.ext
  obtain ⟨groups, eight, bounded⟩ := address
  cases groups with
  | nil => cases eight
  | cons first rest =>
    have others : (rest.map Group.padded).map Group.value = rest := by
      rw [List.map_map]
      refine (List.map_congr_left fun value member => ?_).trans (List.map_id rest)
      exact Group.value_padded (bounded value (List.mem_cons_of_mem _ member))
    show (group.value :: (rest.map Group.padded).map Group.value) ++ [] = first :: rest
    rw [others, List.append_nil, same]
    rfl

end Ipv6Text

def Octet.ofFin (value : Fin 256) : Octet where
  chars := Nat.toDigits 10 value
  digits _ := Nat.isDigit_of_mem_toDigits (by decide) (by decide)
  some_ := Nat.toDigits_ne_nil
  short := (Nat.length_toDigits_le_iff (by decide) (by decide)).mpr (by omega)
  small := by
    rw [Nat.ofDigitChars_ten_toDigits]
    exact value.isLt

theorem Octet.value_ofFin (value : Fin 256) : (Octet.ofFin value).value = value :=
  Fin.ext Nat.ofDigitChars_ten_toDigits

def Ipv4.text (address : Ipv4) : Ipv4Text :=
  ⟨.ofFin address.a, .ofFin address.b, .ofFin address.c, .ofFin address.d⟩

theorem Ipv4.address_text (address : Ipv4) : address.text.address = address := by
  simp [Ipv4Text.address, Ipv4.text, Octet.value_ofFin]

namespace Ipv6Text

def mapping (text : Ipv4Text) : Ipv6Text :=
  compressed [] ⟨[⟨List.replicate 4 ⟨15, false⟩, nofun, le_refl 4⟩], some text⟩ (show 3 < 8 by decide)

theorem address_mapping {address : Ipv6} {embedded : Ipv4}
    (maps : address.mapped = some embedded) : (mapping embedded.text).address = address := by
  apply Ipv6.ext
  unfold Ipv6.mapped at maps
  split at maps
  · rename_i high low is
    obtain rfl := Option.some.inj maps
    have bounded := address.bounded
    rw [is] at bounded ⊢
    have halves : ∀ value < 0x10000, value / 256 % 256 * 256 + value % 256 = value := by
      intro value lt
      omega
    show [0, 0, 0, 0, 0, 0xFFFF] ++ (Ipv4.ofGroups high low).text.address.groups = _
    rw [Ipv4.address_text]
    simp only [Ipv4.groups, Ipv4.ofGroups, Fin.val_ofNat]
    rw [halves high (bounded high (by simp)), halves low (bounded low (by simp))]
    rfl
  · cases maps

end Ipv6Text

end Runtime
