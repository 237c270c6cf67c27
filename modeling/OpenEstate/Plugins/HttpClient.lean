/-
**The address filter of outgoing requests.**

A request of a plugin is sent to an address only if `isPublicIp` accepts its text.

* `isPublicIpv4_chars`: of four octets it reads the address, and refuses what is not public;
* `isPublicIpv6_group`: of eight groups it reads the beginning of the text;
* `isPublicIp_filtered_iff`: for which addresses no text of an internal one is accepted, and all texts
  get one answer.
-/

import OpenEstate.Runtime.IpAddress
import OpenEstate.Runtime.Text

namespace OpenEstate.Plugins

open Runtime

/-! ### The filter -/

def isPublicIpv4 (ip : List Char) : Bool :=
  match (ip.splitOn '.').map fun octet => numberOf (String.ofList octet) with
  | [.finite a, .finite b, .finite c, .finite d] =>
    if [a, b, c, d].any fun o => o < 0 ∨ o > 255 then false
    else if a = 10 then false
    else if a = 127 then false
    else if a = 0 then false
    else if a = 172 ∧ b ≥ 16 ∧ b ≤ 31 then false
    else if a = 192 ∧ b = 168 then false
    else if a = 169 ∧ b = 254 then false
    else if a = 100 ∧ b ≥ 64 ∧ b ≤ 127 then false
    else if a ≥ 224 then false
    else true
  -- not four octets, or one that is no number or infinite
  | _ => false

/-- The four octets behind the prefix of an address that maps them: digits with points between
them. -/
def mappedIpv4 (normalized : List Char) : Option (List Char) :=
  if "::ffff:".toList.isPrefixOf normalized then
    let octets := (normalized.drop 7).splitOn '.'
    if octets.length = 4 ∧ octets.all fun octet => !octet.isEmpty && octet.all Char.isDigit then
      some (normalized.drop 7)
    else none
  else none

def refusedPrefixes : List (List Char) :=
  [['f', 'c'], ['f', 'd'], ['f', 'e', '8'], ['f', 'e', '9'], ['f', 'e', 'a'], ['f', 'e', 'b'],
    ['f', 'f']]

def isPublicIpv6 (ip : List Char) : Bool :=
  let normalized := ip.map Char.toLower
  if normalized = "::1".toList then false
  else if normalized = "::".toList then false
  else if refusedPrefixes.any fun start => start.isPrefixOf normalized then false
  else
    match mappedIpv4 normalized with
    | some octets => isPublicIpv4 octets
    | none => true

def isPublicIp (ip : String) : Bool :=
  if ':' ∈ ip.toList then isPublicIpv6 ip.toList else isPublicIpv4 ip.toList

/-- What the filter is for: no text of an internal address is accepted, and all texts of an address
get one answer. -/
def Filtered (text : String) (address : Address) : Prop :=
  (isPublicIp text = true → address.internal = false) ∧
    ∀ other, Denotes other address → isPublicIp other = isPublicIp text

/-! ### Four octets -/

def isPublic (address : Ipv4) : Bool :=
  !address.internal && address.a.val < 224

theorem numberOf_octet (octet : Octet) :
    numberOf (String.ofList octet.chars) = .finite (octet.value.val : ℕ) := by
  have read := @numberOf_of_isDigit (String.ofList octet.chars)
    (by rw [String.toList_ofList]; exact octet.some_)
    (by rw [String.toList_ofList]; exact octet.digits)
  rw [read, String.toList_ofList]
  exact toNumber_natCast (le_trans octet.small.le (by decide))

theorem isPublicIpv4_chars (text : Ipv4Text) :
    isPublicIpv4 text.chars = isPublic text.address := by
  have reads : (text.chars.splitOn '.').map (fun octet => numberOf (String.ofList octet)) =
      [.finite (text.a.value.val : ℕ), .finite (text.b.value.val : ℕ),
        .finite (text.c.value.val : ℕ), .finite (text.d.value.val : ℕ)] := by
    rw [text.splitOn_chars, Ipv4Text.pieces]
    simp only [List.map_cons, List.map_nil, numberOf_octet]
  have equal : ∀ value literal : ℕ, [literal.AtLeastTwo] →
      ((value : ℚ) = OfNat.ofNat literal ↔ value = OfNat.ofNat literal) := by
    intro value literal _
    rw [← Nat.cast_ofNat, Nat.cast_inj]
  unfold isPublicIpv4
  rw [reads, isPublic, Ipv4.internal, Ipv4Text.address]
  obtain ⟨a, aLt⟩ := text.a.value
  obtain ⟨b, bLt⟩ := text.b.value
  obtain ⟨c, cLt⟩ := text.c.value
  obtain ⟨d, dLt⟩ := text.d.value
  have inRange : a ≤ 255 ∧ b ≤ 255 ∧ c ≤ 255 ∧ d ≤ 255 := by omega
  rw [Bool.eq_iff_iff]
  simp [equal]
  constructor
  · rintro ⟨_, not10, not127, not0, not172, not192, not169, not100, below⟩
    exact ⟨⟨not127, not10, not172, not192, not169, not100, not0⟩, below⟩
  · rintro ⟨⟨not127, not10, not172, not192, not169, not100, not0⟩, below⟩
    exact ⟨inRange, not10, not127, not0, not172, not192, not169, not100, below⟩

/-! ### The first group -/

def RefusedFirst (group : Nat) : Prop :=
  (0xFC00 ≤ group ∧ group ≤ 0xFDFF) ∨ (0xFE80 ≤ group ∧ group ≤ 0xFEBF) ∨ 0xFF00 ≤ group

/-- Groups that have one of the prefixes if they are written without leading zeros, in two digits or
in three. -/
def RefusedShort (group : Nat) : Prop :=
  group = 0xFC ∨ group = 0xFD ∨ group = 0xFF ∨ (0xFC0 ≤ group ∧ group ≤ 0xFDF) ∨
    (0xFE8 ≤ group ∧ group ≤ 0xFEB) ∨ (0xFF0 ≤ group ∧ group ≤ 0xFFF)

def refusedGroup (group : Group) : Bool :=
  refusedPrefixes.any fun start => start.isPrefixOf (group.chars.map Char.toLower)

/-- **Which texts of a group are refused**: all of some groups, and of others those of two digits or of
three. -/
theorem refusedGroup_iff (group : Group) : refusedGroup group = true ↔
    (group.digits.length = 4 ∧ RefusedFirst group.value) ∨
      (group.digits.length = 3 ∧ 0xFC0 ≤ group.value ∧ RefusedShort group.value) ∨
      (group.digits.length = 2 ∧ RefusedShort group.value) := by
  rw [refusedGroup, group.map_toLower_chars]
  obtain ⟨digits, some_, short⟩ := group
  simp only [Group.value, HexDigit.number, RefusedFirst, RefusedShort]
  rcases digits with _ | ⟨⟨a, _⟩, _ | ⟨⟨b, _⟩, _ | ⟨⟨c, _⟩, _ | ⟨⟨d, _⟩, _ | ⟨_, _⟩⟩⟩⟩⟩
  · exact absurd rfl some_
  · simp [refusedPrefixes]
  · simp [refusedPrefixes]
    omega
  · simp [refusedPrefixes]
    omega
  · simp [refusedPrefixes]
    omega
  · simp only [List.length_cons] at short
    omega

/-! ### Eight groups -/

theorem isPrefixOf_append {start front rest : List Char} (colon : ':' ∉ start) :
    start.isPrefixOf (front ++ ':' :: rest) = start.isPrefixOf front := by
  induction start generalizing front with
  | nil => rfl
  | cons first start ih =>
    obtain ⟨other, others⟩ := not_or.mp (List.mem_cons.not.mp colon)
    cases front with
    | nil =>
      have differs : (first == ':') = false := beq_eq_false_iff_ne.mpr fun same => other same.symm
      show (first == ':' && start.isPrefixOf rest) = false
      rw [differs, Bool.false_and]
    | cons next front =>
      rw [List.cons_append, List.isPrefixOf, List.isPrefixOf, ih others]

theorem toList_loopback : "::1".toList = [':', ':', '1'] := by decide

theorem toList_unspecified : "::".toList = [':', ':'] := by decide

/-- **A text that begins with a group** is accepted unless the group is refused. -/
theorem isPublicIpv6_group (group : Group) (rest : List Char) :
    isPublicIpv6 (group.chars ++ ':' :: rest) = !refusedGroup group := by
  have colon : Char.toLower ':' = ':' := by decide
  have plain : ∀ start ∈ refusedPrefixes, ':' ∉ start := by decide
  have prefixes : (refusedPrefixes.any fun start =>
      start.isPrefixOf (group.chars.map Char.toLower ++ ':' :: rest.map Char.toLower)) =
      refusedGroup group := by
    rw [refusedGroup, Bool.eq_iff_iff, List.any_eq_true, List.any_eq_true]
    refine exists_congr fun start => and_congr_right fun member => ?_
    rw [isPrefixOf_append (plain start member)]
  -- the text does not begin with a colon
  obtain ⟨first, others, is⟩ : ∃ first others, group.chars.map Char.toLower = first :: others :=
    List.exists_cons_of_ne_nil fun nothing => group.chars_ne_nil (List.map_eq_nil_iff.mp nothing)
  have noColon : ':' ≠ first := by
    rintro rfl
    exact group.colon_not_mem_toLower (is ▸ List.mem_cons_self)
  have noMapped : ∀ tail, mappedIpv4 (first :: tail) = none := by
    intro tail
    have differs : (':' == first) = false := beq_eq_false_iff_ne.mpr noColon
    have head : "::ffff:".toList.isPrefixOf (first :: tail) = false := by
      show (':' == first && _) = false
      rw [differs, Bool.false_and]
    rw [mappedIpv4, head, if_neg Bool.false_ne_true]
  have other : ∀ tail end_ : List Char, first :: tail ≠ ':' :: end_ :=
    fun tail end_ same => noColon (List.cons.inj same).1.symm
  unfold isPublicIpv6
  dsimp only
  rw [List.map_append, List.map_cons, colon, prefixes, is, List.cons_append, noMapped,
    toList_loopback, toList_unspecified, if_neg (other _ _), if_neg (other _ _)]
  cases refusedGroup group <;> rfl

theorem isPublicIpv6_colons (rest : List Char) : isPublicIpv6 (':' :: ':' :: rest) =
    if rest.map Char.toLower = ['1'] then false
    else if rest.map Char.toLower = [] then false
    else
      match mappedIpv4 (':' :: ':' :: rest.map Char.toLower) with
      | some octets => isPublicIpv4 octets
      | none => true := by
  have colon : Char.toLower ':' = ':' := by decide
  have noPrefix : (refusedPrefixes.any fun start =>
      start.isPrefixOf (':' :: ':' :: rest.map Char.toLower)) = false := rfl
  unfold isPublicIpv6
  dsimp only
  rw [List.map_cons, List.map_cons, colon, noPrefix, toList_loopback, toList_unspecified,
    if_neg Bool.false_ne_true]
  simp only [List.cons.injEq, true_and]

theorem toList_mapped : "::ffff:".toList = [':', ':', 'f', 'f', 'f', 'f', ':'] := by decide

theorem mappedIpv4_eq_some {lower octets : List Char}
    (maps : mappedIpv4 (':' :: ':' :: lower) = some octets) :
    lower = ['f', 'f', 'f', 'f'] ++ ':' :: octets ∧ ':' ∉ octets ∧ '.' ∈ octets := by
  unfold mappedIpv4 at maps
  rw [toList_mapped] at maps
  split at maps
  · rename_i start
    obtain ⟨rest, same⟩ := List.isPrefixOf_iff_prefix.mp start
    rw [← same] at maps
    have behind : ([':', ':', 'f', 'f', 'f', 'f', ':'] ++ rest).drop 7 = rest := rfl
    rw [behind] at maps
    dsimp only at maps
    split at maps
    · rename_i four
      obtain rfl := Option.some.inj maps
      refine ⟨?_, ?_, ?_⟩
      · have same : ':' :: ':' :: (['f', 'f', 'f', 'f'] ++ ':' :: rest) = ':' :: ':' :: lower := same
        exact (List.cons.inj (List.cons.inj same).2).2.symm
      · intro member
        rw [← @List.intercalate_splitOn _ rest _ _ '.'] at member
        rcases mem_intercalate member with point | ⟨octet, isOctet, member⟩
        · cases point
        · have digits := (Bool.and_eq_true_iff.mp (List.all_eq_true.mp four.2 octet isOctet)).2
          exact absurd (List.all_eq_true.mp digits ':' member) (by decide)
      · by_contra noPoint
        have whole : rest.splitOn '.' = [rest] := List.splitOn_eq_singleton noPoint
        rw [whole] at four
        cases four.1
    · cases maps
  · cases maps

theorem mappedIpv4_mapping (text : Ipv4Text) :
    mappedIpv4 ([':', ':', 'f', 'f', 'f', 'f', ':'] ++ text.chars) = some text.chars := by
  have start : [':', ':', 'f', 'f', 'f', 'f', ':'].isPrefixOf
      ([':', ':', 'f', 'f', 'f', 'f', ':'] ++ text.chars) = true :=
    List.isPrefixOf_iff_prefix.mpr (List.prefix_append _ _)
  have behind : ([':', ':', 'f', 'f', 'f', 'f', ':'] ++ text.chars).drop 7 = text.chars := rfl
  rw [mappedIpv4, toList_mapped, if_pos start, behind]
  dsimp only
  rw [text.splitOn_chars, if_pos]
  refine ⟨rfl, List.all_eq_true.mpr fun piece member => ?_⟩
  obtain ⟨some_, digits⟩ := text.isDigit_of_mem_pieces member
  rw [List.all_eq_true.mpr digits, List.isEmpty_eq_false_iff.mpr some_]
  rfl

section Compressed

variable {back : Part} {fewer : ([] : List Group).length + back.values.length < 8}

theorem values_of_toLower_nil (lower : back.chars.map Char.toLower = []) : back.values = [] := by
  obtain ⟨groups, tail⟩ := back
  by_cases some_ : Part.pieces ⟨groups, tail⟩ = []
  · obtain ⟨noGroup, noTail⟩ := List.append_eq_nil_iff.mp some_
    obtain rfl : groups = [] := List.map_eq_nil_iff.mp noGroup
    cases tail with
    | none => rfl
    | some text => cases noTail
  · have pieces := Part.splitOn_toLower some_ lower
    rw [List.splitOn_nil] at pieces
    cases groups with
    | nil =>
      cases tail with
      | none => cases pieces
      | some text =>
        have nothing : [] = text.chars.map Char.toLower := (List.cons.inj pieces).1
        rw [text.map_toLower_chars] at nothing
        exact absurd text.point_mem_chars (nothing ▸ List.not_mem_nil)
    | cons group others =>
      have nothing : [] = group.chars.map Char.toLower := (List.cons.inj pieces).1
      exact absurd (List.map_eq_nil_iff.mp nothing.symm) group.chars_ne_nil

theorem values_of_toLower_one (lower : back.chars.map Char.toLower = ['1']) : back.values = [1] := by
  obtain ⟨groups, tail⟩ := back
  have some_ : Part.pieces ⟨groups, tail⟩ ≠ [] := by
    intro nothing
    rw [Part.chars, nothing] at lower
    cases lower
  have pieces : [['1']] = (Part.pieces ⟨groups, tail⟩).map (List.map Char.toLower) :=
    Part.splitOn_toLower some_ lower
  rcases groups with _ | ⟨group, _ | ⟨other, others⟩⟩
  · cases tail with
    | none => cases pieces
    | some text =>
      have whole : ['1'] = text.chars.map Char.toLower := (List.cons.inj pieces).1
      rw [text.map_toLower_chars] at whole
      exact absurd text.point_mem_chars (whole ▸ by decide)
  · cases tail with
    | none =>
      have whole : ['1'] = group.chars.map Char.toLower := (List.cons.inj pieces).1
      have value := @Group.value_of_toLower group [1] whole.symm
      show [group.value] = [1]
      rw [value]
      rfl
    | some text => cases (List.cons.inj pieces).2
  · cases (List.cons.inj pieces).2

theorem values_of_toLower_mapped {octets : List Char} (noColon : ':' ∉ octets) (point : '.' ∈ octets)
    (lower : back.chars.map Char.toLower = ['f', 'f', 'f', 'f'] ++ ':' :: octets) :
    ∃ text : Ipv4Text, octets = text.chars ∧ back.values = 0xFFFF :: text.address.groups := by
  obtain ⟨groups, tail⟩ := back
  have some_ : Part.pieces ⟨groups, tail⟩ ≠ [] := by
    intro nothing
    rw [Part.chars, nothing] at lower
    cases lower
  have parts : (['f', 'f', 'f', 'f'] ++ ':' :: octets).splitOn ':' =
      [['f', 'f', 'f', 'f'], octets] := by
    rw [List.splitOn_append_cons_self_of_not_mem (by decide), List.splitOn_eq_singleton noColon]
  have pieces := Part.splitOn_toLower some_ lower
  rw [parts] at pieces
  rcases groups with _ | ⟨group, _ | ⟨other, others⟩⟩
  · cases tail with
    | none => cases pieces
    | some text => cases (List.cons.inj pieces).2
  · obtain ⟨first, rest⟩ := List.cons.inj pieces
    cases tail with
    | none => cases rest
    | some text =>
      have second : octets = text.chars.map Char.toLower := (List.cons.inj rest).1
      have value := @Group.value_of_toLower group [15, 15, 15, 15] first.symm
      refine ⟨text, second.trans text.map_toLower_chars, ?_⟩
      show group.value :: text.address.groups = _
      rw [value]
      rfl
  · have second : octets = other.chars.map Char.toLower :=
      (List.cons.inj (List.cons.inj pieces).2).1
    exact absurd point (second ▸ other.point_not_mem_toLower)

/-- **A text that begins with a double colon** is refused if it is the shortest of the loopback or of
the unspecified address, or ends with four octets that are refused. -/
theorem isPublicIpv6_compressed
    (refused : isPublicIpv6 (Ipv6Text.compressed [] back fewer).chars = false) :
    (Ipv6Text.compressed [] back fewer).address.groups = [0, 0, 0, 0, 0, 0, 0, 1] ∨
      (Ipv6Text.compressed [] back fewer).address.groups = [0, 0, 0, 0, 0, 0, 0, 0] ∨
      ∃ embedded, (Ipv6Text.compressed [] back fewer).address.mapped = some embedded ∧
        isPublic embedded = false := by
  have groups : (Ipv6Text.compressed [] back fewer).address.groups =
      List.replicate (8 - (0 + back.values.length)) 0 ++ back.values := rfl
  have chars : (Ipv6Text.compressed [] back fewer).chars = ':' :: ':' :: back.chars := rfl
  rw [chars, isPublicIpv6_colons] at refused
  split at refused
  · rename_i one
    left
    rw [groups, values_of_toLower_one one]
    rfl
  · split at refused
    · rename_i nothing
      right
      left
      rw [groups, values_of_toLower_nil nothing]
      rfl
    · split at refused
      · rename_i octets maps
        obtain ⟨lower, noColon, point⟩ := mappedIpv4_eq_some maps
        obtain ⟨text, rfl, values⟩ := values_of_toLower_mapped noColon point lower
        rw [isPublicIpv4_chars] at refused
        refine Or.inr (Or.inr ⟨text.address, ?_, refused⟩)
        rw [Ipv6.mapped, groups, values]
        exact congrArg some (Ipv4.ofGroups_groups text.address)
      · cases refused

end Compressed

theorem isPublicIpv6_mapping (text : Ipv4Text) :
    isPublicIpv6 (Ipv6Text.mapping text).chars = isPublic text.address := by
  have chars : (Ipv6Text.mapping text).chars =
      ':' :: ':' :: (['f', 'f', 'f', 'f'] ++ ':' :: text.chars) := by
    have prefix_ : Group.chars ⟨List.replicate 4 ⟨15, false⟩, List.cons_ne_nil _ _, le_refl 4⟩ =
        ['f', 'f', 'f', 'f'] := by decide
    show [':', ':'] ++ [':'].intercalate
      [Group.chars ⟨List.replicate 4 ⟨15, false⟩, List.cons_ne_nil _ _, le_refl 4⟩, text.chars] = _
    rw [prefix_, List.intercalate_cons_cons, List.intercalate_singleton]
    rfl
  have lower : (['f', 'f', 'f', 'f'] ++ ':' :: text.chars).map Char.toLower =
      ['f', 'f', 'f', 'f'] ++ ':' :: text.chars := by
    rw [List.map_append, @List.map_cons _ _ _ ':', text.map_toLower_chars]
    rfl
  have maps : mappedIpv4 (':' :: ':' :: (['f', 'f', 'f', 'f'] ++ ':' :: text.chars)) =
      some text.chars := mappedIpv4_mapping text
  rw [chars, isPublicIpv6_colons, lower, maps, if_neg (by simp), if_neg (by simp)]
  exact isPublicIpv4_chars text

/-! ### All texts of an address -/

theorem isPublicIp_v4 (text : Ipv4Text) :
    isPublicIp (String.ofList text.chars) = isPublic text.address := by
  rw [isPublicIp, String.toList_ofList, if_neg text.colon_not_mem_chars, isPublicIpv4_chars]

theorem isPublicIp_v6 (text : Ipv6Text) :
    isPublicIp (String.ofList text.chars) = isPublicIpv6 text.chars := by
  have colon : ':' ∈ text.chars := by
    rcases text.chars_cases with ⟨group, rest, chars, _⟩ | ⟨back, fewer, rfl⟩
    · rw [chars]
      exact List.mem_append_right _ List.mem_cons_self
    · exact List.mem_cons_self
  rw [isPublicIp, String.toList_ofList, if_pos colon]

/-- The addresses all of whose texts get the right answer: those whose first group is refused in every
text, and those that no text is refused of and that are not internal. -/
def FilteredAlike : Address → Prop
  | .v4 _ => True
  | .v6 address => RefusedFirst address.first ∨
      (¬RefusedShort address.first ∧
        (∀ embedded, address.mapped = some embedded → isPublic embedded = true) ∧
        ∀ embedded, address.compatible = some embedded → embedded.internal = false)

section V6

variable {text : Ipv6Text}

theorem isPublicIpv6_of_refusedFirst (refused : RefusedFirst text.address.first) :
    isPublicIpv6 text.chars = false := by
  rcases text.chars_cases with ⟨group, rest, chars, value⟩ | ⟨back, fewer, rfl⟩
  · rw [← value] at refused
    have large : 0x1000 ≤ group.value := by
      unfold RefusedFirst at refused
      omega
    rw [chars, isPublicIpv6_group,
      (refusedGroup_iff group).mpr (Or.inl ⟨Group.length_eq_four large, refused⟩)]
    rfl
  · have zero : (Ipv6Text.compressed [] back fewer).address.first = 0 := by
      have groups : (Ipv6Text.compressed [] back fewer).address.groups =
          List.replicate (8 - (0 + back.values.length)) 0 ++ back.values := rfl
      obtain ⟨count, is⟩ : ∃ count, 8 - (0 + back.values.length) = count + 1 :=
        ⟨7 - back.values.length, by rw [List.length_nil] at fewer; omega⟩
      rw [Ipv6.first, groups, is, List.replicate_succ]
      rfl
    rw [zero] at refused
    exact absurd refused (by unfold RefusedFirst; omega)

theorem isPublicIpv6_of_filteredAlike (noFirst : ¬RefusedFirst text.address.first)
    (alike : FilteredAlike (.v6 text.address)) : isPublicIpv6 text.chars = true := by
  obtain ⟨noShort, mapped, compatible⟩ := alike.resolve_left noFirst
  rcases text.chars_cases with ⟨group, rest, chars, value⟩ | ⟨back, fewer, rfl⟩
  · have accepted : refusedGroup group = false := by
      rw [Bool.eq_false_iff, Ne, refusedGroup_iff, value]
      rintro (⟨_, first⟩ | ⟨_, _, short⟩ | ⟨_, short⟩)
      · exact noFirst first
      · exact noShort short
      · exact noShort short
    rw [chars, isPublicIpv6_group, accepted]
    rfl
  · rw [← Bool.not_eq_false]
    intro refused
    rcases isPublicIpv6_compressed refused with one | zero | ⟨embedded, maps, notPublic⟩
    · exact absurd (compatible _ (Ipv6.compatible_of_groups one)) (by decide)
    · exact absurd (compatible _ (Ipv6.compatible_of_groups zero)) (by decide)
    · rw [mapped embedded maps] at notPublic
      cases notPublic

theorem internal_of_filteredAlike {address : Ipv6} (noFirst : ¬RefusedFirst address.first)
    (alike : FilteredAlike (.v6 address)) : address.internal = false := by
  obtain ⟨_, mapped, compatible⟩ := alike.resolve_left noFirst
  rw [Bool.eq_false_iff]
  intro internal
  rw [Ipv6.internal, decide_eq_true_eq] at internal
  rcases internal with one | zero | unique | link | maps | embeds
  · exact absurd (compatible _ (Ipv6.compatible_of_groups one)) (by decide)
  · exact absurd (compatible _ (Ipv6.compatible_of_groups zero)) (by decide)
  · exact noFirst (Or.inl unique)
  · exact noFirst (Or.inr (Or.inl link))
  · obtain ⟨embedded, is, internal⟩ := (Option.any_eq_true _ _).mp maps
    have isPublic_ := mapped embedded is
    rw [isPublic, internal] at isPublic_
    cases isPublic_
  · obtain ⟨embedded, is, internal⟩ := (Option.any_eq_true _ _).mp embeds
    rw [compatible embedded is] at internal
    cases internal

end V6

theorem exists_refusedGroup {value : Nat} (short : RefusedShort value) :
    ∃ group : Group, group.value = value ∧ refusedGroup group = true := by
  by_cases two : value < 0x100
  · let group : Group :=
      ⟨[⟨Fin.ofNat 16 (value / 16), false⟩, ⟨Fin.ofNat 16 value, false⟩], List.cons_ne_nil _ _,
        (show 2 ≤ 4 by decide)⟩
    have same : group.value = value := by
      simp only [group, Group.value, HexDigit.number, List.foldl_cons, List.foldl_nil, Fin.val_ofNat]
      omega
    exact ⟨group, same, (refusedGroup_iff group).mpr (Or.inr (Or.inr ⟨rfl, same ▸ short⟩))⟩
  · let group : Group :=
      ⟨[⟨Fin.ofNat 16 (value / 256), false⟩, ⟨Fin.ofNat 16 (value / 16), false⟩,
        ⟨Fin.ofNat 16 value, false⟩], List.cons_ne_nil _ _, (show 3 ≤ 4 by decide)⟩
    have bounds : 0xFC0 ≤ value ∧ value < 0x1000 := by
      unfold RefusedShort at short
      omega
    have same : group.value = value := by
      simp only [group, Group.value, HexDigit.number, List.foldl_cons, List.foldl_nil, Fin.val_ofNat]
      omega
    exact ⟨group, same, (refusedGroup_iff group).mpr
      (Or.inr (Or.inl ⟨rfl, same ▸ bounds.1, same ▸ short⟩))⟩

theorem isPublicIp_of_v4 {text : String} {address : Ipv4} (denotes : Denotes text (.v4 address)) :
    isPublicIp text = isPublic address := by
  cases denotes
  exact isPublicIp_v4 _

theorem exists_form_of_v6 {text : String} {address : Ipv6} (denotes : Denotes text (.v6 address)) :
    ∃ form : Ipv6Text, form.address = address ∧ isPublicIp text = isPublicIpv6 form.chars := by
  cases denotes
  exact ⟨_, rfl, isPublicIp_v6 _⟩

theorem filteredAlike_of_filtered {text : String} {address : Ipv6}
    (noFirst : ¬RefusedFirst address.first) (filtered : Filtered text (.v6 address)) :
    FilteredAlike (.v6 address) := by
  obtain ⟨sound, same⟩ := filtered
  have answer : ∀ {form : Ipv6Text}, form.address = address →
      isPublicIp text = isPublicIpv6 form.chars := by
    rintro form rfl
    rw [← isPublicIp_v6]
    exact (same _ (.v6 form)).symm
  have starting : ∀ {group : Group}, group.value = address.first →
      isPublicIp text = !refusedGroup group := by
    intro group value
    rw [answer (Ipv6Text.address_startingWith value)]
    obtain ⟨rest, chars⟩ := Ipv6Text.chars_startingWith group address
    rw [chars, isPublicIpv6_group]
  have accepted : isPublicIp text = true := by
    have value := Group.value_padded address.first_lt
    have fits : refusedGroup (Group.padded address.first) = false := by
      rw [Bool.eq_false_iff, Ne, refusedGroup_iff, value]
      rintro (⟨_, isFirst⟩ | ⟨three, _⟩ | ⟨two, _⟩)
      · exact noFirst isFirst
      · cases three
      · cases two
    rw [starting value, fits]
    rfl
  have internal := sound accepted
  simp only [Address.internal, Ipv6.internal, decide_eq_false_iff_not, not_or] at internal
  refine Or.inr ⟨fun short => ?_, fun embedded maps => ?_, fun embedded embeds => ?_⟩
  · obtain ⟨group, value, refused⟩ := exists_refusedGroup short
    rw [starting value, refused] at accepted
    cases accepted
  · rw [answer (Ipv6Text.address_mapping maps), isPublicIpv6_mapping, Ipv4.address_text] at accepted
    exact accepted
  · have none_ := internal.2.2.2.2.2
    rw [embeds, Option.any_some, Bool.not_eq_true] at none_
    exact none_

/-- **When the filter is sound of an address**, and answers all of its texts alike. -/
theorem isPublicIp_filtered_iff {text : String} {address : Address}
    (denotes : Denotes text address) : Filtered text address ↔ FilteredAlike address := by
  cases address with
  | v4 address =>
    refine iff_of_true ⟨fun accepted => ?_, fun other denoted => ?_⟩ trivial
    · rw [isPublicIp_of_v4 denotes, isPublic, Bool.and_eq_true, Bool.not_eq_true'] at accepted
      exact accepted.1
    · rw [isPublicIp_of_v4 denoted, isPublicIp_of_v4 denotes]
  | v6 address =>
    by_cases first : RefusedFirst address.first
    · have refused : ∀ {other}, Denotes other (.v6 address) → isPublicIp other = false := by
        intro other denoted
        obtain ⟨form, rfl, is⟩ := exists_form_of_v6 denoted
        rw [is, isPublicIpv6_of_refusedFirst first]
      refine iff_of_true ⟨fun accepted => ?_, fun other denoted => ?_⟩ (Or.inl first)
      · rw [refused denotes] at accepted
        cases accepted
      · rw [refused denoted, refused denotes]
    · refine ⟨filteredAlike_of_filtered first, fun alike => ?_⟩
      have accepted : ∀ {other}, Denotes other (.v6 address) → isPublicIp other = true := by
        intro other denoted
        obtain ⟨form, rfl, is⟩ := exists_form_of_v6 denoted
        rw [is, isPublicIpv6_of_filteredAlike first alike]
      refine ⟨fun _ => internal_of_filteredAlike first alike, fun other denoted => ?_⟩
      rw [accepted denoted, accepted denotes]

def loopback : Ipv6 := ⟨[0, 0, 0, 0, 0, 0, 0, 1], rfl, by decide⟩

/-- A public address: its texts are accepted. -/
theorem isPublicIp_filtered_public : Denotes "2001:4860:4860::8888"
      (.v6 ⟨[0x2001, 0x4860, 0x4860, 0, 0, 0, 0, 0x8888], rfl, by decide⟩) ∧
    Filtered "2001:4860:4860::8888"
      (.v6 ⟨[0x2001, 0x4860, 0x4860, 0, 0, 0, 0, 0x8888], rfl, by decide⟩) := by
  have denotes : Denotes "2001:4860:4860::8888"
      (.v6 ⟨[0x2001, 0x4860, 0x4860, 0, 0, 0, 0, 0x8888], rfl, by decide⟩) :=
    .v6 (.compressed [.padded 0x2001, .padded 0x4860, .padded 0x4860] ⟨[.padded 0x8888], none⟩
      (by decide))
  have noShort : ¬RefusedShort 0x2001 := by simp [RefusedShort]
  exact ⟨denotes, (isPublicIp_filtered_iff denotes).mpr (Or.inr ⟨noShort, nofun, nofun⟩)⟩

/-- **The loopback address, written in full**, is accepted: only its shortest text is refused. -/
theorem fullLoopback_accepted : Denotes "0:0:0:0:0:0:0:1" (.v6 loopback) ∧
    isPublicIp "0:0:0:0:0:0:0:1" = true ∧ (Address.v6 loopback).internal = true ∧
    Denotes "::1" (.v6 loopback) ∧ isPublicIp "::1" = false := by
  refine ⟨?_, by decide, by decide, ?_, by decide⟩
  · exact .v6 (.full ⟨List.replicate 7 ⟨[⟨0, false⟩], nofun, by decide⟩ ++
      [⟨[⟨1, false⟩], nofun, by decide⟩], none⟩ rfl)
  · exact .v6 (.compressed [] ⟨[⟨[⟨1, false⟩], nofun, by decide⟩], none⟩ (by decide))

end OpenEstate.Plugins
