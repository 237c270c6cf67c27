/-
**Taking turns.**

Every member of a group bears the stamp of its last turn, or none. A turn goes to a member whose
stamp comes after nobody's, and it is stamped later than everything so far. However the stamps are
at first, whoever has had a turn waits then for all the others.

* `Rotates` are such turns one after the other;
* `Rotates.inRotation`: nobody has two of so many turns in a row as there are members;
* `InRotation.perm`: so many turns in a row name each member once;
* `InRotation.count_le_succ`: no two members are ever more than one turn apart.
-/

import Mathlib.Data.List.Nodup
import Mathlib.Data.List.Perm.Subperm
import Mathlib.Order.WithBot

namespace Relational

open Function (update update_self update_of_ne)

variable {M N T : Type} {members picks : List M}

/-! ### Rotations -/

/-- Turns of members in rotation: of so many in a row as there are members, nobody has two. -/
structure InRotation (members picks : List M) : Prop where
  among : picks ⊆ members
  distinct : ∀ window, window <:+: picks → window.length ≤ members.length → window.Nodup

theorem InRotation.of_infix {some_ : List M} (inRotation : InRotation members picks)
    (isInfix : some_ <:+: picks) : InRotation members some_ where
  among := List.Subset.trans isInfix.subset inRotation.among
  distinct := fun window within => inRotation.distinct window (within.trans isInfix)

theorem InRotation.perm (inRotation : InRotation members picks) {window : List M}
    (isInfix : window <:+: picks) (full : window.length = members.length) :
    window.Perm members := by
  have distinct := inRotation.distinct window isInfix full.le
  have among := List.Subset.trans isInfix.subset inRotation.among
  exact (List.subperm_of_subset distinct among).perm_of_length_le full.ge

theorem InRotation.count_le_succ [DecidableEq M] (inRotation : InRotation members picks)
    (nodup : members.Nodup) {one other : M} (isMember : other ∈ members) :
    picks.count one ≤ picks.count other + 1 := by
  induction length : picks.length using Nat.strong_induction_on generalizing picks with
  | _ length_ ih =>
    subst length
    by_cases short : picks.length ≤ members.length
    · have distinct := inRotation.distinct picks List.infix_rfl short
      exact (List.nodup_iff_count_le_one.mp distinct one).trans (Nat.le_add_left ..)
    · -- a round comes first, in which everybody has one turn
      have long := Nat.le_of_not_le short
      have round : (picks.take members.length).Perm members :=
        inRotation.perm (List.take_prefix ..).isInfix (List.length_take_of_le long)
      have positive : 0 < members.length := List.length_pos_of_mem isMember
      have rest := ih (picks.drop members.length).length
        (by rw [List.length_drop]; omega)
        (inRotation.of_infix (List.drop_suffix ..).isInfix) rfl
      have once : (picks.take members.length).count other = 1 := by
        rw [round.count_eq]
        exact List.count_eq_one_of_mem nodup isMember
      have atMost : (picks.take members.length).count one ≤ 1 := by
        rw [round.count_eq]
        exact List.nodup_iff_count_le_one.mp nodup one
      have parts : ∀ member, picks.count member =
          (picks.take members.length).count member + (picks.drop members.length).count member := by
        intro member
        rw [← List.count_append, List.take_append_drop]
      rw [parts one, parts other]
      omega

theorem InRotation.map {name : M → N} (inRotation : InRotation members picks)
    (apart : ∀ one ∈ members, ∀ other ∈ members, name one = name other → one = other) :
    InRotation (members.map name) (picks.map name) where
  among := List.map_subset name inRotation.among
  distinct := by
    rintro window ⟨early, late, same⟩ short
    obtain ⟨_, others, rfl, named, _⟩ := List.map_eq_append_iff.mp same.symm
    obtain ⟨first, some_, rfl, _, rfl⟩ := List.map_eq_append_iff.mp named
    rw [List.length_map, List.length_map] at short
    have isInfix : some_ <:+: first ++ some_ ++ others := ⟨first, others, rfl⟩
    have among := List.Subset.trans isInfix.subset inRotation.among
    refine (inRotation.distinct some_ isInfix short).map_on ?_
    exact fun one isOne other isOther => apart one (among isOne) other (among isOther)

/-! ### The longest wait -/

section Rotates

variable [DecidableEq M] [LinearOrder T] {stamps last : M → WithBot T}

inductive Rotates (members : List M) : (M → WithBot T) → List M → (M → WithBot T) → Prop
  | nil {stamps : M → WithBot T} : Rotates members stamps [] stamps
  | cons {stamps last : M → WithBot T} {member : M} {stamp : T} {rest : List M}
      (isMember : member ∈ members) (least : ∀ other ∈ members, stamps member ≤ stamps other)
      (later : ∀ other ∈ members, stamps other < stamp)
      (more : Rotates members (update stamps member ↑stamp) rest last) :
      Rotates members stamps (member :: rest) last

theorem Rotates.subset (rotates : Rotates members stamps picks last) : picks ⊆ members := by
  induction rotates with
  | nil => exact List.nil_subset _
  | cons isMember _ _ _ ih => exact List.cons_subset.mpr ⟨isMember, ih⟩

theorem Rotates.split {early late : List M}
    (rotates : Rotates members stamps (early ++ late) last) :
    ∃ middle, Rotates members stamps early middle ∧ Rotates members middle late last := by
  induction early generalizing stamps with
  | nil => exact ⟨stamps, .nil, rotates⟩
  | cons member rest ih =>
    cases rotates with
    | cons isMember least later more =>
      obtain ⟨middle, first, second⟩ := ih more
      exact ⟨middle, .cons isMember least later first, second⟩

theorem Rotates.stamp_eq (rotates : Rotates members stamps picks last) {member : M}
    (waits : member ∉ picks) : last member = stamps member := by
  induction rotates with
  | nil => rfl
  | cons isMember least later more ih =>
    rw [List.mem_cons, not_or] at waits
    rw [ih waits.2, update_of_ne waits.1]

theorem Rotates.others_first {member : M} {before after : List M}
    (rotates : Rotates members stamps (before ++ member :: after) last) (waits : member ∉ before)
    (latest : ∀ other ∈ members, other ≠ member → stamps other < stamps member) :
    ∀ other ∈ members, other ≠ member → other ∈ before := by
  intro other isMember apart
  by_contra absent
  obtain ⟨middle, first, second⟩ := rotates.split
  cases second with
  | cons _ least _ _ =>
    have early := least other isMember
    rw [first.stamp_eq waits, first.stamp_eq absent] at early
    exact absurd (latest other isMember apart) (not_lt.mpr early)

theorem Rotates.nodup_prefix (nodup : members.Nodup) (rotates : Rotates members stamps picks last)
    {window : List M} (isPrefix : window <+: picks) (short : window.length ≤ members.length) :
    window.Nodup := by
  induction rotates generalizing window with
  | nil =>
    rw [List.prefix_nil.mp isPrefix]
    exact List.nodup_nil
  | @cons stamps last member stamp rest isMember least later more ih =>
    rcases List.prefix_cons_iff.mp isPrefix with rfl | ⟨tail, rfl, shorter⟩
    · exact List.nodup_nil
    rw [List.length_cons] at short
    refine List.nodup_cons.mpr ⟨fun again => ?_, ih shorter (by omega)⟩
    obtain ⟨before, after, rfl, waits⟩ := List.eq_append_cons_of_mem again
    obtain ⟨further, rfl⟩ := shorter
    -- between two turns of one member all the others have theirs
    rw [List.append_assoc, List.cons_append] at more
    have between := more.others_first waits fun other other_ apart => by
      rw [update_self, update_of_ne apart]
      exact later other other_
    have others : members.erase member ⊆ before := fun other remains =>
      have isOther := nodup.mem_erase_iff.mp remains
      between other isOther.2 isOther.1
    have enough := (List.subperm_of_subset (nodup.erase member) others).length_le
    rw [List.length_erase_of_mem isMember] at enough
    rw [List.length_append, List.length_cons] at short
    omega

theorem Rotates.inRotation (nodup : members.Nodup) (rotates : Rotates members stamps picks last) :
    InRotation members picks where
  among := rotates.subset
  distinct := by
    rintro window ⟨early, late, rfl⟩ short
    rw [List.append_assoc] at rotates
    obtain ⟨middle, _, rest⟩ := rotates.split
    exact rest.nodup_prefix nodup (List.prefix_append ..) short

end Rotates

end Relational
