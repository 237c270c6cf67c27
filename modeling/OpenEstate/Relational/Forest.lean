/-
**Forests of pointers.**

A node points to another one, or is a root. The pointers form a forest if following them leads from
every node to a root; there is no circle then. Pointing one root to another one keeps a forest a
forest.

* `Follows` is one pointer, `Below` some of them after each other, `nth` a number of them;
* `IsForest.acyclic`: there is no circle in a forest;
* `IsForest.link`: one root may be pointed to another one;
* `NoCircle.point_iff`: any node may be pointed to one that it is not above, and to no other.
-/

import Mathlib.Logic.Function.Basic
import Mathlib.Logic.Relation

namespace Relational

open Function (update update_self update_of_ne)
open Relation (ReflTransGen TransGen)

variable {N : Type} {target : N → Option N} {node root other : N}

def Follows (target : N → Option N) (node next : N) : Prop :=
  target node = some next

abbrev Below (target : N → Option N) : N → N → Prop :=
  ReflTransGen (Follows target)

def IsForest (target : N → Option N) : Prop :=
  ∀ node, ∃ root, Below target node root ∧ target root = none

theorem Below.eq_of_root (below : Below target root node) (isRoot : target root = none) :
    node = root := by
  rcases below.cases_head with same | ⟨next, follows, _⟩
  · exact same.symm
  · have follows : target root = some next := follows
    rw [isRoot] at follows
    cases follows

theorem Below.total {first second : N} (toFirst : Below target node first)
    (toSecond : Below target node second) :
    Below target first second ∨ Below target second first :=
  ReflTransGen.total_of_right_unique
    (fun _ _ _ follows follows' => Option.some.inj (Eq.trans (Eq.symm follows) follows'))
    toFirst toSecond

theorem Below.root_unique {first second : N} (toFirst : Below target node first)
    (toSecond : Below target node second) (isFirst : target first = none)
    (isSecond : target second = none) : first = second := by
  rcases toFirst.total toSecond with below | below
  · exact (below.eq_of_root isFirst).symm
  · exact below.eq_of_root isSecond

theorem circle_of_below (circle : TransGen (Follows target) node node)
    (below : Below target node other) : TransGen (Follows target) other other := by
  induction below with
  | refl => exact circle
  | @tail middle next _ follows ih =>
    obtain ⟨chosen, chooses, rest⟩ := TransGen.head'_iff.mp ih
    obtain rfl := Option.some.inj (Eq.trans (Eq.symm chooses) follows)
    exact TransGen.tail' rest follows

theorem not_circle_of_root (below : Below target node root) (isRoot : target root = none) :
    ¬TransGen (Follows target) node node := by
  intro circle
  obtain ⟨next, follows, _⟩ := TransGen.head'_iff.mp (circle_of_below circle below)
  have follows : target root = some next := follows
  rw [isRoot] at follows
  cases follows

theorem IsForest.acyclic (forest : IsForest target) (node : N) :
    ¬TransGen (Follows target) node node := by
  obtain ⟨root, toRoot, isRoot⟩ := forest node
  exact not_circle_of_root toRoot isRoot

section Link

variable [DecidableEq N] {old new : N}

theorem Below.link (isRoot : target old = none) (below : Below target node other) :
    Below (update target old (some new)) node other := by
  refine ReflTransGen.mono (fun first second follows => ?_) _ _ below
  have follows : target first = some second := follows
  have apart : first ≠ old := by
    rintro rfl
    rw [isRoot] at follows
    cases follows
  exact (update_of_ne apart ..).trans follows

theorem IsForest.link (forest : IsForest target) (isRoot : target old = none)
    (isNew : target new = none) (apart : new ≠ old) : IsForest (update target old (some new)) := by
  intro node
  obtain ⟨root, below, noTarget⟩ := forest node
  by_cases same : root = old
  · subst same
    refine ⟨new, (below.link isRoot).tail (update_self ..), ?_⟩
    rwa [update_of_ne apart]
  · refine ⟨root, below.link isRoot, ?_⟩
    rwa [update_of_ne same]

end Link

/-! ### A number of pointers -/

def nth (target : N → Option N) : Nat → N → Option N
  | 0, node => some node
  | places + 1, node => (target node).bind (nth target places)

theorem below_iff_exists_nth : Below target node other ↔
    ∃ places, nth target places node = some other := by
  constructor
  · intro below
    induction below using ReflTransGen.head_induction_on with
    | refl => exact ⟨0, rfl⟩
    | @head first next follows _ ih =>
      obtain ⟨places, leads⟩ := ih
      refine ⟨places + 1, ?_⟩
      have follows : target first = some next := follows
      rw [nth, follows]
      exact leads
  · rintro ⟨places, leads⟩
    induction places generalizing node with
    | zero =>
      obtain rfl := Option.some.inj leads
      exact .refl
    | succ places ih =>
      obtain ⟨next, follows, leads⟩ := Option.bind_eq_some_iff.mp leads
      exact .head follows (ih leads)

theorem nth_add (first second : Nat) (node : N) :
    nth target (first + second) node = (nth target first node).bind (nth target second) := by
  induction first generalizing node with
  | zero => rw [Nat.zero_add, nth, Option.bind_some]
  | succ first ih =>
    rw [Nat.succ_add, nth, nth]
    cases target node with
    | none => rfl
    | some next => exact ih next

theorem nth_mono {fewer : N → Option N}
    (within : ∀ {node next}, fewer node = some next → target node = some next) {places : Nat}
    (leads : nth fewer places node = some other) : nth target places node = some other := by
  induction places generalizing node with
  | zero => exact leads
  | succ places ih =>
    obtain ⟨next, follows, leads⟩ := Option.bind_eq_some_iff.mp leads
    rw [nth, within follows]
    exact ih leads

theorem exists_root_of_nth {places : Nat} (ends : nth target places node = none) :
    ∃ root, Below target node root ∧ target root = none := by
  induction places generalizing node with
  | zero => cases ends
  | succ places ih =>
    cases points : target node with
    | none => exact ⟨node, .refl, points⟩
    | some next =>
      rw [nth, points, Option.bind_some] at ends
      obtain ⟨root, below, isRoot⟩ := ih ends
      exact ⟨root, .head points below, isRoot⟩

/-! ### Circles -/

def NoCircle (target : N → Option N) : Prop :=
  ∀ node, ¬TransGen (Follows target) node node

theorem NoCircle.nth_ne (noCircle : NoCircle target) (places : Nat) (node : N) :
    nth target (places + 1) node ≠ some node := by
  intro leads
  obtain ⟨next, follows, leads⟩ := Option.bind_eq_some_iff.mp leads
  exact noCircle node (TransGen.head' follows (below_iff_exists_nth.mpr ⟨places, leads⟩))

section Point

variable [DecidableEq N] {old new : N} {chosen : Option N}

theorem below_update_iff : Below (update target old chosen) node old ↔ Below target node old := by
  constructor
  · intro below
    induction below using ReflTransGen.head_induction_on with
    | refl => exact .refl
    | @head first next follows _ ih =>
      by_cases same : first = old
      · exact same ▸ .refl
      · exact .head (Eq.trans (Eq.symm (update_of_ne same ..)) follows) ih
  · intro below
    induction below using ReflTransGen.head_induction_on with
    | refl => exact .refl
    | @head first next follows _ ih =>
      by_cases same : first = old
      · exact same ▸ .refl
      · exact .head (Eq.trans (update_of_ne same ..) follows) ih

theorem NoCircle.below_of_circle (noCircle : NoCircle target)
    (circle : TransGen (Follows (update target old chosen)) node node) :
    Below (update target old chosen) node old := by
  by_contra apart
  refine noCircle node ?_
  have along : ∀ {last}, TransGen (Follows (update target old chosen)) node last →
      TransGen (Follows target) node last := by
    intro last way
    induction way with
    | @single next follows =>
      have other : node ≠ old := fun same => apart (same ▸ .refl)
      exact .single (Eq.trans (Eq.symm (update_of_ne other ..)) follows)
    | @tail middle next way follows ih =>
      have other : middle ≠ old := fun same => apart (same ▸ way.to_reflTransGen)
      exact ih.tail (Eq.trans (Eq.symm (update_of_ne other ..)) follows)
  exact along circle

theorem NoCircle.unpoint (noCircle : NoCircle target) : NoCircle (update target old none) := by
  intro node circle
  have circles := circle_of_below circle (noCircle.below_of_circle circle)
  obtain ⟨next, follows, _⟩ := TransGen.head'_iff.mp circles
  cases Eq.trans (Eq.symm (update_self ..)) follows

theorem NoCircle.point_iff (noCircle : NoCircle target) :
    NoCircle (update target old (some new)) ↔ ¬Below target new old := by
  constructor
  · intro still below
    exact still old (TransGen.head' (update_self ..) (below_update_iff.mpr below))
  · intro apart node circle
    have circles := circle_of_below circle (noCircle.below_of_circle circle)
    obtain ⟨next, follows, below⟩ := TransGen.head'_iff.mp circles
    obtain rfl : new = next :=
      Option.some.inj (Eq.trans (Eq.symm (update_self old (some new) target)) follows)
    exact apart (below_update_iff.mp below)

theorem NoCircle.point_of_fresh (noCircle : NoCircle target) (fresh : ∀ node, target node ≠ some old)
    (apart : chosen ≠ some old) : NoCircle (update target old chosen) := by
  cases chosen with
  | none => exact noCircle.unpoint
  | some new =>
    rw [noCircle.point_iff]
    intro below
    rcases below.cases_tail with same | ⟨node, _, follows⟩
    · exact apart (congrArg some same.symm)
    · exact fresh node follows

end Point

end Relational
