/-
**Limiting attempts.**

A limiter counts attempts; with as many as are allowed the counter is locked for a period, in which no
attempt is let through, and the first one after it begins a new count. A counter in fixed windows opens
a window with the first hit after the one before it has ended; with more hits than are allowed a block
begins, in which no hit is counted, and the first hit after a block opens a window again.

* `Limiter.reserve`: one more attempt; `Limiter.Bounds.reserve`: in a window as long as the period no more
  attempts are let through than are allowed;
* `answers` is what a machine that takes inputs, answers them and goes on in other states answers to a
  list of them, `visits` the states in which it takes them; `answers_eq_iff`: two machines whose states
  are kept related answer alike exactly if the second one takes no input in a state in which their answers
  differ;
* `FixedWindow.hit` is the state of the counter in windows after one more hit.
-/

import Mathlib.Data.Nat.Basic
import Mathlib.Data.Option.Basic
import Mathlib.Order.Basic

namespace Relational

/-! ### Attempts until a lock -/

/-- How many attempts have been counted, and until when no more are let through. -/
structure Limiter where
  count : Nat
  lockedUntil : Option Nat
  deriving DecidableEq

namespace Limiter

def zero : Limiter := ⟨0, none⟩

def attempt (limiter : Limiter) : Nat :=
  if limiter.lockedUntil = none then limiter.count + 1 else 1

def Open (now : Nat) (limiter : Limiter) : Prop :=
  ∀ deadline ∈ limiter.lockedUntil, deadline ≤ now

variable (limit period : Nat)

def reserve (now : Nat) (limiter : Limiter) : Limiter where
  count := limiter.attempt
  lockedUntil := if limit ≤ limiter.attempt then some (now + period) else none

/-- What holds of a counter after some attempts have been let through since the beginning of a window,
as long as it lasts: they are counted, or no more are let through. -/
def Bounds (start clock granted : Nat) (limiter : Limiter) : Prop :=
  clock < start + period → granted = 0 ∨
    (limiter.lockedUntil = none ∧ granted ≤ limiter.count ∧ granted < limit) ∨
    ∃ deadline, limiter.lockedUntil = some deadline ∧ start + period ≤ deadline

variable {limit period} {start clock now granted : Nat} {limiter : Limiter}

theorem Bounds.initial : Bounds limit period start clock 0 limiter :=
  fun _ => Or.inl rfl

theorem Bounds.later (bounds : Bounds limit period start clock granted limiter)
    (later : clock ≤ now) : Bounds limit period start now granted limiter :=
  fun within => bounds (Nat.lt_of_le_of_lt later within)

theorem Bounds.reserve (bounds : Bounds limit period start clock granted limiter)
    (positive : 0 < limit) (later : clock ≤ now) (isOpen : limiter.Open now) (since : start ≤ now)
    (within : now < start + period) :
    granted + 1 ≤ limit ∧
      Bounds limit period start now (granted + 1) (limiter.reserve limit period now) := by
  have counted : granted + 1 ≤ limit ∧ granted + 1 ≤ limiter.attempt := by
    rcases bounds (Nat.lt_of_le_of_lt later within) with
      rfl | ⟨unlocked, atLeast, less⟩ | ⟨deadline, locked, beyond⟩
    · refine ⟨positive, ?_⟩
      rw [attempt]
      split <;> omega
    · rw [attempt, if_pos unlocked]
      omega
    · have ended := isOpen deadline locked
      omega
  refine ⟨counted.1, fun _ => Or.inr ?_⟩
  rcases Nat.lt_or_ge limiter.attempt limit with fewer | enough
  · refine Or.inl ⟨if_neg (Nat.not_le.mpr fewer), counted.2, ?_⟩
    exact Nat.lt_of_le_of_lt counted.2 fewer
  · exact Or.inr ⟨now + period, if_pos enough, Nat.add_le_add_right since period⟩

theorem reserve_of_locked {deadline : Nat} (several : 1 < limit)
    (locked : limiter.lockedUntil = some deadline) :
    limiter.reserve limit period now = ⟨1, none⟩ := by
  have first : limiter.attempt = 1 := by
    rw [Limiter.attempt, locked]
    exact if_neg nofun
  rw [Limiter.reserve, first, if_neg (Nat.not_le.mpr several)]

end Limiter

/-! ### Machines that answer -/

section Answers

variable {ι σ τ ο : Type}

section Machine

variable (react : ι → σ → ο × σ)

def answers : σ → List ι → List ο
  | _, [] => []
  | state, input :: rest => (react input state).1 :: answers (react input state).2 rest

def visits : σ → List ι → List (σ × ι)
  | _, [] => []
  | state, input :: rest => (state, input) :: visits (react input state).2 rest

end Machine

/-- **Two machines answer alike** exactly if the second takes no input that tells them apart. Their
states are related after an input, and are so again after the next one, which is no less. -/
theorem answers_eq_iff [Preorder ι] {first : ι → σ → ο × σ} {second : ι → τ → ο × τ}
    (Related : ι → σ → τ → Prop) (TellsApart : τ → ι → Prop)
    (kept : ∀ {last input state other}, Related last state other → last ≤ input →
      ¬TellsApart other input → (first input state).1 = (second input other).1 ∧
        Related input (first input state).2 (second input other).2)
    (differs : ∀ {last input state other}, Related last state other → last ≤ input →
      TellsApart other input → (first input state).1 ≠ (second input other).1)
    {last : ι} {state : σ} {other : τ} (related : Related last state other) {inputs : List ι}
    (ordered : (last :: inputs).Pairwise (· ≤ ·)) :
    answers first state inputs = answers second other inputs ↔
      ∀ visit ∈ visits second other inputs, ¬TellsApart visit.1 visit.2 := by
  induction inputs generalizing last state other with
  | nil => exact iff_of_true rfl nofun
  | cons input rest ih =>
    obtain ⟨later, ordered⟩ := List.pairwise_cons.mp ordered
    have le := later input List.mem_cons_self
    rw [answers, answers, visits, List.cons.injEq, List.forall_mem_cons]
    by_cases apart : TellsApart other input
    · exact iff_of_false (fun same => differs related le apart same.1)
        fun none_ => none_.1 apart
    · obtain ⟨same, next⟩ := kept related le apart
      rw [ih next ordered]
      exact ⟨fun rest => ⟨apart, rest.2⟩, fun rest => ⟨same, rest.2⟩⟩

end Answers

/-! ### Windows -/

/-- How long a window is, how many hits are allowed in it, and how long a block is. -/
structure WindowLimits where
  ttl : ℕ
  limit : ℕ
  blockDuration : ℕ
  ttl_pos : 0 < ttl
  limit_pos : 0 < limit
  blockDuration_pos : 0 < blockDuration

/-- The hits of the latest window, until when it lasts, and until when hits are blocked. -/
inductive FixedWindow
  | idle
  | counting (hits : List ℕ) (endsAt : ℕ)
  | blocked (hits : List ℕ) (endsAt blockEndsAt : ℕ)

namespace FixedWindow

variable (limits : WindowLimits) (now : ℕ)

def counted (hits : List ℕ) (endsAt : ℕ) : FixedWindow :=
  if limits.limit < hits.length then blocked hits endsAt (now + limits.blockDuration)
  else counting hits endsAt

def opened : FixedWindow := counted limits now [now] (now + limits.ttl)

/-- The state after one more hit. Windows follow each other during a block, too. -/
def hit : FixedWindow → FixedWindow
  | idle => opened limits now
  | counting hits endsAt =>
    if now < endsAt then counted limits now (hits ++ [now]) endsAt else opened limits now
  | blocked hits endsAt blockEndsAt =>
    if now < blockEndsAt then
      blocked hits (if now < endsAt then endsAt else now + limits.ttl) blockEndsAt
    else opened limits now

theorem opened_eq : opened limits now = counting [now] (now + limits.ttl) :=
  if_neg (Nat.not_lt.mpr limits.limit_pos)

end FixedWindow

end Relational
