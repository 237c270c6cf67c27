/-
**A cache of a value that only grows.**

The value that counts is elsewhere; the cache holds a copy under a key, for some time to live. Who
reads the value writes it to the cache later, and the larger of what the key holds and what is
written is kept. A write that comes after the key has gone can bring back a value of long ago, so
what keeps the cache fresh is that a write comes sooner after its read than a key expires.

* `setMax` is the write, `live` what a key holds;
* `MaxCell` is one key with the values that have been read and not yet written, `MaxCell.Move` what
  can happen to it;
* `MaxCell.Sound` is kept by every move, and `MaxCell.Fresh`, that the cache yields nothing below a
  floor, by every move that does not drop the key;
* `MaxCell.Aging`: whatever is below a floor is gone after twice the time to live.
-/

import Mathlib.Order.Lattice

namespace Relational

variable {V : Type}

structure Cached (V : Type) where
  value : V
  expiresAt : Nat
  deriving DecidableEq

def live (now : Nat) (held : Option (Cached V)) : Option V :=
  (held.filter fun cached => now < cached.expiresAt).map Cached.value

theorem live_eq_some {now : Nat} {held : Option (Cached V)} {value : V} :
    live now held = some value ↔
      ∃ cached, held = some cached ∧ now < cached.expiresAt ∧ cached.value = value := by
  simp [live, Option.map_eq_some_iff, Option.filter_eq_some_iff, and_assoc]

theorem live_eq_none {now : Nat} {held : Option (Cached V)} :
    live now held = none ↔ ∀ cached, held = some cached → cached.expiresAt ≤ now := by
  cases held with
  | none => simp [live]
  | some cached => simp [live, Option.filter]

section Write

variable [LinearOrder V]

/-- Write a value if the key holds none, or a smaller one; the answer is what the key holds then. -/
def setMax (ttl now : Nat) (value : V) (held : Option (Cached V)) : V × Option (Cached V) :=
  match live now held with
  | some current => if current < value then (value, some ⟨value, now + ttl⟩) else (current, held)
  | none => (value, some ⟨value, now + ttl⟩)

theorem setMax_cases (ttl now : Nat) (value : V) (held : Option (Cached V)) :
    (setMax ttl now value held = (value, some ⟨value, now + ttl⟩) ∧
        ∀ current, live now held = some current → current < value) ∨
      ∃ current, live now held = some current ∧ value ≤ current ∧
        setMax ttl now value held = (current, held) := by
  unfold setMax
  cases holds : live now held with
  | none => exact Or.inl ⟨rfl, nofun⟩
  | some current =>
    by_cases smaller : current < value
    · refine Or.inl ⟨by simp [smaller], fun other same => ?_⟩
      rwa [← Option.some.inj same]
    · exact Or.inr ⟨current, rfl, not_lt.mp smaller, by simp [smaller]⟩

theorem le_setMax (ttl now : Nat) (value : V) (held : Option (Cached V)) :
    value ≤ (setMax ttl now value held).1 := by
  rcases setMax_cases ttl now value held with ⟨written, _⟩ | ⟨current, _, larger, kept⟩
  · rw [written]
  · rw [kept]
    exact larger

end Write

/-! ### One key -/

/-- One key: the clock, the value that counts, what the key holds, and which values have been read
at which instants and have still to be written. -/
structure MaxCell (V : Type) where
  now : Nat
  current : V
  held : Option (Cached V)
  pending : V → Nat → Prop

namespace MaxCell

variable [LinearOrder V] {ttl : Nat} {before after : MaxCell V} {floor : V}

/-- What can happen: time passes, the value grows or is read, a value is written in time, or the key
is dropped. A value that was read may be given up at any moment. -/
inductive Move (ttl : Nat) (before after : MaxCell V) : Prop
  | wait (clock : before.now ≤ after.now) (same : after.current = before.current)
      (held : after.held = before.held)
      (pending : ∀ value since, after.pending value since → before.pending value since)
  | learn (clock : after.now = before.now) (grows : before.current ≤ after.current)
      (held : after.held = before.held)
      (pending : ∀ value since, after.pending value since → before.pending value since ∨
        value = after.current ∧ since = before.now)
  | write (value : V) (since : Nat) (read : before.pending value since)
      (inTime : before.now < since + ttl) (clock : after.now = before.now)
      (same : after.current = before.current)
      (held : after.held = (setMax ttl before.now value before.held).2)
      (pending : ∀ value since, after.pending value since → before.pending value since)
  | drop (clock : after.now = before.now) (same : after.current = before.current)
      (held : after.held = none)
      (pending : ∀ value since, after.pending value since → before.pending value since)

/-- What is read or held is not above the value that counts, and a copy outlasts the values read
before it that have still to be written. -/
structure Sound (ttl : Nat) (cell : MaxCell V) : Prop where
  held_le : ∀ cached, cell.held = some cached → cached.value ≤ cell.current
  expires : ∀ cached, cell.held = some cached → cached.expiresAt ≤ cell.now + ttl
  pending_le : ∀ value since, cell.pending value since → value ≤ cell.current ∧ since ≤ cell.now
  outlasts : ∀ cached, cell.held = some cached → ∀ value since, cell.pending value since →
    value < cached.value → since + ttl ≤ cached.expiresAt

theorem Sound.move (sound : before.Sound ttl) (moves : Move ttl before after) :
    after.Sound ttl := by
  cases moves with
  | wait clock same held pending =>
    refine ⟨?_, ?_, ?_, ?_⟩
    · rw [held, same]
      exact sound.held_le
    · rw [held]
      exact fun cached holds => (sound.expires cached holds).trans (Nat.add_le_add_right clock _)
    · intro value since read
      obtain ⟨le, earlier⟩ := sound.pending_le value since (pending value since read)
      exact ⟨same ▸ le, earlier.trans clock⟩
    · rw [held]
      exact fun cached holds value since read =>
        sound.outlasts cached holds value since (pending value since read)
  | learn clock grows held pending =>
    refine ⟨?_, ?_, ?_, ?_⟩
    · rw [held]
      exact fun cached holds => (sound.held_le cached holds).trans grows
    · rw [held, clock]
      exact sound.expires
    · intro value since read
      rcases pending value since read with old | ⟨rfl, rfl⟩
      · obtain ⟨le, earlier⟩ := sound.pending_le value since old
        exact ⟨le.trans grows, clock ▸ earlier⟩
      · exact ⟨le_rfl, clock.ge⟩
    · rw [held]
      intro cached holds value since read smaller
      rcases pending value since read with old | ⟨rfl, rfl⟩
      · exact sound.outlasts cached holds value since old smaller
      · -- what is read now is not below what the key holds
        exact absurd ((sound.held_le cached holds).trans grows) (not_le.mpr smaller)
  | write value since read inTime clock same held pending =>
    have kept : ∀ other instant, after.pending other instant →
        other ≤ after.current ∧ instant ≤ after.now := by
      intro other instant waits
      rw [same, clock]
      exact sound.pending_le other instant (pending other instant waits)
    rcases setMax_cases ttl before.now value before.held with ⟨written, _⟩ | ⟨_, _, _, stays⟩
    · rw [written] at held
      refine ⟨?_, ?_, kept, ?_⟩
      · intro cached holds
        rw [held] at holds
        cases holds
        exact same ▸ (sound.pending_le value since read).1
      · intro cached holds
        rw [held] at holds
        cases holds
        exact clock ▸ le_rfl
      · intro cached holds other instant waits _
        rw [held] at holds
        cases holds
        exact Nat.add_le_add_right (clock ▸ (kept other instant waits).2) ttl
    · rw [stays] at held
      refine ⟨?_, ?_, kept, ?_⟩
      · rw [held, same]
        exact sound.held_le
      · rw [held, clock]
        exact sound.expires
      · rw [held]
        exact fun cached holds other instant waits =>
          sound.outlasts cached holds other instant (pending other instant waits)
  | drop clock same held pending =>
    refine ⟨?_, ?_, fun value since read => ?_, ?_⟩
    · rw [held]
      exact nofun
    · rw [held]
      exact nofun
    · rw [same, clock]
      exact sound.pending_le value since (pending value since read)
    · rw [held]
      exact nofun

/-- The cache yields nothing below the floor: what the key holds is not below it, and once the key
has gone nothing below it can be written any more. -/
structure Fresh (ttl : Nat) (floor : V) (cell : MaxCell V) : Prop where
  le_current : floor ≤ cell.current
  le_live : ∀ value, live cell.now cell.held = some value → floor ≤ value
  le_pending : live cell.now cell.held = none → ∀ value since, cell.pending value since →
    floor ≤ value ∨ since + ttl ≤ cell.now

theorem Fresh.move (fresh : before.Fresh ttl floor) (sound : before.Sound ttl)
    (moves : Move ttl before after) (stays : after.held = none → before.held = none) :
    after.Fresh ttl floor := by
  cases moves with
  | wait clock same held pending =>
    refine ⟨same ▸ fresh.le_current, fun value holds => ?_, fun gone value since read => ?_⟩
    · obtain ⟨cached, is, lasts, rfl⟩ := live_eq_some.mp holds
      rw [held] at is
      exact fresh.le_live _ (live_eq_some.mpr ⟨cached, is, clock.trans_lt lasts, rfl⟩)
    · have waits := pending value since read
      cases was : live before.now before.held with
      | none =>
        exact (fresh.le_pending was value since waits).imp_right fun late => late.trans clock
      | some other =>
        -- the key has expired since, and has outlasted what was read before it
        obtain ⟨cached, is, _, rfl⟩ := live_eq_some.mp was
        by_cases smaller : value < cached.value
        · have expired := live_eq_none.mp gone cached (held.trans is)
          exact Or.inr ((sound.outlasts cached is value since waits smaller).trans expired)
        · exact Or.inl ((fresh.le_live _ was).trans (not_lt.mp smaller))
  | learn clock grows held pending =>
    refine ⟨fresh.le_current.trans grows, ?_, fun gone value since read => ?_⟩
    · rw [held, clock]
      exact fresh.le_live
    · rw [held, clock] at gone
      rcases pending value since read with old | ⟨rfl, rfl⟩
      · rw [clock]
        exact fresh.le_pending gone value since old
      · exact Or.inl (fresh.le_current.trans grows)
  | write value since read inTime clock same held pending =>
    have atMost : ∀ other, live after.now after.held = some other → floor ≤ other := by
      intro other holds
      rw [held, clock] at holds
      rcases setMax_cases ttl before.now value before.held with ⟨written, above⟩ | ⟨_, _, _, stays⟩
      · rw [written] at holds
        obtain ⟨cached, is, _, rfl⟩ := live_eq_some.mp holds
        cases is
        cases was : live before.now before.held with
        | none =>
          exact (fresh.le_pending was value since read).resolve_right (Nat.not_le.mpr inTime)
        | some current => exact (fresh.le_live current was).trans (above current was).le
      · rw [stays] at holds
        exact fresh.le_live other holds
    refine ⟨same ▸ fresh.le_current, atMost, fun gone other instant waits => ?_⟩
    rw [held, clock] at gone
    rcases setMax_cases ttl before.now value before.held with ⟨written, _⟩ | ⟨_, _, _, stays⟩
    · -- a copy that expires at once: nothing that was read can be in time any more
      rw [written] at gone
      have expired := live_eq_none.mp gone _ rfl
      have late := (sound.pending_le other instant (pending other instant waits)).2
      rw [clock]
      exact Or.inr ((Nat.add_le_add_right late ttl).trans expired)
    · rw [stays] at gone
      rw [clock]
      exact fresh.le_pending gone other instant (pending other instant waits)
  | drop clock same held pending =>
    have gone : live before.now before.held = none := by
      rw [stays held]
      rfl
    refine ⟨same ▸ fresh.le_current, ?_, fun _ value since read => ?_⟩
    · rw [held]
      exact nofun
    · rw [clock]
      exact fresh.le_pending gone value since (pending value since read)

theorem fresh_of_write (sound : before.Sound ttl) {value : V} {since : Nat}
    (read : before.pending value since) (clock : after.now = before.now)
    (same : after.current = before.current)
    (held : after.held = (setMax ttl before.now value before.held).2)
    (pending : ∀ value since, after.pending value since → before.pending value since) :
    after.Fresh ttl value := by
  refine ⟨same ▸ (sound.pending_le value since read).1, fun other holds => ?_,
    fun gone other instant waits => ?_⟩
  · rw [held, clock] at holds
    rcases setMax_cases ttl before.now value before.held with
      ⟨written, _⟩ | ⟨current, was, larger, stays⟩
    · rw [written] at holds
      obtain ⟨cached, is, _, rfl⟩ := live_eq_some.mp holds
      cases is
      exact le_rfl
    · rw [stays, was] at holds
      exact Option.some.inj holds ▸ larger
  · rw [held, clock] at gone
    rcases setMax_cases ttl before.now value before.held with
      ⟨written, _⟩ | ⟨current, was, _, stays⟩
    · rw [written] at gone
      have expired := live_eq_none.mp gone _ rfl
      have late := (sound.pending_le other instant (pending other instant waits)).2
      rw [clock]
      exact Or.inr ((Nat.add_le_add_right late ttl).trans expired)
    · rw [stays, was] at gone
      cases gone

/-! ### What is below the floor goes away -/

/-- What is below the floor was read up to an instant, and what the key holds of it expires in
time. -/
structure Aging (ttl : Nat) (floor : V) (instant : Nat) (cell : MaxCell V) : Prop where
  le_current : floor ≤ cell.current
  pending : ∀ value since, cell.pending value since → value < floor → since ≤ instant
  held : ∀ cached, cell.held = some cached → cached.value < floor →
    cached.expiresAt ≤ instant + 2 * ttl

theorem Sound.aging (sound : before.Sound ttl) (reached : floor ≤ before.current) :
    before.Aging ttl floor before.now := by
  refine ⟨reached, fun value since read _ => (sound.pending_le value since read).2,
    fun cached holds _ => ?_⟩
  have := sound.expires cached holds
  omega

theorem Aging.move {instant : Nat} (aging : before.Aging ttl floor instant)
    (moves : Move ttl before after) : after.Aging ttl floor instant := by
  cases moves with
  | wait clock same held pending =>
    refine ⟨same ▸ aging.le_current, fun value since read => ?_, ?_⟩
    · exact aging.pending value since (pending value since read)
    · rw [held]
      exact aging.held
  | learn clock grows held pending =>
    refine ⟨aging.le_current.trans grows, fun value since read smaller => ?_, ?_⟩
    · rcases pending value since read with old | ⟨rfl, rfl⟩
      · exact aging.pending value since old smaller
      · exact absurd (aging.le_current.trans grows) (not_le.mpr smaller)
    · rw [held]
      exact aging.held
  | write value since read inTime clock same held pending =>
    refine ⟨same ▸ aging.le_current, fun other instant waits => ?_, fun cached holds smaller => ?_⟩
    · exact aging.pending other instant (pending other instant waits)
    · rw [held] at holds
      rcases setMax_cases ttl before.now value before.held with ⟨written, _⟩ | ⟨_, _, _, stays⟩
      · rw [written] at holds
        cases holds
        have early := aging.pending value since read smaller
        show before.now + ttl ≤ instant + 2 * ttl
        omega
      · rw [stays] at holds
        exact aging.held cached holds smaller
  | drop clock same held pending =>
    refine ⟨same ▸ aging.le_current, fun value since read => ?_, ?_⟩
    · exact aging.pending value since (pending value since read)
    · rw [held]
      exact nofun

theorem Aging.le_live {instant : Nat} {cell : MaxCell V} (aging : cell.Aging ttl floor instant)
    (later : instant + 2 * ttl ≤ cell.now) {value : V}
    (holds : live cell.now cell.held = some value) : floor ≤ value := by
  obtain ⟨cached, is, lasts, rfl⟩ := live_eq_some.mp holds
  by_contra below
  have := aging.held cached is (not_le.mp below)
  omega

end MaxCell

end Relational
