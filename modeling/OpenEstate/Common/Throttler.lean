/-
**The throttler's storage.**

Requests are counted by a script that runs in Redis, one at a time and by its clock. It keeps four
fields under a key, and gives the key a time to live.

* `incrementScript` and `RedisThrottlerStorage.increment`: one more hit;
* `FixedWindow.record`: what a counter in fixed windows answers;
* `throttler_fixed_window_iff`: the script answers like that counter exactly if no hit comes after the
  end of a window and within a second of the hit before it, for which the key is kept.
-/

import Mathlib.Algebra.Ring.Int.Defs
import OpenEstate.Relational.Limiter

namespace OpenEstate

open Relational

structure ThrottlerStorageRecord where
  totalHits : Int
  timeToExpire : Int
  isBlocked : Bool
  timeToBlockExpire : Int
  deriving DecidableEq

/-! ### The script -/

structure ThrottleFields where
  hits : Int
  expiresAt : Int
  blockExpiresAt : Int
  isBlocked : Bool

structure RedisKey where
  fields : ThrottleFields
  gone : Int

def RedisKey.read (now : Int) (key : Option RedisKey) : Option ThrottleFields :=
  (key.filter fun key => now < key.gone).map RedisKey.fields

def ceilSeconds (milliseconds : Int) : Int := -(-milliseconds / 1000)

def incrementScript (ttl limit blockDuration now : Int) (key : Option RedisKey) :
    ThrottlerStorageRecord × RedisKey :=
  let data := (RedisKey.read now key).getD ⟨0, now + ttl, 0, false⟩
  let data := if data.expiresAt ≤ now then { data with expiresAt := now + ttl } else data
  let data := if data.isBlocked then data else { data with hits := data.hits + 1 }
  let data :=
    if limit < data.hits ∧ data.isBlocked = false then
      { data with isBlocked := true, blockExpiresAt := now + blockDuration }
    else data
  let timeToBlockExpire := if data.isBlocked then data.blockExpiresAt - now else 0
  -- a block that has run out begins a new count with this hit
  let unblocks := data.isBlocked = true ∧ timeToBlockExpire ≤ 0
  let data := if unblocks then ⟨1, now + ttl, 0, false⟩ else data
  let timeToBlockExpire := if unblocks then 0 else timeToBlockExpire
  let pttl := max (max (data.expiresAt - now) (data.blockExpiresAt - now)) 1000
  (⟨data.hits, ceilSeconds (data.expiresAt - now), data.isBlocked, ceilSeconds timeToBlockExpire⟩,
    ⟨data, now + pttl⟩)

abbrev Redis : Type := String → Option RedisKey

namespace RedisThrottlerStorage

def redisKey (keyPrefix key throttlerName : String) : String :=
  s!"{keyPrefix}throttle:{throttlerName}:{key}"

def increment (keyPrefix key : String) (ttl limit blockDuration : Nat) (throttlerName : String)
    (now : Nat) (redis : Redis) : ThrottlerStorageRecord × Redis :=
  let answer := incrementScript ttl limit blockDuration now
    (redis (redisKey keyPrefix key throttlerName))
  (answer.1, Function.update redis (redisKey keyPrefix key throttlerName) (some answer.2))

end RedisThrottlerStorage

/-! ### What the script does -/

section Script

theorem RedisKey.read_of_lt {now gone : Int} {fields : ThrottleFields} (lives : now < gone) :
    RedisKey.read now (some ⟨fields, gone⟩) = some fields := by
  rw [RedisKey.read, Option.filter_some, if_pos (decide_eq_true lives), Option.map_some]

theorem RedisKey.read_of_le {now gone : Int} {fields : ThrottleFields} (passed : gone ≤ now) :
    RedisKey.read now (some ⟨fields, gone⟩) = none := by
  rw [RedisKey.read, Option.filter_some, if_neg (by simpa using passed), Option.map_none]

variable {ttl limit blockDuration hits endsAt blockEndsAt : Int} {now : Nat} {key : Option RedisKey}

theorem max_past (span : Int) (now : Nat) : max span (max (-(now : Int)) 1000) = max span 1000 := by
  omega

theorem incrementScript_of_absent (positive : 0 < ttl) (allowed : 0 < limit)
    (absent : RedisKey.read now key = none) :
    incrementScript ttl limit blockDuration now key =
      (⟨1, ceilSeconds ttl, false, 0⟩,
        ⟨⟨1, now + ttl, 0, false⟩, now + max ttl 1000⟩) := by
  have ahead : ¬now + ttl ≤ now := by omega
  have fits : ¬limit < 1 := by omega
  simp [incrementScript, absent, ahead, fits, ceilSeconds, max_past]

theorem incrementScript_of_counting (positive : 0 < blockDuration)
    (found : RedisKey.read now key = some ⟨hits, endsAt, 0, false⟩) :
    incrementScript ttl limit blockDuration now key =
      let endsAt := if endsAt ≤ now then now + ttl else endsAt
      if limit < hits + 1 then
        (⟨hits + 1, ceilSeconds (endsAt - now), true, ceilSeconds blockDuration⟩,
          ⟨⟨hits + 1, endsAt, now + blockDuration, true⟩,
            now + max (max (endsAt - now) blockDuration) 1000⟩)
      else
        (⟨hits + 1, ceilSeconds (endsAt - now), false, 0⟩,
          ⟨⟨hits + 1, endsAt, 0, false⟩, now + max (endsAt - now) 1000⟩) := by
  have lasts : ¬blockDuration ≤ 0 := by omega
  by_cases ended : endsAt ≤ now <;> by_cases full : limit < hits + 1 <;>
    simp [incrementScript, found, ended, full, lasts, ceilSeconds, max_past]

theorem incrementScript_of_blocked (lasts : now < blockEndsAt)
    (found : RedisKey.read now key = some ⟨hits, endsAt, blockEndsAt, true⟩) :
    incrementScript ttl limit blockDuration now key =
      let endsAt := if endsAt ≤ now then now + ttl else endsAt
      (⟨hits, ceilSeconds (endsAt - now), true, ceilSeconds (blockEndsAt - now)⟩,
        ⟨⟨hits, endsAt, blockEndsAt, true⟩,
          now + max (max (endsAt - now) (blockEndsAt - now)) 1000⟩) := by
  have ahead : ¬blockEndsAt - now ≤ 0 := by omega
  by_cases ended : endsAt ≤ now <;>
    simp only [incrementScript, found, Option.getD_some, ended, ahead, if_true, if_false, and_false,
      reduceCtorEq]

theorem incrementScript_of_unblocked (ranOut : blockEndsAt ≤ now)
    (found : RedisKey.read now key = some ⟨hits, endsAt, blockEndsAt, true⟩) :
    incrementScript ttl limit blockDuration now key =
      (⟨1, ceilSeconds ttl, false, 0⟩,
        ⟨⟨1, now + ttl, 0, false⟩, now + max ttl 1000⟩) := by
  have behind : blockEndsAt - now ≤ 0 := by omega
  by_cases ended : endsAt ≤ now <;>
    simp [incrementScript, found, ended, behind, ceilSeconds, max_past]

end Script

/-! ### Against a counter in fixed windows -/

section Counter

variable (limits : WindowLimits)

def scriptAnswer (keyPrefix key throttlerName : String) (now : Nat) (redis : Redis) :
    ThrottlerStorageRecord × Redis :=
  RedisThrottlerStorage.increment keyPrefix key limits.ttl limits.limit limits.blockDuration
    throttlerName now redis

def windowRecord (now : Nat) : FixedWindow → ThrottlerStorageRecord
  | .idle => ⟨0, 0, false, 0⟩
  | .counting hits endsAt => ⟨hits.length, ceilSeconds (endsAt - now), false, 0⟩
  | .blocked hits endsAt blockEndsAt =>
    ⟨hits.length, ceilSeconds (endsAt - now), true, ceilSeconds (blockEndsAt - now)⟩

def windowAnswer (now : Nat) (window : FixedWindow) : ThrottlerStorageRecord × FixedWindow :=
  (windowRecord now (window.hit limits now), window.hit limits now)

/-- Whether a hit comes after the end of a window, and within a second of the last hit in it. -/
def Straggles : FixedWindow → Nat → Prop
  | .counting hits endsAt, now => endsAt ≤ now ∧ ∃ last ∈ hits.getLast?, now < last + 1000
  | _, _ => False

instance : (window : FixedWindow) → (now : Nat) → Decidable (Straggles window now)
  | .idle, _ => inferInstanceAs (Decidable False)
  | .counting _ _, _ => inferInstanceAs (Decidable (_ ∧ _))
  | .blocked _ _ _, _ => inferInstanceAs (Decidable False)

def Keeps (last : Nat) (key : Option RedisKey) : FixedWindow → Prop
  | .idle => key = none
  | .counting hits endsAt => hits.getLast? = some last ∧
    key = some ⟨⟨hits.length, endsAt, 0, false⟩, max endsAt (last + 1000 : Nat)⟩
  | .blocked hits endsAt blockEndsAt => ∃ gone : Nat, blockEndsAt ≤ gone ∧
    key = some ⟨⟨hits.length, endsAt, blockEndsAt, true⟩, gone⟩

end Counter

section Steps

variable {limits : WindowLimits} {last now : Nat} {key : Option RedisKey} {window : FixedWindow}

abbrev scriptOn (limits : WindowLimits) (now : Nat) (key : Option RedisKey) :
    ThrottlerStorageRecord × RedisKey :=
  incrementScript limits.ttl limits.limit limits.blockDuration now key

theorem opened_kept (first : scriptOn limits now key = (⟨1, ceilSeconds limits.ttl, false, 0⟩,
      ⟨⟨1, now + limits.ttl, 0, false⟩, now + max (limits.ttl : Int) 1000⟩)) :
    (scriptOn limits now key).1 = windowRecord now (FixedWindow.opened limits now) ∧
      Keeps now (some (scriptOn limits now key).2) (FixedWindow.opened limits now) := by
  have deadline : (now : Int) + max (limits.ttl : Int) 1000 =
      max ((now + limits.ttl : Nat) : Int) ((now + 1000 : Nat) : Int) := by omega
  rw [FixedWindow.opened_eq, first, deadline]
  exact ⟨by simp [windowRecord], rfl, rfl⟩

theorem counting_kept {hits : List Nat} {endsAt : Nat} {gone : Int} (lasts : now < endsAt)
    (lives : endsAt ≤ gone) :
    (scriptOn limits now (some ⟨⟨hits.length, endsAt, 0, false⟩, gone⟩)).1 =
        windowRecord now (FixedWindow.counted limits now (hits ++ [now]) endsAt) ∧
      Keeps now (some (scriptOn limits now (some ⟨⟨hits.length, endsAt, 0, false⟩, gone⟩)).2)
        (FixedWindow.counted limits now (hits ++ [now]) endsAt) := by
  have ahead : ¬(endsAt : Int) ≤ now := by omega
  have found : RedisKey.read now (some ⟨⟨hits.length, endsAt, 0, false⟩, gone⟩) =
      some ⟨hits.length, endsAt, 0, false⟩ := RedisKey.read_of_lt (by omega)
  have length : (hits ++ [now]).length = hits.length + 1 := List.length_append
  rw [scriptOn, incrementScript_of_counting (Int.natCast_pos.mpr limits.blockDuration_pos) found,
    FixedWindow.counted]
  simp only [ahead, if_false]
  by_cases full : limits.limit < (hits ++ [now]).length
  · rw [if_pos full, if_pos (by omega)]
    refine ⟨by simp [windowRecord],
      now + max (max (endsAt - now) limits.blockDuration) 1000, by omega, ?_⟩
    rw [length]
    simp
    omega
  · rw [if_neg full, if_neg (by omega)]
    refine ⟨by simp [windowRecord], by simp, ?_⟩
    rw [length]
    simp
    omega

theorem blocked_kept {hits : List Nat} {endsAt blockEndsAt : Nat} {gone : Int}
    (lasts : now < blockEndsAt) (lives : blockEndsAt ≤ gone) :
    (scriptOn limits now (some ⟨⟨hits.length, endsAt, blockEndsAt, true⟩, gone⟩)).1 =
        windowRecord now (.blocked hits (if now < endsAt then endsAt else now + limits.ttl)
          blockEndsAt) ∧
      Keeps now (some (scriptOn limits now
          (some ⟨⟨hits.length, endsAt, blockEndsAt, true⟩, gone⟩)).2)
        (.blocked hits (if now < endsAt then endsAt else now + limits.ttl) blockEndsAt) := by
  have found : RedisKey.read now (some ⟨⟨hits.length, endsAt, blockEndsAt, true⟩, gone⟩) =
      some ⟨hits.length, endsAt, blockEndsAt, true⟩ := RedisKey.read_of_lt (by omega)
  have window : (if (endsAt : Int) ≤ now then (now : Int) + limits.ttl else endsAt) =
      ((if now < endsAt then endsAt else now + limits.ttl : Nat) : Int) := by
    split <;> split <;> omega
  rw [scriptOn, incrementScript_of_blocked (by omega) found]
  dsimp only
  rw [window]
  generalize (if now < endsAt then endsAt else now + limits.ttl) = endsAt
  refine ⟨rfl, now + max (max (endsAt - now) (blockEndsAt - now)) 1000, by omega, ?_⟩
  simp
  omega

/-- **One hit that does not straggle** is answered, and kept, like that of a counter. -/
theorem Keeps.hit (keeps : Keeps last key window) (inTime : ¬Straggles window now) :
    (scriptOn limits now key).1 = (windowAnswer limits now window).1 ∧
      Keeps now (some (scriptOn limits now key).2) (windowAnswer limits now window).2 := by
  have opens : RedisKey.read now key = none →
      (scriptOn limits now key).1 = windowRecord now (FixedWindow.opened limits now) ∧
        Keeps now (some (scriptOn limits now key).2) (FixedWindow.opened limits now) :=
    fun absent => opened_kept (incrementScript_of_absent (Int.natCast_pos.mpr limits.ttl_pos)
      (Int.natCast_pos.mpr limits.limit_pos) absent)
  cases window with
  | idle =>
    have absent : RedisKey.read now key = none := by rw [show key = none from keeps]; rfl
    exact opens absent
  | counting hits endsAt =>
    obtain ⟨latest, rfl⟩ := keeps
    rw [windowAnswer, FixedWindow.hit]
    by_cases lasts : now < endsAt
    · rw [if_pos lasts]
      exact counting_kept lasts (by omega)
    · rw [if_neg lasts]
      -- the key has been kept until the end of the window, and for a second after the last hit
      have late : ¬now < last + 1000 := fun soon => inTime ⟨Nat.not_lt.mp lasts, last, latest, soon⟩
      exact opens (RedisKey.read_of_le (by omega))
  | blocked hits endsAt blockEndsAt =>
    obtain ⟨gone, lives, rfl⟩ := keeps
    rw [windowAnswer, FixedWindow.hit]
    by_cases lasts : now < blockEndsAt
    · rw [if_pos lasts]
      exact blocked_kept lasts (by omega)
    · rw [if_neg lasts]
      rcases lt_or_ge now gone with lives | passed
      · exact opened_kept (incrementScript_of_unblocked (by omega) (RedisKey.read_of_lt (by omega)))
      · exact opens (RedisKey.read_of_le (by omega))

/-- **A hit that straggles** is counted with those of the window before. -/
theorem Keeps.straggler (keeps : Keeps last key window) (straggles : Straggles window now) :
    (scriptOn limits now key).1 ≠ (windowAnswer limits now window).1 := by
  cases window with
  | idle => exact straggles.elim
  | blocked hits endsAt blockEndsAt => exact straggles.elim
  | counting hits endsAt =>
    obtain ⟨latest, rfl⟩ := keeps
    obtain ⟨ended, found, is, soon⟩ := straggles
    cases latest.symm.trans is
    have kept : RedisKey.read now (some ⟨⟨hits.length, endsAt, 0, false⟩,
        max endsAt (last + 1000 : Nat)⟩) = some ⟨hits.length, endsAt, 0, false⟩ :=
      RedisKey.read_of_lt (by omega)
    have some_ : 0 < hits.length := List.length_pos_of_mem (List.mem_of_getLast? is)
    rw [scriptOn, incrementScript_of_counting (Int.natCast_pos.mpr limits.blockDuration_pos) kept,
      windowAnswer, FixedWindow.hit, if_neg (Nat.not_lt.mpr ended), FixedWindow.opened_eq]
    intro same
    have totalHits := congrArg ThrottlerStorageRecord.totalHits same
    dsimp only at totalHits
    have counted : (hits.length : Int) + 1 = 1 := by
      split at totalHits <;> exact totalHits
    omega

end Steps

/-- **The script answers like a counter in fixed windows** exactly if no hit straggles. -/
theorem throttler_fixed_window_iff (limits : WindowLimits) (keyPrefix key throttlerName : String)
    (redis : Redis)
    (absent : redis (RedisThrottlerStorage.redisKey keyPrefix key throttlerName) = none)
    (times : List Nat) (ordered : times.Pairwise (· ≤ ·)) :
    answers (scriptAnswer limits keyPrefix key throttlerName) redis times =
        answers (windowAnswer limits) .idle times ↔
      ∀ visit ∈ visits (windowAnswer limits) .idle times, ¬Straggles visit.1 visit.2 := by
  have related : Keeps 0 (redis (RedisThrottlerStorage.redisKey keyPrefix key throttlerName))
      .idle := absent
  refine answers_eq_iff (fun last (redis : Redis) window =>
      Keeps last (redis (RedisThrottlerStorage.redisKey keyPrefix key throttlerName)) window)
    Straggles (fun {last now redis window} keeps _ inTime => ?_)
    (fun keeps _ straggles => keeps.straggler straggles) related
    (List.pairwise_cons.mpr ⟨fun time _ => Nat.zero_le time, ordered⟩)
  obtain ⟨same, kept⟩ := keeps.hit inTime
  refine ⟨same, ?_⟩
  rw [scriptAnswer, RedisThrottlerStorage.increment]
  dsimp only
  rw [Function.update_self]
  exact kept

/-! ### A straggler -/

def minuteLimits : WindowLimits := ⟨60000, 5, 60000, by decide, by decide, by decide⟩

/-- The third of these hits comes a second after the end of the first window, and is the first of
its own. -/
theorem throttler_on_time :
    answers (scriptAnswer minuteLimits "" "10.0.0.1" "default") (fun _ => none) [0, 1000, 61000] =
      answers (windowAnswer minuteLimits) .idle [0, 1000, 61000] :=
  (throttler_fixed_window_iff minuteLimits "" "10.0.0.1" "default" _ rfl [0, 1000, 61000]
    (by decide)).mpr (by decide)

/-- **A hit after the end of a window**, half a second after the last hit in it, is counted as the
third, not as the first of its own. -/
theorem throttler_counts_on :
    answers (scriptAnswer minuteLimits "" "10.0.0.1" "default") (fun _ => none) [0, 59700, 60200] ≠
        answers (windowAnswer minuteLimits) .idle [0, 59700, 60200] ∧
      (answers (scriptAnswer minuteLimits "" "10.0.0.1" "default") (fun _ => none)
        [0, 59700, 60200]).map ThrottlerStorageRecord.totalHits = [1, 2, 3] ∧
      (answers (windowAnswer minuteLimits) .idle [0, 59700, 60200]).map
        ThrottlerStorageRecord.totalHits = [1, 2, 1] := by
  decide

end OpenEstate
