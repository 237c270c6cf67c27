/-
**The cache of session versions.**

Every request reads the session version of its user, from a key of the cache if there is one, and
from the database otherwise; what it reads there it writes to the cache, where the larger version is
kept for a minute. A bump raises versions in the database, and then writes each of them to the
cache; if that fails it drops the key. Every command to the cache may fail, before it was executed
or after.

* `VersionSession` is where a call of `current` or of a bump stands, `VersionSession.move` its next
  command or query;
* `versionCell` is one key with what is on its way to it, and `versionCell_next` what a step does to
  it.
-/

import OpenEstate.Access.Roles
import OpenEstate.Relational.Interference
import OpenEstate.Relational.MaxCache

namespace OpenEstate

open Relational
open Function (update update_self update_of_ne)

/-! ### Stores -/

def authzVersionTtlSeconds : Nat := 60

def authzVersionTtl : Nat := authzVersionTtlSeconds * 1000

/-- The users in the database, and the keys of the cache, one for each user. -/
structure VersionStore where
  now : Nat
  users : Table User
  cache : Nat → Option (Cached Nat)

/-- A user with a version that was raised, as the statement that raised it returns it. -/
structure BumpedRow where
  id : Nat
  authzVersion : Nat
  deriving DecidableEq

namespace VersionStore

def wait (elapsed : Nat) (store : VersionStore) : VersionStore :=
  { store with now := store.now + elapsed }

def readDb (store : VersionStore) (userId : Nat) : Option Nat :=
  (store.users.find? userId).map User.authzVersion

def get (store : VersionStore) (userId : Nat) : Option Nat :=
  live store.now (store.cache userId)

def setMax (userId version : Nat) (store : VersionStore) : Nat × VersionStore :=
  let written := Relational.setMax authzVersionTtl store.now version (store.cache userId)
  (written.1, { store with cache := update store.cache userId written.2 })

def del (userId : Nat) (store : VersionStore) : VersionStore :=
  { store with cache := update store.cache userId none }

/-- The users whose versions are raised, with the versions they have then. -/
def bumpedRows (selects : Nat → User → Bool) (store : VersionStore) : List BumpedRow :=
  (store.users.select selects).map fun row => ⟨row.1, row.2.authzVersion + 1⟩

def bump (selects : Nat → User → Bool) (store : VersionStore) : VersionStore :=
  { store with users := store.users.modifyAll selects User.bump }

end VersionStore

/-! ### Calls -/

/-- What becomes of a command: it is answered, or executed without an answer, or lost. -/
inductive Delivery
  | answered | unanswered | lost
  deriving DecidableEq

def Delivery.execute (delivery : Delivery) (command : VersionStore → VersionStore)
    (store : VersionStore) : VersionStore :=
  if delivery = .lost then store else command store

/-- What a step draws: how long it comes after the one before, and what becomes of its command. -/
structure VersionDraw where
  elapsed : Nat
  delivery : Delivery

/-- A call. The end of a user's sessions publishes a version that was raised in its own
transaction. -/
inductive VersionCall
  | current (userId : Nat)
  | bumpUsers (userIds : List Nat)
  | bumpRole (roleId : Nat)
  | publish (userId : Nat)

/-- Where a call stands between its commands and queries. A bump has written some rows to the cache,
or has given up on them, and has others to write. -/
inductive VersionSession
  | current (userId : Nat)
  | unavailable (userId : Nat)
  | missed (userId : Nat)
  | filling (userId fromDb readAt : Nat)
  | yielded (userId : Nat) (version : Option Nat)
  | bumping (selects : Nat → User → Bool)
  | publishing (updatedAt : Nat) (written todo : List BumpedRow)
  | deleting (updatedAt : Nat) (written : List BumpedRow) (row : BumpedRow) (todo : List BumpedRow)

def VersionCall.begin : VersionCall → VersionSession
  | .current userId => .current userId
  | .bumpUsers userIds => .bumping fun id _ => decide (id ∈ userIds)
  | .bumpRole roleId => .bumping fun _ user => user.roleId == roleId
  | .publish userId => .bumping fun id _ => id == userId

def VersionSession.next (delivery : Delivery) :
    VersionSession → VersionStore → Option (VersionSession × VersionStore)
  | .current userId, store =>
    some (if delivery = .answered then
      (match store.get userId with
        | some cached => .yielded userId (some cached)
        | none => .missed userId)
      else .unavailable userId, store)
  | .unavailable userId, store => some (.yielded userId (store.readDb userId), store)
  | .missed userId, store =>
    some (match store.readDb userId with
      | some fromDb => .filling userId fromDb store.now
      | none => .yielded userId none, store)
  | .filling userId fromDb _, store =>
    some (.yielded userId (some (if delivery = .answered then (store.setMax userId fromDb).1
      else fromDb)), delivery.execute (fun store => (store.setMax userId fromDb).2) store)
  | .bumping selects, store =>
    some (.publishing store.now [] (store.bumpedRows selects), store.bump selects)
  | .publishing updatedAt written (row :: todo), store =>
    some (if delivery = .answered then .publishing updatedAt (written ++ [row]) todo
      else .deleting updatedAt written row todo,
      delivery.execute (fun store => (store.setMax row.id row.authzVersion).2) store)
  | .deleting updatedAt written row todo, store =>
    some (.publishing updatedAt (written ++ [row]) todo,
      delivery.execute (VersionStore.del row.id) store)
  | _, _ => none

def VersionSession.move (draw : VersionDraw) (session : VersionSession) (store : VersionStore) :
    Option (VersionSession × VersionStore) :=
  session.next draw.delivery (store.wait draw.elapsed)

abbrev VersionWorld (ι : Type) : Type := Shared ι VersionStore VersionSession

def VersionSession.exec {ι : Type} [DecidableEq ι] (input : ι × VersionDraw)
    (world : VersionWorld ι) : Except Unit (VersionWorld ι) :=
  Shared.exec (VersionSession.move input.2) input.1 world

def versionStart {ι : Type} (calls : ι → VersionCall) (store : VersionStore) : VersionWorld ι where
  rows := store
  sessions := fun session => (calls session).begin

/-! ### Keys -/

/-- A version that a call has read, or raised, and has still to write, and since when. -/
def VersionSession.Pending (userId version since : Nat) : VersionSession → Prop
  | .filling id fromDb readAt => id = userId ∧ fromDb = version ∧ readAt = since
  | .publishing updatedAt _ todo | .deleting updatedAt _ _ todo =>
    ⟨userId, version⟩ ∈ todo ∧ updatedAt = since
  | _ => False

def versionCell {ι : Type} (world : VersionWorld ι) (userId : Nat) : MaxCell Nat where
  now := world.rows.now
  current := (world.rows.readDb userId).getD 0
  held := world.rows.cache userId
  pending := fun version since => ∃ session, (world.sessions session).Pending userId version since

/-- Whether a command to write a version comes in time: before a key that was written when the
version was read, or raised, would have expired. -/
def VersionSession.inTime (now : Nat) : VersionSession → Bool
  | .filling _ _ readAt => now < readAt + authzVersionTtl
  | .publishing updatedAt _ (_ :: _) => now < updatedAt + authzVersionTtl
  | _ => true

section Keys

variable {ι : Type} [DecidableEq ι]

omit [DecidableEq ι] in
theorem versionCell_wait (world : VersionWorld ι) (elapsed userId : Nat) :
    MaxCell.Move authzVersionTtl (versionCell world userId)
      (versionCell { world with rows := world.rows.wait elapsed } userId) :=
  .wait (Nat.le_add_right _ _) rfl rfl fun _ _ pending => pending

variable {world : VersionWorld ι} {session : ι} {next : VersionSession} {store : VersionStore}

theorem pending_update {userId version since : Nat}
    (pending : (versionCell { rows := store, sessions := update world.sessions session next }
      userId).pending version since) :
    (versionCell world userId).pending version since ∨ next.Pending userId version since := by
  obtain ⟨other, waits⟩ := pending
  by_cases mine : other = session
  · rw [mine] at waits
    simp only [update_self] at waits
    exact Or.inr waits
  · simp only [update_of_ne mine] at waits
    exact Or.inl ⟨other, waits⟩

theorem pending_of_imp {userId : Nat} (fewer : ∀ version since, next.Pending userId version since →
      (world.sessions session).Pending userId version since) (version since : Nat)
    (pending : (versionCell { rows := store, sessions := update world.sessions session next }
      userId).pending version since) : (versionCell world userId).pending version since :=
  (pending_update pending).elim id fun waits => ⟨session, fewer version since waits⟩

theorem move_of_same {userId : Nat} (clock : store.now = world.rows.now)
    (users : store.users = world.rows.users) (held : store.cache userId = world.rows.cache userId)
    (fewer : ∀ version since, next.Pending userId version since →
      (world.sessions session).Pending userId version since) :
    MaxCell.Move authzVersionTtl (versionCell world userId)
      (versionCell { rows := store, sessions := update world.sessions session next } userId) := by
  refine .wait clock.ge ?_ held (pending_of_imp fewer)
  show (store.readDb userId).getD 0 = (world.rows.readDb userId).getD 0
  rw [VersionStore.readDb, VersionStore.readDb, users]

theorem move_of_setMax {id version since : Nat} (delivery : Delivery)
    (pending : (world.sessions session).Pending id version since)
    (inTime : world.rows.now < since + authzVersionTtl)
    (fewer : ∀ userId version since, next.Pending userId version since →
      (world.sessions session).Pending userId version since) (userId : Nat) :
    MaxCell.Move authzVersionTtl (versionCell world userId)
      (versionCell
        { rows := delivery.execute (fun store => (store.setMax id version).2) world.rows
          sessions := update world.sessions session next } userId) := by
  unfold Delivery.execute
  split
  · exact move_of_same rfl rfl rfl (fewer userId)
  · by_cases mine : userId = id
    · subst mine
      refine .write version since ⟨session, pending⟩ inTime rfl rfl ?_ (pending_of_imp (fewer _))
      show update world.rows.cache userId _ userId = _
      rw [update_self]
      rfl
    · refine move_of_same rfl rfl ?_ (fewer userId)
      exact update_of_ne mine _ _

theorem readDb_bump (selects : Nat → User → Bool) (store : VersionStore) (userId : Nat) :
    (store.bump selects).readDb userId = (store.users.find? userId).map fun user =>
      if selects userId user then user.authzVersion + 1 else user.authzVersion := by
  show ((store.users.modifyAll selects User.bump).find? userId).map User.authzVersion = _
  rw [Table.find?_modifyAll, Option.map_map]
  congr 1
  funext user
  show (if selects userId user then user.bump else user).authzVersion = _
  split <;> rfl

theorem readDb_of_mem_bumpedRows {selects : Nat → User → Bool} {row : BumpedRow}
    (member : row ∈ store.bumpedRows selects) :
    (store.bump selects).readDb row.id = some row.authzVersion := by
  obtain ⟨⟨id, user⟩, chosen, rfl⟩ := List.mem_map.mp member
  obtain ⟨present, selected⟩ := List.mem_filter.mp chosen
  rw [readDb_bump, Table.find?_eq_some.mpr present, Option.map_some, if_pos selected]

theorem le_readDb_bump (selects : Nat → User → Bool) (store : VersionStore) (userId : Nat) :
    (store.readDb userId).getD 0 ≤ ((store.bump selects).readDb userId).getD 0 := by
  rw [readDb_bump, VersionStore.readDb]
  cases store.users.find? userId with
  | none => exact Nat.le_refl _
  | some user =>
    simp only [Option.map_some, Option.getD_some]
    split <;> omega

theorem versionCell_next {delivery : Delivery}
    (inTime : (world.sessions session).inTime world.rows.now = true)
    (moved : (world.sessions session).next delivery world.rows = some (next, store))
    (userId : Nat) :
    MaxCell.Move authzVersionTtl (versionCell world userId)
      (versionCell { rows := store, sessions := update world.sessions session next } userId) := by
  cases place : world.sessions session with
  | current id =>
    rw [place] at moved
    simp only [VersionSession.next, Option.some.injEq, Prod.mk.injEq] at moved
    obtain ⟨rfl, rfl⟩ := moved
    refine move_of_same rfl rfl rfl fun version since waits => ?_
    split at waits
    · split at waits <;> exact waits.elim
    · exact waits.elim
  | unavailable id =>
    rw [place] at moved
    cases moved
    exact move_of_same rfl rfl rfl fun version since waits => waits.elim
  | missed id =>
    rw [place] at moved
    simp only [VersionSession.next, Option.some.injEq, Prod.mk.injEq] at moved
    obtain ⟨rfl, rfl⟩ := moved
    refine .learn rfl le_rfl rfl fun version since waits => (pending_update waits).imp_right ?_
    intro fills
    split at fills
    · rename_i fromDb found
      obtain ⟨rfl, rfl, rfl⟩ := fills
      refine ⟨?_, rfl⟩
      show fromDb = (world.rows.readDb id).getD 0
      rw [found]
      rfl
    · exact fills.elim
  | filling id fromDb readAt =>
    rw [place] at moved inTime
    cases moved
    have first : (world.sessions session).Pending id fromDb readAt := by
      rw [place]
      exact ⟨rfl, rfl, rfl⟩
    refine move_of_setMax delivery first (of_decide_eq_true inTime) ?_ userId
    intro other version since waits
    exact waits.elim
  | yielded id version =>
    rw [place] at moved
    cases moved
  | bumping selects =>
    rw [place] at moved
    cases moved
    refine .learn rfl (le_readDb_bump selects world.rows userId) rfl fun version since waits => ?_
    refine (pending_update waits).imp_right fun ⟨member, at_⟩ => ⟨?_, at_.symm⟩
    have raised := readDb_of_mem_bumpedRows member
    show version = ((world.rows.bump selects).readDb userId).getD 0
    rw [raised]
    rfl
  | publishing updatedAt written todo =>
    rw [place] at moved inTime
    cases todo with
    | nil => cases moved
    | cons row todo =>
      cases moved
      have first : (world.sessions session).Pending row.id row.authzVersion updatedAt := by
        rw [place]
        exact ⟨List.mem_cons_self, rfl⟩
      refine move_of_setMax delivery first (of_decide_eq_true inTime) ?_ userId
      intro other version since waits
      rw [place]
      split at waits <;> exact ⟨List.mem_cons_of_mem _ waits.1, waits.2⟩
  | deleting updatedAt written row todo =>
    rw [place] at moved
    cases moved
    have fewer : ∀ version since,
        VersionSession.Pending userId version since (.publishing updatedAt (written ++ [row]) todo) →
          (world.sessions session).Pending userId version since := by
      intro version since waits
      rw [place]
      exact waits
    unfold Delivery.execute
    split
    · exact move_of_same rfl rfl rfl fewer
    · by_cases mine : userId = row.id
      · refine .drop rfl rfl ?_ (pending_of_imp fewer)
        show update world.rows.cache row.id none userId = none
        rw [mine, update_self]
      · refine move_of_same rfl rfl ?_ fewer
        exact update_of_ne mine _ _

end Keys

end OpenEstate
