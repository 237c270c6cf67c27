/-
**How fresh a session version is.**

A bump that has returned should be seen by every request that starts afterwards. It is, as long as
nobody takes longer than the time to live from the database to the cache, and a bump that could not
write its version leaves no older one behind: neither under the key, nor, once the key has gone, with
a call that has still to write it. Otherwise an old version may be accepted for a while, but not for
more than twice the time to live.

* `VersionsKept` is kept by every step, and `VersionsFresh` by every step that leaves nothing older;
* `current_after_bump`: what a request yields that starts after a bump has returned;
* `current_stale`: what it may yield when the write fails, or when a bump comes late.
-/

import OpenEstate.Access.VersionCache

namespace OpenEstate

open Relational
open Function (update update_self update_of_ne)

/-! ### What is known of a call -/

namespace VersionSession

def rows : VersionSession → List BumpedRow
  | .publishing _ written todo => written ++ todo
  | .deleting _ written row todo => written ++ row :: todo
  | _ => []

def settled : VersionSession → List BumpedRow
  | .publishing _ written _ | .deleting _ written _ _ => written
  | _ => []

def Informed (userId floor : Nat) : VersionSession → Prop
  | .current id | .unavailable id | .missed id => id = userId
  | .filling id fromDb _ => id = userId ∧ floor ≤ fromDb
  | .yielded id version => id = userId ∧ ∃ answer, version = some answer ∧ floor ≤ answer
  | _ => False

end VersionSession

def VersionStore.HasReached (store : VersionStore) (userId floor : Nat) : Prop :=
  ∃ version, store.readDb userId = some version ∧ floor ≤ version

/-- Whether the cache holds nothing that the database has not reached, and for no longer than a key
lives. -/
def VersionStore.Consistent (store : VersionStore) : Prop :=
  ∀ userId cached, store.cache userId = some cached →
    cached.value ≤ (store.readDb userId).getD 0 ∧ cached.expiresAt ≤ store.now + authzVersionTtl

section Next

variable {session next : VersionSession} {store after : VersionStore} {delivery : Delivery}

theorem VersionStore.HasReached.of_next {userId floor : Nat} (reached : store.HasReached userId floor)
    (moved : session.next delivery store = some (next, after)) : after.HasReached userId floor := by
  obtain ⟨version, found, le⟩ := reached
  have same : after.users = store.users → after.HasReached userId floor := by
    intro users
    refine ⟨version, ?_, le⟩
    rw [VersionStore.readDb, users]
    exact found
  have executed : ∀ (id version : Nat),
      (delivery.execute (fun store => (store.setMax id version).2) store).users = store.users := by
    intro id version
    unfold Delivery.execute
    split <;> rfl
  cases session with
  | bumping selects =>
    cases moved
    have raised := readDb_bump selects store userId
    obtain ⟨user, present, rfl⟩ := Option.map_eq_some_iff.mp found
    rw [present, Option.map_some] at raised
    refine ⟨_, raised, le.trans ?_⟩
    split <;> omega
  | publishing updatedAt written todo =>
    cases todo with
    | nil => cases moved
    | cons row todo =>
      cases moved
      exact same (executed _ _)
  | filling id fromDb readAt =>
    cases moved
    exact same (executed _ _)
  | deleting updatedAt written row todo =>
    cases moved
    apply same
    unfold Delivery.execute
    split <;> rfl
  | yielded id version => cases moved
  | current id | unavailable id | missed id =>
    cases moved
    exact same rfl

theorem reached_of_mem_rows {row : BumpedRow}
    (moved : session.next delivery store = some (next, after)) (member : row ∈ next.rows) :
    row ∈ session.rows ∨ after.HasReached row.id row.authzVersion := by
  cases session with
  | bumping selects =>
    cases moved
    exact Or.inr ⟨_, readDb_of_mem_bumpedRows member, le_rfl⟩
  | publishing updatedAt written todo =>
    cases todo with
    | nil => cases moved
    | cons first todo =>
      cases moved
      split at member
      · rw [VersionSession.rows, List.append_assoc] at member
        exact Or.inl member
      · exact Or.inl member
  | deleting updatedAt written first todo =>
    cases moved
    rw [VersionSession.rows, List.append_assoc] at member
    exact Or.inl member
  | current id =>
    simp only [VersionSession.next, Option.some.injEq, Prod.mk.injEq] at moved
    obtain ⟨rfl, rfl⟩ := moved
    split at member
    · split at member <;> cases member
    · cases member
  | missed id =>
    simp only [VersionSession.next, Option.some.injEq, Prod.mk.injEq] at moved
    obtain ⟨rfl, rfl⟩ := moved
    split at member <;> cases member
  | unavailable id | filling id fromDb readAt =>
    cases moved
    cases member
  | yielded id version => cases moved

theorem settled_next {row : BumpedRow}
    (moved : session.next delivery store = some (next, after)) (member : row ∈ next.settled) :
    row ∈ session.settled ∨
      (∃ updatedAt written todo, session = .publishing updatedAt written (row :: todo) ∧
        after = (store.setMax row.id row.authzVersion).2) ∨
      ∃ updatedAt written todo, session = .deleting updatedAt written row todo := by
  cases session with
  | publishing updatedAt written todo =>
    cases todo with
    | nil => cases moved
    | cons first todo =>
      simp only [VersionSession.next, Option.some.injEq, Prod.mk.injEq] at moved
      obtain ⟨rfl, rfl⟩ := moved
      split at member
      · rename_i answered
        rcases List.mem_append.mp member with old | new
        · exact Or.inl old
        · rw [List.mem_singleton.mp new]
          refine Or.inr (Or.inl ⟨updatedAt, written, todo, rfl, ?_⟩)
          rw [answered]
          rfl
      · exact Or.inl member
  | deleting updatedAt written first todo =>
    cases moved
    rcases List.mem_append.mp member with old | new
    · exact Or.inl old
    · rw [List.mem_singleton.mp new]
      exact Or.inr (Or.inr ⟨updatedAt, written, todo, rfl⟩)
  | current id =>
    simp only [VersionSession.next, Option.some.injEq, Prod.mk.injEq] at moved
    obtain ⟨rfl, rfl⟩ := moved
    split at member
    · split at member <;> cases member
    · cases member
  | missed id =>
    simp only [VersionSession.next, Option.some.injEq, Prod.mk.injEq] at moved
    obtain ⟨rfl, rfl⟩ := moved
    split at member <;> cases member
  | unavailable id | filling id fromDb readAt | bumping selects =>
    cases moved
    cases member
  | yielded id version => cases moved

theorem settled_mono {row : BumpedRow} (member : row ∈ session.settled)
    (moved : session.next delivery store = some (next, after)) : row ∈ next.settled := by
  cases session with
  | publishing updatedAt written todo =>
    cases todo with
    | nil => cases moved
    | cons first todo =>
      cases moved
      split
      · exact List.mem_append_left _ member
      · exact member
  | deleting updatedAt written first todo =>
    cases moved
    exact List.mem_append_left _ member
  | _ => cases member

theorem held_of_next {userId : Nat} (moved : session.next delivery store = some (next, after))
    (others : ∀ updatedAt written row todo,
      session = .deleting updatedAt written row todo → row.id ≠ userId)
    (gone : after.cache userId = none) : store.cache userId = none := by
  have setMax : ∀ id version,
      (delivery.execute (fun store => (store.setMax id version).2) store).cache userId = none →
        store.cache userId = none := by
    intro id version none_
    unfold Delivery.execute at none_
    split at none_
    · exact none_
    · by_cases mine : userId = id
      · subst mine
        have written : (Relational.setMax authzVersionTtl store.now version
            (store.cache userId)).2 = none :=
          (update_self userId _ store.cache).symm.trans none_
        rcases setMax_cases authzVersionTtl store.now version (store.cache userId) with
          ⟨fresh, _⟩ | ⟨_, _, _, stays⟩
        · rw [fresh] at written
          cases written
        · rwa [stays] at written
      · exact (update_of_ne mine _ store.cache).symm.trans none_
  cases session with
  | filling id fromDb readAt =>
    cases moved
    exact setMax _ _ gone
  | publishing updatedAt written todo =>
    cases todo with
    | nil => cases moved
    | cons row todo =>
      cases moved
      exact setMax _ _ gone
  | deleting updatedAt written row todo =>
    cases moved
    unfold Delivery.execute at gone
    split at gone
    · exact gone
    · have differs := others updatedAt written row todo rfl
      exact (update_of_ne differs.symm _ store.cache).symm.trans gone
  | yielded id version => cases moved
  | current id | unavailable id | missed id | bumping selects =>
    cases moved
    exact gone

theorem VersionSession.Informed.of_next {userId floor : Nat} (informed : session.Informed userId floor)
    (reached : store.HasReached userId floor)
    (hit : ∀ cached, store.get userId = some cached → floor ≤ cached)
    (moved : session.next delivery store = some (next, after)) : next.Informed userId floor := by
  obtain ⟨version, found, le⟩ := reached
  cases session with
  | current id =>
    obtain rfl : id = userId := informed
    simp only [VersionSession.next, Option.some.injEq, Prod.mk.injEq] at moved
    obtain ⟨rfl, rfl⟩ := moved
    split
    · split
      · rename_i cached holds
        exact ⟨rfl, cached, rfl, hit cached holds⟩
      · rfl
    · rfl
  | unavailable id =>
    obtain rfl : id = userId := informed
    cases moved
    exact ⟨rfl, version, found, le⟩
  | missed id =>
    obtain rfl : id = userId := informed
    simp only [VersionSession.next, found, Option.some.injEq, Prod.mk.injEq] at moved
    obtain ⟨rfl, rfl⟩ := moved
    exact ⟨rfl, le⟩
  | filling id fromDb readAt =>
    obtain ⟨rfl, above⟩ := informed
    cases moved
    refine ⟨rfl, _, rfl, ?_⟩
    split
    · exact above.trans (le_setMax _ _ _ _)
    · exact above
  | yielded id version => cases moved
  | bumping _ | publishing _ _ _ | deleting _ _ _ _ => exact informed.elim

end Next

/-! ### Steps -/

section Steps

variable {ι : Type} [DecidableEq ι]

/-- Whether a bump has written a version of a user, or has given up on it. -/
def VersionSettled (world : VersionWorld ι) (userId version : Nat) : Prop :=
  ∃ session, ⟨userId, version⟩ ∈ (world.sessions session).settled

def StepInTime (step : Step (VersionWorld ι) (ι × VersionDraw)) : Prop :=
  (step.before.sessions step.input.1).inTime
    (step.before.rows.now + step.input.2.elapsed) = true

/-- Whether a bump that gives up on a write leaves nothing behind that is older than what has been
settled: neither under the key, nor, once it has gone, on its way to it. -/
def LeavesNothingOlder (step : Step (VersionWorld ι) (ι × VersionDraw)) : Prop :=
  ∀ updatedAt written row todo,
    step.before.sessions step.input.1 = .deleting updatedAt written row todo →
      ∀ version, VersionSettled step.after row.id version →
        (versionCell step.after row.id).Fresh authzVersionTtl version

structure VersionsKept (world : VersionWorld ι) : Prop where
  sound : ∀ userId, (versionCell world userId).Sound authzVersionTtl
  reached : ∀ session, ∀ row ∈ (world.sessions session).rows,
    world.rows.HasReached row.id row.authzVersion

/-- What every step keeps that leaves nothing older: the cache yields nothing below what has been
settled. -/
structure VersionsFresh (world : VersionWorld ι) : Prop extends VersionsKept world where
  fresh : ∀ userId version, VersionSettled world userId version →
    (versionCell world userId).Fresh authzVersionTtl version

theorem versionExec_eq_ok {input : ι × VersionDraw} {before after : VersionWorld ι}
    (accepted : VersionSession.exec input before = .ok after) :
    ∃ next store, (before.sessions input.1).next input.2.delivery
        (before.rows.wait input.2.elapsed) = some (next, store) ∧
      after = { rows := store, sessions := update before.sessions input.1 next } := by
  obtain ⟨next, store, moved, same⟩ := Shared.exec_eq_ok.mp accepted
  exact ⟨next, store, moved, same⟩

omit [DecidableEq ι] in
theorem VersionsKept.start (calls : ι → VersionCall) {store : VersionStore}
    (consistent : store.Consistent) : VersionsFresh (versionStart calls store) := by
  have nothing : ∀ session, ((versionStart calls store).sessions session).rows = [] ∧
      ((versionStart calls store).sessions session).settled = [] ∧
        ∀ userId version since,
          ¬((versionStart calls store).sessions session).Pending userId version since := by
    intro session
    show (calls session).begin.rows = [] ∧ (calls session).begin.settled = [] ∧
      ∀ userId version since, ¬(calls session).begin.Pending userId version since
    cases calls session <;> exact ⟨rfl, rfl, fun _ _ _ waits => waits⟩
  refine ⟨⟨fun userId => ⟨?_, ?_, ?_, ?_⟩, ?_⟩, ?_⟩
  · exact fun cached held => (consistent userId cached held).1
  · exact fun cached held => (consistent userId cached held).2
  · exact fun version since ⟨session, waits⟩ => absurd waits ((nothing session).2.2 _ _ _)
  · exact fun cached held version since ⟨session, waits⟩ =>
      absurd waits ((nothing session).2.2 _ _ _)
  · intro session row member
    rw [(nothing session).1] at member
    cases member
  · intro userId version ⟨session, member⟩
    rw [(nothing session).2.1] at member
    cases member

variable {input : ι × VersionDraw} {before after : VersionWorld ι}

theorem versionCell_exec (inTime : StepInTime ⟨before, input, after⟩)
    (accepted : VersionSession.exec input before = .ok after) (userId : Nat) :
    ∃ middle : MaxCell Nat, MaxCell.Move authzVersionTtl (versionCell before userId) middle ∧
      MaxCell.Move authzVersionTtl middle (versionCell after userId) ∧
        middle.held = (versionCell before userId).held ∧
          middle.now = before.rows.now + input.2.elapsed := by
  obtain ⟨next, store, moved, rfl⟩ := versionExec_eq_ok accepted
  let middle : VersionWorld ι := { before with rows := before.rows.wait input.2.elapsed }
  have timely : (middle.sessions input.1).inTime middle.rows.now = true := inTime
  exact ⟨versionCell middle userId, versionCell_wait before _ userId,
    versionCell_next timely moved userId, rfl, rfl⟩

theorem VersionStore.HasReached.exec {userId floor : Nat}
    (reached : before.rows.HasReached userId floor)
    (accepted : VersionSession.exec input before = .ok after) :
    after.rows.HasReached userId floor := by
  obtain ⟨next, store, moved, rfl⟩ := versionExec_eq_ok accepted
  have waited : (before.rows.wait input.2.elapsed).HasReached userId floor := reached
  exact waited.of_next moved

theorem VersionsKept.step (kept : VersionsKept before) (inTime : StepInTime ⟨before, input, after⟩)
    (accepted : VersionSession.exec input before = .ok after) : VersionsKept after := by
  refine ⟨fun userId => ?_, fun session row member => ?_⟩
  · obtain ⟨middle, waits, moves, _⟩ := versionCell_exec inTime accepted userId
    exact ((kept.sound userId).move waits).move moves
  · have old : row ∈ (before.sessions session).rows → after.rows.HasReached row.id row.authzVersion :=
      fun earlier => (kept.reached session row earlier).exec accepted
    obtain ⟨next, store, moved, rfl⟩ := versionExec_eq_ok accepted
    by_cases mine : session = input.1
    · rw [mine] at member old
      simp only [update_self] at member
      exact (reached_of_mem_rows moved member).elim old id
    · simp only [update_of_ne mine] at member
      exact old member

theorem VersionsFresh.step (kept : VersionsFresh before)
    (inTime : StepInTime ⟨before, input, after⟩) (clean : LeavesNothingOlder ⟨before, input, after⟩)
    (accepted : VersionSession.exec input before = .ok after) : VersionsFresh after := by
  refine ⟨kept.toVersionsKept.step inTime accepted, fun userId version is => ?_⟩
  obtain ⟨next, store, moved, same⟩ := versionExec_eq_ok accepted
  obtain ⟨middle, waits, moves, held, _⟩ := versionCell_exec inTime accepted userId
  -- a bump that gives up on the key of this user leaves it as the condition says
  by_cases givesUp : ∃ updatedAt written row todo,
      before.sessions input.1 = .deleting updatedAt written row todo ∧ row.id = userId
  · obtain ⟨updatedAt, written, row, todo, place, rfl⟩ := givesUp
    exact clean updatedAt written row todo place version is
  · have old : VersionSettled before userId version →
        (versionCell after userId).Fresh authzVersionTtl version := by
      intro earlier
      have fresh := (kept.fresh userId version earlier).move (kept.sound userId) waits
        fun gone => held ▸ gone
      refine fresh.move ((kept.sound userId).move waits) moves fun gone => ?_
      rw [held]
      subst same
      have waitedGone : (before.rows.wait input.2.elapsed).cache userId = none :=
        held_of_next moved (fun updatedAt written row todo place mine =>
          givesUp ⟨updatedAt, written, row, todo, place, mine⟩) gone
      exact waitedGone
    subst same
    obtain ⟨session, member⟩ := is
    by_cases mine : session = input.1
    · rw [mine] at member
      simp only [update_self] at member
      rcases settled_next moved member with earlier | ⟨updatedAt, written, todo, place, is⟩ |
        ⟨updatedAt, written, todo, place⟩
      · exact old ⟨input.1, earlier⟩
      · let waited : VersionWorld ι := { before with rows := before.rows.wait input.2.elapsed }
        have sound : (versionCell waited userId).Sound authzVersionTtl :=
          (kept.sound userId).move (versionCell_wait before _ userId)
        have pending : (waited.sessions input.1).Pending userId version updatedAt := by
          show (before.sessions input.1).Pending userId version updatedAt
          rw [place]
          exact ⟨List.mem_cons_self, rfl⟩
        subst is
        refine MaxCell.fresh_of_write sound ⟨input.1, pending⟩ rfl rfl ?_ (pending_of_imp ?_)
        · show update (before.rows.wait _).cache userId _ userId = _
          rw [update_self]
          rfl
        · intro other since waits
          show (before.sessions input.1).Pending userId other since
          rw [place] at moved ⊢
          simp only [VersionSession.next, Option.some.injEq, Prod.mk.injEq] at moved
          rw [← moved.1] at waits
          split at waits <;> exact ⟨List.mem_cons_of_mem _ waits.1, waits.2⟩
      · exact absurd ⟨updatedAt, written, _, todo, place, rfl⟩ givesUp
    · simp only [update_of_ne mine] at member
      exact old ⟨session, member⟩

end Steps

/-! ### Runs -/

section Runs

variable {ι : Type} [DecidableEq ι] {before : VersionWorld ι} {userId floor : Nat}

theorem informed_of_hits {reader : ι} {world : VersionWorld ι} {inputs : List (ι × VersionDraw)}
    (informed : (world.sessions reader).Informed userId floor)
    (reached : world.rows.HasReached userId floor)
    (hits : ∀ step ∈ steps VersionSession.exec world inputs, step.input.1 = reader →
      ∀ cached, (step.before.rows.wait step.input.2.elapsed).get userId = some cached →
        floor ≤ cached) :
    ∀ visited ∈ states VersionSession.exec world inputs,
      visited.rows.HasReached userId floor ∧ (visited.sessions reader).Informed userId floor := by
  refine states_invariant _ ?_ hits ⟨reached, informed⟩
  intro input before after ⟨reached, informed⟩ accepted hit
  refine ⟨reached.exec accepted, ?_⟩
  obtain ⟨next, store, moved, rfl⟩ := versionExec_eq_ok accepted
  by_cases mine : reader = input.1
  · subst mine
    simp only [update_self]
    have waited : (before.rows.wait input.2.elapsed).HasReached userId floor := reached
    exact informed.of_next waited (hit rfl) moved
  · simp only [update_of_ne mine]
    exact informed

omit [DecidableEq ι] in
theorem VersionsFresh.le_get (fresh : VersionsFresh before)
    (is : VersionSettled before userId floor) (elapsed : Nat) {cached : Nat}
    (holds : (before.rows.wait elapsed).get userId = some cached) : floor ≤ cached := by
  have waited := (fresh.fresh userId floor is).move (fresh.sound userId)
    (versionCell_wait before elapsed userId) fun gone => gone
  exact waited.le_live cached holds

theorem VersionSettled.exec {input : ι × VersionDraw} {after : VersionWorld ι}
    (is : VersionSettled before userId floor)
    (accepted : VersionSession.exec input before = .ok after) :
    VersionSettled after userId floor := by
  obtain ⟨session, member⟩ := is
  obtain ⟨next, store, moved, rfl⟩ := versionExec_eq_ok accepted
  refine ⟨session, ?_⟩
  by_cases mine : session = input.1
  · subst mine
    simp only [update_self]
    exact settled_mono member moved
  · simp only [update_of_ne mine]
    exact member

/-- **What a request yields that starts after a bump has returned**, in any interleaving of calls in
which nobody takes longer from the database to the cache than a key lives: at least the version
that the bump has raised, if every bump that gives up on a write leaves nothing older behind, or if
the request comes twice the time to live later. -/
theorem current_after_bump (calls : ι → VersionCall) {store : VersionStore}
    (consistent : store.Consistent) (earlier later : List (ι × VersionDraw)) (bump reader : ι)
    {updatedAt : Nat} {rows : List BumpedRow} {row : BumpedRow} (member : row ∈ rows)
    (returned : (run VersionSession.exec (versionStart calls store) earlier).sessions bump =
      .publishing updatedAt rows [])
    (unstarted : (run VersionSession.exec (versionStart calls store) earlier).sessions reader =
      .current row.id)
    (inTime : ∀ step ∈ steps VersionSession.exec (versionStart calls store) (earlier ++ later),
      StepInTime step)
    (cleanOrLate :
      (∀ step ∈ steps VersionSession.exec (versionStart calls store) (earlier ++ later),
        LeavesNothingOlder step) ∨
      ∀ step ∈ steps VersionSession.exec
          (run VersionSession.exec (versionStart calls store) earlier) later,
        step.input.1 = reader →
          (run VersionSession.exec (versionStart calls store) earlier).rows.now +
            2 * authzVersionTtl ≤ step.before.rows.now + step.input.2.elapsed) :
    ∀ visited ∈ states VersionSession.exec
        (run VersionSession.exec (versionStart calls store) earlier) later,
      ∀ userId version, visited.sessions reader = .yielded userId version →
        userId = row.id ∧ ∃ answer, version = some answer ∧ row.authzVersion ≤ answer := by
  rw [steps_append] at inTime cleanOrLate
  let middle := run VersionSession.exec (versionStart calls store) earlier
  have kept : VersionsKept middle := by
    refine states_invariant VersionsKept ?_ (fun step taken => inTime step
      (List.mem_append_left _ taken)) (VersionsKept.start calls consistent).toVersionsKept _
      (run_mem_states _ _)
    exact fun input before after kept accepted timely => kept.step timely accepted
  have reached : middle.rows.HasReached row.id row.authzVersion := by
    refine kept.reached bump row ?_
    rw [returned]
    exact List.mem_append_left _ member
  have informed : (middle.sessions reader).Informed row.id row.authzVersion := by
    rw [unstarted]
    rfl
  have hits : ∀ step ∈ steps VersionSession.exec middle later, step.input.1 = reader →
      ∀ cached, (step.before.rows.wait step.input.2.elapsed).get row.id = some cached →
        row.authzVersion ≤ cached := by
    intro step taken mine cached holds
    have visits := before_mem_states taken
    rcases cleanOrLate with clean | late
    · -- the bump has settled its row, and the cache stays fresh
      have earlierMet : ∀ step ∈ steps VersionSession.exec (versionStart calls store) earlier,
          StepInTime step ∧ LeavesNothingOlder step := fun step taken =>
        ⟨inTime step (List.mem_append_left _ taken), clean step (List.mem_append_left _ taken)⟩
      have laterMet : ∀ step ∈ steps VersionSession.exec middle later,
          StepInTime step ∧ LeavesNothingOlder step := fun step taken =>
        ⟨inTime step (List.mem_append_right _ taken), clean step (List.mem_append_right _ taken)⟩
      have fresh : VersionsFresh middle := by
        refine states_invariant VersionsFresh ?_ earlierMet (VersionsKept.start calls consistent) _
          (run_mem_states _ _)
        exact fun input before after fresh accepted met => fresh.step met.1 met.2 accepted
      have settled : VersionSettled middle row.id row.authzVersion := by
        refine ⟨bump, ?_⟩
        rw [returned]
        exact member
      have both : VersionsFresh step.before ∧
          VersionSettled step.before row.id row.authzVersion := by
        refine states_invariant (fun world => VersionsFresh world ∧
          VersionSettled world row.id row.authzVersion) ?_ laterMet ⟨fresh, settled⟩ _ visits
        exact fun input before after holds accepted met =>
          ⟨holds.1.step met.1 met.2 accepted, holds.2.exec accepted⟩
      exact both.1.le_get both.2 _ holds
    · -- whatever is older has expired
      have aging : (versionCell middle row.id).Aging authzVersionTtl row.authzVersion
          middle.rows.now := by
        obtain ⟨version, found, le⟩ := reached
        refine (kept.sound row.id).aging ?_
        show row.authzVersion ≤ (middle.rows.readDb row.id).getD 0
        rwa [found]
      have aged : (versionCell step.before row.id).Aging authzVersionTtl row.authzVersion
          middle.rows.now := by
        refine states_invariant (fun world => (versionCell world row.id).Aging authzVersionTtl
          row.authzVersion middle.rows.now) ?_ (fun step taken =>
          inTime step (List.mem_append_right _ taken)) aging _ visits
        intro input before after aging accepted timely
        obtain ⟨_, waits, moves, _⟩ := versionCell_exec timely accepted row.id
        exact (aging.move waits).move moves
      have waited := aged.move (versionCell_wait step.before step.input.2.elapsed row.id)
      exact waited.le_live (late step taken mine) holds
  intro visited passed userId version answered
  have now := (informed_of_hits informed reached hits visited passed).2
  rw [answered] at now
  exact now

end Runs

/-! ### What may go wrong -/

/-- A request that fills the cache, two bumps of the same user, and a request that comes later. -/
inductive VersionRace
  | filler | bump | other | reader
  deriving DecidableEq

def versionRaceCalls : VersionRace → VersionCall
  | .filler | .reader => .current 1
  | .bump | .other => .bumpUsers [1]

def versionRaceStart : VersionWorld VersionRace :=
  versionStart versionRaceCalls ⟨0, smallCompany.users, fun _ => none⟩

theorem versionRace_consistent :
    VersionStore.Consistent ⟨0, smallCompany.users, fun _ => none⟩ := by
  intro userId cached held
  cases held

def answeredAtOnce (call : VersionRace) : VersionRace × VersionDraw := (call, ⟨0, .answered⟩)

def lostAtOnce (call : VersionRace) : VersionRace × VersionDraw := (call, ⟨0, .lost⟩)

def VersionSession.givesUp : VersionSession → Bool
  | .deleting _ _ _ _ => true
  | _ => false

def raisedInTime : List (VersionRace × VersionDraw) :=
  [.filler, .filler, .filler, .bump, .bump].map answeredAtOnce

/-- A version in the cache gives way to the one that the bump raises. -/
theorem raised_version_yielded : ∃ answer,
    (run VersionSession.exec (run VersionSession.exec versionRaceStart raisedInTime)
      [answeredAtOnce .reader]).sessions .reader = .yielded 1 (some answer) ∧ 1 ≤ answer := by
  have never : ∀ step ∈ steps VersionSession.exec versionRaceStart
      (raisedInTime ++ [answeredAtOnce .reader]),
      (step.before.sessions step.input.1).givesUp = false := by
    decide
  have clean : ∀ step ∈ steps VersionSession.exec versionRaceStart
      (raisedInTime ++ [answeredAtOnce .reader]), LeavesNothingOlder step := by
    intro step taken updatedAt written row todo place
    have := never step taken
    rw [place] at this
    cases this
  have timely : ∀ step ∈ steps VersionSession.exec versionRaceStart
      (raisedInTime ++ [answeredAtOnce .reader]), (step.before.sessions step.input.1).inTime
        (step.before.rows.now + step.input.2.elapsed) = true := by
    decide
  have raised : (⟨1, 1⟩ : BumpedRow) ∈ [(⟨1, 1⟩ : BumpedRow)] := List.mem_cons_self
  obtain ⟨_, answer, same, le⟩ := current_after_bump versionRaceCalls versionRace_consistent
    raisedInTime [answeredAtOnce .reader] .bump .reader raised rfl rfl timely (Or.inl clean) _
    (run_mem_states _ _) 1 (some 1) rfl
  refine ⟨answer, ?_, le⟩
  rw [← same]
  rfl

def VersionSession.readsInTime (now : Nat) : VersionSession → Bool
  | .filling _ _ readAt => now < readAt + authzVersionTtl
  | _ => true

/-- A request starts after a bump has returned, and yields an older version. -/
def YieldsStale (raiser : VersionRace) (version answer : Nat)
    (earlier later : List (VersionRace × VersionDraw)) : Prop :=
  (∀ step ∈ steps VersionSession.exec versionRaceStart (earlier ++ later),
    (step.before.sessions step.input.1).readsInTime
      (step.before.rows.now + step.input.2.elapsed) = true) ∧
  (run VersionSession.exec versionRaceStart earlier).sessions raiser =
    .publishing 0 [⟨1, version⟩] [] ∧
  (run VersionSession.exec versionRaceStart earlier).sessions .reader = .current 1 ∧
  (run VersionSession.exec versionRaceStart (earlier ++ later)).sessions .reader =
    .yielded 1 (some answer) ∧
  answer < version

/-- **An old version is yielded** when neither the write nor the deletion of the key comes through;
when the key is deleted, and filled by a request that had read before the bump; and when all commands
come through, but another bump writes after the key has expired. -/
theorem current_stale :
    YieldsStale .bump 1 0
      ([.filler, .filler, .filler, .bump].map answeredAtOnce ++ [lostAtOnce .bump, lostAtOnce .bump])
      [answeredAtOnce .reader] ∧
    YieldsStale .bump 1 0
      ([.filler, .filler, .bump].map answeredAtOnce ++ [lostAtOnce .bump, answeredAtOnce .bump])
      [answeredAtOnce .filler, answeredAtOnce .reader] ∧
    YieldsStale .other 2 1 ([.bump, .other, .other].map answeredAtOnce)
      [(.bump, ⟨authzVersionTtl, .answered⟩), answeredAtOnce .reader] := by
  refine ⟨⟨by decide, rfl, rfl, rfl, by decide⟩, ⟨by decide, rfl, rfl, rfl, by decide⟩,
    ⟨by decide, rfl, rfl, rfl, by decide⟩⟩

end OpenEstate
