/-
**Row locks as a discipline.**

A session that holds a lock relies on what the lock protects, and owes it to the others to leave
alone what they hold. A `Discipline` says what is kept by every commit, how the rows may grow, what
each lock protects, and what of a session's own the others leave steady. `wp` is what has to be
known of a transaction on its way for it to keep the discipline and to end as it should, whatever
the others do in between:

* `wp_bind`, `wp_readOnly`, `wp_harmless`: the rules for sequences, for reading, and for statements
  that touch nothing the discipline protects;
* `Guarded.run`: a guarded transaction that runs alone;
* `Governed.step`: one move of a world in which every session is on its way;
* `governed_of_states`: in any interleaving the committed rows keep the discipline, and whoever
  commits ends as it should;
* `forall_rows_iff`: what every commit keeps exactly when it meets a condition.
-/

import OpenEstate.Relational.Interleaving

set_option linter.unusedSectionVars false

namespace Relational

open Function (update update_self update_of_ne)

variable {ι σ κ ε α β γ : Type}

/-- What is kept of the rows, how they grow, what a lock protects, and what of a session's own the
other sessions leave steady. -/
structure Discipline (ι σ κ : Type) where
  kept : σ → Prop
  grows : σ → σ → Prop
  same : κ → σ → σ → Prop
  steady : ι → σ → σ → Prop
  grows_refl : ∀ rows, grows rows rows
  grows_trans : ∀ {first second third}, grows first second → grows second third →
    grows first third
  same_refl : ∀ lock rows, same lock rows rows
  same_trans : ∀ {lock first second third}, same lock first second → same lock second third →
    same lock first third
  steady_refl : ∀ session rows, steady session rows rows
  steady_trans : ∀ {session first second third}, steady session first second →
    steady session second third → steady session first third

namespace Discipline

variable (D : Discipline ι σ κ)

structure Relies (session : ι) (held : List κ) (rows later : σ) : Prop where
  kept : D.kept later
  grows : D.grows rows later
  steady : D.steady session rows later
  same : ∀ lock ∈ held, D.same lock rows later

structure Promises (session : ι) (held : List κ) (rows after : σ) : Prop where
  kept : D.kept after
  grows : D.grows rows after
  steady : ∀ other, other ≠ session → D.steady other rows after
  same : ∀ lock, lock ∉ held → D.same lock rows after

variable {D}

theorem Relies.refl {session : ι} {held : List κ} {rows : σ} (kept : D.kept rows) :
    D.Relies session held rows rows where
  kept := kept
  grows := D.grows_refl rows
  steady := D.steady_refl session rows
  same := fun lock _ => D.same_refl lock rows

theorem Relies.trans {session : ι} {held : List κ} {rows later last : σ}
    (first : D.Relies session held rows later) (second : D.Relies session held later last) :
    D.Relies session held rows last where
  kept := second.kept
  grows := D.grows_trans first.grows second.grows
  steady := D.steady_trans first.steady second.steady
  same := fun lock member => D.same_trans (first.same lock member) (second.same lock member)

theorem Promises.relies {session other : ι} {held locks : List κ} {rows after : σ}
    (promises : D.Promises session held rows after) (different : other ≠ session)
    (apart : ∀ lock ∈ locks, lock ∉ held) : D.Relies other locks rows after where
  kept := promises.kept
  grows := promises.grows
  steady := promises.steady other different
  same := fun lock member => promises.same lock (apart lock member)

theorem Promises.refl {session : ι} {held : List κ} {rows : σ} (kept : D.kept rows) :
    D.Promises session held rows rows where
  kept := kept
  grows := D.grows_refl rows
  steady := fun other _ => D.steady_refl other rows
  same := fun lock _ => D.same_refl lock rows

variable (D)

/-- What has to be known of a transaction on its way, with the locks it holds, what it has written,
and the rows at some moment since its last statement. -/
def wp (session : ι) (seen : σ → Prop) (post : List κ → α → (σ → σ) → σ → Prop) :
    List κ → Tx σ κ ε α → (σ → σ) → σ → Prop
  | held, .done result, written, rows => post held result written rows
  | _, .fail _, _, _ => True
  | held, .stmt locks write next, written, rows =>
    ∀ later, D.Relies session held rows later → seen later →
      wp session seen post (locks ++ held) (next (written later)) (write ∘ written) later

/-- What a session that has nothing left to do commits keeps the discipline, and it ends as it
should. -/
def Commits (session : ι) (ends : α → σ → σ → Prop) (held : List κ) (result : α)
    (written : σ → σ) (rows : σ) : Prop :=
  ∀ later, D.Relies session held rows later →
    D.Promises session held later (written later) ∧ ends result later (written later)

abbrev Guarded (session : ι) (seen : σ → Prop) (ends : α → σ → σ → Prop) :
    List κ → Tx σ κ ε α → (σ → σ) → σ → Prop :=
  D.wp session seen (D.Commits session ends)

variable {D}

/-! ### Rules -/

section Rules

variable {session : ι} {seen : σ → Prop} {held : List κ} {written : σ → σ} {rows : σ}

theorem wp_bind {first : Tx σ κ ε α} {later : α → Tx σ κ ε β}
    {post : List κ → β → (σ → σ) → σ → Prop}
    (goes : D.wp session seen
      (fun held value written rows => D.wp session seen post held (later value) written rows)
      held first written rows) :
    D.wp session seen post held (first >>= later) written rows := by
  induction first generalizing held written rows with
  | done value => exact goes
  | fail error => trivial
  | stmt locks write next ih => exact fun after relies sees => ih _ (goes after relies sees)

variable {tx : Tx σ κ ε α}

theorem wp_mono {weak strong : List κ → α → (σ → σ) → σ → Prop} {often : σ → Prop}
    (goes : D.wp session seen strong held tx written rows) (sees : ∀ rows, often rows → seen rows)
    (implies : ∀ held value written rows, strong held value written rows →
      weak held value written rows) :
    D.wp session often weak held tx written rows := by
  induction tx generalizing held written rows with
  | done value => exact implies _ _ _ _ goes
  | fail error => trivial
  | stmt locks write next ih =>
    exact fun after relies often => ih _ (goes after relies (sees after often))

theorem wp_relies {post : List κ → α → (σ → σ) → σ → Prop} {later : σ}
    (goes : D.wp session seen post held tx written rows) (relies : D.Relies session held rows later)
    (stable : ∀ value, post held value written rows → post held value written later) :
    D.wp session seen post held tx written later := by
  cases tx with
  | done value => exact stable value goes
  | fail error => trivial
  | stmt locks write next => exact fun after more => goes after (relies.trans more)

variable {ends : α → σ → σ → Prop} {result : α}

theorem Commits.relies {later : σ} (commits : D.Commits session ends held result written rows)
    (relies : D.Relies session held rows later) :
    D.Commits session ends held result written later :=
  fun after more => commits after (relies.trans more)

theorem Guarded.relies {later : σ} (guarded : D.Guarded session seen ends held tx written rows)
    (relies : D.Relies session held rows later) :
    D.Guarded session seen ends held tx written later :=
  wp_relies guarded relies fun _ commits => commits.relies relies

theorem Guarded.map {f : α → β} {finally_ : β → σ → σ → Prop}
    (guarded : D.Guarded session seen ends held tx written rows)
    (right : ∀ value before after, ends value before after → finally_ (f value) before after) :
    D.Guarded session seen finally_ held (tx >>= fun value => pure (f value)) written rows := by
  refine wp_bind (wp_mono guarded (fun _ sees => sees) ?_)
  intro held value written rows commits later relies
  exact ⟨(commits later relies).1, right value _ _ (commits later relies).2⟩

theorem commits_id (right : ∀ later, D.Relies session held rows later → ends result later later) :
    D.Commits session ends held result id rows :=
  fun later relies => ⟨.refl relies.kept, right later relies⟩

section Programs

variable {post : List κ → β → (σ → σ) → σ → Prop}
variable {later : α → Tx σ κ ε β}

theorem wp_check_bind {computed : Except ε α} (goes : ∀ value, computed = .ok value →
      D.wp session seen post held (later value) written rows) :
    D.wp session seen post held (Tx.check computed >>= later) written rows := by
  cases computed with
  | ok value => exact goes value rfl
  | error error => trivial

theorem wp_check {computed : Except ε α} {post : List κ → α → (σ → σ) → σ → Prop}
    (goes : ∀ value, computed = .ok value → post held value written rows) :
    D.wp session seen post held (Tx.check computed) written rows := by
  cases computed with
  | ok value => exact goes value rfl
  | error error => trivial

theorem wp_read_bind {query : σ → α} (goes : ∀ now, D.Relies session held rows now → seen now →
      D.wp session seen post held (later (query (written now))) written now) :
    D.wp session seen post held (Tx.read query >>= later) written rows :=
  goes

theorem wp_query_bind {ask : σ → Except ε α}
    (goes : ∀ now, D.Relies session held rows now → seen now →
      ∀ value, ask (written now) = .ok value →
        D.wp session seen post held (later value) written now) :
    D.wp session seen post held (Tx.query ask >>= later) written rows := by
  intro now relies sees
  exact wp_check_bind (goes now relies sees)

theorem wp_query_answering {ask : σ → Except ε α} {sought : σ → Option γ}
    {post : List κ → Option γ → (σ → σ) → σ → Prop}
    (goes : ∀ now, D.Relies session held rows now → seen now →
      ∀ value, ask (written now) = .ok value →
        D.wp session seen (fun held _ => post held (sought (written now))) held (later value) written
          now) :
    D.wp session seen post held ((Tx.query ask >>= later).answering sought) written rows := by
  intro now relies sees
  cases answer : ask (written now) with
  | error error =>
    show D.wp session seen post _ (((Tx.check (ask (written now))).bind later).bind _) _ now
    rw [answer]
    trivial
  | ok value =>
    show D.wp session seen post _ (((Tx.check (ask (written now))).bind later).bind _) _ now
    rw [answer]
    exact wp_bind (goes now relies sees value answer)

theorem wp_readOnly {tx : Tx σ κ ε α} {kept : σ → Prop} {ends : α → Prop}
    {post : List κ → α → (σ → σ) → σ → Prop} (reads : tx.ReadOnly kept ends)
    (holds : ∀ now, D.Relies session held rows now → kept (written now)) (begun : D.kept rows)
    (goes : ∀ now value, D.Relies session held rows now → ends value →
      post held value written now) :
    D.wp session seen post held tx written rows := by
  induction reads generalizing rows with
  | done ended => exact goes rows _ (.refl begun) ended
  | fail error => trivial
  | read follows ih =>
    intro now relies _
    refine ih _ (holds now relies) (fun later more => holds later (relies.trans more)) relies.kept ?_
    exact fun later value more => goes later value (relies.trans more)

end Programs

theorem wp_harmless {allowed : (σ → σ) → Prop} (writes : tx.Writes allowed)
    (soFar : allowed written)
    (comp : ∀ {first second}, allowed first → allowed second → allowed (second ∘ first))
    (harmless : ∀ {write}, allowed write → ∀ held rows, D.kept rows →
      D.Promises session held rows (write rows))
    (right : ∀ {write}, allowed write → ∀ value rows, ends value rows (write rows)) :
    D.Guarded session seen ends held tx written rows := by
  induction writes generalizing held written rows with
  | done value => exact fun later relies => ⟨harmless soFar held later relies.kept, right soFar _ _⟩
  | fail error => trivial
  | stmt one follows ih => exact fun later _ _ => ih _ (comp soFar one)

/-! ### Running alone -/

theorem wp_run {post : List κ → α → (σ → σ) → σ → Prop} {after : σ}
    (goes : D.wp session seen post held tx written rows) (kept : D.kept rows) (sees : seen rows)
    (ran : tx.run (written rows) = .ok (result, after)) :
    ∃ held write, post held result write rows ∧ after = write rows := by
  induction tx generalizing held written with
  | done value =>
    cases ran
    exact ⟨held, written, goes, rfl⟩
  | fail error => cases ran
  | stmt locks write next ih => exact ih _ (goes rows (.refl kept) sees) ran

theorem Guarded.run {after : σ} (guarded : D.Guarded session seen ends held tx id rows)
    (kept : D.kept rows) (sees : seen rows) (ran : tx.run rows = .ok (result, after)) :
    D.kept after ∧ D.grows rows after ∧ ends result rows after := by
  obtain ⟨_, write, commits, rfl⟩ := wp_run guarded kept sees ran
  obtain ⟨promises, right⟩ := commits rows (.refl kept)
  exact ⟨promises.kept, promises.grows, right⟩

end Rules

/-! ### Interleavings -/

section Worlds

variable [DecidableEq ι] [DecidableEq κ]
variable (D)

/-- Where a session stands, in a world that comes from another one: it is on its way, with the locks
it needs; or it had ended at first; or it has ended as it should, at some moment since. -/
def Stands (seen : σ → Prop) (ends : ι → α → σ → σ → Prop) (origin world : World ι σ κ ε α)
    (session : ι) : Prop :=
  match world.sessions session with
  | .active todo written => ∃ held, (∀ lock ∈ held, world.holder lock = some session) ∧
      D.Guarded session seen (ends session) held todo written world.rows
  | .committed result => origin.HasCommitted session ∨
      ∃ before after, D.grows origin.rows before ∧ D.kept before ∧ D.grows before after ∧
        ends session result before after ∧ D.grows after world.rows
  | .aborted => True

/-- A world that comes from another one, with every session on its way or ended as it should; what
is a session's own is steady until it has committed. -/
structure Governed (seen : σ → Prop) (ends : ι → α → σ → σ → Prop)
    (origin world : World ι σ κ ε α) : Prop where
  kept : D.kept world.rows
  grows : D.grows origin.rows world.rows
  steady : ∀ session, ¬world.HasCommitted session → D.steady session origin.rows world.rows
  stands : ∀ session, D.Stands seen ends origin world session

variable {D} {seen : σ → Prop} {ends : ι → α → σ → σ → Prop} {origin : World ι σ κ ε α}
variable {world : World ι σ κ ε α} {session : ι}

theorem Stands.of_active {todo : Tx σ κ ε α} {written : σ → σ}
    (stands : D.Stands seen ends origin world session)
    (active : world.sessions session = .active todo written) :
    ∃ held, (∀ lock ∈ held, world.holder lock = some session) ∧
      D.Guarded session seen (ends session) held todo written world.rows := by
  unfold Stands at stands
  rw [active] at stands
  exact stands

theorem Stands.of_committed {result : α} (stands : D.Stands seen ends origin world session)
    (committed : world.sessions session = .committed result) :
    origin.HasCommitted session ∨
      ∃ before after, D.grows origin.rows before ∧ D.kept before ∧ D.grows before after ∧
        ends session result before after ∧ D.grows after world.rows := by
  unfold Stands at stands
  rw [committed] at stands
  exact stands

variable {after : World ι σ κ ε α}

theorem Stands.of_relies (stands : D.Stands seen ends origin world session)
    (sameSession : after.sessions session = world.sessions session)
    (grows : D.grows world.rows after.rows)
    (holds : ∀ held, (∀ lock ∈ held, world.holder lock = some session) →
      (∀ lock ∈ held, after.holder lock = some session) ∧
        D.Relies session held world.rows after.rows) :
    D.Stands seen ends origin after session := by
  unfold Stands at stands ⊢
  rw [sameSession]
  cases place : world.sessions session with
  | active todo written =>
    simp only [place] at stands ⊢
    obtain ⟨held, mine, guarded⟩ := stands
    obtain ⟨still, relies⟩ := holds held mine
    exact ⟨held, still, guarded.relies relies⟩
  | committed result =>
    simp only [place] at stands ⊢
    rcases stands with early | ⟨before, last, since, kept, moved, right, more⟩
    · exact Or.inl early
    · exact Or.inr ⟨before, last, since, kept, moved, right, D.grows_trans more grows⟩
  | aborted => trivial

theorem Governed.of_sameRows {todo : Tx σ κ ε α} {written : σ → σ}
    (governed : D.Governed seen ends origin world)
    (active : world.sessions session = .active todo written)
    (move : World.Moved world session todo written after) (rows : after.rows = world.rows)
    (stands : D.Stands seen ends origin after session)
    (keeps : ∀ other lock, other ≠ session → world.holder lock = some other →
      after.holder lock = some other) : D.Governed seen ends origin after := by
  have relies : ∀ other held, D.Relies other held world.rows after.rows := by
    intro other held
    rw [rows]
    exact .refl governed.kept
  refine ⟨rows ▸ governed.kept, rows ▸ governed.grows, fun other uncommitted => ?_, fun other => ?_⟩
  · have still : ¬world.HasCommitted other :=
      fun ⟨result, committed⟩ => uncommitted ⟨result, move.committed active committed⟩
    exact rows ▸ governed.steady other still
  · by_cases same : other = session
    · exact same ▸ stands
    · refine (governed.stands other).of_relies (move.sessions_of_ne same)
        (rows ▸ D.grows_refl _) fun locked theirs => ?_
      exact ⟨fun lock member => keeps other lock same (theirs lock member), relies other locked⟩

theorem Governed.step {choice : Choice ι} (governed : D.Governed seen ends origin world)
    (sees : seen world.rows)
    (accepted : World.exec choice world = .ok after) : D.Governed seen ends origin after := by
  obtain ⟨session, todo, written, active, move⟩ := World.moved accepted
  obtain ⟨held, mine, guarded⟩ := (governed.stands session).of_active active
  have step := move
  have committedStays : ∀ other, world.HasCommitted other → after.HasCommitted other :=
    fun other ⟨result, committed⟩ => ⟨result, step.committed active committed⟩
  cases move with
  | @issue locks write next is free =>
    subst is
    refine governed.of_sameRows active step rfl ?_ fun other lock different theirs => ?_
    · unfold Stands
      rw [World.sessions_issue]
      refine ⟨locks ++ held, fun lock member => ?_, ?_⟩
      · rw [World.holder_issue]
        split
        · rfl
        · rename_i old
          exact mine lock ((List.mem_append.mp member).resolve_left old)
      · exact guarded _ (.refl governed.kept) sees
    · rw [World.holder_issue, if_neg, theirs]
      intro taken
      rcases free lock taken with nobody | self
      · rw [theirs] at nobody
        cases nobody
      · rw [theirs] at self
        exact different (Option.some.inj self)
  | @commit result is =>
    subst is
    obtain ⟨promises, right⟩ := guarded _ (Relies.refl governed.kept)
    refine ⟨promises.kept, D.grows_trans governed.grows promises.grows,
      fun other uncommitted => ?_, fun other => ?_⟩
    · refine D.steady_trans (governed.steady other (mt (committedStays other) uncommitted))
        (promises.steady other ?_)
      rintro rfl
      exact uncommitted ⟨result, World.sessions_commit⟩
    by_cases same : other = session
    · subst same
      unfold Stands
      rw [World.sessions_commit]
      exact Or.inr ⟨world.rows, written world.rows, governed.grows, governed.kept, promises.grows,
        right, D.grows_refl _⟩
    · refine (governed.stands other).of_relies (step.sessions_of_ne same) promises.grows ?_
      intro locked theirs
      refine ⟨fun lock member => World.release_eq_some.mpr ⟨theirs lock member, same⟩, ?_⟩
      refine promises.relies same fun lock member both => same ?_
      have clash := mine lock both
      rw [theirs lock member] at clash
      exact Option.some.inj clash
  | rollback =>
    refine governed.of_sameRows active step rfl ?_ fun other lock different theirs => ?_
    · unfold Stands
      rw [World.sessions_rollback]
      trivial
    · exact World.release_eq_some.mpr ⟨theirs, different⟩

theorem governed_self (kept : D.kept world.rows)
    (each : ∀ session todo written, world.sessions session = .active todo written →
      ∃ held, (∀ lock ∈ held, world.holder lock = some session) ∧
        D.Guarded session seen (ends session) held todo written world.rows) :
    D.Governed seen ends world world where
  kept := kept
  grows := D.grows_refl _
  steady := fun session _ => D.steady_refl session _
  stands := by
    intro session
    unfold Stands
    cases place : world.sessions session with
    | active todo written => exact each session todo written place
    | committed result => exact Or.inl ⟨result, place⟩
    | aborted => trivial

theorem governed_start {programs : ι → Tx σ κ ε α} {rows : σ} (kept : D.kept rows)
    (each : ∀ session, D.Guarded session seen (ends session) [] (programs session) id rows) :
    D.Governed seen ends (World.start programs rows) (World.start programs rows) := by
  refine governed_self kept fun session todo written active => ?_
  cases active
  exact ⟨[], nofun, each session⟩

theorem governed_of_states (governed : D.Governed seen ends origin world)
    (schedule : List (Choice ι))
    (sees : ∀ visited ∈ states World.exec world schedule, seen visited.rows) :
    ∀ visited ∈ states World.exec world schedule, D.Governed seen ends origin visited := by
  have kept : ∀ (choice : Choice ι) (before after : World ι σ κ ε α),
      D.Governed seen ends origin before → World.exec choice before = .ok after →
      seen before.rows → D.Governed seen ends origin after :=
    fun choice before after governed accepted sees => governed.step sees accepted
  have meets : ∀ step ∈ steps World.exec world schedule, seen step.before.rows :=
    fun step member => sees _ (before_mem_states member)
  exact states_invariant _ kept meets governed

theorem Governed.ends_of_commitsIn {choice : Choice ι} {before : World ι σ κ ε α} {answer : α}
    (governed : D.Governed seen ends origin before)
    (accepted : World.exec choice before = .ok after)
    (commits : World.CommitsIn session answer ⟨before, choice, after⟩) :
    ends session answer before.rows after.rows := by
  obtain ⟨mover, todo, written, active, move⟩ := World.moved accepted
  obtain ⟨rfl, rfl⟩ := World.eq_of_commitsIn active move commits
  cases move with
  | issue same free => cases same
  | rollback =>
    have ended := commits.2
    simp [World.rollback] at ended
  | @commit result same =>
    cases same
    obtain ⟨held, _, guarded⟩ := (governed.stands session).of_active active
    exact (guarded _ (Relies.refl governed.kept)).2

/-- **Commit by commit.** -/
theorem forall_rows_iff {property : σ → Prop} {condition : ι → α → σ → Prop}
    (governed : D.Governed (fun _ => True) ends origin world)
    (exact_ : ∀ session answer before after, ends session answer before after → property before →
      (property after ↔ condition session answer before)) (schedule : List (Choice ι))
    (initially : property world.rows) :
    (∀ visited ∈ states World.exec world schedule, property visited.rows) ↔
      ∀ step ∈ steps World.exec world schedule, ∀ session answer,
        World.CommitsIn session answer step → condition session answer step.before.rows := by
  refine forall_states_iff (fun choice before after governed accepted =>
    governed.step trivial accepted) ?_ schedule governed initially
  intro choice before after governed holds accepted
  obtain ⟨same, nobody⟩ | ⟨session, answer, commits, only⟩ := World.commitsIn_cases accepted
  · rw [same]
    exact iff_of_true holds fun session answer commits => absurd commits (nobody session answer)
  · rw [exact_ session answer _ _ (governed.ends_of_commitsIn accepted commits) holds]
    constructor
    · intro meets other answered committed
      obtain ⟨rfl, rfl⟩ := only other answered committed
      exact meets
    · exact fun meets => meets session answer commits

theorem governed_of_reachable (governed : D.Governed (fun _ => True) ends origin world)
    (reachable : Reachable World.exec world after) :
    D.Governed (fun _ => True) ends origin after :=
  reachable.invariant governed fun _ _ _ governed accepted => governed.step trivial accepted

end Worlds

end Discipline

end Relational
