/-
**Interleavings seen through a view.**

A view leaves out of the rows what sessions may race for. Programs whose statements come, seen
through it, to one change whatever they read, cannot race for what it shows.

* `Tx.Acts`: what a program comes to, seen through a view;
* **`seen_serial`**: any interleaving looks like its committed sessions, one after the other.
-/

import OpenEstate.Relational.Interleaving

namespace Relational

variable {ι σ κ ε α β V : Type} {view : σ → V} {one rest : σ → σ}

/-- Two changes are alike if they lead from what looks the same to what looks the same. -/
def Alike (view : σ → V) (first second : σ → σ) : Prop :=
  ∀ state other, view state = view other → view (first state) = view (second other)

theorem Alike.of_comm {look change : σ → σ} (comm : ∀ state, look (change state) = change (look state)) :
    Alike look change change :=
  fun state other same => (comm state).trans ((congrArg change same).trans (comm other).symm)

namespace Tx

inductive Acts (view : σ → V) : Tx σ κ ε α → (σ → σ) → Prop
  | done (result : α) : Acts view (.done result) id
  | fail (error : ε) (effect : σ → σ) : Acts view (.fail error) effect
  | stmt {locks : List κ} {write one : σ → σ} {next : σ → Tx σ κ ε α} (rest : σ → σ)
      (seen : Alike view write one) (follows : ∀ state, (next state).Acts view rest) :
      Acts view (.stmt locks write next) (rest ∘ one)

variable {tx : Tx σ κ ε α}

theorem Acts.bind (acts : tx.Acts view one) {later : α → Tx σ κ ε β}
    (follows : ∀ value, (later value).Acts view rest) : (tx >>= later).Acts view (rest ∘ one) := by
  induction acts with
  | done result => exact follows result
  | fail error effect => exact .fail error _
  | stmt follow seen _ ih => exact .stmt (rest ∘ follow) seen ih

theorem Writes.acts (writes : tx.Writes fun write => Alike view write id) : tx.Acts view id := by
  induction writes with
  | done value => exact .done value
  | fail error => exact .fail error _
  | stmt seen _ ih => exact .stmt id seen ih

theorem Acts.insert (alike : Alike view one one) : (insert one : Tx σ κ ε Unit).Acts view one :=
  .stmt id alike fun _ => .done ()

theorem Acts.forEach {issue : β → Tx σ κ ε Unit}
    (each : ∀ element, ∃ one, (issue element).Acts view one) (elements : List β) :
    ∃ one, (forEach elements issue).Acts view one := by
  induction elements with
  | nil => exact ⟨id, .done ()⟩
  | cons element others ih =>
    obtain ⟨one, first⟩ := each element
    obtain ⟨rest, acts⟩ := ih
    exact ⟨_, first.bind fun _ => acts⟩

theorem Acts.run (acts : tx.Acts view one) {state other after : σ} {result : α}
    (same : view state = view other) (ran : tx.run state = .ok (result, after)) :
    view after = view (one other) := by
  induction acts generalizing state other with
  | done =>
    cases ran
    exact same
  | fail => cases ran
  | stmt _ seen _ ih => exact ih _ (seen _ _ same) ran

end Tx

namespace World

variable [DecidableEq ι] [DecidableEq κ]

/-- The rows look like those of the committed sessions, one after the other in some order. -/
def LooksSerial (view : σ → V) (effect : ι → σ → σ) (rows : σ) (world : World ι σ κ ε α) : Prop :=
  ∃ order : List ι, order.Nodup ∧ (∀ session, session ∈ order ↔ world.HasCommitted session) ∧
    view world.rows = view (order.foldl (fun state session => effect session state) rows)

/-- A session on its way has come to something, and the rest of it is to come. -/
def Acting (view : σ → V) (effect : σ → σ) (session : Session σ κ ε α) : Prop :=
  ∀ todo written, session = .active todo written → ∃ before rest, Alike view written before ∧
    todo.Acts view rest ∧ ∀ state, view (rest (before state)) = view (effect state)

/-- **Nobody can race for what is seen.** -/
theorem seen_serial {effect : ι → σ → σ} {rows : σ} {programs : ι → Tx σ κ ε α}
    (acts : ∀ session, ∃ one, (programs session).Acts view one ∧
      ∀ state, view (one state) = view (effect session state))
    {world : World ι σ κ ε α} (occurs : Occurs programs rows world) :
    world.LooksSerial view effect rows := by
  refine (Reachable.invariant (P := fun world => world.LooksSerial view effect rows ∧
    ∀ session, Acting view (effect session) (world.sessions session)) occurs ?_ ?_).1
  · refine ⟨⟨[], List.nodup_nil, fun _ => iff_of_false List.not_mem_nil nofun, rfl⟩, ?_⟩
    rintro session _ _ ⟨⟩
    obtain ⟨one, starts, same⟩ := acts session
    exact ⟨id, one, fun _ _ same => same, starts, same⟩
  rintro choice before after ⟨⟨order, once, members, seen⟩, each⟩ accepted
  obtain ⟨session, todo, written, stands, move⟩ := moved accepted
  obtain ⟨done, rest, soFar, goes, same⟩ := each session todo written stands
  have others : Acting view (effect session) (after.sessions session) →
      ∀ other, Acting view (effect other) (after.sessions other) := by
    intro mine other
    by_cases is : other = session
    · exact is ▸ mine
    · rw [move.sessions_of_ne is]
      exact each other
  have step := move
  cases move with
  | issue is =>
    subst is
    refine ⟨⟨order, once, fun other => ?_, seen⟩, others ?_⟩
    · rw [members, step.hasCommitted_iff stands (by simp)]
    · rw [sessions_issue]
      rintro _ _ ⟨⟩
      cases goes with
      | stmt _ wrote follows =>
        exact ⟨_, _, fun _ _ like => wrote _ _ (soFar _ _ like), follows _, same⟩
  | rollback =>
    refine ⟨⟨order, once, fun other => ?_, seen⟩, others ?_⟩
    · rw [members, step.hasCommitted_iff stands (by simp)]
    · rw [sessions_rollback]
      nofun
  | commit is =>
    subst is
    cases goes
    refine ⟨⟨order ++ [session], ?_, fun other => ?_, ?_⟩, others ?_⟩
    · refine List.nodup_append.mpr ⟨once, List.pairwise_singleton _ _, fun other old _ new is => ?_⟩
      obtain ⟨_, ended⟩ := (members other).mp old
      rw [is, List.mem_singleton.mp new, stands] at ended
      cases ended
    · rw [List.mem_append, List.mem_singleton, members]
      by_cases is : other = session
      · subst is
        exact iff_of_true (.inr rfl) ⟨_, sessions_commit⟩
      · unfold HasCommitted
        rw [step.sessions_of_ne is, or_iff_left is]
    · rw [List.foldl_append]
      exact (soFar _ _ seen).trans (same _)
    · rw [sessions_commit]
      nofun

end World

end Relational
