/-
**Sessions that share their rows.**

Sessions move one after the other, in any order, and what a move writes is there for all of them at
once. What a session knows about the rows has to survive the moves of the others: these may change
the rows only in the way `grows` allows.

* `Shared.knows_of_states`: if every move that meets its condition keeps an invariant of the rows,
  lets them grow and leaves its own session with the knowledge its next move asks for, then in every
  run whose moves meet their conditions all sessions know what they should;
* `Standing` counts the sessions that stand somewhere: `Standing.move`;
* `Tx.Assured` is such knowledge for a session that issues the statements of a program, one at a
  time: it is closed under `bind`, and survives whatever others do.
-/

import Mathlib.Data.Finset.Card
import OpenEstate.Relational.Run
import OpenEstate.Relational.Transaction

namespace Relational

open Function (update update_self update_of_ne)

variable {ι σ π κ ε α β : Type}

/-! ### Sessions -/

structure Shared (ι σ π : Type) where
  rows : σ
  sessions : ι → π

namespace Shared

variable [DecidableEq ι]

/-- One move of a session: where it stands then, and the rows it leaves. Nothing happens to a
session that has ended. -/
def exec (move : π → σ → Option (π × σ)) (session : ι) (world : Shared ι σ π) :
    Except Unit (Shared ι σ π) :=
  match move (world.sessions session) world.rows with
  | some (next, rows) => .ok { rows, sessions := update world.sessions session next }
  | none => .error ()

variable {move : π → σ → Option (π × σ)}

theorem exec_eq_ok {session : ι} {world after : Shared ι σ π} :
    exec move session world = .ok after ↔
      ∃ next rows, move (world.sessions session) world.rows = some (next, rows) ∧
        after = { rows, sessions := update world.sessions session next } := by
  unfold exec
  split
  · rename_i next rows moved
    simp only [moved, Except.ok.injEq, Option.some.injEq, Prod.mk.injEq]
    constructor
    · rintro rfl
      exact ⟨next, rows, ⟨rfl, rfl⟩, rfl⟩
    · rintro ⟨_, _, ⟨rfl, rfl⟩, rfl⟩
      rfl
  · rename_i ended
    simp [ended]

theorem knows_of_states {move : π → σ → Option (π × σ)} {kept : σ → Prop} {grows : σ → σ → Prop}
    {knows condition : π → σ → Prop}
    (survives : ∀ session rows after, grows rows after → kept after → knows session rows →
      knows session after)
    (sound : ∀ session rows next after, kept rows → knows session rows → condition session rows →
      move session rows = some (next, after) → kept after ∧ grows rows after ∧ knows next after)
    {world : Shared ι σ π} (initially : kept world.rows)
    (each : ∀ session, knows (world.sessions session) world.rows) (schedule : List ι)
    (meets : ∀ step ∈ steps (exec move) world schedule,
      condition (step.before.sessions step.input) step.before.rows) :
    ∀ visited ∈ states (exec move) world schedule,
      kept visited.rows ∧ ∀ session, knows (visited.sessions session) visited.rows := by
  refine states_invariant (fun world => kept world.rows ∧
    ∀ session, knows (world.sessions session) world.rows) ?_ meets ⟨initially, each⟩
  rintro session before after ⟨holds, known⟩ accepted met
  obtain ⟨next, rows, moved, rfl⟩ := exec_eq_ok.mp accepted
  obtain ⟨keeps, grew, knowsNext⟩ := sound _ _ _ _ holds (known session) met moved
  refine ⟨keeps, fun other => ?_⟩
  by_cases mine : other = session
  · subst mine
    show knows (update before.sessions other next other) rows
    rwa [update_self]
  · show knows (update before.sessions session next other) rows
    rw [update_of_ne mine]
    exact survives _ _ _ grew keeps (known other)

theorem each_of_states {holds : π → Prop}
    (kept : ∀ session rows next after, holds session → move session rows = some (next, after) →
      holds next) {world : Shared ι σ π} (initially : ∀ session, holds (world.sessions session))
    (schedule : List ι) :
    ∀ visited ∈ states (exec move) world schedule,
      ∀ session, holds (visited.sessions session) := by
  have sound : ∀ session rows next after, True → holds session → True →
      move session rows = some (next, after) → True ∧ True ∧ holds next :=
    fun session rows next after _ known _ moved =>
      ⟨trivial, trivial, kept session rows next after known moved⟩
  have knows := @knows_of_states ι σ π _ move (fun _ => True) (fun _ _ => True)
    (fun session _ => holds session) (fun _ _ => True) (fun _ _ _ _ _ known => known) sound world
    trivial initially schedule fun _ _ => trivial
  exact fun visited member => (knows visited member).2

theorem sessions_run {session : ι} {schedule : List ι} (idle : session ∉ schedule)
    (world : Shared ι σ π) :
    (run (exec move) world schedule).sessions session = world.sessions session := by
  have all : ∀ other ∈ schedule, other ≠ session := fun other member same => idle (same ▸ member)
  have kept : ∀ other (before after : Shared ι σ π), other ≠ session →
      before.sessions session = world.sessions session → exec move other before = .ok after →
      after.sessions session = world.sessions session := by
    intro other before after differs same accepted
    obtain ⟨next, rows, _, rfl⟩ := exec_eq_ok.mp accepted
    show update before.sessions other next session = world.sessions session
    rw [update_of_ne (Ne.symm differs), same]
  exact run_invariant all kept rfl

end Shared

/-! ### How many sessions stand somewhere -/

section Standing

variable {somewhere : π → Prop} {sessions : ι → π} {count : Nat}

def Standing (somewhere : π → Prop) (sessions : ι → π) (count : Nat) : Prop :=
  ∃ listed : Finset ι, (∀ session, session ∈ listed ↔ somewhere (sessions session)) ∧
    listed.card = count

theorem Standing.zero (nowhere : ∀ session, ¬somewhere (sessions session)) :
    Standing somewhere sessions 0 :=
  ⟨∅, fun session => by simpa using nowhere session, rfl⟩

theorem Standing.eq_zero (standing : Standing somewhere sessions count)
    (nowhere : ∀ session, ¬somewhere (sessions session)) : count = 0 := by
  obtain ⟨listed, lists, rfl⟩ := standing
  refine Finset.card_eq_zero.mpr (Finset.eq_empty_of_forall_notMem fun session member => ?_)
  exact nowhere session ((lists session).mp member)

theorem Standing.move [DecidableEq ι] [DecidablePred somewhere]
    (standing : Standing somewhere sessions count) (session : ι) (next : π) :
    ∃ later, Standing somewhere (update sessions session next) later ∧
      later + (if somewhere (sessions session) then 1 else 0) =
        count + if somewhere next then 1 else 0 := by
  obtain ⟨listed, lists, rfl⟩ := standing
  have others : ∀ other, other ≠ session →
      (other ∈ listed ↔ somewhere (update sessions session next other)) := by
    intro other differs
    rw [update_of_ne differs]
    exact lists other
  have left : (listed.erase session).card + (if somewhere (sessions session) then 1 else 0) =
      listed.card := by
    split
    · rename_i stood
      exact Finset.card_erase_add_one ((lists session).mpr stood)
    · rename_i away
      rw [Finset.erase_eq_of_notMem fun member => away ((lists session).mp member)]
      rfl
  by_cases arrives : somewhere next
  · refine ⟨_, ⟨insert session (listed.erase session), fun other => ?_, rfl⟩, ?_⟩
    · by_cases mine : other = session
      · subst mine
        simp [arrives]
      · simpa [mine] using others other mine
    · rw [Finset.card_insert_of_notMem (Finset.notMem_erase _ _), if_pos arrives]
      omega
  · refine ⟨_, ⟨listed.erase session, fun other => ?_, rfl⟩, ?_⟩
    · by_cases mine : other = session
      · subst mine
        simp [arrives]
      · simpa [mine] using others other mine
    · rw [if_neg arrives]
      omega

end Standing

/-! ### Programs -/

namespace Tx

/-- What a program may write and answer, wherever it stands, whatever others do in between: its
writes keep the invariant and let the rows grow, and when it is done its answer is right. -/
inductive Assured (kept : σ → Prop) (grows : σ → σ → Prop) (ends : α → σ → Prop) :
    Tx σ κ ε α → σ → Prop
  | done {result : α} {rows : σ}
      (right : ∀ later, grows rows later → kept later → ends result later) :
      Assured kept grows ends (.done result) rows
  | fail (error : ε) (rows : σ) : Assured kept grows ends (.fail error) rows
  | stmt {locks : List κ} {write : σ → σ} {next : σ → Tx σ κ ε α} {rows : σ}
      (writes : ∀ later, grows rows later → kept later →
        kept (write later) ∧ grows later (write later))
      (follows : ∀ later, grows rows later → kept later →
        Assured kept grows ends (next later) (write later)) :
      Assured kept grows ends (.stmt locks write next) rows

variable {kept : σ → Prop} {grows : σ → σ → Prop} {ends : α → σ → Prop}
variable {rows : σ}

theorem Assured.grow [IsTrans σ grows] {tx : Tx σ κ ε α} {after : σ}
    (assured : tx.Assured kept grows ends rows) (grew : grows rows after) :
    tx.Assured kept grows ends after := by
  cases assured with
  | done right =>
    exact .done fun later more holds => right later (IsTrans.trans _ _ _ grew more) holds
  | fail => exact .fail _ _
  | stmt writes follows =>
    exact .stmt (fun later more holds => writes later (IsTrans.trans _ _ _ grew more) holds)
      fun later more holds => follows later (IsTrans.trans _ _ _ grew more) holds

variable {later : α → Tx σ κ ε β} {answers : β → σ → Prop}

theorem Assured.bind [Std.Refl grows] {first : Tx σ κ ε α}
    (assured : first.Assured kept grows ends rows) (holds : kept rows)
    (follows : ∀ result after, kept after → ends result after →
      (later result).Assured kept grows answers after) :
    (first >>= later).Assured kept grows answers rows := by
  induction assured with
  | done right => exact follows _ _ holds (right _ (refl _) holds)
  | fail => exact .fail _ _
  | stmt writes _ ih =>
    exact .stmt writes fun after grew holds => ih after grew holds (writes after grew holds).1

theorem Assured.read [Std.Refl grows] {query : σ → α}
    (right : ∀ seen later, kept seen → grows seen later → kept later → ends (query seen) later) :
    (Tx.read query : Tx σ κ ε α).Assured kept grows ends rows :=
  .stmt (fun _ _ holds => ⟨holds, refl _⟩) fun seen _ holds =>
    .done fun later grew still => right seen later holds grew still

theorem Assured.read_bind [Std.Refl grows] {query : σ → α}
    (follows : ∀ after, grows rows after → kept after →
      (later (query after)).Assured kept grows answers after) :
    (Tx.read query >>= later).Assured kept grows answers rows := by
  show (Tx.stmt [] id fun seen => later (query seen)).Assured kept grows answers rows
  exact .stmt (fun _ _ holds => ⟨holds, refl _⟩) follows

theorem Assured.of_run [Std.Refl grows] [IsTrans σ grows] {tx : Tx σ κ ε α} {after : σ} {result : α}
    (assured : tx.Assured kept grows ends rows) (holds : kept rows)
    (ran : tx.run rows = .ok (result, after)) : kept after ∧ grows rows after ∧ ends result after := by
  induction assured with
  | done right =>
    cases ran
    exact ⟨holds, refl _, right _ (refl _) holds⟩
  | fail => cases ran
  | @stmt _ write _ start writes _ ih =>
    obtain ⟨stays, grew⟩ := writes start (refl _) holds
    obtain ⟨still, more, ended⟩ := ih start (refl _) holds stays ran
    exact ⟨still, IsTrans.trans _ _ _ grew more, ended⟩

theorem Assured.check_bind {computed : Except ε α}
    (follows : ∀ value, computed = .ok value → (later value).Assured kept grows answers rows) :
    (Tx.check computed >>= later).Assured kept grows answers rows := by
  cases computed with
  | error error => exact .fail _ _
  | ok value => exact follows value rfl

end Tx

end Relational
