/-
**Runs of a transactional system.**

A system answers an input in a state with the next state or with an error; an error leaves the
state as it was (the transaction is rolled back). `run` answers a list of inputs one after the
other, `steps` lists the accepted ones with the states around them, and `Reachable` is what any
run can produce.

* `Reachable.invariant`: an invariant that holds initially and is kept by every accepted step holds
  in every reachable state (`run_invariant` when only some inputs keep it);
* `forall_states_iff_beginnings`: what holds in every state of a run holds at the end of its beginnings;
* `forall_states_iff`: if each accepted step keeps a property exactly when it meets a condition,
  then a run keeps the property in all its states exactly when all its steps meet the condition
  (`forall_states_iff_of_kept` for an invariant that only such steps keep);
* `forall_calls_iff`: if, under an invariant, a call is answered rightly exactly when it meets a
  condition, and the invariant is kept by those that do, then all calls of a run are answered rightly
  exactly when all meet the condition;
* `pairwise_steps`: what a step has barred no later step uses;
* `sum_steps`: what each step adds to a running total adds up to the difference of its ends;
* `relates_steps`: what each step does with what it emits, a run does with all that is emitted;
* `Confined`, and `states_reach_le`: an object lets whoever uses it do something, its reach; if every step
  changes only what is within the reach of its actor, a group of actors reaches no further together than
  its members do at first.
-/

import Mathlib.Algebra.BigOperators.Group.List.Basic
import Mathlib.Tactic.Abel

namespace Relational

variable {σ ι ε M : Type}

/-- An accepted step: the state it was taken in, its input, and the state it led to. -/
structure Step (σ ι : Type) where
  before : σ
  input : ι
  after : σ

section Run

variable (exec : ι → σ → Except ε σ)

def steps : σ → List ι → List (Step σ ι)
  | _, [] => []
  | state, input :: rest =>
    match exec input state with
    | .ok after => ⟨state, input, after⟩ :: steps after rest
    | .error _ => steps state rest

def run : σ → List ι → σ
  | state, [] => state
  | state, input :: rest =>
    match exec input state with
    | .ok after => run after rest
    | .error _ => run state rest

def states (state : σ) (inputs : List ι) : List σ :=
  state :: (steps exec state inputs).map Step.after

def calls : σ → List ι → List (σ × ι)
  | _, [] => []
  | state, input :: rest => (state, input) :: calls (run exec state [input]) rest

inductive Reachable (init : σ) : σ → Prop
  | init : Reachable init init
  | step {state after : σ} (input : ι) (earlier : Reachable init state)
      (accepted : exec input state = .ok after) : Reachable init after

end Run

variable {exec : ι → σ → Except ε σ}
variable {state : σ}

theorem Reachable.invariant {init : σ} (reachable : Reachable exec init state) {P : σ → Prop}
    (initially : P init)
    (kept : ∀ input before after, P before → exec input before = .ok after → P after) :
    P state := by
  induction reachable with
  | init => exact initially
  | step input _ accepted ih => exact kept input _ _ ih accepted

theorem Reachable.trans {init middle : σ} (first : Reachable exec init middle)
    (second : Reachable exec middle state) : Reachable exec init state := by
  induction second with
  | init => exact first
  | step input _ accepted ih => exact .step input ih accepted

theorem steps_cons_ok {after : σ} {input : ι} {rest : List ι}
    (accepted : exec input state = .ok after) :
    steps exec state (input :: rest) = ⟨state, input, after⟩ :: steps exec after rest := by
  simp [steps, accepted]

theorem steps_cons_error {input : ι} {rest : List ι} {error : ε}
    (refused : exec input state = .error error) :
    steps exec state (input :: rest) = steps exec state rest := by
  simp [steps, refused]

theorem reachable_run (state : σ) (inputs : List ι) :
    Reachable exec state (run exec state inputs) := by
  induction inputs generalizing state with
  | nil => exact .init
  | cons input rest ih =>
    simp only [run]
    split
    · rename_i after accepted
      exact (Reachable.step input .init accepted).trans (ih after)
    · exact ih state

theorem run_append (state : σ) (first second : List ι) :
    run exec state (first ++ second) = run exec (run exec state first) second := by
  induction first generalizing state with
  | nil => rfl
  | cons input rest ih =>
    simp only [List.cons_append, run]
    split
    · rename_i after _
      exact ih after
    · exact ih state

theorem Reachable.exists_run {init : σ} (reachable : Reachable exec init state) :
    ∃ inputs, run exec init inputs = state := by
  induction reachable with
  | init => exact ⟨[], rfl⟩
  | step input _ accepted ih =>
    obtain ⟨inputs, rfl⟩ := ih
    refine ⟨inputs ++ [input], ?_⟩
    rw [run_append]
    simp only [run, accepted]

theorem reachable_of_isPrefix (state : σ) {earlier later : List ι} (isPrefix : earlier <+: later) :
    Reachable exec (run exec state earlier) (run exec state later) := by
  obtain ⟨rest, rfl⟩ := isPrefix
  rw [run_append]
  exact reachable_run _ _

variable {inputs : List ι}

theorem mem_steps {step : Step σ ι} (member : step ∈ steps exec state inputs) :
    Reachable exec state step.before ∧ exec step.input step.before = .ok step.after := by
  induction inputs generalizing state with
  | nil => cases member
  | cons input rest ih =>
    cases answer : exec input state with
    | error error =>
      rw [steps_cons_error answer] at member
      exact ih member
    | ok after =>
      rw [steps_cons_ok answer] at member
      rcases List.mem_cons.mp member with rfl | later
      · exact ⟨.init, answer⟩
      · obtain ⟨reachable, accepted⟩ := ih later
        exact ⟨(Reachable.step input .init answer).trans reachable, accepted⟩

theorem mem_states {visited : σ}
    (member : visited ∈ states exec state inputs) : Reachable exec state visited := by
  rcases List.mem_cons.mp member with rfl | later
  · exact .init
  · obtain ⟨step, listed, rfl⟩ := List.mem_map.mp later
    obtain ⟨earlier, accepted⟩ := mem_steps listed
    exact earlier.step step.input accepted

theorem steps_append (state : σ) (first second : List ι) :
    steps exec state (first ++ second) =
      steps exec state first ++ steps exec (run exec state first) second := by
  induction first generalizing state with
  | nil => rfl
  | cons input rest ih =>
    rw [List.cons_append]
    cases answer : exec input state with
    | error error =>
      rw [steps_cons_error answer, steps_cons_error answer, ih]
      simp only [run, answer]
    | ok after =>
      rw [steps_cons_ok answer, steps_cons_ok answer, ih, List.cons_append]
      simp only [run, answer]

theorem run_mem_states (state : σ) (inputs : List ι) :
    run exec state inputs ∈ states exec state inputs := by
  induction inputs generalizing state with
  | nil => exact List.mem_cons_self
  | cons input rest ih =>
    cases answer : exec input state with
    | error error =>
      rw [states, steps_cons_error answer]
      simp only [run, answer]
      exact ih state
    | ok after =>
      rw [states, steps_cons_ok answer]
      simp only [run, answer]
      exact List.mem_cons_of_mem _ (ih after)

theorem before_mem_states {step : Step σ ι}
    (member : step ∈ steps exec state inputs) : step.before ∈ states exec state inputs := by
  induction inputs generalizing state with
  | nil => cases member
  | cons input rest ih =>
    cases answer : exec input state with
    | error error =>
      rw [states, steps_cons_error answer]
      rw [steps_cons_error answer] at member
      exact ih member
    | ok after =>
      rw [states, steps_cons_ok answer]
      rw [steps_cons_ok answer] at member
      rcases List.mem_cons.mp member with rfl | later
      · exact List.mem_cons_self
      · exact List.mem_cons_of_mem _ (ih later)

theorem last_mem_steps {after : σ} {input : ι}
    (accepted : exec input (run exec state inputs) = .ok after) :
    ⟨run exec state inputs, input, after⟩ ∈ steps exec state (inputs ++ [input]) := by
  induction inputs generalizing state with
  | nil =>
    have accepted : exec input state = .ok after := accepted
    show ⟨state, input, after⟩ ∈ steps exec state [input]
    rw [steps_cons_ok accepted]
    exact List.mem_cons_self
  | cons first rest ih =>
    rw [List.cons_append]
    cases answer : exec first state with
    | error error =>
      rw [steps_cons_error answer]
      simp only [run, answer] at accepted ⊢
      exact ih accepted
    | ok middle =>
      rw [steps_cons_ok answer]
      simp only [run, answer] at accepted ⊢
      exact List.mem_cons_of_mem _ (ih accepted)

variable {property : σ → Prop}

theorem run_invariant {allowed : ι → Prop} (all : ∀ input ∈ inputs, allowed input)
    (kept : ∀ input before after, allowed input → property before →
      exec input before = .ok after → property after)
    (initially : property state) : property (run exec state inputs) := by
  induction inputs generalizing state with
  | nil => exact initially
  | cons input rest ih =>
    obtain ⟨first, later⟩ := List.forall_mem_cons.mp all
    unfold run
    split
    · rename_i after accepted
      exact ih later (kept input state after first initially accepted)
    · exact ih later initially

variable {condition : Step σ ι → Prop}

theorem states_invariant (property : σ → Prop)
    (kept : ∀ input before after, property before → exec input before = .ok after →
      condition ⟨before, input, after⟩ → property after)
    (meets : ∀ step ∈ steps exec state inputs, condition step)
    (initially : property state) : ∀ visited ∈ states exec state inputs, property visited := by
  induction inputs generalizing state with
  | nil => simpa [states, steps] using initially
  | cons input rest ih =>
    cases answer : exec input state with
    | error error =>
      rw [steps_cons_error answer] at meets
      unfold states
      rw [steps_cons_error answer]
      exact ih meets initially
    | ok after =>
      rw [steps_cons_ok answer] at meets
      obtain ⟨first, later⟩ := List.forall_mem_cons.mp meets
      unfold states
      rw [steps_cons_ok answer, List.map_cons, List.forall_mem_cons]
      exact ⟨initially, ih later (kept input state after initially answer first)⟩

/-- **What is barred is over.** -/
theorem pairwise_steps {τ : Type} {invariant : σ → Prop} {condition : Step σ ι → Prop}
    {barred : τ → σ → Prop} {marks uses : τ → Step σ ι → Prop}
    (kept : ∀ input before after, invariant before → exec input before = .ok after →
      invariant after)
    (bars : ∀ thing input before after, invariant before → exec input before = .ok after →
      condition ⟨before, input, after⟩ → marks thing ⟨before, input, after⟩ → barred thing after)
    (stays : ∀ thing input before after, invariant before → exec input before = .ok after →
      barred thing before → barred thing after)
    (refused : ∀ thing input before after, exec input before = .ok after → barred thing before →
      ¬uses thing ⟨before, input, after⟩)
    {state : σ} {inputs : List ι} (initially : invariant state)
    (meets : ∀ step ∈ steps exec state inputs, condition step) :
    (steps exec state inputs).Pairwise fun first second =>
      ∀ thing, marks thing first → ¬uses thing second := by
  induction inputs generalizing state with
  | nil => exact .nil
  | cons input rest ih =>
    cases answer : exec input state with
    | error error =>
      rw [steps_cons_error answer] at meets ⊢
      exact ih initially meets
    | ok after =>
      rw [steps_cons_ok answer, List.forall_mem_cons] at meets
      have next := kept input state after initially answer
      rw [steps_cons_ok answer, List.pairwise_cons]
      refine ⟨fun later member thing marked => ?_, ih next meets.2⟩
      -- from the mark on, the thing is barred
      have always : ∀ visited ∈ states exec after rest, invariant visited ∧ barred thing visited := by
        refine states_invariant _ ?_ (fun _ _ => trivial) ⟨next, bars thing input state after
          initially answer meets.1 marked⟩
        exact fun input before after holds accepted (_ : True) =>
          ⟨kept input before after holds.1 accepted,
            stays thing input before after holds.1 accepted holds.2⟩
      exact refused thing _ _ _ (mem_steps member).2 (always _ (before_mem_states member)).2

theorem run_of_isPrefix (holds : σ → Prop) {earlier : List ι}
    (stays : ∀ step ∈ steps exec state inputs, holds step.before → holds step.after)
    (isPrefix : earlier <+: inputs) (now : holds (run exec state earlier)) :
    holds (run exec state inputs) := by
  obtain ⟨rest, rfl⟩ := isPrefix
  rw [steps_append] at stays
  rw [run_append]
  have kept : ∀ input before after, holds before → exec input before = .ok after →
      (holds before → holds after) → holds after := fun _ _ _ now _ keeps => keeps now
  have meets : ∀ step ∈ steps exec (run exec state earlier) rest,
      holds step.before → holds step.after :=
    fun step member => stays step (List.mem_append_right _ member)
  exact states_invariant holds kept meets now _ (run_mem_states _ rest)

theorem forall_states_iff_beginnings (state : σ) (inputs : List ι) :
    (∀ visited ∈ states exec state inputs, property visited) ↔
      ∀ earlier, earlier <+: inputs → property (run exec state earlier) := by
  induction inputs generalizing state with
  | nil => simp [states, steps, run]
  | cons input rest ih =>
    cases answer : exec input state with
    | error error =>
      have same : states exec state (input :: rest) = states exec state rest := by
        unfold states
        rw [steps_cons_error answer]
      have skipped : ∀ earlier, run exec state (input :: earlier) = run exec state earlier := by
        intro earlier
        simp [run, answer]
      rw [same, ih]
      constructor
      · intro holds earlier isPrefix
        rcases List.prefix_cons_iff.mp isPrefix with rfl | ⟨tail, rfl, shorter⟩
        · exact holds [] List.nil_prefix
        · rw [skipped]
          exact holds tail shorter
      · intro holds earlier isPrefix
        rw [← skipped]
        exact holds (input :: earlier) (List.cons_prefix_cons.mpr ⟨rfl, isPrefix⟩)
    | ok after =>
      have split : states exec state (input :: rest) = state :: states exec after rest := by
        unfold states
        rw [steps_cons_ok answer]
        rfl
      have taken : ∀ earlier, run exec state (input :: earlier) = run exec after earlier := by
        intro earlier
        simp [run, answer]
      rw [split, List.forall_mem_cons, ih]
      constructor
      · rintro ⟨now, later⟩ earlier isPrefix
        rcases List.prefix_cons_iff.mp isPrefix with rfl | ⟨tail, rfl, shorter⟩
        · exact now
        · rw [taken]
          exact later tail shorter
      · intro holds
        refine ⟨holds [] List.nil_prefix, fun earlier isPrefix => ?_⟩
        rw [← taken]
        exact holds (input :: earlier) (List.cons_prefix_cons.mpr ⟨rfl, isPrefix⟩)

variable {invariant : σ → Prop}

theorem forall_states_iff_of_kept
    (kept : ∀ input before after, invariant before → exec input before = .ok after →
      condition ⟨before, input, after⟩ → invariant after)
    (implies : ∀ state, invariant state → property state)
    (needed : ∀ input before after, invariant before → exec input before = .ok after →
      property after → condition ⟨before, input, after⟩) (inputs : List ι)
    (initially : invariant state) :
    (∀ visited ∈ states exec state inputs, property visited) ↔
      ∀ step ∈ steps exec state inputs, condition step := by
  refine ⟨fun holds => ?_, fun meets visited member =>
    implies visited (states_invariant invariant kept meets initially visited member)⟩
  induction inputs generalizing state with
  | nil => exact nofun
  | cons input rest ih =>
    cases answer : exec input state with
    | error error =>
      rw [steps_cons_error answer]
      refine ih initially ?_
      rwa [states, steps_cons_error answer] at holds
    | ok after =>
      rw [states, steps_cons_ok answer, List.map_cons, List.forall_mem_cons] at holds
      have met := needed input state after initially answer (holds.2 after List.mem_cons_self)
      rw [steps_cons_ok answer, List.forall_mem_cons]
      exact ⟨met, ih (kept input state after initially answer met) holds.2⟩

theorem forall_states_iff
    (kept : ∀ input before after, invariant before → exec input before = .ok after →
      invariant after) (exact_step : ∀ input before after, invariant before → property before →
      exec input before = .ok after → (property after ↔ condition ⟨before, input, after⟩))
    (inputs : List ι) (initially : invariant state) (holds : property state) :
    (∀ visited ∈ states exec state inputs, property visited) ↔
      ∀ step ∈ steps exec state inputs, condition step := by
  induction inputs generalizing state with
  | nil => simp [states, steps, holds]
  | cons input rest ih =>
    cases answer : exec input state with
    | error error =>
      have next := ih initially holds
      simp only [states, steps_cons_error answer] at next ⊢
      exact next
    | ok after =>
      have invariantAfter := kept input state after initially answer
      have atStep := exact_step input state after initially holds answer
      simp only [states, steps_cons_ok answer, List.map_cons, List.forall_mem_cons, holds,
        true_and]
      constructor
      · rintro ⟨propertyAfter, later⟩
        refine ⟨atStep.mp propertyAfter, ?_⟩
        exact (ih invariantAfter propertyAfter).mp (List.forall_mem_cons.mpr ⟨propertyAfter, later⟩)
      · rintro ⟨meets, later⟩
        have propertyAfter := atStep.mpr meets
        exact List.forall_mem_cons.mp ((ih invariantAfter propertyAfter).mpr later)

theorem forall_calls_iff {invariant : σ → Prop} {answered condition : σ → ι → Prop}
    (exact_call : ∀ state input, invariant state → (answered state input ↔ condition state input))
    (kept : ∀ state input, invariant state → condition state input →
      invariant (run exec state [input]))
    (inputs : List ι) {state : σ} (initially : invariant state) :
    (∀ call ∈ calls exec state inputs, answered call.1 call.2) ↔
      ∀ call ∈ calls exec state inputs, condition call.1 call.2 := by
  induction inputs generalizing state with
  | nil => exact iff_of_true nofun nofun
  | cons input rest ih =>
    rw [calls, List.forall_mem_cons, List.forall_mem_cons, exact_call state input initially]
    exact and_congr_right fun meets => ih (kept state input initially meets)

/-- **Telescoping.** -/
theorem sum_steps [AddCommGroup M] {measure : σ → M} {contribution : Step σ ι → M}
    (kept : ∀ input before after, invariant before → exec input before = .ok after →
      invariant after)
    (change : ∀ input before after, invariant before → exec input before = .ok after →
      contribution ⟨before, input, after⟩ = measure after - measure before) (inputs : List ι)
    (initially : invariant state) :
    ((steps exec state inputs).map contribution).sum =
      measure (run exec state inputs) - measure state := by
  induction inputs generalizing state with
  | nil => simp [steps, run]
  | cons input rest ih =>
    cases answer : exec input state with
    | error error =>
      rw [steps_cons_error answer, ih initially]
      simp [run, answer]
    | ok after =>
      rw [steps_cons_ok answer, List.map_cons, List.sum_cons,
        ih (kept input state after initially answer), change input state after initially answer]
      simp only [run, answer]
      abel

theorem relates_steps {relates : σ → List M → σ → Prop} {emitted : Step σ ι → List M}
    (refl : ∀ state, relates state [] state)
    (trans : ∀ {first second third early late}, relates first early second →
      relates second late third → relates first (early ++ late) third)
    (kept : ∀ input before after, invariant before → exec input before = .ok after →
      invariant after)
    (each : ∀ input before after, invariant before → exec input before = .ok after →
      relates before (emitted ⟨before, input, after⟩) after) (inputs : List ι)
    (initially : invariant state) :
    relates state ((steps exec state inputs).flatMap emitted) (run exec state inputs) := by
  induction inputs generalizing state with
  | nil => exact refl state
  | cons input rest ih =>
    cases answer : exec input state with
    | error error =>
      rw [steps_cons_error answer]
      simp only [run, answer]
      exact ih initially
    | ok after =>
      rw [steps_cons_ok answer, List.flatMap_cons]
      simp only [run, answer]
      exact trans (each input state after initially answer)
        (ih (kept input state after initially answer))

/-! ### Confinement -/

variable {Ω L : Type} [Preorder L]

/-- A step of an actor is confined: an object it leaves alone reaches no further, and one it changes
was within the actor's reach, and is so afterwards. -/
def Confined (same : Ω → σ → σ → Prop) (reach : σ → Ω → L) (actor : Ω) (before after : σ) : Prop :=
  ∀ object, (same object before after ∧ reach after object ≤ reach before object) ∨
    (reach before object ≤ reach before actor ∧ reach after object ≤ reach before actor)

section Confined

variable {same : Ω → σ → σ → Prop} {reach : σ → Ω → L} {actor : ι → Ω}
  {exec : ι → σ → Except ε σ} {group : Ω → Prop} {bound : L}

theorem Confined.reach_le {agent object : Ω} {before after : σ}
    (confined : Confined same reach agent before after) (within : reach before agent ≤ bound)
    (bounded : reach before object ≤ bound) : reach after object ≤ bound := by
  rcases confined object with ⟨_, less⟩ | ⟨_, less⟩
  · exact less.trans bounded
  · exact less.trans within

/-- **What is within the bound stays within it**, when only the group acts. -/
theorem states_reach_le (confined : ∀ input before after, exec input before = .ok after →
      Confined same reach (actor input) before after)
    {inputs : List ι} (acts : ∀ input ∈ inputs, group (actor input)) {state : σ}
    (within : ∀ object, group object → reach state object ≤ bound) :
    ∀ visited ∈ states exec state inputs, ∀ object,
      group object ∨ reach state object ≤ bound → reach visited object ≤ bound := by
  rw [forall_states_iff_beginnings]
  intro earlier isPrefix
  have kept : ∀ input before after, group (actor input) →
      (∀ object, group object ∨ reach state object ≤ bound → reach before object ≤ bound) →
      exec input before = .ok after →
      ∀ object, group object ∨ reach state object ≤ bound → reach after object ≤ bound := by
    intro input before after acts bounded accepted object asked
    exact (confined input before after accepted).reach_le (bounded _ (Or.inl acts))
      (bounded object asked)
  have all : ∀ input ∈ earlier, group (actor input) :=
    fun input member => acts input (isPrefix.subset member)
  refine run_invariant all kept fun object asked => ?_
  rcases asked with member | bounded
  · exact within object member
  · exact bounded

/-- **What the group changes was within the bound, and stays within it from then on.** -/
theorem changed_reach_le (confined : ∀ input before after, exec input before = .ok after →
      Confined same reach (actor input) before after)
    {earlier later : List ι} {input : ι}
    (acts : ∀ other ∈ earlier ++ input :: later, group (actor other)) {state after : σ}
    (within : ∀ object, group object → reach state object ≤ bound)
    (accepted : exec input (run exec state earlier) = .ok after) {object : Ω}
    (changed : ¬same object (run exec state earlier) after) :
    reach (run exec state earlier) object ≤ bound ∧
      ∀ visited ∈ states exec after later, reach visited object ≤ bound := by
  have actsEarlier : ∀ other ∈ earlier, group (actor other) :=
    fun other member => acts other (List.mem_append_left _ member)
  have actsNow : group (actor input) :=
    acts input (List.mem_append_right _ List.mem_cons_self)
  have actsLater : ∀ other ∈ later, group (actor other) :=
    fun other member => acts other (List.mem_append_right _ (List.mem_cons_of_mem _ member))
  have here := states_reach_le confined actsEarlier within _ (run_mem_states state earlier)
  have step := confined input _ after accepted
  have reachActor := here _ (Or.inl actsNow)
  have withinAfter : ∀ object, group object → reach after object ≤ bound :=
    fun object member => step.reach_le reachActor (here object (Or.inl member))
  rcases step object with ⟨unchanged, _⟩ | ⟨before, now⟩
  · exact absurd unchanged changed
  · refine ⟨before.trans reachActor, fun visited member => ?_⟩
    exact states_reach_le confined actsLater withinAfter visited member object
      (Or.inr (now.trans reachActor))

end Confined

end Relational
