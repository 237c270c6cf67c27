/-
**Histories.**

The steps of a run, oldest first, are its history. What is known of a history and of the state it
has led to is kept step by step: `history_invariant`. `sinceLast` is the part of a history after the
latest step that starts something again; `steps_eq_append_cons` finds a step of a history in its run.
-/

import Mathlib.Data.List.Induction
import OpenEstate.Relational.Run

namespace Relational

variable {α σ ι ε : Type} {exec : ι → σ → Except ε σ}

/-- What follows the latest entry that starts something again, the newest first. -/
def sinceLast (starts : α → Bool) (history : List α) : List α :=
  history.reverse.takeWhile fun entry => !starts entry

theorem sinceLast_snoc (starts : α → Bool) (history : List α) (entry : α) :
    sinceLast starts (history ++ [entry]) =
      if starts entry then [] else entry :: sinceLast starts history := by
  unfold sinceLast
  rw [List.reverse_append, List.reverse_singleton, List.singleton_append, List.takeWhile_cons]
  cases starts entry <;> rfl

theorem mem_of_mem_sinceLast {starts : α → Bool} {history : List α} {entry : α}
    (member : entry ∈ sinceLast starts history) : entry ∈ history :=
  List.mem_reverse.mp ((List.takeWhile_sublist _).subset member)

/-- **Along a history.** A relation between a history and the state it has led to, kept by the steps
that meet a condition, holds after every run whose steps meet it. -/
theorem history_invariant (holds : List (Step σ ι) → σ → Prop) {condition : Step σ ι → Prop}
    (kept : ∀ history input before after, holds history before → exec input before = .ok after →
      condition ⟨before, input, after⟩ → holds (history ++ [⟨before, input, after⟩]) after)
    {state : σ} (initially : holds [] state) (inputs : List ι)
    (meets : ∀ step ∈ steps exec state inputs, condition step) :
    holds (steps exec state inputs) (run exec state inputs) := by
  induction inputs using List.reverseRecOn with
  | nil => exact initially
  | append_singleton earlier input ih =>
    rw [steps_append] at meets ⊢
    rw [run_append]
    have before := ih fun step member => meets step (List.mem_append_left _ member)
    cases answer : exec input (run exec state earlier) with
    | error error =>
      rw [steps_cons_error answer, run, answer]
      simpa [steps, run] using before
    | ok after =>
      rw [steps_cons_ok answer] at meets ⊢
      rw [run, answer]
      exact kept _ _ _ _ before answer (meets _ (List.mem_append_right _ List.mem_cons_self))

/-- **Where a step of a run was taken**: after the inputs that led to the steps before it. -/
theorem steps_eq_append_cons {state : σ} {inputs : List ι} {earlier later : List (Step σ ι)}
    {step : Step σ ι}
    (split : steps exec state inputs = earlier ++ step :: later) :
    ∃ first second, inputs = first ++ step.input :: second ∧ steps exec state first = earlier ∧
      run exec state first = step.before ∧ exec step.input step.before = .ok step.after ∧
      steps exec step.after second = later ∧
      run exec state inputs = run exec step.after second := by
  induction inputs generalizing state earlier with
  | nil => cases (List.append_eq_nil_iff.mp split.symm).2
  | cons input rest ih =>
    cases answer : exec input state with
    | error error =>
      rw [steps_cons_error answer] at split
      obtain ⟨first, second, rfl, same, reached, accepted, follows, ends⟩ := ih split
      refine ⟨input :: first, second, rfl, ?_, ?_, accepted, follows, ?_⟩
      · rw [steps_cons_error answer, same]
      · rw [run, answer]
        exact reached
      · rw [run, answer]
        exact ends
    | ok after =>
      rw [steps_cons_ok answer] at split
      cases earlier with
      | nil =>
        obtain ⟨rfl, rfl⟩ := List.cons.inj split
        refine ⟨[], rest, rfl, rfl, rfl, answer, rfl, ?_⟩
        rw [run, answer]
      | cons head tail =>
        rw [List.cons_append] at split
        obtain ⟨rfl, tails⟩ := List.cons.inj split
        obtain ⟨first, second, rfl, same, reached, accepted, follows, ends⟩ := ih tails
        refine ⟨input :: first, second, rfl, ?_, ?_, accepted, follows, ?_⟩
        · rw [steps_cons_ok answer, same]
        · rw [run, answer]
          exact reached
        · rw [run, answer]
          exact ends

theorem run_of_steps_eq_nil {state : σ} {inputs : List ι}
    (nothing : steps exec state inputs = []) : run exec state inputs = state := by
  induction inputs with
  | nil => rfl
  | cons input rest ih =>
    cases answer : exec input state with
    | error error =>
      rw [steps_cons_error answer] at nothing
      rw [run, answer]
      exact ih nothing
    | ok after =>
      rw [steps_cons_ok answer] at nothing
      cases nothing

end Relational
