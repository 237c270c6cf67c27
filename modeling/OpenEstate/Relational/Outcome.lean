/-
**Guarded computations.**

A service call runs its checks in order and answers an error at the first one that fails. `ensure`
is one check, `orThrow` is a read that must succeed; with the inversion of `bind` they turn "the
call was accepted" into the list of everything it checked, which is the only way the rest of the
development looks inside a call.
-/

import Mathlib.Tactic.TypeStar

namespace Relational

variable {ε α β : Type}

def ensure (condition : Prop) [Decidable condition] (error : ε) : Except ε Unit :=
  if condition then .ok () else .error error

def orThrow (value : Option α) (error : ε) : Except ε α :=
  match value with
  | some found => .ok found
  | none => .error error

variable {condition : Prop}

theorem ensure_eq_ok [Decidable condition] {error : ε} {done : Unit} :
    ensure condition error = .ok done ↔ condition := by
  unfold ensure
  split <;> simp_all

theorem ensure_bind [Decidable condition] (holds : condition) (error : ε)
    (next : Unit → Except ε α) : ensure condition error >>= next = next () := by
  rw [ensure, if_pos holds]
  rfl

theorem ensure_bind_of_not [Decidable condition] (fails : ¬condition) (error : ε)
    (next : Unit → Except ε α) : ensure condition error >>= next = .error error := by
  rw [ensure, if_neg fails]
  rfl

theorem orThrow_eq_ok {value : Option α} {error : ε} {found : α} :
    orThrow value error = .ok found ↔ value = some found := by
  cases value <;> simp [orThrow]

variable {first : Except ε α} {result : β}

/-- **A sequence is accepted exactly when both halves are.** -/
theorem bind_eq_ok {next : α → Except ε β} :
    first >>= next = .ok result ↔ ∃ value, first = .ok value ∧ next value = .ok result := by
  cases first with
  | error error =>
    constructor
    · intro accepted
      cases accepted
    · rintro ⟨_, impossible, _⟩
      cases impossible
  | ok value =>
    constructor
    · exact fun accepted => ⟨value, rfl, accepted⟩
    · rintro ⟨_, same, accepted⟩
      cases same
      exact accepted

theorem pure_eq_ok {value result : α} : (pure value : Except ε α) = .ok result ↔ value = result :=
  ⟨Except.ok.inj, congrArg Except.ok⟩

def forEach : List α → (α → Except ε Unit) → Except ε Unit
  | [], _ => .ok ()
  | element :: rest, check => check element >>= fun _ => forEach rest check

variable {elements : List α}

theorem forEach_eq_ok {check : α → Except ε Unit} {done : Unit} :
    forEach elements check = .ok done ↔ ∀ element ∈ elements, check element = .ok () := by
  induction elements with
  | nil => simp [forEach]
  | cons element rest ih =>
    rw [forEach, bind_eq_ok, List.forall_mem_cons]
    exact ⟨fun ⟨_, first, later⟩ => ⟨first, ih.mp later⟩,
      fun ⟨first, later⟩ => ⟨(), first, ih.mpr later⟩⟩

theorem mem_of_mapM_eq_ok {compute : α → Except ε β} {results : List β}
    (accepted : elements.mapM compute = .ok results) :
    ∀ result ∈ results, ∃ element ∈ elements, compute element = .ok result := by
  induction elements generalizing results with
  | nil =>
    rw [List.mapM_nil, pure_eq_ok] at accepted
    subst accepted
    simp
  | cons element rest ih =>
    simp only [List.mapM_cons, bind_eq_ok, pure_eq_ok] at accepted
    obtain ⟨first, computed, later, accepted, rfl⟩ := accepted
    intro result member
    rcases List.mem_cons.mp member with rfl | member
    · exact ⟨element, List.mem_cons_self, computed⟩
    · obtain ⟨source, inside, computed⟩ := ih accepted result member
      exact ⟨source, List.mem_cons_of_mem _ inside, computed⟩

theorem foldlM_invariant (property : β → Prop) {pass : β → α → Except ε β} {start : β}
    (accepted : elements.foldlM pass start = .ok result) (initially : property start)
    (kept : ∀ state element after, property state → pass state element = .ok after →
      property after) : property result := by
  induction elements generalizing start with
  | nil =>
    rw [List.foldlM_nil, pure_eq_ok] at accepted
    exact accepted ▸ initially
  | cons element rest ih =>
    rw [List.foldlM_cons, bind_eq_ok] at accepted
    obtain ⟨middle, first, later⟩ := accepted
    exact ih later (kept _ _ _ initially first)

theorem map_eq_ok {f : α → β} :
    f <$> first = .ok result ↔ ∃ value, first = .ok value ∧ f value = result := by
  cases first with
  | error error =>
    constructor
    · intro accepted
      cases accepted
    · rintro ⟨_, impossible, _⟩
      cases impossible
  | ok value =>
    constructor
    · exact fun accepted => ⟨value, rfl, Except.ok.inj accepted⟩
    · rintro ⟨_, same, rfl⟩
      cases same
      rfl

theorem mapError_eq_ok {γ : Type} {f : ε → γ} {result : α} :
    first.mapError f = .ok result ↔ first = .ok result := by
  cases first with
  | error refusal => exact iff_of_false nofun nofun
  | ok value => exact ⟨fun same => Except.ok.inj same ▸ rfl, fun same => Except.ok.inj same ▸ rfl⟩

end Relational
