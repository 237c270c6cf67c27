/-
**Where objects.**

A query is given an object of conditions: by column, and under the operators `AND`, `OR` and `NOT`,
each of which takes further objects. What a condition says of a row may be unknown, where the row
has no value; a row is matched by what is true of it, so neither an unknown condition matches it nor
the negation of one.

* `Where.eval` is the truth of an object, `matches_object` what it takes to match a row;
* `Where.set` puts a condition in the place of what was under its key: `matches_set`;
* `Where.andAlso` adds to what is under `AND`: `matches_andAlso`;
* `Where.anyOf` is a choice of objects: `matches_anyOf`.
-/

import Mathlib.Data.List.Basic

namespace Relational

/-! ### Truth -/

abbrev Truth := Option Bool

namespace Truth

def and : Truth → Truth → Truth
  | some true, other => other
  | some false, _ => some false
  | none, some false => some false
  | none, _ => none

def or : Truth → Truth → Truth
  | some true, _ => some true
  | some false, other => other
  | none, some true => some true
  | none, _ => none

def not (truth : Truth) : Truth := truth.map Bool.not

def all (truths : List Truth) : Truth := truths.foldr and (some true)

def any (truths : List Truth) : Truth := truths.foldr or (some false)

theorem and_eq_true {first second : Truth} :
    first.and second = some true ↔ first = some true ∧ second = some true := by
  rcases first with _ | _ | _ <;> rcases second with _ | _ | _ <;> decide

theorem or_eq_true {first second : Truth} :
    first.or second = some true ↔ first = some true ∨ second = some true := by
  rcases first with _ | _ | _ <;> rcases second with _ | _ | _ <;> decide

theorem not_eq_true {truth : Truth} : truth.not = some true ↔ truth = some false := by
  rcases truth with _ | _ | _ <;> decide

theorem all_eq_true {truths : List Truth} :
    all truths = some true ↔ ∀ truth ∈ truths, truth = some true := by
  induction truths with
  | nil => exact iff_of_true rfl nofun
  | cons truth rest ih => rw [all, List.foldr_cons, ← all, and_eq_true, ih, List.forall_mem_cons]

theorem any_eq_true {truths : List Truth} :
    any truths = some true ↔ ∃ truth ∈ truths, truth = some true := by
  induction truths with
  | nil => exact iff_of_false nofun nofun
  | cons truth rest ih => rw [any, List.foldr_cons, ← any, or_eq_true, ih, List.exists_mem_cons_iff]

end Truth

/-! ### Objects -/

mutual

inductive Where (κ γ : Type)
  | object (fields : List (κ × γ)) (and_ or_ not_ : Operand κ γ)

inductive Operand (κ γ : Type)
  | absent
  | object (where_ : Where κ γ)
  | array (wheres : List (Where κ γ))

end

variable {κ γ ρ : Type}

def assign [DecidableEq κ] (key : κ) (value : γ) (entries : List (κ × γ)) : List (κ × γ) :=
  (entries.filter fun entry => entry.1 ≠ key) ++ [(key, value)]

theorem filter_assign [DecidableEq κ] (key : κ) (value : γ) (entries : List (κ × γ)) :
    (assign key value entries).filter (fun entry => entry.1 = key) = [(key, value)] := by
  rw [assign, List.filter_append, List.filter_filter]
  have gone : entries.filter (fun entry => entry.1 = key && decide (entry.1 ≠ key)) = [] := by
    rw [List.filter_eq_nil_iff]
    intro entry _
    by_cases same : entry.1 = key <;> simp [same]
  rw [gone, List.nil_append, List.filter_singleton]
  simp

def Operand.toArray : Operand κ γ → List (Where κ γ)
  | .absent => []
  | .object where_ => [where_]
  | .array wheres => wheres

namespace Where

def fields : Where κ γ → List (κ × γ)
  | .object fields _ _ _ => fields

def empty : Where κ γ := .object [] .absent .absent .absent

def field (key : κ) (condition : γ) : Where κ γ := .object [(key, condition)] .absent .absent .absent

def anyOf (wheres : List (Where κ γ)) : Where κ γ := .object [] .absent (.array wheres) .absent

/-- An object with more under `AND`: what was there becomes the beginning of an array. -/
def andAlso : Where κ γ → Where κ γ → Where κ γ
  | .object fields and_ or_ not_, extra => .object fields (.array (and_.toArray ++ [extra])) or_ not_

variable [DecidableEq κ]

def without (key : κ) : Where κ γ → Where κ γ
  | .object fields and_ or_ not_ =>
    .object (fields.filter fun field => field.1 ≠ key) and_ or_ not_

def set (key : κ) (condition : γ) : Where κ γ → Where κ γ
  | .object fields and_ or_ not_ =>
    .object (assign key condition fields) and_ or_ not_

def setIf (key : κ) (condition : Option γ) (where_ : Where κ γ) : Where κ γ :=
  condition.elim where_ fun condition => where_.set key condition

theorem without_setIf (key : κ) (condition : Option γ) (where_ : Where κ γ) :
    (where_.setIf key condition).without key = where_.without key := by
  cases condition with
  | none => rfl
  | some condition =>
    cases where_ with
    | object fields and_ or_ not_ => simp [setIf, set, without, assign]

theorem without_setIf_of_ne {key other : κ} (ne : other ≠ key) (condition : Option γ)
    (where_ : Where κ γ) :
    (where_.setIf other condition).without key = (where_.without key).setIf other condition := by
  cases condition with
  | none => rfl
  | some condition =>
    cases where_ with
    | object fields and_ or_ not_ => simp [setIf, set, without, assign, ne, Bool.and_comm]

end Where

/-! ### Meaning -/

section Meaning

variable (meaning : κ → γ → ρ → Truth) (row : ρ)

mutual

/-- The truth of an object: all of its columns, all that is under `AND`, something of what is under
`OR`, and nothing of what is under `NOT`. -/
def Where.eval : Where κ γ → Truth
  | .object fields and_ or_ not_ =>
    (Truth.all (fields.map fun field => meaning field.1 field.2 row)).and <|
      (Truth.all and_.evals).and <| (or_.evalAny).and (Truth.all (not_.evals.map Truth.not))

def Operand.evals : Operand κ γ → List Truth
  | .absent => []
  | .object where_ => [where_.eval]
  | .array wheres => Where.evals wheres

/-- An operator that is not there asks for nothing; one with an empty array has no choice. -/
def Operand.evalAny : Operand κ γ → Truth
  | .absent => some true
  | .object where_ => where_.eval
  | .array wheres => Truth.any (Where.evals wheres)

def Where.evals : List (Where κ γ) → List Truth
  | [] => []
  | where_ :: rest => where_.eval :: Where.evals rest

end

def Where.Matches (where_ : Where κ γ) : Prop := where_.eval meaning row = some true

instance (where_ : Where κ γ) : Decidable (where_.Matches meaning row) :=
  inferInstanceAs (Decidable (_ = _))

end Meaning

section Matches

variable {meaning : κ → γ → ρ → Truth} {row : ρ} {fields : List (κ × γ)}
  {and_ or_ not_ : Operand κ γ}

theorem Where.evals_eq (wheres : List (Where κ γ)) :
    Where.evals meaning row wheres = wheres.map (Where.eval meaning row) := by
  induction wheres with
  | nil => rw [Where.evals, List.map_nil]
  | cons where_ rest ih => rw [Where.evals, List.map_cons, ih]

theorem Operand.evals_eq (operand : Operand κ γ) :
    operand.evals meaning row = operand.toArray.map (Where.eval meaning row) := by
  cases operand with
  | absent => rw [Operand.evals]; rfl
  | object where_ => rw [Operand.evals]; rfl
  | array wheres => rw [Operand.evals, Where.evals_eq]; rfl

theorem Operand.evalAny_eq_true (operand : Operand κ γ) :
    operand.evalAny meaning row = some true ↔
      operand = .absent ∨ ∃ where_ ∈ operand.toArray, where_.Matches meaning row := by
  cases operand with
  | absent => exact iff_of_true (by rw [Operand.evalAny]) (Or.inl rfl)
  | object where_ =>
    rw [Operand.evalAny]
    exact ⟨fun holds => Or.inr ⟨where_, List.mem_singleton_self _, holds⟩, fun chosen => by
      obtain ⟨other, member, holds⟩ := chosen.resolve_left nofun
      exact List.mem_singleton.mp member ▸ holds⟩
  | array wheres =>
    rw [Operand.evalAny, Where.evals_eq, Truth.any_eq_true]
    simp only [List.mem_map, exists_exists_and_eq_and, reduceCtorEq, false_or]
    rfl

theorem Where.matches_object : (Where.object fields and_ or_ not_).Matches meaning row ↔
    (∀ field ∈ fields, meaning field.1 field.2 row = some true) ∧
      (∀ where_ ∈ and_.toArray, where_.Matches meaning row) ∧
        (or_ = .absent ∨ ∃ where_ ∈ or_.toArray, where_.Matches meaning row) ∧
          ∀ where_ ∈ not_.toArray, where_.eval meaning row = some false := by
  rw [Where.Matches, Where.eval, Truth.and_eq_true, Truth.and_eq_true, Truth.and_eq_true,
    Operand.evals_eq, Operand.evals_eq, Truth.all_eq_true, Truth.all_eq_true, Truth.all_eq_true,
    Operand.evalAny_eq_true, List.forall_mem_map, List.forall_mem_map, List.forall_mem_map,
    List.forall_mem_map]
  simp only [Truth.not_eq_true, Where.Matches]

theorem Where.matches_field {key : κ} {condition : γ} :
    (Where.field key condition).Matches meaning row ↔ meaning key condition row = some true := by
  rw [Where.field, Where.matches_object]
  simp [Operand.toArray]

theorem Where.matches_anyOf {wheres : List (Where κ γ)} :
    (Where.anyOf wheres).Matches meaning row ↔ ∃ where_ ∈ wheres, where_.Matches meaning row := by
  rw [Where.anyOf, Where.matches_object]
  simp [Operand.toArray]

/-- **What is added under `AND`** is asked for besides all the rest. -/
theorem Where.matches_andAlso {extra where_ : Where κ γ} :
    (where_.andAlso extra).Matches meaning row ↔
      where_.Matches meaning row ∧ extra.Matches meaning row := by
  cases where_ with
  | object fields and_ or_ not_ =>
    rw [Where.andAlso, Where.matches_object, Where.matches_object]
    simp only [Operand.toArray, List.forall_mem_append, List.forall_mem_singleton]
    tauto

theorem Where.matches_set [DecidableEq κ] {key : κ} {condition : γ} {where_ : Where κ γ} :
    (where_.set key condition).Matches meaning row ↔
      meaning key condition row = some true ∧ (where_.without key).Matches meaning row := by
  cases where_ with
  | object fields and_ or_ not_ =>
    rw [Where.set, Where.without, Where.matches_object, Where.matches_object, assign]
    simp only [List.forall_mem_append, List.forall_mem_singleton]
    tauto

theorem Where.matches_without [DecidableEq κ] {key : κ} {where_ : Where κ γ}
    (matched : where_.Matches meaning row) : (where_.without key).Matches meaning row := by
  cases where_ with
  | object fields and_ or_ not_ =>
    rw [Where.matches_object] at matched
    rw [Where.without, Where.matches_object]
    exact ⟨fun field member => matched.1 field (List.mem_of_mem_filter member), matched.2⟩

end Matches

end Relational
