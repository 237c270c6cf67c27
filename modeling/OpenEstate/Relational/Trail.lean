/-
**Trails of changes.**

A trail lists the changes of a value, each with what the value was before and what it was then. It
leads from one value to another if each change begins where the one before has ended. A trail that
leads to the value as it is explains it.

* `Leads`, and `leads_append`: a change at the end of a trail;
* `leads_iff`: the first change, the changes side by side, and the last one.
-/

import Mathlib.Data.List.Basic
import Mathlib.Data.List.Pairwise

namespace Relational

variable {α : Type}

/-- Whether a list of changes leads from a value to another: no value is what there is before the
first change. -/
def Leads : Option α → List (Option α × α) → Option α → Prop
  | start, [], stop => start = stop
  | start, change :: rest, stop => change.1 = start ∧ Leads (some change.2) rest stop

variable {stop : Option α} {changes : List (Option α × α)}

theorem Leads.unique {start other : Option α} (leads : Leads start changes stop)
    (also : Leads start changes other) : stop = other := by
  induction changes generalizing start with
  | nil => exact Eq.trans (Eq.symm leads) also
  | cons change rest ih => exact ih leads.2 also.2

theorem leads_append {start middle : Option α} {first second : List (Option α × α)}
    (leads : Leads start first middle) (further : Leads middle second stop) :
    Leads start (first ++ second) stop := by
  induction first generalizing start with
  | nil =>
    obtain rfl : start = middle := leads
    exact further
  | cons change rest ih => exact ⟨leads.1, ih leads.2⟩

theorem Leads.snoc {start stop : Option α} {changes : List (Option α × α)}
    (leads : Leads start changes stop) (new : α) :
    Leads start (changes ++ [(stop, new)]) (some new) :=
  leads_append leads ⟨rfl, rfl⟩

theorem Leads.eq_nil_iff (leads : Leads none changes stop) : changes = [] ↔ stop = none := by
  constructor
  · rintro rfl
    exact Eq.symm leads
  · rintro rfl
    suffices never : ∀ (start : Option α) (changes : List (Option α × α)) (old : α),
        ¬Leads (some old) changes none by
      cases changes with
      | nil => rfl
      | cons change rest => exact absurd leads.2 (never none rest change.2)
    intro start changes
    induction changes with
    | nil => exact nofun
    | cons change rest ih => exact fun old leads => ih change.2 leads.2

theorem leads_iff {current : α} :
    Leads none changes (some current) ↔
      (∃ first, changes.head? = some first ∧ first.1 = none) ∧
        changes.IsChain (fun earlier later => later.1 = some earlier.2) ∧
        ∃ last, changes.getLast? = some last ∧ last.2 = current := by
  have from_ : ∀ (start : α) (rest : List (Option α × α)) (change : Option α × α),
      change.2 = start → (Leads (some start) rest (some current) ↔
        (change :: rest).IsChain (fun earlier later => later.1 = some earlier.2) ∧
          ∃ last, (change :: rest).getLast? = some last ∧ last.2 = current) := by
    intro start rest
    induction rest generalizing start with
    | nil =>
      rintro change rfl
      simp [Leads]
    | cons next rest ih =>
      rintro change rfl
      rw [Leads, ih next.2 next rfl, List.isChain_cons_cons, List.getLast?_cons_cons, and_assoc]
  cases changes with
  | nil => simp [Leads]
  | cons change rest =>
    rw [Leads, from_ change.2 rest change rfl]
    simp

theorem Leads.isChain (leads : Leads none changes stop) :
    (∀ first, changes.head? = some first → first.1 = none) ∧
      changes.IsChain (fun earlier later => later.1 = some earlier.2) ∧
      ∀ last, changes.getLast? = some last → stop = some last.2 := by
  cases stop with
  | none =>
    rw [leads.eq_nil_iff.mpr rfl]
    exact ⟨nofun, .nil, nofun⟩
  | some current =>
    obtain ⟨⟨first, isFirst, none_⟩, chain, last, isLast, same⟩ := leads_iff.mp leads
    refine ⟨fun other isOther => ?_, chain, fun other isOther => ?_⟩
    · obtain rfl := Option.some.inj (isFirst.symm.trans isOther)
      exact none_
    · obtain rfl := Option.some.inj (isLast.symm.trans isOther)
      exact congrArg some same.symm

end Relational
