/-
**Commission rules.**

A rule says what a broker earns on a sale: a percentage of the price, a fixed amount, or the
percentage of the one slab the price falls in. Rules are entered and edited in place.

* `validateSlabContiguity` checks the slabs of a rule, `matchCommissionSlab` finds the one of an
  amount;
* `computeCommissionPaise_nonneg`: the commission on a price that is not negative is not negative.
-/

import OpenEstate.Commission.Schema

namespace OpenEstate

open Relational

/-! ### Slabs -/

def sortedSlabs (slabs : List BrokerCommissionSlab) : List BrokerCommissionSlab :=
  slabs.insertionSort fun first second => first.seq ≤ second.seq

/-- The slab an amount falls in; the lower end belongs to it, the upper end to the next one. -/
def matchCommissionSlab (basisPaise : Int) (slabs : List BrokerCommissionSlab) :
    Except ServiceError BrokerCommissionSlab :=
  orThrow ((sortedSlabs slabs).find? fun slab =>
      slab.fromPaise ≤ basisPaise ∧ ∀ toPaise ∈ slab.toPaise, basisPaise < toPaise)
    (.error ("No matching commission slab for the given basis amount — slabs must be contiguous " ++
      "and gapless with an unbounded top slab"))

/-- What is wrong with slabs in the order of their numbers: a gap, or an end of the last one. -/
def contiguityError : List BrokerCommissionSlab → Option String
  | [] => none
  | [last] =>
    if last.toPaise.isSome then some "The last slab (highest seq) must be unbounded (no toPaise)"
    else none
  | slab :: next :: rest =>
    match slab.toPaise with
    | none =>
      some s!"Slab seq={slab.seq} must have a toPaise — only the last slab can be unbounded"
    | some toPaise =>
      if toPaise ≠ next.fromPaise then
        some (s!"Slabs must be contiguous: seq={slab.seq}'s toPaise must equal " ++
          s!"seq={next.seq}'s fromPaise")
      else contiguityError (next :: rest)

def validateSlabContiguity (slabs : List BrokerCommissionSlab) : Option String :=
  match sortedSlabs slabs with
  | [] => some "At least one slab is required"
  | first :: rest =>
    if first.fromPaise ≠ 0 then some "The first slab must start at 0"
    else contiguityError (first :: rest)

/-! ### Commission -/

def computeCommissionPaise (basisPaise : Int) (rule : BrokerCommissionRule) :
    Except ServiceError Int :=
  match rule.commissionType with
  | .flatAmount => return rule.flatPaise.getD 0
  | .flatPercent => return percentOf basisPaise (rule.flatBasisPoints.getD 0 : Nat)
  | .slab => do
    let matched ← matchCommissionSlab basisPaise rule.slabs
    return percentOf basisPaise matched.rateBasisPoints

theorem computeCommissionPaise_nonneg {basisPaise total : Int} {rule : BrokerCommissionRule}
    (basisNonneg : 0 ≤ basisPaise) (computed : computeCommissionPaise basisPaise rule = .ok total) :
    0 ≤ total := by
  unfold computeCommissionPaise at computed
  cases kind : rule.commissionType with
  | flatAmount =>
    rw [kind] at computed
    cases computed
    cases named : rule.flatPaise with
    | none => exact le_refl _
    | some paise => exact rule.flat_nonneg paise named
  | flatPercent =>
    rw [kind] at computed
    cases computed
    exact percentOf_nonneg basisNonneg (Int.natCast_nonneg _)
  | slab =>
    simp only [kind, bind_eq_ok, pure_eq_ok] at computed
    obtain ⟨matched, _, rfl⟩ := computed
    exact percentOf_nonneg basisNonneg (Int.natCast_nonneg _)

/-! ### Requests -/

def SlabsWellFormed (slabs : List BrokerCommissionSlab) : Prop :=
  ∀ slab ∈ slabs, 1 ≤ slab.seq ∧ 0 ≤ slab.fromPaise ∧ (∀ toPaise ∈ slab.toPaise, 0 ≤ toPaise) ∧
    slab.rateBasisPoints ≤ 10000

structure CreateCommissionRuleDto where
  brokerId : Nat
  projectId : Option Nat := none
  commissionType : CommissionType
  flatBasisPoints : Option Nat := none
  flatPaise : Option Int := none
  milestones : Option CommissionMilestones := none
  slabs : Option (List BrokerCommissionSlab) := none
  percent_max : ∀ basisPoints ∈ flatBasisPoints, basisPoints ≤ 10000
  paise_nonneg : ∀ paise, flatPaise = some paise → 0 ≤ paise
  slabs_wellFormed : ∀ list ∈ slabs, SlabsWellFormed list
  slabs_required : commissionType = .slab → ∃ list, slabs = some list ∧ list ≠ []
  percent_required : commissionType = .flatPercent → flatBasisPoints.isSome
  paise_required : commissionType = .flatAmount → flatPaise.isSome

structure UpdateCommissionRuleDto where
  projectId : Option Nat := none
  commissionType : Option CommissionType := none
  flatBasisPoints : Option Nat := none
  flatPaise : Option Int := none
  milestones : Option CommissionMilestones := none
  slabs : Option (List BrokerCommissionSlab) := none
  percent_max : ∀ basisPoints ∈ flatBasisPoints, basisPoints ≤ 10000
  paise_nonneg : ∀ paise, flatPaise = some paise → 0 ≤ paise
  slabs_wellFormed : ∀ list ∈ slabs, SlabsWellFormed list

/-! ### Entering and editing rules -/

/-- Refuse slabs that are not contiguous, where the rule goes by slabs, and slabs of one number. -/
def checkSlabs (commissionType : CommissionType) (slabs : List BrokerCommissionSlab) :
    Except ServiceError Unit := do
  (validateSlabContiguity slabs).elim (pure ()) fun message =>
    ensure (commissionType ≠ .slab) (.badRequest message)
  ensure ((slabs.map (·.seq)).Nodup)
    (.error "Unique constraint failed on the fields: (rule_id,seq)")

def createCommissionRule (brokers : Nat → Bool) (dto : CreateCommissionRuleDto)
    (db : CommissionDb) : Except ServiceError CommissionDb := do
  ensure (brokers dto.brokerId = true) (.notFound "Broker not found")
  let slabs := if dto.commissionType = .slab then dto.slabs.getD [] else []
  checkSlabs dto.commissionType slabs
  return { db with
    rules := db.rules.create
      { brokerId := dto.brokerId
        projectId := dto.projectId
        commissionType := dto.commissionType
        flatBasisPoints := dto.flatBasisPoints
        flatPaise := dto.flatPaise
        milestones := dto.milestones
        slabs
        flat_nonneg := dto.paise_nonneg } }

def BrokerCommissionRule.patched (rule : BrokerCommissionRule) (dto : UpdateCommissionRuleDto) :
    BrokerCommissionRule :=
  { rule with
    projectId := dto.projectId.or rule.projectId
    commissionType := dto.commissionType.getD rule.commissionType
    flatBasisPoints := dto.flatBasisPoints.or rule.flatBasisPoints
    flatPaise := dto.flatPaise.or rule.flatPaise
    milestones := dto.milestones.or rule.milestones
    slabs := dto.slabs.getD rule.slabs
    flat_nonneg := by
      intro paise named
      cases changed : dto.flatPaise with
      | none =>
        rw [changed, Option.none_or] at named
        exact rule.flat_nonneg paise named
      | some _ =>
        rw [changed, Option.some_or] at named
        cases named
        exact dto.paise_nonneg paise changed }

/-- Edit a rule. Slabs are replaced as a whole, and checked if the rule goes by slabs. -/
def updateCommissionRule (ruleId : Nat) (dto : UpdateCommissionRuleDto) (db : CommissionDb) :
    Except ServiceError CommissionDb := do
  let existing ← orThrow (db.rules.find? ruleId) (.notFound "Commission rule not found")
  let commissionType := dto.commissionType.getD existing.commissionType
  dto.slabs.elim (pure ()) (checkSlabs commissionType)
  return { db with rules := db.rules.modify ruleId (·.patched dto) }

def deactivateCommissionRule (ruleId : Nat) (db : CommissionDb) :
    Except ServiceError CommissionDb := do
  let _ ← orThrow (db.rules.find? ruleId) (.notFound "Commission rule not found")
  return { db with
    rules := db.rules.modify ruleId fun rule => { rule with isActive := false } }

end OpenEstate
