/-
**What a stored rule needs.**

A rule is checked as a whole when it is entered. A change of it is checked for its slabs, if it names
any; the type may change alone, and leave the row without the amount, the percentage or the slabs
that the new type goes by.

* `BrokerCommissionRule.Usable`: a rule has what its type needs, and `Usable.computes`: then it
  has a commission on every price, by the field its type goes by;
* `patched_usable_iff`: which changes keep it so;
* `stored_rules_usable_iff`: in which runs all rules in use are usable throughout.
-/

import OpenEstate.Commission.Slabs
import OpenEstate.Commission.System

namespace OpenEstate

open Relational

/-! ### Usable rules -/

def BrokerCommissionRule.Has (rule : BrokerCommissionRule) (commissionType : CommissionType) :
    Prop :=
  match commissionType with
  | .slab => rule.slabs ≠ [] ∧ validateSlabContiguity rule.slabs = none
  | .flatPercent => rule.flatBasisPoints.isSome
  | .flatAmount => rule.flatPaise.isSome

def BrokerCommissionRule.Usable (rule : BrokerCommissionRule) : Prop :=
  rule.Has rule.commissionType

/-- The commission of a rule on a price is computed, and from the field that its type goes by. -/
def BrokerCommissionRule.Computes (rule : BrokerCommissionRule) (basisPaise : Int) : Prop :=
  ∃ total, computeCommissionPaise basisPaise rule = .ok total ∧
    match rule.commissionType with
    | .slab => ∃ slab ∈ rule.slabs, slab.holds basisPaise = true ∧
        total = percentOf basisPaise slab.rateBasisPoints
    | .flatPercent => ∃ basisPoints, rule.flatBasisPoints = some basisPoints ∧
        total = percentOf basisPaise basisPoints
    | .flatAmount => rule.flatPaise = some total

variable {rule : BrokerCommissionRule}

theorem BrokerCommissionRule.Usable.computes (usable : rule.Usable) {basisPaise : Int}
    (nonneg : 0 ≤ basisPaise) : rule.Computes basisPaise := by
  unfold Usable Has at usable
  unfold Computes computeCommissionPaise
  cases kind : rule.commissionType with
  | flatAmount =>
    rw [kind] at usable
    obtain ⟨paise, named⟩ := Option.isSome_iff_exists.mp usable
    exact ⟨paise, by rw [named]; rfl, named⟩
  | flatPercent =>
    rw [kind] at usable
    obtain ⟨basisPoints, named⟩ := Option.isSome_iff_exists.mp usable
    exact ⟨percentOf basisPaise basisPoints, by rw [named]; rfl, basisPoints, named, rfl⟩
  | slab =>
    rw [kind] at usable
    have held : 0 < (sortedSlabs rule.slabs).countP (·.holds basisPaise) := by
      rw [(sortedSlabs_perm rule.slabs).countP_eq, countP_holds_of_validate usable.2 nonneg]
      omega
    obtain ⟨candidate, listed, holds⟩ := List.countP_pos_iff.mp held
    cases matched : (sortedSlabs rule.slabs).find? (·.holds basisPaise) with
    | none => exact absurd holds (List.find?_eq_none.mp matched candidate listed)
    | some slab =>
      have holds := List.find?_some matched
      have member := (sortedSlabs_perm rule.slabs).mem_iff.mp (List.mem_of_find?_eq_some matched)
      refine ⟨percentOf basisPaise slab.rateBasisPoints, ?_, slab, member, holds, rfl⟩
      simp only [matchCommissionSlab_eq, matched]
      rfl

/-! ### Changes -/

def UpdateCommissionRuleDto.Brings (dto : UpdateCommissionRuleDto) :
    CommissionType → Prop
  | .slab => dto.slabs.isSome
  | .flatPercent => dto.flatBasisPoints.isSome
  | .flatAmount => dto.flatPaise.isSome

/-- A change of the type brings what the new type needs, unless the rule has it already. -/
def UpdateCommissionRuleDto.Completes (dto : UpdateCommissionRuleDto)
    (rule : BrokerCommissionRule) : Prop :=
  ∀ commissionType, dto.commissionType = some commissionType →
    commissionType ≠ rule.commissionType → dto.Brings commissionType ∨ rule.Has commissionType

variable {done : Unit}

theorem checkSlabs_slab {slabs : List BrokerCommissionSlab}
    (checked : checkSlabs .slab slabs = .ok done) :
    slabs ≠ [] ∧ validateSlabContiguity slabs = none := by
  simp only [checkSlabs, bind_eq_ok] at checked
  obtain ⟨_, contiguous, _⟩ := checked
  have accepted : validateSlabContiguity slabs = none := by
    cases wrong : validateSlabContiguity slabs with
    | none => rfl
    | some message =>
      rw [wrong, Option.elim_some, ensure_eq_ok] at contiguous
      exact absurd rfl contiguous
  refine ⟨?_, accepted⟩
  rintro rfl
  cases accepted

theorem patched_has_iff {dto : UpdateCommissionRuleDto} {commissionType : CommissionType}
    (checked : dto.slabs.elim (pure ()) (checkSlabs commissionType) =
      (.ok done : Except ServiceError Unit)) :
    (rule.patched dto).Has commissionType ↔
      dto.Brings commissionType ∨ rule.Has commissionType := by
  cases commissionType with
  | flatAmount =>
    show (dto.flatPaise.or rule.flatPaise).isSome = true ↔ _ ∨ _
    rw [Option.isSome_or, Bool.or_eq_true]
    exact Iff.rfl
  | flatPercent =>
    show (dto.flatBasisPoints.or rule.flatBasisPoints).isSome = true ↔ _ ∨ _
    rw [Option.isSome_or, Bool.or_eq_true]
    exact Iff.rfl
  | slab =>
    cases named : dto.slabs with
    | none =>
      have brings : ¬ dto.Brings .slab := by
        show ¬ dto.slabs.isSome = true
        rw [named]
        decide
      have same : (rule.patched dto).slabs = rule.slabs := by
        show dto.slabs.getD rule.slabs = rule.slabs
        rw [named, Option.getD_none]
      rw [or_iff_right brings]
      show (rule.patched dto).slabs ≠ [] ∧ validateSlabContiguity (rule.patched dto).slabs = none ↔ _
      rw [same]
      exact Iff.rfl
    | some slabs =>
      rw [named, Option.elim_some] at checked
      have brings : dto.Brings .slab := by
        show dto.slabs.isSome = true
        rw [named, Option.isSome_some]
      have replaced : (rule.patched dto).slabs = slabs := by
        show dto.slabs.getD rule.slabs = slabs
        rw [named, Option.getD_some]
      refine iff_of_true ?_ (Or.inl brings)
      show (rule.patched dto).slabs ≠ [] ∧ validateSlabContiguity (rule.patched dto).slabs = none
      rw [replaced]
      exact checkSlabs_slab checked

theorem patched_usable_iff {dto : UpdateCommissionRuleDto} (usable : rule.Usable)
    (checked : dto.slabs.elim (pure ())
      (checkSlabs (dto.commissionType.getD rule.commissionType)) =
        (.ok done : Except ServiceError Unit)) :
    (rule.patched dto).Usable ↔ dto.Completes rule := by
  show (rule.patched dto).Has (dto.commissionType.getD rule.commissionType) ↔ _
  rw [patched_has_iff checked]
  cases named : dto.commissionType with
  | none =>
    refine iff_of_true (Or.inr usable) fun commissionType changes => ?_
    rw [named] at changes
    cases changes
  | some commissionType =>
    rw [Option.getD_some]
    constructor
    · intro has other changes _
      rw [named, Option.some.injEq] at changes
      exact changes ▸ has
    · intro completes
      by_cases same : commissionType = rule.commissionType
      · exact Or.inr (same ▸ usable)
      · exact completes commissionType named same

/-! ### Runs -/

/-- Every rule in use has what its type needs, and a commission on every price. -/
def CommissionDb.RulesUsable (db : CommissionDb) : Prop :=
  ∀ id rule, db.rules.find? id = some rule → rule.isActive = true →
    rule.Usable ∧ ∀ basisPaise, 0 ≤ basisPaise → rule.Computes basisPaise

def CommissionRequest.Completes (request : CommissionRequest) (db : CommissionDb) : Prop :=
  ∀ ruleId dto rule, request.op = .updateRule ruleId dto → db.rules.find? ruleId = some rule →
    rule.isActive = true → dto.Completes rule

/-- What an operation does to the rules: it changes one, or it enters one that is usable, takes one
out of use, or leaves them alone. -/
inductive CommissionDb.RuleStep (db : CommissionDb) :
    CommissionOp → Table BrokerCommissionRule → Prop
  | changed {ruleId : Nat} {dto : UpdateCommissionRuleDto} {rule : BrokerCommissionRule}
      {done : Unit} (found : db.rules.find? ruleId = some rule)
      (checked : dto.slabs.elim (pure ())
        (checkSlabs (dto.commissionType.getD rule.commissionType)) =
          (.ok done : Except ServiceError Unit)) :
      RuleStep db (.updateRule ruleId dto) (db.rules.modify ruleId (·.patched dto))
  | entered (dto : CreateCommissionRuleDto) {row : BrokerCommissionRule} (usable : row.Usable) :
      RuleStep db (.createRule dto) (db.rules.create row)
  | retired (ruleId : Nat) :
      RuleStep db (.deactivateRule ruleId)
        (db.rules.modify ruleId fun rule => { rule with isActive := false })
  | other {op : CommissionOp} (unlike : ∀ ruleId dto, op ≠ .updateRule ruleId dto) :
      RuleStep db op db.rules

variable {db after : CommissionDb}

theorem createCommissionRule_eq_ok {brokers : Nat → Bool} {dto : CreateCommissionRuleDto}
    (accepted : createCommissionRule brokers dto db = .ok after) :
    ∃ row : BrokerCommissionRule, row.Usable ∧ after.rules = db.rules.create row := by
  simp only [createCommissionRule, bind_eq_ok, pure_eq_ok] at accepted
  obtain ⟨_, _, _, checked, rfl⟩ := accepted
  refine ⟨_, ?_, rfl⟩
  show BrokerCommissionRule.Has _ dto.commissionType
  cases kind : dto.commissionType with
  | flatAmount => exact dto.paise_required kind
  | flatPercent => exact dto.percent_required kind
  | slab =>
    rw [kind] at checked
    exact checkSlabs_slab checked

theorem execCommission_ruleStep {request : CommissionRequest}
    (accepted : execCommission request db = .ok after) : db.RuleStep request.op after.rules := by
  obtain ⟨masters, op⟩ := request
  cases op with
  | core op =>
    by_cases cancels : ∃ bookingId dto, op = .cancel bookingId dto
    · obtain ⟨bookingId, dto, rfl⟩ := cancels
      have accepted : cancelBooking masters bookingId dto db = .ok after := accepted
      obtain ⟨cancelled, _, rfl⟩ := cancelBooking_eq_ok accepted
      exact .other (by rintro _ _ ⟨⟩)
    · have accepted :
          (db.onDb fun _ => ·) <$> exec ⟨masters.toMasters, op⟩ db.toDb = .ok after := by
        cases op <;> first | exact accepted | exact absurd ⟨_, _, rfl⟩ cancels
      obtain ⟨_, _, rfl⟩ := map_eq_ok.mp accepted
      exact .other (by rintro _ _ ⟨⟩)
  | assignToBooking bookingId brokerId =>
    have accepted : assignToBooking masters bookingId brokerId db = .ok after := accepted
    simp only [assignToBooking, bind_eq_ok, pure_eq_ok] at accepted
    obtain ⟨_, _, _, _, rfl⟩ := accepted
    exact .other (by rintro _ _ ⟨⟩)
  | setAccrualTrigger trigger =>
    cases accepted
    exact .other (by rintro _ _ ⟨⟩)
  | createRule dto =>
    obtain ⟨row, usable, created⟩ := createCommissionRule_eq_ok accepted
    rw [created]
    exact .entered dto usable
  | updateRule ruleId dto =>
    have accepted : updateCommissionRule ruleId dto db = .ok after := accepted
    simp only [updateCommissionRule, bind_eq_ok, orThrow_eq_ok, pure_eq_ok] at accepted
    obtain ⟨rule, found, _, checked, rfl⟩ := accepted
    exact .changed found checked
  | deactivateRule ruleId =>
    have accepted : deactivateCommissionRule ruleId db = .ok after := accepted
    simp only [deactivateCommissionRule, bind_eq_ok, pure_eq_ok] at accepted
    obtain ⟨_, _, rfl⟩ := accepted
    exact .retired ruleId
  | requestPayment dto =>
    have accepted : requestCommissionPayment masters dto db = .ok after := accepted
    simp only [requestCommissionPayment, bind_eq_ok, pure_eq_ok] at accepted
    obtain ⟨_, _, _, _, rfl⟩ := accepted
    exact .other (by rintro _ _ ⟨⟩)
  | approvePayment paymentId =>
    cases decideCommissionPayment_eq_ok accepted
    exact .other (by rintro _ _ ⟨⟩)
  | rejectPayment paymentId =>
    cases decideCommissionPayment_eq_ok accepted
    exact .other (by rintro _ _ ⟨⟩)
  | payPayment paymentId paymentDate =>
    obtain ⟨payment, entries, _, _, _, rfl⟩ := payCommission_eq_ok.mp accepted
    exact .other (by rintro _ _ ⟨⟩)

theorem CommissionDb.rulesUsable_iff :
    db.RulesUsable ↔
      ∀ id rule, db.rules.find? id = some rule → rule.isActive = true → rule.Usable := by
  constructor
  · exact fun usable id rule found active => (usable id rule found active).1
  · intro usable id rule found active
    have has := usable id rule found active
    exact ⟨has, fun _ nonneg => has.computes nonneg⟩

/-- **A request keeps the rules in use usable exactly if it completes the rule it changes.** -/
theorem rulesUsable_step_iff {request : CommissionRequest} (usable : db.RulesUsable)
    (accepted : execCommission request db = .ok after) :
    after.RulesUsable ↔ request.Completes db := by
  rw [CommissionDb.rulesUsable_iff] at usable ⊢
  have step := execCommission_ruleStep accepted
  unfold CommissionRequest.Completes
  generalize request.op = op at step ⊢
  generalize after.rules = rules at step ⊢
  cases step with
  | @changed ruleId dto rule done found checked =>
    constructor
    · rintro kept _ _ other ⟨⟩ there active
      rw [found] at there
      cases there
      have patched := kept ruleId (rule.patched dto) (by rw [Table.find?_modify_self, found]; rfl)
        active
      exact (patched_usable_iff (usable ruleId rule found active) checked).mp patched
    · intro completes id row listed active
      rcases Table.find?_modify_eq_some.mp listed with ⟨rfl, before, there, rfl⟩ | ⟨_, there⟩
      · rw [found] at there
        cases there
        have active : rule.isActive = true := active
        exact (patched_usable_iff (usable id rule found active) checked).mpr
          (completes id dto rule rfl found active)
      · exact usable id row there active
  | entered dto row =>
    refine iff_of_true (fun id rule listed active => ?_) (by rintro _ _ _ ⟨⟩)
    rcases Table.find?_create_eq_some.mp listed with ⟨_, rfl⟩ | there
    · exact row
    · exact usable id rule there active
  | retired ruleId =>
    refine iff_of_true (fun id rule listed active => ?_) (by rintro _ _ _ ⟨⟩)
    rcases Table.find?_modify_eq_some.mp listed with ⟨_, before, _, rfl⟩ | ⟨_, there⟩
    · cases active
    · exact usable id rule there active
  | other unlike =>
    exact iff_of_true usable fun ruleId dto rule same _ _ => absurd same (unlike ruleId dto)

/-- **In which runs the rules in use are usable throughout**: exactly those in which every change of
the type of a rule in use brings what the new type needs, unless the rule has it already. -/
theorem stored_rules_usable_iff (requests : List CommissionRequest) :
    (∀ db ∈ states execCommission {} requests, db.RulesUsable) ↔
      ∀ step ∈ steps execCommission {} requests, step.input.Completes step.before := by
  constructor
  · intro usable step member
    obtain ⟨_, accepted⟩ := mem_steps member
    have before := usable step.before (before_mem_states member)
    have after := usable step.after (List.mem_cons_of_mem _ (List.mem_map_of_mem member))
    exact (rulesUsable_step_iff before accepted).mp after
  · intro completes
    refine states_invariant CommissionDb.RulesUsable ?_ completes ?_
    · intro request before after usable accepted completes
      exact (rulesUsable_step_iff usable accepted).mpr completes
    · rintro id rule ⟨⟩

theorem noPercent_max : ∀ basisPoints ∈ (none : Option Nat), basisPoints ≤ 10000 := nofun

theorem noPaise_nonneg : ∀ paise, (none : Option Int) = some paise → 0 ≤ paise := nofun

theorem noSlabs_wellFormed :
    ∀ list ∈ (none : Option (List BrokerCommissionSlab)), SlabsWellFormed list := nofun

def percentRule : CreateCommissionRuleDto where
  brokerId := 0
  commissionType := .flatPercent
  flatBasisPoints := some 200
  percent_max := by
    intro basisPoints named
    cases named
    decide
  paise_nonneg := noPaise_nonneg
  slabs_wellFormed := noSlabs_wellFormed
  slabs_required := by rintro ⟨⟩
  percent_required := fun _ => rfl
  paise_required := by rintro ⟨⟩

def toSlabs : UpdateCommissionRuleDto where
  commissionType := some .slab
  percent_max := noPercent_max
  paise_nonneg := noPaise_nonneg
  slabs_wellFormed := noSlabs_wellFormed

def switchedRule : List CommissionRequest :=
  [⟨{}, .createRule percentRule⟩, ⟨{}, .updateRule 0 toSlabs⟩]

/-- The rule in use goes by slabs and has none, and its commission cannot be computed. -/
theorem switched_rule_unusable :
    ¬ ∀ db ∈ states execCommission {} switchedRule, db.RulesUsable := by
  intro usable
  have last := usable _ (run_mem_states _ _)
  have unusable := (last 0 _ rfl rfl).1
  exact unusable.1 rfl

end OpenEstate
