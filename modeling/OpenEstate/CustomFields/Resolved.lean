/-
**What a write makes of values.**

The values that are brought and those that are stored are merged field by field. A field with an
active definition is checked, and what the check keeps of it is stored; what is stored under any
other name stays.

* `Resolved` is what is stored after a write, field by field: `resolved_of_resolveValues`;
* `invalid_of_resolveValues`: the issues that a write is refused for.
-/

import OpenEstate.CustomFields.Service

namespace OpenEstate.CustomFields

open Relational
open Runtime (Value Properties inheritedNames lookup_filter lookup_filterMap
  lookup_filterMap_of_notMem)

namespace CustomFieldsService

/-! ### Merged values -/

section Merged

variable {definitions : List CustomFieldDefinition} {incoming stored : Properties} {key : String}

theorem get_mergedDefined (distinct : (definitions.map (·.key)).Nodup)
    {definition : CustomFieldDefinition} (member : definition ∈ definitions) :
    (mergedDefined definitions incoming stored).get definition.key =
      mergedValue incoming stored definition.key := by
  have own : (mergedDefined definitions incoming stored).lookup definition.key =
      mergedValue incoming stored definition.key :=
    lookup_filterMap (fun definition : CustomFieldDefinition =>
      mergedValue incoming stored definition.key) distinct member
  cases is : mergedValue incoming stored definition.key with
  | some value => exact Properties.get_of_lookup (own.trans is)
  | none =>
    have plain : definition.key ∉ inheritedNames := by
      intro inherited
      simp [mergedValue, Properties.get, inherited] at is
    rw [Properties.get_of_notMem plain, own, is]

theorem unrecognized_mergedDefined :
    unrecognized definitions (mergedDefined definitions incoming stored) = [] := by
  unfold unrecognized
  refine if_pos (List.filter_eq_nil_iff.mpr fun name listed => ?_)
  obtain ⟨entry, merged, rfl⟩ := List.mem_map.mp listed
  obtain ⟨definition, member, is⟩ := List.mem_filterMap.mp merged
  obtain ⟨_, _, rfl⟩ := Option.map_eq_some_iff.mp is
  simpa using ⟨definition, member, rfl⟩

theorem mergedValue_eq_none_of_nil (nothing : mergedDefined definitions incoming stored = [])
    {definition : CustomFieldDefinition} (member : definition ∈ definitions) :
    mergedValue incoming stored definition.key = none := by
  have all := List.filterMap_eq_nil_iff.mp nothing definition member
  exact Option.map_eq_none_iff.mp all

theorem lookup_preserved (key : String) :
    (preserved definitions stored).lookup key =
      if key ∈ definitions.map (·.key) then none else stored.lookup key := by
  unfold preserved
  rw [lookup_filter stored (fun name => decide (name ∉ definitions.map (·.key))) key]
  by_cases defined : key ∈ definitions.map (·.key)
  · rw [if_pos defined, if_neg (by simpa using defined)]
  · rw [if_neg defined, if_pos (by simpa using defined)]

end Merged

/-! ### Validated values -/

section Validated

variable {platform : Platform} {definitions : List CustomFieldDefinition} {values : Properties}

theorem fieldIssues_eq_nil {definition : CustomFieldDefinition} :
    fieldIssues platform definition values = [] ↔
      ∃ kept, checkField platform definition (values.get definition.key) = .ok kept := by
  unfold fieldIssues
  have checked : OkOrAt definition.key
      (checkField platform definition (values.get definition.key)) := okOrAt_checkField _
  rcases checked with ⟨kept, is⟩ | ⟨issues, is, some_, _⟩
  · rw [is]
    exact iff_of_true rfl ⟨kept, rfl⟩
  · rw [is]
    exact iff_of_false some_ nofun

theorem head_of_mem_fieldIssues {definition : CustomFieldDefinition} {issue : Issue}
    (member : issue ∈ fieldIssues platform definition values) :
    issue.path.head? = some definition.key := by
  unfold fieldIssues at member
  have checked : OkOrAt definition.key
      (checkField platform definition (values.get definition.key)) := okOrAt_checkField _
  rcases checked with ⟨kept, is⟩ | ⟨issues, is, _, named⟩
  · rw [is] at member
    cases member
  · rw [is] at member
    exact named issue member

theorem validateCustomFieldValues_eq_ok {validated : Properties}
    (accepted : validateCustomFieldValues platform definitions values = .ok validated) :
    (∀ definition ∈ definitions, fieldIssues platform definition values = []) ∧
      validated = definitions.filterMap fun definition =>
        (fieldValue platform definition values).map fun value => (definition.key, value) := by
  simp only [validateCustomFieldValues] at accepted
  split at accepted
  · rename_i none_
    exact ⟨List.flatMap_eq_nil_iff.mp (List.append_eq_nil_iff.mp none_).1, (Except.ok.inj accepted).symm⟩
  · cases accepted

theorem validateCustomFieldValues_eq_error {issues : List Issue}
    (refused : validateCustomFieldValues platform definitions values = .error issues) :
    issues = definitions.flatMap (fieldIssues platform · values) ++ unrecognized definitions values := by
  simp only [validateCustomFieldValues] at refused
  split at refused
  · cases refused
  · exact (Except.error.inj refused).symm

end Validated

/-! ### What is stored after a write -/

def checkMerged (platform : Platform) (incoming stored : Properties)
    (definition : CustomFieldDefinition) : Checked (Option Value) :=
  checkField platform definition (mergedValue incoming stored definition.key)

structure Resolved (platform : Platform) (definitions : List CustomFieldDefinition)
    (incoming stored values : Properties) : Prop where
  undefined : ∀ key ∉ definitions.map (·.key), values.lookup key = stored.lookup key
  defined : ∀ definition ∈ definitions,
    checkMerged platform incoming stored definition = .ok (values.lookup definition.key)

section Resolved

variable {platform : Platform} {companyId : Nat} {entityType : CustomFieldEntity}
  {incoming customFields : Option Properties} {db : FieldsDb}

theorem resolved_of_resolveValues
    (distinct : ((findActiveByEntity companyId entityType db).map (·.key)).Nodup)
    {values : Properties}
    (accepted : resolveValues platform companyId entityType incoming customFields db =
      .ok (some values)) :
    Resolved platform (findActiveByEntity companyId entityType db) (incoming.getD [])
      (customFields.getD []) values := by
  simp only [resolveValues] at accepted
  generalize findActiveByEntity companyId entityType db = definitions at accepted distinct ⊢
  generalize incoming.getD [] = brought at accepted ⊢
  generalize customFields.getD [] = stored at accepted ⊢
  split at accepted
  · cases accepted
  · split at accepted
    · rename_i none_
      subst none_
      split at accepted
      · cases accepted
      · cases accepted
        refine ⟨fun key undefined => ?_, fun _ member => absurd member List.not_mem_nil⟩
        rw [lookup_preserved, if_neg undefined]
    · split at accepted
      · cases accepted
      · split at accepted
        · cases accepted
        · rename_i validated valid
          cases accepted
          obtain ⟨passed, rfl⟩ := validateCustomFieldValues_eq_ok valid
          refine ⟨fun key undefined => ?_, fun definition member => ?_⟩
          · rw [List.lookup_append, lookup_preserved, if_neg undefined,
              lookup_filterMap_of_notMem _ undefined, Option.or_none]
          · have defined : definition.key ∈ definitions.map (·.key) := List.mem_map_of_mem member
            obtain ⟨kept, is⟩ := fieldIssues_eq_nil.mp (passed definition member)
            have value : fieldValue platform definition (mergedDefined definitions brought stored) =
                kept := by
              rw [fieldValue, is]
            rw [List.lookup_append, lookup_preserved, if_pos defined, Option.none_or,
              lookup_filterMap (fun definition : CustomFieldDefinition => fieldValue platform definition
                (mergedDefined definitions brought stored)) distinct member, value]
            rw [get_mergedDefined distinct member] at is
            exact is

theorem resolveValues_of_refused {brought : Properties} {error : ServiceError}
    (refused : acceptIncoming platform entityType (findActiveByEntity companyId entityType db) brought
      (customFields.getD []) = .error error) :
    resolveValues platform companyId entityType (some brought) customFields db =
      .error (.thrown error) := by
  simp only [resolveValues, Option.elim_some]
  rw [refused]

theorem mergedValue_of_resolveValues
    (accepted : resolveValues platform companyId entityType incoming customFields db = .ok none)
    {definition : CustomFieldDefinition}
    (member : definition ∈ findActiveByEntity companyId entityType db) :
    mergedValue (incoming.getD []) (customFields.getD []) definition.key = none := by
  simp only [resolveValues] at accepted
  split at accepted
  · cases accepted
  · split at accepted
    · rename_i none_
      rw [none_] at member
      cases member
    · split at accepted
      · rename_i nothing
        exact mergedValue_eq_none_of_nil nothing.1 member
      · split at accepted
        · cases accepted
        · cases accepted

theorem invalid_of_resolveValues
    (distinct : ((findActiveByEntity companyId entityType db).map (·.key)).Nodup) {refusal : Refusal}
    (refused : resolveValues platform companyId entityType incoming customFields db =
      .error refusal) :
    (∃ error, refusal = .thrown error ∧
      incoming.elim (.ok ()) (acceptIncoming platform entityType
        (findActiveByEntity companyId entityType db) · (customFields.getD [])) = .error error) ∨
    ∃ issues, refusal = .invalid issues ∧
      (∀ issue ∈ issues, ∃ definition ∈ findActiveByEntity companyId entityType db,
        issue.path.head? = some definition.key ∧ ∀ kept,
          checkMerged platform (incoming.getD []) (customFields.getD []) definition ≠ .ok kept) ∧
      ∀ definition ∈ findActiveByEntity companyId entityType db,
        (∀ kept, checkMerged platform (incoming.getD []) (customFields.getD []) definition ≠ .ok kept) →
          ∃ issue ∈ issues, issue.path.head? = some definition.key := by
  simp only [resolveValues] at refused
  generalize findActiveByEntity companyId entityType db = definitions at refused distinct ⊢
  generalize incoming.getD [] = brought at refused ⊢
  generalize customFields.getD [] = stored at refused ⊢
  split at refused
  · rename_i error is
    cases refused
    exact Or.inl ⟨error, rfl, is⟩
  · split at refused
    · split at refused
      · cases refused
      · cases refused
    · split at refused
      · cases refused
      · split at refused
        · rename_i issues invalid
          cases refused
          have is := validateCustomFieldValues_eq_error invalid
          rw [unrecognized_mergedDefined, List.append_nil] at is
          refine Or.inr ⟨issues, rfl, fun issue listed => ?_, fun definition member failed => ?_⟩
          · rw [is] at listed
            obtain ⟨definition, member, found⟩ := List.mem_flatMap.mp listed
            refine ⟨definition, member, head_of_mem_fieldIssues found, fun kept passed => ?_⟩
            have none_ := fieldIssues_eq_nil.mpr
              ⟨kept, (congrArg _ (get_mergedDefined distinct member)).trans passed⟩
            rw [none_] at found
            cases found
          · have some_ : fieldIssues platform definition
                (mergedDefined definitions brought stored) ≠ [] := by
              intro none_
              obtain ⟨kept, passed⟩ := fieldIssues_eq_nil.mp none_
              rw [get_mergedDefined distinct member] at passed
              exact failed kept passed
            obtain ⟨issue, found⟩ := List.exists_mem_of_ne_nil _ some_
            refine ⟨issue, ?_, head_of_mem_fieldIssues found⟩
            rw [is]
            exact List.mem_flatMap.mpr ⟨definition, member, found⟩
        · cases refused

end Resolved

end CustomFieldsService

end OpenEstate.CustomFields
