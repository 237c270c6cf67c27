/-
**Updates that do not mention a field.**

An update of a record is validated together with what is stored of the fields that it does not
mention, against the definitions as they are by then. A stored choice that is no longer among the
options of its field, a stored date whose year has more than four digits, and any value of a field
called "constructor", which every object inherits, is then refused.

* `LeavesAlone`: an update neither changes a field nor is refused for what is stored of it;
* `StillAccepted`: what is stored of the field is still accepted, or what the update brings is not;
* `update_local_iff`: the one holds exactly if the other does;
* `removed_option_refused`: an update that is refused for an option that has been removed.
-/

import OpenEstate.CustomFields.Sound

namespace OpenEstate.CustomFields

open Relational
open CustomFieldsService
open Runtime (Value Properties inheritedNames)

/-! ### Locality -/

def Refusal.names (key : String) : Refusal → Prop
  | thrown _ => False
  | invalid issues => ∃ issue ∈ issues, issue.path.head? = some key

/-- **An update leaves a field alone.** -/
def LeavesAlone (key : String) (id : Nat) (record : FieldRecord) : Except Refusal FieldsDb → Prop
  | .ok after => ∃ row, after.records.find? id = some row ∧
      row.stored.lookup key = record.stored.lookup key
  | .error refusal => record.stored.lookup key ≠ none → ¬refusal.names key

/-- **Whether what is stored of a field is still accepted**, unless the update is refused already for
what it brings. -/
def StillAccepted (platform : Platform) (key : String) (record : FieldRecord) (incoming : Properties)
    (db : FieldsDb) : Prop :=
  let definitions := findActiveByEntity record.companyId record.entityType db
  (∃ error, acceptIncoming platform record.entityType definitions incoming record.stored =
      .error error) ∨
    ∀ value, record.stored.lookup key = some value → ∀ definition ∈ definitions,
      definition.key = key → key ∉ inheritedNames ∧ StillAllowed definition value

/-! ### The check of a field that is not mentioned -/

section Unmentioned

variable {platform : Platform} {db : FieldsDb} {companyId : Nat} {entityType : CustomFieldEntity}
  {incoming stored : Properties} {definition : CustomFieldDefinition} {value : Value}

theorem Explained.fits (sound : Sound db)
    (explained : Explained db companyId entityType definition.key value)
    (member : definition ∈ findActiveByEntity companyId entityType db) :
    Fits definition.fieldType value := by
  obtain ⟨id, other, found, company, entity, named, fits⟩ := explained
  obtain ⟨id', there, company', entity'⟩ := exists_of_mem_findActiveByEntity member
  have same : id = id' := sound.distinct id id' other definition found there
    (company.trans company'.symm) (entity.trans entity'.symm) named
  subst same
  obtain rfl : other = definition := Option.some.inj (found.symm.trans there)
  exact fits

theorem key_form_of_mem (sound : Sound db)
    (member : definition ∈ findActiveByEntity companyId entityType db) :
    isKey definition.key = true := by
  obtain ⟨id, found, _, _⟩ := exists_of_mem_findActiveByEntity member
  exact sound.key_form id definition found

theorem mergedValue_of_inherited (silent : incoming.lookup definition.key = none)
    (inherited : definition.key ∈ inheritedNames) :
    mergedValue incoming stored definition.key = some .function := by
  rw [mergedValue, Properties.get_of_mem silent inherited, Option.some_or]

theorem mergedValue_of_plain (silent : incoming.lookup definition.key = none)
    (plain : definition.key ∉ inheritedNames) :
    mergedValue incoming stored definition.key = stored.lookup definition.key := by
  rw [mergedValue, Properties.get_of_notMem plain, Properties.get_of_notMem plain, silent,
    Option.none_or]

/-- **What the check makes of a value that is stored**, and not brought. -/
theorem checkMerged_of_stored (sound : Sound db)
    (member : definition ∈ findActiveByEntity companyId entityType db)
    (explained : Explained db companyId entityType definition.key value)
    (silent : incoming.lookup definition.key = none)
    (found : stored.lookup definition.key = some value) :
    ((definition.key ∉ inheritedNames ∧ StillAllowed definition value) ∧
        checkMerged platform incoming stored definition = .ok (some value)) ∨
      (¬(definition.key ∉ inheritedNames ∧ StillAllowed definition value) ∧
        ∀ kept, checkMerged platform incoming stored definition ≠ .ok kept) := by
  have ne_ok : ∀ {checked : Checked (Option Value)}, FailsAt definition.key checked →
      ∀ kept, checked ≠ .ok kept := by
    rintro _ ⟨issues, rfl, _⟩ kept accepted
    cases accepted
  unfold checkMerged
  by_cases inherited : definition.key ∈ inheritedNames
  · rw [mergedValue_of_inherited silent inherited]
    exact Or.inr ⟨fun allowed => allowed.1 inherited, ne_ok checkField_function⟩
  · rw [mergedValue_of_plain silent inherited, found]
    have options : definition.fieldType = .multiSelect → 0 < definition.opts.length := by
      intro choice
      obtain ⟨id, there, _, _⟩ := exists_of_mem_findActiveByEntity member
      exact List.length_pos_iff.mpr (sound.choices id definition there (by rw [choice]; rfl))
    have cases_ : (StillAllowed definition value ∧
          checkField platform definition (some value) = .ok (some value)) ∨
        (¬StillAllowed definition value ∧
          FailsAt definition.key (checkField platform definition (some value))) :=
      checkField_of_fits (explained.fits sound member) options
    rcases cases_ with ⟨allowed, kept⟩ | ⟨gone, fails⟩
    · exact Or.inl ⟨⟨inherited, allowed⟩, kept⟩
    · exact Or.inr ⟨fun allowed => gone allowed.2, ne_ok fails⟩

theorem eq_none_of_checkMerged (silent : incoming.lookup definition.key = none)
    (missing : stored.lookup definition.key = none) {kept : Option Value}
    (accepted : checkMerged platform incoming stored definition = .ok kept) : kept = none := by
  unfold checkMerged at accepted
  by_cases inherited : definition.key ∈ inheritedNames
  · rw [mergedValue_of_inherited silent inherited] at accepted
    have fails : FailsAt definition.key (checkField platform definition (some .function)) :=
      checkField_function
    obtain ⟨issues, is, _⟩ := fails
    rw [is] at accepted
    cases accepted
  · rw [mergedValue_of_plain silent inherited, missing] at accepted
    exact checkField_none accepted

end Unmentioned

/-! ### Updates -/

section Updates

variable {platform : Platform} {db : FieldsDb} {id : Nat} {record : FieldRecord}
  {incoming : Properties} {key : String}

theorem updateRecord_eq (found : db.records.find? id = some record) :
    updateRecord platform record.companyId record.entityType id (some incoming) db =
      (resolveValues platform record.companyId record.entityType (some incoming) record.customFields
        db).map fun resolved => { db with records := db.records.modify id fun record =>
          { record with customFields := resolved.or record.customFields } } := by
  have own : db.findRecord record.companyId record.entityType id = .ok record := by
    rw [FieldsDb.findRecord, found, Option.filter_some, if_pos (by simp)]
    rfl
  unfold updateRecord
  rw [own]
  show (resolveValues platform record.companyId record.entityType (some incoming)
    record.customFields db >>= fun resolved => _) = _
  cases resolveValues platform record.companyId record.entityType (some incoming)
    record.customFields db with
  | error refusal => rfl
  | ok resolved => rfl

theorem leavesAlone_updateRecord (found : db.records.find? id = some record) :
    LeavesAlone key id record
        (updateRecord platform record.companyId record.entityType id (some incoming) db) ↔
      match resolveValues platform record.companyId record.entityType (some incoming)
        record.customFields db with
      | .ok none => True
      | .ok (some values) => values.lookup key = record.stored.lookup key
      | .error refusal => record.stored.lookup key ≠ none → ¬refusal.names key := by
  rw [updateRecord_eq found]
  cases resolveValues platform record.companyId record.entityType (some incoming)
      record.customFields db with
  | error refusal => exact Iff.rfl
  | ok resolved =>
    have written : (db.records.modify id fun record =>
        { record with customFields := resolved.or record.customFields }).find? id =
          some { record with customFields := resolved.or record.customFields } := by
      rw [Table.find?_modify_self, found]
      rfl
    cases resolved with
    | none => exact iff_of_true ⟨_, written, rfl⟩ trivial
    | some values =>
      constructor
      · rintro ⟨row, there, same⟩
        obtain rfl := Option.some.inj (written.symm.trans there)
        exact same
      · exact fun same => ⟨_, written, same⟩

theorem checkMerged_of_found (sound : Sound db) (found : db.records.find? id = some record)
    (silent : incoming.lookup key = none) {value : Value} {definition : CustomFieldDefinition}
    (stored : record.stored.lookup key = some value)
    (member : definition ∈ findActiveByEntity record.companyId record.entityType db)
    (is : definition.key = key) :
    ((key ∉ inheritedNames ∧ StillAllowed definition value) ∧
        checkMerged platform incoming record.stored definition = .ok (some value)) ∨
      (¬(key ∉ inheritedNames ∧ StillAllowed definition value) ∧
        ∀ kept, checkMerged platform incoming record.stored definition ≠ .ok kept) := by
  subst is
  exact checkMerged_of_stored sound member
    (sound.explained id record found _ value stored (key_form_of_mem sound member)) silent stored

theorem not_names_iff (sound : Sound db) (found : db.records.find? id = some record)
    (silent : incoming.lookup key = none) {refusal : Refusal}
    (resolved : resolveValues platform record.companyId record.entityType (some incoming)
      record.customFields db = .error refusal) :
    (record.stored.lookup key ≠ none → ¬refusal.names key) ↔
      StillAccepted platform key record incoming db := by
  rcases invalid_of_resolveValues sound.nodup resolved with
    ⟨error, rfl, refused⟩ | ⟨issues, rfl, named, each⟩
  · exact iff_of_true (fun _ names => names) (Or.inl ⟨error, refused⟩)
  · constructor
    · refine fun alone => Or.inr fun value stored definition member is => ?_
      rcases checkMerged_of_found sound found silent stored member is with ⟨allowed, _⟩ | ⟨_, fails⟩
      · exact allowed
      · obtain ⟨issue, listed, head⟩ := each definition member fails
        exact absurd ⟨issue, listed, is ▸ head⟩ (alone (stored ▸ Option.some_ne_none value))
    · rintro (⟨error, refused⟩ | allowed) some_
      · cases (resolveValues_of_refused refused).symm.trans resolved
      · obtain ⟨value, stored⟩ := Option.ne_none_iff_exists'.mp some_
        rintro ⟨issue, listed, head⟩
        obtain ⟨definition, member, head', fails⟩ := named issue listed
        have is : definition.key = key := Option.some.inj (head'.symm.trans head)
        rcases checkMerged_of_found sound found silent stored member is with ⟨_, passed⟩ | ⟨gone, _⟩
        · exact fails _ passed
        · exact gone (allowed value stored definition member is)

theorem lookup_eq_iff (sound : Sound db) (found : db.records.find? id = some record)
    (silent : incoming.lookup key = none) {values : Properties}
    (written : resolveValues platform record.companyId record.entityType (some incoming)
      record.customFields db = .ok (some values)) :
    values.lookup key = record.stored.lookup key ↔
      StillAccepted platform key record incoming db := by
  have resolved := resolved_of_resolveValues sound.nodup written
  constructor
  · refine fun _ => Or.inr fun value stored definition member is => ?_
    rcases checkMerged_of_found sound found silent stored member is with ⟨allowed, _⟩ | ⟨_, fails⟩
    · exact allowed
    · exact absurd (resolved.defined definition member) (fails _)
  · rintro (⟨error, refused⟩ | allowed)
    · cases (resolveValues_of_refused refused).symm.trans written
    · by_cases defined :
        key ∈ (findActiveByEntity record.companyId record.entityType db).map (·.key)
      · obtain ⟨definition, member, is⟩ := List.mem_map.mp defined
        have passed := resolved.defined definition member
        cases stored : record.stored.lookup key with
        | none =>
          subst is
          exact eq_none_of_checkMerged silent stored passed
        | some value =>
          rcases checkMerged_of_found sound found silent stored member is with ⟨_, kept⟩ | ⟨gone, _⟩
          · exact is ▸ (Except.ok.inj (kept.symm.trans passed)).symm
          · exact absurd (allowed value stored definition member is) gone
      · exact resolved.undefined key defined

theorem stillAccepted_of_nothing (silent : incoming.lookup key = none)
    (nothing : resolveValues platform record.companyId record.entityType (some incoming)
      record.customFields db = .ok none) : StillAccepted platform key record incoming db := by
  refine Or.inr fun value stored definition member is => ?_
  subst is
  have absent := mergedValue_of_resolveValues nothing member
  by_cases inherited : definition.key ∈ inheritedNames
  · cases absent.symm.trans (mergedValue_of_inherited silent inherited)
  · cases (absent.symm.trans (mergedValue_of_plain silent inherited)).trans stored

/-- **An update leaves a field alone exactly if what is stored of it is still accepted.** -/
theorem leavesAlone_iff (sound : Sound db) (found : db.records.find? id = some record)
    (silent : incoming.lookup key = none) :
    LeavesAlone key id record (exec platform
        ⟨record.companyId, .update record.entityType id (some incoming)⟩ db) ↔
      StillAccepted platform key record incoming db := by
  show LeavesAlone key id record
    (updateRecord platform record.companyId record.entityType id (some incoming) db) ↔ _
  rw [leavesAlone_updateRecord found]
  cases resolved : resolveValues platform record.companyId record.entityType (some incoming)
      record.customFields db with
  | error refusal => exact not_names_iff sound found silent resolved
  | ok written =>
    cases written with
    | none => exact iff_of_true trivial (stillAccepted_of_nothing silent resolved)
    | some values => exact lookup_eq_iff sound found silent resolved

end Updates

/-! ### A runtime -/

theorem yearOfEra_lt {dayOfEra : Int} (low : 0 ≤ dayOfEra) (high : dayOfEra < 146097) :
    0 ≤ (dayOfEra - dayOfEra / 1460 + dayOfEra / 36524 - dayOfEra / 146096) / 365 ∧
      (dayOfEra - dayOfEra / 1460 + dayOfEra / 36524 - dayOfEra / 146096) / 365 < 400 := by
  omega

theorem day_bounds {day : Int} (low : 0 ≤ (utcDay (day * dayMs)).year)
    (high : (utcDay (day * dayMs)).year ≤ 9999) : -865565 ≤ day ∧ day < 2932957 := by
  unfold utcDay at low high
  rw [Int.mul_ediv_cancel _ (by decide)] at low high
  dsimp only at low high
  generalize days : day + 719468 = shifted at low high
  have dayOfEra : 0 ≤ shifted - shifted / 146097 * 146097 ∧
      shifted - shifted / 146097 * 146097 < 146097 := by omega
  obtain ⟨above, below⟩ := yearOfEra_lt dayOfEra.1 dayOfEra.2
  generalize (shifted - shifted / 146097 * 146097 -
    (shifted - shifted / 146097 * 146097) / 1460 + (shifted - shifted / 146097 * 146097) / 36524 -
    (shifted - shifted / 146097 * 146097) / 146096) / 365 = year at *
  constructor
  · split at low <;> omega
  · split at high <;> omega

def daysFrom (first : Int) (eras : Nat) : List Date :=
  (List.range (eras * 146097)).map fun count : Nat => (count + first) * dayMs

theorem mem_daysFrom {first day : Int} {eras : Nat} (above : first ≤ day)
    (below : day < first + eras * 146097) : day * dayMs ∈ daysFrom first eras := by
  have count : (day - first).toNat < eras * 146097 := by omega
  refine List.mem_map.mpr ⟨(day - first).toNat, List.mem_range.mpr count, ?_⟩
  rw [Int.toNat_of_nonneg (by omega), Int.sub_add_cancel]

def searching : Platform where
  parseDate := fun text => (daysFrom (-865565) 26).find? fun date => (utcDay date).text == text
  parseDate_text := by
    intro day low high
    obtain ⟨above, below⟩ := day_bounds low high
    have listed : day * dayMs ∈ daysFrom (-865565) 26 := mem_daysFrom above (by omega)
    cases found : (daysFrom (-865565) 26).find? fun date => (utcDay date).text == day.text with
    | none => exact absurd (List.find?_eq_none.mp found _ listed) (by simp [Day.text])
    | some date =>
      have same := List.find?_some found
      exact ⟨date, rfl, beq_iff_eq.mp same⟩
  numberText := fun value => toString value.num
  containsAadhaarKeyword := fun text =>
    if "aadhaar".toList <:+: text.toList.map Char.toLower then some "aadhaar" else none

/-! ### Runs -/

/-- **An update leaves a field alone exactly if what is stored of it is still accepted**, after any
edits of the definitions. -/
theorem update_local_iff (platform : Platform) (requests : List FieldRequest) {id : Nat}
    {record : FieldRecord}
    (found : (run (exec platform) {} requests).records.find? id = some record)
    {incoming : Properties} {key : String} (silent : incoming.lookup key = none) :
    LeavesAlone key id record (exec platform
        ⟨record.companyId, .update record.entityType id (some incoming)⟩
        (run (exec platform) {} requests)) ↔
      StillAccepted platform key record incoming (run (exec platform) {} requests) :=
  leavesAlone_iff (sound_of_reachable (reachable_run _ requests)) found silent

def sourceDto : CreateCustomFieldDto where
  entityType := .applicant
  key := "source"
  label := "Source"
  fieldType := .select
  options := some ["WEB", "WALK_IN"]
  key_form := rfl

def applicant : CustomFieldValueEntity := ⟨.applicant, rfl⟩

def removedOption : List FieldRequest :=
  [⟨0, .createField sourceDto⟩, ⟨0, .create applicant (some [("source", .text "WEB")])⟩,
    ⟨0, .updateField 0 { options := some ["WALK_IN"] }⟩]

def fromWeb : FieldRecord := ⟨0, applicant, some [("source", .text "WEB")]⟩

def addedOption : List FieldRequest :=
  [⟨0, .createField sourceDto⟩, ⟨0, .create applicant (some [("source", .text "WEB")])⟩,
    ⟨0, .updateField 0 { options := some ["WALK_IN", "REFERRAL", "WEB"], isRequired := some true }⟩]

/-- A choice that is still among the options stays. -/
theorem addedOption_leavesAlone :
    LeavesAlone "source" 0 fromWeb
      (exec searching ⟨0, .update applicant 0 (some [])⟩ (run (exec searching) {} addedOption)) := by
  have found : (run (exec searching) {} addedOption).records.find? 0 = some fromWeb := rfl
  have silent : ([] : Properties).lookup "source" = none := rfl
  refine (update_local_iff searching addedOption found silent).mpr (Or.inr ?_)
  intro value is definition member _
  cases is
  have one : definition ∈ [{ sourceDto.definition 0 with
      options := some ["WALK_IN", "REFERRAL", "WEB"]
      isRequired := true }] := member
  rw [List.mem_singleton.mp one]
  exact ⟨by decide, "WEB", by decide, rfl⟩

/-- **An update that does not mention the field is refused**, for the choice that is stored of it. -/
theorem removed_option_refused :
    (run (exec searching) {} removedOption).records.find? 0 = some fromWeb ∧
      ¬LeavesAlone "source" 0 fromWeb
        (exec searching ⟨0, .update applicant 0 (some [])⟩ (run (exec searching) {} removedOption)) := by
  have refused : exec searching ⟨0, .update applicant 0 (some [])⟩
      (run (exec searching) {} removedOption) = .error (.invalid [⟨["source"],
        "Invalid enum value. Expected 'WALK_IN', received 'WEB'"⟩]) := by
    rfl
  refine ⟨rfl, ?_⟩
  rw [refused]
  exact fun alone => alone nofun ⟨_, List.mem_singleton_self _, rfl⟩

end OpenEstate.CustomFields
