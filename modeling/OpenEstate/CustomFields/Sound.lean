/-
**What is stored has a definition.**

However definitions are edited, those of a kind of records have different keys, their types stay, and
those of choices have options. Each value that is stored, apart from the notes of the server, has a
definition, active or not, whose type it fits: `sound_of_reachable`.
-/

import OpenEstate.CustomFields.Resolved

namespace OpenEstate.CustomFields

open Relational
open CustomFieldsService
open Runtime (Value Properties lookup_filter)

/-! ### The invariant -/

def Explained (db : FieldsDb) (companyId : Nat) (entityType : CustomFieldEntity) (key : String)
    (value : Value) : Prop :=
  ∃ id definition, db.definitions.find? id = some definition ∧ definition.companyId = companyId ∧
    definition.entityType = entityType ∧ definition.key = key ∧ Fits definition.fieldType value

structure Sound (db : FieldsDb) : Prop where
  distinct : ∀ first second early late, db.definitions.find? first = some early →
    db.definitions.find? second = some late → early.companyId = late.companyId →
      early.entityType = late.entityType → early.key = late.key → first = second
  key_form : db.definitions.All fun definition => isKey definition.key = true
  choices : db.definitions.All fun definition =>
    definition.fieldType.isChoice = true → definition.opts ≠ []
  explained : ∀ id record, db.records.find? id = some record → ∀ key value,
    record.stored.lookup key = some value → isKey key = true →
      Explained db record.companyId record.entityType key value

theorem isKey_note (note : ServerNote) : isKey note.key = false := by
  cases note <;> rfl

/-! ### Active definitions -/

section Active

variable {db : FieldsDb} {companyId : Nat} {entityType : CustomFieldEntity}
  {definition : CustomFieldDefinition}

theorem mem_findActiveByEntity (supported : supportsCustomFieldValues entityType = true) :
    definition ∈ findActiveByEntity companyId entityType db ↔
      ∃ id, db.definitions.find? id = some definition ∧ definition.companyId = companyId ∧
        definition.entityType = entityType ∧ definition.isActive = true := by
  unfold findActiveByEntity
  rw [if_pos supported, List.mem_insertionSort, List.mem_map]
  constructor
  · rintro ⟨⟨id, row⟩, selected, rfl⟩
    obtain ⟨found, kept⟩ := Table.mem_select.mp selected
    simp only [Bool.and_eq_true, beq_iff_eq] at kept
    exact ⟨id, found, kept.1.1, kept.1.2, kept.2⟩
  · rintro ⟨id, found, rfl, rfl, active⟩
    exact ⟨(id, definition), Table.mem_select.mpr ⟨found, by simp [active]⟩, rfl⟩

theorem exists_of_mem_findActiveByEntity
    (member : definition ∈ findActiveByEntity companyId entityType db) :
    ∃ id, db.definitions.find? id = some definition ∧ definition.companyId = companyId ∧
      definition.entityType = entityType := by
  by_cases supported : supportsCustomFieldValues entityType = true
  · obtain ⟨id, found, company, entity, _⟩ := (mem_findActiveByEntity supported).mp member
    exact ⟨id, found, company, entity⟩
  · rw [findActiveByEntity, if_neg supported] at member
    cases member

theorem Sound.nodup (sound : Sound db) :
    ((findActiveByEntity companyId entityType db).map (·.key)).Nodup := by
  unfold findActiveByEntity
  split
  · rw [((List.perm_insertionSort _ _).map _).nodup_iff, List.map_map, List.Nodup, List.pairwise_map]
    refine ((db.definitions.ascending.filter _).imp_of_mem ?_)
    rintro ⟨first, early⟩ ⟨second, late⟩ one other less same
    have listed : ∀ {id definition}, (id, definition) ∈ db.definitions.select (fun _ definition =>
        definition.companyId == companyId && definition.entityType == entityType &&
          definition.isActive) → db.definitions.find? id = some definition ∧
          definition.companyId = companyId ∧ definition.entityType = entityType := by
      intro id definition selected
      obtain ⟨found, kept⟩ := Table.mem_select.mp selected
      simp only [Bool.and_eq_true, beq_iff_eq] at kept
      exact ⟨found, kept.1⟩
    obtain ⟨found, company, entity⟩ := listed one
    obtain ⟨found', company', entity'⟩ := listed other
    have id := sound.distinct first second early late found found' (company.trans company'.symm)
      (entity.trans entity'.symm) same
    exact absurd id (Nat.ne_of_lt less)
  · exact List.nodup_nil

end Active

/-! ### Steps -/

section Steps

variable {platform : Platform} {companyId id : Nat} {db after : FieldsDb}
variable {incoming : Option Properties}

theorem explained_of_resolveValues (sound : Sound db) {entityType : CustomFieldEntity}
    {customFields : Option Properties} {values : Properties}
    (stored : ∀ key value, (customFields.getD []).lookup key = some value → isKey key = true →
      Explained db companyId entityType key value)
    (accepted : resolveValues platform companyId entityType incoming customFields db =
      .ok (some values)) :
    ∀ key value, values.lookup key = some value → isKey key = true →
      Explained db companyId entityType key value := by
  intro key value found form
  have resolved := resolved_of_resolveValues sound.nodup accepted
  by_cases defined : key ∈ (findActiveByEntity companyId entityType db).map (·.key)
  · obtain ⟨definition, member, rfl⟩ := List.mem_map.mp defined
    have passed := resolved.defined definition member
    rw [found] at passed
    obtain ⟨id, there, company, entity⟩ := exists_of_mem_findActiveByEntity member
    exact ⟨id, definition, there, company, entity, rfl, fits_of_checkField passed⟩
  · exact stored key value ((resolved.undefined key defined).symm.trans found) form

theorem Explained.of_kept {entityType : CustomFieldEntity} {key : String} {value : Value}
    (kept : ∀ id definition, db.definitions.find? id = some definition →
      definition.companyId = companyId → definition.entityType = entityType →
      definition.key = key → ∃ later, after.definitions.find? id = some later ∧
        later.companyId = companyId ∧ later.entityType = entityType ∧ later.key = key ∧
        later.fieldType = definition.fieldType)
    (explained : Explained db companyId entityType key value) :
    Explained after companyId entityType key value := by
  obtain ⟨id, definition, found, company, entity, named, fits⟩ := explained
  obtain ⟨later, found, company, entity, named, type⟩ :=
    kept id definition found company entity named
  exact ⟨id, later, found, company, entity, named, type ▸ fits⟩

theorem Sound.of_records (sound : Sound db) {records : Table FieldRecord}
    (explained : ∀ id record, records.find? id = some record → ∀ key value,
      record.stored.lookup key = some value → isKey key = true →
        Explained db record.companyId record.entityType key value) :
    Sound { db with records } where
  distinct := sound.distinct
  key_form := sound.key_form
  choices := sound.choices
  explained := explained

theorem lookup_strip (record : FieldRecord) (key name : String) :
    (record.strip key).stored.lookup name =
      if name = key then none else record.stored.lookup name := by
  have stored : (record.strip key).stored = record.stored.filter fun entry => entry.1 != key := by
    unfold FieldRecord.stored FieldRecord.strip
    cases record.customFields <;> rfl
  rw [stored, lookup_filter record.stored (fun name => name != key) name]
  by_cases same : name = key <;> simp [same]

theorem findOne_eq_ok {definition : CustomFieldDefinition}
    (found : findOne companyId id db = .ok definition) :
    db.definitions.find? id = some definition ∧ definition.companyId = companyId := by
  obtain ⟨there, own⟩ := Option.filter_eq_some_iff.mp (orThrow_eq_ok.mp found)
  exact ⟨there, beq_iff_eq.mp own⟩

theorem Sound.create (sound : Sound db) {dto : CreateCustomFieldDto}
    (accepted : CustomFieldsService.create platform companyId dto db = .ok after) : Sound after := by
  obtain ⟨_, _, accepted⟩ := bind_eq_ok.mp accepted
  obtain ⟨_, _, accepted⟩ := bind_eq_ok.mp accepted
  obtain ⟨_, _, accepted⟩ := bind_eq_ok.mp accepted
  obtain ⟨_, _, accepted⟩ := bind_eq_ok.mp accepted
  obtain ⟨_, fresh, accepted⟩ := bind_eq_ok.mp accepted
  obtain ⟨_, options, accepted⟩ := bind_eq_ok.mp accepted
  cases accepted
  have fresh := Table.any_eq_false.mp (ensure_eq_ok.mp fresh)
  have options := ensure_eq_ok.mp options
  have new : ∀ {id definition}, db.definitions.find? id = some definition →
      definition.companyId = companyId → definition.entityType = dto.entityType →
        definition.key ≠ dto.key := by
    intro id definition found company entity named
    have absent := fresh id definition found
    simp [company, entity, named] at absent
  refine ⟨?_, Table.all_create.mpr ⟨sound.key_form, dto.key_form⟩,
    Table.all_create.mpr ⟨sound.choices, options⟩, ?_⟩
  · intro first second early late one other company entity named
    rcases Table.find?_create_eq_some.mp one with ⟨rfl, rfl⟩ | one
    · rcases Table.find?_create_eq_some.mp other with ⟨rfl, rfl⟩ | other
      · rfl
      · exact absurd named.symm (new other company.symm entity.symm)
    · rcases Table.find?_create_eq_some.mp other with ⟨rfl, rfl⟩ | other
      · exact absurd named (new one company entity)
      · exact sound.distinct first second early late one other company entity named
  · intro id record found key value stored form
    refine (sound.explained id record found key value stored form).of_kept ?_
    intro id definition there company entity named
    exact ⟨definition, Table.find?_create_old _ there, company, entity, named, rfl⟩

theorem Sound.modify (sound : Sound db) {change : CustomFieldDefinition → CustomFieldDefinition}
    (company : ∀ definition, (change definition).companyId = definition.companyId)
    (entity : ∀ definition, (change definition).entityType = definition.entityType)
    (named : ∀ definition, (change definition).key = definition.key)
    (type : ∀ definition, (change definition).fieldType = definition.fieldType)
    (options : ∀ definition, db.definitions.find? id = some definition →
      definition.fieldType.isChoice = true → definition.opts ≠ [] → (change definition).opts ≠ []) :
    Sound { db with definitions := db.definitions.modify id change } := by
  have earlier : ∀ {key later}, (db.definitions.modify id change).find? key = some later →
      ∃ definition, db.definitions.find? key = some definition ∧
        (later = definition ∨ key = id ∧ later = change definition) := by
    intro key later found
    rcases Table.find?_modify_eq_some.mp found with ⟨rfl, definition, there, rfl⟩ | ⟨_, there⟩
    · exact ⟨definition, there, Or.inr ⟨rfl, rfl⟩⟩
    · exact ⟨later, there, Or.inl rfl⟩
  have same : ∀ {later definition : CustomFieldDefinition} {key : Nat},
      (later = definition ∨ key = id ∧ later = change definition) →
        later.companyId = definition.companyId ∧ later.entityType = definition.entityType ∧
          later.key = definition.key ∧ later.fieldType = definition.fieldType := by
    rintro later definition _ (rfl | ⟨_, rfl⟩)
    · exact ⟨rfl, rfl, rfl, rfl⟩
    · exact ⟨company _, entity _, named _, type _⟩
  refine ⟨?_, ?_, ?_, ?_⟩
  · intro first second early late one other sameCompany sameEntity sameKey
    obtain ⟨early', one, was⟩ := earlier one
    obtain ⟨late', other, was'⟩ := earlier other
    obtain ⟨company, entity, named, _⟩ := same was
    obtain ⟨company', entity', named', _⟩ := same was'
    exact sound.distinct first second early' late' one other
      (company.symm.trans (sameCompany.trans company'))
      (entity.symm.trans (sameEntity.trans entity')) (named.symm.trans (sameKey.trans named'))
  · intro key later found
    obtain ⟨definition, there, was⟩ := earlier found
    rw [(same was).2.2.1]
    exact sound.key_form key definition there
  · intro key later found choice
    obtain ⟨definition, there, rfl | ⟨rfl, rfl⟩⟩ := earlier found
    · exact sound.choices key later there choice
    · rw [type] at choice
      exact options definition there choice (sound.choices key definition there choice)
  · intro key record found name value stored form
    refine (sound.explained key record found name value stored form).of_kept ?_
    intro key definition there ownCompany ownEntity ownKey
    by_cases here : key = id
    · subst here
      refine ⟨change definition, ?_, (company _).trans ownCompany, (entity _).trans ownEntity,
        (named _).trans ownKey, type _⟩
      rw [Table.find?_modify_self, there]
      rfl
    · exact ⟨definition, (Table.find?_modify_of_ne _ _ here).trans there, ownCompany, ownEntity, ownKey,
        rfl⟩

theorem Sound.update (sound : Sound db) {dto : UpdateCustomFieldDto}
    (accepted : CustomFieldsService.update platform companyId id dto db = .ok after) :
    Sound after := by
  obtain ⟨existing, found, accepted⟩ := bind_eq_ok.mp accepted
  obtain ⟨_, options, accepted⟩ := bind_eq_ok.mp accepted
  obtain ⟨_, _, accepted⟩ := bind_eq_ok.mp accepted
  obtain ⟨_, _, accepted⟩ := bind_eq_ok.mp accepted
  obtain ⟨_, _, accepted⟩ := bind_eq_ok.mp accepted
  cases accepted
  have options := ensure_eq_ok.mp options
  obtain ⟨there, _⟩ := findOne_eq_ok found
  refine sound.modify (fun _ => rfl) (fun _ => rfl) (fun _ => rfl) (fun _ => rfl) ?_
  intro definition found choice some_
  obtain rfl : existing = definition := Option.some.inj (there.symm.trans found)
  show (dto.options.or existing.options).getD [] ≠ []
  cases brought : dto.options with
  | none => exact some_
  | some list =>
    rintro (rfl : list = [])
    have none_ := options brought
    rw [choice] at none_
    cases none_

theorem Sound.remove (sound : Sound db)
    (accepted : CustomFieldsService.remove companyId id db = .ok after) : Sound after := by
  obtain ⟨_, _, accepted⟩ := bind_eq_ok.mp accepted
  cases accepted
  exact sound.modify (fun _ => rfl) (fun _ => rfl) (fun _ => rfl) (fun _ => rfl)
    fun _ _ _ some_ => some_

theorem Sound.purge (sound : Sound db) {confirmKey : String}
    (accepted : CustomFieldsService.purge companyId id confirmKey db = .ok after) : Sound after := by
  obtain ⟨purged, found, accepted⟩ := bind_eq_ok.mp accepted
  obtain ⟨_, _, accepted⟩ := bind_eq_ok.mp accepted
  cases accepted
  obtain ⟨there, own⟩ := findOne_eq_ok found
  have earlier : ∀ {key definition},
      (db.definitions.delete fun key _ => key == id).find? key = some definition →
        db.definitions.find? key = some definition := by
    intro key definition found
    rw [Table.find?_delete] at found
    exact (Option.filter_eq_some_iff.mp found).1
  refine ⟨fun first second early late one other =>
      sound.distinct first second early late (earlier one) (earlier other),
    fun key definition found => sound.key_form key definition (earlier found),
    fun key definition found => sound.choices key definition (earlier found), ?_⟩
  intro key record found name value stored form
  rw [Table.find?_modifyAll] at found
  obtain ⟨before, was, is⟩ := Option.map_eq_some_iff.mp found
  have other : ∀ definition, db.definitions.find? id = some definition →
      definition.companyId = before.companyId → definition.entityType = before.entityType →
        definition.key ≠ name := by
    intro definition found company entity named
    obtain rfl : purged = definition := Option.some.inj (there.symm.trans found)
    rw [if_pos (by simp [← company, ← entity, own])] at is
    rw [← is, lookup_strip, if_pos named.symm] at stored
    cases stored
  have same : record.companyId = before.companyId ∧ record.entityType = before.entityType ∧
      before.stored.lookup name = some value := by
    split at is
    · rw [← is, lookup_strip] at stored
      split at stored
      · cases stored
      · exact is ▸ ⟨rfl, rfl, stored⟩
    · exact is ▸ ⟨rfl, rfl, is ▸ stored⟩
  rw [same.1, same.2.1]
  obtain ⟨key, definition, found, company, entity, named, fits⟩ :=
    sound.explained key before was name value same.2.2 form
  refine ⟨key, definition, ?_, company, entity, named, fits⟩
  rw [Table.find?_delete, found]
  refine Option.filter_eq_some_iff.mpr ⟨rfl, ?_⟩
  have different : key ≠ id := by
    intro same
    exact other definition (same ▸ found) company entity named
  simpa using different

variable {entityType : CustomFieldValueEntity}

theorem FieldsDb.findRecord_eq_ok {record : FieldRecord}
    (found : db.findRecord companyId entityType id = .ok record) :
    db.records.find? id = some record ∧ record.companyId = companyId ∧
      record.entityType = entityType := by
  obtain ⟨there, own⟩ := Option.filter_eq_some_iff.mp (orThrow_eq_ok.mp found)
  simp only [Bool.and_eq_true, beq_iff_eq] at own
  exact ⟨there, own⟩

theorem Sound.createRecord (sound : Sound db)
    (accepted : CustomFields.createRecord platform companyId entityType incoming db = .ok after) :
    Sound after := by
  obtain ⟨customFields, resolved, accepted⟩ := bind_eq_ok.mp accepted
  cases accepted
  refine sound.of_records fun key record found name value stored form => ?_
  rcases Table.find?_create_eq_some.mp found with ⟨_, rfl⟩ | old
  · cases customFields with
    | none => cases stored
    | some values =>
      have nothing : ∀ key value, ((none : Option Properties).getD []).lookup key = some value →
          isKey key = true → Explained db companyId entityType key value := by
        intro key value impossible
        cases impossible
      exact explained_of_resolveValues sound nothing resolved name value stored form
  · exact sound.explained key record old name value stored form

theorem Sound.createWithNote (sound : Sound db) (note : ServerNote) (text : String) :
    Sound (CustomFields.createWithNote companyId note text db) := by
  refine sound.of_records fun key record found name value stored form => ?_
  rcases Table.find?_create_eq_some.mp found with ⟨_, rfl⟩ | old
  · by_cases empty : text = ""
    · rw [FieldRecord.stored, if_pos empty] at stored
      cases stored
    · rw [FieldRecord.stored, if_neg empty] at stored
      by_cases named : name = note.key
      · rw [named, isKey_note] at form
        cases form
      · simp [List.lookup_cons, beq_false_of_ne named] at stored
  · exact sound.explained key record old name value stored form

theorem Sound.updateRecord (sound : Sound db)
    (accepted : CustomFields.updateRecord platform companyId entityType id incoming db = .ok after) :
    Sound after := by
  obtain ⟨record, found, accepted⟩ := bind_eq_ok.mp accepted
  obtain ⟨there, rfl, rfl⟩ := FieldsDb.findRecord_eq_ok (mapError_eq_ok.mp found)
  cases incoming with
  | none =>
    cases accepted
    exact sound
  | some incoming =>
    obtain ⟨resolved, was, accepted⟩ := bind_eq_ok.mp accepted
    cases accepted
    refine sound.of_records fun key row found name value stored form => ?_
    rcases Table.find?_modify_eq_some.mp found with ⟨rfl, before, there', rfl⟩ | ⟨_, there'⟩
    · obtain rfl : record = before := Option.some.inj (there.symm.trans there')
      cases resolved with
      | none => exact sound.explained key record there name value stored form
      | some values =>
        exact explained_of_resolveValues sound (sound.explained key record there) was name value
          stored form
    · exact sound.explained key row there' name value stored form

theorem sound_exec (sound : Sound db) {request : FieldRequest}
    (accepted : exec platform request db = .ok after) : Sound after := by
  unfold exec at accepted
  split at accepted
  · exact sound.create (mapError_eq_ok.mp accepted)
  · exact sound.update (mapError_eq_ok.mp accepted)
  · exact sound.remove (mapError_eq_ok.mp accepted)
  · exact sound.purge (mapError_eq_ok.mp accepted)
  · exact sound.createRecord accepted
  · cases accepted
    exact sound.createWithNote _ _
  · exact sound.updateRecord accepted

end Steps

theorem sound_of_reachable {platform : Platform} {db : FieldsDb}
    (reachable : Reachable (exec platform) {} db) : Sound db := by
  refine reachable.invariant ⟨?_, Table.All.empty, Table.All.empty, ?_⟩
    fun _ _ _ sound accepted => sound_exec sound accepted
  · intro first _ _ _ found
    cases (Table.find?_empty first).symm.trans found
  · intro id _ found
    cases (Table.find?_empty id).symm.trans found

end OpenEstate.CustomFields
