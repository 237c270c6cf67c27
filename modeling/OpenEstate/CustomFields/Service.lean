/-
**Definitions and values.**

An admin creates, edits, deactivates and purges the definitions of a kind of records; the values of a
record are written with it. An update brings some of the values: those that it does not bring are
taken from the record, and all of them are validated against the definitions as they are by then.
Values under names that no active definition has are kept as they are.

* `CustomFieldsService.resolveValues`: what is stored after an update, or why it is refused;
* `exec` answers requests, of which `FieldRequest` lists all that write definitions or values.
-/

import OpenEstate.CustomFields.Validation
import OpenEstate.Relational.Run
import OpenEstate.Relational.Table

namespace OpenEstate.CustomFields

open Relational
open Runtime (Value Number Properties)

/-! ### Tables -/

abbrev CustomFieldValueEntity : Type :=
  { entityType : CustomFieldEntity // supportsCustomFieldValues entityType = true }

structure FieldRecord where
  companyId : Nat
  entityType : CustomFieldValueEntity
  customFields : Option Properties := none

def FieldRecord.stored (record : FieldRecord) : Properties := record.customFields.getD []

structure FieldsDb where
  definitions : Table CustomFieldDefinition := .empty
  records : Table FieldRecord := .empty

/-! ### Requests -/

def isKey (key : String) : Bool :=
  match key.toList with
  | first :: rest => first.isLower && rest.all fun char => char.isLower || char.isDigit || char == '_'
  | [] => false

structure CreateCustomFieldDto where
  entityType : CustomFieldEntity
  key : String
  label : String
  fieldType : CustomFieldType
  isRequired : Bool := false
  options : Option (List String) := none
  defaultValue : Option String := none
  allowsTwelveDigitValues : Bool := false
  sortOrder : Nat := 0
  key_form : isKey key = true

def CreateCustomFieldDto.definition (dto : CreateCustomFieldDto) (companyId : Nat) :
    CustomFieldDefinition where
  companyId
  entityType := dto.entityType
  key := dto.key
  label := dto.label
  fieldType := dto.fieldType
  options := dto.options
  defaultValue := dto.defaultValue
  isRequired := dto.isRequired
  allowsTwelveDigitValues := dto.allowsTwelveDigitValues
  sortOrder := dto.sortOrder

structure UpdateCustomFieldDto where
  label : Option String := none
  isRequired : Option Bool := none
  options : Option (List String) := none
  defaultValue : Option String := none
  allowsTwelveDigitValues : Option Bool := none
  sortOrder : Option Nat := none

inductive ServerNote
  | leadNote | importNotes

def ServerNote.key : ServerNote → String
  | leadNote => "leadNote"
  | importNotes => "importNotes"

def UpdateCustomFieldDto.apply (dto : UpdateCustomFieldDto) (definition : CustomFieldDefinition) :
    CustomFieldDefinition :=
  { definition with
    label := dto.label.getD definition.label
    isRequired := dto.isRequired.getD definition.isRequired
    options := dto.options.or definition.options
    defaultValue := dto.defaultValue.or definition.defaultValue
    allowsTwelveDigitValues := dto.allowsTwelveDigitValues.getD definition.allowsTwelveDigitValues
    sortOrder := dto.sortOrder.getD definition.sortOrder }

def FieldRecord.strip (key : String) (record : FieldRecord) : FieldRecord :=
  { record with customFields := record.customFields.map fun stored =>
      stored.filter fun entry => entry.1 != key }

/-! ### Refusals -/

/-- Why a request is refused: an error of its own, or the issues of the values. -/
inductive Refusal
  | thrown (error : ServiceError)
  | invalid (issues : List Issue)

def Issue.text (issue : Issue) : String :=
  let path := String.intercalate "." issue.path
  "customFields." ++ (if path = "" then "(root)" else path) ++ ": " ++ issue.message

def formatCustomFieldError (issues : List Issue) : String :=
  String.intercalate "; " (issues.map Issue.text)

def Refusal.error : Refusal → ServiceError
  | thrown error => error
  | invalid issues => .badRequest (formatCustomFieldError issues)

def aadhaarKeywordError (matched : String) : String :=
  s!"Custom field names and labels can't refer to Aadhaar (matched \"{matched}\"). " ++
    if matched = "आधार" then
      "If you meant \"base\" rather than the Aadhaar card, use a different word, such as मूल."
    else "Reword the field name or label."

def aadhaarValueError (label : String) : String :=
  s!"{label}: this looks like an Aadhaar number. Don't store Aadhaar numbers in custom fields. " ++
    "If this is a different 12-digit number, such as a bank account number, an admin can allow " ++
    "12-digit values on this field."

/-! ### The definitions -/

namespace CustomFieldsService

section Definitions

variable (platform : Platform) (companyId : Nat)

def assertNoAadhaarKeyword (text : String) : Except ServiceError Unit :=
  match platform.containsAadhaarKeyword text with
  | some matched => .error (.badRequest (aadhaarKeywordError matched))
  | none => .ok ()

def assertNoAadhaarLikeDefinitionValues (label : String) (options : List String)
    (defaultValue : Option String) : Except ServiceError Unit :=
  ensure (∀ text ∈ options ++ defaultValue.toList,
      isAadhaarLikeValue platform.numberText (.text text) = false)
    (.badRequest (s!"{label}: an option or the default value looks like an Aadhaar number. " ++
      "If this field legitimately holds 12-digit numbers, tick \"Allow 12-digit values\"."))

def assertWhen (condition : Bool) (check : Except ServiceError Unit) : Except ServiceError Unit :=
  if condition then check else .ok ()

/-- The active definitions of a kind of records: those that values are validated against. -/
def findActiveByEntity (entityType : CustomFieldEntity) (db : FieldsDb) :
    List CustomFieldDefinition :=
  if supportsCustomFieldValues entityType then
    ((db.definitions.select fun _ definition => definition.companyId == companyId &&
      definition.entityType == entityType && definition.isActive).map Prod.snd).insertionSort
        fun first second => first.sortOrder ≤ second.sortOrder
  else []

def findOne (id : Nat) (db : FieldsDb) : Except ServiceError CustomFieldDefinition :=
  orThrow ((db.definitions.find? id).filter fun definition => definition.companyId == companyId)
    (.notFound "Custom field not found")

def create (dto : CreateCustomFieldDto) (db : FieldsDb) : Except ServiceError FieldsDb := do
  ensure (supportsCustomFieldValues dto.entityType = true)
    (.badRequest (s!"Custom fields are not supported for {dto.entityType.text} yet. " ++
      s!"Supported entity types: " ++
      String.intercalate ", " (valueEntities.map CustomFieldEntity.text) ++ "."))
  assertNoAadhaarKeyword platform dto.key
  assertNoAadhaarKeyword platform dto.label
  assertWhen (!dto.allowsTwelveDigitValues)
    (assertNoAadhaarLikeDefinitionValues platform dto.label (dto.options.getD []) dto.defaultValue)
  ensure (db.definitions.any (fun _ definition => definition.companyId == companyId &&
      definition.entityType == dto.entityType && definition.key == dto.key) = false)
    (.badRequest s!"Custom field \"{dto.key}\" already exists for {dto.entityType.text}")
  ensure (dto.fieldType.isChoice = true → dto.options.getD [] ≠ [])
    (.badRequest "SELECT/MULTI_SELECT fields require at least one option")
  return { db with definitions := db.definitions.create (dto.definition companyId) }

/-- A field that may hold numbers of twelve digits has no name that refers to Aadhaar. -/
def assertMayAllow (existing : CustomFieldDefinition) (label : String) :
    Except ServiceError Unit :=
  match (platform.containsAadhaarKeyword existing.key).or (platform.containsAadhaarKeyword label) with
  | some matched => .error (.badRequest (
      s!"A field whose name or label refers to Aadhaar (matched \"{matched}\") can't allow " ++
        "12-digit values."))
  | none => .ok ()

def update (id : Nat) (dto : UpdateCustomFieldDto) (db : FieldsDb) :
    Except ServiceError FieldsDb := do
  let existing ← findOne companyId id db
  ensure (dto.options = some [] → existing.fieldType.isChoice = false)
    (.badRequest ("SELECT/MULTI_SELECT fields require at least one option. " ++
      "Deactivate the field instead if it is no longer in use."))
  let label := dto.label.getD existing.label
  assertWhen (dto.label.isSome && label != existing.label) (assertNoAadhaarKeyword platform label)
  assertWhen (dto.allowsTwelveDigitValues == some true && !existing.allowsTwelveDigitValues)
    (assertMayAllow platform existing label)
  assertWhen (!dto.allowsTwelveDigitValues.getD existing.allowsTwelveDigitValues)
    (assertNoAadhaarLikeDefinitionValues platform label
      ((dto.options.getD []).filter fun option => decide (option ∉ existing.opts))
      (if dto.defaultValue = existing.defaultValue then none else dto.defaultValue))
  return { db with definitions := db.definitions.modify id dto.apply }

def remove (id : Nat) (db : FieldsDb) : Except ServiceError FieldsDb := do
  let _ ← findOne companyId id db
  return { db with definitions := db.definitions.modify id fun definition =>
    { definition with isActive := false } }

def purge (id : Nat) (confirmKey : String) (db : FieldsDb) : Except ServiceError FieldsDb := do
  let definition ← findOne companyId id db
  ensure (confirmKey = definition.key) (.badRequest
    (s!"Confirmation does not match. Type the field key \"{definition.key}\" exactly to " ++
      "permanently delete it and all of its stored values."))
  return { db with
    records := db.records.modifyAll
      (fun _ record => record.companyId == companyId &&
        record.entityType.val == definition.entityType)
      (FieldRecord.strip definition.key)
    definitions := db.definitions.delete fun key _ => key == id }

end Definitions

/-! ### Values -/

section Values

variable (platform : Platform)

def checkIncoming (entityType : CustomFieldEntity) (definitions : List CustomFieldDefinition)
    (incoming : Properties) : Except ServiceError Unit :=
  let extra := (incoming.map Prod.fst).filter fun key => decide (key ∉ definitions.map (·.key))
  ensure (extra = []) (.badRequest (
    if definitions = [] then s!"No active custom fields are defined for {entityType.text}"
    else s!"Unrecognized custom field(s) for {entityType.text}: " ++ String.intercalate ", " extra))

def sameScalar : Value → Option Value → Bool
  | .text brought, some (.text stored) => brought == stored
  | .number brought, some (.number stored) => brought == stored
  | _, _ => false

def guardField (incoming stored : Properties) (definition : CustomFieldDefinition) :
    Except ServiceError Unit :=
  match incoming.get definition.key with
  | some value =>
    if definition.allowsTwelveDigitValues || definition.fieldType ∉ [.text, .number] ||
        sameScalar value (stored.get definition.key) then .ok ()
    else ensure (isAadhaarLikeValue platform.numberText value = false)
      (.badRequest (aadhaarValueError definition.label))
  | none => .ok ()

def acceptIncoming (entityType : CustomFieldEntity) (definitions : List CustomFieldDefinition)
    (incoming stored : Properties) : Except ServiceError Unit := do
  checkIncoming entityType definitions incoming
  forEach definitions (guardField platform incoming stored)

def preserved (definitions : List CustomFieldDefinition) (stored : Properties) : Properties :=
  stored.filter fun entry => decide (entry.1 ∉ definitions.map (·.key))

def mergedValue (incoming stored : Properties) (key : String) : Option Value :=
  (incoming.get key).or (stored.get key)

def mergedDefined (definitions : List CustomFieldDefinition) (incoming stored : Properties) :
    Properties :=
  definitions.filterMap fun definition =>
    (mergedValue incoming stored definition.key).map fun value => (definition.key, value)

def resolveValues (companyId : Nat) (entityType : CustomFieldEntity) (incoming : Option Properties)
    (customFields : Option Properties) (db : FieldsDb) : Except Refusal (Option Properties) :=
  let definitions := findActiveByEntity companyId entityType db
  let stored := customFields.getD []
  match incoming.elim (.ok ()) (acceptIncoming platform entityType definitions · stored) with
  | .error error => .error (.thrown error)
  | .ok _ =>
    let kept := preserved definitions stored
    let values := mergedDefined definitions (incoming.getD []) stored
    if definitions = [] then .ok (if kept = [] then none else some kept)
    else if values = [] ∧ kept = [] ∧ definitions.all (!·.isRequired) then .ok none
    else
      match validateCustomFieldValues platform definitions values with
      | .error issues => .error (.invalid issues)
      | .ok validated => .ok (some (kept ++ validated))

def resolveValuesForWrite (companyId : Nat) (entityType : CustomFieldEntity)
    (incoming customFields : Option Properties) (db : FieldsDb) :
    Except ServiceError (Option Properties) :=
  (resolveValues platform companyId entityType incoming customFields db).mapError Refusal.error

end Values

end CustomFieldsService

/-! ### Runs -/

/-- A request that writes definitions or values. An update without values leaves the column alone. -/
inductive FieldOp
  | createField (dto : CreateCustomFieldDto)
  | updateField (id : Nat) (dto : UpdateCustomFieldDto)
  | removeField (id : Nat)
  | purgeField (id : Nat) (confirmKey : String)
  | create (entityType : CustomFieldValueEntity) (incoming : Option Properties)
  | createWithNote (note : ServerNote) (text : String)
  | update (entityType : CustomFieldValueEntity) (id : Nat) (incoming : Option Properties)

structure FieldRequest where
  companyId : Nat
  op : FieldOp

def CustomFieldEntity.notFound : CustomFieldEntity → ServiceError
  | inquiry => .notFound "Inquiry not found"
  | booking => .notFound "Booking not found"
  | unit => .notFound "Unit not found"
  | project => .notFound "Project not found"
  | applicant => .notFound "Applicant not found"

def FieldsDb.findRecord (companyId : Nat) (entityType : CustomFieldValueEntity) (id : Nat)
    (db : FieldsDb) : Except ServiceError FieldRecord :=
  orThrow ((db.records.find? id).filter fun record =>
    record.companyId == companyId && record.entityType == entityType) entityType.val.notFound

section Exec

variable (platform : Platform) (companyId : Nat)

def createRecord (entityType : CustomFieldValueEntity) (incoming : Option Properties)
    (db : FieldsDb) : Except Refusal FieldsDb := do
  let customFields ← CustomFieldsService.resolveValues platform companyId entityType incoming none db
  return { db with records := db.records.create { companyId, entityType, customFields } }

/-- Inquiries that are not typed in have only a note, in which numbers have been blotted out. -/
def createWithNote (note : ServerNote) (text : String) (db : FieldsDb) : FieldsDb :=
  let customFields := if text = "" then none else some [(note.key, .text text)]
  { db with records := db.records.create { companyId, entityType := ⟨.inquiry, rfl⟩, customFields } }

def updateRecord (entityType : CustomFieldValueEntity) (id : Nat) (incoming : Option Properties)
    (db : FieldsDb) : Except Refusal FieldsDb := do
  let record ← (db.findRecord companyId entityType id).mapError .thrown
  match incoming with
  | none => return db
  | some incoming =>
    let resolved ← CustomFieldsService.resolveValues platform companyId entityType (some incoming)
      record.customFields db
    return { db with records := db.records.modify id fun record =>
      { record with customFields := resolved.or record.customFields } }

def exec (request : FieldRequest) (db : FieldsDb) : Except Refusal FieldsDb :=
  match request.op with
  | .createField dto =>
    (CustomFieldsService.create platform request.companyId dto db).mapError .thrown
  | .updateField id dto =>
    (CustomFieldsService.update platform request.companyId id dto db).mapError .thrown
  | .removeField id => (CustomFieldsService.remove request.companyId id db).mapError .thrown
  | .purgeField id confirmKey =>
    (CustomFieldsService.purge request.companyId id confirmKey db).mapError .thrown
  | .create entityType incoming => createRecord platform request.companyId entityType incoming db
  | .createWithNote note text => .ok (createWithNote request.companyId note text db)
  | .update entityType id incoming =>
    updateRecord platform request.companyId entityType id incoming db

end Exec

end OpenEstate.CustomFields
