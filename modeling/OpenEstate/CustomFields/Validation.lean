/-
**Values of custom fields.**

A definition says of which type the values of a field are. All fields of a record are validated
together, and the issues of all of them are reported.

* `checkField`: what a definition makes of a value, or of its absence;
* `validateCustomFieldValues`: the values of a record, against the definitions of its kind;
* `Fits` is what a value that has been accepted is, whatever becomes of the definition;
* `checkField_of_fits`: what a later check makes of it.
-/

import OpenEstate.CustomFields.AadhaarGuard
import OpenEstate.Shared.FinancialYear

namespace OpenEstate.CustomFields

open Relational
open Runtime (Value Number Properties inheritedNames)

/-! ### Definitions -/

inductive CustomFieldType
  | text | number | date | boolean | select | multiSelect
  deriving DecidableEq

def CustomFieldType.isChoice : CustomFieldType → Bool
  | select | multiSelect => true
  | _ => false

inductive CustomFieldEntity
  | inquiry | booking | unit | project | applicant
  deriving DecidableEq

def CustomFieldEntity.text : CustomFieldEntity → String
  | inquiry => "INQUIRY"
  | booking => "BOOKING"
  | unit => "UNIT"
  | project => "PROJECT"
  | applicant => "APPLICANT"

def valueEntities : List CustomFieldEntity := [.inquiry, .unit, .project, .applicant]

def supportsCustomFieldValues (entityType : CustomFieldEntity) : Bool := entityType ∈ valueEntities

structure CustomFieldDefinition where
  companyId : Nat
  entityType : CustomFieldEntity
  key : String
  label : String
  fieldType : CustomFieldType
  options : Option (List String) := none
  defaultValue : Option String := none
  isRequired : Bool := false
  allowsTwelveDigitValues : Bool := false
  sortOrder : Nat := 0
  isActive : Bool := true

def CustomFieldDefinition.opts (definition : CustomFieldDefinition) : List String :=
  definition.options.getD []

/-! ### Issues -/

structure Issue where
  path : List String
  message : String
  deriving DecidableEq

abbrev Checked (α : Type) : Type := Except (List Issue) α

def issue {α : Type} (path : List String) (message : String) : Checked α :=
  .error [⟨path, message⟩]

def unexpected {α : Type} (path : List String) (expected : String) : Option Value → Checked α
  | none => issue path "Required"
  | some value => issue path s!"Expected {expected}, received {value.typeName}"

/-! ### Dates -/

/-- **What the runtime makes of texts and numbers.** The text of a day of a year of four digits is a
moment of that day; what other texts are is up to the runtime. -/
structure Platform where
  parseDate : String → Option Date
  parseDate_text : ∀ day : Day, 0 ≤ (utcDay (day * dayMs)).year → (utcDay (day * dayMs)).year ≤ 9999 →
    ∃ date, parseDate day.text = some date ∧ (utcDay date).text = day.text
  numberText : ℚ → String
  containsAadhaarKeyword : String → Option String

/-- Whether a text begins with a date of four, two and two digits, and goes on with a time or not. -/
def isIsoShaped (text : String) : Bool :=
  match text.toList with
  | y1 :: y2 :: y3 :: y4 :: '-' :: m1 :: m2 :: '-' :: d1 :: d2 :: rest =>
    [y1, y2, y3, y4, m1, m2, d1, d2].all Char.isDigit &&
      (rest.isEmpty || rest.head? == some 'T' &&
        rest.all fun char => char.toNat ∉ [0xA, 0xD, 0x2028, 0x2029])
  | _ => false

/-! ### Checks -/

section Checks

variable (platform : Platform)

def checkText (path : List String) : Option Value → Checked Value
  | some (.text content) =>
    if Runtime.length content < 1 then issue path "String must contain at least 1 character(s)"
    else if 1000 < Runtime.length content then
      issue path "String must contain at most 1000 character(s)"
    else .ok (.text content)
  | value => unexpected path "string" value

def checkNumber (path : List String) : Option Value → Checked Value
  | some (.number (.finite value)) => .ok (.number (.finite value))
  | some (.number (.infinite _)) => issue path "Number must be finite"
  | value => unexpected path "number" value

def checkDate (path : List String) : Option Value → Checked Value
  | some (.text content) =>
    if isIsoShaped content then
      match platform.parseDate content with
      | some date => .ok (.text (utcDay date).text)
      | none => issue path "Invalid date"
    else issue path "Date must be ISO-8601 (YYYY-MM-DD)"
  | _ => issue path "Invalid input"

def checkBoolean (path : List String) : Option Value → Checked Value
  | some (.boolean value) => .ok (.boolean value)
  | value => unexpected path "boolean" value

def joinValues (options : List String) : String :=
  String.intercalate " | " (options.map fun option => s!"'{option}'")

def checkEnum (options : List String) (path : List String) : Option Value → Checked Value
  | some (.text content) =>
    if content ∈ options then .ok (.text content)
    else issue path
      s!"Invalid enum value. Expected {joinValues options}, received '{content}'"
  | value => unexpected path (joinValues options) value

def elementIssues (options : List String) (path : List String) (elements : List Value) :
    List Issue :=
  elements.zipIdx.flatMap fun element =>
    match checkEnum options (path ++ [toString element.2]) (some element.1) with
    | .ok _ => []
    | .error issues => issues

def checkArray (options : List String) (path : List String) : Option Value → Checked Value
  | some (.array elements) =>
    if elementIssues options path elements = [] then .ok (.array elements)
    else .error (elementIssues options path elements)
  | value => unexpected path "array" value

def schemaForType (definition : CustomFieldDefinition) (value : Option Value) : Checked Value :=
  match definition.fieldType with
  | .text => checkText [definition.key] value
  | .number => checkNumber [definition.key] value
  | .date => checkDate platform [definition.key] value
  | .boolean => checkBoolean [definition.key] value
  | .select =>
    if 0 < definition.opts.length then checkEnum definition.opts [definition.key] value
    else unexpected [definition.key] "never" value
  | .multiSelect =>
    if 0 < definition.opts.length then checkArray definition.opts [definition.key] value
    else unexpected [definition.key] "never" value

def checkField (definition : CustomFieldDefinition) (value : Option Value) :
    Checked (Option Value) :=
  if !definition.isRequired && value.isNone then .ok none
  else some <$> schemaForType platform definition value

def unrecognized (definitions : List CustomFieldDefinition) (values : Properties) : List Issue :=
  let extra := (values.map Prod.fst).filter fun key => key ∉ definitions.map (·.key)
  if extra = [] then []
  else [⟨[], "Unrecognized key(s) in object: " ++
    String.intercalate ", " (extra.map fun key => s!"'{key}'")⟩]

def fieldIssues (definition : CustomFieldDefinition) (values : Properties) : List Issue :=
  match checkField platform definition (values.get definition.key) with
  | .ok _ => []
  | .error issues => issues

def fieldValue (definition : CustomFieldDefinition) (values : Properties) : Option Value :=
  match checkField platform definition (values.get definition.key) with
  | .ok value => value
  | .error _ => none

def validateCustomFieldValues (definitions : List CustomFieldDefinition) (values : Properties) :
    Checked Properties :=
  let issues := definitions.flatMap (fieldIssues platform · values) ++ unrecognized definitions values
  if issues = [] then
    .ok (definitions.filterMap fun definition =>
      (fieldValue platform definition values).map fun value => (definition.key, value))
  else .error issues

end Checks

/-! ### Issues name their field -/

section Issues

variable {platform : Platform} {definition : CustomFieldDefinition} {values : Properties}

/-- Whether a check fails with issues that are all at a field, of which there is one. -/
def FailsAt {α : Type} (key : String) (checked : Checked α) : Prop :=
  ∃ issues, checked = .error issues ∧ issues ≠ [] ∧ ∀ issue ∈ issues, issue.path.head? = some key

def OkOrAt {α : Type} (key : String) (checked : Checked α) : Prop :=
  (∃ value, checked = .ok value) ∨ FailsAt key checked

theorem failsAt_issue {α : Type} (key message : String) :
    FailsAt key (issue [key] message : Checked α) := by
  refine ⟨_, rfl, List.cons_ne_nil _ _, fun issue member => ?_⟩
  rw [List.mem_singleton.mp member]
  rfl

theorem failsAt_unexpected {α : Type} (key expected : String) (value : Option Value) :
    FailsAt key (unexpected [key] expected value : Checked α) := by
  cases value with
  | none => exact failsAt_issue key _
  | some value => exact failsAt_issue key _

theorem okOrAt_checkText (key : String) (value : Option Value) :
    OkOrAt key (checkText [key] value) := by
  unfold checkText
  split
  · split
    · exact Or.inr (failsAt_issue key _)
    · split
      · exact Or.inr (failsAt_issue key _)
      · exact Or.inl ⟨_, rfl⟩
  · exact Or.inr (failsAt_unexpected key _ _)

theorem okOrAt_checkNumber (key : String) (value : Option Value) :
    OkOrAt key (checkNumber [key] value) := by
  unfold checkNumber
  split
  · exact Or.inl ⟨_, rfl⟩
  · exact Or.inr (failsAt_issue key _)
  · exact Or.inr (failsAt_unexpected key _ _)

theorem okOrAt_checkDate (key : String) (value : Option Value) :
    OkOrAt key (checkDate platform [key] value) := by
  unfold checkDate
  split
  · split
    · split
      · exact Or.inl ⟨_, rfl⟩
      · exact Or.inr (failsAt_issue key _)
    · exact Or.inr (failsAt_issue key _)
  · exact Or.inr (failsAt_issue key _)

theorem okOrAt_checkBoolean (key : String) (value : Option Value) :
    OkOrAt key (checkBoolean [key] value) := by
  unfold checkBoolean
  split
  · exact Or.inl ⟨_, rfl⟩
  · exact Or.inr (failsAt_unexpected key _ _)

theorem okOrAt_checkEnum (options : List String) (key : String) (value : Option Value) :
    OkOrAt key (checkEnum options [key] value) := by
  unfold checkEnum
  split
  · split
    · exact Or.inl ⟨_, rfl⟩
    · exact Or.inr (failsAt_issue key _)
  · exact Or.inr (failsAt_unexpected key _ _)

theorem head_of_mem_elementIssues {options : List String} {key : String} {elements : List Value}
    {issue : Issue} (member : issue ∈ elementIssues options [key] elements) :
    issue.path.head? = some key := by
  obtain ⟨element, _, listed⟩ := List.mem_flatMap.mp member
  unfold checkEnum at listed
  split at listed
  · cases listed
  · rename_i issues failed
    split at failed
    · split at failed
      · cases failed
      · cases failed
        rw [List.mem_singleton.mp listed]
        rfl
    · cases failed
      rw [List.mem_singleton.mp listed]
      rfl

theorem okOrAt_checkArray (options : List String) (key : String) (value : Option Value) :
    OkOrAt key (checkArray options [key] value) := by
  unfold checkArray
  split
  · split
    · exact Or.inl ⟨_, rfl⟩
    · rename_i some_
      exact Or.inr ⟨_, rfl, some_, fun issue member => head_of_mem_elementIssues member⟩
  · exact Or.inr (failsAt_unexpected key _ _)

theorem okOrAt_schemaForType (value : Option Value) :
    OkOrAt definition.key (schemaForType platform definition value) := by
  unfold schemaForType
  split
  · exact okOrAt_checkText _ _
  · exact okOrAt_checkNumber _ _
  · exact okOrAt_checkDate _ _
  · exact okOrAt_checkBoolean _ _
  · split
    · exact okOrAt_checkEnum _ _ _
    · exact Or.inr (failsAt_unexpected _ _ _)
  · split
    · exact okOrAt_checkArray _ _ _
    · exact Or.inr (failsAt_unexpected _ _ _)

theorem okOrAt_checkField (value : Option Value) :
    OkOrAt definition.key (checkField platform definition value) := by
  unfold checkField
  split
  · exact Or.inl ⟨none, rfl⟩
  · have checked : OkOrAt definition.key (schemaForType platform definition value) :=
      okOrAt_schemaForType value
    rcases checked with ⟨found, is⟩ | ⟨issues, is, some_, named⟩
    · rw [is]
      exact Or.inl ⟨some found, rfl⟩
    · rw [is]
      exact Or.inr ⟨issues, rfl, some_, named⟩

end Issues

/-! ### Values that have been accepted -/

def Fits (fieldType : CustomFieldType) (value : Value) : Prop :=
  match fieldType with
  | .text => ∃ content, value = .text content ∧ 1 ≤ Runtime.length content ∧
      Runtime.length content ≤ 1000
  | .number => ∃ number, value = .number (.finite number)
  | .date => ∃ date, value = .text (utcDay date).text
  | .boolean => ∃ truth, value = .boolean truth
  | .select => ∃ content, value = .text content
  | .multiSelect => ∃ contents : List String, value = .array (contents.map .text)

/-- **Whether a definition still allows a value that fits its type**: the choices are among the
options, and a date is of a year of four digits. -/
def StillAllowed (definition : CustomFieldDefinition) (value : Value) : Prop :=
  match definition.fieldType with
  | .date => ∃ content, value = .text content ∧ isIsoShaped content = true
  | .select => ∃ content ∈ definition.opts, value = .text content
  | .multiSelect => ∃ contents : List String, value = .array (contents.map .text) ∧
      ∀ content ∈ contents, content ∈ definition.opts
  | _ => True

section Fits

variable {platform : Platform} {definition : CustomFieldDefinition} {value found : Value}
variable {path : List String}

theorem unexpected_ne_ok {expected : String} {value : Option Value} :
    unexpected path expected value ≠ .ok found := by
  cases value <;> simp [unexpected, issue]

theorem checkText_eq_ok {value : Option Value} :
    checkText path value = .ok found ↔ ∃ content, value = some (.text content) ∧
      1 ≤ Runtime.length content ∧ Runtime.length content ≤ 1000 ∧ found = .text content := by
  unfold checkText
  split
  · rename_i content
    split
    · rename_i short
      refine iff_of_false (by simp [issue]) ?_
      rintro ⟨_, same, low, _⟩
      cases same
      omega
    · split
      · refine iff_of_false (by simp [issue]) ?_
        rintro ⟨_, same, _, high, _⟩
        cases same
        omega
      · constructor
        · intro accepted
          cases accepted
          exact ⟨content, rfl, by omega, by omega, rfl⟩
        · rintro ⟨_, same, _, _, rfl⟩
          cases same
          rfl
  · rename_i other
    refine iff_of_false unexpected_ne_ok ?_
    rintro ⟨content, rfl, _⟩
    exact other content rfl

theorem checkNumber_eq_ok {value : Option Value} :
    checkNumber path value = .ok found ↔
      ∃ number, value = some (.number (.finite number)) ∧ found = .number (.finite number) := by
  unfold checkNumber
  split
  · simp [eq_comm]
  · simp [issue]
  · rename_i other _
    refine iff_of_false unexpected_ne_ok ?_
    rintro ⟨number, rfl, _⟩
    exact other number rfl

theorem checkBoolean_eq_ok {value : Option Value} :
    checkBoolean path value = .ok found ↔
      ∃ truth, value = some (.boolean truth) ∧ found = .boolean truth := by
  unfold checkBoolean
  split
  · simp [eq_comm]
  · rename_i other
    refine iff_of_false unexpected_ne_ok ?_
    rintro ⟨truth, rfl, _⟩
    exact other truth rfl

theorem exists_of_checkDate {value : Option Value}
    (accepted : checkDate platform path value = .ok found) :
    ∃ date, found = .text (utcDay date).text := by
  unfold checkDate at accepted
  split at accepted
  · split at accepted
    · split at accepted
      · rename_i date _
        cases accepted
        exact ⟨date, rfl⟩
      · simp [issue] at accepted
    · simp [issue] at accepted
  · simp [issue] at accepted

variable {options : List String}

theorem checkEnum_eq_ok {value : Option Value} :
    checkEnum options path value = .ok found ↔
      ∃ content ∈ options, value = some (.text content) ∧ found = .text content := by
  unfold checkEnum
  split
  · rename_i content
    by_cases among : content ∈ options
    · simp [among, eq_comm]
    · simp [among, issue]
  · rename_i other
    refine iff_of_false unexpected_ne_ok ?_
    rintro ⟨content, _, rfl, _⟩
    exact other content rfl

theorem checkEnum_ne_error_nil :
    checkEnum options path (some value) ≠ .error [] := by
  cases value with
  | text content => by_cases among : content ∈ options <;> simp [checkEnum, among, issue]
  | _ => simp [checkEnum, unexpected, issue]

theorem elementIssues_eq_nil {elements : List Value} :
    elementIssues options path elements = [] ↔
      ∃ contents : List String, elements = contents.map .text ∧
        ∀ content ∈ contents, content ∈ options := by
  unfold elementIssues
  generalize 0 = first
  induction elements generalizing first with
  | nil => exact ⟨fun _ => ⟨[], rfl, by simp⟩, fun _ => rfl⟩
  | cons element rest ih =>
    rw [List.zipIdx_cons, List.flatMap_cons, List.append_eq_nil_iff, ih]
    constructor
    · rintro ⟨head, contents, rfl, all⟩
      cases checked : checkEnum options (path ++ [toString first]) (some element) with
      | ok found =>
        obtain ⟨content, among, is, _⟩ := checkEnum_eq_ok.mp checked
        cases is
        exact ⟨content :: contents, rfl, List.forall_mem_cons.mpr ⟨among, all⟩⟩
      | error issues =>
        rw [checked] at head
        have none_ : issues = [] := head
        exact absurd (none_ ▸ checked) checkEnum_ne_error_nil
    · rintro ⟨contents, is, all⟩
      cases contents with
      | nil => cases is
      | cons content contents =>
        obtain ⟨rfl, rfl⟩ := List.cons.inj is
        obtain ⟨among, others⟩ := List.forall_mem_cons.mp all
        have checked : checkEnum options (path ++ [toString first]) (some (.text content)) =
            .ok (.text content) := checkEnum_eq_ok.mpr ⟨content, among, rfl, rfl⟩
        exact ⟨by rw [checked], contents, rfl, others⟩

/-! ### Dates of years of four digits -/

theorem year_of_isIsoShaped {date : Date} (shaped : isIsoShaped (utcDay date).text = true) :
    0 ≤ (utcDay date).year ∧ (utcDay date).year ≤ 9999 := by
  by_contra beyond
  have signed : ∃ rest, (utcDay date).text.toList = '-' :: rest ∨
      (utcDay date).text.toList = '+' :: rest := by
    rw [UtcDay.text, String.toList_ofList, String.toList_append, String.toList_append,
      String.toList_append, String.toList_append, isoYear, if_neg beyond, String.toList_append]
    split
    · exact ⟨_, Or.inl rfl⟩
    · exact ⟨_, Or.inr rfl⟩
  unfold isIsoShaped at shaped
  obtain ⟨rest, is | is⟩ := signed
  · rw [is] at shaped
    split at shaped
    · rename_i chars
      obtain ⟨rfl, _⟩ := List.cons.inj chars
      simp at shaped
    · cases shaped
  · rw [is] at shaped
    split at shaped
    · rename_i chars
      obtain ⟨rfl, _⟩ := List.cons.inj chars
      simp at shaped
    · cases shaped

theorem text_utcDay (date : Date) : (utcDay date).text = Day.text (date / dayMs) := by
  have same : utcDay (date / dayMs * dayMs) = utcDay date := by
    unfold utcDay
    rw [Int.mul_ediv_cancel _ (by decide)]
  rw [Day.text, same]

/-- **A date that was stored is read back**, if its year has four digits. -/
theorem checkDate_text {date : Date} (shaped : isIsoShaped (utcDay date).text = true) :
    checkDate platform path (some (.text (utcDay date).text)) = .ok (.text (utcDay date).text) := by
  obtain ⟨low, high⟩ := year_of_isIsoShaped shaped
  have same : utcDay (date / dayMs * dayMs) = utcDay date := by
    unfold utcDay
    rw [Int.mul_ediv_cancel _ (by decide)]
  obtain ⟨moment, parsed, read⟩ := platform.parseDate_text (date / dayMs) (same ▸ low) (same ▸ high)
  simp only [checkDate, shaped, if_true]
  rw [text_utcDay, parsed]
  dsimp only
  rw [read]

theorem checkArray_eq_ok {value : Option Value} :
    checkArray options path value = .ok found ↔ ∃ contents : List String,
      (∀ content ∈ contents, content ∈ options) ∧
        value = some (.array (contents.map .text)) ∧ found = .array (contents.map .text) := by
  unfold checkArray
  split
  · rename_i elements
    split
    · rename_i none_
      obtain ⟨contents, rfl, all⟩ := elementIssues_eq_nil.mp none_
      constructor
      · intro accepted
        cases accepted
        exact ⟨contents, all, rfl, rfl⟩
      · rintro ⟨_, _, same, rfl⟩
        rw [← Value.array.inj (Option.some.inj same)]
    · rename_i some_
      refine iff_of_false nofun ?_
      rintro ⟨contents, all, same, _⟩
      cases same
      exact some_ (elementIssues_eq_nil.mpr ⟨contents, rfl, all⟩)
  · rename_i other
    refine iff_of_false unexpected_ne_ok ?_
    rintro ⟨contents, _, rfl, _⟩
    exact other _ rfl

/-- **What is accepted fits its type.** -/
theorem fits_of_schemaForType {value : Option Value}
    (accepted : schemaForType platform definition value = .ok found) :
    Fits definition.fieldType found := by
  unfold schemaForType at accepted
  unfold Fits
  cases fieldType : definition.fieldType with
  | text =>
    rw [fieldType] at accepted
    obtain ⟨content, _, low, high, rfl⟩ := checkText_eq_ok.mp accepted
    exact ⟨content, rfl, low, high⟩
  | number =>
    rw [fieldType] at accepted
    obtain ⟨number, _, rfl⟩ := checkNumber_eq_ok.mp accepted
    exact ⟨number, rfl⟩
  | date =>
    rw [fieldType] at accepted
    exact exists_of_checkDate accepted
  | boolean =>
    rw [fieldType] at accepted
    obtain ⟨truth, _, rfl⟩ := checkBoolean_eq_ok.mp accepted
    exact ⟨truth, rfl⟩
  | select =>
    rw [fieldType] at accepted
    dsimp only at accepted
    split at accepted
    · obtain ⟨content, _, _, rfl⟩ := checkEnum_eq_ok.mp accepted
      exact ⟨content, rfl⟩
    · exact absurd accepted unexpected_ne_ok
  | multiSelect =>
    rw [fieldType] at accepted
    dsimp only at accepted
    split at accepted
    · obtain ⟨contents, _, _, rfl⟩ := checkArray_eq_ok.mp accepted
      exact ⟨contents, rfl⟩
    · exact absurd accepted unexpected_ne_ok

/-- **What a later check makes of a value that fits**: it is kept as it is, if it is still allowed. -/
theorem schemaForType_of_fits (fits : Fits definition.fieldType value)
    (options : definition.fieldType = .multiSelect → 0 < definition.opts.length) :
    schemaForType platform definition (some value) = .ok value ↔ StillAllowed definition value := by
  unfold schemaForType StillAllowed
  unfold Fits at fits
  cases fieldType : definition.fieldType with
  | text =>
    rw [fieldType] at fits
    obtain ⟨content, rfl, low, high⟩ := fits
    exact iff_of_true (checkText_eq_ok.mpr ⟨content, rfl, low, high, rfl⟩) trivial
  | number =>
    rw [fieldType] at fits
    obtain ⟨number, rfl⟩ := fits
    exact iff_of_true (checkNumber_eq_ok.mpr ⟨number, rfl, rfl⟩) trivial
  | date =>
    rw [fieldType] at fits
    obtain ⟨date, rfl⟩ := fits
    constructor
    · intro accepted
      refine ⟨_, rfl, ?_⟩
      by_contra beyond
      simp [checkDate, beyond, issue] at accepted
    · rintro ⟨content, same, shaped⟩
      rw [← Value.text.inj same] at shaped
      exact checkDate_text shaped
  | boolean =>
    rw [fieldType] at fits
    obtain ⟨truth, rfl⟩ := fits
    exact iff_of_true (checkBoolean_eq_ok.mpr ⟨truth, rfl, rfl⟩) trivial
  | select =>
    dsimp only
    split
    · rw [checkEnum_eq_ok]
      constructor
      · rintro ⟨content, among, is, _⟩
        exact ⟨content, among, Option.some.inj is⟩
      · rintro ⟨content, among, rfl⟩
        exact ⟨content, among, rfl, rfl⟩
    · rename_i none_
      refine iff_of_false unexpected_ne_ok ?_
      rintro ⟨content, among, _⟩
      exact none_ (List.length_pos_of_mem among)
  | multiSelect =>
    dsimp only
    rw [if_pos (options fieldType), checkArray_eq_ok]
    constructor
    · rintro ⟨contents, all, is, _⟩
      exact ⟨contents, Option.some.inj is, all⟩
    · rintro ⟨contents, rfl, all⟩
      exact ⟨contents, all, rfl, rfl⟩

theorem eq_of_schemaForType (fits : Fits definition.fieldType value)
    (accepted : schemaForType platform definition (some value) = .ok found) : found = value := by
  unfold schemaForType at accepted
  unfold Fits at fits
  cases fieldType : definition.fieldType with
  | text =>
    rw [fieldType] at accepted
    obtain ⟨content, is, _, _, rfl⟩ := checkText_eq_ok.mp accepted
    exact (Option.some.inj is).symm
  | number =>
    rw [fieldType] at accepted
    obtain ⟨number, is, rfl⟩ := checkNumber_eq_ok.mp accepted
    exact (Option.some.inj is).symm
  | date =>
    rw [fieldType] at accepted fits
    obtain ⟨date, rfl⟩ := fits
    have shaped : isIsoShaped (utcDay date).text = true := by
      by_contra beyond
      simp [checkDate, beyond, issue] at accepted
    exact Except.ok.inj (accepted.symm.trans (checkDate_text shaped))
  | boolean =>
    rw [fieldType] at accepted
    obtain ⟨truth, is, rfl⟩ := checkBoolean_eq_ok.mp accepted
    exact (Option.some.inj is).symm
  | select =>
    rw [fieldType] at accepted
    dsimp only at accepted
    split at accepted
    · obtain ⟨content, _, is, rfl⟩ := checkEnum_eq_ok.mp accepted
      exact (Option.some.inj is).symm
    · exact absurd accepted unexpected_ne_ok
  | multiSelect =>
    rw [fieldType] at accepted
    dsimp only at accepted
    split at accepted
    · obtain ⟨contents, _, is, rfl⟩ := checkArray_eq_ok.mp accepted
      exact (Option.some.inj is).symm
    · exact absurd accepted unexpected_ne_ok

theorem schemaForType_function : schemaForType platform definition (some .function) ≠ .ok found := by
  unfold schemaForType
  cases definition.fieldType with
  | text => simp [checkText_eq_ok]
  | number => simp [checkNumber_eq_ok]
  | date => simp [checkDate, issue]
  | boolean => simp [checkBoolean_eq_ok]
  | select =>
    dsimp only
    split
    · simp [checkEnum_eq_ok]
    · exact unexpected_ne_ok
  | multiSelect =>
    dsimp only
    split
    · simp [checkArray_eq_ok]
    · exact unexpected_ne_ok

theorem schemaForType_none : schemaForType platform definition none ≠ .ok found := by
  unfold schemaForType
  cases definition.fieldType with
  | text => simp [checkText_eq_ok]
  | number => simp [checkNumber_eq_ok]
  | date => simp [checkDate, issue]
  | boolean => simp [checkBoolean_eq_ok]
  | select =>
    dsimp only
    split
    · simp [checkEnum_eq_ok]
    · exact unexpected_ne_ok
  | multiSelect =>
    dsimp only
    split
    · simp [checkArray_eq_ok]
    · exact unexpected_ne_ok

theorem checkField_of_fits (fits : Fits definition.fieldType value)
    (options : definition.fieldType = .multiSelect → 0 < definition.opts.length) :
    (StillAllowed definition value ∧ checkField platform definition (some value) = .ok (some value)) ∨
      (¬StillAllowed definition value ∧
        FailsAt definition.key (checkField platform definition (some value))) := by
  have field : checkField platform definition (some value) =
      some <$> schemaForType platform definition (some value) := by
    unfold checkField
    rw [if_neg (by simp)]
  have kept : schemaForType platform definition (some value) = .ok value ↔
      StillAllowed definition value := schemaForType_of_fits fits options
  by_cases allowed : StillAllowed definition value
  · refine Or.inl ⟨allowed, ?_⟩
    rw [field, kept.mpr allowed]
    rfl
  · refine Or.inr ⟨allowed, ?_⟩
    have checked : OkOrAt definition.key (checkField platform definition (some value)) :=
      okOrAt_checkField (some value)
    rcases checked with ⟨found, is⟩ | fails
    · rw [field] at is
      obtain ⟨other, accepted, _⟩ := map_eq_ok.mp is
      exact absurd (kept.mp (eq_of_schemaForType fits accepted ▸ accepted)) allowed
    · exact fails

theorem checkField_function :
    FailsAt definition.key (checkField platform definition (some .function)) := by
  have checked : OkOrAt definition.key (checkField platform definition (some .function)) :=
    okOrAt_checkField (some .function)
  rcases checked with ⟨found, is⟩ | fails
  · unfold checkField at is
    rw [if_neg (by simp)] at is
    obtain ⟨other, accepted, _⟩ := map_eq_ok.mp is
    exact absurd accepted schemaForType_function
  · exact fails

theorem fits_of_checkField {value : Option Value}
    (accepted : checkField platform definition value = .ok (some found)) :
    Fits definition.fieldType found := by
  unfold checkField at accepted
  split at accepted
  · cases accepted
  · obtain ⟨other, is, same⟩ := map_eq_ok.mp accepted
    cases same
    exact fits_of_schemaForType is

theorem checkField_none {found : Option Value}
    (accepted : checkField platform definition none = .ok found) : found = none := by
  unfold checkField at accepted
  split at accepted
  · cases accepted
    rfl
  · obtain ⟨value, is, _⟩ := map_eq_ok.mp accepted
    exact absurd is schemaForType_none

end Fits

end OpenEstate.CustomFields
