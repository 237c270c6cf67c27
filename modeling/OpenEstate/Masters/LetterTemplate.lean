/-
**Letter templates.**

A letter template has a subject and a body with merge fields, and the type of letter it is for. When
one is created, the body is checked against the fields of its type, and the subject is not. A change
is checked only if it gives a body and a type together, so either of them can be moved past the
other.

* `LetterTemplateService.create`, `update` and `remove`, behind the schemas of their requests;
* `DocumentService.resolveLetter`, `buildLetterContext`: how a letter is made from a template;
* `Resolves`: the texts of a template are resolved, whatever the values; `resolves_iff`;
* `templates_resolve_iff`: in which runs every stored template resolves throughout;
* `moved_past_each_other`: one in which it does not.
-/

import OpenEstate.Documents.MergeField

namespace OpenEstate.Masters

open Relational
open Documents

/-! ### Rows and requests -/

structure LetterText (bound : Option Nat) where
  text : String
  nonempty : 1 ≤ Runtime.length text
  fits : ∀ most ∈ bound, Runtime.length text ≤ most

structure LetterTemplate where
  companyId : Nat
  name : LetterText (some 255)
  subject : LetterText (some 500)
  body : LetterText none
  entityType : LetterType
  isActive : Bool
  sortOrder : Fin (2 ^ 31)

structure CreateLetterTemplateDto where
  name : LetterText (some 255)
  subject : LetterText (some 500)
  entityType : LetterType
  body : LetterText none
  isActive : Bool := true
  sortOrder : Fin (2 ^ 31) := 0

structure UpdateLetterTemplateDto where
  name : Option (LetterText (some 255)) := none
  subject : Option (LetterText (some 500)) := none
  entityType : Option LetterType := none
  body : Option (LetterText none) := none
  isActive : Option Bool := none
  sortOrder : Option (Fin (2 ^ 31)) := none

def CreateLetterTemplateDto.row (dto : CreateLetterTemplateDto) (companyId : Nat) :
    LetterTemplate where
  companyId
  name := dto.name
  subject := dto.subject
  body := dto.body
  entityType := dto.entityType
  isActive := dto.isActive
  sortOrder := dto.sortOrder

def UpdateLetterTemplateDto.write (dto : UpdateLetterTemplateDto) (template : LetterTemplate) :
    LetterTemplate :=
  { template with
    name := dto.name.getD template.name
    subject := dto.subject.getD template.subject
    body := dto.body.getD template.body
    entityType := dto.entityType.getD template.entityType
    isActive := dto.isActive.getD template.isActive
    sortOrder := dto.sortOrder.getD template.sortOrder }

/-! ### Schemas -/

structure SchemaIssue where
  message : String
  path : List String

def createLetterTemplateSchema (dto : CreateLetterTemplateDto) : Except SchemaIssue Unit :=
  let documentType := dto.entityType.documentType
  let allowed := ", ".intercalate (mergeFieldRegistry documentType)
  ensure ((validateTemplateMergeFields dto.body.text documentType).valid = true)
    ⟨s!"Unknown merge field(s) in body for {documentType.text}. Allowed: {allowed}", ["body"]⟩

def updateLetterTemplateSchema (dto : UpdateLetterTemplateDto) : Except SchemaIssue Unit :=
  match dto.body, dto.entityType with
  | some body, some entityType =>
    ensure ((validateTemplateMergeFields body.text entityType.documentType).valid = true)
      ⟨"Unknown merge field(s) in body for the given entityType", ["body"]⟩
  | _, _ => .ok ()

/-! ### The service -/

namespace LetterTemplateService

variable (companyId : Nat)

def findOne (id : Nat) (templates : Table LetterTemplate) : Except ServiceError LetterTemplate :=
  orThrow ((templates.find? id).filter fun template => template.companyId == companyId)
    (.notFound "Letter template not found")

def uniqueName (template : LetterTemplate) (except : Option Nat)
    (templates : Table LetterTemplate) : Except ServiceError Unit :=
  ensure (templates.any (fun id other => other.companyId == template.companyId &&
      other.name.text == template.name.text && decide (except ≠ some id)) = false)
    (.error "Unique constraint failed on the fields: (companyId,name)")

def create (dto : CreateLetterTemplateDto) (templates : Table LetterTemplate) :
    Except ServiceError (Table LetterTemplate) := do
  let row := dto.row companyId
  uniqueName row none templates
  return templates.create row

def update (id : Nat) (dto : UpdateLetterTemplateDto) (templates : Table LetterTemplate) :
    Except ServiceError (Table LetterTemplate) := do
  let existing ← findOne companyId id templates
  uniqueName (dto.write existing) (some id) templates
  return templates.modify id dto.write

def remove (id : Nat) (templates : Table LetterTemplate) :
    Except ServiceError (Table LetterTemplate) := do
  let _ ← findOne companyId id templates
  return templates.delete fun key _ => key == id

end LetterTemplateService

inductive LetterTemplateOp
  | create (dto : CreateLetterTemplateDto)
  | update (id : Nat) (dto : UpdateLetterTemplateDto)
  | remove (id : Nat)

structure LetterTemplateRequest where
  companyId : Nat
  op : LetterTemplateOp

inductive LetterTemplateRefusal
  | invalid (issue : SchemaIssue)
  | refused (error : ServiceError)

def execLetterTemplate (request : LetterTemplateRequest) (templates : Table LetterTemplate) :
    Except LetterTemplateRefusal (Table LetterTemplate) :=
  match request.op with
  | .create dto => do
    (createLetterTemplateSchema dto).mapError .invalid
    (LetterTemplateService.create request.companyId dto templates).mapError .refused
  | .update id dto => do
    (updateLetterTemplateSchema dto).mapError .invalid
    (LetterTemplateService.update request.companyId id dto templates).mapError .refused
  | .remove id => (LetterTemplateService.remove request.companyId id templates).mapError .refused

/-! ### Letters -/

structure LetterBooking where
  applicantName : String
  bookingNumber : String
  projectName : String
  unitNumber : String
  towerName : Option String
  floorLabel : Option String
  agreedPriceFormatted : String
  allotmentDate : Option String
  companyName : String

/-- What a letter says of an installment, which has no due date before it is raised. -/
structure LetterInstallment where
  label : String
  dueDate : Option String
  dueAmountFormatted : String
  overdueDays : String

namespace DocumentService

def buildLetterContext (documentType : GeneratedDocumentType) (booking : LetterBooking)
    (installmentId : Option Nat) (findInstallment : Nat → Option LetterInstallment) :
    Except ServiceError MergeContext := do
  let base :=
    [("applicantName", booking.applicantName), ("bookingNumber", booking.bookingNumber),
      ("projectName", booking.projectName), ("unitNumber", booking.unitNumber),
      ("towerName", booking.towerName.getD ""), ("floorLabel", booking.floorLabel.getD ""),
      ("agreedPriceFormatted", booking.agreedPriceFormatted),
      ("allotmentDate", booking.allotmentDate.getD ""), ("companyName", booking.companyName),
      ("companyAddress", "")]
  if documentType = .demandLetter ∨ documentType = .reminderLetter then
    let installmentId ← orThrow installmentId
      (.badRequest s!"{documentType.text} requires installmentId")
    let installment ← orThrow (findInstallment installmentId) (.notFound "Installment not found")
    let dueDate ← orThrow installment.dueDate (.badRequest ("This installment has not been raised " ++
      "— it has no due date to demand payment against"))
    return fun field => (base ++
      [("installmentLabel", installment.label), ("dueDate", dueDate),
        ("dueAmountFormatted", installment.dueAmountFormatted),
        ("overdueDays", installment.overdueDays)]).lookup field
  else return fun field => base.lookup field

/-- The subject and the body of a letter. A template that names a field its letter has not is a bad
request. -/
def resolveLetter (template : LetterTemplate) (documentType : GeneratedDocumentType)
    (context : MergeContext) : Except ServiceError (String × String) :=
  let resolved := do
    let subject ← resolveMergeFields template.subject.text documentType context
    let body ← resolveMergeFields template.body.text documentType context
    return (subject, body)
  resolved.mapError fun error =>
    match error with
    | .error message => .badRequest message
    | other => other

theorem lookup_gives {documentType : GeneratedDocumentType} {fields : List (String × String)}
    (all : ∀ field ∈ mergeFieldRegistry documentType, field ∈ fields.map Prod.fst) :
    MergeContext.Gives (fun field => fields.lookup field) documentType
      fun field => (fields.lookup field).getD "" := by
  intro field named
  obtain ⟨pair, member, same⟩ := List.mem_map.mp (all field named)
  have known := List.lookup_isSome_iff.mpr ⟨pair, member, beq_iff_eq.mpr same.symm⟩
  obtain ⟨value, known⟩ := Option.isSome_iff_exists.mp known
  dsimp only
  rw [known, Option.getD_some]

theorem buildLetterContext_gives {entityType : LetterType} {booking : LetterBooking}
    {installmentId : Option Nat} {findInstallment : Nat → Option LetterInstallment}
    {context : MergeContext}
    (built : buildLetterContext entityType.documentType booking installmentId findInstallment =
      .ok context) : ∃ value, context.Gives entityType.documentType value := by
  unfold buildLetterContext at built
  cases entityType with
  | allotmentLetter =>
    cases built
    exact ⟨_, lookup_gives (by simp [LetterType.documentType, mergeFieldRegistry])⟩
  | demandLetter | reminderLetter =>
    obtain ⟨_, _, built⟩ := bind_eq_ok.mp built
    obtain ⟨_, _, built⟩ := bind_eq_ok.mp built
    obtain ⟨_, _, built⟩ := bind_eq_ok.mp built
    cases built
    exact ⟨_, lookup_gives (by simp [LetterType.documentType, mergeFieldRegistry])⟩

end DocumentService

/-! ### What is stored -/

namespace LetterTemplate

def texts (template : LetterTemplate) : List String :=
  [template.subject.text, template.body.text]

def NamesRegistered (template : LetterTemplate) : Prop :=
  ∀ text ∈ template.texts, Registered template.entityType.documentType text

/-- **A template resolves**: it names fields of its type only, and with a value for each of them its
texts are resolved, to the text with every token replaced once by the value of its field. A text is
read from the left, and what is put in is not read again. -/
structure Resolves (template : LetterTemplate) : Prop where
  registered : template.NamesRegistered
  resolved : ∀ (value : String → String) (context : MergeContext),
    context.Gives template.entityType.documentType value →
    ∀ text ∈ template.texts, ∃ pieces, mergeReader.Scans text.toList pieces ∧
      resolveMergeFields text template.entityType.documentType context =
        .ok (String.ofList (Runtime.substitute
          (fun field => (value (String.ofList field)).toList) pieces))

theorem resolves_iff {template : LetterTemplate} :
    template.Resolves ↔ template.NamesRegistered := by
  constructor
  · exact Resolves.registered
  · intro registered
    refine ⟨registered, fun value context gives text member => ?_⟩
    have scans := mergeReader.pieces_scans text.toList
    refine ⟨_, scans, resolveMergeFields_eq_ok.mpr ?_⟩
    exact ⟨registered text member, replaceMergeTokens_eq scans (registered text member) gives⟩

theorem namesRegistered_iff {template : LetterTemplate} :
    template.NamesRegistered ↔
      Registered template.entityType.documentType template.subject.text ∧
      Registered template.entityType.documentType template.body.text := by
  unfold NamesRegistered texts
  rw [List.forall_mem_cons, List.forall_mem_singleton]

end LetterTemplate

theorem resolveLetter_eq_ok {template : LetterTemplate} {documentType : GeneratedDocumentType}
    {context : MergeContext} {letter : String × String} :
    DocumentService.resolveLetter template documentType context = .ok letter ↔
      Registered documentType template.subject.text ∧
      Registered documentType template.body.text ∧
      (replaceMergeTokens context template.subject.text,
        replaceMergeTokens context template.body.text) = letter := by
  unfold DocumentService.resolveLetter
  rw [mapError_eq_ok, bind_eq_ok]
  simp only [bind_eq_ok, resolveMergeFields_eq_ok, pure_eq_ok]
  constructor
  · rintro ⟨_, ⟨subject, rfl⟩, _, ⟨body, rfl⟩, same⟩
    exact ⟨subject, body, same⟩
  · rintro ⟨subject, body, same⟩
    exact ⟨_, ⟨subject, rfl⟩, _, ⟨body, rfl⟩, same⟩

theorem exists_letter_of_resolves {template : LetterTemplate} (resolves : template.Resolves)
    (context : MergeContext) :
    ∃ letter, DocumentService.resolveLetter template template.entityType.documentType context =
      .ok letter := by
  obtain ⟨subject, body⟩ := LetterTemplate.namesRegistered_iff.mp resolves.registered
  exact ⟨_, resolveLetter_eq_ok.mpr ⟨subject, body, rfl⟩⟩

/-! ### Requests -/

def Passes {bound : Option Nat} (text : LetterText bound) (entityType : LetterType) : Prop :=
  (validateTemplateMergeFields text.text entityType.documentType).valid = true

/-- **What the schemas leave out**: the subject of a new template passes the validation; and so do,
for a change of the subject or of the type, the subject as it will be, and for a change of the body or
of the type alone, the body as it will be. -/
def PassesUnchecked (templates : Table LetterTemplate) (request : LetterTemplateRequest) : Prop :=
  match request.op with
  | .create dto => Passes dto.subject dto.entityType
  | .update id dto => ∀ template, templates.find? id = some template →
    (dto.subject.isSome = true ∨ dto.entityType.isSome = true →
      Passes (dto.subject.getD template.subject) (dto.entityType.getD template.entityType)) ∧
    (dto.body.isSome ≠ dto.entityType.isSome →
      Passes (dto.body.getD template.body) (dto.entityType.getD template.entityType))
  | .remove _ => True

section Requests

variable {templates after : Table LetterTemplate}

theorem passes_iff {bound : Option Nat} {text : LetterText bound} {entityType : LetterType} :
    Passes text entityType ↔ Registered entityType.documentType text.text :=
  validate_valid_iff

/-- **What an accepted request has done**, and what its schema has checked. -/
theorem execLetterTemplate_cases {companyId : Nat} {op : LetterTemplateOp}
    (accepted : execLetterTemplate ⟨companyId, op⟩ templates = .ok after) :
    (∃ dto, op = .create dto ∧ Passes dto.body dto.entityType ∧
      after = templates.create (dto.row companyId)) ∨
    (∃ id dto template, op = .update id dto ∧ templates.find? id = some template ∧
      (∀ body ∈ dto.body, ∀ entityType ∈ dto.entityType, Passes body entityType) ∧
      after = templates.modify id dto.write) ∨
    (∃ id, op = .remove id ∧ after = templates.delete fun key _ => key == id) := by
  cases op with
  | create dto =>
    obtain ⟨_, checked, accepted⟩ := bind_eq_ok.mp accepted
    have checked := ensure_eq_ok.mp (mapError_eq_ok.mp checked)
    obtain ⟨_, _, accepted⟩ := bind_eq_ok.mp (mapError_eq_ok.mp accepted)
    cases accepted
    exact Or.inl ⟨dto, rfl, checked, rfl⟩
  | update id dto =>
    obtain ⟨_, checked, accepted⟩ := bind_eq_ok.mp accepted
    have checked := mapError_eq_ok.mp checked
    obtain ⟨template, found, accepted⟩ := bind_eq_ok.mp (mapError_eq_ok.mp accepted)
    obtain ⟨found, _⟩ := Option.filter_eq_some_iff.mp (orThrow_eq_ok.mp found)
    obtain ⟨_, _, accepted⟩ := bind_eq_ok.mp accepted
    cases accepted
    refine Or.inr (Or.inl ⟨id, dto, template, rfl, found, fun body given entityType type => ?_, rfl⟩)
    rw [updateLetterTemplateSchema, given, type] at checked
    have passes : (validateTemplateMergeFields body.text entityType.documentType).valid = true :=
      ensure_eq_ok.mp checked
    exact passes
  | remove id =>
    obtain ⟨_, _, accepted⟩ := bind_eq_ok.mp (mapError_eq_ok.mp accepted)
    cases accepted
    exact Or.inr (Or.inr ⟨id, rfl, rfl⟩)

theorem write_namesRegistered_iff {dto : UpdateLetterTemplateDto} {template : LetterTemplate}
    (checked : ∀ body ∈ dto.body, ∀ entityType ∈ dto.entityType, Passes body entityType)
    (named : template.NamesRegistered) :
    (dto.write template).NamesRegistered ↔
      (dto.subject.isSome = true ∨ dto.entityType.isSome = true →
        Passes (dto.subject.getD template.subject) (dto.entityType.getD template.entityType)) ∧
      (dto.body.isSome ≠ dto.entityType.isSome →
        Passes (dto.body.getD template.body) (dto.entityType.getD template.entityType)) := by
  obtain ⟨subjectBefore, bodyBefore⟩ := LetterTemplate.namesRegistered_iff.mp named
  rw [LetterTemplate.namesRegistered_iff, passes_iff, passes_iff]
  constructor
  · exact fun ⟨subject, body⟩ => ⟨fun _ => subject, fun _ => body⟩
  · rintro ⟨subject, body⟩
    constructor
    · by_cases given : dto.subject.isSome = true ∨ dto.entityType.isSome = true
      · exact subject given
      · simp only [not_or, Bool.not_eq_true, Option.isSome_eq_false_iff, Option.isNone_iff_eq_none]
          at given
        show Registered (dto.entityType.getD _).documentType (dto.subject.getD _).text
        rw [given.1, given.2]
        exact subjectBefore
    · show Registered (dto.entityType.getD _).documentType (dto.body.getD _).text
      cases givenBody : dto.body with
      | none =>
        cases givenType : dto.entityType with
        | none => exact bodyBefore
        | some entityType =>
          rw [givenBody, givenType] at body
          exact body Bool.false_ne_true
      | some text =>
        cases givenType : dto.entityType with
        | none =>
          rw [givenBody, givenType] at body
          exact body Bool.false_ne_true.symm
        | some entityType => exact passes_iff.mp (checked text givenBody entityType givenType)

/-- **A request keeps the templates resolved** exactly when what its schema leaves out passes. -/
theorem execLetterTemplate_resolves_iff {request : LetterTemplateRequest}
    (before : templates.All LetterTemplate.Resolves)
    (accepted : execLetterTemplate request templates = .ok after) :
    after.All LetterTemplate.Resolves ↔ PassesUnchecked templates request := by
  obtain ⟨companyId, op⟩ := request
  unfold PassesUnchecked
  obtain ⟨dto, rfl, checked, rfl⟩ | ⟨id, dto, template, rfl, found, checked, rfl⟩ |
    ⟨id, rfl, rfl⟩ := execLetterTemplate_cases accepted
  · rw [Table.all_create, LetterTemplate.resolves_iff, LetterTemplate.namesRegistered_iff]
    constructor
    · exact fun ⟨_, subject, _⟩ => passes_iff.mpr subject
    · exact fun subject => ⟨before, passes_iff.mp subject, passes_iff.mp checked⟩
  · have exactly := write_namesRegistered_iff checked (before id template found).registered
    rw [← LetterTemplate.resolves_iff] at exactly
    constructor
    · intro holds other foundOther
      cases found.symm.trans foundOther
      refine exactly.mp (holds id (dto.write template) ?_)
      rw [Table.find?_modify_self, found, Option.map_some]
    · intro passes
      refine before.modify fun other foundOther _ => ?_
      cases found.symm.trans foundOther
      exact exactly.mpr (passes template found)
  · refine iff_of_true (fun key template found => ?_) trivial
    rw [Table.find?_delete] at found
    exact before key template (Option.filter_eq_some_iff.mp found).1

end Requests

/-! ### Runs -/

/-- **When stored templates resolve.** In every run of requests, every stored template resolves in
every state exactly when what the schemas leave out passes at every request that is accepted. -/
theorem templates_resolve_iff (requests : List LetterTemplateRequest) :
    (∀ templates ∈ states execLetterTemplate .empty requests,
      templates.All LetterTemplate.Resolves) ↔
      ∀ step ∈ steps execLetterTemplate .empty requests, PassesUnchecked step.before step.input :=
  forall_states_iff (fun _ _ _ (_ : True) _ => trivial)
    (fun _ _ _ _ before accepted => execLetterTemplate_resolves_iff before accepted) requests trivial
    Table.All.empty

def retyped : List LetterTemplateRequest :=
  [⟨1, .create
      { name := ⟨"Due", by decide, by decide⟩, subject := ⟨"Due", by decide, by decide⟩
        entityType := .demandLetter
        body := ⟨"Due on \x7b\x7bdueDate\x7d\x7d", by decide, nofun⟩ }⟩,
    ⟨1, .update 0 { entityType := some .allotmentLetter }⟩]

/-- **The type of a template is moved past its body**: a letter on an allotment has no due date, and
can never be made from the template. -/
theorem moved_past_each_other :
    ¬(∀ templates ∈ states execLetterTemplate .empty retyped,
        templates.All LetterTemplate.Resolves) ∧
      ∃ template, (run execLetterTemplate .empty retyped).find? 0 = some template ∧
        ∀ context letter, DocumentService.resolveLetter template
          template.entityType.documentType context ≠ .ok letter := by
  have unregistered : ¬Registered .allotmentLetter "Due on \x7b\x7bdueDate\x7d\x7d" :=
    fun registered => absurd (registered "dueDate" (by decide)) (by decide)
  refine ⟨fun holds => ?_, _, rfl, fun context letter made => ?_⟩
  · have resolves := holds _ (run_mem_states _ _) 0 _ rfl
    exact unregistered (LetterTemplate.namesRegistered_iff.mp resolves.registered).2
  · exact unregistered (resolveLetter_eq_ok.mp made).2.1

end OpenEstate.Masters
