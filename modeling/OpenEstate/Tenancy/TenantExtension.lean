/-
**The tenant extension.**

Every query on a table of a company is rewritten on its way to the database: the company of the
context is put in the place of whatever the caller says of it, and for some tables the principal of a
portal session is asked for besides.

* `tenantExtension` is the rewriting, by `injectCompanyId` and `injectPortalScope`;
* `tenantExtension_eq_ok`: without a company it refuses; `created_of_company`;
* **`query_confined`**: a row is matched by the rewritten query exactly when it is of the company and of
  the principal, and satisfies the caller's other conditions.
-/

import Mathlib.Data.List.SplitBy
import OpenEstate.Relational.Outcome
import OpenEstate.Relational.Where
import OpenEstate.Shared.ServiceError

namespace OpenEstate.Tenancy

open Relational

/-! ### Tables and operations -/

def tenantScopedModels : List String :=
  ["User", "Role", "AuditLog", "CustomFieldDefinition", "CompanyConfig", "InquirySource",
    "InquiryType", "FollowUpType", "CommunicationType", "AreaLocation", "ProjectType",
    "DocumentType", "LetterTemplate", "Bank", "ReceiptType", "RegistrationType", "ChargeType",
    "GstRate", "TdsRule", "InterestRule", "TransferFeeRule", "PaymentPlanTemplate", "UnitType",
    "PlcType", "Project", "Tower", "Floor", "InventoryGroup", "StageRaise", "Unit", "UnitPlc",
    "UnitCharge", "UnitRateRevision", "UnitStatusChange", "Applicant", "ApplicantConsent",
    "ApplicantMerge", "ApplicantDistinctPair", "InquiryTemperature", "Inquiry",
    "InquiryAssignment", "ProjectAssignmentPool", "FollowUp", "SmsTemplate", "CommunicationLog",
    "ApplicantAddress", "ApplicantDocument", "CancellationRule", "Booking", "BookingCoApplicant",
    "BookingCostLine", "PaymentPlan", "Installment", "LedgerEntry", "Receipt", "ReceiptAllocation",
    "ChequeStatusEvent", "NumberSequence", "Transfer", "Cancellation", "Refund", "PaymentVoucher",
    "ExtraCharge", "TdsDeduction", "TdsCertificate", "InterestAccrual", "PaymentPlanMilestone",
    "GeneratedDocument", "DocumentDispatch", "BookingDraft", "Broker", "BrokerBankDetail",
    "BrokerCommissionRule", "BrokerCommissionSlab", "BrokerBookingCommission",
    "CommissionLedgerEntry", "CommissionPayment", "BrokerNoc", "PortalInvite",
    "PortalPasswordReset", "ApplicantChangeRequest", "TicketCategory", "Ticket", "TicketMessage",
    "ConstructionUpdate", "ConstructionUpdateMedia", "ProjectMedia", "PluginInstallation",
    "WebhookEndpoint", "WebhookDelivery", "WebhookDeliveryAttempt", "LeadSourceApiKey",
    "LeadStage", "InquiryStageHistory"]

inductive Operation
  | findMany | findFirst | findUnique | findFirstOrThrow | findUniqueOrThrow | count | aggregate
  | groupBy | update | updateMany | updateManyAndReturn | delete | deleteMany | create | createMany
  | createManyAndReturn | upsert
  deriving DecidableEq

def Operation.text : Operation → String
  | .findMany => "findMany"
  | .findFirst => "findFirst"
  | .findUnique => "findUnique"
  | .findFirstOrThrow => "findFirstOrThrow"
  | .findUniqueOrThrow => "findUniqueOrThrow"
  | .count => "count"
  | .aggregate => "aggregate"
  | .groupBy => "groupBy"
  | .update => "update"
  | .updateMany => "updateMany"
  | .updateManyAndReturn => "updateManyAndReturn"
  | .delete => "delete"
  | .deleteMany => "deleteMany"
  | .create => "create"
  | .createMany => "createMany"
  | .createManyAndReturn => "createManyAndReturn"
  | .upsert => "upsert"

def readOps : List Operation :=
  [.findMany, .findFirst, .findUnique, .findFirstOrThrow, .findUniqueOrThrow, .count, .aggregate,
    .groupBy]

def writeFilterOps : List Operation := [.update, .updateMany, .delete, .deleteMany]

def Operation.filters (operation : Operation) : Bool :=
  readOps.contains operation || writeFilterOps.contains operation

structure PortalScope where
  applicantField : Option String := none
  brokerField : Option String := none
  brokerIsSelf : Bool := false

def PortalScope.selfField (config : PortalScope) : Option String :=
  if config.brokerIsSelf then some "id" else none

def portalScopedModels : List (String × PortalScope) :=
  [("CommissionLedgerEntry", { brokerField := some "brokerId" }),
    ("CommissionPayment", { brokerField := some "brokerId" }),
    ("BrokerNoc", { brokerField := some "brokerId" }),
    ("Broker", { brokerIsSelf := true }),
    ("ApplicantChangeRequest", { applicantField := some "applicantId" }),
    ("Ticket", { applicantField := some "applicantId", brokerField := some "brokerId" })]

def portalScopeOf (model : String) : Option PortalScope := portalScopedModels.lookup model

/-! ### Contexts -/

def truthy (text : Option String) : Option String := text.filter fun text => text ≠ ""

/-- The context of a request. A portal session is that of an applicant or of a broker, never of
both. -/
structure TenantStore where
  companyId : String
  portalApplicantId : Option String := none
  portalBrokerId : Option String := none
  one : portalApplicantId = none ∨ portalBrokerId = none := by decide

def isHexDigit (char : Char) : Bool :=
  ('0' ≤ char ∧ char ≤ '9') ∨ ('a' ≤ char ∧ char ≤ 'f') ∨ ('A' ≤ char ∧ char ≤ 'F')

def isUuid (text : String) : Bool :=
  let groups := text.toList.splitOn '-'
  groups.map List.length == [8, 4, 4, 4, 12] && groups.all fun group => group.all isHexDigit

/-! ### Arguments -/

/-- What is given under a key: a text, which a column has to equal, or anything else. -/
inductive Given (γ : Type)
  | text (value : String)
  | other (value : γ)

abbrev Entries (γ : Type) := List (String × Given γ)

inductive Data (γ : Type)
  | object (entries : Entries γ)
  | array (rows : List (Entries γ))

def Data.entries {γ : Type} : Option (Data γ) → Entries γ
  | some (.object entries) => entries
  | _ => []

structure Args (γ : Type) where
  where_ : Option (Where String (Given γ)) := none
  data : Option (Data γ) := none
  create : Option (Entries γ) := none

def Args.conditions {γ : Type} (args : Args γ) : Where String (Given γ) := args.where_.getD .empty

/-! ### Rewriting -/

section Rewriting

variable {γ : Type}

def injectCompanyId (operation : Operation) (args : Args γ) (companyId : String) : Args γ :=
  if operation.filters then
    { args with where_ := some (args.conditions.set "companyId" (.text companyId)) }
  else match operation with
  | .create =>
    { args with data := some (.object (assign "companyId" (.text companyId) (Data.entries args.data))) }
  | .createMany =>
    match args.data with
    | some (.array rows) =>
      { args with data := some (.array (rows.map (assign "companyId" (.text companyId)))) }
    | data =>
      { args with data := some (.object (assign "companyId" (.text companyId) (Data.entries data))) }
  | .upsert =>
    { args with
      where_ := some (args.conditions.set "companyId" (.text companyId))
      create := some (assign "companyId" (.text companyId) (args.create.getD [])) }
  | _ => args

def scopeClause (principal field : Option String) : List (Where String (Given γ)) :=
  match principal, field with
  | some id, some field => [Where.field field (.text id)]
  | _, _ => []

def scopeClauses (config : PortalScope) (store : TenantStore) : List (Where String (Given γ)) :=
  scopeClause (truthy store.portalApplicantId) config.applicantField ++
    scopeClause (truthy store.portalBrokerId) config.brokerField ++
      scopeClause (truthy store.portalBrokerId) config.selfField

def injectPortalScope (model : String) (operation : Operation) (args : Args γ)
    (store : TenantStore) : Args γ :=
  if operation.filters then
    match portalScopeOf model with
    | none => args
    | some config =>
      if scopeClauses (γ := γ) config store = [] then args
      else { args with
        where_ := some (args.conditions.andAlso (.anyOf (scopeClauses config store))) }
  else args

/-- **The extension**: a query on a table of a company is rewritten, and refused outside of one. -/
def tenantExtension (context : Option TenantStore) (model : String) (operation : Operation)
    (args : Args γ) : Except ServiceError (Args γ) :=
  if tenantScopedModels.contains model then do
    let store ← orThrow (context.filter fun store => store.companyId ≠ "")
      (.error s!"Tenant context required for {model}.{operation.text}")
    ensure (isUuid store.companyId = true) (.error "Invalid company ID format")
    return injectPortalScope model operation (injectCompanyId operation args store.companyId) store
  else return args

end Rewriting

/-! ### What a query matches -/

/-- What the database says of the rows of a table: their text columns, and what the other conditions
make of them. -/
structure Reading (γ ρ : Type) where
  column : ρ → String → Option String
  judge : String → γ → ρ → Truth

def Reading.meaning {γ ρ : Type} (reading : Reading γ ρ) (key : String) (given : Given γ) (row : ρ) :
    Truth :=
  match given with
  | .text value => (reading.column row key).map fun text => text == value
  | .other condition => reading.judge key condition row

section Matches

variable {γ ρ : Type} (reading : Reading γ ρ)

def Args.Matches (args : Args γ) (row : ρ) : Prop := args.conditions.Matches reading.meaning row

/-- **A row of the principal**: its columns that name an applicant or a broker name the one of the
session, where the table has such a scope. -/
structure BelongsTo (store : TenantStore) (model : String) (row : ρ) : Prop where
  applicant : ∀ config ∈ portalScopeOf model, ∀ field ∈ config.applicantField,
    ∀ applicantId ∈ truthy store.portalApplicantId, reading.column row field = some applicantId
  broker : ∀ config ∈ portalScopeOf model, ∀ field ∈ config.brokerField,
    ∀ brokerId ∈ truthy store.portalBrokerId, reading.column row field = some brokerId
  self : ∀ config ∈ portalScopeOf model, config.brokerIsSelf = true →
    ∀ brokerId ∈ truthy store.portalBrokerId, reading.column row "id" = some brokerId

variable {reading} {row : ρ} {store : TenantStore} {model : String} {operation : Operation}
  {args rewritten : Args γ}

theorem meaning_text {key value : String} :
    reading.meaning key (.text value) row = some true ↔ reading.column row key = some value := by
  rw [Reading.meaning]
  cases reading.column row key with
  | none => exact iff_of_false nofun nofun
  | some text => simp

theorem matches_scopeClause {principal field : Option String} :
    ((scopeClause principal field : List (Where String (Given γ))) = [] ∨
      ∃ clause ∈ (scopeClause principal field : List (Where String (Given γ))),
        clause.Matches reading.meaning row) ↔
    ∀ name ∈ field, ∀ id ∈ principal, reading.column row name = some id := by
  cases principal with
  | none => simp [scopeClause]
  | some id =>
    cases field with
    | none => simp [scopeClause]
    | some name => simp [scopeClause, Where.matches_field, meaning_text]

theorem brokerField_or_self {config : PortalScope} (found : portalScopeOf model = some config) :
    config.brokerField = none ∨ config.brokerIsSelf = false := by
  have all : ∀ entry ∈ portalScopedModels,
      entry.2.brokerField = none ∨ entry.2.brokerIsSelf = false := by decide
  obtain ⟨before, behind, parts, _⟩ := List.lookup_eq_some_iff.mp found
  exact all (model, config) (parts ▸ List.mem_append_right _ List.mem_cons_self)

theorem belongsTo_iff {config : PortalScope} (found : portalScopeOf model = some config) :
    BelongsTo reading store model row ↔
      (∀ field ∈ config.applicantField, ∀ applicantId ∈ truthy store.portalApplicantId,
        reading.column row field = some applicantId) ∧
      (∀ field ∈ config.brokerField, ∀ brokerId ∈ truthy store.portalBrokerId,
        reading.column row field = some brokerId) ∧
      ∀ field ∈ config.selfField, ∀ brokerId ∈ truthy store.portalBrokerId,
        reading.column row field = some brokerId := by
  have only : ∀ other ∈ portalScopeOf model, other = config :=
    fun other isOther => Option.some.inj (isOther.symm.trans found)
  constructor
  · intro belongs
    refine ⟨belongs.applicant config found, belongs.broker config found, fun field isField => ?_⟩
    unfold PortalScope.selfField at isField
    split at isField
    · cases isField
      exact belongs.self config found ‹_›
    · cases isField
  · rintro ⟨applicant, broker, self⟩
    refine ⟨fun other isOther => only other isOther ▸ applicant,
      fun other isOther => only other isOther ▸ broker, fun other isOther isSelf => ?_⟩
    obtain rfl := only other isOther
    exact self "id" (by rw [PortalScope.selfField, if_pos isSelf]; rfl)

/-- **A choice of the clauses is the principal**: there is one clause at most. -/
theorem matches_scopeClauses {config : PortalScope} (found : portalScopeOf model = some config) :
    ((scopeClauses config store : List (Where String (Given γ))) = [] ∨
      ∃ clause ∈ (scopeClauses config store : List (Where String (Given γ))),
        clause.Matches reading.meaning row) ↔ BelongsTo reading store model row := by
  have noPrincipal : ∀ field, (scopeClause none field : List (Where String (Given γ))) = [] :=
    fun _ => rfl
  have noField : ∀ principal, (scopeClause principal none : List (Where String (Given γ))) = [] :=
    fun principal => by cases principal <;> rfl
  rw [belongsTo_iff found, scopeClauses]
  rcases store.one with noApplicant | noBroker
  · have none_ : truthy store.portalApplicantId = none := by rw [noApplicant]; rfl
    rw [none_, noPrincipal, List.nil_append]
    rcases brokerField_or_self found with isNone | notSelf
    · rw [isNone, noField, List.nil_append, matches_scopeClause]
      exact ⟨fun self => ⟨nofun, nofun, self⟩, fun all => all.2.2⟩
    · have isNone : config.selfField = none := by rw [PortalScope.selfField, notSelf]; rfl
      rw [isNone, noField, List.append_nil, matches_scopeClause]
      exact ⟨fun broker => ⟨nofun, broker, nofun⟩, fun all => all.2.1⟩
  · have none_ : truthy store.portalBrokerId = none := by rw [noBroker]; rfl
    rw [none_, noPrincipal, noPrincipal, List.append_nil, List.append_nil, matches_scopeClause]
    exact ⟨fun applicant => ⟨applicant, nofun, nofun⟩, fun all => all.1⟩

theorem matches_injectCompanyId {companyId : String} (filters : operation.filters = true) :
    (injectCompanyId operation args companyId).Matches reading row ↔
      reading.column row "companyId" = some companyId ∧
        (args.conditions.without "companyId").Matches reading.meaning row := by
  unfold injectCompanyId
  rw [if_pos filters, Args.Matches, Args.conditions, Option.getD_some, Where.matches_set,
    meaning_text]

theorem matches_injectPortalScope (filters : operation.filters = true) :
    (injectPortalScope model operation args store).Matches reading row ↔
      args.Matches reading row ∧ BelongsTo reading store model row := by
  rw [injectPortalScope, if_pos filters]
  cases found : portalScopeOf model with
  | none =>
    have unscoped : ∀ config, portalScopeOf model ≠ some config := by
      intro config isConfig
      rw [found] at isConfig
      cases isConfig
    exact (and_iff_left ⟨fun config is => absurd is (unscoped config),
      fun config is => absurd is (unscoped config),
      fun config is => absurd is (unscoped config)⟩).symm
  | some config =>
    rw [← matches_scopeClauses found]
    dsimp only
    by_cases unasked : (scopeClauses config store : List (Where String (Given γ))) = []
    · rw [if_pos unasked]
      exact (and_iff_left (Or.inl unasked)).symm
    · rw [if_neg unasked, or_iff_right unasked, Args.Matches, Args.conditions, Option.getD_some,
        Where.matches_andAlso, Where.matches_anyOf]
      rfl

/-- **What the extension does** to a query on a table of a company, in the context of one. -/
theorem tenantExtension_eq_ok {context : Option TenantStore}
    (ofCompany : tenantScopedModels.contains model = true) :
    tenantExtension context model operation args = .ok rewritten ↔ ∃ store, context = some store ∧
      store.companyId ≠ "" ∧ isUuid store.companyId = true ∧
        injectPortalScope model operation (injectCompanyId operation args store.companyId) store =
          rewritten := by
  rw [tenantExtension, if_pos ofCompany]
  simp only [bind_eq_ok, orThrow_eq_ok, ensure_eq_ok, Option.filter_eq_some_iff, decide_eq_true_eq,
    pure_eq_ok, exists_and_left, exists_const, and_assoc]

/-- **Every query is confined to the company and the principal**: whatever the where object of a
handled operation, in whatever context, the rewritten query matches the rows of the company and of
the principal that satisfy the conditions of the caller, but for what it says of the company. -/
theorem query_confined (reading : Reading γ ρ) {context : Option TenantStore}
    (ofCompany : model ∈ tenantScopedModels) (filters : operation ∈ readOps ++ writeFilterOps)
    (accepted : tenantExtension context model operation args = .ok rewritten) :
    ∃ store, context = some store ∧ ∀ row, rewritten.Matches reading row ↔
      reading.column row "companyId" = some store.companyId ∧
        BelongsTo reading store model row ∧
          (args.conditions.without "companyId").Matches reading.meaning row := by
  obtain ⟨store, isStore, _, _, rfl⟩ :=
    (tenantExtension_eq_ok (List.contains_iff_mem.mpr ofCompany)).mp accepted
  have filters : operation.filters = true := by
    rw [Operation.filters, Bool.or_eq_true, List.contains_iff_mem, List.contains_iff_mem]
    exact List.mem_append.mp filters
  refine ⟨store, isStore, fun row => ?_⟩
  rw [matches_injectPortalScope filters, matches_injectCompanyId filters]
  tauto

def Args.rows (args : Args γ) : List (Entries γ) :=
  match args.data with
  | none => []
  | some (.object entries) => [entries]
  | some (.array rows) => rows

/-- **What is created is of the company**, whatever the caller says of it. -/
theorem created_of_company {companyId : String} (creates : operation = .create ∨
    operation = .createMany) :
    ∀ entries ∈ (injectCompanyId operation args companyId).rows,
      entries.filter (fun entry => entry.1 = "companyId") = [("companyId", .text companyId)] := by
  intro entries member
  rcases creates with rfl | rfl
  · cases List.mem_singleton.mp member
    exact filter_assign _ _ _
  · obtain ⟨where_, data, create⟩ := args
    rcases data with _ | ⟨row⟩ | ⟨rows⟩
    · cases List.mem_singleton.mp member
      exact filter_assign _ _ _
    · cases List.mem_singleton.mp member
      exact filter_assign _ _ _
    · obtain ⟨row, _, rfl⟩ := List.mem_map.mp member
      exact filter_assign _ _ _

end Matches

/-! ### A broker that asks for the payments of others -/

def plainReading : Reading Empty (String → Option String) where
  column row key := row key
  judge _ condition _ := condition.elim

def brokerStore : TenantStore where
  companyId := "11111111-1111-4111-8111-111111111111"
  portalBrokerId := some "22222222-2222-4222-8222-222222222222"
  one := Or.inl rfl

/-- The approved payments of another company, or all of them, but those of another broker. -/
def strayQuery : Args Empty where
  where_ := some (.object [("companyId", .text "33333333-3333-4333-8333-333333333333")]
    (.object (.anyOf [.field "status" (.text "APPROVED"), .empty])) .absent
    (.object (.field "brokerId" (.text "44444444-4444-4444-8444-444444444444"))))

theorem strayQuery_confined : ∃ store, some brokerStore = some store ∧ ∀ row,
    (injectPortalScope "CommissionPayment" .findMany
      (injectCompanyId .findMany strayQuery brokerStore.companyId) brokerStore).Matches plainReading
        row ↔ plainReading.column row "companyId" = some store.companyId ∧
          BelongsTo plainReading store "CommissionPayment" row ∧
            (strayQuery.conditions.without "companyId").Matches plainReading.meaning row :=
  query_confined plainReading (by decide) (by decide)
    ((tenantExtension_eq_ok (by decide)).mpr ⟨brokerStore, rfl, by decide, by decide, rfl⟩)

end OpenEstate.Tenancy
