/-
**Documents in the portal.**

A customer lists the documents that carry it as their applicant, and fetches by id whatever the
row-level policy lets it see: these, and those of the bookings it reaches as primary or
co-applicant. A document of a booking carries the primary applicant.

* `coincide_iff`: the two are the same exactly when every such document on a booking that the caller
  reaches carries the caller;
* `brokerDocuments_coincide`: those of a broker are always the same;
* `portal_documents_coincide_iff`: in a run, exactly when no such document is stored for a booking
  with another applicant beside the primary one;
* `coApplicant_fetches_unlisted`: a co-applicant fetches a statement that it never sees listed.
-/

import OpenEstate.Documents.Schema
import OpenEstate.Postsales.MergedAway

namespace OpenEstate.Documents

open Relational

/-! ### The policy -/

structure PortalContext where
  applicantId : Option Nat := none
  brokerId : Option Nat := none

def portalCanAccessBooking (applicantId : Nat) (sales : Db) (bookingId : Nat) : Bool :=
  (sales.bookings.find? bookingId).any fun booking =>
    booking.primaryApplicantId == applicantId || booking.coApplicantIds.contains applicantId

def generatedDocumentsPortalScope (context : PortalContext) (sales : Db) (doc : GeneratedDocument) :
    Bool :=
  match context.applicantId, context.brokerId with
  | none, none => true
  | some applicantId, none => doc.applicantId == some applicantId ||
      doc.bookingId.any (portalCanAccessBooking applicantId sales)
  | none, some brokerId => doc.brokerId == some brokerId && doc.documentType == .brokerStatement
  | some _, some _ => false

/-! ### Fetching and listing -/

inductive PortalDocumentSession
  | customer
  | broker (brokerId : Nat)

def customerPortalDocumentTypes : List GeneratedDocumentType := [.statement, .receipt, .demandLetter]

def brokerPortalDocumentTypes : List GeneratedDocumentType := [.brokerStatement]

def PortalDocumentSession.where_ : PortalDocumentSession → GeneratedDocument → Bool
  | .broker brokerId, doc =>
    doc.brokerId == some brokerId && brokerPortalDocumentTypes.contains doc.documentType
  | .customer, doc => customerPortalDocumentTypes.contains doc.documentType

structure DocumentBytes where
  buffer : List UInt8
  mimeType : String
  originalName : String

namespace DocumentService

def getDocumentBytesForPortal (id : Nat) (session : PortalDocumentSession) (context : PortalContext)
    (state : DocumentStore) : Except ServiceError DocumentBytes := do
  let doc ← orThrow ((state.documents.find? id).filter fun doc =>
      session.where_ doc && generatedDocumentsPortalScope context state.sales doc) (.notFound "Document not found")
  let buffer ← orThrow (state.files doc.storedName) (.error "ENOENT: no such file or directory")
  return { buffer, mimeType := doc.mimeType, originalName := doc.originalName }

def listForPortal (applicantId : Nat) (context : PortalContext) (state : DocumentStore) :
    List (Nat × GeneratedDocument) :=
  state.documents.select fun _ doc =>
    doc.applicantId == some applicantId &&
      customerPortalDocumentTypes.contains doc.documentType &&
        generatedDocumentsPortalScope context state.sales doc

def listForBrokerPortal (brokerId : Nat) (context : PortalContext) (state : DocumentStore) :
    List (Nat × GeneratedDocument) :=
  state.documents.select fun _ doc =>
    doc.brokerId == some brokerId && brokerPortalDocumentTypes.contains doc.documentType &&
      generatedDocumentsPortalScope context state.sales doc

end DocumentService

open DocumentService

def customerContext (applicantId : Nat) : PortalContext := { applicantId := some applicantId }

def brokerContext (brokerId : Nat) : PortalContext := { brokerId := some brokerId }

def Coincide (state : DocumentStore) (applicantId : Nat) : Prop :=
  ∀ id, (∃ bytes, getDocumentBytesForPortal id .customer (customerContext applicantId) state =
      .ok bytes) ↔
    ∃ doc, (id, doc) ∈ listForPortal applicantId (customerContext applicantId) state

section Sessions

variable {state : DocumentStore} {applicantId brokerId id : Nat} {doc : GeneratedDocument}

theorem fetches_iff {session : PortalDocumentSession} {context : PortalContext} :
    (∃ bytes, getDocumentBytesForPortal id session context state = .ok bytes) ↔
      ∃ doc, state.documents.find? id = some doc ∧
        session.where_ doc = true ∧
          generatedDocumentsPortalScope context state.sales doc = true := by
  simp only [getDocumentBytesForPortal, bind_eq_ok, orThrow_eq_ok, Option.filter_eq_some_iff,
    Bool.and_eq_true]
  constructor
  · rintro ⟨_, doc, ⟨found, asked, visible⟩, _⟩
    exact ⟨doc, found, asked, visible⟩
  · rintro ⟨doc, found, asked, visible⟩
    obtain ⟨buffer, isBuffer⟩ := Option.isSome_iff_exists.mp (state.readable id doc found)
    exact ⟨_, doc, ⟨found, asked, visible⟩, buffer, isBuffer, rfl⟩

def Reaches (state : DocumentStore) (applicantId : Nat) (doc : GeneratedDocument) : Prop :=
  ∃ bookingId, doc.bookingId = some bookingId ∧
    portalCanAccessBooking applicantId state.sales bookingId = true

theorem scope_customer : generatedDocumentsPortalScope (customerContext applicantId) state.sales doc =
    true ↔ doc.applicantId = some applicantId ∨ Reaches state applicantId doc := by
  simp only [generatedDocumentsPortalScope, customerContext, Bool.or_eq_true, beq_iff_eq,
    Option.any_eq_true, Reaches]

theorem mem_listForPortal : (id, doc) ∈ listForPortal applicantId (customerContext applicantId)
    state ↔ state.documents.find? id = some doc ∧ doc.applicantId = some applicantId ∧
      doc.documentType ∈ customerPortalDocumentTypes := by
  rw [listForPortal, Table.mem_select, Bool.and_eq_true, Bool.and_eq_true, beq_iff_eq,
    List.contains_iff_mem, scope_customer]
  exact and_congr_right fun _ =>
    ⟨fun listed => listed.1, fun listed => ⟨listed, Or.inl listed.1⟩⟩

theorem coincide_iff : Coincide state applicantId ↔
    ∀ id doc, state.documents.find? id = some doc → doc.documentType ∈ customerPortalDocumentTypes →
      Reaches state applicantId doc → doc.applicantId = some applicantId := by
  simp only [Coincide, fetches_iff, mem_listForPortal, scope_customer]
  constructor
  · intro same id doc found isType reaches
    obtain ⟨listed, found', own, _⟩ := (same id).mp
      ⟨doc, found, List.contains_iff_mem.mpr isType, Or.inr reaches⟩
    rw [Option.some.inj (found.symm.trans found')]
    exact own
  · intro carries id
    constructor
    · rintro ⟨doc, found, isType, visible⟩
      have isType := List.contains_iff_mem.mp isType
      exact ⟨doc, found, visible.elim (fun own => own) (carries id doc found isType), isType⟩
    · rintro ⟨doc, found, own, isType⟩
      exact ⟨doc, found, List.contains_iff_mem.mpr isType, Or.inl own⟩

theorem brokerDocuments_coincide (state : DocumentStore) (brokerId id : Nat) :
    (∃ bytes, getDocumentBytesForPortal id (.broker brokerId) (brokerContext brokerId) state =
        .ok bytes) ↔
      ∃ doc, (id, doc) ∈ listForBrokerPortal brokerId (brokerContext brokerId) state := by
  simp only [fetches_iff, listForBrokerPortal, Table.mem_select, Bool.and_eq_true,
    PortalDocumentSession.where_]

end Sessions

/-! ### Runs -/

inductive DocumentOp
  | sales (request : Request)
  | createBroker
  | generateReceiptPdf (receiptId : Nat) (file : RenderedFile)
  | reprintReceiptPdf (receiptId : Nat) (original duplicate : RenderedFile)
  | generateStatementPdf (bookingId : Nat) (file : RenderedFile)
  | generateBrokerStatementPdf (brokerId : Nat) (file : RenderedFile)
  | generateLetterPdf (letterType : LetterType) (bookingId : Nat)
    (rendered : Except ServiceError RenderedFile)

def execDocument (op : DocumentOp) (state : DocumentStore) : Except ServiceError DocumentStore :=
  match op with
  | .sales request => state.withSales <$> exec request state.sales
  | .createBroker => .ok state.withBroker
  | .generateReceiptPdf receiptId file => Prod.fst <$> generateReceiptPdf receiptId file state
  | .reprintReceiptPdf receiptId original duplicate =>
    Prod.fst <$> reprintReceiptPdf receiptId original duplicate state
  | .generateStatementPdf bookingId file => Prod.fst <$> generateStatementPdf bookingId file state
  | .generateBrokerStatementPdf brokerId file =>
    Prod.fst <$> generateBrokerStatementPdf brokerId file state
  | .generateLetterPdf letterType bookingId rendered =>
    Prod.fst <$> generateLetterPdf letterType bookingId rendered state

def PrimaryOnly (sales : Db) (bookingId : Nat) : Prop :=
  ∀ booking, sales.bookings.find? bookingId = some booking →
    ∀ applicantId ∈ booking.coApplicantIds, applicantId = booking.primaryApplicantId

/-- **The condition on an operation**: a document of the portal is only stored for a booking that has
no applicant beside its primary one. -/
def StoresForOne (state : DocumentStore) : DocumentOp → Prop
  | .generateReceiptPdf receiptId _ => originalReceipt receiptId state = none →
      ∀ receipt, state.sales.receipts.find? receiptId = some receipt →
        PrimaryOnly state.sales receipt.bookingId
  | .reprintReceiptPdf receiptId _ _ =>
      ∀ receipt, state.sales.receipts.find? receiptId = some receipt →
        PrimaryOnly state.sales receipt.bookingId
  | .generateStatementPdf bookingId _ => PrimaryOnly state.sales bookingId
  | .generateLetterPdf .demandLetter bookingId _ => PrimaryOnly state.sales bookingId
  | _ => True

/-- A document of the portal is of a booking, and carries the primary applicant of it. -/
def Owned (sales : Db) (doc : GeneratedDocument) : Prop :=
  doc.documentType ∈ customerPortalDocumentTypes → ∃ bookingId booking,
    doc.bookingId = some bookingId ∧ sales.bookings.find? bookingId = some booking ∧
      doc.applicantId = some booking.primaryApplicantId

/-- A document of the portal is of a booking with no applicant beside the primary one. -/
def ForOne (sales : Db) (doc : GeneratedDocument) : Prop :=
  doc.documentType ∈ customerPortalDocumentTypes →
    ∀ bookingId, doc.bookingId = some bookingId → PrimaryOnly sales bookingId

section Steps

variable {state after : DocumentStore}
variable {applicantId bookingId : Nat}
variable {sales : Db}

theorem canAccess_iff :
    portalCanAccessBooking applicantId sales bookingId = true ↔
      ∃ booking, sales.bookings.find? bookingId = some booking ∧
        applicantId ∈ booking.applicants := by
  simp only [portalCanAccessBooking, Option.any_eq_true, Bool.or_eq_true, beq_iff_eq,
    List.contains_eq_mem, decide_eq_true_eq, Booking.applicants, List.mem_cons,
    @eq_comm _ applicantId]

/-- **Of documents that carry the primary applicant**: all customers fetch what they list exactly
when the documents of the portal are of bookings with no other applicant. -/
theorem coincide_iff_forOne (owned : state.documents.All (Owned state.sales)) :
    (∀ applicantId, Coincide state applicantId) ↔ state.documents.All (ForOne state.sales) := by
  simp only [coincide_iff]
  constructor
  · intro carries id doc found isType bookingId ofBooking booking isBooking applicantId co
    obtain ⟨bookingId', booking', ofBooking', isBooking', own⟩ := owned id doc found isType
    obtain rfl : bookingId = bookingId' := Option.some.inj (ofBooking.symm.trans ofBooking')
    obtain rfl : booking = booking' := Option.some.inj (isBooking.symm.trans isBooking')
    have carried := carries applicantId id doc found isType ⟨bookingId, ofBooking,
      canAccess_iff.mpr ⟨booking, isBooking, List.mem_cons_of_mem _ co⟩⟩
    exact Option.some.inj (carried.symm.trans own)
  · intro forOne applicantId id doc found isType reaches
    obtain ⟨bookingId, ofBooking, access⟩ := reaches
    obtain ⟨booking, isBooking, named⟩ := canAccess_iff.mp access
    obtain ⟨bookingId', booking', ofBooking', isBooking', own⟩ := owned id doc found isType
    obtain rfl : bookingId = bookingId' := Option.some.inj (ofBooking.symm.trans ofBooking')
    obtain rfl : booking = booking' := Option.some.inj (isBooking.symm.trans isBooking')
    rcases List.mem_cons.mp named with rfl | co
    · exact own
    · rw [forOne id doc found isType bookingId ofBooking booking isBooking applicantId co]
      exact own

theorem listed_letter {letterType : LetterType} :
    letterType.documentType ∈ customerPortalDocumentTypes ↔ letterType = .demandLetter := by
  cases letterType <;> decide

def KeepsApplicants (sales later : Db) : Prop :=
  ∀ bookingId booking, sales.bookings.find? bookingId = some booking →
    ∃ now, later.bookings.find? bookingId = some now ∧ now.applicants = booking.applicants

theorem KeepsApplicants.refl (sales : Db) : KeepsApplicants sales sales :=
  fun _ booking found => ⟨booking, found, rfl⟩

theorem KeepsApplicants.of_modify {later : Db} (change : Booking → Booking)
    (is : later.bookings = sales.bookings.modify bookingId change)
    (same : ∀ booking, (change booking).applicants = booking.applicants) :
    KeepsApplicants sales later := by
  intro id booking found
  have shown : (later.bookings.find? id).map Booking.applicants =
      (sales.bookings.find? id).map Booking.applicants := by
    rw [is]
    exact Table.map_find?_modify same id
  rw [found] at shown
  exact Option.map_eq_some_iff.mp shown

theorem exec_keepsApplicants {request : Request} {later : Db}
    (accepted : exec request sales = .ok later) : KeepsApplicants sales later := by
  cases exec_effect accepted with
  | createBooking =>
    exact fun id booking found => ⟨booking, Table.find?_create_old _ found, rfl⟩
  | @advance _ _ _ target =>
    exact .of_modify (fun row => { row with status := target.status }) rfl fun _ => rfl
  | @setInterestRule _ _ _ ruleId =>
    exact .of_modify (fun row => { row with interestRuleId := ruleId }) rfl fun _ => rfl
  | instantiateFromTemplate found deactivated =>
    rw [deactivateExistingPlans_frame deactivated]
    exact .refl sales
  | createCustomPlan found deactivated =>
    rw [deactivateExistingPlans_frame deactivated]
    exact .refl sales
  | raiseStage stage =>
    rcases stage with rfl | ⟨stageRaise, rfl⟩
    · exact .refl _
    · exact .refl sales
  | @voucherBounced _ _ _ voucher =>
    cases voucher.refundId <;> exact .refl sales
  | @transfer _ _ fromBookingId =>
    have closed : KeepsApplicants sales (sales.setBookingStatus fromBookingId .transferredOut) :=
      .of_modify (fun row => { row with status := .transferredOut }) rfl fun _ => rfl
    intro id booking found
    obtain ⟨now, isNow, same⟩ := closed id booking found
    exact ⟨now, Table.find?_create_old _ isNow, same⟩
  | @cancel _ _ _ dto =>
    exact .of_modify (fun row => { row with status := dto.cancellationType.status }) rfl fun _ => rfl
  | _ => exact .refl sales

theorem Owned.later {sales later : Db} (kept : KeepsApplicants sales later)
    {doc : GeneratedDocument} (owned : Owned sales doc) : Owned later doc := by
  intro isType
  obtain ⟨bookingId, booking, ofBooking, found, own⟩ := owned isType
  obtain ⟨now, isNow, same⟩ := kept bookingId booking found
  have primary : now.primaryApplicantId = booking.primaryApplicantId := (List.cons.inj same).1
  exact ⟨bookingId, now, ofBooking, isNow, primary ▸ own⟩

theorem ForOne.later {sales later : Db} (kept : KeepsApplicants sales later)
    {doc : GeneratedDocument} (owned : Owned sales doc) (forOne : ForOne sales doc) :
    ForOne later doc := by
  intro isType bookingId ofBooking now isNow applicantId co
  obtain ⟨bookingId', booking, ofBooking', found, _⟩ := owned isType
  obtain rfl : bookingId = bookingId' := Option.some.inj (ofBooking.symm.trans ofBooking')
  obtain ⟨now', isNow', same⟩ := kept bookingId booking found
  obtain rfl : now = now' := Option.some.inj (isNow.symm.trans isNow')
  obtain ⟨primary, others⟩ := List.cons.inj same
  rw [others] at co
  rw [primary]
  exact forOne isType bookingId ofBooking booking found applicantId co

/-- **What storing documents keeps**: they are owned, and for one applicant under a condition. -/
structure Stores (state after : DocumentStore) (condition : Prop) : Prop where
  sales : after.sales = state.sales
  owned : state.documents.All (Owned state.sales) → after.documents.All (Owned after.sales)
  forOne : after.documents.All (ForOne after.sales) ↔
    state.documents.All (ForOne state.sales) ∧ condition

theorem Stores.refl (state : DocumentStore) : Stores state state True :=
  ⟨rfl, fun owned => owned, (and_iff_left trivial).symm⟩

theorem Stores.of_iff {condition other : Prop} (stores : Stores state after condition)
    (same : condition ↔ other) : Stores state after other :=
  ⟨stores.sales, stores.owned, stores.forOne.trans (and_congr_right fun _ => same)⟩

theorem Stores.trans {between : DocumentStore} {first second : Prop}
    (before : Stores state between first) (behind : Stores between after second) :
    Stores state after (first ∧ second) where
  sales := behind.sales.trans before.sales
  owned owned := behind.owned (before.owned owned)
  forOne := by rw [behind.forOne, before.forOne, and_assoc]

variable {file : RenderedFile}
variable {doc : GeneratedDocument}

theorem stores_of_booking {booking : Booking}
    (found : state.sales.bookings.find? bookingId = some booking)
    (ofBooking : doc.bookingId = some bookingId)
    (own : doc.applicantId = some booking.primaryApplicantId) : Stores state (state.add doc file)
      (doc.documentType ∈ customerPortalDocumentTypes → PrimaryOnly state.sales bookingId) where
  sales := rfl
  owned owned := Table.all_create.mpr
    ⟨owned, fun _ => ⟨bookingId, booking, ofBooking, found, own⟩⟩
  forOne := by
    refine Table.all_create.trans (and_congr_right fun _ => forall_congr' fun _ => ?_)
    show (∀ id, doc.bookingId = some id → PrimaryOnly state.sales id) ↔ _
    simp only [ofBooking, Option.some.injEq, forall_eq']

theorem stores_of_other (other : doc.documentType ∉ customerPortalDocumentTypes) :
    Stores state (state.add doc file) True where
  sales := rfl
  owned owned := Table.all_create.mpr ⟨owned, fun isType => absurd isType other⟩
  forOne := Table.all_create.trans
    (and_congr_right fun _ => iff_of_true (fun isType => absurd isType other) trivial)

variable {receiptId : Nat}

theorem buildReceiptContext_eq_ok
    (built : buildReceiptContext receiptId state = .ok (bookingId, applicantId)) :
    ∃ receipt booking, state.sales.receipts.find? receiptId = some receipt ∧
      receipt.bookingId = bookingId ∧ state.sales.bookings.find? bookingId = some booking ∧
        booking.primaryApplicantId = applicantId := by
  obtain ⟨receipt, found, built⟩ := bind_eq_ok.mp built
  obtain ⟨booking, included, built⟩ := bind_eq_ok.mp built
  cases built
  exact ⟨receipt, booking, orThrow_eq_ok.mp found, rfl, orThrow_eq_ok.mp included, rfl⟩

theorem stores_receipt (built : buildReceiptContext receiptId state = .ok (bookingId, applicantId))
    (isReceipt : doc.documentType = .receipt) (ofBooking : doc.bookingId = some bookingId)
    (own : doc.applicantId = some applicantId) :
    Stores state (state.add doc file) (∀ receipt, state.sales.receipts.find? receiptId =
      some receipt → PrimaryOnly state.sales receipt.bookingId) := by
  obtain ⟨receipt, booking, found, rfl, isBooking, rfl⟩ := buildReceiptContext_eq_ok built
  have listed : doc.documentType ∈ customerPortalDocumentTypes := by rw [isReceipt]; decide
  refine (stores_of_booking isBooking ofBooking own).of_iff ?_
  rw [found]
  simp only [listed, true_implies, Option.some.injEq, forall_eq']

theorem stores_generateReceiptPdf {answer : DocumentStore × Nat}
    (accepted : generateReceiptPdf receiptId file state = .ok answer) :
    Stores state answer.1 (originalReceipt receiptId state = none →
      ∀ receipt, state.sales.receipts.find? receiptId = some receipt →
        PrimaryOnly state.sales receipt.bookingId) := by
  rw [generateReceiptPdf] at accepted
  cases existing : originalReceipt receiptId state with
  | some original =>
    rw [existing] at accepted
    cases accepted
    exact (Stores.refl state).of_iff (iff_of_true trivial nofun)
  | none =>
    rw [existing] at accepted
    obtain ⟨⟨bookingId, applicantId⟩, built, accepted⟩ := bind_eq_ok.mp accepted
    rw [store_eq_ok accepted]
    exact (stores_receipt built rfl rfl rfl).of_iff ⟨fun one _ => one, fun one => one rfl⟩

/-- **One operation**: what it stores is owned, and is for one applicant exactly under its condition. -/
theorem execDocument_stores {op : DocumentOp} (owned : state.documents.All (Owned state.sales))
    (accepted : execDocument op state = .ok after) :
    after.documents.All (Owned after.sales) ∧ (state.documents.All (ForOne state.sales) →
      (after.documents.All (ForOne after.sales) ↔ StoresForOne state op)) := by
  have of_stores : ∀ {condition : Prop}, Stores state after condition →
      (condition ↔ StoresForOne state op) → after.documents.All (Owned after.sales) ∧
        (state.documents.All (ForOne state.sales) →
          (after.documents.All (ForOne after.sales) ↔ StoresForOne state op)) :=
    fun stores same => ⟨stores.owned owned, fun forOne =>
      stores.forOne.trans ((and_iff_right forOne).trans same)⟩
  cases op with
  | sales request =>
    obtain ⟨sales, done, rfl⟩ := map_eq_ok.mp accepted
    have kept := exec_keepsApplicants done
    refine ⟨fun id doc found => (owned id doc found).later kept, fun forOne =>
      iff_of_true (fun id doc found => (forOne id doc found).later kept (owned id doc found)) trivial⟩
  | createBroker =>
    cases accepted
    exact ⟨owned, fun forOne => iff_of_true forOne trivial⟩
  | generateReceiptPdf receiptId file =>
    obtain ⟨answer, done, rfl⟩ := map_eq_ok.mp accepted
    exact of_stores (stores_generateReceiptPdf done) Iff.rfl
  | reprintReceiptPdf receiptId original duplicate =>
    obtain ⟨answer, done, rfl⟩ := map_eq_ok.mp accepted
    obtain ⟨⟨generated, originalId⟩, first, done⟩ := bind_eq_ok.mp done
    obtain ⟨⟨bookingId, applicantId⟩, built, done⟩ := bind_eq_ok.mp done
    rw [store_eq_ok done] at of_stores ⊢
    have before := stores_generateReceiptPdf first
    have same : generated.sales = state.sales := before.sales
    refine of_stores (before.trans (stores_receipt built rfl rfl rfl)) ?_
    rw [same]
    exact ⟨fun both => both.2, fun one => ⟨fun _ => one, one⟩⟩
  | generateStatementPdf bookingId file =>
    obtain ⟨answer, done, rfl⟩ := map_eq_ok.mp accepted
    obtain ⟨booking, found, done⟩ := bind_eq_ok.mp done
    rw [store_eq_ok done] at of_stores ⊢
    exact of_stores (stores_of_booking (orThrow_eq_ok.mp found) rfl rfl)
      ⟨fun one => one List.mem_cons_self, fun one _ => one⟩
  | generateBrokerStatementPdf brokerId file =>
    obtain ⟨answer, done, rfl⟩ := map_eq_ok.mp accepted
    obtain ⟨_, _, done⟩ := bind_eq_ok.mp done
    rw [store_eq_ok done] at of_stores ⊢
    refine of_stores (stores_of_other ?_) Iff.rfl
    show GeneratedDocumentType.brokerStatement ∉ customerPortalDocumentTypes
    decide
  | generateLetterPdf letterType bookingId rendered =>
    obtain ⟨answer, done, rfl⟩ := map_eq_ok.mp accepted
    obtain ⟨booking, found, done⟩ := bind_eq_ok.mp done
    obtain ⟨file, _, done⟩ := bind_eq_ok.mp done
    rw [store_eq_ok done] at of_stores ⊢
    refine of_stores (stores_of_booking (orThrow_eq_ok.mp found) rfl rfl) ?_
    show (letterType.documentType ∈ _ → _) ↔ _
    rw [listed_letter]
    cases letterType with
    | demandLetter => exact ⟨fun one => one rfl, fun one _ => one⟩
    | allotmentLetter => exact iff_of_true nofun trivial
    | reminderLetter => exact iff_of_true nofun trivial

end Steps

/-- **Listed and fetchable documents coincide**, for every customer in every state of a run, exactly
when a document of the portal is only stored for a booking with no applicant beside its primary
one; and in any state, for one customer, exactly when the documents on the bookings that it reaches
carry it. -/
theorem portal_documents_coincide_iff (ops : List DocumentOp) (state : DocumentStore)
    (applicantId : Nat) :
    ((∀ state ∈ states execDocument {} ops, ∀ applicantId, Coincide state applicantId) ↔
      ∀ step ∈ steps execDocument {} ops, StoresForOne step.before step.input) ∧
    (Coincide state applicantId ↔ ∀ id doc, state.documents.find? id = some doc →
      doc.documentType ∈ customerPortalDocumentTypes → Reaches state applicantId doc →
      doc.applicantId = some applicantId) := by
  refine ⟨?_, coincide_iff⟩
  refine forall_states_iff (fun op before after
      (owned : before.documents.All (Owned before.sales)) accepted =>
        (execDocument_stores owned accepted).1) (fun op before after owned holds accepted => ?_) ops
    Table.All.empty fun applicantId => coincide_iff.mpr fun _ _ found => by cases found
  obtain ⟨ownedAfter, exact_⟩ := execDocument_stores owned accepted
  rw [coincide_iff_forOne ownedAfter]
  exact exact_ ((coincide_iff_forOne owned).mp holds)

/-- A unit sold to one applicant with another one beside it, and a statement of the booking. -/
def sharedSale : List DocumentOp :=
  [.sales ⟨{}, .createApplicant⟩, .sales ⟨{}, .createApplicant⟩,
    .sales ⟨{}, .createUnit "A-101" 0⟩,
    .sales ⟨smallMasters 0 0, .createBooking { smallBooking with
      primaryApplicantId := 1, coApplicantIds := [0], coApplicants_max := by decide }⟩,
    .generateStatementPdf 0 { buffer := pdfMagic, originalName := "statement-1.pdf"
                              storageName := "1.pdf" }]

/-- **A co-applicant fetches a statement that it does not see listed.** -/
theorem coApplicant_fetches_unlisted :
    ¬(∀ state ∈ states execDocument {} sharedSale, ∀ applicantId, Coincide state applicantId) := by
  intro coincide
  have carries := coincide_iff.mp (coincide _ (run_mem_states _ _) 0) 0 _ rfl (by decide)
    ⟨0, rfl, by decide⟩
  exact absurd carries (by decide)

end OpenEstate.Documents
