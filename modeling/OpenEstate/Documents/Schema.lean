/-
**Stored documents.**

A document is rendered once, its file is kept under a name of its own, and its row says whose it is.
Which bytes and which name rendering answers is part of the input. A row is written after its file,
and no file is ever removed, so every row has one (`DocumentStore.readable`).
-/

import OpenEstate.Commission.Noc

namespace OpenEstate.Documents

open Relational

inductive GeneratedDocumentType
  | statement | receipt | allotmentLetter | demandLetter | reminderLetter | brokerStatement
  deriving DecidableEq

def GeneratedDocumentType.text : GeneratedDocumentType → String
  | .statement => "STATEMENT"
  | .receipt => "RECEIPT"
  | .allotmentLetter => "ALLOTMENT_LETTER"
  | .demandLetter => "DEMAND_LETTER"
  | .reminderLetter => "REMINDER_LETTER"
  | .brokerStatement => "BROKER_STATEMENT"

inductive LetterType
  | allotmentLetter | demandLetter | reminderLetter
  deriving DecidableEq

def LetterType.documentType : LetterType → GeneratedDocumentType
  | .allotmentLetter => .allotmentLetter
  | .demandLetter => .demandLetter
  | .reminderLetter => .reminderLetter

structure GeneratedDocument where
  documentType : GeneratedDocumentType
  bookingId : Option Nat := none
  applicantId : Option Nat := none
  receiptId : Option Nat := none
  brokerId : Option Nat := none
  storedName : String := ""
  originalName : String := ""
  mimeType : String := "application/pdf"
  isDuplicate : Bool := false
  sourceDocumentId : Option Nat := none

structure RenderedFile where
  buffer : List UInt8
  originalName : String
  storageName : String

structure DocumentStore where
  sales : Db := {}
  brokers : Table Broker := .empty
  documents : Table GeneratedDocument := .empty
  files : String → Option (List UInt8) := fun _ => none
  readable : ∀ id doc, documents.find? id = some doc → (files doc.storedName).isSome = true := by
    intro _ _ found; cases found

namespace DocumentStore

def withSales (store : DocumentStore) (sales : Db) : DocumentStore := { store with sales }

def withBroker (store : DocumentStore) : DocumentStore :=
  { store with brokers := store.brokers.create {} }

def add (store : DocumentStore) (doc : GeneratedDocument) (file : RenderedFile) : DocumentStore where
  sales := store.sales
  brokers := store.brokers
  documents := store.documents.create
    { doc with storedName := file.storageName, originalName := file.originalName }
  files name := if name = file.storageName then some file.buffer else store.files name
  readable id row found := by
    rcases Table.find?_create_eq_some.mp found with ⟨_, rfl⟩ | old
    · rw [if_pos rfl]
      rfl
    · split
      · rfl
      · exact store.readable id row old

end DocumentStore

def pdfMagic : List UInt8 := [0x25, 0x50, 0x44, 0x46]

def documentSizeLimit : Nat := 10 * 1024 * 1024

def validatePdf (file : RenderedFile) : Except ServiceError Unit := do
  ensure (file.buffer.length ≤ documentSizeLimit)
    (.badRequest "File exceeds size limit of 10MB for category document")
  ensure (file.buffer.take pdfMagic.length = pdfMagic)
    (.badRequest "File content does not match its extension (magic byte check failed)")

namespace DocumentService

def store (doc : GeneratedDocument) (file : RenderedFile) (state : DocumentStore) :
    Except ServiceError (DocumentStore × Nat) := do
  validatePdf file
  return (state.add doc file, state.documents.nextId)

theorem store_eq_ok {doc : GeneratedDocument} {file : RenderedFile} {state : DocumentStore}
    {answer : DocumentStore × Nat} (stored : store doc file state = .ok answer) :
    answer = (state.add doc file, state.documents.nextId) := by
  obtain ⟨_, _, stored⟩ := bind_eq_ok.mp stored
  exact (Except.ok.inj stored).symm

/-! ### Generating documents -/

def originalReceipt (receiptId : Nat) (state : DocumentStore) : Option (Nat × GeneratedDocument) :=
  state.documents.findFirst? fun _ doc =>
    doc.receiptId == some receiptId && doc.documentType == .receipt && !doc.isDuplicate

def includeBooking (bookingId : Nat) (state : DocumentStore) : Except ServiceError Booking :=
  orThrow (state.sales.bookings.find? bookingId) (.error
    "Inconsistent query result: Field booking is required to return data, got null instead.")

def buildReceiptContext (receiptId : Nat) (state : DocumentStore) :
    Except ServiceError (Nat × Nat) := do
  let receipt ← orThrow (state.sales.receipts.find? receiptId) (.notFound "Receipt not found")
  let booking ← includeBooking receipt.bookingId state
  return (receipt.bookingId, booking.primaryApplicantId)

def generateReceiptPdf (receiptId : Nat) (file : RenderedFile) (state : DocumentStore) :
    Except ServiceError (DocumentStore × Nat) :=
  match originalReceipt receiptId state with
  | some (id, _) => return (state, id)
  | none => do
    let (bookingId, applicantId) ← buildReceiptContext receiptId state
    store { documentType := .receipt, bookingId := some bookingId, applicantId := some applicantId
            receiptId := some receiptId } file state

def reprintReceiptPdf (receiptId : Nat) (original duplicate : RenderedFile) (state : DocumentStore) :
    Except ServiceError (DocumentStore × Nat) := do
  let (generated, originalId) ← generateReceiptPdf receiptId original state
  let (bookingId, applicantId) ← buildReceiptContext receiptId generated
  store { documentType := .receipt, bookingId := some bookingId, applicantId := some applicantId
          receiptId := some receiptId, isDuplicate := true
          sourceDocumentId := some originalId } duplicate generated

def generateStatementPdf (bookingId : Nat) (file : RenderedFile) (state : DocumentStore) :
    Except ServiceError (DocumentStore × Nat) := do
  let booking ← orThrow (state.sales.bookings.find? bookingId) (.notFound "Booking not found")
  store { documentType := .statement, bookingId := some bookingId
          applicantId := some booking.primaryApplicantId } file state

def generateBrokerStatementPdf (brokerId : Nat) (file : RenderedFile) (state : DocumentStore) :
    Except ServiceError (DocumentStore × Nat) := do
  let _ ← orThrow (state.brokers.find? brokerId) (.notFound "Broker not found")
  store { documentType := .brokerStatement, brokerId := some brokerId } file state

/-- A letter, of what its template and its context make of it, or why they do not. -/
def generateLetterPdf (letterType : LetterType) (bookingId : Nat)
    (rendered : Except ServiceError RenderedFile) (state : DocumentStore) :
    Except ServiceError (DocumentStore × Nat) := do
  let booking ← orThrow (state.sales.bookings.find? bookingId) (.notFound "Booking not found")
  let file ← rendered
  store { documentType := letterType.documentType, bookingId := some bookingId
          applicantId := some booking.primaryApplicantId } file state

end DocumentService

end OpenEstate.Documents
