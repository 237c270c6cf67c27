/-
**Merge fields.**

A letter template is a text with tokens: the name of a field between two pairs of braces, with white
space around it if any. Every type of document has the fields that its letters may name. A text is
resolved against the values of these fields: it is refused if it names any other, and otherwise each
of its tokens is replaced.

* `readMergeToken_eq_some` says what a token is; `mergeReader` scans a text for tokens;
* `extractMergeTokens`, `validateTemplateMergeFields`, `resolveMergeFields` follow the source;
* `resolveMergeFields_eq_ok`: a text is resolved exactly when it names registered fields only.
-/

import OpenEstate.Documents.Schema
import OpenEstate.Runtime.Scan
import OpenEstate.Runtime.Text

namespace OpenEstate.Documents

open Relational

/-! ### The registry -/

def mergeFieldRegistry : GeneratedDocumentType → List String
  | .statement =>
    ["applicantName", "bookingNumber", "projectName", "unitNumber", "statementDate",
      "openingBalanceFormatted", "closingBalanceFormatted", "companyName", "companyAddress"]
  | .receipt =>
    ["applicantName", "receiptNumber", "receiptDate", "bookingNumber", "amountFormatted", "mode",
      "companyName", "companyAddress"]
  | .allotmentLetter =>
    ["applicantName", "bookingNumber", "unitNumber", "projectName", "towerName", "floorLabel",
      "agreedPriceFormatted", "allotmentDate", "companyName", "companyAddress"]
  | .demandLetter =>
    ["applicantName", "bookingNumber", "installmentLabel", "dueDate", "dueAmountFormatted",
      "projectName", "unitNumber", "companyName", "companyAddress"]
  | .reminderLetter =>
    ["applicantName", "bookingNumber", "installmentLabel", "dueDate", "overdueDays",
      "dueAmountFormatted", "companyName", "companyAddress"]
  | .brokerStatement =>
    ["brokerName", "brokerPhone", "reraAgentNo", "statementDate", "closingBalanceFormatted",
      "companyName", "companyAddress"]

/-! ### Tokens -/

def isFieldChar (char : Char) : Bool :=
  ('a'.toNat ≤ char.toNat && char.toNat ≤ 'z'.toNat) ||
    ('A'.toNat ≤ char.toNat && char.toNat ≤ 'Z'.toNat) ||
    ('0'.toNat ≤ char.toNat && char.toNat ≤ '9'.toNat) || char == '_'

/-- A token at the beginning of a text: the field, and what follows the braces. White space, the
characters of a field and the braces are apart, so nothing is ever taken back. -/
def readMergeToken : List Char → Option (List Char × List Char)
  | '{' :: '{' :: inner =>
    let inside := inner.dropWhile Runtime.isSpace
    match (inside.dropWhile isFieldChar).dropWhile Runtime.isSpace with
    | '}' :: '}' :: rest =>
      if inside.takeWhile isFieldChar = [] then none
      else some (inside.takeWhile isFieldChar, rest)
    | _ => none
  | _ => none

theorem isSpace_of_isFieldChar {char : Char} (isField : isFieldChar char = true) :
    Runtime.isSpace char = false := by
  have ranges : (97 ≤ char.toNat ∧ char.toNat ≤ 122) ∨ (65 ≤ char.toNat ∧ char.toNat ≤ 90) ∨
      (48 ≤ char.toNat ∧ char.toNat ≤ 57) ∨ char.toNat = 95 := by
    simp only [isFieldChar, Bool.or_eq_true, Bool.and_eq_true, decide_eq_true_eq, beq_iff_eq]
      at isField
    rcases isField with ((lower | upper) | digit) | rfl
    · exact Or.inl lower
    · exact Or.inr (Or.inl upper)
    · exact Or.inr (Or.inr (Or.inl digit))
    · exact Or.inr (Or.inr (Or.inr rfl))
  simp only [Runtime.isSpace, List.mem_cons, List.not_mem_nil, or_false, decide_eq_false_iff_not]
  omega

theorem span_append {α : Type} {asked : α → Bool} {taken rest : List α}
    (all : ∀ item ∈ taken, asked item = true) (ends : ∀ item ∈ rest.head?, asked item = false) :
    (taken ++ rest).takeWhile asked = taken ∧ (taken ++ rest).dropWhile asked = rest := by
  rw [List.takeWhile_append_of_pos all, List.dropWhile_append_of_pos all]
  cases rest with
  | nil => exact ⟨List.append_nil taken, rfl⟩
  | cons item rest =>
    have stops := ends item rfl
    rw [List.takeWhile_cons, List.dropWhile_cons, stops]
    exact ⟨List.append_nil taken, rfl⟩

theorem takeWhile_all {α : Type} {asked : α → Bool} (items : List α) :
    ∀ item ∈ items.takeWhile asked, asked item = true :=
  List.all_eq_true.mp List.all_takeWhile

/-- **A token** is a field between two pairs of braces, with white space around it if any. -/
theorem readMergeToken_eq_some {text field rest : List Char} :
    readMergeToken text = some (field, rest) ↔ ∃ before after,
      (∀ char ∈ before, Runtime.isSpace char = true) ∧
      (∀ char ∈ after, Runtime.isSpace char = true) ∧
      field ≠ [] ∧ (∀ char ∈ field, isFieldChar char = true) ∧
      text = '{' :: '{' :: (before ++ (field ++ (after ++ '}' :: '}' :: rest))) := by
  constructor
  · intro reads
    unfold readMergeToken at reads
    split at reads
    · rename_i inner
      dsimp only at reads
      split at reads
      · rename_i closed
        split at reads
        · cases reads
        · rename_i some_
          cases reads
          refine ⟨inner.takeWhile Runtime.isSpace, ((inner.dropWhile Runtime.isSpace).dropWhile
            isFieldChar).takeWhile Runtime.isSpace, takeWhile_all _, takeWhile_all _, some_,
              takeWhile_all _, ?_⟩
          rw [← closed, List.takeWhile_append_dropWhile, List.takeWhile_append_dropWhile,
            List.takeWhile_append_dropWhile]
      · cases reads
    · cases reads
  · rintro ⟨before, after, isBefore, isAfter, some_, isField, rfl⟩
    have closes : ∀ char ∈ ('}' :: '}' :: rest).head?, Runtime.isSpace char = false := by
      rintro char ⟨⟩
      decide
    have fieldEnds : ∀ char ∈ (after ++ '}' :: '}' :: rest).head?, isFieldChar char = false := by
      intro char first
      cases after with
      | nil =>
        cases first
        decide
      | cons space others =>
        cases first
        refine Bool.eq_false_iff.mpr fun isField => ?_
        have space := isAfter char List.mem_cons_self
        rw [isSpace_of_isFieldChar isField] at space
        cases space
    have begins : ∀ char ∈ (field ++ (after ++ '}' :: '}' :: rest)).head?,
        Runtime.isSpace char = false := by
      intro char first
      cases field with
      | nil => exact absurd rfl some_
      | cons initial others =>
        cases first
        exact isSpace_of_isFieldChar (isField char List.mem_cons_self)
    simp only [readMergeToken, (span_append isBefore begins).2, (span_append isField fieldEnds).1,
      (span_append isField fieldEnds).2, (span_append isAfter closes).2, if_neg some_]

def mergeReader : Runtime.Reader Char (List Char) where
  read := readMergeToken
  read_eq := by
    intro text field rest reads
    obtain ⟨before, after, _, _, _, _, same⟩ := readMergeToken_eq_some.mp reads
    refine ⟨'{' :: '{' :: (before ++ (field ++ (after ++ ['}', '}']))), List.cons_ne_nil _ _, ?_⟩
    rw [same]
    simp

def mergeTokens (text : String) : List String :=
  (Runtime.tokens (mergeReader.pieces text.toList)).map String.ofList

/-- The fields that a text names, each once, in the order of their first appearance. -/
def extractMergeTokens (body : String) : List String :=
  (mergeTokens body).eraseDups

example : extractMergeTokens
    "\x7b\x7b applicantName \x7d\x7d, \x7b\x7b\x7bdueDate\x7d\x7d \x7b\x7bx y\x7d\x7d" =
      ["applicantName", "dueDate"] := by decide

/-! ### Validation and resolution -/

structure MergeValidation where
  valid : Bool
  unknownFields : List String

def validateTemplateMergeFields (body : String) (documentType : GeneratedDocumentType) :
    MergeValidation :=
  let unknownFields := (extractMergeTokens body).filter (· ∉ mergeFieldRegistry documentType)
  ⟨unknownFields.isEmpty, unknownFields⟩

abbrev MergeContext : Type := String → Option String

/-- A complete context: it gives every field that a document of a type may name its value. -/
def MergeContext.Gives (context : MergeContext) (documentType : GeneratedDocumentType)
    (value : String → String) : Prop :=
  ∀ field ∈ mergeFieldRegistry documentType, context field = some (value field)

def replaceMergeTokens (context : MergeContext) (body : String) : String :=
  String.ofList (Runtime.substitute (fun field => ((context (String.ofList field)).getD "").toList)
    (mergeReader.pieces body.toList))

def resolveMergeFields (body : String) (documentType : GeneratedDocumentType)
    (context : MergeContext) : Except ServiceError String := do
  let validation := validateTemplateMergeFields body documentType
  let unknown := ", ".intercalate validation.unknownFields
  let allowed := ", ".intercalate (mergeFieldRegistry documentType)
  ensure (validation.valid = true)
    (.error s!"Unknown merge field(s) for {documentType.text}: {unknown}. Allowed: {allowed}")
  return replaceMergeTokens context body

def Registered (documentType : GeneratedDocumentType) (text : String) : Prop :=
  ∀ field ∈ mergeTokens text, field ∈ mergeFieldRegistry documentType

variable {documentType : GeneratedDocumentType} {body : String} {context : MergeContext}

theorem validate_valid_iff :
    (validateTemplateMergeFields body documentType).valid = true ↔ Registered documentType body := by
  show ((extractMergeTokens body).filter _).isEmpty = true ↔ _
  rw [List.isEmpty_iff, List.filter_eq_nil_iff]
  unfold extractMergeTokens Registered
  simp only [List.mem_eraseDups, decide_not, Bool.not_eq_true', decide_eq_false_iff_not, not_not]

theorem resolveMergeFields_eq_ok {resolved : String} :
    resolveMergeFields body documentType context = .ok resolved ↔
      Registered documentType body ∧ replaceMergeTokens context body = resolved := by
  unfold resolveMergeFields
  dsimp only
  rw [bind_eq_ok]
  simp only [ensure_eq_ok, validate_valid_iff, pure_eq_ok, exists_const]

theorem replaceMergeTokens_eq {value : String → String}
    {pieces : List (Runtime.Piece Char (List Char))} (scans : mergeReader.Scans body.toList pieces)
    (registered : Registered documentType body) (gives : context.Gives documentType value) :
    replaceMergeTokens context body = String.ofList (Runtime.substitute
      (fun field => (value (String.ofList field)).toList) pieces) := by
  obtain rfl := scans.unique (mergeReader.pieces_scans body.toList)
  unfold replaceMergeTokens
  congr 1
  refine Runtime.substitute_congr fun field named => ?_
  have known := gives _ (registered _ (List.mem_map_of_mem named))
  rw [known, Option.getD_some]

end OpenEstate.Documents
