/-
**Presales reports: what they ask for, and what they have of it.**

A report asks for the rows of a company that are of its kind, within a range of dates, of an executive,
and of the users whom its caller may see. What is asked of a column takes the place of what was asked
before: a restricted caller's users take the place of the executive.

* `dumpReportWhere`, `siteVisitReportWhere` and `supervisorTransferWhere` are what the reports ask, and
  `matches_dumpReportWhere` and its likes what that comes to;
* `newestFirst_eq_iff`: two conditions have the same rows exactly if no row meets the weaker alone;
* `report_filters_iff`: a report has the rows that meet every filter exactly if its executive is not
  hidden by its caller's users.
-/

import OpenEstate.Presales.Schema
import OpenEstate.Relational.Where
import OpenEstate.Shared.FinancialYear

namespace OpenEstate.Reports

open OpenEstate.Presales (InquiryStatus)
open Relational

/-! ### Rows -/

structure DispositionRow where
  companyId : Nat
  toStatus : InquiryStatus
  changedAt : Date
  changedById : Option Nat
  remarks : Option String := none
  reason : Option String := none
  changedBy : Option String := none
  applicant : Option String := none
  deriving DecidableEq

inductive FollowUpOutcome
  | completed | noResponse | rescheduled | notInterested | converted
  deriving DecidableEq

def FollowUpOutcome.text : FollowUpOutcome → String
  | .completed => "COMPLETED"
  | .noResponse => "NO_RESPONSE"
  | .rescheduled => "RESCHEDULED"
  | .notInterested => "NOT_INTERESTED"
  | .converted => "CONVERTED"

structure FollowUpRow where
  companyId : Nat
  inquiryId : Nat
  interactionAt : Date
  nextActionAt : Option Date := none
  createdById : Option Nat
  typeName : Option String := none
  venue : Option String := none
  outcome : Option FollowUpOutcome := none
  createdBy : Option String := none
  applicant : Option String := none
  project : Option String := none
  deriving DecidableEq

structure AssignmentRow where
  companyId : Nat
  assignmentType : String
  createdAt : Date
  fromUserId : Option Nat
  reason : Option String := none
  fromUser : Option String := none
  toUser : Option String := none
  applicant : Option String := none
  deriving DecidableEq

structure ReportDb where
  dispositions : List DispositionRow := []
  followUps : List FollowUpRow := []
  assignments : List AssignmentRow := []

/-! ### What is asked of a column -/

inductive Column
  | companyId | toStatus | changedAt | changedById | type | interactionAt | createdById
  | assignmentType | createdAt | fromUserId
  deriving DecidableEq

inductive Value
  | id (id : Nat)
  | text (text : String)
  | status (status : InquiryStatus)
  | instant (date : Date)
  deriving DecidableEq

inductive Condition
  | equals (value : Value)
  | within (ids : List Nat)
  | range (gte lte : Option Date)
  | notNull

/-- What a condition says of a value; of none, nothing but whether there is one. -/
def Condition.judge : Condition → Option Value → Truth
  | .notNull, value => some value.isSome
  | .equals wanted, some value => some (decide (value = wanted))
  | .within ids, some (.id id) => some (decide (id ∈ ids))
  | .range gte lte, some (.instant date) => some ((gte.all (· ≤ date)) && lte.all (date ≤ ·))
  | _, _ => none

def meaning {ρ : Type} (columns : ρ → Column → Option Value) (column : Column)
    (condition : Condition) (row : ρ) : Truth :=
  condition.judge (columns row column)

def DispositionRow.columns (row : DispositionRow) : Column → Option Value
  | .companyId => some (.id row.companyId)
  | .toStatus => some (.status row.toStatus)
  | .changedAt => some (.instant row.changedAt)
  | .changedById => row.changedById.map .id
  | _ => none

def FollowUpRow.columns (row : FollowUpRow) : Column → Option Value
  | .companyId => some (.id row.companyId)
  | .type => row.typeName.map .text
  | .interactionAt => some (.instant row.interactionAt)
  | .createdById => row.createdById.map .id
  | _ => none

def AssignmentRow.columns (row : AssignmentRow) : Column → Option Value
  | .companyId => some (.id row.companyId)
  | .assignmentType => some (.text row.assignmentType)
  | .createdAt => some (.instant row.createdAt)
  | .fromUserId => row.fromUserId.map .id
  | _ => none

/-! ### What a report asks for -/

structure ReportScope where
  visibleUserIds : Option (List Nat)

structure DateRange where
  from_ : Option Date := none
  to_ : Option Date := none

def dateFilter (range : DateRange) : Option Condition :=
  if range.from_.isNone && range.to_.isNone then none else some (.range range.from_ range.to_)

section Ask

variable (companyId : Nat) (scope : ReportScope) (range : DateRange) (executiveId : Option Nat)

def personWhere (person : Column) (where_ : Where Column Condition) : Where Column Condition :=
  (where_.setIf person (executiveId.map fun id => .equals (.id id))).setIf person
    (scope.visibleUserIds.map .within)

def dumpReportWhere : Where Column Condition :=
  personWhere scope executiveId .changedById <|
    ((Where.empty.set .companyId (.equals (.id companyId))).set
      .toStatus (.equals (.status .dumped))).setIf .changedAt (dateFilter range)

def siteVisitReportWhere : Where Column Condition :=
  personWhere scope executiveId .createdById <|
    ((Where.empty.set .companyId (.equals (.id companyId))).set
      .type (.equals (.text "Site Visit"))).setIf .interactionAt (dateFilter range)

def supervisorTransferWhere : Where Column Condition :=
  personWhere scope executiveId .fromUserId <|
    (((Where.empty.set .companyId (.equals (.id companyId))).set
      .assignmentType (.equals (.text "manual"))).set
        .fromUserId .notNull).setIf .createdAt (dateFilter range)

end Ask

/-! ### The reports -/

def newestFirst {ρ : Type} (at_ : ρ → Date) (meets : ρ → Prop) [DecidablePred meets]
    (rows : List ρ) : List ρ :=
  (rows.filter fun row => meets row).insertionSort fun first second => at_ second ≤ at_ first

section Reports

variable (companyId : Nat) (scope : ReportScope) (range : DateRange) (executiveId : Option Nat)
  (db : ReportDb)

def dumpRows : List DispositionRow :=
  newestFirst DispositionRow.changedAt
    ((dumpReportWhere companyId scope range executiveId).Matches (meaning DispositionRow.columns))
    db.dispositions

def siteVisitRows : List FollowUpRow :=
  newestFirst FollowUpRow.interactionAt
    ((siteVisitReportWhere companyId scope range executiveId).Matches (meaning FollowUpRow.columns))
    db.followUps

def supervisorTransferRows : List AssignmentRow :=
  newestFirst AssignmentRow.createdAt
    ((supervisorTransferWhere companyId scope range executiveId).Matches
      (meaning AssignmentRow.columns))
    db.assignments

def dumpReportCount : Nat :=
  db.dispositions.countP fun row =>
    (dumpReportWhere companyId scope range executiveId).Matches (meaning DispositionRow.columns) row

def siteVisitReportCount : Nat :=
  db.followUps.countP fun row =>
    (siteVisitReportWhere companyId scope range executiveId).Matches (meaning FollowUpRow.columns) row

def supervisorReviewQueueCount : Nat :=
  dumpReportCount companyId scope range executiveId db +
    db.assignments.countP fun row =>
      (supervisorTransferWhere companyId scope range executiveId).Matches
        (meaning AssignmentRow.columns) row

def dumpReport : List (List String) :=
  (dumpRows companyId scope range executiveId db).map fun row =>
    [(utcDay row.changedAt).text, row.applicant.getD "", row.changedBy.getD "Unknown",
      row.reason.getD "Unspecified", row.remarks.getD ""]

def siteVisitReport : List (List String) :=
  (siteVisitRows companyId scope range executiveId db).map fun row =>
    [(utcDay row.interactionAt).text, row.createdBy.getD "Unknown", row.applicant.getD "",
      row.project.getD "", row.venue.getD "", (row.outcome.map FollowUpOutcome.text).getD ""]

def supervisorReviewQueue : List (List String) :=
  ((dumpRows companyId scope range executiveId db).map fun row =>
    [(utcDay row.changedAt).text, "DUMPED", row.applicant.getD "", row.changedBy.getD "Unknown", "",
      row.reason.getD "Unspecified"]) ++
    (supervisorTransferRows companyId scope range executiveId db).map fun row =>
      [(utcDay row.createdAt).text, "TRANSFERRED", row.applicant.getD "",
        row.fromUser.getD "Unknown", row.toUser.getD "", row.reason.getD ""]

end Reports

/-! ### What a report should have -/

section Wanted

variable (companyId : Nat) (scope : ReportScope) (range : DateRange) (executiveId : Option Nat)

def DateRange.Has (date : Date) : Prop :=
  (∀ first ∈ range.from_, first ≤ date) ∧ ∀ last ∈ range.to_, date ≤ last

instance (date : Date) : Decidable (range.Has date) := inferInstanceAs (Decidable (_ ∧ _))

def ReportScope.Has (person : Option Nat) : Prop :=
  ∀ ids ∈ scope.visibleUserIds, ∃ id ∈ person, id ∈ ids

instance (person : Option Nat) : Decidable (scope.Has person) := inferInstanceAs (Decidable (∀ _ ∈ _, _))

def IsDump (row : DispositionRow) : Prop :=
  (row.companyId = companyId ∧ row.toStatus = .dumped) ∧ range.Has row.changedAt

def IsSiteVisit (row : FollowUpRow) : Prop :=
  (row.companyId = companyId ∧ row.typeName = some "Site Visit") ∧ range.Has row.interactionAt

/-- An assignment by hand of a company within the range, away from someone. -/
def IsTransfer (row : AssignmentRow) : Prop :=
  (row.companyId = companyId ∧ row.assignmentType = "manual" ∧ row.fromUserId ≠ none) ∧
    range.Has row.createdAt

instance (row : DispositionRow) : Decidable (IsDump companyId range row) :=
  inferInstanceAs (Decidable (_ ∧ _))

instance (row : FollowUpRow) : Decidable (IsSiteVisit companyId range row) :=
  inferInstanceAs (Decidable (_ ∧ _))

instance (row : AssignmentRow) : Decidable (IsTransfer companyId range row) :=
  inferInstanceAs (Decidable (_ ∧ _))

/-- Whether a row of a kind is of the executive, and of someone whom the caller may see. -/
def Wanted {ρ : Type} (kind : ρ → Prop) (person : ρ → Option Nat) (row : ρ) : Prop :=
  kind row ∧ scope.Has (person row) ∧ ∀ id ∈ executiveId, person row = some id

instance {ρ : Type} (kind : ρ → Prop) (person : ρ → Option Nat) [DecidablePred kind] (row : ρ) :
    Decidable (Wanted scope executiveId kind person row) :=
  inferInstanceAs (Decidable (_ ∧ _ ∧ _))

/-- Whether, of the rows of a kind, those that a restricted caller may see are all of the executive who is
asked for. -/
def OnlyExecutive {ρ : Type} (kind : ρ → Prop) (person : ρ → Option Nat) (rows : List ρ) : Prop :=
  scope.visibleUserIds ≠ none → ∀ id ∈ executiveId, ∀ row ∈ rows, kind row → scope.Has (person row) →
    person row = some id

end Wanted

/-! ### What is asked comes to -/

section Matches

variable {companyId : Nat} {scope : ReportScope} {range : DateRange} {executiveId : Option Nat}
  {ρ : Type} {columns : ρ → Column → Option Value} {row : ρ}
variable {column : Column}

theorem meaning_within {person : Option Nat} {ids : List Nat}
    (is : columns row column = person.map .id) :
    meaning columns column (.within ids) row = some true ↔ ∃ id ∈ person, id ∈ ids := by
  rw [meaning, is]
  cases person <;> simp [Condition.judge]

theorem meaning_equals {value : Value} :
    meaning columns column (.equals value) row = some true ↔ columns row column = some value := by
  rw [meaning]
  cases columns row column <;> simp [Condition.judge]

theorem meaning_notNull :
    meaning columns column .notNull row = some true ↔ columns row column ≠ none := by
  rw [meaning]
  cases columns row column <;> simp [Condition.judge]

variable {where_ : Where Column Condition}

theorem matches_dateFilter {date : Date} (fresh : where_.without column = where_)
    (is : columns row column = some (.instant date)) :
    (where_.setIf column (dateFilter range)).Matches (meaning columns) row ↔
      where_.Matches (meaning columns) row ∧ range.Has date := by
  obtain ⟨from_, to_⟩ := range
  by_cases none_ : (from_.isNone && to_.isNone) = true
  · have both : from_ = none ∧ to_ = none := by simpa using none_
    obtain ⟨rfl, rfl⟩ := both
    simp [dateFilter, Where.setIf, DateRange.Has]
  · rw [dateFilter, if_neg none_, Where.setIf, Option.elim_some, Where.matches_set, fresh, and_comm]
    refine and_congr_right fun _ => ?_
    rw [meaning, is, DateRange.Has]
    cases from_ <;> cases to_ <;> simp [Condition.judge]

/-- **Of persons, a restricted caller's users take the place of the executive.** -/
theorem matches_personWhere {person : Option Nat} (is : columns row column = person.map .id)
    (named : (where_.without column).Matches (meaning columns) row → person ≠ none →
      where_.Matches (meaning columns) row) :
    (personWhere scope executiveId column where_).Matches (meaning columns) row ↔
      where_.Matches (meaning columns) row ∧ scope.Has person ∧
        (scope.visibleUserIds = none → ∀ id ∈ executiveId, person = some id) := by
  have hidden : ∀ {holds : Prop}, (holds → person ≠ none) →
      (holds ∧ (where_.without column).Matches (meaning columns) row ↔
        where_.Matches (meaning columns) row ∧ holds) := fun someone =>
    ⟨fun ⟨holds, others⟩ => ⟨named others (someone holds), holds⟩,
      fun ⟨matched, holds⟩ => ⟨holds, Where.matches_without matched⟩⟩
  obtain ⟨visible⟩ := scope
  rw [personWhere]
  cases visible with
  | some ids =>
    rw [Option.map_some, Where.setIf, Option.elim_some, Where.matches_set, Where.without_setIf,
      meaning_within is, hidden]
    · simp [ReportScope.Has]
    · rintro ⟨id, is, _⟩ none_
      rw [none_] at is
      cases is
  | none =>
    rw [Option.map_none, Where.setIf, Option.elim_none]
    cases executiveId with
    | none => simp [Where.setIf, ReportScope.Has]
    | some id =>
      have same : columns row column = some (.id id) ↔ person = some id := by
        rw [is]
        cases person <;> simp
      rw [Option.map_some, Where.setIf, Option.elim_some, Where.matches_set, meaning_equals, same,
        hidden]
      · simp [ReportScope.Has]
      · rintro named_ none_
        rw [none_] at named_
        cases named_

theorem matches_personWhere_fresh {person : Option Nat} (is : columns row column = person.map .id)
    (fresh : where_.without column = where_) :
    (personWhere scope executiveId column where_).Matches (meaning columns) row ↔
      where_.Matches (meaning columns) row ∧ scope.Has person ∧
        (scope.visibleUserIds = none → ∀ id ∈ executiveId, person = some id) :=
  matches_personWhere is fun others _ => fresh ▸ others

/-- **The dump report asks** for dumps, of the caller's users or else of the executive. -/
theorem matches_dumpReportWhere {row : DispositionRow} :
    (dumpReportWhere companyId scope range executiveId).Matches (meaning DispositionRow.columns) row ↔
      IsDump companyId range row ∧ scope.Has row.changedById ∧
        (scope.visibleUserIds = none → ∀ id ∈ executiveId, row.changedById = some id) := by
  rw [dumpReportWhere, matches_personWhere_fresh rfl
    ((Where.without_setIf_of_ne (by decide) _ _).trans rfl), matches_dateFilter rfl rfl, IsDump]
  refine and_congr_left fun _ => and_congr_left fun _ => ?_
  simp [Where.set, Where.empty, assign, Where.matches_object, Operand.toArray, meaning_equals,
    DispositionRow.columns]

/-- **The site visit report asks** for site visits, of the caller's users or else of the executive. -/
theorem matches_siteVisitReportWhere {row : FollowUpRow} :
    (siteVisitReportWhere companyId scope range executiveId).Matches (meaning FollowUpRow.columns)
        row ↔
      IsSiteVisit companyId range row ∧ scope.Has row.createdById ∧
        (scope.visibleUserIds = none → ∀ id ∈ executiveId, row.createdById = some id) := by
  rw [siteVisitReportWhere, matches_personWhere_fresh rfl
    ((Where.without_setIf_of_ne (by decide) _ _).trans rfl), matches_dateFilter rfl rfl, IsSiteVisit]
  refine and_congr_left fun _ => and_congr_left fun _ => ?_
  simp [Where.set, Where.empty, assign, Where.matches_object, Operand.toArray, meaning_equals,
    FollowUpRow.columns]

/-- **The review queue asks** for transfers, from the caller's users or else from the executive; that
there is someone they are from is hidden like the executive, but follows. -/
theorem matches_supervisorTransferWhere {row : AssignmentRow} :
    (supervisorTransferWhere companyId scope range executiveId).Matches
        (meaning AssignmentRow.columns) row ↔
      IsTransfer companyId range row ∧ scope.Has row.fromUserId ∧
        (scope.visibleUserIds = none → ∀ id ∈ executiveId, row.fromUserId = some id) := by
  have asked : ∀ {fields : List (Column × Condition)},
      (Where.object fields .absent .absent .absent).Matches (meaning AssignmentRow.columns) row ↔
        ∀ field ∈ fields, meaning AssignmentRow.columns field.1 field.2 row = some true := by
    simp [Where.matches_object, Operand.toArray]
  have someone : meaning AssignmentRow.columns .fromUserId .notNull row = some true ↔
      row.fromUserId ≠ none := by
    rw [meaning_notNull]
    simp [AssignmentRow.columns]
  rw [supervisorTransferWhere, matches_personWhere rfl, matches_dateFilter rfl rfl, IsTransfer]
  · refine and_congr_left fun _ => and_congr_left fun _ => ?_
    simp [Where.set, Where.empty, assign, asked, meaning_equals, someone, AssignmentRow.columns]
  · rw [Where.without_setIf_of_ne (by decide), matches_dateFilter rfl rfl, matches_dateFilter rfl rfl]
    rintro ⟨others, within⟩ named
    refine ⟨?_, within⟩
    simp only [Where.set, Where.empty, Where.without, assign, asked] at others ⊢
    simpa [someone, named] using others

end Matches

/-! ### What a report has -/

section Reports

variable {ρ : Type} {at_ : ρ → Date} {weak strong : ρ → Prop} [DecidablePred weak]
  [DecidablePred strong] {rows : List ρ}

theorem newestFirst_eq_iff (weaker : ∀ row, strong row → weak row) :
    newestFirst at_ weak rows = newestFirst at_ strong rows ↔
      ∀ row ∈ rows, weak row → strong row := by
  unfold newestFirst
  constructor
  · intro same row member meets
    have lengths := congrArg List.length same
    rw [List.length_insertionSort, List.length_insertionSort] at lengths
    have part : (rows.filter fun row => strong row).Sublist (rows.filter fun row => weak row) :=
      List.monotone_filter_right rows fun row => by simpa using weaker row
    have all := part.eq_of_length lengths.symm
    have found : row ∈ rows.filter fun row => weak row := by simp [member, meets]
    rw [← all, List.mem_filter] at found
    exact of_decide_eq_true found.2
  · intro stronger
    have same : (rows.filter fun row => weak row) = rows.filter fun row => strong row :=
      List.filter_congr fun row member => by
        simpa using ⟨stronger row member, weaker row⟩
    rw [same]

variable {scope : ReportScope} {executiveId : Option Nat} {kind : ρ → Prop} {person : ρ → Option Nat}
  [DecidablePred kind]

/-- **A report has the rows that are wanted** exactly if its caller's users hide no executive. -/
theorem newestFirst_wanted_iff (asked : ∀ row, weak row ↔ kind row ∧ scope.Has (person row) ∧
      (scope.visibleUserIds = none → ∀ id ∈ executiveId, person row = some id)) :
    newestFirst at_ weak rows = newestFirst at_ (Wanted scope executiveId kind person) rows ↔
      OnlyExecutive scope executiveId kind person rows := by
  rw [newestFirst_eq_iff fun row wanted => (asked row).mpr
    ⟨wanted.1, wanted.2.1, fun _ => wanted.2.2⟩]
  constructor
  · intro stronger restricted id named row member isKind seen
    have meets := (asked row).mpr ⟨isKind, seen, fun all => absurd all restricted⟩
    exact (stronger row member meets).2.2 id named
  · intro only row member meets
    obtain ⟨isKind, seen, named⟩ := (asked row).mp meets
    refine ⟨isKind, seen, fun id is => ?_⟩
    by_cases all : scope.visibleUserIds = none
    · exact named all id is
    · exact only all id is row member isKind seen

end Reports

/-- **Each report has the rows that meet all of its filters**, and no others, exactly if it is asked for
no executive, or by a caller without restriction, or its caller sees no other executive's row. -/
theorem report_filters_iff (companyId : Nat) (scope : ReportScope) (range : DateRange)
    (executiveId : Option Nat) (db : ReportDb) :
    (dumpRows companyId scope range executiveId db = newestFirst DispositionRow.changedAt
        (Wanted scope executiveId (IsDump companyId range) DispositionRow.changedById)
        db.dispositions ↔
      OnlyExecutive scope executiveId (IsDump companyId range) DispositionRow.changedById
        db.dispositions) ∧
    (siteVisitRows companyId scope range executiveId db = newestFirst FollowUpRow.interactionAt
        (Wanted scope executiveId (IsSiteVisit companyId range) FollowUpRow.createdById)
        db.followUps ↔
      OnlyExecutive scope executiveId (IsSiteVisit companyId range) FollowUpRow.createdById
        db.followUps) ∧
    (supervisorTransferRows companyId scope range executiveId db = newestFirst AssignmentRow.createdAt
        (Wanted scope executiveId (IsTransfer companyId range) AssignmentRow.fromUserId)
        db.assignments ↔
      OnlyExecutive scope executiveId (IsTransfer companyId range) AssignmentRow.fromUserId
        db.assignments) :=
  ⟨newestFirst_wanted_iff fun _ => matches_dumpReportWhere,
    newestFirst_wanted_iff fun _ => matches_siteVisitReportWhere,
    newestFirst_wanted_iff fun _ => matches_supervisorTransferWhere⟩

def twoDumps : List DispositionRow :=
  [{ companyId := 1, toStatus := .dumped, changedAt := 0, changedById := some 2 },
    { companyId := 1, toStatus := .dumped, changedAt := 0, changedById := some 3 }]

/-- A caller who sees both executives asks for the dumps of one, and is given those of both. -/
theorem executive_hidden :
    dumpRows 1 ⟨some [2, 3]⟩ {} (some 2) { dispositions := twoDumps } = twoDumps ∧
      newestFirst DispositionRow.changedAt
          (Wanted ⟨some [2, 3]⟩ (some 2) (IsDump 1 {}) DispositionRow.changedById) twoDumps =
        twoDumps.take 1 := by
  decide

end OpenEstate.Reports
