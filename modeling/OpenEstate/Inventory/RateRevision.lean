/-
**Rate revisions.**

A call gives some units of a project a rate from a date on. The date is checked as the server's zone has
it, at the beginning of its day: neither in the future, nor before the latest revision of a unit. It is
stored as a day of UTC, of which a unit has no other revision.

* `changeRate_eq_ok`: what a call that succeeds has found;
* `foldlM_reviseRate_eq_ok`: what it takes to write a revision of each unit;
* `answered_iff`: a call is answered as it should be, and leaves each unit's revisions in order, exactly
  if, once it is due, it names no unit twice, is storable, and is later than all revisions of its units;
* `changeRate_history_iff`: so are all calls of a run, exactly if all meet that condition.
-/

import OpenEstate.Inventory.Schema
import OpenEstate.Relational.Run
import OpenEstate.Shared.FinancialYear

namespace OpenEstate.Inventory

open Relational

/-! ### Revisions -/

structure UnitRateRevision where
  companyId : Nat
  unitId : Nat
  ratePaise : Nat
  effectiveFrom : Day
  reason : String
  createdById : Nat
  deriving DecidableEq

/-- The tables, with the revisions in the order in which they were written. -/
structure RateDb extends InventoryDb where
  revisions : List UnitRateRevision := []

structure ChangeRateDto where
  unitIds : List Nat
  ratePaise : Nat
  effectiveFrom : Date
  reason : String
  someUnit : unitIds ≠ []

structure RateCall where
  now : Date
  companyId : Nat
  projectId : Nat
  userId : Nat
  dto : ChangeRateDto

/-- What is outside of the service: the beginning of the day of an instant, `setHours(0, 0, 0, 0)`, which
goes by the zone of the server, and the instants that the database takes for a day. -/
structure RateServer where
  startOfDay : Date → Date
  takesDate : Date → Bool

def RateDb.revisionsOf (db : RateDb) (unitId : Nat) : List UnitRateRevision :=
  db.revisions.filter fun revision => revision.unitId = unitId

def RateDb.latest? (db : RateDb) (unitId : Nat) : Option UnitRateRevision :=
  ((db.revisionsOf unitId).insertionSort fun first second =>
    second.effectiveFrom ≤ first.effectiveFrom).head?

def RateCall.revision (call : RateCall) (unitId : Nat) : UnitRateRevision where
  companyId := call.companyId
  unitId := unitId
  ratePaise := call.dto.ratePaise
  effectiveFrom := call.dto.effectiveFrom / dayMs
  reason := call.dto.reason
  createdById := call.userId

def RateDb.revise (call : RateCall) (db : RateDb) (unitId : Nat) : RateDb :=
  { db with
    revisions := db.revisions ++ [call.revision unitId]
    units := db.units.modify unitId fun unit => { unit with baseRatePaise := call.dto.ratePaise } }

/-! ### A call -/

namespace RateRevisionService

variable (server : RateServer) (call : RateCall)

def foundUnits (db : RateDb) : List (Nat × InventoryUnit) :=
  db.units.select fun id unit => call.dto.unitIds.contains id &&
    (unit.companyId == call.companyId && unit.projectId == call.projectId)

def frozenStatuses : List UnitStatus := [.booked, .allotted, .registered]

def isoDay (date : Date) : String := (utcDay date).text

def checkLatest (db : RateDb) (row : Nat × InventoryUnit) : Except ServiceError Unit :=
  match db.latest? row.1 with
  | none => .ok ()
  | some latest =>
    let effectiveFrom := server.startOfDay call.dto.effectiveFrom
    let latestDate := server.startOfDay (latest.effectiveFrom * dayMs)
    ensure (latestDate ≤ effectiveFrom) (.badRequest
      ("effectiveFrom (" ++ isoDay effectiveFrom ++ ") must be >= latest revision date (" ++
        isoDay latestDate ++ ") for unit " ++ row.2.number))

def reviseRate (db : RateDb) (unitId : Nat) : Except ServiceError RateDb := do
  ensure (call.dto.ratePaise < 2 ^ 63 ∧ server.takesDate call.dto.effectiveFrom = true)
    (.error "Value out of range for the type")
  ensure (∀ revision ∈ db.revisionsOf unitId,
      revision.effectiveFrom ≠ (call.revision unitId).effectiveFrom)
    (.error "Unique constraint failed on the fields: (unit_id,effective_from)")
  return db.revise call unitId

def changeRate (db : RateDb) : Except ServiceError (Nat × RateDb) := do
  let today := server.startOfDay call.now
  let effectiveFrom := server.startOfDay call.dto.effectiveFrom
  ensure (effectiveFrom ≤ today) (.badRequest "effectiveFrom must not be in the future")
  let units := foundUnits call db
  ensure (units.length = call.dto.unitIds.length) (.badRequest ("Units not found in project: " ++
    ", ".intercalate ((call.dto.unitIds.filter fun id => !(units.map Prod.fst).contains id).map
      toString)))
  let frozen := units.filter fun row => frozenStatuses.contains row.2.status
  ensure (frozen.length = 0) (.badRequest ("Cannot change rate for units in frozen status: " ++
    ", ".intercalate (frozen.map fun row => row.2.number)))
  forEach units (checkLatest server call db)
  let after ← units.foldlM (fun db row => reviseRate server call db row.1) db
  return (units.length, after)

def exec (db : RateDb) : Except ServiceError RateDb := Prod.snd <$> changeRate server call db

/-! ### What is asked of a call -/

def Eligible (db : RateDb) (id : Nat) : Prop :=
  ∃ unit, db.units.find? id = some unit ∧ (unit.companyId = call.companyId ∧
    unit.projectId = call.projectId) ∧ unit.status ∉ frozenStatuses

/-- A call whose units all are there and not frozen, and whose date is neither in the future nor before
the latest revision of a unit. -/
structure Due (db : RateDb) : Prop where
  notFuture : server.startOfDay call.dto.effectiveFrom ≤ server.startOfDay call.now
  eligible : ∀ id ∈ call.dto.unitIds, Eligible call db id
  notBefore : ∀ id ∈ call.dto.unitIds, ∀ latest ∈ db.latest? id,
    server.startOfDay (latest.effectiveFrom * dayMs) ≤ server.startOfDay call.dto.effectiveFrom

/-- All units that are named have a revision more, and its rate; nothing else has changed. -/
structure Revised (before after : RateDb) : Prop where
  revisions : ∀ id, after.revisionsOf id =
    before.revisionsOf id ++ if id ∈ call.dto.unitIds then [call.revision id] else []
  units : ∀ id, after.units.find? id = (before.units.find? id).map fun unit =>
    if id ∈ call.dto.unitIds then { unit with baseRatePaise := call.dto.ratePaise } else unit

/-- A call that is due succeeds for all of its units; any other is refused, and changes nothing. -/
def Answered (db : RateDb) : Prop :=
  (Due server call db → ∃ after, changeRate server call db = .ok (call.dto.unitIds.length, after) ∧
    Revised call db after) ∧
    (¬Due server call db → ∃ error, changeRate server call db = .error error)

/-- The dates of each unit are in order, and its rate is that of its last revision. -/
structure Current (db : RateDb) : Prop where
  ordered : ∀ id, (db.revisionsOf id).Pairwise fun first second =>
    first.effectiveFrom ≤ second.effectiveFrom
  rate : ∀ id, ∀ last ∈ (db.revisionsOf id).getLast?, ∀ unit, db.units.find? id = some unit →
    unit.baseRatePaise = last.ratePaise

/-- A call that is answered as it should be, and leaves the tables current. -/
structure AnsweredInOrder (db : RateDb) : Prop where
  answered : Answered server call db
  current : Current (run (exec server) db [call])

/-- A call that names no unit twice, is storable, and is stored with a day after the latest revision of
each of its units. -/
structure Fresh (db : RateDb) : Prop where
  nodup : call.dto.unitIds.Nodup
  storable : call.dto.ratePaise < 2 ^ 63 ∧ server.takesDate call.dto.effectiveFrom = true
  later : ∀ id ∈ call.dto.unitIds, ∀ latest ∈ db.latest? id,
    latest.effectiveFrom < call.dto.effectiveFrom / dayMs

/-! ### What a call has found -/

section Found

variable {server : RateServer} {call : RateCall} {db : RateDb}
variable {id : Nat}

theorem mem_foundUnits {unit : InventoryUnit} : (id, unit) ∈ foundUnits call db ↔
    id ∈ call.dto.unitIds ∧ db.units.find? id = some unit ∧ unit.companyId = call.companyId ∧
      unit.projectId = call.projectId := by
  rw [foundUnits, Table.mem_select, Bool.and_eq_true, Bool.and_eq_true, List.contains_iff_mem,
    beq_iff_eq, beq_iff_eq]
  tauto

theorem nodup_foundUnits (db : RateDb) : ((foundUnits call db).map Prod.fst).Nodup :=
  db.units.select_nodup _

theorem mem_map_foundUnits : id ∈ (foundUnits call db).map Prod.fst ↔
    id ∈ call.dto.unitIds ∧ ∃ unit, db.units.find? id = some unit ∧
      unit.companyId = call.companyId ∧ unit.projectId = call.projectId := by
  rw [List.mem_map]
  constructor
  · rintro ⟨⟨_, unit⟩, member, rfl⟩
    obtain ⟨named, found⟩ := mem_foundUnits.mp member
    exact ⟨named, unit, found⟩
  · rintro ⟨named, unit, found⟩
    exact ⟨(id, unit), mem_foundUnits.mpr ⟨named, found⟩, rfl⟩

theorem mem_map_foundUnits_of_due (due : Due server call db) (id : Nat) :
    id ∈ (foundUnits call db).map Prod.fst ↔ id ∈ call.dto.unitIds := by
  rw [mem_map_foundUnits]
  refine and_iff_left_of_imp fun member => ?_
  obtain ⟨unit, found, project, _⟩ := due.eligible id member
  exact ⟨unit, found, project⟩

theorem map_foundUnits_ne_nil (due : Due server call db) :
    (foundUnits call db).map Prod.fst ≠ [] := by
  obtain ⟨first, rest, parts⟩ := List.exists_cons_of_ne_nil call.dto.someUnit
  have named : first ∈ call.dto.unitIds := parts ▸ List.mem_cons_self
  exact List.ne_nil_of_mem ((mem_map_foundUnits_of_due due first).mpr named)

/-- **As many units are found as are named** exactly if each is named once, and found. -/
theorem length_foundUnits_iff : (foundUnits call db).length = call.dto.unitIds.length ↔
    ((foundUnits call db).map Prod.fst).Perm call.dto.unitIds := by
  have part : ((foundUnits call db).map Prod.fst).Subperm call.dto.unitIds :=
    (nodup_foundUnits db).subperm fun id member => (mem_map_foundUnits.mp member).1
  constructor
  · intro same
    exact part.perm_of_length_le (by rw [List.length_map, same])
  · intro perm
    rw [← perm.length_eq, List.length_map]

theorem latest?_eq_some {latest : UnitRateRevision} (is : db.latest? id = some latest) :
    latest ∈ db.revisionsOf id ∧
      ∀ revision ∈ db.revisionsOf id, revision.effectiveFrom ≤ latest.effectiveFrom := by
  have sorted := List.pairwise_insertionSort (fun first second : UnitRateRevision =>
    second.effectiveFrom ≤ first.effectiveFrom) (db.revisionsOf id)
  obtain ⟨rest, parts⟩ := List.head?_eq_some_iff.mp is
  rw [parts, List.pairwise_cons] at sorted
  have perm := List.perm_insertionSort (fun first second : UnitRateRevision =>
    second.effectiveFrom ≤ first.effectiveFrom) (db.revisionsOf id)
  rw [parts] at perm
  refine ⟨perm.mem_iff.mp List.mem_cons_self, fun revision member => ?_⟩
  rcases List.mem_cons.mp (perm.mem_iff.mpr member) with rfl | other
  · exact le_refl _
  · exact sorted.1 revision other

theorem later_of_latest {day : Day} (later : ∀ latest ∈ db.latest? id, latest.effectiveFrom < day) :
    ∀ revision ∈ db.revisionsOf id, revision.effectiveFrom < day := by
  intro revision member
  cases is : db.latest? id with
  | none =>
    rw [RateDb.latest?, List.head?_eq_none_iff, ← List.length_eq_zero_iff,
      List.length_insertionSort, List.length_eq_zero_iff] at is
    rw [is] at member
    cases member
  | some latest => exact ((latest?_eq_some is).2 revision member).trans_lt (later latest is)

theorem checkLatest_eq_ok {row : Nat × InventoryUnit} :
    checkLatest server call db row = .ok () ↔ ∀ latest ∈ db.latest? row.1,
      server.startOfDay (latest.effectiveFrom * dayMs) ≤
        server.startOfDay call.dto.effectiveFrom := by
  unfold checkLatest
  cases db.latest? row.1 with
  | none => exact iff_of_true rfl nofun
  | some latest =>
    dsimp only
    rw [ensure_eq_ok]
    simp

theorem changeRate_eq_ok {result : Nat × RateDb} : changeRate server call db = .ok result ↔
    Due server call db ∧ call.dto.unitIds.Nodup ∧ result.1 = call.dto.unitIds.length ∧
      ((foundUnits call db).map Prod.fst).foldlM (reviseRate server call) db = .ok result.2 := by
  obtain ⟨count, after⟩ := result
  unfold changeRate
  simp only [bind_eq_ok, ensure_eq_ok, exists_const, forEach_eq_ok, checkLatest_eq_ok, pure_eq_ok,
    Prod.mk.injEq, List.foldlM_map, List.length_eq_zero_iff, List.filter_eq_nil_iff,
    List.contains_iff_mem]
  constructor
  · rintro ⟨notFuture, all, usable, notBefore, written, accepted, is, rfl⟩
    have perm := length_foundUnits_iff.mp all
    have named : ∀ id ∈ call.dto.unitIds, ∃ unit, (id, unit) ∈ foundUnits call db := by
      intro id member
      obtain ⟨⟨_, unit⟩, found, rfl⟩ := List.mem_map.mp (perm.mem_iff.mpr member)
      exact ⟨unit, found⟩
    refine ⟨⟨notFuture, fun id member => ?_, fun id member => ?_⟩, ?_, ?_, accepted⟩
    · obtain ⟨unit, found⟩ := named id member
      exact ⟨unit, (mem_foundUnits.mp found).2.1, (mem_foundUnits.mp found).2.2, usable _ found⟩
    · obtain ⟨unit, found⟩ := named id member
      exact notBefore _ found
    · exact perm.nodup_iff.mp (nodup_foundUnits db)
    · rw [← is, all]
  · rintro ⟨due, nodup, is, accepted⟩
    have perm : ((foundUnits call db).map Prod.fst).Perm call.dto.unitIds := by
      rw [List.perm_ext_iff_of_nodup (nodup_foundUnits db) nodup]
      exact mem_map_foundUnits_of_due due
    refine ⟨due.notFuture, length_foundUnits_iff.mpr perm, fun row member => ?_,
      fun row member => ?_, after, accepted, ?_, rfl⟩
    · obtain ⟨id, unit⟩ := row
      obtain ⟨named, found, _⟩ := mem_foundUnits.mp member
      obtain ⟨other, same, _, usable⟩ := due.eligible id named
      rw [found] at same
      cases same
      exact usable
    · obtain ⟨id, unit⟩ := row
      exact due.notBefore id (mem_foundUnits.mp member).1
    · rw [is, length_foundUnits_iff.mpr perm]

end Found

/-! ### What a call writes -/

section Written

variable {server : RateServer} {call : RateCall} {db : RateDb}

@[simp] theorem revisionsOf_revise (unitId id : Nat) : (db.revise call unitId).revisionsOf id =
    db.revisionsOf id ++ if unitId = id then [call.revision unitId] else [] := by
  rw [RateDb.revisionsOf, RateDb.revise, List.filter_append, List.filter_singleton]
  show _ ++ (bif decide (unitId = id) then _ else _) = _
  by_cases same : unitId = id <;> simp [same, RateDb.revisionsOf]

@[simp] theorem find?_revise (unitId id : Nat) : (db.revise call unitId).units.find? id =
    (db.units.find? id).map fun unit =>
      if id = unitId then { unit with baseRatePaise := call.dto.ratePaise } else unit := by
  rw [RateDb.revise, Table.find?_modify]
  split_ifs
  · rfl
  · rw [Option.map_id']

def reviseAll (call : RateCall) (db : RateDb) (ids : List Nat) : RateDb :=
  ids.foldl (RateDb.revise call) db

/-- **All units that are named once are revised**, and nothing else. -/
theorem revised_reviseAll {ids : List Nat} (nodup : ids.Nodup)
    (same : ∀ id, id ∈ ids ↔ id ∈ call.dto.unitIds) : Revised call db (reviseAll call db ids) := by
  have all : ∀ id, (reviseAll call db ids).revisionsOf id =
        db.revisionsOf id ++ (if id ∈ ids then [call.revision id] else []) ∧
      (reviseAll call db ids).units.find? id = (db.units.find? id).map fun unit =>
        if id ∈ ids then { unit with baseRatePaise := call.dto.ratePaise } else unit := by
    intro id
    clear same
    induction ids generalizing db with
    | nil => simp [reviseAll]
    | cons first rest ih =>
      obtain ⟨fresh, others⟩ := List.nodup_cons.mp nodup
      obtain ⟨revisions, units⟩ := @ih (db.revise call first) others
      have step : reviseAll call db (first :: rest) = reviseAll call (db.revise call first) rest := rfl
      rw [step, revisions, units, revisionsOf_revise, find?_revise]
      by_cases is : id = first
      · subst is
        cases db.units.find? id <;> simp [fresh]
      · have differs : first ≠ id := fun same => is same.symm
        cases db.units.find? id <;> simp [is, differs]
  exact ⟨fun id => by rw [(all id).1]; simp only [same],
    fun id => by rw [(all id).2]; simp only [same]⟩

variable {after : RateDb}

theorem reviseRate_eq_ok {unitId : Nat} :
    reviseRate server call db unitId = .ok after ↔
      (call.dto.ratePaise < 2 ^ 63 ∧ server.takesDate call.dto.effectiveFrom = true) ∧
        (∀ revision ∈ db.revisionsOf unitId,
          revision.effectiveFrom ≠ call.dto.effectiveFrom / dayMs) ∧
          db.revise call unitId = after := by
  unfold reviseRate
  simp only [bind_eq_ok, ensure_eq_ok, exists_const, pure_eq_ok]
  rfl

theorem foldlM_reviseRate_eq_ok {ids : List Nat} (nodup : ids.Nodup)
    (some_ : ids ≠ []) : ids.foldlM (reviseRate server call) db = .ok after ↔
      (call.dto.ratePaise < 2 ^ 63 ∧ server.takesDate call.dto.effectiveFrom = true) ∧
        (∀ id ∈ ids, ∀ revision ∈ db.revisionsOf id,
          revision.effectiveFrom ≠ call.dto.effectiveFrom / dayMs) ∧
          reviseAll call db ids = after := by
  induction ids generalizing db with
  | nil => exact absurd rfl some_
  | cons first rest ih =>
    obtain ⟨fresh, others⟩ := List.nodup_cons.mp nodup
    rw [List.foldlM_cons, bind_eq_ok, List.forall_mem_cons]
    simp only [reviseRate_eq_ok]
    have step : reviseAll call db (first :: rest) = reviseAll call (db.revise call first) rest := rfl
    rw [step]
    rcases eq_or_ne rest [] with rfl | more
    · simp [reviseAll, pure_eq_ok, and_assoc]
    · -- the first unit's revision is none of the others'
      have unchanged : ∀ id ∈ rest,
          (db.revise call first).revisionsOf id = db.revisionsOf id := by
        intro id member
        have differs : first ≠ id := fun is => fresh (is ▸ member)
        rw [revisionsOf_revise, if_neg differs, List.append_nil]
      constructor
      · rintro ⟨_, ⟨storable, unused, rfl⟩, accepted⟩
        obtain ⟨_, rest_, is⟩ := (ih others more).mp accepted
        exact ⟨storable, ⟨unused, fun id member => unchanged id member ▸ rest_ id member⟩, is⟩
      · rintro ⟨storable, ⟨unused, rest_⟩, is⟩
        exact ⟨_, ⟨storable, unused, rfl⟩, (ih others more).mpr
          ⟨storable, fun id member => (unchanged id member).symm ▸ rest_ id member, is⟩⟩

theorem Current.revised (current : Current db) (revised : Revised call db after)
    (later : ∀ id ∈ call.dto.unitIds, ∀ revision ∈ db.revisionsOf id,
      revision.effectiveFrom < call.dto.effectiveFrom / dayMs) : Current after := by
  refine ⟨fun id => ?_, fun id last isLast unit found => ?_⟩
  · rw [revised.revisions id]
    by_cases named : id ∈ call.dto.unitIds
    · rw [if_pos named, List.pairwise_append]
      refine ⟨current.ordered id, List.pairwise_singleton _ _, fun first member second is => ?_⟩
      rw [List.mem_singleton.mp is]
      exact (later id named first member).le
    · rw [if_neg named, List.append_nil]
      exact current.ordered id
  · rw [revised.revisions id] at isLast
    rw [revised.units id, Option.map_eq_some_iff] at found
    obtain ⟨earlier, found, rfl⟩ := found
    by_cases named : id ∈ call.dto.unitIds
    · rw [if_pos named, List.getLast?_concat] at isLast
      cases isLast
      rw [if_pos named]
      rfl
    · rw [if_neg named, List.append_nil] at isLast
      rw [if_neg named]
      exact current.rate id last isLast earlier found

theorem run_of_ok {result : Nat × RateDb} (accepted : changeRate server call db = .ok result) :
    run (exec server) db [call] = result.2 := by
  have answer : exec server call db = .ok result.2 := map_eq_ok.mpr ⟨result, accepted, rfl⟩
  simp only [run, answer]

theorem run_of_error {error : ServiceError} (refused : changeRate server call db = .error error) :
    run (exec server) db [call] = db := by
  have answer : exec server call db = .error error := by
    rw [exec, refused]
    rfl
  simp only [run, answer]

theorem refused_of_not_due (undue : ¬Due server call db) :
    ∃ error, changeRate server call db = .error error := by
  cases answer : changeRate server call db with
  | error error => exact ⟨error, rfl⟩
  | ok result => exact absurd (changeRate_eq_ok.mp answer).1 undue

theorem succeeds (due : Due server call db) (fresh : Fresh server call db) :
    ∃ after, changeRate server call db = .ok (call.dto.unitIds.length, after) ∧
      Revised call db after := by
  have same := mem_map_foundUnits_of_due due
  have written : ((foundUnits call db).map Prod.fst).foldlM (reviseRate server call) db =
      .ok (reviseAll call db ((foundUnits call db).map Prod.fst)) :=
    (foldlM_reviseRate_eq_ok (nodup_foundUnits db) (map_foundUnits_ne_nil due)).mpr
      ⟨fresh.storable, fun id member revision inDb =>
        (later_of_latest (fresh.later id ((same id).mp member)) revision inDb).ne, rfl⟩
  exact ⟨_, changeRate_eq_ok.mpr ⟨due, fresh.nodup, rfl, written⟩,
    revised_reviseAll (nodup_foundUnits db) same⟩

theorem answered_iff (current : Current db) :
    AnsweredInOrder server call db ↔ (Due server call db → Fresh server call db) := by
  constructor
  · rintro ⟨⟨right, _⟩, ordered⟩ due
    obtain ⟨after, accepted, revised⟩ := right due
    obtain ⟨_, nodup, _, written⟩ := changeRate_eq_ok.mp accepted
    obtain ⟨storable, unused, _⟩ :=
      (foldlM_reviseRate_eq_ok (nodup_foundUnits db) (map_foundUnits_ne_nil due)).mp written
    rw [run_of_ok accepted] at ordered
    refine ⟨nodup, storable, fun id named latest isLatest => ?_⟩
    obtain ⟨member, _⟩ := latest?_eq_some isLatest
    have inOrder := ordered.ordered id
    rw [revised.revisions id, if_pos named, List.pairwise_append] at inOrder
    have le := inOrder.2.2 latest member _ (List.mem_singleton_self _)
    exact lt_of_le_of_ne le (unused id ((mem_map_foundUnits_of_due due id).mpr named) latest member)
  · intro fresh
    by_cases due : Due server call db
    · obtain ⟨after, accepted, revised⟩ := succeeds due (fresh due)
      refine ⟨⟨fun _ => ⟨after, accepted, revised⟩, fun undue => absurd due undue⟩, ?_⟩
      rw [run_of_ok accepted]
      exact current.revised revised fun id named => later_of_latest ((fresh due).later id named)
    · obtain ⟨error, refused⟩ := refused_of_not_due due
      refine ⟨⟨fun isDue => absurd isDue due, fun _ => ⟨error, refused⟩⟩, ?_⟩
      rw [run_of_error refused]
      exact current

end Written

/-- **All calls of a run are answered as they should be, and leave the revisions in order**, exactly if
each one that is due names no unit twice, is storable, and is stored with a day after the latest revision
of each of its units. -/
theorem changeRate_history_iff (server : RateServer) (db : RateDb) (current : Current db)
    (history : List RateCall) :
    (∀ call ∈ calls (exec server) db history, AnsweredInOrder server call.2 call.1) ↔
      ∀ call ∈ calls (exec server) db history,
        Due server call.2 call.1 → Fresh server call.2 call.1 :=
  @forall_calls_iff _ _ _ (exec server) Current (fun db call => AnsweredInOrder server call db)
    (fun db call => Due server call db → Fresh server call db)
    (fun _ _ current => answered_iff current)
    (fun _ _ current fresh => ((answered_iff current).mpr fresh).current) history db current

/-! ### A date twice -/

def startOfDay (offset : Int) (date : Date) : Date := (date + offset) / dayMs * dayMs - offset

def serverAt (offset : Int) : RateServer where
  startOfDay := startOfDay offset
  takesDate _ := true

def oneUnit : RateDb where
  units := Table.empty.create
    { companyId := 1, projectId := 1, shape := .highRise, floorId := none, number := "A-101" }

def rateFrom (ratePaise : Nat) (effectiveFrom : Date) : RateCall where
  now := 20600 * dayMs
  companyId := 1
  projectId := 1
  userId := 1
  dto := ⟨[0], ratePaise, effectiveFrom, "Revision", by decide⟩

theorem current_oneUnit : Current oneUnit := ⟨fun _ => .nil, nofun⟩

/-- The first rate of a unit is written. -/
theorem changeRate_history_first :
    AnsweredInOrder (serverAt 0) (rateFrom 500 (20500 * dayMs)) oneUnit := by
  refine (changeRate_history_iff (serverAt 0) oneUnit current_oneUnit
    [rateFrom 500 (20500 * dayMs)]).mpr (fun call member _ => ?_) (oneUnit, _) List.mem_cons_self
  obtain rfl := List.mem_singleton.mp member
  exact ⟨by decide, by decide, nofun⟩

def again : RateCall := rateFrom 600 (20500 * dayMs)

def afterFirst : RateDb := run (exec (serverAt 0)) oneUnit [rateFrom 500 (20500 * dayMs)]

theorem due_again : Due (serverAt 0) again afterFirst := by
  refine ⟨by decide, fun id member => ?_, fun id member => ?_⟩
  · obtain rfl := List.mem_singleton.mp member
    exact ⟨_, rfl, by decide, by decide⟩
  · obtain rfl := List.mem_singleton.mp member
    decide

/-- A second rate from the same date is refused, although it is not before the first; and at half past
five ahead of UTC, one from two o'clock of that date is stored with the day before. -/
theorem same_date_refused :
    (¬∀ call ∈ calls (exec (serverAt 0)) oneUnit [rateFrom 500 (20500 * dayMs), again],
      AnsweredInOrder (serverAt 0) call.2 call.1) ∧
      (run (exec (serverAt 19800000)) oneUnit [rateFrom 500 (20500 * dayMs),
          rateFrom 600 (20500 * dayMs - 12600000)]).revisions.map
            UnitRateRevision.effectiveFrom = [20500, 20499] := by
  refine ⟨fun all => ?_, by decide⟩
  have second := all (afterFirst, again) (List.mem_cons_of_mem _ List.mem_cons_self)
  obtain ⟨after, accepted, _⟩ := second.answered.1 due_again
  have refused : (changeRate (serverAt 0) again afterFirst).toOption.isNone = true := by decide
  rw [accepted] at refused
  cases refused

end RateRevisionService

end OpenEstate.Inventory
