/-
**Merges form a forest, and the inquiries follow.**

A merge points one live applicant to another one, so that what has been merged before leads to a
live applicant still. The inquiries go along, and whoever takes in an inquiry takes it in for a live
applicant.

* `PresalesDb.mergedInto` is the pointer; `MergesSound` is the invariant, `MergesSound.effect` keeps
  it;
* `merges_forest`: there is no circle, every chain ends at a live applicant, and no inquiry is of an
  applicant that was merged away.
-/

import OpenEstate.Presales.System
import OpenEstate.Relational.Forest

namespace OpenEstate.Presales

open Relational
open Function (update update_self update_of_ne)
open Relation (TransGen)

def PresalesDb.mergedInto (db : PresalesDb) (id : Nat) : Option Nat :=
  (db.applicants.find? id).bind (·.mergedIntoId)

/-- There is no circle, every chain ends at a live applicant of the company, and every inquiry is of
one. -/
structure PresalesDb.MergesForest (db : PresalesDb) : Prop where
  acyclic : ∀ id, ¬TransGen (Follows db.mergedInto) id id
  endsLive : ∀ id applicant, db.applicants.find? id = some applicant →
    ∃ root, Below db.mergedInto id root ∧ db.IsLive applicant.companyId root
  inquiriesLive : ∀ id inquiry, db.inquiries.find? id = some inquiry →
    db.IsLive inquiry.companyId inquiry.applicantId

structure MergesSound (db : PresalesDb) : Prop where
  forest : IsForest db.mergedInto
  owned : ∀ id applicant other, db.applicants.find? id = some applicant →
    applicant.mergedIntoId = some other →
      ∃ target, db.applicant? applicant.companyId other = some target
  inquiriesLive : db.inquiries.All fun inquiry => db.IsLive inquiry.companyId inquiry.applicantId

section Sound

variable {db after : PresalesDb} {companyId : Nat}
variable {id : Nat}

theorem mergedInto_of_live (live : db.IsLive companyId id) : db.mergedInto id = none := by
  obtain ⟨applicant, found, isLive⟩ := live
  rw [PresalesDb.mergedInto, (applicant?_eq_some.mp found).1]
  exact isLive

variable {applicant : Applicant}

theorem MergesSound.above (sound : MergesSound db) {root : Nat}
    (found : db.applicant? companyId id = some applicant) (below : Below db.mergedInto id root) :
    ∃ target, db.applicant? companyId root = some target := by
  induction below with
  | refl => exact ⟨applicant, found⟩
  | @tail middle next _ follows ih =>
    obtain ⟨between, isBetween⟩ := ih
    obtain ⟨exists_, own⟩ := applicant?_eq_some.mp isBetween
    have follows : db.mergedInto middle = some next := follows
    rw [PresalesDb.mergedInto, exists_] at follows
    obtain ⟨target, isTarget⟩ := sound.owned middle between next exists_ follows
    rw [own] at isTarget
    exact ⟨target, isTarget⟩

theorem live_of_root (found : db.applicant? companyId id = some applicant)
    (isRoot : db.mergedInto id = none) :
    db.IsLive companyId id := by
  refine ⟨applicant, found, ?_⟩
  rwa [PresalesDb.mergedInto, (applicant?_eq_some.mp found).1] at isRoot

theorem MergesSound.mergesForest (sound : MergesSound db) : db.MergesForest := by
  refine ⟨sound.forest.acyclic, fun id applicant found => ?_, sound.inquiriesLive⟩
  obtain ⟨root, below, isRoot⟩ := sound.forest id
  obtain ⟨target, isTarget⟩ := sound.above (applicant?_eq_some.mpr ⟨found, rfl⟩) below
  exact ⟨root, below, live_of_root isTarget isRoot⟩

/-! ### What keeps it -/

theorem MergesSound.congr (sound : MergesSound db) (same : after.applicants = db.applicants)
    (live : after.inquiries.All fun inquiry => db.IsLive inquiry.companyId inquiry.applicantId) :
    MergesSound after := by
  have sameMerges : after.mergedInto = db.mergedInto := by
    funext id
    rw [PresalesDb.mergedInto, same]
    rfl
  have sameFound : after.applicant? = db.applicant? := by
    funext company id
    rw [PresalesDb.applicant?, same]
    rfl
  constructor
  · rw [sameMerges]
    exact sound.forest
  · rw [same, sameFound]
    exact sound.owned
  · refine live.imp fun inquiry isLive => ?_
    rw [PresalesDb.IsLive, sameFound]
    exact isLive

variable {row : Applicant}

theorem applicant?_insertApplicant (found : db.applicant? companyId id = some applicant) :
    (db.insertApplicant row).applicant? companyId id = some applicant := by
  obtain ⟨exists_, own⟩ := applicant?_eq_some.mp found
  exact applicant?_eq_some.mpr ⟨Table.find?_create_old row exists_, own⟩

theorem mergedInto_insertApplicant (live : row.mergedIntoId = none) :
    (db.insertApplicant row).mergedInto = db.mergedInto := by
  funext id
  have created := Table.find?_create db.applicants row id
  show ((db.applicants.create row).find? id).bind _ = (db.applicants.find? id).bind _
  rw [created]
  split
  · rw [‹id = db.applicants.nextId›, Table.find?_nextId]
    exact live
  · rfl

theorem MergesSound.insertApplicant (sound : MergesSound db)
    (live : row.mergedIntoId = none) : MergesSound (db.insertApplicant row) := by
  constructor
  · rw [mergedInto_insertApplicant live]
    exact sound.forest
  · intro id applicant other found merged
    rcases Table.find?_create_eq_some.mp found with ⟨_, rfl⟩ | old
    · rw [live] at merged
      cases merged
    · obtain ⟨target, isTarget⟩ := sound.owned id applicant other old merged
      exact ⟨target, applicant?_insertApplicant isTarget⟩
  · refine sound.inquiriesLive.imp fun inquiry isLive => ?_
    obtain ⟨applicant, found, lives⟩ := isLive
    exact ⟨applicant, applicant?_insertApplicant found, lives⟩

theorem MergesSound.intake {requested : Option Nat} (sound : MergesSound db)
    (intake : Intake companyId requested db after) : MergesSound after := by
  induction intake with
  | start => exact sound
  | pools _ pools ih => exact ih.congr rfl ih.inquiriesLive
  | applicant _ own live ih => exact ih.insertApplicant live
  | opened _ opens changedById ih =>
    refine ih.congr rfl (Table.all_create.mpr ⟨ih.inquiriesLive, ?_⟩)
    rw [opens.company]
    exact opens.live
  | assigned _ row ih => exact ih.congr rfl (ih.inquiriesLive.modify fun _ _ isLive => isLive)

section Merge

variable {survivorId mergedId : Nat} {actorId : Option Nat}

theorem mergedInto_merge (merged : db.IsLive companyId mergedId) :
    (db.merge companyId survivorId mergedId actorId).mergedInto =
      update db.mergedInto mergedId (some survivorId) := by
  obtain ⟨applicant, found, _⟩ := merged
  funext id
  show ((db.applicants.modify mergedId _).find? id).bind _ = _
  by_cases same : id = mergedId
  · subst same
    rw [Table.find?_modify_self, (applicant?_eq_some.mp found).1, update_self]
    rfl
  · rw [Table.find?_modify_of_ne _ _ same, update_of_ne same]
    rfl

theorem applicant?_merge {company id : Nat} {applicant : Applicant}
    (found : db.applicant? company id = some applicant) :
    ∃ later, (db.merge companyId survivorId mergedId actorId).applicant? company id = some later ∧
      (id ≠ mergedId → later = applicant) := by
  obtain ⟨exists_, own⟩ := applicant?_eq_some.mp found
  by_cases same : id = mergedId
  · subst same
    refine ⟨{ applicant with mergedIntoId := some survivorId },
      applicant?_eq_some.mpr ⟨?_, own⟩, fun apart => absurd rfl apart⟩
    exact (Table.find?_modify_self ..).trans (congrArg (Option.map _) exists_)
  · exact ⟨applicant, applicant?_eq_some.mpr
      ⟨(Table.find?_modify_of_ne _ _ same).trans exists_, own⟩, fun _ => rfl⟩

theorem live_merge {company id : Nat} (live : db.IsLive company id) (apart : id ≠ mergedId) :
    (db.merge companyId survivorId mergedId actorId).IsLive company id := by
  obtain ⟨applicant, found, isLive⟩ := live
  have stays : ∃ later,
      (db.merge companyId survivorId mergedId actorId).applicant? company id = some later ∧
        (id ≠ mergedId → later = applicant) := applicant?_merge found
  obtain ⟨later, isLater, same⟩ := stays
  obtain rfl := same apart
  exact ⟨later, isLater, isLive⟩

theorem MergesSound.merge (sound : MergesSound db) (different : survivorId ≠ mergedId)
    (survivor : db.IsLive companyId survivorId) (merged : db.IsLive companyId mergedId) :
    MergesSound (db.merge companyId survivorId mergedId actorId) := by
  constructor
  · rw [mergedInto_merge merged]
    exact sound.forest.link (mergedInto_of_live merged) (mergedInto_of_live survivor) different
  · intro id applicant other found into
    rcases Table.find?_modify_eq_some.mp found with ⟨rfl, was, isWas, rfl⟩ | ⟨_, old⟩
    · cases into
      obtain ⟨applicant, exists_, _⟩ := merged
      obtain ⟨isApplicant, own⟩ := applicant?_eq_some.mp exists_
      obtain rfl := Option.some.inj (isApplicant.symm.trans isWas)
      obtain ⟨target, isTarget, _⟩ := survivor
      obtain ⟨later, isLater, _⟩ := applicant?_merge isTarget
      exact ⟨later, by rw [own]; exact isLater⟩
    · obtain ⟨target, isTarget⟩ := sound.owned id applicant other old into
      obtain ⟨later, isLater, _⟩ := applicant?_merge isTarget
      exact ⟨later, isLater⟩
  · intro id inquiry found
    have found : (db.inquiries.modifyAll _ _).find? id = some inquiry := found
    rw [Table.find?_modifyAll, Option.map_eq_some_iff] at found
    obtain ⟨was, isWas, same⟩ := found
    have wasLive := sound.inquiriesLive id was isWas
    split at same
    · rename_i goes
      rw [Bool.and_eq_true, beq_iff_eq, beq_iff_eq] at goes
      subst same
      show (db.merge companyId survivorId mergedId actorId).IsLive was.companyId survivorId
      rw [goes.2]
      exact live_merge survivor different
    · rename_i stays
      subst same
      refine live_merge wasLive fun ofMerged => stays ?_
      obtain ⟨applicant, isApplicant, _⟩ := merged
      obtain ⟨other, isOther, _⟩ := wasLive
      rw [ofMerged] at isOther
      obtain ⟨first, own⟩ := applicant?_eq_some.mp isApplicant
      obtain ⟨second, ofInquiry⟩ := applicant?_eq_some.mp isOther
      obtain rfl := Option.some.inj (first.symm.trans second)
      simp [ofMerged, ← ofInquiry, own]

end Merge

/-! ### Operations -/

theorem MergesSound.reassigned {stageId actorId : Nat} {asked : Option Nat} (sound : MergesSound db)
    (reassigned : Reassigned db companyId stageId asked actorId after) : MergesSound after := by
  cases reassigned with
  | nobody none => exact sound
  | moved some_ given other found =>
    exact sound.congr rfl (sound.inquiriesLive.modifyAll fun _ _ _ _ isLive => isLive)

theorem MergesSound.effect {op : PresalesOp} (sound : MergesSound db)
    (effect : Effect db companyId op after) : MergesSound after := by
  cases effect with
  | takenIn takesIn intake => exact sound.intake intake
  | created found opens rest => exact sound.intake ((found.opened opens _).trans rest)
  | updated found own staged now =>
    exact sound.congr rfl (sound.inquiriesLive.modify fun _ _ isLive => isLive)
  | attached found of_ from_ to_ bookings now =>
    unfold PresalesDb.convert
    split
    · exact sound.congr rfl sound.inquiriesLive
    · exact sound.congr rfl (sound.inquiriesLive.modify fun _ _ isLive => isLive)
  | @followed _ dto _ _ inquiry found followUp =>
    cases dto.nextActionAt with
    | none => exact sound.congr rfl sound.inquiriesLive
    | some at_ => exact sound.congr rfl (sound.inquiriesLive.modify fun _ _ isLive => isLive)
  | stageCreated dto =>
    split
    · exact sound.congr rfl sound.inquiriesLive
    · exact sound.congr rfl sound.inquiriesLive
  | @stageUpdated _ _ dto existing moved found allowed moves =>
    have movedSound : MergesSound moved := by
      split at moves
      · exact sound.reassigned moves
      · rwa [moves]
    split
    · exact movedSound.congr rfl movedSound.inquiriesLive
    · exact movedSound.congr rfl movedSound.inquiriesLive
  | merged different survivor merged => exact sound.merge different survivor merged
  | sent live own to_ => exact sound.congr rfl sound.inquiriesLive

end Sound

/-! ### Runs -/

theorem PresalesDb.IsNew.mergesSound {start : PresalesDb} (isNew : start.IsNew) :
    MergesSound start := by
  constructor
  · intro id
    refine ⟨id, .refl, ?_⟩
    rw [PresalesDb.mergedInto, isNew.applicants]
    rfl
  · rw [isNew.applicants]
    exact nofun
  · rw [isNew.inquiries]
    exact .empty

theorem mergesSound_of_reachable {toLowerCase : String → String} {start db : PresalesDb}
    (isNew : start.IsNew) (reachable : Reachable (execPresales toLowerCase) start db) :
    MergesSound db :=
  reachable.invariant isNew.mergesSound fun _ _ _ sound accepted =>
    sound.effect (effect_of_exec accepted)

/-- **Merges form a forest and inquiries follow**, after any run. -/
theorem merges_forest (toLowerCase : String → String) {start : PresalesDb} (isNew : start.IsNew)
    (requests : List PresalesRequest) :
    ∀ db ∈ states (execPresales toLowerCase) start requests, db.MergesForest :=
  fun _ member => (mergesSound_of_reachable isNew (mem_states member)).mergesForest

/-- Three applicants, the first with an inquiry; the first is merged into the second, and that one
into the third. -/
def mergedTwice : List PresalesRequest :=
  [{ companyId := 1, op := .createFromLead { name := "Asha", phone := "9800000001" } },
    { companyId := 1, op := .createApplicant { name := "A. Rao", primaryPhone := "9800000002" } },
    { companyId := 1, op := .createApplicant { name := "Asha Rao", primaryPhone := "9800000003" } },
    { companyId := 1, op := .merge 1 0 (some 2) },
    { companyId := 1, op := .merge 2 1 (some 2) }]

theorem merged_twice_live :
    ∃ inquiry, (run (execPresales id) {} mergedTwice).inquiries.find? 0 = some inquiry ∧
      (run (execPresales id) {} mergedTwice).IsLive inquiry.companyId inquiry.applicantId :=
  ⟨_, rfl, (merges_forest id PresalesDb.isNew_empty mergedTwice _
    (run_mem_states _ _)).inquiriesLive 0 _ rfl⟩

end OpenEstate.Presales
